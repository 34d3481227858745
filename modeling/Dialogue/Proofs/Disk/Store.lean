import Dialogue.Disk.Store
import Dialogue.Proofs.Disk.Files
import Dialogue.Proofs.Json.RoundTrip
set_option autoImplicit false

/-!
# The store as a key-value map

A store that begins without a file holds, after any number of variables have been stored, an object
with the text that was stored last under each name.  `Represents` is the invariant, kept by making
the directory of the file and by storing; `Holds` is what can be seen of it.
-/

namespace Dialogue

/-- The directory of the path can be made, and then a file be written at the path. -/
def Disk.Creatable (d : Disk) (p : Path) : Prop :=
  ∃ d' d'', d.makeDirectory p.parent = .ok d' ∧ d'.write p [] = .ok d''

theorem Disk.Writable.creatable {d : Disk} {p : Path} (h : d.Writable p) : d.Creatable p :=
  ⟨d, _, h.makeDirectory, h.write []⟩

namespace Store

/-! ## Files that hold an object -/

section file

variable {d : Disk} {p : Path} {members : List (Text × Json)}

theorem read_of_find (hnull : p.hasNull = false)
    (hall : ∀ member ∈ members, ∀ level, '\r' ∉ member.2.indentedAt level)
    (hfind : d.find p = .ok (.file (.text (Json.object members).indented))) :
    d.read p = .ok (Json.object members).indented := by
  rw [Disk.read_eq_ok hnull hfind, Json.unifyNewlines_indented hall]

theorem indented_object_ne_nil (members : List (Text × Json)) :
    (Json.object members).indented ≠ [] := by
  cases members with
  | nil => decide
  | cons member rest =>
    rw [Json.indented_object (List.cons_ne_nil member rest)]
    exact List.cons_ne_nil _ _

/-- The object that was written is the value of the file. -/
theorem value?_of_find (hnull : p.hasNull = false) (hnames : (Assoc.keys members).Nodup)
    (hall : ∀ member ∈ members, Json.Restores member.2)
    (hfind : d.find p = .ok (.file (.text (Json.object members).indented))) :
    value? d p = some (Json.object members) := by
  rw [value?, read_of_find hnull (fun member hmember => (hall member hmember).plain) hfind]
  split
  · next h => cases h
  · next h => exact absurd (Except.ok.inj h) (indented_object_ne_nil members)
  · next h =>
    rw [← Except.ok.inj h, Json.read_indented hnames hall]
    rfl

/-- Storing writes the file or nothing. -/
theorem disk_save (d : Disk) (p : Path) (var t : Text) :
    (save d p var t).1 = d ∨ ∃ content, d.write p content = .ok (save d p var t).1 := by
  unfold save write
  cases (base d p).put? var (.text t) with
  | none => exact .inl rfl
  | some v =>
    dsimp only
    cases hwrite : d.write p (if v.isEncodable then v.indented else []) with
    | error f => exact .inl rfl
    | ok d' => exact .inr ⟨_, hwrite⟩

/-- What can be encoded is stored as it is written. -/
theorem save_of_encodable {v : Json} (hw : d.Writable p) {var t : Text}
    (hput : (base d p).put? var (.text t) = some v) (hv : v.isEncodable = true) :
    save d p var t =
      (Assoc.put (Disk.key (Disk.placeOf p)) (.file (.text v.indented)) d, none) := by
  rw [save, hput]
  simp only [write, hv, if_true, hw.write]
  rfl

end file

/-! ## Everything that was stored -/

/-- The text stored last under a name. -/
def latest? (saves : Assoc Text) (var : Text) : Option Text := Assoc.get? var saves.reverse

/-- The members of the object after storing. -/
def membersOf (saves : Assoc Text) : Assoc Json :=
  Assoc.putAll (saves.map fun save => (save.1, Json.text save.2)) []

theorem membersOf_concat (saves : Assoc Text) (var t : Text) :
    membersOf (saves ++ [(var, t)]) = Assoc.put var (.text t) (membersOf saves) := by
  rw [membersOf, List.map_append]
  exact Assoc.putAll_concat _ var (Json.text t) []

theorem keys_membersOf (saves : Assoc Text) :
    Assoc.keys (membersOf saves) = (Assoc.keys saves).eraseDups := by
  rw [membersOf, Assoc.keys_putAll_nil, Assoc.keys_map]

theorem get?_membersOf (saves : Assoc Text) (var : Text) :
    Assoc.get? var (membersOf saves) = (latest? saves var).map Json.text := by
  rw [membersOf, Assoc.get?_putAll, ← List.map_reverse, Assoc.get?_map, Assoc.get?_nil,
    Option.or_none, latest?]

theorem nodup_membersOf (saves : Assoc Text) : (Assoc.keys (membersOf saves)).Nodup :=
  Assoc.nodup_keys_putAll _ List.nodup_nil

theorem restores_membersOf (saves : Assoc Text) :
    ∀ member ∈ membersOf saves, Json.Restores member.2 := by
  induction saves using List.reverseRecOn with
  | nil => exact List.forall_mem_nil _
  | append_singleton saves save ih =>
    rw [membersOf_concat]
    exact Assoc.forall_mem_put ih (Json.restores_text save.2)

theorem isEncodable_membersOf (saves : Assoc Text) :
    (Json.object (membersOf saves)).isEncodable = true := by
  rw [Json.isEncodable_object]
  induction saves using List.reverseRecOn with
  | nil => exact List.forall_mem_nil _
  | append_singleton saves save ih =>
    rw [membersOf_concat]
    exact Assoc.forall_mem_put (P := fun v : Json => v.isEncodable = true) ih rfl

theorem notMem_membersOf (saves : Assoc Text) :
    ∀ member ∈ membersOf saves, ∀ level, '\r' ∉ member.2.indentedAt level :=
  fun member hmember => (restores_membersOf saves member hmember).plain

/-- The file at a path is as the stored variables make it, and further ones can be stored. -/
structure Represents (p : Path) (saves : Assoc Text) (d : Disk) : Prop where
  absent : saves = [] → d.node? (Disk.placeOf p) = none ∧ d.Creatable p
  present : saves ≠ [] → d.Writable p ∧
    d.node? (Disk.placeOf p) = some (.file (.text (Json.object (membersOf saves)).indented))

/-- What can be seen of a file in which variables were stored: without any there is none, and
otherwise it holds an object with one member a name, in the order in which the names were first
used, each with the text that was stored last. -/
structure Holds (p : Path) (saves : Assoc Text) (d : Disk) : Prop where
  has_iff : d.has p = true ↔ saves ≠ []
  decodes : saves ≠ [] → ∃ t members, d.read p = .ok t ∧ Json.read t = .ok (.object members) ∧
    Assoc.keys members = (Assoc.keys saves).eraseDups ∧
    ∀ var, Assoc.get? var members = (latest? saves var).map Json.text

namespace Represents

variable {p : Path} {saves : Assoc Text} {d : Disk}

theorem of_writable (hw : d.Writable p)
    (h : saves = [] → d.node? (Disk.placeOf p) = none)
    (h' : saves ≠ [] →
      d.node? (Disk.placeOf p) = some (.file (.text (Json.object (membersOf saves)).indented))) :
    Represents p saves d :=
  ⟨fun hnil => ⟨h hnil, hw.creatable⟩, fun hne => ⟨hw, h' hne⟩⟩

theorem find (h : Represents p saves d) (hne : saves ≠ []) :
    d.find p = .ok (.file (.text (Json.object (membersOf saves)).indented)) :=
  (h.present hne).1.find (h.present hne).2

theorem holds (h : Represents p saves d) : Holds p saves d where
  has_iff := by
    by_cases hnil : saves = []
    · simp [Disk.has_eq_false (h.absent hnil).1, hnil]
    · simp [Disk.has_eq_true (h.present hnil).1.noNull (h.find hnil), hnil]
  decodes hne := by
    refine ⟨(Json.object (membersOf saves)).indented, membersOf saves, ?_, ?_,
      keys_membersOf saves, get?_membersOf saves⟩
    · exact read_of_find (h.present hne).1.noNull (notMem_membersOf saves) (h.find hne)
    · exact Json.read_indented (nodup_membersOf saves) (restores_membersOf saves)

/-- Reading a variable gives the text that was stored last. -/
theorem load? (h : Represents p saves d) (var : Text) :
    Store.load? d p var = latest? saves var := by
  by_cases hnil : saves = []
  · rw [Store.load?, Disk.has_eq_false (h.absent hnil).1, hnil]
    rfl
  · have hread := read_of_find (h.present hnil).1.noNull (notMem_membersOf saves) (h.find hnil)
    have hjson := Json.read_indented (nodup_membersOf saves) (restores_membersOf saves)
    rw [Store.load?, h.holds.has_iff.2 hnil, hread]
    simp only [if_true, Except.toOption, hjson, Option.bind_eq_bind, Option.bind_some,
      Json.member?, get?_membersOf]
    cases latest? saves var <;> rfl

/-- The directory of the file can be made, and the file is as it was. -/
theorem makeDirectory (h : Represents p saves d) :
    ∃ d', d.makeDirectory p.parent = .ok d' ∧ d'.Writable p ∧ Represents p saves d' := by
  by_cases hnil : saves = []
  · obtain ⟨hnone, d', d'', hmake, hwrite⟩ := h.absent hnil
    have hw := (Disk.write_eq_ok_iff.1 hwrite).1
    refine ⟨d', hmake, hw, of_writable hw (fun _ => ?_) fun hne => absurd hnil hne⟩
    rcases Disk.grows_makeDirectory hmake (Disk.placeOf p) with hsame | ⟨-, hdir⟩
    · rw [hsame, hnone]
    · have hnot := hw.notDirectory
      rw [Disk.isDirectory_iff.2 hdir] at hnot
      cases hnot
  · exact ⟨d, (h.present hnil).1.makeDirectory, (h.present hnil).1, h⟩

theorem base (h : Represents p saves d) : Store.base d p = .object (membersOf saves) := by
  by_cases hnil : saves = []
  · rw [Store.base, Disk.has_eq_false (h.absent hnil).1, hnil]
    rfl
  · rw [Store.base, h.holds.has_iff.2 hnil, value?_of_find (h.present hnil).1.noNull
      (nodup_membersOf saves) (restores_membersOf saves) (h.find hnil)]
    rfl

/-- A variable is stored. -/
theorem save (h : Represents p saves d) (hw : d.Writable p) (var t : Text) :
    ∃ d', Store.save d p var t = (d', none) ∧ Represents p (saves ++ [(var, t)]) d' := by
  refine ⟨_, ?_, of_writable (hw.put _) (fun hnil => ?_) fun _ => hw.node?_put _⟩
  · have hput : (Store.base d p).put? var (.text t) =
        some (.object (membersOf (saves ++ [(var, t)]))) := by
      rw [h.base, membersOf_concat]
      rfl
    exact save_of_encodable hw hput (isEncodable_membersOf _)
  · cases (List.append_ne_nil_of_right_ne_nil saves (List.cons_ne_nil _ _)) hnil

end Represents

end Store
end Dialogue
