import Dialogue.Disk.Basic
import Dialogue.Proofs.Except
set_option autoImplicit false

/-!
# Lookup and update of files

What a written file holds afterwards, and what writing and making directories leave alone.
Directories and files are only ever added: what could be reached can be reached (`Extends`).
-/

namespace Dialogue.Disk

/-! ## Walking -/

/-- The place that a name leads to from a place. -/
def onward (place : Place) (name : Text) : Place :=
  if name = above then up place else place ++ [name]

theorem placeOf_eq_foldl (p : Path) : placeOf p = p.parts.foldl onward [] := rfl

section walk

variable {d : Disk} {place last : Place}

theorem walk_cons_eq_ok_iff {name : Text} {names : List Text} :
    d.walk place (name :: names) = .ok last ↔
      d.isDirectory place = true ∧ (name = above ∨ (d.node? (place ++ [name])).isSome = true) ∧
        d.walk (onward place name) names = .ok last := by
  rw [walk, onward]
  cases d.isDirectory place with
  | false => simp
  | true =>
    by_cases hname : name = above
    · simp [hname]
    · cases (d.node? (place ++ [name])).isSome <;> simp [hname]

/-- A path that leads somewhere leads to its place. -/
theorem eq_foldl_of_walk {names : List Text} (h : d.walk place names = .ok last) :
    last = names.foldl onward place := by
  induction names generalizing place with
  | nil => exact (Except.ok.inj h).symm
  | cons name names ih =>
    obtain ⟨-, -, hrest⟩ := walk_cons_eq_ok_iff.1 h
    exact ih hrest

theorem walk_concat_eq_ok_iff {names : List Text} {name : Text} :
    d.walk place (names ++ [name]) = .ok last ↔
      ∃ mid, d.walk place names = .ok mid ∧ d.isDirectory mid = true ∧
        (name = above ∨ (d.node? (mid ++ [name])).isSome = true) ∧ onward mid name = last := by
  induction names generalizing place with
  | nil =>
    rw [List.nil_append, walk_cons_eq_ok_iff]
    simp [walk]
  | cons first names ih =>
    rw [List.cons_append, walk_cons_eq_ok_iff, ih]
    simp only [walk_cons_eq_ok_iff]
    constructor
    · rintro ⟨hdir, hfirst, mid, hmid, hrest⟩
      exact ⟨mid, ⟨hdir, hfirst, hmid⟩, hrest⟩
    · rintro ⟨mid, ⟨hdir, hfirst, hmid⟩, hrest⟩
      exact ⟨hdir, hfirst, mid, hmid, hrest⟩

end walk

theorem find_eq_ok_iff {d : Disk} {p : Path} {n : Node} :
    d.find p = .ok n ↔ d.walk [] p.parts = .ok (placeOf p) ∧ d.node? (placeOf p) = some n := by
  rw [find, bind_eq_ok_iff]
  constructor
  · rintro ⟨place, hwalk, hnode⟩
    obtain rfl : place = placeOf p := eq_foldl_of_walk hwalk
    refine ⟨hwalk, ?_⟩
    split at hnode
    · next node heq => rw [heq, Except.ok.inj hnode]
    · cases hnode
  · rintro ⟨hwalk, hnode⟩
    refine ⟨_, hwalk, ?_⟩
    rw [hnode]
    rfl

/-- Nothing is found at a path whose place is free. -/
theorem has_eq_false {d : Disk} {p : Path} (h : d.node? (placeOf p) = none) : d.has p = false := by
  rw [has]
  cases hfind : d.find p with
  | error a => simp [Except.isOk, Except.toBool]
  | ok n =>
    rw [(find_eq_ok_iff.1 hfind).2] at h
    cases h

theorem has_eq_true {d : Disk} {p : Path} {n : Node} (hnull : p.hasNull = false)
    (h : d.find p = .ok n) : d.has p = true := by
  rw [has, hnull, h]
  rfl

theorem read_eq_ok {d : Disk} {p : Path} {t : Text} (hnull : p.hasNull = false)
    (h : d.find p = .ok (.file (.text t))) : d.read p = .ok (Text.unifyNewlines t) := by
  rw [read, hnull, h]
  rfl

/-! ## Disks that extend each other -/

theorem isDirectory_iff {d : Disk} {place : Place} :
    d.isDirectory place = true ↔ d.node? place = some .directory := by
  rw [isDirectory, decide_eq_true_iff]

theorem node?_put (d : Disk) (place other : Place) (n : Node) :
    node? (Assoc.put (key place) n d) other =
      if isGiven other then some .directory
      else if key other = key place then some n else d.node? other := by
  unfold node?
  split
  · rfl
  · split
    · next h => rw [h, Assoc.get?_put_self]
    · next h => rw [Assoc.get?_put_of_ne h]

/-- What there is stays, and directories stay directories. -/
structure Extends (d d' : Disk) : Prop where
  directory : ∀ place, d.node? place = some .directory → d'.node? place = some .directory
  isSome : ∀ place, (d.node? place).isSome = true → (d'.node? place).isSome = true

namespace Extends

variable {d d' d'' : Disk}

theorem refl (d : Disk) : Extends d d := ⟨fun _ => id, fun _ => id⟩

theorem trans (h : Extends d d') (h' : Extends d' d'') : Extends d d'' where
  directory place := h'.directory place ∘ h.directory place
  isSome place := h'.isSome place ∘ h.isSome place

/-- What names lead to, they lead to in every disk that extends this one. -/
theorem walk (h : Extends d d') {place last : Place} {names : List Text}
    (hwalk : d.walk place names = .ok last) : d'.walk place names = .ok last := by
  induction names generalizing place with
  | nil => exact hwalk
  | cons name names ih =>
    obtain ⟨hdir, hname, hrest⟩ := walk_cons_eq_ok_iff.1 hwalk
    refine walk_cons_eq_ok_iff.2 ⟨?_, hname.imp id (h.isSome _), ih hrest⟩
    exact isDirectory_iff.2 (h.directory _ (isDirectory_iff.1 hdir))

end Extends

/-! ## Making directories -/

/-- Nothing is changed but that directories are made where there was nothing. -/
def Grows (d d' : Disk) : Prop :=
  ∀ place, d'.node? place = d.node? place ∨
    d.node? place = none ∧ d'.node? place = some .directory

namespace Grows

variable {d d' d'' : Disk}

theorem refl (d : Disk) : Grows d d := fun _ => .inl rfl

theorem trans (h : Grows d d') (h' : Grows d' d'') : Grows d d'' := by
  intro place
  rcases h' place with h' | ⟨hnone, hdir⟩
  · rw [h']
    exact h place
  · rcases h place with h | ⟨-, h⟩
    · exact .inr ⟨h ▸ hnone, hdir⟩
    · rw [hnone] at h
      cases h

theorem toExtends (h : Grows d d') : Extends d d' where
  directory place hdir := by
    rcases h place with h | ⟨-, h⟩
    · rw [h, hdir]
    · exact h
  isSome place hsome := by
    rcases h place with h | ⟨-, h⟩
    · rw [h, hsome]
    · rw [h]
      rfl

/-- Files are neither made nor lost. -/
theorem file_iff (h : Grows d d') (place : Place) (c : Content) :
    d'.node? place = some (.file c) ↔ d.node? place = some (.file c) := by
  rcases h place with h | ⟨hnone, hdir⟩
  · rw [h]
  · simp [hnone, hdir]

end Grows

theorem grows_put {d : Disk} {place : Place} (h : d.node? place = none) :
    Grows d (Assoc.put (key place) .directory d) := by
  intro other
  rw [node?_put]
  unfold node? at h ⊢
  split
  · exact .inl rfl
  · split
    · next hkey =>
      split at h
      · cases h
      · exact .inr ⟨by rw [hkey, h], rfl⟩
    · exact .inl rfl

theorem grows_makeOne {d d' : Disk} {p : Path} (h : d.makeOne p = .ok d') : Grows d d' := by
  unfold makeOne at h
  split at h
  · cases h
  · cases h
    exact .refl d
  · split at h
    · next hnone =>
      cases h
      exact grows_put hnone
    · cases h
      exact .refl d
    · cases h

theorem grows_makeUpTo {n : Nat} {d d' : Disk} {p : Path} (h : makeUpTo n d p = .ok d') :
    Grows d d' := by
  induction n generalizing d d' p with
  | zero => exact grows_makeOne h
  | succ n ih =>
    rw [makeUpTo] at h
    split at h
    · obtain ⟨between, habove, hone⟩ := bind_eq_ok_iff.1 h
      exact (ih habove).trans (grows_makeOne hone)
    · exact grows_makeOne h

theorem grows_makeDirectory {d d' : Disk} {p : Path} (h : d.makeDirectory p = .ok d') :
    Grows d d' := by
  unfold makeDirectory at h
  split at h
  · cases h
  · exact grows_makeUpTo h

theorem makeUpTo_of_makeOne {d d' : Disk} {p : Path} (n : Nat) (h : d.makeOne p = .ok d') :
    makeUpTo n d p = .ok d' := by
  cases n with
  | zero => exact h
  | succ n => rw [makeUpTo, h]

/-- A directory that exists is not made again. -/
theorem makeDirectory_eq_self {d : Disk} {p : Path} {place : Place} (hnull : p.hasNull = false)
    (hwalk : d.walk [] p.parts = .ok place) (hdir : d.isDirectory place = true) :
    d.makeDirectory p = .ok d := by
  rw [makeDirectory, hnull]
  refine makeUpTo_of_makeOne _ ?_
  rw [makeOne, target]
  rcases List.eq_nil_or_concat p.parts with hnil | ⟨names, name, hparts⟩
  · rw [hnil]
    rfl
  · rw [hparts, List.concat_eq_append] at hwalk ⊢
    obtain ⟨mid, hmid, hmiddir, -, hlast⟩ := walk_concat_eq_ok_iff.1 hwalk
    simp only [List.getLast?_append, List.getLast?_singleton, Option.some_or, List.dropLast_concat,
      hmid, hmiddir, Bool.not_true, Bool.false_eq_true, if_false]
    by_cases hname : name = above ∨ Path.isRoot name = true
    · simp [hname]
    · rw [onward, if_neg fun h => hname (.inl h)] at hlast
      subst hlast
      simp only [Bool.or_eq_true, decide_eq_true_iff, if_neg hname, isDirectory_iff.1 hdir]

/-! ## Writing -/

/-- A text can be written at the path. -/
structure Writable (d : Disk) (p : Path) : Prop where
  noNull : p.hasNull = false
  target : d.target p = .ok (some (placeOf p))
  notDirectory : d.isDirectory (placeOf p) = false

section target

variable {d : Disk} {p : Path} {place : Place}

/-- The place to write at is that of a name in a directory that exists. -/
theorem target_eq_some_iff :
    d.target p = .ok (some place) ↔
      ∃ names name holder, p.parts = names ++ [name] ∧ name ≠ above ∧ Path.isRoot name = false ∧
        d.walk [] names = .ok holder ∧ d.isDirectory holder = true ∧ place = holder ++ [name] := by
  rw [target]
  rcases List.eq_nil_or_concat p.parts with hnil | ⟨names, name, hparts⟩
  · simp [hnil]
  · rw [hparts, List.concat_eq_append]
    simp only [List.getLast?_append, List.getLast?_singleton, Option.some_or, List.dropLast_concat]
    constructor
    · intro h
      split at h
      · cases h
      · next holder hwalk =>
        split at h
        · cases h
        · next hdir =>
          split at h
          · cases h
          · next hname =>
            simp only [Bool.or_eq_true, decide_eq_true_iff, not_or, Bool.not_eq_true] at hname
            refine ⟨names, name, holder, rfl, hname.1, hname.2, hwalk, by simpa using hdir, ?_⟩
            exact (Option.some.inj (Except.ok.inj h)).symm
    · rintro ⟨names', name', holder, heq, habove, hroot, hwalk, hdir, rfl⟩
      obtain ⟨rfl, h⟩ := List.append_inj' heq rfl
      obtain rfl := List.singleton_inj.1 h
      simp [hwalk, hdir, habove, hroot]

theorem eq_placeOf_of_target (h : d.target p = .ok (some place)) : place = placeOf p := by
  obtain ⟨names, name, holder, hparts, habove, -, hwalk, -, rfl⟩ := target_eq_some_iff.1 h
  rw [placeOf_eq_foldl, hparts, List.foldl_append, ← eq_foldl_of_walk hwalk, List.foldl_cons,
    List.foldl_nil, onward, if_neg habove]

end target

/-- Writing succeeds exactly where a file can be written, whatever the text, and changes only the
place of the path. -/
theorem write_eq_ok_iff {d d' : Disk} {p : Path} {t : Text} :
    d.write p t = .ok d' ↔
      d.Writable p ∧ d' = Assoc.put (key (placeOf p)) (.file (.text t)) d := by
  rw [write]
  constructor
  · intro h
    split at h
    · cases h
    · next hnull =>
      split at h
      · cases h
      · cases h
      · next place htarget =>
        obtain rfl := eq_placeOf_of_target htarget
        split at h
        · cases h
        · next hdir =>
          exact ⟨⟨by simpa using hnull, htarget, by simpa using hdir⟩, (Except.ok.inj h).symm⟩
  · rintro ⟨hw, rfl⟩
    simp [hw.noNull, hw.target, hw.notDirectory]

theorem Writable.write {d : Disk} {p : Path} (h : d.Writable p) (t : Text) :
    d.write p t = .ok (Assoc.put (key (placeOf p)) (.file (.text t)) d) :=
  write_eq_ok_iff.2 ⟨h, rfl⟩

namespace Writable

variable {d : Disk} {p : Path}

theorem not_given (h : d.Writable p) : isGiven (placeOf p) = false := by
  cases hgiven : isGiven (placeOf p) with
  | false => rfl
  | true =>
    have hdir := h.notDirectory
    rw [isDirectory, node?, if_pos hgiven] at hdir
    cases hdir

/-- What stands at the place of a path that can be written is found there. -/
theorem find (h : d.Writable p) {n : Node} (hnode : d.node? (placeOf p) = some n) :
    d.find p = .ok n := by
  obtain ⟨names, name, holder, hparts, habove, -, hwalk, hdir, hplace⟩ :=
    target_eq_some_iff.1 h.target
  refine find_eq_ok_iff.2 ⟨?_, hnode⟩
  rw [hparts]
  refine walk_concat_eq_ok_iff.2 ⟨holder, hwalk, hdir, .inr ?_, ?_⟩
  · rw [← hplace, hnode]
    rfl
  · rw [onward, if_neg habove, hplace]

/-- The directory of a path that can be written exists already. -/
theorem makeDirectory (h : d.Writable p) : d.makeDirectory p.parent = .ok d := by
  obtain ⟨names, name, holder, hparts, -, hroot, hwalk, hdir, -⟩ := target_eq_some_iff.1 h.target
  have hparent : p.parent = ⟨names⟩ := by
    rw [Path.parent, hparts]
    cases names with
    | nil => simp [hroot]
    | cons first rest =>
      have hinit : (first :: rest ++ [name]).dropLast = first :: rest := List.dropLast_concat
      cases rest <;> exact congrArg Path.mk hinit
  have hnull : Path.hasNull ⟨names⟩ = false := by
    have hall := h.noNull
    rw [Path.hasNull, hparts, List.any_append, Bool.or_eq_false_iff] at hall
    exact hall.1
  rw [hparent]
  exact makeDirectory_eq_self hnull hwalk hdir

theorem node?_put (h : d.Writable p) (n : Node) :
    node? (Assoc.put (key (placeOf p)) n d) (placeOf p) = some n := by
  rw [Disk.node?_put, if_neg (by simp [h.not_given]), if_pos rfl]

/-- Writing takes the place of no directory. -/
theorem extends_put (h : d.Writable p) (c : Content) :
    Extends d (Assoc.put (key (placeOf p)) (.file c) d) where
  directory place hdir := by
    rw [Disk.node?_put]
    split
    · rfl
    · next hgiven =>
      split
      · next hkey =>
        -- The directory would stand at the place of the file.
        have hsame : d.node? (placeOf p) = d.node? place := by
          rw [node?, node?, if_neg hgiven, if_neg (by simp [h.not_given]), hkey]
        have hnot := h.notDirectory
        rw [isDirectory, hsame, hdir] at hnot
        cases hnot
      · exact hdir
  isSome place hsome := by
    rw [Disk.node?_put]
    split
    · rfl
    · split
      · rfl
      · exact hsome

/-- A path that was written can be written again. -/
theorem put (h : d.Writable p) (c : Content) :
    Writable (Assoc.put (key (placeOf p)) (.file c) d) p where
  noNull := h.noNull
  target := by
    obtain ⟨names, name, holder, hparts, habove, hroot, hwalk, hdir, hplace⟩ :=
      target_eq_some_iff.1 h.target
    refine target_eq_some_iff.2 ⟨names, name, holder, hparts, habove, hroot, ?_, ?_, hplace⟩
    · exact (h.extends_put c).walk hwalk
    · exact isDirectory_iff.2 ((h.extends_put c).directory _ (isDirectory_iff.1 hdir))
  notDirectory := by
    rw [isDirectory, h.node?_put]
    rfl

end Writable

/-- A file that was written is there, with the text that was written. -/
theorem find_of_write {d d' : Disk} {p : Path} {t : Text} (h : d.write p t = .ok d') :
    d'.find p = .ok (.file (.text t)) := by
  obtain ⟨hw, rfl⟩ := write_eq_ok_iff.1 h
  exact (hw.put (.text t)).find (hw.node?_put _)

/-! ## Files that are left alone -/

/-- The content of the file at a place, if there is one. -/
def content? (d : Disk) (place : Place) : Option Content :=
  match d.node? place with
  | some (.file c) => some c
  | _ => none

theorem content?_eq_some_iff {d : Disk} {place : Place} {c : Content} :
    d.content? place = some c ↔ d.node? place = some (.file c) := by
  unfold content?
  split
  · next heq => simp [heq]
  · next hnot => exact iff_of_false (Option.some_ne_none c).symm (hnot c)

/-- The file at the path is as it was, and what could be reached can be reached. -/
structure Preserves (p : Path) (d d' : Disk) : Prop where
  reaches : Extends d d'
  content : d'.content? (placeOf p) = d.content? (placeOf p)

namespace Preserves

variable {p : Path} {d d' d'' : Disk}

theorem refl (p : Path) (d : Disk) : Preserves p d d := ⟨.refl d, rfl⟩

theorem trans (h : Preserves p d d') (h' : Preserves p d' d'') : Preserves p d d'' :=
  ⟨h.reaches.trans h'.reaches, h'.content.trans h.content⟩

theorem of_grows (h : Grows d d') : Preserves p d d' where
  reaches := h.toExtends
  content := by
    refine Option.ext fun c => ?_
    rw [content?_eq_some_iff, content?_eq_some_iff, h.file_iff]

theorem of_write {q : Path} {t : Text} (hother : key (placeOf q) ≠ key (placeOf p))
    (h : d.write q t = .ok d') : Preserves p d d' := by
  obtain ⟨hw, rfl⟩ := write_eq_ok_iff.1 h
  refine ⟨hw.extends_put _, ?_⟩
  have hnode : node? (Assoc.put (key (placeOf q)) (.file (.text t)) d) (placeOf p) =
      d.node? (placeOf p) := by
    rw [node?_put, if_neg (Ne.symm hother)]
    unfold node?
    split <;> rfl
  rw [content?, hnode, content?]

/-- A file that is preserved is found as it was. -/
theorem find (h : Preserves p d d') {c : Content} (hfind : d.find p = .ok (.file c)) :
    d'.find p = .ok (.file c) := by
  obtain ⟨hwalk, hnode⟩ := find_eq_ok_iff.1 hfind
  refine find_eq_ok_iff.2 ⟨h.reaches.walk hwalk, ?_⟩
  rw [← content?_eq_some_iff, h.content, content?_eq_some_iff, hnode]

end Preserves

end Dialogue.Disk
