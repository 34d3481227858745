import Dialogue.Assoc
import Mathlib.Data.List.Induction
set_option autoImplicit false

/-!
# Lookup and update of associations

What is found under a name after any number of values have been stored: the last that was stored
under it.  The names stand in the order in which they were first used.
-/

namespace Dialogue.Assoc

variable {κ α β : Type} [DecidableEq κ]

/-! ## Names -/

theorem get?_eq_none_iff {name : κ} {a : Assoc α κ} : get? name a = none ↔ name ∉ keys a := by
  induction a with
  | nil => simp [keys]
  | cons p rest ih =>
    obtain ⟨k, v⟩ := p
    by_cases h : k = name
    · simp [get?, keys, h]
    · simp only [get?, if_neg h, ih, keys, List.map_cons, List.mem_cons, Ne.symm h, false_or]

theorem has_iff {name : κ} {a : Assoc α κ} : has name a = true ↔ name ∈ keys a := by
  rw [has, Option.isSome_iff_ne_none, Ne, get?_eq_none_iff, Classical.not_not]

theorem nodup_keys_put {a : Assoc α κ} (h : (keys a).Nodup) (name : κ) (value : α) :
    (keys (put name value a)).Nodup := by
  rw [keys_put]
  split
  · exact h
  · next hnot =>
    have hnew : name ∉ keys a := fun hmem => hnot (has_iff.2 hmem)
    refine List.nodup_append.2 ⟨h, by simp, ?_⟩
    intro old hold new hname heq
    rw [heq, List.mem_singleton.1 hname] at hold
    exact hnew hold

theorem put_of_notMem {name : κ} {a : Assoc α κ} (h : name ∉ keys a) (value : α) :
    put name value a = a ++ [(name, value)] := by
  induction a with
  | nil => rfl
  | cons p rest ih =>
    obtain ⟨k, v⟩ := p
    simp only [keys, List.map_cons, List.mem_cons, not_or] at h
    rw [put, if_neg (Ne.symm h.1), ih h.2, List.cons_append]

theorem mem_of_get? {name : κ} {value : α} {a : Assoc α κ} (h : get? name a = some value) :
    (name, value) ∈ a := by
  induction a with
  | nil => cases h
  | cons p rest ih =>
    obtain ⟨k, v⟩ := p
    rw [get?] at h
    split at h
    · next hk =>
      rw [hk, Option.some.inj h]
      exact List.mem_cons_self
    · exact List.mem_cons_of_mem _ (ih h)

/-- What holds of all values and of a new one holds after the new one has been stored. -/
theorem forall_mem_put {P : α → Prop} {name : κ} {value : α} {a : Assoc α κ}
    (ha : ∀ p ∈ a, P p.2) (hvalue : P value) : ∀ p ∈ put name value a, P p.2 := by
  induction a with
  | nil => exact List.forall_mem_singleton.2 hvalue
  | cons p rest ih =>
    obtain ⟨k, v⟩ := p
    obtain ⟨hfirst, hrest⟩ := List.forall_mem_cons.1 ha
    rw [put]
    split
    · exact List.forall_mem_cons.2 ⟨hvalue, hrest⟩
    · exact List.forall_mem_cons.2 ⟨hfirst, ih hrest⟩

/-- Of different names only the one under which a value is stored has another value. -/
theorem forall_mem_put_iff {P : α → Prop} {name : κ} {value : α} {a : Assoc α κ}
    (hnames : (keys a).Nodup) :
    (∀ p ∈ put name value a, P p.2) ↔ P value ∧ ∀ p ∈ a, p.1 ≠ name → P p.2 := by
  induction a with
  | nil => simp [put]
  | cons p rest ih =>
    obtain ⟨k, v⟩ := p
    simp only [keys, List.map_cons, List.nodup_cons] at hnames
    rw [put]
    split
    · next hk =>
      have hother : ∀ p ∈ rest, p.1 ≠ name := fun p hp heq =>
        hnames.1 (hk ▸ heq ▸ List.mem_map_of_mem hp)
      simp only [List.forall_mem_cons, hk, ne_eq, not_true_eq_false, false_imp_iff, true_and]
      exact and_congr_right fun _ => forall₂_congr fun p hp =>
        ⟨fun h _ => h, fun h => h (hother p hp)⟩
    · next hk =>
      simp only [List.forall_mem_cons, ih hnames.2, ne_eq, hk, not_false_eq_true, true_imp_iff]
      exact and_left_comm

theorem mem_keys_put_iff {name other : κ} {value : α} {a : Assoc α κ} :
    other ∈ keys (put name value a) ↔ other = name ∨ other ∈ keys a := by
  rw [keys_put]
  split
  · next hhas =>
    refine ⟨.inr, fun h => h.elim (fun heq => ?_) id⟩
    rw [heq]
    exact has_iff.1 hhas
  · simp [or_comm]

theorem get?_map (name : κ) (g : α → β) (a : Assoc α κ) :
    get? name (a.map fun p => (p.1, g p.2)) = (get? name a).map g := by
  induction a with
  | nil => rfl
  | cons p rest ih =>
    obtain ⟨k, v⟩ := p
    by_cases h : k = name
    · simp [get?, h]
    · simp only [List.map_cons, get?, if_neg h, ih]

omit [DecidableEq κ] in
theorem keys_map (g : α → β) (a : Assoc α κ) : keys (a.map fun p => (p.1, g p.2)) = keys a := by
  simp [keys]

/-! ## Many values -/

theorem putAll_concat (news : Assoc α κ) (name : κ) (value : α) (a : Assoc α κ) :
    putAll (news ++ [(name, value)]) a = put name value (putAll news a) := by
  simp [putAll]

/-- Under each name stands the last value that was stored, or else what stood there before. -/
theorem get?_putAll (name : κ) (news a : Assoc α κ) :
    get? name (putAll news a) = (get? name news.reverse).or (get? name a) := by
  induction news using List.reverseRecOn with
  | nil => rfl
  | append_singleton news p ih =>
    obtain ⟨k, v⟩ := p
    rw [putAll_concat, List.reverse_concat]
    by_cases h : k = name
    · subst h
      simp [get?]
    · rw [get?_put_of_ne (Ne.symm h), ih, get?, if_neg h]

/-- The names stand in the order of their first use. -/
theorem keys_putAll_nil (news : Assoc α) : keys (putAll news []) = (keys news).eraseDups := by
  induction news using List.reverseRecOn with
  | nil => rfl
  | append_singleton news p ih =>
    obtain ⟨k, v⟩ := p
    have hkeys : keys (news ++ [(k, v)]) = keys news ++ [k] := by simp [keys]
    rw [putAll_concat, keys_put, hkeys, List.eraseDups_append, ih]
    by_cases h : k ∈ keys news
    · have hhas : has k (putAll news []) = true := by
        rw [has_iff, ih]
        exact List.mem_eraseDups.2 h
      rw [if_pos hhas]
      simp [List.removeAll, h]
    · have hhas : ¬has k (putAll news []) = true := by
        rw [has_iff, ih]
        exact fun hmem => h (List.mem_eraseDups.1 hmem)
      rw [if_neg hhas]
      simp [List.removeAll, h, List.eraseDups_cons]

theorem nodup_keys_putAll (news : Assoc α κ) {a : Assoc α κ} (h : (keys a).Nodup) :
    (keys (putAll news a)).Nodup := by
  induction news using List.reverseRecOn with
  | nil => exact h
  | append_singleton news p ih =>
    obtain ⟨k, v⟩ := p
    rw [putAll_concat]
    exact nodup_keys_put ih k v

/-- Values under different names are stored as they stand. -/
theorem putAll_eq_self {news : Assoc α κ} (h : (keys news).Nodup) : putAll news [] = news := by
  induction news using List.reverseRecOn with
  | nil => rfl
  | append_singleton news p ih =>
    obtain ⟨k, v⟩ := p
    have hkeys : keys (news ++ [(k, v)]) = keys news ++ [k] := by simp [keys]
    rw [hkeys] at h
    obtain ⟨hnews, -, hdisjoint⟩ := List.nodup_append.1 h
    have hk : k ∉ keys news := fun hmem => hdisjoint k hmem k List.mem_cons_self rfl
    rw [putAll_concat, ih hnews, put_of_notMem hk]

/-! ## Names of another kind -/

section mapKeys

variable {ι : Type} [DecidableEq ι] {f : κ → ι} (hf : Function.Injective f)
include hf

theorem put_mapKeys (name : κ) (value : α) (a : Assoc α κ) :
    put (f name) value (a.map fun p => (f p.1, p.2)) =
      (put name value a).map fun p => (f p.1, p.2) := by
  induction a with
  | nil => rfl
  | cons p rest ih =>
    obtain ⟨k, v⟩ := p
    by_cases h : k = name
    · simp [put, h]
    · have hne : f k ≠ f name := fun heq => h (hf heq)
      simp only [List.map_cons, put, if_neg h, if_neg hne, ih]

theorem putAll_mapKeys (news : Assoc α κ) :
    putAll (news.map fun p => (f p.1, p.2)) [] = (putAll news []).map fun p => (f p.1, p.2) := by
  induction news using List.reverseRecOn with
  | nil => rfl
  | append_singleton news p ih =>
    obtain ⟨k, v⟩ := p
    rw [List.map_append, List.map_singleton, putAll_concat, putAll_concat, ih, put_mapKeys hf]

end mapKeys

end Dialogue.Assoc
