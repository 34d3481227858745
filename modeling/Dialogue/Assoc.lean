import Dialogue.Text.Basic
set_option autoImplicit false

/-!
# Ordered associations

A list of named values in the order in which the names first appeared.  Storing under a known name
replaces the value in place; storing under a new name appends.  Names are texts almost everywhere;
the operations take any names that can be compared.

Normative source: the dictionaries of `parser` (`Program.flows`, `Flow.states`), `runtime`
(`Engine.ctx`, `Engine._visits`) and `webapp` (`SESSIONS`), which keep the order of insertion.
-/

namespace Dialogue

/-- Named values in insertion order. -/
abbrev Assoc (α : Type) (κ : Type := Text) : Type := List (κ × α)

namespace Assoc

variable {κ α : Type} [DecidableEq κ]

/-- The value stored under a name. -/
def get? (name : κ) : Assoc α κ → Option α
  | [] => none
  | (k, v) :: rest => if k = name then some v else get? name rest

/-- The name is in use. -/
def has (name : κ) (a : Assoc α κ) : Bool := (get? name a).isSome

/-- Stores a value under a name. -/
def put (name : κ) (value : α) : Assoc α κ → Assoc α κ
  | [] => [(name, value)]
  | (k, v) :: rest => if k = name then (k, value) :: rest else (k, v) :: put name value rest

/-- Stores all values of a list, in its order. -/
def putAll (news a : Assoc α κ) : Assoc α κ := news.foldl (fun a (k, v) => put k v a) a

/-- The names in order. -/
def keys {κ α : Type} (a : Assoc α κ) : List κ := a.map Prod.fst

@[simp] theorem get?_nil (name : κ) : get? name ([] : Assoc α κ) = none := rfl

@[simp] theorem get?_put_self (name : κ) (value : α) (a : Assoc α κ) :
    get? name (put name value a) = some value := by
  induction a with
  | nil => simp [put, get?]
  | cons p rest ih =>
    obtain ⟨k, v⟩ := p
    by_cases h : k = name <;> simp [put, get?, h, ih]

theorem get?_put_of_ne {name other : κ} (h : other ≠ name) (value : α) (a : Assoc α κ) :
    get? other (put name value a) = get? other a := by
  induction a with
  | nil => simp [put, get?, Ne.symm h]
  | cons p rest ih =>
    obtain ⟨k, v⟩ := p
    by_cases hk : k = name
    · subst hk; simp [put, get?, Ne.symm h]
    · simp only [put, hk, if_false, get?, ih]

theorem keys_put (name : κ) (value : α) (a : Assoc α κ) :
    keys (put name value a) = if has name a then keys a else keys a ++ [name] := by
  induction a with
  | nil => simp [put, keys, has, get?]
  | cons p rest ih =>
    obtain ⟨k, v⟩ := p
    by_cases h : k = name
    · simp [put, keys, has, get?, h]
    · simp only [put, keys, has, get?, h, if_false, List.map_cons] at ih ⊢
      rw [ih]
      split <;> simp_all

end Assoc
end Dialogue
