import Dialogue.Classifier.Basic
set_option autoImplicit false

/-!
# Results of a classification

A classifier suggests one of its candidates or nothing, makes at most one request, and fails only if
it is given something that is no text.
-/

namespace Dialogue.Classifier

variable (c : Classifier) (s : Service) (targets exclude : List Text)

/-- One call of the service makes one request, and it ends with one of the names or with nothing. -/
theorem exists_consult (words : Text) (names : List Text) :
    ∃ choice notices,
      c.consult s words names = ⟨.ok choice, notices, [c.request words names], s.next.2⟩ ∧
        ∀ t ∈ choice, t ∈ names := by
  unfold consult
  dsimp only
  split
  · exact ⟨_, [], rfl, fun _ h => named_mem h⟩
  · exact ⟨none, _, rfl, by simp⟩

/-- For a text there are three ways: nothing to choose from, words to compare, or the service. -/
theorem classify_text (words : Text) :
    c.classify s (.text words) targets exclude =
      if (candidates targets exclude).isEmpty then ⟨.ok none, [], [], s⟩
      else if c.isOffline then ⟨.ok (resembling words (candidates targets exclude)), [], [], s⟩
      else c.consult s words (candidates targets exclude) := rfl

/-- What a classifier does: it fails without a request, or it chooses among the candidates with at
most one. -/
theorem classify_cases (words : Value) :
    (∃ fault, c.classify s words targets exclude = ⟨.error fault, [], [], s⟩) ∨
      ∃ choice notices requests service,
        c.classify s words targets exclude = ⟨.ok choice, notices, requests, service⟩ ∧
        (∀ t ∈ choice, t ∈ candidates targets exclude) ∧ requests.length ≤ 1 := by
  unfold classify
  dsimp only
  split
  · exact .inr ⟨none, [], [], s, rfl, by simp, Nat.zero_le 1⟩
  split
  · split
    · next t => exact .inr ⟨_, [], [], s, rfl, fun _ h => resembling_mem h, Nat.zero_le 1⟩
    · exact .inl ⟨_, rfl⟩
  split
  · next t _ =>
    obtain ⟨choice, notices, heq, hmem⟩ := exists_consult c s t (candidates targets exclude)
    exact .inr ⟨choice, notices, _, _, heq, hmem, Nat.le_refl 1⟩
  · exact .inl ⟨_, rfl⟩

variable {c s targets exclude}

/-- A suggestion is a target that is not excluded. -/
theorem mem_of_classify {words : Value} {t : Text}
    (h : (c.classify s words targets exclude).result = .ok (some t)) :
    t ∈ targets ∧ t ∉ exclude := by
  rcases classify_cases c s targets exclude words with
    ⟨fault, heq⟩ | ⟨choice, notices, requests, service, heq, hchoice, -⟩
  · rw [heq] at h
    cases h
  · rw [heq] at h
    exact mem_candidates.1 (hchoice t (Except.ok.inj h))

theorem exists_of_classify_text (words : Text) :
    ∃ choice, (c.classify s (.text words) targets exclude).result = .ok choice := by
  rw [classify_text]
  split
  · exact ⟨none, rfl⟩
  split
  · exact ⟨_, rfl⟩
  · obtain ⟨choice, notices, heq, -⟩ := exists_consult c s words (candidates targets exclude)
    rw [heq]
    exact ⟨choice, rfl⟩

end Dialogue.Classifier
