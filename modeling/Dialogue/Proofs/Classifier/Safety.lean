import Dialogue.Proofs.Assoc
import Dialogue.Proofs.Json.Rereading
import Dialogue.Proofs.Run.Routing
set_option autoImplicit false

/-!
# Safety of classification

Whatever a configuration holds, the classifier that is made from it has a key that can be written.
Whatever the service replies, the classifier answers every text with one of its candidates or with
nothing, after at most one request.  Main statement: `Classifier.safe_make`, with what follows from
it for the states that a run visits.
-/

namespace Dialogue

/-! ## Keys can be written -/

namespace Json

/-- The value has a text inside others. -/
def HasText (v : Json) : Prop := ∃ t, v.literal? = some t

theorem Single.hasText {v : Json} (h : Single v) : HasText v := by
  cases h with
  | null => exact ⟨_, rfl⟩
  | bool b => cases b <;> exact ⟨_, rfl⟩
  | int n h =>
    refine ⟨Text.ofInt n, ?_⟩
    rw [literal?, Value.intText?, if_pos h]
  | float x => exact ⟨_, rfl⟩
  | text t => exact ⟨_, rfl⟩
  | unpaired codes => exact ⟨_, rfl⟩

theorem exists_literals? {items : List Json} (h : ∀ v ∈ items, HasText v) :
    ∃ ts, literals? items = some ts := by
  induction items with
  | nil => exact ⟨[], rfl⟩
  | cons v vs ih =>
    obtain ⟨⟨t, ht⟩, hvs⟩ := List.forall_mem_cons.1 h
    obtain ⟨ts, hts⟩ := ih hvs
    refine ⟨t :: ts, ?_⟩
    rw [literals?, ht, hts]
    rfl

theorem exists_memberLiterals? {members : List (Text × Json)}
    (h : ∀ member ∈ members, HasText member.2) : ∃ ts, memberLiterals? members = some ts := by
  induction members with
  | nil => exact ⟨[], rfl⟩
  | cons member rest ih =>
    obtain ⟨⟨t, ht⟩, hrest⟩ := List.forall_mem_cons.1 h
    obtain ⟨ts, hts⟩ := ih hrest
    refine ⟨(Text.quoted member.1 ++ ": ".toList ++ t) :: ts, ?_⟩
    rw [memberLiterals?, ht, hts]
    rfl

theorem exists_unpairedLiterals? {members : List (List Nat × Json)}
    (h : ∀ member ∈ members, HasText member.2) : ∃ ts, unpairedLiterals? members = some ts := by
  induction members with
  | nil => exact ⟨[], rfl⟩
  | cons member rest ih =>
    obtain ⟨⟨t, ht⟩, hrest⟩ := List.forall_mem_cons.1 h
    obtain ⟨ts, hts⟩ := ih hrest
    refine ⟨(CodePoints.quoted member.1 ++ ": ".toList ++ t) :: ts, ?_⟩
    rw [unpairedLiterals?, ht, hts]
    rfl

theorem closed_hasText : Closed HasText where
  single _ h := h.hasText
  array items h := by
    obtain ⟨ts, hts⟩ := exists_literals? h
    refine ⟨'[' :: Text.joinWith ", ".toList ts ++ [']'], ?_⟩
    rw [literal?, hts]
    rfl
  object members h := by
    obtain ⟨ts, hts⟩ := exists_memberLiterals? h
    refine ⟨'\x7b' :: Text.joinWith ", ".toList ts ++ ['\x7d'], ?_⟩
    rw [literal?, hts]
    rfl
  unpairedObject members _ h := by
    obtain ⟨ts, hts⟩ := exists_unpairedLiterals? h
    refine ⟨'\x7b' :: Text.joinWith ", ".toList ts ++ ['\x7d'], ?_⟩
    rw [literal?, hts]
    rfl

theorem HasText.exists_text? {v : Json} (h : HasText v) : ∃ t, v.text? = some t := by
  cases v with
  | text t => exact ⟨t, rfl⟩
  | unpaired codes => exact ⟨_, rfl⟩
  | _ => exact h

end Json

namespace Classifier

/-- A key that is read is a member of an object that is read. -/
theorem exists_of_keyInText {config : Text} {key : Json}
    (h : keyInText config = .ok (some key)) :
    ∃ t v members, Json.read t = .ok v ∧ v.members? = some members ∧ (keyName, key) ∈ members := by
  unfold keyInText at h
  dsimp only at h
  split at h
  · cases h
  · next v hread =>
    split at h
    · next members hobject =>
      split at h
      · next found hfound =>
        split at h
        · cases h
          exact ⟨_, v, members, hread, hobject, Assoc.mem_of_get? hfound⟩
        · cases h
      · cases h
    · cases h

theorem exists_text?_of_keyIn {config : Content} {key : Json}
    (h : keyIn config = .ok (some key)) : ∃ t, key.text? = some t := by
  cases config with
  | text t =>
    obtain ⟨t, v, members, hread, hobject, hkey⟩ := exists_of_keyInText h
    exact (Json.closed_hasText.of_members? hread hobject (keyName, key) hkey).exists_text?
  | broken bytes fault => cases h

theorem exists_text?_make (model : Text) (config : Option Content) :
    ∃ t, (make model config).1.key.text? = some t := by
  unfold make
  split
  · exact ⟨demoKey, rfl⟩
  · split
    · next hkey => exact exists_text?_of_keyIn hkey
    · exact ⟨demoKey, rfl⟩
    · exact ⟨demoKey, rfl⟩

/-! ## Requests -/

/-- A text costs one request, or none without a candidate or a key. -/
theorem requests_classify_text (c : Classifier) (s : Service) (words : Text)
    (targets exclude : List Text) :
    (c.classify s (.text words) targets exclude).requests =
      if (candidates targets exclude).isEmpty || c.isOffline then []
      else [c.request words (candidates targets exclude)] := by
  rw [classify_text]
  by_cases hempty : (candidates targets exclude).isEmpty = true
  · rw [if_pos hempty, if_pos (by rw [hempty, Bool.true_or])]
  by_cases hoffline : c.isOffline = true
  · rw [if_neg hempty, if_pos hoffline, if_pos (by rw [hoffline, Bool.or_true])]
  · rw [if_neg hempty, if_neg hoffline, if_neg (by simp [hempty, hoffline])]
    obtain ⟨choice, notices, heq, -⟩ := exists_consult c s words (candidates targets exclude)
    rw [heq]

theorem isEmpty_candidates_iff {targets exclude : List Text} :
    (candidates targets exclude).isEmpty = true ↔ ∀ t ∈ targets, t ∈ exclude := by
  simp [candidates]

theorem isOffline_of_key {c : Classifier} (h : c.key = .text demoKey) : c.isOffline = true := by
  rw [isOffline, h]
  exact beq_self_eq_true demoKey

/-! ## Safety -/

/-- What a classifier can be relied on for, whatever the service does and for any targets: its key
can be written, and it chooses for every text a target that is not excluded, or nothing, with at
most one request, and with none if all targets are excluded or the key stands for none. -/
structure Safe (c : Classifier) : Prop where
  key : ∃ t, c.key.text? = some t
  chooses : ∀ s words targets exclude, ∃ choice,
    (c.classify s (.text words) targets exclude).result = .ok choice ∧
      ∀ t ∈ choice, t ∈ targets ∧ t ∉ exclude
  once : ∀ s words targets exclude,
    (c.classify s (.text words) targets exclude).requests.length ≤ 1
  silent : ∀ s words targets exclude, (∀ t ∈ targets, t ∈ exclude) ∨ c.key = .text demoKey →
    (c.classify s (.text words) targets exclude).requests = []

/-- A classifier whose key can be written is safe. -/
theorem safe_of_key {c : Classifier} (h : ∃ t, c.key.text? = some t) : c.Safe where
  key := h
  chooses s words targets exclude := by
    have hanswer : ∃ choice, (c.classify s (.text words) targets exclude).result = .ok choice :=
      exists_of_classify_text words
    obtain ⟨choice, hchoice⟩ := hanswer
    refine ⟨choice, hchoice, ?_⟩
    rintro t rfl
    exact mem_of_classify hchoice
  once s words targets exclude := by
    rw [requests_classify_text]
    split
    · exact Nat.zero_le 1
    · exact Nat.le_refl 1
  silent s words targets exclude hnone := by
    rw [requests_classify_text, if_pos]
    rcases hnone with hexcluded | hdemo
    · rw [isEmpty_candidates_iff.2 hexcluded, Bool.true_or]
    · rw [isOffline_of_key hdemo, Bool.or_true]

end Classifier

namespace Engine

/-- A visit uses no call of the classifier but the one with the value that was asked for last and
all states but the present one; and if the last answer was a text, what the classifier suggests, if
anything, is another state of the flow. -/
structure Guided (e : Engine) (t : Scene) : Prop where
  settled : ∃ call : Option Consultation, (∀ k ∈ call, e.consultation? t = some k) ∧
    e.visit t = e.flow.settle (e.performed t) (call.map Consultation.inquiry)
  suggests : ∀ q answer,
    (Event.answered (e.performed t).events).getLast? = some (q, .text answer) →
      ∀ k ∈ e.consultation? t, ∃ choice, k.inquiry.result = .ok choice ∧
        ∀ target ∈ choice, e.flow.has target = true ∧ target ≠ t.place

theorem guided (e : Engine) (t : Scene) : e.Guided t where
  settled := exists_visit_eq_settle e t
  suggests q answer hlast k hk := by
    obtain ⟨choice, hchoice⟩ := exists_choice_of_last hk hlast ⟨answer, rfl⟩
    refine ⟨choice, hchoice, ?_⟩
    rintro target rfl
    obtain ⟨-, htargets, hexclude, -⟩ := consultation?_spec hk
    obtain ⟨hmem, hnot⟩ := Classifier.mem_of_classify hchoice
    rw [htargets] at hmem
    rw [hexclude, List.mem_singleton] at hnot
    exact ⟨Flow.has_of_mem_names hmem, hnot⟩

end Engine

namespace Classifier

/-- Every configuration makes a safe classifier; and in every run, after an answer that is a text,
what is suggested is another state of the flow. -/
theorem safe_make (model : Text) (config : Option Content) :
    (make model config).1.Safe ∧
      ∀ (e : Engine) (s : Scene), ∀ t ∈ e.entered Engine.visitLimit s, e.Guided t := by
  refine ⟨safe_of_key (exists_text?_make model config), ?_⟩
  intro e s t _
  exact e.guided t

/-- Without a configuration the classifier makes no request, and after the answer it suggests the
state that the answer names. -/
theorem safe_make_suggested :
    Engine.openOpening.engine.classifier = some (make defaultModel none).1 ∧
      (∀ s words targets, ((make defaultModel none).1.classify s (.text words) targets []).requests
        = []) ∧
      ∃ k, Engine.openOpening.engine.consultation? Engine.openScene = some k ∧
        k.inquiry.result = .ok (some "news".toList) ∧
        Engine.openOpening.engine.flow.has "news".toList = true ∧
        "news".toList ≠ Engine.openScene.place := by
  obtain ⟨hsafe, hguided⟩ := safe_make defaultModel none
  refine ⟨rfl, fun s words targets => hsafe.silent s words targets [] (.inr rfl), ?_⟩
  refine ⟨_, rfl, rfl, ?_⟩
  have hvisit := hguided Engine.openOpening.engine Engine.openScene Engine.openScene
    List.mem_cons_self
  obtain ⟨choice, hchoice, htarget⟩ :=
    hvisit.suggests ⟨"topic".toList, "Topic?".toList⟩ "News!".toList rfl _ rfl
  exact htarget "news".toList (Except.ok.inj hchoice).symm

end Classifier
end Dialogue
