import Dialogue.Proofs.Session.Answer
import Mathlib.Data.List.Induction
set_option autoImplicit false

/-!
# Sessions simulate single runs

A session enters the state at which it waits once more for every answer.  If nothing but replies
comes before the question of a state, entering it again changes nothing.  Main statement: answer by
answer, a session then stands where one run with all the answers stands.
-/

namespace Dialogue

namespace Session

/-! ## Answer by answer -/

/-- The last step of a session that begins without input and goes on with answers. -/
def stepAll (s : Session) (world : World) (answers : List Value) : Step :=
  answers.foldl (fun last v => last.next (some v)) (s.step world none)

theorem stepAll_concat (s : Session) (world : World) (answers : List Value) (v : Value) :
    s.stepAll world (answers ++ [v]) = (s.stepAll world answers).next (some v) := by
  rw [stepAll, List.foldl_append]
  rfl

theorem engine_stepAll (s : Session) (world : World) (answers : List Value) :
    (s.stepAll world answers).session.engine = s.engine := by
  induction answers using List.reverseRecOn with
  | nil => exact engine_step s world none
  | append_singleton answers v ih => rw [stepAll_concat, Step.next, engine_step, ih]

theorem standing_stepAll (s : Session) (world : World) (answers : List Value) :
    (s.stepAll world answers).session.standing =
      (s.stepAll world answers).run.scene.toEngineState := by
  induction answers using List.reverseRecOn with
  | nil => exact standing_step s world none
  | append_singleton answers v _ =>
    rw [stepAll_concat]
    exact standing_step _ _ _

theorem awaiting_stepAll (s : Session) (world : World) (answers : List Value) :
    (s.stepAll world answers).result.map View.awaiting =
      pause (s.stepAll world answers).run.fault := by
  induction answers using List.reverseRecOn with
  | nil => exact awaiting_step s world none
  | append_singleton answers v _ =>
    rw [stepAll_concat]
    exact awaiting_step _ _ _

theorem awaits_stepAll_iff (s : Session) (world : World) (answers : List Value) {q : Question} :
    (s.stepAll world answers).Awaits q ↔ (s.stepAll world answers).run.question? = some q := by
  rw [Step.Awaits, awaiting_stepAll, pause_eq_ok_some_iff, Run.question?]

theorem run_next_stepAll (s : Session) (world : World) (answers : List Value)
    (input : Option Value) :
    ((s.stepAll world answers).next input).run =
      s.engine.resume (s.stepAll world answers).run.scene.toEngineState input.toList
        (s.stepAll world answers).run.scene.world := by
  rw [Step.next, run_step, engine_stepAll, standing_stepAll]

/-- What holds before every answer holds before every one of the first answers. -/
theorem forall_earlier_mono {p : List Value → Prop} {first answers : List Value}
    (hfirst : first <+: answers)
    (h : ∀ earlier, earlier <+: answers → earlier ≠ answers → p earlier) :
    ∀ earlier, earlier <+: first → earlier ≠ first → p earlier := by
  intro earlier hpre hne
  refine h earlier (hpre.trans hfirst) fun heq => hne ?_
  have hlength : first.length ≤ earlier.length := by
    rw [heq]
    exact hfirst.length_le
  exact hpre.eq_of_length_le hlength

/-- What holds before every answer holds before every answer but the last, and before the last. -/
theorem forall_earlier_concat_iff {p : List Value → Prop} {answers : List Value} {v : Value} :
    (∀ earlier, earlier <+: answers ++ [v] → earlier ≠ answers ++ [v] → p earlier) ↔
      (∀ earlier, earlier <+: answers → earlier ≠ answers → p earlier) ∧ p answers := by
  constructor
  · intro h
    exact ⟨forall_earlier_mono (List.prefix_append _ _) h,
      h answers (List.prefix_append _ _) (by simp)⟩
  · rintro ⟨hfirst, hlast⟩ earlier hpre hne
    rcases List.prefix_concat_iff.1 hpre with heq | hpre
    · exact absurd heq hne
    · by_cases heq : earlier = answers
      · rw [heq]
        exact hlast
      · exact hfirst earlier hpre heq

/-- If every earlier step has ended at a question, the last step ends as one run with all the
answers does. -/
theorem stepAll_eq_resume {s : Session} (h : s.engine.flow.asksOnce = true) (world : World)
    {answers : List Value}
    (hearlier : ∀ earlier, earlier <+: answers → earlier ≠ answers →
      ∃ q, (s.stepAll world earlier).Awaits q)
    (hend : (s.engine.resume s.standing answers world).fault ≠ some .endless) :
    (s.stepAll world answers).run.fault = (s.engine.resume s.standing answers world).fault ∧
      (s.engine.resume s.standing answers world).scene.Agrees []
        (s.stepAll world answers).run.scene := by
  induction answers using List.reverseRecOn with
  | nil =>
    have hrun : (s.stepAll world []).run = s.engine.resume s.standing [] world :=
      run_step s world none
    rw [hrun]
    exact ⟨rfl, (Scene.AgreesWithin.refl _).toAgrees⟩
  | append_singleton answers v ih =>
    obtain ⟨hfirst, q, hq⟩ := forall_earlier_concat_iff.1 hearlier
    obtain ⟨hfault, hscene⟩ :=
      ih hfirst (Engine.not_endless_of_append s.engine s.standing world hend)
    have hwaiting : (s.engine.resume s.standing answers world).question? = some q := by
      rw [awaits_stepAll_iff, Run.question?, hfault] at hq
      exact hq
    have hleft := (Engine.resume_waiting _ _ _ hwaiting).1
    rw [stepAll_concat, run_next_stepAll]
    refine Engine.resume_concat_of_waiting h hwaiting
      ⟨hscene.place, hscene.ctx, hscene.world, ?_⟩ hend
    rw [hleft]
    rfl

theorem start_eq_ok {text : Text} {script : Script} {source : Classifier.Source} {wanted : Bool}
    {opening : Opening} (hscript : Script.parse text = .ok script)
    (hopening : Engine.start script flowName [] source wanted = .ok opening) :
    start text source wanted =
      .ok (⟨opening.engine, opening.standing, [], none⟩, opening.notices) := by
  rw [start, hscript]
  simp only [hopening]

/-- For a flow whose states ask at most once, each time before anything but replies, a session goes
through the same conversation as a single run of the flow without variables at first.  For all
answers, if every earlier step has ended at a question and the single run is not endless, then after
the last answer the session has the variables, the state and the files of the single run, it waits
for the question at which the single run has stopped, if any, and it fails exactly as the single run
does. -/
theorem stepAll_simulates_resume {text : Text} {script : Script} {source : Classifier.Source}
    {wanted : Bool} {opening : Opening} (hscript : Script.parse text = .ok script)
    (hopening : Engine.start script flowName [] source wanted = .ok opening)
    (honce : opening.engine.flow.asksOnce = true) :
    ∃ s, start text source wanted = .ok (s, opening.notices) ∧
      ∀ (world : World) (answers : List Value),
        (∀ earlier, earlier <+: answers → earlier ≠ answers →
          ∃ q, (s.stepAll world earlier).Awaits q) →
        (opening.engine.resume opening.standing answers world).fault ≠ some .endless →
        (s.stepAll world answers).session.standing.ctx =
            (opening.engine.resume opening.standing answers world).scene.ctx ∧
          (s.stepAll world answers).session.standing.place =
            (opening.engine.resume opening.standing answers world).scene.place ∧
          (s.stepAll world answers).run.scene.world =
            (opening.engine.resume opening.standing answers world).scene.world ∧
          (s.stepAll world answers).result.map View.awaiting =
            pause (opening.engine.resume opening.standing answers world).fault := by
  refine ⟨_, start_eq_ok hscript hopening, fun world answers hearlier hend => ?_⟩
  obtain ⟨hfault, hscene⟩ := stepAll_eq_resume honce world hearlier hend
  rw [standing_stepAll, awaiting_stepAll, hfault]
  exact ⟨hscene.ctx, hscene.place, hscene.world, rfl⟩

/-- A flow that asks in two states, branches on an answer and writes a file. -/
def greeting : Flow :=
  ⟨"main".toList, [
    ⟨"start".toList, [
      .reply "Hi".toList,
      .ask "name".toList "Name?".toList,
      .goto "more".toList]⟩,
    ⟨"more".toList, [
      .reply "Hello \x7b\x7bname\x7d\x7d".toList,
      .ask "like".toList "Like?".toList,
      .chain [("like == 'yes'".toList, [.save "like".toList "a/b.json".toList])] none]⟩,
    ⟨"end".toList, [.reply "Bye".toList]⟩]⟩

/-- The beginning of a conversation with the flow. -/
def greetingOpening : Opening := ⟨⟨greeting, none⟩, ⟨"start".toList, [], [], none⟩, []⟩

theorem stepAll_simulates_resume_greeting :
    ∃ s, start (Script.print .separate ⟨[greeting]⟩) ⟨false, none⟩ false = .ok (s, []) ∧
      (s.stepAll emptyWorld [.text "Bob".toList, .text "yes".toList]).session.standing.place =
        "end".toList ∧
      (s.stepAll emptyWorld [.text "Bob".toList, .text "yes".toList]).result.map View.awaiting =
        .ok none := by
  have hparse : Script.parse (Script.print .separate ⟨[greeting]⟩) = .ok ⟨[greeting]⟩ :=
    Script.parse_print .separate (by decide) (.inl rfl)
  have hopening : Engine.start ⟨[greeting]⟩ flowName [] ⟨false, none⟩ false =
      .ok greetingOpening := rfl
  have honce : greetingOpening.engine.flow.asksOnce = true := by decide
  obtain ⟨s, hstart, hall⟩ := stepAll_simulates_resume hparse hopening honce
  have hs : s = ⟨greetingOpening.engine, greetingOpening.standing, [], none⟩ :=
    congrArg Prod.fst (Except.ok.inj (hstart.symm.trans (start_eq_ok hparse hopening)))
  have hearlier : ∀ earlier, earlier <+: [Value.text "Bob".toList, .text "yes".toList] →
      earlier ≠ [.text "Bob".toList, .text "yes".toList] →
      ∃ q, (s.stepAll emptyWorld earlier).Awaits q := by
    intro earlier hpre hne
    subst hs
    rcases List.prefix_cons_iff.1 hpre with rfl | ⟨later, rfl, hlater⟩
    · exact ⟨⟨"name".toList, "Name?".toList⟩, (awaits_stepAll_iff _ _ _).2 (by decide +kernel)⟩
    · rcases List.prefix_cons_iff.1 hlater with rfl | ⟨last, rfl, hlast⟩
      · exact ⟨⟨"like".toList, "Like?".toList⟩, (awaits_stepAll_iff _ _ _).2 (by decide +kernel)⟩
      · obtain rfl := List.prefix_nil.1 hlast
        exact absurd rfl hne
  have hfault : (greetingOpening.engine.resume greetingOpening.standing
      [.text "Bob".toList, .text "yes".toList] emptyWorld).fault = none :=
    Option.isNone_iff_eq_none.1 (by decide +kernel)
  have hend : (greetingOpening.engine.resume greetingOpening.standing
      [.text "Bob".toList, .text "yes".toList] emptyWorld).fault ≠ some .endless := by
    rw [hfault]
    simp
  obtain ⟨-, hplace, -, hawaiting⟩ := hall emptyWorld _ hearlier hend
  refine ⟨s, hstart, hplace.trans (by decide +kernel), ?_⟩
  rw [hawaiting, hfault]
  rfl

end Session
end Dialogue
