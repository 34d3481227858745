import Dialogue.Proofs.Run.OneQuestion
import Dialogue.Proofs.Script.RoundTrip
set_option autoImplicit false

/-!
# Assignment of inputs to questions

A step begins the present state anew.  Its input is the answer to the first question that it meets
then, and that need not be the question that the session waits for.  Main statement: the input
reaches the question that is waited for exactly if a step without input would stop there again.
-/

namespace Dialogue

namespace Step

/-- The step that follows with the next input. -/
def next (last : Step) (input : Option Value) : Step :=
  last.session.step last.run.scene.world input

/-- The step has ended at a question, which waits for an answer. -/
def Awaits (last : Step) (q : Question) : Prop := last.result.map View.awaiting = .ok (some q)

end Step

namespace Session

/-! ## Steps and their runs -/

theorem pause_eq_ok_some_iff {fault : Option RunFault} {q : Question} :
    pause fault = .ok (some q) ↔ fault.bind RunFault.question? = some q := by
  cases fault with
  | none => simp [pause]
  | some f => cases f <;> simp [pause, RunFault.question?]

section step

variable (s : Session) (world : World) (input : Option Value)

theorem run_step : (s.step world input).run = s.engine.resume s.standing input.toList world := by
  rw [step]
  split <;> rfl

theorem engine_step : (s.step world input).session.engine = s.engine := by
  rw [step]
  split <;> rfl

theorem standing_step :
    (s.step world input).session.standing = (s.step world input).run.scene.toEngineState := by
  rw [step]
  split <;> rfl

theorem awaiting_step :
    (s.step world input).result.map View.awaiting = pause (s.step world input).run.fault := by
  rw [run_step, step]
  split
  · next f hpause => rw [hpause]; rfl
  · next q hpause => rw [hpause]; rfl

theorem awaits_step_iff {q : Question} :
    (s.step world input).Awaits q ↔ (s.step world input).run.question? = some q := by
  rw [Step.Awaits, awaiting_step, pause_eq_ok_some_iff, Run.question?]

end step

/-! ## The question that is answered -/

/-- An input answers the question at which a step without input stops, and no other. -/
theorem answered_step_some (s : Session) (world : World) (v : Value) :
    (s.step world (some v)).run.answered =
      (s.step world none).run.question?.toList.map fun q => (q, v) := by
  rw [run_step, run_step]
  exact Engine.answered_resume_singleton s.engine s.standing world v

/-- If every state asks at most once, after nothing but replies, a step without input stops at the
question at which the step before it stopped. -/
theorem awaits_next_none {s : Session} (h : s.engine.flow.asksOnce = true) {world : World}
    {input : Option Value} {q : Question} (hq : (s.step world input).Awaits q) :
    ((s.step world input).next none).Awaits q := by
  rw [awaits_step_iff, run_step] at hq
  rw [Step.next, awaits_step_iff, run_step, engine_step, standing_step, run_step]
  have hleft := (Engine.resume_waiting _ _ _ hq).1
  refine Engine.run_waiting_again h hq ⟨rfl, rfl, rfl, ?_⟩
  rw [List.append_nil]
  exact hleft.symm

/-- After a step that waits for a question, the next input is the answer to that question, and to no
other, exactly if a step without input would stop at the same question again.  Whatever question the
input answers is the one at which a step without input would stop.  The question that is waited for
is one of the present state.  In a flow whose states ask at most once, after nothing but replies,
the input always reaches its question. -/
theorem answered_next_iff {s : Session} {world : World} {input : Option Value} {q : Question}
    (h : (s.step world input).Awaits q) (v : Value) :
    (((s.step world input).next (some v)).run.answered = [(q, v)] ↔
        ((s.step world input).next none).Awaits q) ∧
      (∀ p ∈ ((s.step world input).next (some v)).run.answered,
        p.2 = v ∧ ((s.step world input).next none).Awaits p.1) ∧
      q ∈ Action.questionsOfAll
        (s.engine.flow.actionsAt (s.step world input).session.standing.place) ∧
      (s.engine.flow.asksOnce = true →
        ((s.step world input).next (some v)).run.answered = [(q, v)]) := by
  have hiff : ((s.step world input).next (some v)).run.answered = [(q, v)] ↔
      ((s.step world input).next none).Awaits q := by
    rw [Step.next, Step.next, answered_step_some, awaits_step_iff]
    generalize ((s.step world input).session.step _ none).run.question? = stopped
    cases stopped with
    | none => simp
    | some q' => simp
  refine ⟨hiff, ?_, ?_, fun honce => hiff.2 (awaits_next_none honce h)⟩
  · intro p hp
    rw [Step.next, answered_step_some] at hp
    obtain ⟨q', hq', rfl⟩ := List.mem_map.1 hp
    exact ⟨rfl, (awaits_step_iff _ _ _).2 (Option.mem_toList.1 hq')⟩
  · rw [awaits_step_iff, run_step] at h
    rw [standing_step, run_step]
    exact (Engine.resume_waiting _ _ _ h).2

/-- A flow with two questions in one state. -/
def twoQuestions : Flow :=
  ⟨"main".toList, [
    ⟨"start".toList, [
      .ask "name".toList "Name?".toList,
      .ask "like".toList "Like?".toList,
      .goto "end".toList]⟩,
    ⟨"end".toList, [.reply "\x7b\x7bname\x7d\x7d/\x7b\x7blike\x7d\x7d".toList]⟩]⟩

/-- A session at the beginning of the flow. -/
def twoQuestionsSession : Session :=
  ⟨⟨twoQuestions, none⟩, ⟨"start".toList, [], [], none⟩, [], none⟩

/-- A world without files, whose service never replies. -/
def emptyWorld : World := ⟨[], [], .failed []⟩

theorem answered_next_iff_twoQuestions :
    (twoQuestionsSession.step emptyWorld none).Awaits ⟨"name".toList, "Name?".toList⟩ ∧
      ((twoQuestionsSession.step emptyWorld none).next (some (.text "Bob".toList))).run.answered =
        [(⟨"name".toList, "Name?".toList⟩, .text "Bob".toList)] := by
  have h : (twoQuestionsSession.step emptyWorld none).Awaits ⟨"name".toList, "Name?".toList⟩ := rfl
  exact ⟨h, (answered_next_iff h (.text "Bob".toList)).1.2 rfl⟩

/-- The flow as text. -/
def twoQuestionsText : Text :=
  ("flow main\nstate start\nask name \"Name?\"\nask like \"Like?\"\ngoto end\n" ++
    "state end\nreply \"\x7b\x7bname\x7d\x7d/\x7b\x7blike\x7d\x7d\"\n").toList

/-- The answer to the second question of a state becomes the answer to the first. -/
theorem answered_next_twoQuestions :
    start twoQuestionsText ⟨false, none⟩ false = .ok (twoQuestionsSession, []) ∧
    ((twoQuestionsSession.step emptyWorld none).next (some (.text "Bob".toList))).Awaits
      ⟨"like".toList, "Like?".toList⟩ ∧
    (((twoQuestionsSession.step emptyWorld none).next (some (.text "Bob".toList))).next
      (some (.text "yes".toList))).run.answered =
        [(⟨"name".toList, "Name?".toList⟩, .text "yes".toList)] := by
  refine ⟨?_, rfl, rfl⟩
  have hparse : Script.parse (Script.print .separate ⟨[twoQuestions]⟩) = .ok ⟨[twoQuestions]⟩ :=
    Script.parse_print .separate (by decide) (.inl rfl)
  have htext : Script.print .separate ⟨[twoQuestions]⟩ = twoQuestionsText := by decide
  rw [start, ← htext, hparse]
  rfl

end Session
end Dialogue
