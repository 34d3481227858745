import Dialogue.Proofs.Script.Block
import Dialogue.Proofs.Script.Contents
import Dialogue.Proofs.Script.Descent
set_option autoImplicit false

/-!
# Conservation of statements

Whether a line is a statement can be seen from the line alone.  The lines of a body are statements,
or they are blank, or they open, continue or close blocks; and the body has the actions of its
statements, each read on its own, in the order of the lines.  Main statement:
`Block.read_conserves`.
-/

namespace Dialogue

/-! ## Single lines -/

/-- A line that neither begins with the word of a statement nor is an inline jump cannot be read as
a statement. -/
theorem Statement.parse_eq_unknown {line : Text}
    (hwords : ∀ word ∈ words, Text.startsWith (word ++ [' ']) line = false)
    (hjump : ifGoto? line = none) : parse line = .error (.unknownStatement line) := by
  have hafter (word : String) (h : word.toList ∈ words) : after? word line = none := by
    rw [after?, Option.map_eq_none_iff, ← Option.not_isSome_iff_eq_none]
    exact Bool.eq_false_iff.1 (hwords _ h)
  unfold parse
  rw [hafter "reply" (by decide), hafter "goto" (by decide), hafter "ask" (by decide),
    hafter "set" (by decide), hjump, hafter "save" (by decide), hafter "load" (by decide)]

namespace LineKind

/-- The line is a statement: it begins with the word of one, or it is an inline jump and does not
open a block. -/
def isStatement (line : Text) : Bool :=
  Statement.words.any (fun word => Text.startsWith (word ++ [' ']) line) ||
    (Statement.ifGoto? line).isSome && (Statement.head? "if" line).isNone

/-- The line has no action of its own: it is empty or a comment, or it opens, continues or closes a
block. -/
inductive Structural : Text → Prop
  | empty : Structural []
  | comment (rest : Text) : Structural ('#' :: rest)
  | ifHead {line cond : Text} (h : Statement.head? "if" line = some cond) : Structural line
  | elifHead {line cond : Text} (h : Statement.head? "elif" line = some cond) : Structural line
  | elseAlone : Structural "else".toList
  | elseHead : Structural "else \x7b".toList
  | opening : Structural ['\x7b']
  | closing : Structural brace
  | closeElif (rest : Text) : Structural (brace ++ " elif".toList ++ rest)
  | closeElse (rest : Text) : Structural (brace ++ " else".toList ++ rest)

/-- The line ends a body: it closes a block, or it is the heading of a state or a flow. -/
def EndsBody (line : Text) : Prop :=
  line = brace ∨ Text.startsWith (brace ++ " elif".toList) line = true ∨
    Text.startsWith (brace ++ " else".toList) line = true ∨
    Text.startsWith "state ".toList line = true ∨ Text.startsWith "flow ".toList line = true

/-- No structural line is a statement. -/
theorem Structural.isStatement_eq_false {line : Text} (h : Structural line) :
    isStatement line = false := by
  cases h with
  | empty | elseAlone | elseHead | opening | closing => rfl
  | comment rest | closeElif rest | closeElse rest => rfl
  | ifHead h =>
    -- such a line can have the form of an inline jump too
    have hword := Statement.startsWith_of_head? h
    rw [isStatement, h]
    obtain ⟨rest, rfl⟩ := Text.startsWith_iff.1 hword
    exact Bool.and_false _
  | elifHead h =>
    obtain ⟨rest, rfl⟩ := Text.startsWith_iff.1 (Statement.startsWith_of_head? h)
    rfl

/-- Lines that open a chain and plain lines are distinguished by the heading of the chain. -/
theorem head?_of (line : Text) :
    (∀ cond, LineKind.of line = .ifHead cond → Statement.head? "if" line = some cond) ∧
      (LineKind.of line = .plain → Statement.head? "if" line = none) := by
  unfold LineKind.of
  split
  · simp
  split
  · simp
  split
  · simp
  split
  · simp
  split
  · simp
  split
  · next cond h => simp [h]
  · next h => exact ⟨by simp, fun _ => h⟩

/-- A line that adds an action to a body is a statement. -/
theorem isStatement_of_statement? {line : Text} {a : Action} (h : statement? line = some a) :
    isStatement line = true := by
  have hplain : LineKind.of line = .plain := by
    by_contra hne
    rw [statement?_of_ne rfl hne] at h
    cases h
  cases hstatement : isStatement line with
  | true => rfl
  | false =>
    rw [isStatement, (head?_of line).2 hplain, Option.isNone_none, Bool.and_true,
      Bool.or_eq_false_iff, List.any_eq_false] at hstatement
    obtain ⟨hwords, hjump⟩ := hstatement
    have hunknown := Statement.parse_eq_unknown
      (fun word hword => Bool.eq_false_iff.2 (hwords word hword))
      (Option.not_isSome_iff_eq_none.1 (Bool.eq_false_iff.1 hjump))
    cases hunknown.symm.trans (parse_of_statement? h)

/-- A line that is neither a heading nor plain is structural. -/
theorem structural_of_ne {line : Text} (hheading : LineKind.of line ≠ .heading)
    (hplain : LineKind.of line ≠ .plain) : Structural line := by
  cases hkind : LineKind.of line with
  | blank =>
    rcases of_eq_blank_iff.1 hkind with rfl | ⟨rest, rfl⟩
    · exact .empty
    · exact .comment rest
  | close =>
    rw [of_eq_close_iff.1 hkind]
    exact .closing
  | closeElif part =>
    obtain ⟨rest, rfl⟩ := Text.startsWith_iff.1 (exists_of_eq_closeElif_iff.1 ⟨part, hkind⟩)
    exact .closeElif rest
  | closeElse =>
    obtain ⟨rest, rfl⟩ := Text.startsWith_iff.1 (of_eq_closeElse_iff.1 hkind)
    exact .closeElse rest
  | heading => exact absurd hkind hheading
  | ifHead cond => exact .ifHead ((head?_of line).1 cond hkind)
  | plain => exact absurd hkind hplain

theorem endsBody_of_isEnd {line : Text} (h : (LineKind.of line).isEnd = true) : EndsBody line := by
  cases hkind : LineKind.of line with
  | close => exact .inl (of_eq_close_iff.1 hkind)
  | closeElif part => exact .inr (.inl (exists_of_eq_closeElif_iff.1 ⟨part, hkind⟩))
  | closeElse => exact .inr (.inr (.inl (of_eq_closeElse_iff.1 hkind)))
  | heading => exact .inr (.inr (.inr (Bool.or_eq_true_iff.1 (of_eq_heading_iff.1 hkind))))
  | _ =>
    rw [hkind] at h
    cases h

/-- The line adds an action to a body, or it has none of its own. -/
def Accounted (line : Text) : Prop := (∃ a, statement? line = some a) ∨ Structural line

/-- Of lines that are all accounted for, the statements are those that add an action, and they add
what they are read as on their own. -/
theorem map_parse_filter {lines : List Text} (h : ∀ line ∈ lines, Accounted line) :
    (lines.filter isStatement).map Statement.parse =
      (lines.filterMap statement?).map Except.ok := by
  induction lines with
  | nil => rfl
  | cons line rest ih =>
    obtain ⟨hline, hrest⟩ := List.forall_mem_cons.1 h
    rcases hline with ⟨a, ha⟩ | hline
    · rw [List.filter_cons_of_pos (isStatement_of_statement? ha), List.filterMap_cons_some ha,
        List.map_cons, List.map_cons, parse_of_statement? ha, ih hrest]
    · have hnot := hline.isStatement_eq_false
      have hnone : statement? line = none := by
        refine Option.eq_none_iff_forall_ne_some.2 fun a ha => ?_
        cases hnot.symm.trans (isStatement_of_statement? ha)
      rw [List.filter_cons_of_neg (Bool.eq_false_iff.1 hnot), List.filterMap_cons_none hnone,
        ih hrest]

end LineKind

/-! ## Bodies -/

/-- What the line may be if a body goes on after it, and if the body ends at it. -/
def Progress.Fits (line : Text) : Progress → Prop
  | more _ => LineKind.Accounted line
  | stopped _ => (LineKind.of line).isEnd = true

/-- A line that closes a block may do so, and it may end the body. -/
theorem Progress.fits_of_isEnd {line : Text} (hend : (LineKind.of line).isEnd = true)
    (hheading : LineKind.of line ≠ .heading) (progress : Progress) : progress.Fits line := by
  cases progress with
  | more b =>
    refine .inr (LineKind.structural_of_ne hheading fun hplain => ?_)
    rw [hplain] at hend
    cases hend
  | stopped actions => exact hend

namespace Block

theorem fits_stepWithin {b : Block} {line : Text} {progress : Progress}
    (h : b.stepWithin line = .ok progress) : progress.Fits line := by
  cases hkind : LineKind.of line with
  | close | closeElif _ | closeElse =>
    exact Progress.fits_of_isEnd (by rw [hkind]; rfl) (by simp [hkind]) progress
  | blank | ifHead _ =>
    unfold stepWithin at h
    rw [hkind] at h
    cases h
    exact .inr (LineKind.structural_of_ne (by simp [hkind]) (by simp [hkind]))
  | heading =>
    unfold stepWithin at h
    rw [hkind] at h
    dsimp only at h
    split at h
    · cases h
      show (LineKind.of line).isEnd = true
      rw [hkind]
      rfl
    · cases h
  | plain =>
    unfold stepWithin at h
    rw [hkind] at h
    dsimp only at h
    cases hparse : Statement.parse line with
    | error f =>
      rw [hparse] at h
      cases h
    | ok a =>
      rw [hparse] at h
      cases h
      exact .inl ⟨a, LineKind.statement?_of_parse hkind hparse⟩

theorem fits_stepJoint {b : Block} {done : List Branch} {line : Text} {progress : Progress}
    (h : b.stepJoint done line = .ok progress) : progress.Fits line := by
  unfold stepJoint at h
  split at h
  · next rest hkind =>
    exact Progress.fits_of_isEnd (by rw [hkind]; rfl) (by simp [hkind]) progress
  · next hkind => exact Progress.fits_of_isEnd (by rw [hkind]; rfl) (by simp [hkind]) progress
  split at h
  · next cond hcond =>
    cases h
    exact .inr (.elifHead hcond)
  split at h
  · split at h
    · next hline =>
      cases h
      subst hline
      exact .inr .elseHead
    split at h
    · next hline =>
      cases h
      subst hline
      exact .inr .elseAlone
    · cases h
  · exact fits_stepWithin h

/-- Whatever has been read, a line that the body goes on after is accounted for, and the body ends
only at lines that end bodies. -/
theorem fits_step {b : Block} {line : Text} {progress : Progress}
    (h : b.step line = .ok progress) : progress.Fits line := by
  rcases step_cases h with ⟨-, hwithin⟩ | ⟨done, -, hjoint⟩ | ⟨done, -, rfl, rfl⟩
  · exact fits_stepWithin hwithin
  · exact fits_stepJoint hjoint
  · exact .inr .opening

/-- From any point in a body: the lines up to its end are accounted for, and its simple actions are
those read before and those that these lines add. -/
theorem conserves_read {b : Block} {lines rest : List Text} {actions : List Action}
    (h : b.read lines = .ok (actions, rest)) :
    ∃ consumed, lines = consumed ++ rest ∧
      (∀ line ∈ rest.head?, (LineKind.of line).isEnd = true) ∧
      (∀ line ∈ consumed, LineKind.Accounted line) ∧
      Action.leavesOfAll actions = b.leaves ++ consumed.filterMap LineKind.statement? := by
  induction lines generalizing b with
  | nil =>
    obtain ⟨others, hfinish, hok⟩ := bind_eq_ok_iff.1 h
    cases hok
    exact ⟨[], rfl, by simp, List.forall_mem_nil _,
      (leaves_finish hfinish).trans (List.append_nil _).symm⟩
  | cons line lines ih =>
    obtain ⟨progress, hstep, hread⟩ := bind_eq_ok_iff.1 h
    have hfits := fits_step hstep
    have hleaves := leaves_step hstep
    cases progress with
    | more next =>
      obtain ⟨consumed, rfl, hend, hlines, hactions⟩ := ih hread
      refine ⟨line :: consumed, rfl, hend, List.forall_mem_cons.2 ⟨hfits, hlines⟩, ?_⟩
      have hline : (line :: consumed).filterMap LineKind.statement? =
          (LineKind.statement? line).toList ++ consumed.filterMap LineKind.statement? := by
        rw [List.filterMap_cons]
        cases LineKind.statement? line <;> rfl
      rw [hline, ← List.append_assoc, ← hleaves]
      exact hactions
    | stopped others =>
      cases hread
      have hnone : LineKind.statement? line = none := by
        refine LineKind.statement?_of_ne rfl fun hplain => ?_
        rw [Progress.Fits, hplain] at hfits
        cases hfits
      rw [hnone] at hleaves
      refine ⟨[], rfl, fun other hother => ?_, List.forall_mem_nil _, hleaves⟩
      cases hother
      exact hfits

/-- A body keeps all its statements.  It ends with the text or at a line that ends bodies; its
simple actions, the branches of a chain in order and what is otherwise done last, are the statements
among its lines, each read on its own; and all its other lines are structural. -/
theorem read_conserves {lines rest : List Text} {actions : List Action}
    (h : Block.read {} lines = .ok (actions, rest)) :
    ∃ consumed, lines = consumed ++ rest ∧ (∀ line ∈ rest.head?, LineKind.EndsBody line) ∧
      (consumed.filter LineKind.isStatement).map Statement.parse =
        (Action.leavesOfAll actions).map Except.ok ∧
      ∀ line ∈ consumed, LineKind.Structural line ↔ LineKind.isStatement line = false := by
  obtain ⟨consumed, hlines, hend, haccounted, hactions⟩ := conserves_read h
  refine ⟨consumed, hlines, fun line hline => LineKind.endsBody_of_isEnd (hend line hline), ?_,
    fun line hline => ⟨LineKind.Structural.isStatement_eq_false, fun hnot => ?_⟩⟩
  · rw [LineKind.map_parse_filter haccounted, hactions]
    rfl
  · rcases haccounted line hline with ⟨a, ha⟩ | hstructural
    · cases hnot.symm.trans (LineKind.isStatement_of_statement? ha)
    · exact hstructural

/-- A body with all kinds of statements, two chains, one inside the other, and all ways to write
their joints, before the heading of the next state. -/
def orderLines : List Text :=
  ["reply \"Welcome\"", "if kind == \"tea\" \x7b", "# warm drinks", "if milk \x7b", "goto milky",
    "\x7d", "else", "\x7b", "set sugar = 1 + 1", "\x7d", "\x7d elif kind \x7b", "",
    "ask size \"Size?\"", "\x7d else \x7b", "save size to \"order.json\"", "\x7d",
    "if size == big goto large", "load size from \"order.json\"", "state milky"].map String.toList

/-- The actions of the body. -/
def orderActions : List Action :=
  [.reply "Welcome".toList,
    .chain
      [("kind == \"tea\"".toList,
        [.chain [("milk".toList, [.goto "milky".toList])]
          (some [.setExpr "sugar".toList "1 + 1".toList])]),
      ("kind".toList, [.ask "size".toList "Size?".toList])]
      (some [.save "size".toList "order.json".toList]),
    .ifGoto "size".toList "big".toList "large".toList,
    .load "size".toList "order.json".toList]

theorem read_conserves_orderLines :
    Block.read {} orderLines = .ok (orderActions, ["state milky".toList]) ∧
      ∃ consumed, orderLines = consumed ++ ["state milky".toList] ∧
        (∀ line ∈ ["state milky".toList].head?, LineKind.EndsBody line) ∧
        (consumed.filter LineKind.isStatement).map Statement.parse =
          (Action.leavesOfAll orderActions).map Except.ok ∧
        ∀ line ∈ consumed, LineKind.Structural line ↔ LineKind.isStatement line = false :=
  ⟨rfl, read_conserves rfl⟩

end Block
end Dialogue
