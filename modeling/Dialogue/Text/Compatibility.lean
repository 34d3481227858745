import Dialogue.Text.Decomposition
set_option autoImplicit false

/-!
# Compatibility normal form of identifiers

Two spellings of an identifier that differ only in width, ligatures, letter style or the order of
marks name the same variable.  The normal form decomposes every character completely, sorts runs of
combining marks by class, and composes what can be composed.

Normative source: the names in the expressions of `runtime` (`_eval_expr`, `_eval_bool`), over the
character data of Unicode 14.0.
-/

namespace Dialogue.Text

/-! ## Reading the tables -/

/-- The parts of a text between the occurrences of a character. -/
def cutAll (sep : Char) : Text → List Text
  | [] => [[]]
  | c :: t =>
    if c = sep then [] :: cutAll sep t
    else
      match cutAll sep t with
      | [] => [[c]]
      | part :: parts => (c :: part) :: parts

/-- A number in base sixteen; other characters count as nothing. -/
def hexNumber (t : Text) : Nat := t.foldl (fun n c => n * 16 + (hexValue? c).getD 0) 0

/-- The entries of a table, each cut at its colon. -/
def tableEntries (rows : List String) : List (Text × Text) :=
  rows.flatMap fun row => (cutAll ' ' row.toList).filterMap (cutAt? [':'])

/-- The first and last code point of a run. -/
def runEnds (t : Text) : Nat × Nat :=
  match cutAt? ['-'] t with
  | some (first, last) => (hexNumber first, hexNumber last)
  | none => (hexNumber t, hexNumber t)

/-- Runs with the image of their first code point. -/
def decompositions : List ((Nat × Nat) × List Nat) :=
  (tableEntries decompositionRows).map fun (run, image) =>
    (runEnds run, (cutAll ',' image).map hexNumber)

/-- Runs with their combining class. -/
def combiningClasses : List ((Nat × Nat) × Nat) :=
  (tableEntries combiningRows).map fun (run, k) => (runEnds run, decimalValue k)

/-- Pairs with the code point they compose to. -/
def compositions : List ((Nat × Nat) × Nat) :=
  (tableEntries compositionRows).filterMap fun (pair, image) =>
    (cutAt? ['+'] pair).map fun (a, b) => ((hexNumber a, hexNumber b), hexNumber image)

/-! ## Decomposition -/

/-- The parts of a Hangul syllable, which follow from its code. -/
def hangulParts? (n : Nat) : Option (List Nat) :=
  if 0xAC00 ≤ n ∧ n < 0xAC00 + 11172 then
    let s := n - 0xAC00
    let tail := if s % 28 = 0 then [] else [0x11A7 + s % 28]
    some ([0x1100 + s / 588, 0x1161 + s % 588 / 28] ++ tail)
  else none

/-- The complete decomposition of a code point. -/
def decompose (n : Nat) : List Nat :=
  match hangulParts? n with
  | some parts => parts
  | none =>
    match decompositions.find? fun (run, _) => run.1 ≤ n && n ≤ run.2 with
    | some (run, [image]) => [image + (n - run.1)]
    | some (_, image) => image
    | none => [n]

/-- The combining class of a code point. -/
def combiningClass (n : Nat) : Nat :=
  match combiningClasses.find? fun (run, _) => run.1 ≤ n && n ≤ run.2 with
  | some (_, k) => k
  | none => 0

/-! ## Order and composition -/

/-- Puts a mark before the marks of a higher class that end a run, given last mark first. -/
def settle (m : Nat × Nat) : List (Nat × Nat) → List (Nat × Nat)
  | [] => [m]
  | x :: xs => if 0 < m.2 ∧ m.2 < x.2 then x :: settle m xs else m :: x :: xs

/-- The code points with their classes, each run of marks sorted by class. -/
def sortMarks (ns : List Nat) : List (Nat × Nat) :=
  (ns.foldl (fun done n => settle (n, combiningClass n) done) []).reverse

/-- The composition of two code points. -/
def composePair? (a b : Nat) : Option Nat :=
  if 0x1100 ≤ a ∧ a < 0x1113 ∧ 0x1161 ≤ b ∧ b < 0x1176 then
    some (0xAC00 + ((a - 0x1100) * 21 + (b - 0x1161)) * 28)
  else if 0xAC00 ≤ a ∧ a < 0xAC00 + 11172 ∧ (a - 0xAC00) % 28 = 0 ∧ 0x11A7 < b ∧ b < 0x11C3 then
    some (a + (b - 0x11A7))
  else compositions.lookup (a, b)

/-- Composes a starter with what follows it.  `kept` holds the marks after the starter that did not
compose, last first, and `done` all that is finished, last first. -/
def composeOnto (done : List Nat) (starter : Option Nat) (kept : List (Nat × Nat)) :
    List (Nat × Nat) → List Nat
  | [] => (done.reverse ++ starter.toList) ++ (kept.reverse.map Prod.fst)
  | (n, k) :: rest =>
    match starter with
    | none =>
      if k = 0 then composeOnto done (some n) [] rest else composeOnto (n :: done) none [] rest
    | some s =>
      let opened :=
        match kept with
        | [] => true
        | (_, j) :: _ => j < k
      match if opened then composePair? s n else none with
      | some whole => composeOnto done (some whole) kept rest
      | none =>
        if k = 0 then composeOnto (kept.map Prod.fst ++ s :: done) (some n) [] rest
        else composeOnto done (some s) ((n, k) :: kept) rest

/-- The compatibility normal form; a text of ASCII characters is its own. -/
def compatible (t : Text) : Text :=
  if t.all fun c => c.toNat < 0x80 then t
  else
    (composeOnto [] none [] (sortMarks (t.flatMap fun c => decompose c.toNat))).map Char.ofNat

end Dialogue.Text
