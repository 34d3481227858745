import Dialogue.Json.Basic
set_option autoImplicit false

/-!
# Reading JSON

A reader that reports where and why a text is not JSON.  A fault keeps the text from its place on,
so that its line, column and offset can be computed.

Normative source: the JSON that `runtime` (`Engine._exec_actions`), `cli` (`run_cmd`) and
`llm_agent` (`_load_api_key`) read.

Deviation, disclosed: the depth of nesting is not limited, while the source fails when its call
stack is exhausted.
-/

namespace Dialogue.Json

/-- Why a text is not JSON. -/
inductive Problem where
  | valueExpected
  | nameExpected
  | colonExpected
  | commaExpected
  | unterminated
  | controlCharacter
  | badEscape
  | badCode
  | extraData
  | byteOrderMark
  /-- An integer with this many digits is too long. -/
  | tooManyDigits (count : Nat)
  deriving DecidableEq, Repr

/-- A fault: the problem, and the text from its place on. -/
structure Fault where
  problem : Problem
  rest : Text

namespace Problem

/-- The message of a problem, without its place. -/
def message : Problem → Text
  | valueExpected => "Expecting value".toList
  | nameExpected => "Expecting property name enclosed in double quotes".toList
  | colonExpected => "Expecting ':' delimiter".toList
  | commaExpected => "Expecting ',' delimiter".toList
  | unterminated => "Unterminated string starting at".toList
  | controlCharacter => "Invalid control character at".toList
  | badEscape => "Invalid \\escape".toList
  | badCode => "Invalid \\uXXXX escape".toList
  | extraData => "Extra data".toList
  | byteOrderMark => "Unexpected UTF-8 BOM (decode using utf-8-sig)".toList
  | tooManyDigits count =>
    "Exceeds the limit (4300 digits) for integer string conversion: value has ".toList
      ++ Text.ofNat count
      ++ " digits; use sys.set_int_max_str_digits() to increase the limit".toList

end Problem

/-- The message of a fault in a text: the problem, its line, its column and its offset. -/
def Fault.message (whole : Text) (f : Fault) : Text :=
  match f.problem with
  | .tooManyDigits _ => f.problem.message
  | p =>
    let offset := whole.length - f.rest.length
    let passed := whole.take offset
    let line := (passed.filter (· == '\n')).length + 1
    let column := (passed.reverse.takeWhile (· != '\n')).length + 1
    p.message ++ ": line ".toList ++ Text.ofNat line ++ " column ".toList ++ Text.ofNat column
      ++ " (char ".toList ++ Text.ofNat offset ++ [')']

/-- The text after blanks. -/
def skipBlanks (t : Text) : Text :=
  t.dropWhile fun c => c == ' ' || c == '\t' || c == '\n' || c == '\r'

/-- A number of four digits of base sixteen at the beginning. -/
def code? (t : Text) : Option Nat :=
  match t with
  | a :: b :: c :: d :: _ => do
    let a ← Text.hexValue? a
    let b ← Text.hexValue? b
    let c ← Text.hexValue? c
    let d ← Text.hexValue? d
    return ((a * 16 + b) * 16 + c) * 16 + d
  | _ => none

/-- The character of a one-letter escape. -/
def escape? : Char → Option Char
  | '"' => some '"'
  | '\\' => some '\\'
  | '/' => some '/'
  | 'b' => some '\x08'
  | 'f' => some '\x0c'
  | 'n' => some '\n'
  | 'r' => some '\r'
  | 't' => some '\t'
  | _ => none

/-- An escaped code, from the letter u on: its code point and the number of characters that belong
to it.  Two codes that form a pair are one code point; half of a pair may stand alone. -/
def escapedCode (t : Text) : Except Fault (Nat × Nat) :=
  let digits := t.drop 1
  if (digits.drop 4).isEmpty then .error ⟨.badCode, t⟩
  else
    match code? digits with
    | none => .error ⟨.badCode, t⟩
    | some high =>
      let after := digits.drop 4
      if 0xD800 ≤ high ∧ high < 0xDC00 ∧ !(after.drop 6).isEmpty ∧ Text.startsWith ['\\', 'u'] after
      then
        match code? (after.drop 2) with
        | none => .error ⟨.badCode, after.drop 1⟩
        | some low =>
          if 0xDC00 ≤ low ∧ low < 0xE000 then
            .ok (0x10000 + (high - 0xD800) * 0x400 + (low - 0xDC00), 11)
          else .ok (high, 5)
      else .ok (high, 5)

/-- The code points of a text and what follows its closing mark.  `start` is the text from the
opening mark on, and `skip` characters belong to an escape that has been read. -/
def readText (start : Text) : (skip : Nat) → Text → Except Fault (List Nat × Text)
  | _, [] => .error ⟨.unterminated, start⟩
  | skip + 1, _ :: t => readText start skip t
  | 0, '"' :: t => .ok ([], t)
  | 0, '\\' :: [] => .error ⟨.unterminated, start⟩
  | 0, '\\' :: c :: t =>
    if c = 'u' then do
      let (n, used) ← escapedCode (c :: t)
      let (codes, rest) ← readText start used (c :: t)
      return (n :: codes, rest)
    else
      match escape? c with
      | some d => do
        let (codes, rest) ← readText start 1 (c :: t)
        return (d.toNat :: codes, rest)
      | none => .error ⟨.badEscape, '\\' :: c :: t⟩
  | 0, c :: t =>
    if c.toNat < 0x20 then .error ⟨.controlCharacter, c :: t⟩
    else do
      let (codes, rest) ← readText start 0 t
      return (c.toNat :: codes, rest)

/-- The whole digits of a number: a zero, or digits that begin with none. -/
def wholeDigits (t : Text) : Text × Text :=
  match t with
  | '0' :: r => (['0'], r)
  | t => (t.takeWhile Char.isDigit, t.dropWhile Char.isDigit)

/-- The digits after a point, if there are any. -/
def fractionDigits (t : Text) : Text × Text :=
  match t with
  | '.' :: r =>
    let ds := r.takeWhile Char.isDigit
    if ds.isEmpty then ([], t) else (ds, r.dropWhile Char.isDigit)
  | t => ([], t)

/-- The exponent, if there are digits after its letter and sign. -/
def exponentPart (t : Text) : Option Int × Text :=
  match t with
  | c :: r =>
    if c = 'e' ∨ c = 'E' then
      let signed := r.head? = some '-' ∨ r.head? = some '+'
      let start := if signed then r.drop 1 else r
      let ds := start.takeWhile Char.isDigit
      if ds.isEmpty then (none, t)
      else
        let e : Int := Text.decimalValue ds
        (some (if r.head? = some '-' then -e else e), start.dropWhile Char.isDigit)
    else (none, t)
  | [] => (none, [])

/-- A number at the beginning of a text. -/
def readNumber (t : Text) : Except Fault (Json × Text) :=
  let negative := t.head? = some '-'
  let (whole, rest) := wholeDigits (if negative then t.drop 1 else t)
  if whole.isEmpty then .error ⟨.valueExpected, t⟩
  else
    let (fraction, rest) := fractionDigits rest
    let (exponent, rest) := exponentPart rest
    if fraction.isEmpty && exponent.isNone then
      if Value.digitLimit < whole.length then .error ⟨.tooManyDigits whole.length, t⟩
      else
        let n : Int := Text.decimalValue whole
        .ok (.int (if negative then -n else n), rest)
    else
      let d : Number.Decimal :=
        ⟨Text.decimalValue (whole ++ fraction), exponent.getD 0 - fraction.length⟩
      .ok (.float (if negative then -d.toFloat else d.toFloat), rest)

/-- The words that are values. -/
def words : List (String × Json) := [
  ("null", .null), ("true", .bool true), ("false", .bool false), ("NaN", .float (0.0 / 0.0)),
  ("Infinity", .float (1.0 / 0.0)), ("-Infinity", .float (-1.0 / 0.0))]

/-- The word at the beginning of a text, as a value. -/
def word? (t : Text) : Option (Json × Text) :=
  words.findSome? fun (w, v) => (Text.after? w.toList t).map fun rest => (v, rest)

mutual

/-- A value at the beginning of a text; the first number bounds the nesting. -/
def readValue : Nat → Text → Except Fault (Json × Text)
  | 0, t => .error ⟨.valueExpected, t⟩
  | n + 1, t =>
    match t with
    | [] => .error ⟨.valueExpected, []⟩
    | '"' :: r => do
      let (codes, rest) ← readText t 0 r
      return (ofCodes codes, rest)
    | '[' :: r =>
      match skipBlanks r with
      | ']' :: rest => .ok (.array [], rest)
      | r => do
        let (items, rest) ← readItems n r
        return (.array items, rest)
    | c :: r =>
      if c = '\x7b' then
        match skipBlanks r with
        | '\x7d' :: rest => .ok (.object [], rest)
        | r => do
          let (members, rest) ← readMembers n [] r
          return (ofMembers members, rest)
      else
        match word? t with
        | some found => .ok found
        | none => readNumber t

/-- The items of an array through its closing bracket. -/
def readItems : Nat → Text → Except Fault (List Json × Text)
  | 0, t => .error ⟨.valueExpected, t⟩
  | n + 1, t => do
    let (v, rest) ← readValue n t
    match skipBlanks rest with
    | ']' :: rest => return ([v], rest)
    | ',' :: rest => do
      let (vs, rest) ← readItems n (skipBlanks rest)
      return (v :: vs, rest)
    | rest => .error ⟨.commaExpected, rest⟩

/-- The members of an object through its closing brace; a repeated name keeps its place and takes
the later value. -/
def readMembers : Nat → Assoc Json (List Nat) → Text → Except Fault (Assoc Json (List Nat) × Text)
  | 0, _, t => .error ⟨.valueExpected, t⟩
  | n + 1, members, t =>
    match t with
    | '"' :: r => do
      let (name, rest) ← readText t 0 r
      match skipBlanks rest with
      | ':' :: rest => do
        let (v, rest) ← readValue n (skipBlanks rest)
        let members := Assoc.put name v members
        match skipBlanks rest with
        | '\x7d' :: rest => return (members, rest)
        | ',' :: rest => readMembers n members (skipBlanks rest)
        | rest => .error ⟨.commaExpected, rest⟩
      | rest => .error ⟨.colonExpected, rest⟩
    | t => .error ⟨.nameExpected, t⟩

end

/-- The value that a text writes. -/
def read (t : Text) : Except Fault Json :=
  if t.head? = some '\uFEFF' then .error ⟨.byteOrderMark, t⟩
  else do
    let (v, rest) ← readValue (t.length + 1) (skipBlanks t)
    match skipBlanks rest with
    | [] => return v
    | rest => .error ⟨.extraData, rest⟩

end Dialogue.Json
