import Dialogue.Expr.Token
set_option autoImplicit false

/-!
# Literals

Numbers and texts as they are written in expressions.

Normative source: the expressions that `runtime` parses in `_eval_expr` and `_eval_bool`.

Deviations, disclosed: a text holds characters only, so an escape for half of a surrogate pair (`\u`
or `\U`) yields U+FFFD, and an escape by the name of a character (`\N`) counts as malformed, since
the names of characters are not modelled.
-/

namespace Dialogue.Literal

/-- A character that belongs to a word: ASCII letters, digits and the underscore, and everything
beyond ASCII. -/
def isWordPart (c : Char) : Bool := c.isAlphanum || c == '_' || 0x80 ≤ c.toNat

/-- A character that begins a word. -/
def isWordStart (c : Char) : Bool := c.isAlpha || c == '_' || 0x80 ≤ c.toNat

/-! ## Numbers -/

/-- Digits with single underscores between them; the underscores are left out.  `due` says that a
digit must come next. -/
def digits? (isDigit : Char → Bool) (due : Bool) : Text → Option (Text × Text)
  | [] => if due then none else some ([], [])
  | c :: t =>
    if isDigit c then (digits? isDigit false t).map fun (ds, rest) => (c :: ds, rest)
    else if due then none
    else if c = '_' then digits? isDigit true t
    else some ([], c :: t)

/-- A number may be followed by anything but a word, where the words that can follow an operand
are let through. -/
def endsNumber (rest : Text) : Bool :=
  match rest with
  | [] => true
  | c :: _ =>
    !isWordPart c ||
      ["and", "else", "for", "if", "in", "is", "or", "not"].any fun w =>
        Text.startsWith w.toList rest

/-- The value of digits in a base. -/
def valueIn (base : Nat) (ds : Text) : Nat :=
  ds.foldl (fun n c => n * base + (Text.hexValue? c).getD 0) 0

/-- A number in a base that its second character names, after the zero and that character. -/
def radixNumber? (base : Nat) (isDigit : Char → Bool) (t : Text) : Option (Value × Text) := do
  let start := match t with
    | '_' :: r => r
    | r => r
  let (ds, rest) ← digits? isDigit true start
  if endsNumber rest then some (.int (valueIn base ds), rest) else none

/-- An optional exponent: its digits with their sign.  A letter e that no digit follows is not part
of the number, but after a sign a digit must follow. -/
def exponent? (t : Text) : Option (Option Int × Text) :=
  match t with
  | c :: r =>
    if c = 'e' ∨ c = 'E' then
      let signed := r.head? = some '-' ∨ r.head? = some '+'
      let start := if signed then r.drop 1 else r
      if (start.head?.map Char.isDigit).getD false then
        (digits? Char.isDigit true start).map fun (ds, rest) =>
          let e : Int := Text.decimalValue ds
          (some (if r.head? = some '-' then -e else e), rest)
      else if signed then none
      else some (none, t)
    else some (none, t)
  | [] => some (none, [])

/-- The point and the digits after it, if there is a point. -/
def fraction? : Text → Option (Option Text × Text)
  | '.' :: t =>
    if (t.head?.map Char.isDigit).getD false then
      (digits? Char.isDigit true t).map fun (ds, rest) => (some ds, rest)
    else some (some [], t)
  | t => some (none, t)

/-- A number in base ten whose whole digits have been read.  A whole number must not begin with a
zero unless it is zero, nor have too many digits. -/
def decimalNumber? (whole rest : Text) : Option (Value × Text) := do
  let (fraction, rest) ← fraction? rest
  let (exponent, rest) ← exponent? rest
  let places := fraction.getD []
  let x : Number.Decimal :=
    ⟨Text.decimalValue (whole ++ places), exponent.getD 0 - places.length⟩
  match rest with
  | c :: after =>
    if c = 'j' ∨ c = 'J' then
      if endsNumber after then some (.imaginary x.toFloat, after) else none
    else real fraction exponent x rest
  | [] => real fraction exponent x rest
where
  /-- The number is not imaginary. -/
  real (fraction : Option Text) (exponent : Option Int) (x : Number.Decimal) (rest : Text) :
      Option (Value × Text) :=
    if !endsNumber rest then none
    else if fraction.isSome || exponent.isSome then some (.float x.toFloat, rest)
    else if whole.head? = some '0' && whole.any (· != '0') then none
    else if Value.digitLimit < whole.length && whole.any (· != '0') then none
    else some (.int (Text.decimalValue whole), rest)

/-- The number at the beginning of a text that begins with a digit, or with a point and a digit. -/
def number? (t : Text) : Option (Value × Text) :=
  match t with
  | '.' :: _ => decimalNumber? [] t
  | '0' :: 'x' :: r | '0' :: 'X' :: r => radixNumber? 16 (fun c => (Text.hexValue? c).isSome) r
  | '0' :: 'o' :: r | '0' :: 'O' :: r => radixNumber? 8 (fun c => '0' ≤ c && c ≤ '7') r
  | '0' :: 'b' :: r | '0' :: 'B' :: r => radixNumber? 2 (fun c => c == '0' || c == '1') r
  | t => do
    let (whole, rest) ← digits? Char.isDigit true t
    decimalNumber? whole rest

/-! ## Texts -/

/-- The body of a literal up to its closing mark, and what follows.  A backslash keeps the next
character from closing it, and only a line end after a backslash may stand in it. -/
def body? (mark : Char) : Text → Option (Text × Text)
  | [] => none
  | ['\\'] => none
  | '\\' :: c :: t => (body? mark t).map fun (b, rest) => ('\\' :: c :: b, rest)
  | c :: t =>
    if c = mark then some ([], t)
    else if c = '\n' then none
    else (body? mark t).map fun (b, rest) => (c :: b, rest)

/-- The body of a literal up to three closing marks, and what follows. -/
def longBody? (mark : Char) : Text → Option (Text × Text)
  | [] => none
  | ['\\'] => none
  | '\\' :: c :: t => (longBody? mark t).map fun (b, rest) => ('\\' :: c :: b, rest)
  | c :: t =>
    match Text.after? [mark, mark, mark] (c :: t) with
    | some rest => some ([], rest)
    | none => (longBody? mark t).map fun (b, rest) => (c :: b, rest)

/-- The character of a one-letter escape. -/
def simpleEscape? : Char → Option Char
  | '\\' => some '\\'
  | '\x27' => some '\x27'
  | '"' => some '"'
  | 'a' => some '\x07'
  | 'b' => some '\x08'
  | 'f' => some '\x0c'
  | 'n' => some '\n'
  | 'r' => some '\r'
  | 't' => some '\t'
  | 'v' => some '\x0b'
  | _ => none

/-- The number written by the digits of base eight at the beginning, at most three of them, and
how many they are. -/
def octalRun (t : Text) : Nat × Nat :=
  let ds := (t.take 3).takeWhile fun c => '0' ≤ c && c ≤ '7'
  (valueIn 8 ds, ds.length)

/-- The number written by exactly `n` digits of base sixteen at the beginning. -/
def hexRun? (n : Nat) (t : Text) : Option Nat :=
  let ds := t.take n
  if ds.length = n && ds.all fun c => (Text.hexValue? c).isSome then some (valueIn 16 ds) else none

/-- The character with a code, if the code is in range. -/
def character? (n : Nat) : Option Char :=
  if n < 0x110000 then some (if n.isValidChar then Char.ofNat n else '�') else none

/-- Decodes the escapes of a text literal; the second number says how many characters still belong
to an escape that has been decoded.  A backslash before any other character stands for itself. -/
def decodeText? : Nat → Text → Option Text
  | _, [] => some []
  | skip + 1, _ :: t => decodeText? skip t
  | 0, '\\' :: [] => some ['\\']
  | 0, '\\' :: c :: t =>
    if c = '\n' then decodeText? 1 (c :: t)
    else
      match simpleEscape? c with
      | some d => (decodeText? 1 (c :: t)).map (d :: ·)
      | none =>
        if '0' ≤ c && c ≤ '7' then do
          let (n, used) := octalRun (c :: t)
          let rest ← decodeText? used (c :: t)
          return Char.ofNat n :: rest
        else
          match (if c = 'x' then some 2 else if c = 'u' then some 4 else if c = 'U' then some 8
            else none : Option Nat) with
          | some width => do
            let d ← (hexRun? width t).bind character?
            let rest ← decodeText? (width + 1) (c :: t)
            return d :: rest
          | none =>
            if c = 'N' then none
            else (decodeText? 0 (c :: t)).map ('\\' :: ·)
  | 0, c :: t => (decodeText? 0 t).map (c :: ·)

/-- Decodes the escapes of a bytes literal, which holds ASCII characters only. -/
def decodeBytes? : Nat → Text → Option (List UInt8)
  | _, [] => some []
  | skip + 1, _ :: t => decodeBytes? skip t
  | 0, '\\' :: c :: t =>
    if c = '\n' then decodeBytes? 1 (c :: t)
    else
      match simpleEscape? c with
      | some d => (decodeBytes? 1 (c :: t)).map (d.toNat.toUInt8 :: ·)
      | none =>
        if '0' ≤ c && c ≤ '7' then do
          let (n, used) := octalRun (c :: t)
          let rest ← decodeBytes? used (c :: t)
          return n.toUInt8 :: rest
        else if c = 'x' then do
          let n ← hexRun? 2 t
          let rest ← decodeBytes? 3 (c :: t)
          return n.toUInt8 :: rest
        else (decodeBytes? 0 (c :: t)).map (0x5C :: ·)
  | 0, c :: t => (decodeBytes? 0 t).map (c.toNat.toUInt8 :: ·)

/-- What the letters before a literal say about it. -/
structure Marks where
  raw : Bool
  isBytes : Bool
  formatted : Bool
  marked : Bool

/-- The letters that may stand before a literal, in either case. -/
def marks? (word : Text) : Option Marks :=
  let marked := word = ['u']
  match word.map Char.toLower with
  | [] | ['u'] => some ⟨false, false, false, marked⟩
  | ['b'] => some ⟨false, true, false, false⟩
  | ['r'] => some ⟨true, false, false, false⟩
  | ['f'] => some ⟨false, false, true, false⟩
  | ['b', 'r'] | ['r', 'b'] => some ⟨true, true, false, false⟩
  | ['f', 'r'] | ['r', 'f'] => some ⟨true, false, true, false⟩
  | _ => none

/-- The content of a literal with a given body. -/
def content? (m : Marks) (body : Text) : Option Quotation :=
  if m.formatted then some (.formatted m.raw body)
  else if m.isBytes then
    if body.any fun c => 0x80 ≤ c.toNat then none
    else if m.raw then some (.bytes (body.map fun c => c.toNat.toUInt8))
    else (decodeBytes? 0 body).map .bytes
  else if m.raw then some (.text body)
  else (decodeText? 0 body).map .text

/-- The literal at the beginning of a text that begins with a quoting mark. -/
def quotation? (m : Marks) (t : Text) : Option (Token × Text) :=
  match t with
  | [] => none
  | mark :: r => do
    let (body, rest) ←
      match Text.after? [mark, mark] r with
      | some long => longBody? mark long
      | none => body? mark r
    let q ← content? m body
    return (.quotation q m.marked, rest)

end Dialogue.Literal
