import Dialogue.Number.Binary
set_option autoImplicit false

/-!
# Decimal numbers

Reading a decimal into the nearest floating-point number, and writing a floating-point number with
the fewest digits that read back as the same number.  The digits come from `shortest`; where the
point goes is the business of a `Layout`.

Normative source: `runtime`, the texts of numbers in `_fn_str` and in the action `set_expr` of
`Engine._exec_actions`.
-/

namespace Dialogue.Number

/-- `digits · 10^exponent`. -/
structure Decimal where
  digits : Nat
  exponent : Int
  deriving DecidableEq, Repr

/-- The number of digits of `n` in base ten. -/
def digitCount (n : Nat) : Nat := (Nat.toDigits 10 n).length

/-- The nearest floating-point number; ties go to the even one, and what is too large is infinite.
-/
def Decimal.toFloat (d : Decimal) : Float :=
  if d.digits = 0 then 0.0
  else
    let magnitude := (digitCount d.digits : Int) + d.exponent
    if 310 < magnitude then 1.0 / 0.0
    else if magnitude < -330 then 0.0
    else Float.ofScientific d.digits (d.exponent < 0) d.exponent.natAbs

/-! ## The shortest digits -/

/-- The reals that round to a number, scaled to fractions of `unit`: from `low` to `high`, where
`value` is the number itself; the ends belong to it iff `closed`. -/
structure Interval where
  low : Nat
  value : Nat
  high : Nat
  unit : Nat
  closed : Bool

/-- The interval of `m · 2^q`; the step below a power of two is half the step above it. -/
def Interval.ofBinary (m : Nat) (q : Int) : Interval :=
  let scale := if 0 ≤ q then twoTo q.toNat else 1
  let unit := if 0 ≤ q then 4 else 4 * twoTo (-q).toNat
  let down := if m = twoTo 52 ∧ -1074 < q then 1 else 2
  ⟨(4 * m - down) * scale, 4 * m * scale, (4 * m + 2) * scale, unit, m % 2 = 0⟩

/-- The interval times `10^k`. -/
def Interval.scale (i : Interval) (k : Int) : Interval :=
  if 0 ≤ k then
    let f := tenTo k.toNat
    { i with low := i.low * f, value := i.value * f, high := i.high * f }
  else { i with unit := i.unit * tenTo (-k).toNat }

/-- The integer lies in the interval. -/
def Interval.has (i : Interval) (n : Nat) : Bool :=
  if i.closed then i.low ≤ n * i.unit && n * i.unit ≤ i.high
  else i.low < n * i.unit && n * i.unit < i.high

/-- The integer of the interval next to its value; of two equally near the even one. -/
def Interval.nearest? (i : Interval) : Option Nat :=
  let below := i.value / i.unit
  let gap := i.value % i.unit
  match i.has below, i.has (below + 1) with
  | true, true =>
    if 2 * gap < i.unit ∨ (2 * gap = i.unit ∧ below % 2 = 0) then some below else some (below + 1)
  | true, false => some below
  | false, true => some (below + 1)
  | false, false => none

/-- The `p` with `10^(p-1) ≤ value < 10^p`, for a positive value. -/
def Interval.magnitude (i : Interval) : Int :=
  if i.unit ≤ i.value then digitCount (i.value / i.unit)
  else 1 - (digitCount ((i.unit - 1) / i.value) : Int)

/-- Tries `n`, `n + 1`, … digits. -/
def Interval.shortestFrom (i : Interval) (p : Int) : (tries n : Nat) → Decimal
  | 0, n => ⟨(i.scale (n - p)).value / (i.scale (n - p)).unit, p - n⟩
  | tries + 1, n =>
    match (i.scale (n - p)).nearest? with
    | some d => ⟨d, p - n⟩
    | none => i.shortestFrom p tries (n + 1)

/-- The decimal with the fewest digits among those that round to `m · 2^q`, and the nearest of
them; seventeen digits always suffice. -/
def shortest (m : Nat) (q : Int) : Decimal :=
  let i := Interval.ofBinary m q
  i.shortestFrom i.magnitude 17 1

/-! ## Layout -/

/-- How digits are laid out.  Numbers from `10^(least - 1)` and below `10^most` are written
positionally, others with an exponent of at least two digits. -/
structure Layout where
  least : Int
  most : Int
  /-- A whole number keeps a point and a zero. -/
  keepPoint : Bool

/-- Without the zeros at its end. -/
def dropTrailingZeros (t : Text) : Text := (t.reverse.dropWhile (· == '0')).reverse

/-- The exponent part. -/
def exponentText (e : Int) : Text :=
  let digits := Text.ofNat e.natAbs
  let padded := if digits.length < 2 then '0' :: digits else digits
  'e' :: (if e < 0 then '-' else '+') :: padded

/-- Digits with the point after the first `p` of them. -/
def Layout.place (layout : Layout) (digits : Text) (p : Int) : Text :=
  if layout.least ≤ p ∧ p ≤ layout.most then
    if p ≤ 0 then '0' :: '.' :: List.replicate (-p).toNat '0' ++ digits
    else if digits.length ≤ p.toNat then
      digits ++ List.replicate (p.toNat - digits.length) '0'
        ++ (if layout.keepPoint then ['.', '0'] else [])
    else digits.take p.toNat ++ '.' :: digits.drop p.toNat
  else
    match digits with
    | [] => []
    | [d] => d :: exponentText (p - 1)
    | d :: rest => d :: '.' :: rest ++ exponentText (p - 1)

/-- The text of a number under a layout. -/
def Layout.write (layout : Layout) (x : Float) : Text :=
  match parts? x with
  | none => if x.isNaN then "nan".toList else if isNegative x then "-inf".toList else "inf".toList
  | some p =>
    let sign : Text := if p.negative then ['-'] else []
    if p.significand = 0 then sign ++ layout.place ['0'] 1
    else
      let d := shortest p.significand p.exponent
      let digits := Text.ofNat d.digits
      sign ++ layout.place (dropTrailingZeros digits) (digits.length + d.exponent)

/-- Numbers are written positionally from `0.0001` up to sixteen digits before the point, and a
whole number keeps `.0`. -/
def plainLayout : Layout := ⟨-3, 16, true⟩

/-- The text of a number. -/
def write (x : Float) : Text := plainLayout.write x

end Dialogue.Number
