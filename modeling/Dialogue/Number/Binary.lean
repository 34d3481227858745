import Dialogue.Text.Basic
set_option autoImplicit false

/-!
# Floating-point numbers as exact binary numbers

A finite `Float` is `± m · 2^q` for natural `m` and integer `q`.  Whatever is not plain arithmetic
-- the integer part, the remainder of a division, the conversion from and to integers -- is computed
on `m` and `q` exactly.

Normative source: `runtime`, the arithmetic of `_eval_value_node` and the functions `_fn_int`,
`_fn_float`, `_fn_min` and `_fn_max`.
-/

namespace Dialogue.Number

/-- A power of two. -/
def twoTo (n : Nat) : Nat := Nat.pow 2 n

/-- A power of ten. -/
def tenTo (n : Nat) : Nat := Nat.pow 10 n

/-- A finite floating-point number: `± significand · 2^exponent`. -/
structure Parts where
  negative : Bool
  significand : Nat
  exponent : Int
  deriving DecidableEq, Repr

/-- The sign bit. -/
def isNegative (x : Float) : Bool := twoTo 63 ≤ x.toBits.toNat

/-- The parts of a finite number; none for an infinity or a NaN. -/
def parts? (x : Float) : Option Parts :=
  let bits : Nat := x.toBits.toNat
  let fraction : Nat := bits % twoTo 52
  let scale : Nat := bits / twoTo 52 % twoTo 11
  if scale = 2047 then none
  else if scale = 0 then some ⟨isNegative x, fraction, -1074⟩
  else some ⟨isNegative x, fraction + twoTo 52, (scale : Int) - 1075⟩

/-- `± m · 2^q` for `m` below `2^53` and `q` at least `-1074`, where it is exact. -/
def ofParts (p : Parts) : Float :=
  let sign : Nat := if p.negative then twoTo 63 else 0
  let top : Nat := p.significand.log2
  let bits : Nat :=
    if p.significand = 0 then 0
    else if -1022 ≤ p.exponent + top then
      (p.exponent + top + 1023).toNat * twoTo 52 + (p.significand * twoTo (52 - top) - twoTo 52)
    else p.significand * twoTo (p.exponent + 1074).toNat
  Float.ofBits (UInt64.ofNat (sign + bits))

/-- The zero with the sign of `x`. -/
def zeroLike (x : Float) : Float := if isNegative x then -0.0 else 0.0

/-- The integer part, toward zero. -/
def Parts.truncate (p : Parts) : Int :=
  let magnitude : Nat :=
    if 0 ≤ p.exponent then p.significand * twoTo p.exponent.toNat
    else p.significand / twoTo (-p.exponent).toNat
  if p.negative then -(magnitude : Int) else magnitude

/-- The greatest integer not above the number. -/
def Parts.floor (p : Parts) : Int :=
  let scaled : Int := if p.negative then -(p.significand : Int) else p.significand
  if 0 ≤ p.exponent then scaled * twoTo p.exponent.toNat
  else Int.fdiv scaled (twoTo (-p.exponent).toNat)

/-- The greatest integral number not above `x`; an infinity or NaN is its own. -/
def floor (x : Float) : Float :=
  match parts? x with
  | none => x
  | some p => Float.ofInt p.floor

/-- The remainder of the division toward zero; it has the sign of `x` and is exact. -/
def remainder (x y : Float) : Float :=
  match parts? x, parts? y with
  | some p, some r =>
    if r.significand = 0 then 0.0 / 0.0
    else
      let q := min p.exponent r.exponent
      let a := p.significand * twoTo (p.exponent - q).toNat
      let b := r.significand * twoTo (r.exponent - q).toNat
      ofParts ⟨p.negative, a % b, q⟩
  | some _, none => if y.isNaN then y else x
  | none, _ => 0.0 / 0.0

/-- The remainder with the sign of the divisor. -/
def modulo (x y : Float) : Float :=
  let r := remainder x y
  if r == 0.0 then zeroLike y
  else if (y < 0.0) != (r < 0.0) then r + y
  else r

/-- The quotient rounded down, as the whole number next to the rounded quotient of what the
remainder leaves. -/
def floorQuotient (x y : Float) : Float :=
  let r := remainder x y
  let whole := (x - r) / y
  let whole := if !(r == 0.0) && (y < 0.0) != (r < 0.0) then whole - 1.0 else whole
  if whole == 0.0 then zeroLike (x / y)
  else
    let below := floor whole
    if whole - below > 0.5 then below + 1.0 else below

/-- The integer as a floating-point number, ties to even; none if it is out of range. -/
def ofInt? (n : Int) : Option Float :=
  let x := Float.ofInt n
  if x.isInf then none else some x

end Dialogue.Number
