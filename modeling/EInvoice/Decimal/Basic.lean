import EInvoice.Text.Digits

/-!
# Decimal numbers

A `Decimal` is an integer coefficient and a power of ten, `coeff × 10 ^ exp`. Sums,
differences and products are exact. Rounding to `p` places goes half away from zero and
leaves the exponent `-p`; a number that already has exponent `-p` is left as it is.
Division rounds the quotient to a given number of places, also half away from zero;
`div` uses sixteen places.

Written forms: `toString` writes no exponent and no trailing zeros after the point (`0`
for zero, a minus sign for negative numbers), `toFixed p` rounds to `p` places and writes
exactly `p` digits after the point. Reading (`ofString?`) accepts an optional sign, digits
with at most one point, and an optional exponent (`1e3`, `2.5E-2`).

Main statements: `add_exact`, `mul_exact` (sums and products have the exact value) and
`round_exp` (rounding to `p` places gives exponent `-p`).
-/

namespace EInvoice

/-- The number `coeff × 10 ^ exp`. -/
structure Decimal where
  coeff : Int
  exp : Int
  deriving Repr, DecidableEq, Inhabited

namespace Decimal

open EInvoice.Text

/-- The integer `n` as a decimal. -/
def ofInt (n : Int) : Decimal := ⟨n, 0⟩

instance : OfNat Decimal n := ⟨ofInt n⟩

/-- The exact value, as a rational `num / 10 ^ k`: the coefficient scaled to exponent `e`
(for `e ≤ exp`). -/
def scaledTo (d : Decimal) (e : Int) : Int :=
  d.coeff * Int.pow 10 (d.exp - e).toNat

/-- The same value with exponent `e`, truncating digits toward zero when `e > exp`. -/
def rescale (d : Decimal) (e : Int) : Decimal :=
  if e ≤ d.exp then ⟨d.coeff * Int.pow 10 (d.exp - e).toNat, e⟩
  else ⟨d.coeff.tdiv (Int.pow 10 (e - d.exp).toNat), e⟩

/-- Sum, at the smaller of the two exponents. -/
def add (a b : Decimal) : Decimal :=
  let e := min a.exp b.exp
  ⟨a.scaledTo e + b.scaledTo e, e⟩

/-- Negation. -/
def neg (a : Decimal) : Decimal := ⟨-a.coeff, a.exp⟩

/-- Difference. -/
def sub (a b : Decimal) : Decimal := add a (neg b)

/-- Product; exponents add. -/
def mul (a b : Decimal) : Decimal := ⟨a.coeff * b.coeff, a.exp + b.exp⟩

instance : Add Decimal := ⟨add⟩
instance : Sub Decimal := ⟨sub⟩
instance : Mul Decimal := ⟨mul⟩

/-- Comparison of exact values: negative, zero or positive. -/
def compare (a b : Decimal) : Ordering :=
  let e := min a.exp b.exp
  Ord.compare (a.scaledTo e) (b.scaledTo e)

def isPositive (d : Decimal) : Bool := d.coeff > 0
def isNegative (d : Decimal) : Bool := d.coeff < 0
def isZero (d : Decimal) : Bool := d.coeff = 0

/-- The absolute value. -/
def abs (d : Decimal) : Decimal := ⟨d.coeff.natAbs, d.exp⟩

/-- Rounding to `p` places, half away from zero; the result has exponent `-p` (a number that
already has it is returned unchanged). -/
def round (d : Decimal) (p : Int) : Decimal :=
  if d.exp = -p then d
  else
    let r := d.rescale (-p - 1)
    let c := if r.coeff < 0 then r.coeff - 5 else r.coeff + 5
    ⟨c.tdiv 10, -p⟩

/-- The quotient truncated to exponent `-prec`, and the remainder at the exponent that keeps
`a = q × b + r` exact. -/
def quoRem (a b : Decimal) (prec : Int) : Decimal × Decimal :=
  let scale := -prec
  let e := a.exp - b.exp - scale
  if e < 0 then
    let bb := b.coeff * Int.pow 10 (-e).toNat
    (⟨a.coeff.tdiv bb, scale⟩, ⟨a.coeff.tmod bb, a.exp⟩)
  else
    let aa := a.coeff * Int.pow 10 e.toNat
    (⟨aa.tdiv b.coeff, scale⟩, ⟨aa.tmod b.coeff, scale + b.exp⟩)

/-- The quotient `a / b` rounded to `prec` places, half away from zero. -/
def divRound (a b : Decimal) (prec : Int) : Decimal :=
  let (q, r) := quoRem a b prec
  let r2 : Decimal := ⟨2 * (r.coeff.natAbs : Int), r.exp + prec⟩
  if compare r2 b.abs = .lt then q
  else if a.coeff.sign * b.coeff.sign < 0 then q - ⟨1, -prec⟩
  else q + ⟨1, -prec⟩

/-- The quotient rounded to sixteen places. -/
def div (a b : Decimal) : Decimal := divRound a b 16

instance : Div Decimal := ⟨div⟩

/-! ## Writing -/

/-- The written form with exactly the digits of the coefficient after the point when
`exp < 0`; `trim` drops trailing zeros after the point (and the point with them). -/
def render (d : Decimal) (trim : Bool) : String :=
  if 0 ≤ d.exp then showInt (d.coeff * Int.pow 10 d.exp.toNat)
  else
    let digits := toDigits d.coeff.natAbs
    let k := d.exp.natAbs
    let (intPart, fracPart) :=
      if k < digits.length then (digits.take (digits.length - k), digits.drop (digits.length - k))
      else (['0'], List.replicate (k - digits.length) '0' ++ digits)
    let fracPart := if trim then (fracPart.reverse.dropWhile (· = '0')).reverse else fracPart
    let body := String.ofList intPart ++ (if fracPart.isEmpty then "" else "." ++ String.ofList fracPart)
    if d.coeff < 0 then "-" ++ body else body

/-- No exponent, no trailing zeros after the point. -/
protected def toString (d : Decimal) : String := d.render true

instance : ToString Decimal := ⟨Decimal.toString⟩

/-- Rounded to `p` places, with exactly `p` digits after the point. -/
def toFixed (d : Decimal) (p : Int) : String := (d.round p).render false

/-! ## Reading -/

/-- An optional sign and at least one digit, as an integer. -/
def readInt (cs : List Char) : Option Int :=
  match cs with
  | '-' :: ds => if ds.isEmpty then none else (ofDigits ds).map fun v => -(v : Int)
  | '+' :: ds => if ds.isEmpty then none else (ofDigits ds).map fun v => (v : Int)
  | ds => if ds.isEmpty then none else (ofDigits ds).map fun v => (v : Int)

/-- Exponents are 32-bit signed integers. -/
def exponentFits (e : Int) : Bool := -2147483648 ≤ e ∧ e ≤ 2147483647

/-- Read a decimal: optional sign, digits with at most one point, optional exponent. -/
def ofString? (s : String) : Option Decimal := do
  let cs := s.toList
  let (mant, expo) ← match cs.findIdx? (fun c => c = 'e' ∨ c = 'E') with
    | none => some (cs, 0)
    | some i => do
      let e ← readInt (cs.drop (i + 1))
      if exponentFits e then some (cs.take i, e) else none
  let points := mant.filter (· = '.')
  if points.length > 1 then none
  else
    let intPart := mant.filter (· ≠ '.')
    let fracLen := match mant.findIdx? (· = '.') with
      | none => 0
      | some i => mant.length - i - 1
    let v ← readInt intPart
    let e := expo - fracLen
    if exponentFits e then some ⟨v, e⟩ else none

/-! ## Exponent range

The library keeps exponents in 32 bits. A product whose exponent leaves that range, and a
division whose scale does, stop the program instead of giving a wrong result; so does a division
by zero. -/

/-- Why the library stops the program. -/
inductive Overflow where
  /-- a product with this exponent -/
  | product (exp : Int)
  /-- a division whose scale leaves the range -/
  | quotient
  /-- a division by zero -/
  | divisionByZero
  deriving Repr, DecidableEq

/-- What the library says when it stops the program. -/
def Overflow.message : Overflow → String
  | .product e => "exponent " ++ toString e ++ " overflows an int32!"
  | .quotient => "overflow in decimal QuoRem"
  | .divisionByZero => "decimal division by 0"

/-- A product as the library computes it. -/
def mulChecked (a b : Decimal) : Except Overflow Decimal :=
  if exponentFits (a.exp + b.exp) then .ok (a * b) else .error (.product (a.exp + b.exp))

/-- A quotient rounded to sixteen places as the library computes it. -/
def divChecked (a b : Decimal) : Except Overflow Decimal :=
  if b.coeff = 0 then .error .divisionByZero
  else if exponentFits (a.exp - b.exp + 16) then .ok (a / b) else .error .quotient

theorem add_exact (a b : Decimal) (e : Int) (ha : e ≤ a.exp) (hb : e ≤ b.exp) :
    (add a b).scaledTo e = a.scaledTo e + b.scaledTo e := by
  have hpow : ∀ (m : Int) (n : Nat), Int.pow m n = m ^ n := fun _ _ => rfl
  simp only [add, scaledTo, hpow]
  have h1 : (a.exp - e).toNat = (a.exp - min a.exp b.exp).toNat + (min a.exp b.exp - e).toNat := by
    omega
  have h2 : (b.exp - e).toNat = (b.exp - min a.exp b.exp).toNat + (min a.exp b.exp - e).toNat := by
    omega
  rw [h1, h2, Int.pow_add, Int.pow_add, Int.add_mul, Int.mul_assoc, Int.mul_assoc]

theorem mul_exact (a b : Decimal) : (mul a b).coeff = a.coeff * b.coeff ∧
    (mul a b).exp = a.exp + b.exp := ⟨rfl, rfl⟩

theorem round_exp (d : Decimal) (p : Int) : (d.round p).exp = -p := by
  unfold round; split <;> simp_all

example : (ofString? "1e3").map Decimal.toString = some "1000" := by decide +kernel
example : (ofString? "33.335").map (fun d => (d * 3).toFixed 2) = some "100.01" := by decide +kernel

end Decimal

end EInvoice
