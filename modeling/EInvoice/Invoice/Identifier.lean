import EInvoice.Failure
import EInvoice.Text.Quoted

/-!
# Check digits and identifiers

The check digit of a number (a text of decimal digits) is computed modulo 11: the digits
are weighted from the right with 2, 3, …, 11, 2, 3, … and summed; when the sum leaves a
remainder `r > 1` on division by 11 the check digit is `11 - r`, otherwise `0`. The same
rule gives the check digit (DV) of a taxpayer number (RUC) and the last digit of a document
identifier (CDC).

A document identifier is 44 bytes: 43 digits and their check digit.

Main statements: `checkDigit_lt_ten` (a check digit is a digit) and
`isValidIdentifier_iff` (an identifier is valid exactly when it is 44 bytes and its last
byte is the check digit of the first 43).
-/

namespace EInvoice.Invoice

open EInvoice.Text

/-- The number of bytes of a document identifier. -/
def identifierLength : Nat := 44

/-- Why a check digit cannot be computed. -/
inductive DigitError where
  /-- The number is empty. -/
  | empty
  /-- The byte `b` of `number` is not a decimal digit (the last such byte is reported). -/
  | nonDigit (b : UInt8) (number : String)
  deriving Repr, DecidableEq

namespace DigitError

def detail : DigitError → String
  | empty => "empty number"
  | nonDigit b number => "non-digit " ++ quoteByte b ++ " in " ++ quote number

end DigitError

/-- The weight of the `i`-th digit counted from the right (from `0`): `2, 3, …, 11, 2, …`. -/
def weight (i : Nat) : Nat := 2 + i % 10

/-- The weighted sum of digit values given from the right, the first weighted by `weight k`. -/
def weightedSum : Nat → List Nat → Nat
  | _, [] => 0
  | k, d :: ds => d * weight k + weightedSum (k + 1) ds

/-- The check digit of a sum. -/
def digitOfSum (total : Nat) : Nat :=
  let rest := total % 11
  if rest > 1 then 11 - rest else 0

/-- Whether a byte is an ASCII decimal digit. -/
def isDigitByte (b : UInt8) : Bool := 48 ≤ b ∧ b ≤ 57

/-- The digit values of bytes given from the right, or the first byte (from the right) that
is not a digit. -/
def digitsFromRight : List UInt8 → Except UInt8 (List Nat)
  | [] => .ok []
  | b :: bs => if isDigitByte b then (digitsFromRight bs).map ((b - 48).toNat :: ·) else .error b

/-- The modulo-11 check digit of the bytes of a number. -/
def checkDigitBytes (number : String) (bytes : List UInt8) : Except DigitError Nat :=
  if bytes.isEmpty then .error .empty
  else match digitsFromRight bytes.reverse with
    | .error b => .error (.nonDigit b number)
    | .ok ds => .ok (digitOfSum (weightedSum 0 ds))

/-- The modulo-11 check digit of a number written in decimal. -/
def checkDigit (number : String) : Except DigitError Nat :=
  checkDigitBytes number number.toUTF8.toList

theorem digitOfSum_lt_ten (total : Nat) : digitOfSum total < 10 := by
  unfold digitOfSum
  have := Nat.mod_lt total (show 11 > 0 by omega)
  dsimp only
  split <;> omega

/-- A check digit is a single decimal digit. -/
theorem checkDigit_lt_ten (number : String) (d : Nat) (h : checkDigit number = .ok d) : d < 10 := by
  unfold checkDigit checkDigitBytes at h
  split at h
  · simp at h
  · split at h
    · simp at h
    · simp at h; rw [← h]; exact digitOfSum_lt_ten _

/-- Whether a document identifier is 44 bytes long and its last byte is the check digit of
the first 43. -/
def isValidIdentifier (cdc : String) : Bool :=
  let bytes := cdc.toUTF8.toList
  if bytes.length ≠ identifierLength then false
  else match checkDigitBytes cdc (bytes.take (identifierLength - 1)) with
    | .error _ => false
    | .ok dv => bytes.getLast? = some (48 + dv.toUInt8)

theorem isValidIdentifier_iff (cdc : String) :
    isValidIdentifier cdc = true ↔
      cdc.toUTF8.toList.length = identifierLength ∧
      ∃ dv, checkDigitBytes cdc (cdc.toUTF8.toList.take (identifierLength - 1)) = .ok dv ∧
        cdc.toUTF8.toList.getLast? = some (48 + dv.toUInt8) := by
  unfold isValidIdentifier
  dsimp only
  constructor
  · intro h
    split at h
    · simp at h
    · rename_i hlen
      refine ⟨by simpa using hlen, ?_⟩
      split at h
      · simp at h
      · rename_i dv hdv
        exact ⟨dv, hdv, by simpa using h⟩
  · rintro ⟨hlen, dv, hdv, hlast⟩
    simp only [hlen, ne_eq, not_true_eq_false, ↓reduceIte, hdv, hlast, decide_true]

example : (checkDigit "80089752").toOption = some 8 := by decide +kernel
example : isValidIdentifier "01800897528001001000000122024030110005550010" = true := by decide +kernel

end EInvoice.Invoice
