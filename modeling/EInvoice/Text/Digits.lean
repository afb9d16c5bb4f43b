/-!
# Decimal digits

Numbers are written in decimal with the digits `0` to `9`. A *padded* number has at least
a given width: zeros are put between the sign and the digits until the whole text,
sign included, is that wide. Reading is the inverse for texts of ASCII digits.

Main statement: `toDigits_length_padded` (padding never shortens).
-/

namespace EInvoice.Text

/-- Whether a character is an ASCII digit. -/
def isDigit (c : Char) : Bool := '0' ≤ c ∧ c ≤ '9'

/-- The value of an ASCII digit. -/
def digitValue (c : Char) : Nat := c.toNat - 48

/-- The character of a digit value below ten. -/
def digitChar (d : Nat) : Char :=
  match d with
  | 0 => '0' | 1 => '1' | 2 => '2' | 3 => '3' | 4 => '4'
  | 5 => '5' | 6 => '6' | 7 => '7' | 8 => '8' | _ => '9'

/-- The decimal digits of `n`, most significant first, with no leading zero (`0` is `"0"`). -/
def toDigits (n : Nat) : List Char :=
  if n < 10 then [digitChar n] else toDigits (n / 10) ++ [digitChar (n % 10)]

/-- The value of a list of digits (`none` if some character is not a digit). -/
def ofDigits (cs : List Char) : Option Nat :=
  cs.foldl (fun acc c => acc.bind fun v => if isDigit c then some (10 * v + digitValue c) else none)
    (some 0)

/-- `cs` with `c` put in front until it has length `w`. -/
def padLeft (w : Nat) (c : Char) (cs : List Char) : List Char :=
  List.replicate (w - cs.length) c ++ cs

/-- A natural number, padded with zeros to width `w`. -/
def padNat (w : Nat) (n : Nat) : String :=
  String.ofList (padLeft w '0' (toDigits n))

/-- An integer with at least `w` characters, sign included: `-5` at width 4 is `-005`. -/
def padInt (w : Nat) (n : Int) : String :=
  if n < 0 then "-" ++ padNat (w - 1) n.natAbs else padNat w n.toNat

/-- An integer in decimal, with a minus sign when negative. -/
def showInt (n : Int) : String := padInt 0 n

theorem padLeft_length (w : Nat) (c : Char) (cs : List Char) :
    (padLeft w c cs).length = max w cs.length := by
  simp [padLeft]; omega

/-- Padding never shortens: a padded number is at least as long as its digits. -/
theorem toDigits_length_padded (w n : Nat) :
    (toDigits n).length ≤ (padLeft w '0' (toDigits n)).length := by
  rw [padLeft_length]; omega

example : padInt 8 (-5) = "-0000005" := by decide +kernel
example : padNat 3 7 = "007" := by decide +kernel

end EInvoice.Text
