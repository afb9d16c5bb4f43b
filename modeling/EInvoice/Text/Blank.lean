/-!
# Blank characters and trimming

A character is *blank* when it is tab, newline, vertical tab, form feed, carriage return,
space, next line (`U+0085`), no-break space (`U+00A0`), or a space separator, line
separator or paragraph separator of Unicode (`U+1680`, `U+2000` to `U+200A`, `U+2028`,
`U+2029`, `U+202F`, `U+205F`, `U+3000`). Texts read from documents and messages are
trimmed of blanks at both ends before they are compared or converted.
-/

namespace EInvoice.Text

/-- Whether a character is blank (see the module comment for the list). -/
def isBlank (c : Char) : Bool :=
  let n := c.toNat
  (9 ≤ n ∧ n ≤ 13) ∨ n = 32 ∨ n = 0x85 ∨ n = 0xA0 ∨ n = 0x1680 ∨
    (0x2000 ≤ n ∧ n ≤ 0x200A) ∨ n = 0x2028 ∨ n = 0x2029 ∨ n = 0x202F ∨ n = 0x205F ∨
    n = 0x3000

/-- A list of characters without its leading blanks. -/
def dropBlanks : List Char → List Char
  | [] => []
  | c :: cs => if isBlank c then dropBlanks cs else c :: cs

/-- A text without blanks at either end. -/
def trim (s : String) : String :=
  String.ofList (dropBlanks (dropBlanks s.toList).reverse).reverse

theorem dropBlanks_head (cs : List Char) (c : Char) (h : (dropBlanks cs).head? = some c) :
    isBlank c = false := by
  induction cs with
  | nil => simp [dropBlanks] at h
  | cons d ds ih =>
    unfold dropBlanks at h
    by_cases hd : isBlank d = true
    · simp [hd] at h; exact ih h
    · simp [hd] at h; subst h; simpa using hd

example : trim " \t a b\n" = "a b" := by decide

end EInvoice.Text
