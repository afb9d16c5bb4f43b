/-!
# Letter case for matching keywords

Names given by users (log levels, credential formats, hosts, paths) are matched against
ASCII keywords without regard to letter case. Lowering a text for that purpose only has to
be right on the characters whose lower case is ASCII: the ASCII capitals, the capital I with
dot above (`U+0130`, lowered to `i`) and the Kelvin sign (`U+212A`, lowered to `k`). Every
other character beyond ASCII lowers to a character beyond ASCII, so it can never match a
keyword, whatever it is lowered to; it is kept as it is.
-/

namespace EInvoice.Text

/-- A character in lower case for matching against ASCII text. -/
def lowerForMatch (c : Char) : Char :=
  if 'A' ≤ c ∧ c ≤ 'Z' then Char.ofNat (c.toNat + 32)
  else if c.toNat = 0x130 then 'i'
  else if c.toNat = 0x212A then 'k'
  else c

/-- A text in lower case for matching against ASCII text. -/
def lowerText (s : String) : String := String.ofList (s.toList.map lowerForMatch)

theorem lowerText_length (s : String) : (lowerText s).length = s.length := by
  simp [lowerText]
  rfl

example : lowerText "İNFO" = "info" := by decide

end EInvoice.Text
