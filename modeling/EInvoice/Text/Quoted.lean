import EInvoice.Text.Printable

/-!
# Quoted text

Messages quote the text they talk about, so that blanks, control characters and
quotes inside it stay visible. A quoted text is enclosed in double quotes; a quoted
character in single quotes. Inside:

* the enclosing quote and the backslash are preceded by a backslash;
* printable characters (`isPrintable`) stand as they are;
* bell, backspace, form feed, newline, carriage return, tab and vertical tab are written
  `\a \b \f \n \r \t \v`;
* other characters below `0x80` are written `\x` and two hexadecimal digits, other
  characters below `0x10000` `\u` and four, all others `\U` and eight (lower-case digits).
-/

namespace EInvoice.Text

/-- The `n` lower-case hexadecimal digits of `v` (most significant first). -/
def hexDigits (n v : Nat) : String :=
  String.ofList ((List.range n).reverse.map fun i =>
    let d := v / Nat.pow 16 i % 16
    if d < 10 then Char.ofNat (48 + d) else Char.ofNat (87 + d))

/-- The upper-case hexadecimal digits of `v`, at least `w` of them (zeros in front). -/
def hexUpper (w v : Nat) : String :=
  let n := (Nat.toDigits 16 v).length
  String.ofList ((hexDigits (max w n) v).toList.map Char.toUpper)

/-- A code point written as `U+` and at least four upper-case hexadecimal digits. -/
def codePoint (c : Char) : String := "U+" ++ hexUpper 4 c.toNat

/-- How one character is written inside a quoted text whose enclosing quote is `q`. -/
def escapeChar (q : Char) (c : Char) : String :=
  if c = q ∨ c = '\\' then "\\" ++ c.toString
  else if isPrintable c then c.toString
  else match c with
    | '\x07' => "\\a"
    | '\x08' => "\\b"
    | '\x0c' => "\\f"
    | '\n' => "\\n"
    | '\r' => "\\r"
    | '\t' => "\\t"
    | '\x0b' => "\\v"
    | _ =>
      if c.toNat < 0x80 then "\\x" ++ hexDigits 2 c.toNat
      else if c.toNat < 0x10000 then "\\u" ++ hexDigits 4 c.toNat
      else "\\U" ++ hexDigits 8 c.toNat

/-- A text in double quotes, escaped as described above. -/
def quote (s : String) : String :=
  "\"" ++ String.join (s.toList.map (escapeChar '"')) ++ "\""

/-- A character in single quotes, escaped as described above. -/
def quoteChar (c : Char) : String :=
  "'" ++ escapeChar '\'' c ++ "'"

/-- A byte shown as the character with the same code (bytes above `0x7F` are the
characters `U+0080` to `U+00FF`), in single quotes. -/
def quoteByte (b : UInt8) : String :=
  quoteChar (Char.ofNat b.toNat)

example : quote "a\"b" = "\"a\\\"b\"" := by decide
example : codePoint (Char.ofNat 0) = "U+0000" := by decide +kernel
example : codePoint (Char.ofNat 0x1F680) = "U+1F680" := by decide +kernel
example : quoteByte 32 = "' '" := by decide
example : quoteByte 39 = "'\\''" := by decide

end EInvoice.Text
