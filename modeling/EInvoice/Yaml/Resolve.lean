import EInvoice.Text.Digits

/-!
# Resolving YAML scalars

What a plain scalar's text stands for: null, a boolean, an integer, a floating-point number,
a timestamp or a string. The first character decides what is tried:

* a sign or a digit: a timestamp (`YYYY-M-D`, with a time after `T`, `t` or spaces), then
  an integer (decimal, or `0x`, `0o`, `0b` or a leading `0` for octal, underscores ignored),
  then a decimal number, then the binary and octal forms with a sign;
* `.`: a decimal number such as `.5` (its digits may be grouped with underscores between
  them), or `.inf` and `.nan`;
* one of `yYnNtTfFoO~`: only the fixed words `true`, `False`, `NULL`, `~` and the like;
* anything else, and the empty text, which is null: a string.

Integers must fit 64 bits, signed or unsigned. A decimal number too large for a double is a
string. An explicit tag asks for one of these; a text that resolves to something else is a
fault, except that an integer may be read as a floating-point number.

Floating-point numbers are kept as the double nearest their decimal value, rounded to even,
as an exact fraction.
-/

namespace EInvoice.Yaml

open EInvoice.Text

/-- A double: not a number, an infinity, or `q / 2^shift`, with its sign. -/
inductive Binary64 where
  | nan
  | inf (neg : Bool)
  | finite (neg : Bool) (q : Nat) (shift : Int)
  deriving Repr, DecidableEq

/-- What a scalar stands for. An integer at or above `2^63` is unsigned. -/
inductive Scalar where
  | null
  | bool (b : Bool)
  | int (v : Int)
  | float (v : Binary64)
  | timestamp
  | text (s : String)
  deriving Repr, DecidableEq

/-- `floor (log2 (n / d))` for positive `n` and `d`. -/
def floorLog2 (n d : Nat) : Int :=
  let e : Int := (n.log2 : Int) - d.log2
  let below := if e ≥ 0 then n < d * Nat.pow 2 e.toNat else n * Nat.pow 2 (-e).toNat < d
  if below then e - 1 else e

/-- `n / d` rounded to the nearest integer, ties to even. -/
def roundHalfEven (n d : Nat) : Nat :=
  let q := n / d
  let r := n % d
  if 2 * r > d || (2 * r = d && q % 2 = 1) then q + 1 else q

/-- The double nearest a non-negative fraction `n / d`. -/
def nearestDouble (neg : Bool) (n d : Nat) : Binary64 :=
  if n = 0 || d = 0 then .finite neg 0 0
  else
    let e := floorLog2 n d
    let shift : Int := if e ≥ -1022 then 52 - e else 1074
    let q := if shift ≥ 0 then roundHalfEven (n * Nat.pow 2 shift.toNat) d
      else roundHalfEven n (d * Nat.pow 2 (-shift).toNat)
    let big := if shift ≥ 0 then q ≥ Nat.pow 2 (1024 + shift.toNat) else q * Nat.pow 2 (-shift).toNat ≥ Nat.pow 2 1024
    if big then .inf neg else .finite neg q shift

/-- The integer part of a finite double, toward zero. -/
def truncate (neg : Bool) (q : Nat) (shift : Int) : Int :=
  let m : Nat := if shift ≥ 0 then q / Nat.pow 2 shift.toNat else q * Nat.pow 2 (-shift).toNat
  if neg then -(m : Int) else m

/-- Whether a double is at most `2^k`; not a number is not. -/
def Binary64.atMostPow (x : Binary64) (k : Nat) : Bool :=
  match x with
  | .nan => false
  | .inf neg => neg
  | .finite neg q shift =>
    neg || (if shift ≥ 0 then q ≤ Nat.pow 2 (k + shift.toNat) else q * Nat.pow 2 (-shift).toNat ≤ Nat.pow 2 k)

/-- Digits in a base, most significant first, as a number; none if one is not a digit. -/
def digitsIn (base : Nat) (cs : List Char) : Option Nat :=
  cs.foldlM (fun acc c =>
    let l := c.toLower
    let d := if '0' ≤ c && c ≤ '9' then c.toNat - 48
      else if 'a' ≤ l && l ≤ 'z' then l.toNat - 87 else 99
    if d < base then some (acc * base + d) else none) 0

/-- An unsigned 64-bit number in a base; base 0 reads the base from a prefix. -/
def parseUnsigned (cs : List Char) (base : Nat) : Option Nat :=
  if cs.isEmpty then none
  else
    let (base, cs) :=
      if base ≠ 0 then (base, cs)
      else match cs with
        | '0' :: c :: rest =>
          if rest.isEmpty then (8, c :: rest)
          else if c.toLower = 'b' then (2, rest)
          else if c.toLower = 'o' then (8, rest)
          else if c.toLower = 'x' then (16, rest)
          else (8, c :: rest)
        | '0' :: [] => (8, [])
        | _ => (10, cs)
    match digitsIn base cs with
    | some v => if v < Nat.pow 2 64 then some v else none
    | none => none

/-- A signed 64-bit number in a base, with an optional sign. -/
def parseSigned (cs : List Char) (base : Nat) : Option Int :=
  let (neg, rest) := match cs with
    | '-' :: r => (true, r)
    | '+' :: r => (false, r)
    | _ => (false, cs)
  if cs.isEmpty then none
  else match parseUnsigned rest base with
    | some u =>
      if neg then (if u ≤ Nat.pow 2 63 then some (-(u : Int)) else none)
      else if u < Nat.pow 2 63 then some u else none
    | none => none

/-- The digits at the front of a list, and the rest. -/
def spanDigits (cs : List Char) : List Char × List Char := (cs.takeWhile isDigit, cs.dropWhile isDigit)

/-- A decimal number `[-+]?(\.[0-9]+|[0-9]+(\.[0-9]*)?)([eE][-+]?[0-9]+)?`: its sign,
digits and power of ten. -/
def decimalParts (cs : List Char) : Option (Bool × Nat × Int) := do
  let (neg, cs) := match cs with
    | '-' :: r => (true, r)
    | '+' :: r => (false, r)
    | _ => (false, cs)
  let (whole, cs) := spanDigits cs
  let (frac, hasPoint, cs) := match cs with
    | '.' :: r => let (f, r) := spanDigits r; (f, true, r)
    | _ => ([], false, cs)
  if whole.isEmpty && (!hasPoint || frac.isEmpty) then none
  let exp ← match cs with
    | [] => some (0 : Int)
    | e :: r =>
      if e ≠ 'e' && e ≠ 'E' then none
      else
        let (eneg, r) := match r with
          | '-' :: r => (true, r)
          | '+' :: r => (false, r)
          | _ => (false, r)
        if r.isEmpty || !r.all isDigit then none
        else
          let v : Int := (ofDigits r).getD 0
          some (if eneg then -v else v)
  let m := (ofDigits (whole ++ frac)).getD 0
  pure (neg, m, exp - frac.length)

/-- The double of a decimal number; none when it is too large for a double. A number with
more than 310 digits before the point is too large, and one below `10^-330` is zero, so
powers of ten stay small. -/
def decimalDouble (cs : List Char) : Option Binary64 := do
  let (neg, m, e) ← decimalParts cs
  let size : Int := (toDigits m).length + e
  if m = 0 || size < -330 then return .finite neg 0 0
  if size > 310 then none
  let d := if e ≥ 0 then nearestDouble neg (m * Nat.pow 10 e.toNat) 1 else nearestDouble neg m (Nat.pow 10 (-e).toNat)
  match d with
  | .inf _ => none
  | d => some d

/-- The number of days in a month of a year. -/
def daysIn (month year : Nat) : Nat :=
  if month = 2 then (if year % 4 = 0 && (year % 100 ≠ 0 || year % 400 = 0) then 29 else 28)
  else if month = 4 || month = 6 || month = 9 || month = 11 then 30 else 31

/-- One or two digits at the front. -/
def shortNumber : List Char → Option (Nat × List Char)
  | a :: b :: rest =>
    if !isDigit a then none
    else if isDigit b then some (digitValue a * 10 + digitValue b, rest)
    else some (digitValue a, b :: rest)
  | [a] => if isDigit a then some (digitValue a, []) else none
  | [] => none

/-- Exactly two digits. -/
def twoDigits : List Char → Option Nat
  | [a, b] => if isDigit a && isDigit b then some (digitValue a * 10 + digitValue b) else none
  | _ => none

/-- Skip a fraction of a second, `.` or `,` then digits, when there is one. -/
def skipFraction : List Char → List Char
  | c :: d :: rest => if (c = '.' || c = ',') && isDigit d then rest.dropWhile isDigit else c :: d :: rest
  | cs => cs

/-- A time `h:m:s` with an optional fraction; what follows it. -/
def timeOfDay (cs : List Char) : Option (List Char) := do
  let (h, cs) ← shortNumber cs
  if h ≥ 24 then none
  let cs ← match cs with | ':' :: r => some r | _ => none
  let (m, cs) ← shortNumber cs
  if m ≥ 60 then none
  let cs ← match cs with | ':' :: r => some r | _ => none
  let (s, cs) ← shortNumber cs
  if s ≥ 60 then none
  pure (skipFraction cs)

/-- A zone: `Z`, or a sign with `hh:mm`, at the end. -/
def zoneAtEnd : List Char → Bool
  | ['Z'] => true
  | [sign, h1, h2, ':', m1, m2] =>
    (sign = '+' || sign = '-') &&
      (match twoDigits [h1, h2], twoDigits [m1, m2] with
        | some h, some m => h ≤ 24 && m ≤ 60
        | _, _ => false)
  | _ => false

/-- Whether a text is a timestamp: a date `YYYY-M-D`, alone, or followed by a time after
`T` or `t` with a zone, or after spaces without one; the day must be in its month. -/
def isTimestamp (s : String) : Bool :=
  let cs := s.toList
  let year := cs.takeWhile isDigit
  if year.length ≠ 4 then false
  else match cs.drop 4 with
    | '-' :: rest =>
      match shortNumber rest with
      | some (month, '-' :: rest) =>
        match shortNumber rest with
        | some (day, rest) =>
          let dateOk := 1 ≤ month && month ≤ 12 && 1 ≤ day &&
            day ≤ daysIn month ((ofDigits year).getD 0)
          let timeOk := match rest with
            | [] => true
            | c :: more =>
              if c = 'T' || c = 't' then
                match timeOfDay more with
                | some zone => zoneAtEnd zone
                | none => false
              else if c = ' ' then
                match timeOfDay (more.dropWhile (· = ' ')) with
                | some [] => true
                | _ => false
              else false
          dateOk && timeOk
        | none => false
      | _ => false
    | _ => false

/-- The fixed words and what they stand for. -/
def fixedWord (s : String) : Option (String × Scalar) :=
  if s = "true" || s = "True" || s = "TRUE" then some ("!!bool", .bool true)
  else if s = "false" || s = "False" || s = "FALSE" then some ("!!bool", .bool false)
  else if s = "" || s = "~" || s = "null" || s = "Null" || s = "NULL" then some ("!!null", .null)
  else if s = ".nan" || s = ".NaN" || s = ".NAN" then some ("!!float", .float .nan)
  else if s = ".inf" || s = ".Inf" || s = ".INF" || s = "+.inf" || s = "+.Inf" || s = "+.INF" then
    some ("!!float", .float (.inf false))
  else if s = "-.inf" || s = "-.Inf" || s = "-.INF" then some ("!!float", .float (.inf true))
  else if s = "<<" then some ("!!merge", .text "<<")
  else none

/-- What the first character of a text lets it be. -/
inductive Hint where
  | none
  | number
  | word
  | point
  deriving DecidableEq

def hintOf (s : String) : Hint :=
  match s.toList with
  | [] => .word
  | c :: _ =>
    if c = '+' || c = '-' || isDigit c then .number
    else if "yYnNtTfFoO~".toList.contains c then .word
    else if c = '.' then .point
    else .none

/-- Whether every underscore of a number stands between two digits, `prev` being what came
before the text's first character (`'0'` for a digit). Digits of a floating-point number may
be grouped this way. -/
def groupedDigits (prev : Char) : List Char → Bool
  | [] => prev ≠ '_'
  | c :: r =>
    if isDigit c then groupedDigits '0' r
    else if c = '_' then prev = '0' && groupedDigits '_' r
    else prev ≠ '_' && groupedDigits '!' r

/-- An integer scalar in the signed or unsigned range. -/
def intScalar (cs : List Char) (base : Nat) : Option Scalar :=
  match parseSigned cs base with
  | some v => some (.int v)
  | none => (parseUnsigned cs base).map fun v => .int v

/-- What a plain text resolves to, with its tag, when `tag` (empty or a resolvable tag) asks. -/
def resolvePlain (tag text : String) : String × Scalar :=
  let hint := hintOf text
  if hint = .none || tag = "!!str" then ("!!str", .text text)
  else match fixedWord text with
  | some r => r
  | none =>
    match hint with
    | .point =>
      if groupedDigits '^' text.toList then
        match decimalDouble (text.toList.filter (· ≠ '_')) with
        | some d => ("!!float", .float d)
        | none => ("!!str", .text text)
      else ("!!str", .text text)
    | .number =>
      if (tag = "" || tag = "!!timestamp") && isTimestamp text then ("!!timestamp", .timestamp)
      else
        let plain := text.toList.filter (· ≠ '_')
        match intScalar plain 0 with
        | some v => ("!!int", v)
        | none =>
          match decimalDouble plain with
          | some d => ("!!float", .float d)
          | none =>
            match plain with
            | '0' :: 'b' :: rest => match intScalar rest 2 with
              | some v => ("!!int", v)
              | none => ("!!str", .text text)
            | '-' :: '0' :: 'b' :: rest => match parseSigned ('-' :: rest) 2 with
              | some v => ("!!int", .int v)
              | none => ("!!str", .text text)
            | '0' :: 'o' :: rest => match intScalar rest 8 with
              | some v => ("!!int", v)
              | none => ("!!str", .text text)
            | '-' :: '0' :: 'o' :: rest => match parseSigned ('-' :: rest) 8 with
              | some v => ("!!int", .int v)
              | none => ("!!str", .text text)
            | _ => ("!!str", .text text)
    | _ => ("!!str", .text text)

/-- Tags whose texts are resolved. -/
def resolvableTag (tag : String) : Bool :=
  tag = "" || tag = "!!str" || tag = "!!bool" || tag = "!!int" || tag = "!!float" ||
    tag = "!!timestamp" || tag = "!!null"

/-- What a text resolves to under a tag (in short form), with the tag it resolves to. A tag
that is not resolvable takes the text as it is. A tag asking for another kind is a fault. -/
def resolve (tag text : String) : Except String (String × Scalar) :=
  if !resolvableTag tag then .ok (tag, .text text)
  else
    let (rtag, v) := resolvePlain tag text
    if tag = "" || tag = rtag || tag = "!!str" then .ok (rtag, v)
    else match tag, v with
      | "!!float", .int i =>
        if i < Int.pow 2 63 then .ok ("!!float", .float (nearestDouble (i < 0) i.natAbs 1))
        else .error (mismatch rtag)
      | _, _ => .error (mismatch rtag)
where
  mismatch (rtag : String) : String :=
    "cannot decode " ++ rtag ++ " `" ++ text ++ "` as a " ++ tag

/-- The tag a plain text resolves to with no tag given. -/
def resolvedTag (text : String) : String := (resolvePlain "" text).1

example : resolvedTag "" = "!!null" := by decide

end EInvoice.Yaml
