import EInvoice.Clock.Time
import EInvoice.Text.Digits

/-!
# Written forms of times

The library writes and reads times in a few fixed forms:

* `date` — `2006-01-02`;
* `dateTime` — `2006-01-02T15:04:05`, the wall clock without its offset;
* `compactDate` — `20060102`, as it stands inside an identifier;
* `stamp` — `2006-01-02T15:04:05Z` or `2006-01-02T15:04:05-03:00`, the wall clock and its
  offset, `Z` for UTC.

Years are written with at least four digits (and a minus sign before the year when it is
negative); every other field with exactly two.

Reading `dateTime` and `date` is strict about the layout: the year has four digits and
month, day, minute and second two each, while the hour may have one or two. Seconds may be
followed by a fraction (`.5` or `,5`). Every field must be in range for the calendar
(`2024-02-30` and `24:00:00` are refused), and nothing may follow the last field.
-/

namespace EInvoice.Clock

open EInvoice.Text

/-- A year with at least four digits, `-` in front when negative. -/
def showYear (y : Int) : String :=
  if y < 0 then "-" ++ padNat 4 y.natAbs else padNat 4 y.toNat

/-- A field of the wall clock with two digits. -/
def two (n : Int) : String := padNat 2 n.toNat

namespace Time

/-- `2006-01-02`. -/
def showDate (t : Time) : String :=
  showYear t.year ++ "-" ++ two t.month ++ "-" ++ two t.day

/-- `20060102`. -/
def showCompactDate (t : Time) : String :=
  showYear t.year ++ two t.month ++ two t.day

/-- `15:04:05`. -/
def showClock (t : Time) : String :=
  two t.hour ++ ":" ++ two t.minute ++ ":" ++ two t.second

/-- `2006-01-02T15:04:05`. -/
def showDateTime (t : Time) : String :=
  t.showDate ++ "T" ++ t.showClock

/-- The offset as `Z` (for UTC) or `+hh:mm` / `-hh:mm`. -/
def showOffset (t : Time) : String :=
  if t.offset = 0 then "Z"
  else
    let a := t.offset.natAbs / 60
    (if t.offset < 0 then "-" else "+") ++ padNat 2 (a / 60) ++ ":" ++ padNat 2 (a % 60)

/-- `2006-01-02T15:04:05Z07:00`: wall clock and offset. -/
def showStamp (t : Time) : String :=
  t.showDateTime ++ t.showOffset

end Time

/-! ## Reading -/

/-- Exactly `n` ASCII digits at the front, and their value. -/
def fixedDigits : Nat → List Char → Option (Nat × List Char)
  | 0, s => some (0, s)
  | n + 1, c :: s =>
    if isDigit c then
      (fixedDigits n s).map fun (v, r) => (digitValue c * Nat.pow 10 n + v, r)
    else none
  | _ + 1, [] => none

/-- A two-digit field; when `fixed` is false a single digit not followed by a digit is also
accepted. -/
def field (fixed : Bool) : List Char → Option (Nat × List Char)
  | c :: d :: r =>
    if isDigit c then
      if isDigit d then some (10 * digitValue c + digitValue d, r)
      else if fixed then none else some (digitValue c, d :: r)
    else none
  | [c] => if isDigit c ∧ !fixed then some (digitValue c, []) else none
  | [] => none

/-- The text `p` at the front, and what follows it. -/
def expect (p : List Char) (s : List Char) : Option (List Char) :=
  if p.isPrefixOf s then some (s.drop p.length) else none

/-- A fraction of a second after the seconds field: a point or comma and digits, of which
the first nine count. Returns nanoseconds and what follows. -/
def fraction : List Char → Nat × List Char
  | c :: d :: r =>
    if (c = '.' ∨ c = ',') ∧ isDigit d then
      let ds := (d :: r).takeWhile isDigit
      let rest := (d :: r).dropWhile isDigit
      let nine := (ds.take 9)
      let v := nine.foldl (fun acc x => 10 * acc + digitValue x) 0
      (v * Nat.pow 10 (9 - nine.length), rest)
    else (0, c :: d :: r)
  | s => (0, s)

/-- Whether the civil fields name a real date and time of day. -/
def validCivil (y m d hh mm ss : Nat) : Bool :=
  1 ≤ m ∧ m ≤ 12 ∧ 1 ≤ d ∧ (d : Int) ≤ daysIn y m ∧ hh < 24 ∧ mm < 60 ∧ ss < 60

/-- The date part `2006-01-02` at the front. -/
def datePart (s : List Char) : Option ((Nat × Nat × Nat) × List Char) := do
  let (y, s) ← fixedDigits 4 s
  let s ← expect ['-'] s
  let (m, s) ← field true s
  let s ← expect ['-'] s
  let (d, s) ← field true s
  pure ((y, m, d), s)

/-- Read `2006-01-02T15:04:05` (taken as UTC). -/
def readDateTime (text : String) : Option Time := do
  let ((y, m, d), s) ← datePart text.toList
  let s ← expect ['T'] s
  let (hh, s) ← field false s
  let s ← expect [':'] s
  let (mm, s) ← field true s
  let s ← expect [':'] s
  let (ss, s) ← field true s
  let (ns, s) := fraction s
  if s.isEmpty ∧ validCivil y m d hh mm ss then
    pure (Time.ofCivil y m d hh mm ss ns 0)
  else none

/-- Read `2006-01-02` (midnight UTC). -/
def readDate (text : String) : Option Time := do
  let ((y, m, d), s) ← datePart text.toList
  if s.isEmpty ∧ validCivil y m d 0 0 0 then pure (Time.ofCivil y m d 0 0 0 0 0) else none

/-- Read `2006-01-02T15:04:05Z` or `2006-01-02T15:04:05+hh:mm`, with an optional fraction
of a second, keeping the offset. -/
def readStamp (text : String) : Option Time := do
  let ((y, m, d), s) ← datePart text.toList
  let s ← expect ['T'] s
  let (hh, s) ← fixedDigits 2 s
  let s ← expect [':'] s
  let (mm, s) ← fixedDigits 2 s
  let s ← expect [':'] s
  let (ss, s) ← fixedDigits 2 s
  let (ns, s) := fraction s
  let off ← match s with
    | ['Z'] => some 0
    | sign :: r =>
      if sign = '+' ∨ sign = '-' then do
        let (oh, r) ← fixedDigits 2 r
        let r ← expect [':'] r
        let (om, r) ← fixedDigits 2 r
        if r.isEmpty ∧ oh < 24 ∧ om < 60 then
          let v : Int := (oh * 3600 + om * 60 : Nat)
          some (if sign = '-' then -v else v)
        else none
      else none
    | [] => none
  if validCivil y m d hh mm ss then pure (Time.ofCivil y m d hh mm ss ns off) else none

/-- A time given in a request: empty for the zero time, else `readStamp`, `readDateTime`
or `readDate`, the first that reads it. -/
def readGiven (text : String) : Option Time :=
  if text.isEmpty then some Time.zero
  else (readStamp text).orElse fun _ => (readDateTime text).orElse fun _ => readDate text

example : (readDateTime "2024-03-01T09:00:00").map Time.showStamp = some "2024-03-01T09:00:00Z" := by
  decide +kernel

end EInvoice.Clock
