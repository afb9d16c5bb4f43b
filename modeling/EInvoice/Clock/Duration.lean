import EInvoice.Text.Digits

/-!
# Reading durations

A duration is written as an optional sign and one or more numbers with units, as in `1h30m`,
`1.5s` or `-250ms`. The units are `ns`, `us` (also `µs` and `μs`), `ms`, `s`, `m` and `h`;
a lone `0` needs none. The value is a whole number of nanoseconds, which must fit 64 bits
signed.

A fraction is scaled in double precision, as the number of nanoseconds it adds need not be
whole: its digits `f`, read while they fit 63 bits, add `f · (unit / 10^k)` truncated, where
`k` is the number of digits read.
-/

namespace EInvoice.Clock

open EInvoice.Text

/-- Nanoseconds in a unit. -/
def unitNanos (u : String) : Option Nat :=
  if u = "ns" then some 1
  else if u = "us" || u = "µs" || u = "μs" then some 1000
  else if u = "ms" then some 1000000
  else if u = "s" then some 1000000000
  else if u = "m" then some 60000000000
  else if u = "h" then some 3600000000000
  else none

def limit : Nat := Nat.pow 2 63

/-- The digits of a fraction while they fit: their value and ten to the number read. -/
def fractionValue (ds : List Char) : Nat × Float :=
  let r := ds.foldl (fun (acc : Nat × Float × Bool) c =>
    let (x, scale, overflow) := acc
    if overflow || x > (limit - 1) / 10 then (x, scale, true)
    else
      let y := x * 10 + digitValue c
      if y > limit then (x, scale, true) else (y, scale * 10, false)) (0, 1, false)
  (r.1, r.2.1)

/-- Whether a character ends a unit. -/
def endsUnit (c : Char) : Bool := c = '.' || isDigit c

/-- The sum of the terms of a duration, in nanoseconds, added to `d`. -/
def durationTerms : Nat → List Char → Nat → Option Nat
  | 0, _, d => some d
  | _, [], d => some d
  | fuel + 1, c :: cs, d => do
    if !endsUnit c then none
    let whole := (c :: cs).takeWhile isDigit
    let rest := (c :: cs).dropWhile isDigit
    let v := (ofDigits whole).getD 0
    if v > limit then none
    let (f, scale, post, rest) := match rest with
      | '.' :: r =>
        let fs := r.takeWhile isDigit
        let (f, scale) := fractionValue fs
        (f, scale, !fs.isEmpty, r.dropWhile isDigit)
      | _ => (0, 1, false, rest)
    if whole.isEmpty && !post then none
    let u := rest.takeWhile (!endsUnit ·)
    if u.isEmpty then none
    let unit ← unitNanos (String.ofList u)
    if v > limit / unit then none
    let v := v * unit
    let v := if f > 0 then v + (Float.ofNat f * (Float.ofNat unit / scale)).toUInt64.toNat else v
    if v > limit then none
    if d + v > limit then none
    durationTerms fuel (rest.dropWhile (!endsUnit ·)) (d + v)

/-- The nanoseconds of a duration text, if it is one. -/
def parseDuration (s : String) : Option Int :=
  let (neg, cs) := match s.toList with
    | '-' :: r => (true, r)
    | '+' :: r => (false, r)
    | cs => (false, cs)
  if cs = ['0'] then some 0
  else if cs.isEmpty then none
  else do
    let d ← durationTerms (cs.length + 1) cs 0
    if neg then some (-(d : Int))
    else if d ≥ limit then none
    else some d

/-- Every duration read is below 2^63 nanoseconds. -/
theorem parseDuration_lt {s : String} {d : Int} (h : parseDuration s = some d) : d < limit := by
  have hpos : (0 : Int) < limit := by unfold limit; decide
  unfold parseDuration at h
  -- the sign, then a lone zero, then no digits at all, then the terms
  split at h
  split at h
  · cases h; exact hpos
  split at h
  · cases h
  simp only [bind, Option.bind_eq_some_iff] at h
  obtain ⟨d', -, h⟩ := h
  split at h
  · cases h; omega
  · split at h
    · cases h
    · cases h; omega

example : parseDuration "0" = some 0 ∧ parseDuration "-1m30s" = some (-90000000000) := by decide

end EInvoice.Clock
