import EInvoice.Clock.Layout
import EInvoice.Proofs.Basic

/-!
# The civil calendar, and dates written and read back

A day count is read as a civil date by `civilFromDays` and a civil date counted by
`daysFromCivil`, both in closed form, through 400-year eras that start on March 1. The closed
forms are opaque to arithmetic as they stand, so each proof first cuts the day of the era the
way the calendar does (`EraDay`): whole centuries of 36524 days, whole four-year blocks of 1461
days, whole years of 365 days and the day of the year. Then each division in the formulas has
a known quotient, and the calendar's facts are linear:

* counting the days of the date of a day gives the day back (`daysFromCivil_civilFromDays`);
* the date of a day is a real date: its day is within the length of its month
  (`civilFromDays_day_le`).

From these, a wall clock written as `2006-01-02T15:04:05` is read back as the same wall clock
to the second, taken as UTC (`readDateTime_showDateTime`).
-/

namespace EInvoice.Clock

open EInvoice.Text

/-! ## Cutting a day of an era -/

/-- A day of a 400-year era, counted from the era's first March 1, cut the way the calendar
cuts it: `c` whole centuries of 36524 days, `q` whole four-year blocks of 1461 days, `u` whole
years of 365 days and `v` days into the year. A year's 366th day is the last day of a
four-year block, and only the fourth century has the block that closes it. -/
structure EraDay (doe c q u v : Int) : Prop where
  eq : doe = 36524 * c + 1461 * q + 365 * u + v
  century : 0 ≤ c ∧ c ≤ 3
  block : 0 ≤ q
  year : 0 ≤ u ∧ u ≤ 3
  day : 0 ≤ v ∧ v ≤ 365
  leapDay : v < 365 ∨ u = 3
  inCentury : 1461 * q + 365 * u + v ≤ 36524
  lastCentury : 1461 * q + 365 * u + v = 36524 → c = 3

theorem EraDay.exists {doe : Int} (h0 : 0 ≤ doe) (h1 : doe ≤ 146096) :
    ∃ c q u v, EraDay doe c q u v := by
  -- the fourth century and the fourth year of a block take the era's last day
  let c := min (doe / 36524) 3
  let s := (doe - 36524 * c) % 1461
  refine ⟨c, (doe - 36524 * c) / 1461, min (s / 365) 3, s - 365 * min (s / 365) 3, ?_⟩
  constructor <;> omega

section
variable {doe c q u v : Int} (h : EraDay doe c q u v)
include h

/-- The year of the era that the calendar's formula gives is the one the cut gives. -/
theorem EraDay.yearOfEra :
    (doe - doe / 1460 + doe / 36524 - doe / 146096) / 365 = 100 * c + 4 * q + u := by
  obtain ⟨hd, hc, hq, hu, hv, hv', hr, hlast⟩ := h
  by_cases hend : 1461 * q + 365 * u + v = 36524
  case pos =>
    -- the era's last day
    have hc3 := hlast hend
    have hdoe : doe = 146096 := by omega
    have hq' : 4 * q + u = 99 := by omega
    subst hdoe
    omega
  case neg =>
    have hC : doe / 36524 = c := by omega
    have hE : doe / 146096 = 0 := by omega
    -- a block's leap day has been counted once the year's 1460 days are reached
    have hA : doe / 1460 = 25 * c + q + (24 * c + q + 365 * u + v) / 1460 := by omega
    have hδ : (24 * c + q + 365 * u + v) / 1460 ≤ v ∧
        v - (24 * c + q + 365 * u + v) / 1460 ≤ 364 := by
      omega
    rw [hC, hE, hA]
    omega

/-- The day of the year that the calendar's formula gives is the one the cut gives. -/
theorem EraDay.dayOfYear :
    doe - (365 * (100 * c + 4 * q + u) + (100 * c + 4 * q + u) / 4 - (100 * c + 4 * q + u) / 100) =
      v := by
  obtain ⟨hd, hc, hq, hu, hv, hv', hr, hlast⟩ := h
  omega

end

/-! ## Days and dates -/

/-- The civil date `v` days after March 1 of year `y` (`v` at most 365): months are counted
from March, so January and February fall in the next year. -/
def marchDate (y v : Int) : Int × Int × Int :=
  let mp := (5 * v + 2) / 153
  let m := if mp < 10 then mp + 3 else mp - 9
  (if m ≤ 2 then y + 1 else y, m, v - (153 * mp + 2) / 5 + 1)

/-- The civil date of a day is found by cutting the day of its era. -/
theorem civilFromDays_of_cut {z era c q u v : Int} (hera : (z + 719468) / 146097 = era)
    (hcut : EraDay (z + 719468 - era * 146097) c q u v) :
    civilFromDays z = marchDate (100 * c + 4 * q + u + era * 400) v := by
  have hdoy := hcut.dayOfYear
  simp only [civilFromDays, marchDate, hera, hcut.yearOfEra, hdoy]

theorem civilFromDays_cut (z : Int) : ∃ era c q u v, (z + 719468) / 146097 = era ∧
    EraDay (z + 719468 - era * 146097) c q u v := by
  have h0 : 0 ≤ z + 719468 - (z + 719468) / 146097 * 146097 := by omega
  obtain ⟨c, q, u, v, hcut⟩ := EraDay.exists h0 (by omega)
  exact ⟨_, c, q, u, v, rfl, hcut⟩

theorem civilFromDays_month (z : Int) :
    1 ≤ (civilFromDays z).2.1 ∧ (civilFromDays z).2.1 ≤ 12 := by
  simp only [civilFromDays]
  split_ifs <;> omega

theorem civilFromDays_day (z : Int) :
    1 ≤ (civilFromDays z).2.2 ∧ (civilFromDays z).2.2 ≤ 31 := by
  simp only [civilFromDays]
  omega

/-- Counting the days of a civil date undoes reading a day count as a date. -/
theorem daysFromCivil_civilFromDays (z : Int) :
    daysFromCivil (civilFromDays z).1 (civilFromDays z).2.1 (civilFromDays z).2.2 = z := by
  obtain ⟨era, c, q, u, v, hera, hcut⟩ := civilFromDays_cut z
  rw [civilFromDays_of_cut hera hcut]
  have hdoy := hcut.dayOfYear
  obtain ⟨-, hc, hq, hu, hv, -, hr, -⟩ := hcut
  -- the year of the era is below 400, so the era is found again
  have hera' : (100 * c + 4 * q + u + era * 400) / 400 = era := by omega
  simp only [marchDate, daysFromCivil]
  split_ifs <;> simp only [Int.add_sub_cancel, Int.sub_add_cancel, hera'] <;> omega

theorem isLeap_iff (y : Int) : isLeap y = true ↔ y % 4 = 0 ∧ (y % 100 ≠ 0 ∨ y % 400 = 0) := by
  simp [isLeap]

/-- Every day has a real civil date: its day is within the length of its month. -/
theorem civilFromDays_day_le (z : Int) :
    (civilFromDays z).2.2 ≤ daysIn (civilFromDays z).1 (civilFromDays z).2.1 := by
  obtain ⟨era, c, q, u, v, hera, hcut⟩ := civilFromDays_cut z
  rw [civilFromDays_of_cut hera hcut]
  obtain ⟨-, hc, hq, hu, hv, hleap, hr, hlast⟩ := hcut
  simp only [marchDate, daysIn, isLeap_iff]
  split_ifs <;> omega


/-! ## Reading a written date and time -/

/-- A run of digits is read as the number it writes. -/
theorem fixedDigits_digits (rest : List Char) :
    ∀ {cs : List Char} {v : Nat}, (∀ c ∈ cs, isDigit c = true) → ofDigits cs = some v →
      fixedDigits cs.length (cs ++ rest) = some (v, rest)
  | [], v, _, hv => by cases hv; rfl
  | c :: cs, v, h, hv => by
    obtain ⟨w, hw⟩ := ofDigits_of_digits fun d hd => h d (List.mem_cons_of_mem c hd)
    rw [ofDigits_cons (h c List.mem_cons_self) hw, Option.some.injEq] at hv
    subst hv
    simp [fixedDigits, h c List.mem_cons_self,
      fixedDigits_digits rest (fun d hd => h d (List.mem_cons_of_mem c hd)) hw, Nat.pow_eq]

/-- Two digits are read as a field, whether one digit alone would do or not. -/
theorem field_digits (fixed : Bool) (rest : List Char) {cs : List Char} {v : Nat}
    (hlen : cs.length = 2) (h : ∀ c ∈ cs, isDigit c = true) (hv : ofDigits cs = some v) :
    field fixed (cs ++ rest) = some (v, rest) := by
  match cs, hlen with
  | [a, b], _ =>
    have ha := h a (by simp)
    have hb := h b (by simp)
    rw [ofDigits_cons ha (ofDigits_cons hb rfl)] at hv
    cases hv
    simp [field, ha, hb]
    ring


theorem paddedDigits_digits (w n : Nat) : ∀ c ∈ paddedDigits w n, isDigit c = true :=
  fun _ hc => isDigit_of_mem_paddedDigits hc

theorem fixedDigits_paddedDigits {w n : Nat} (hw : 0 < w) (h : n < 10 ^ w) (rest : List Char) :
    fixedDigits w (paddedDigits w n ++ rest) = some (n, rest) := by
  have := fixedDigits_digits rest (paddedDigits_digits w n) (ofDigits_paddedDigits w n)
  rwa [paddedDigits_length hw h] at this

theorem field_paddedDigits (fixed : Bool) {n : Nat} (h : n < 100) (rest : List Char) :
    field fixed (paddedDigits 2 n ++ rest) = some (n, rest) :=
  field_digits fixed rest (paddedDigits_length (by decide) h) (paddedDigits_digits 2 n)
    (ofDigits_paddedDigits 2 n)

theorem expect_cons (c : Char) (s : List Char) : expect [c] (c :: s) = some s := by
  simp [expect]

theorem fraction_nil : fraction [] = (0, []) := rfl

/-- The characters of a date and time in a year that is not negative. -/
theorem showDateTime_toList (t : Time) (hy : 0 ≤ t.year) : t.showDateTime.toList =
    paddedDigits 4 t.year.toNat ++ '-' :: (paddedDigits 2 t.month.toNat ++ '-' ::
      (paddedDigits 2 t.day.toNat ++ 'T' :: (paddedDigits 2 t.hour.toNat ++ ':' ::
        (paddedDigits 2 t.minute.toNat ++ ':' :: paddedDigits 2 t.second.toNat)))) := by
  simp [Time.showDateTime, Time.showDate, Time.showClock, showYear, two, padNat_toList, not_lt.2 hy]

/-- A wall clock written as a date and time is read back, taken as UTC, as the same wall clock
to the second. -/
theorem readDateTime_showDateTime (t : Time) (hy : 0 ≤ t.year ∧ t.year ≤ 9999) :
    ∃ t', readDateTime t.showDateTime = some t' ∧ t'.wallSeconds = t.wallSeconds ∧ t'.offset = 0 := by
  have hdate : 1 ≤ t.month ∧ t.month ≤ 12 ∧ 1 ≤ t.day ∧ t.day ≤ daysIn t.year t.month :=
    ⟨(civilFromDays_month _).1, (civilFromDays_month _).2, (civilFromDays_day _).1,
      civilFromDays_day_le _⟩
  have hsod : 0 ≤ t.secondOfDay ∧ t.secondOfDay < 86400 := by
    simp only [Time.secondOfDay]; omega
  have hlist := showDateTime_toList t hy.1
  have hm : t.month.toNat < 100 := by omega
  have hd : t.day.toNat < 100 := by have : daysIn t.year t.month ≤ 31 := by simp only [daysIn]; split_ifs <;> omega
                                    omega
  have hh : t.hour.toNat < 24 := by simp only [Time.hour]; omega
  have hmi : t.minute.toNat < 60 := by simp only [Time.minute]; omega
  have hs : t.second.toNat < 60 := by simp only [Time.second]; omega
  have hsec := field_paddedDigits true (show t.second.toNat < 100 by omega) []
  rw [List.append_nil] at hsec
  simp only [readDateTime, datePart, hlist, fixedDigits_paddedDigits (by decide) (show t.year.toNat < 10 ^ 4 by omega),
    field_paddedDigits _ hm, field_paddedDigits _ hd, field_paddedDigits _ (show t.hour.toNat < 100 by omega),
    field_paddedDigits _ (show t.minute.toNat < 100 by omega), hsec,
    expect_cons, fraction_nil, Option.bind_eq_bind, Option.pure_def, Option.bind_some]
  have hhour : 0 ≤ t.hour ∧ 0 ≤ t.minute ∧ 0 ≤ t.second := by
    simp only [Time.hour, Time.minute, Time.second]; omega
  have hvalid : validCivil t.year.toNat t.month.toNat t.day.toNat t.hour.toNat t.minute.toNat
      t.second.toNat = true := by
    simp only [validCivil, Int.toNat_of_nonneg hy.1, Int.toNat_of_nonneg (by omega : 0 ≤ t.month),
      Int.toNat_of_nonneg (by omega : 0 ≤ t.day), decide_eq_true_eq]
    omega
  simp only [List.isEmpty_nil, hvalid, and_self, if_true, Option.some.injEq, exists_eq_left']
  refine ⟨?_, rfl⟩
  -- the date is the day count the wall clock gives, and the clock its second of the day
  have hdays : daysFromCivil t.year t.month t.day = t.wallSeconds / 86400 - unixEpochDays :=
    daysFromCivil_civilFromDays _
  have hclock : t.hour * 3600 + t.minute * 60 + t.second = t.wallSeconds % 86400 := by
    simp only [Time.hour, Time.minute, Time.second, Time.secondOfDay]; omega
  simp only [Time.ofCivil, Time.wallSeconds, Int.toNat_of_nonneg hy.1, Int.toNat_of_nonneg hhour.1,
    Int.toNat_of_nonneg hhour.2.1, Int.toNat_of_nonneg hhour.2.2,
    Int.toNat_of_nonneg (by omega : 0 ≤ t.month), Int.toNat_of_nonneg (by omega : 0 ≤ t.day), hdays] at hclock ⊢
  omega

/-- Two times whose wall clocks agree are on the same date. -/
theorem Time.date_eq_of_wallSeconds {a b : Time} (h : a.wallSeconds = b.wallSeconds) :
    a.date = b.date := by
  simp only [Time.date, h]

end EInvoice.Clock
