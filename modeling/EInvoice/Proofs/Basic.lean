import EInvoice.Text.Digits
import EInvoice.Text.Blank
import Mathlib

/-!
# Shared facts: checked steps, bytes of a text, decimal digits, blanks

Small theories that the proofs about identifiers, signatures and requests all rest on.

* A chain of checked steps (`Except`) succeeds exactly when each step succeeds on what the step
  before it gave (`Except.bind_eq_ok`); renaming the failure does not change a success.
* The bytes of a text are the UTF-8 encodings of its characters, one after the other; a decimal
  digit is one byte, its code, and a character whose bytes are all digit codes is a digit.
* A number written with `w` digits (`paddedDigits`) has exactly `w` characters when it is below
  `10 ^ w`, and reading the digits back gives the number, so two numbers written with the same
  width are equal exactly when their texts are.
* A text with no blank character is its own trim.
* A list is what is left when the copies of a value that end it are dropped, followed by those
  copies.
-/

namespace EInvoice

/-! ## Checked steps -/

theorem Except.bind_eq_ok {ε α β : Type} {x : Except ε α} {f : α → Except ε β} {b : β} :
    x >>= f = .ok b ↔ ∃ a, x = .ok a ∧ f a = .ok b := by
  cases x with
  | error e => simp [bind, Except.bind]
  | ok a => simp [bind, Except.bind]

theorem Except.mapError_eq_ok {ε ε' α : Type} {x : Except ε α} {g : ε → ε'} {a : α} :
    x.mapError g = .ok a ↔ x = .ok a := by
  cases x <;> simp [Except.mapError]

theorem Except.eq_ok_of_toOption {ε α : Type} {x : Except ε α} {a : α}
    (h : x.toOption = some a) : x = .ok a := by
  cases x <;> simp_all [Except.toOption]

theorem Except.error_bind {ε α β : Type} (e : ε) (f : α → Except ε β) :
    (Except.error e >>= f) = .error e := rfl

/-- A checked map over a list succeeds when each element's step does, and gives their values. -/
theorem Except.mapM_eq_ok {ε α β : Type} {f : α → Except ε β} :
    ∀ {xs : List α} {ys : List β}, xs.mapM f = .ok ys → List.Forall₂ (fun x y => f x = .ok y) xs ys
  | [], ys, h => by
    have : ys = [] := by simpa [pure, Except.pure] using h.symm
    rw [this]
    exact .nil
  | x :: xs, ys, h => by
    rw [List.mapM_cons] at h
    obtain ⟨y, hy, h⟩ := Except.bind_eq_ok.1 h
    obtain ⟨zs, hzs, h⟩ := Except.bind_eq_ok.1 h
    have : ys = y :: zs := by simpa [pure, Except.pure] using h.symm
    rw [this]
    exact .cons hy (Except.mapM_eq_ok hzs)

theorem Except.map_eq_ok {ε α β : Type} {x : Except ε α} {g : α → β} {b : β} :
    g <$> x = .ok b ↔ ∃ a, x = .ok a ∧ g a = b := by
  cases x <;> simp [Functor.map, Except.map]

theorem Except.map_eq_error {ε α β : Type} {x : Except ε α} {g : α → β} {e : ε} :
    g <$> x = .error e ↔ x = .error e := by
  cases x <;> simp [Functor.map, Except.map]

/-- A step that fails under a condition and goes on otherwise succeeds when the condition does not
hold and what follows succeeds. -/
theorem Except.ite_error_eq_ok {ε α : Type} {c : Prop} [Decidable c] {e : ε} {x : Except ε α}
    {a : α} : (if c then Except.error e else x) = .ok a ↔ ¬c ∧ x = .ok a := by
  split <;> simp_all

/-! ## Trailing copies -/

/-- A list is what is left when the copies of `a` that end it are dropped, followed by them. -/
theorem dropWhile_reverse_append {α : Type} [DecidableEq α] (l : List α) (a : α) :
    ∃ n, l = (l.reverse.dropWhile (· = a)).reverse ++ List.replicate n a := by
  refine ⟨(l.reverse.takeWhile (· = a)).length, ?_⟩
  have hz : l.reverse.takeWhile (· = a) =
      List.replicate (l.reverse.takeWhile (· = a)).length a := by
    apply List.eq_replicate_iff.2
    refine ⟨rfl, fun c hc => ?_⟩
    simpa using List.mem_takeWhile_imp hc
  conv_lhs => rw [← List.reverse_reverse l, ← List.takeWhile_append_dropWhile (p := (· = a))
    (l := l.reverse)]
  rw [List.reverse_append, hz, List.reverse_replicate, List.length_replicate]

namespace Text

/-! ## Bytes of a text -/

theorem byteArray_toList_loop (bs : ByteArray) (i : Nat) (r : List UInt8) :
    ByteArray.toList.loop bs i r = r.reverse ++ bs.data.toList.drop i := by
  fun_induction ByteArray.toList.loop bs i r with
  | case1 i r hi ih =>
    rw [ih]
    have next : bs.data.toList.drop i = bs.get! i :: bs.data.toList.drop (i + 1) := by
      rw [List.drop_eq_getElem_cons (by simpa using hi)]
      simp [ByteArray.get!, hi]
    simp [next]
  | case2 i r hi =>
    have done : bs.data.toList.drop i = [] := by
      simp only [List.drop_eq_nil_iff, Array.length_toList]
      simpa using hi
    simp [done]

theorem byteArray_toList (bs : ByteArray) : bs.toList = bs.data.toList := by
  simp [ByteArray.toList, byteArray_toList_loop]

/-- The bytes of a text are the UTF-8 encodings of its characters. -/
theorem toUTF8_toList (s : String) :
    s.toUTF8.toList = s.toList.flatMap String.utf8EncodeChar := by
  rw [byteArray_toList]
  conv_lhs => rw [← String.ofList_toList (s := s)]
  rw [String.toUTF8_eq_toByteArray, String.toByteArray_ofList, List.utf8Encode]
  simp

theorem length_toUTF8_toList (s : String) : s.toUTF8.toList.length = s.utf8ByteSize := by
  rw [byteArray_toList]
  simp

/-! ## Decimal digits -/

theorem isDigit_iff (c : Char) : isDigit c = true ↔ 48 ≤ c.toNat ∧ c.toNat ≤ 57 := by
  simp only [isDigit, decide_eq_true_eq, Char.le_def, Char.toNat]
  simp [UInt32.le_iff_toNat_le]

@[simp] theorem isDigit_digitChar (d : Nat) : isDigit (digitChar d) = true := by
  unfold digitChar
  split <;> decide

theorem digitValue_digitChar {d : Nat} (h : d < 10) : digitValue (digitChar d) = d := by
  interval_cases d <;> rfl

/-- A decimal digit is written in UTF-8 as one byte, its code. -/
theorem utf8EncodeChar_of_isDigit {c : Char} (h : isDigit c = true) :
    String.utf8EncodeChar c = [c.toNat.toUInt8] := by
  have := (isDigit_iff c).1 h
  simp only [Char.toNat] at this
  simp only [String.utf8EncodeChar, Char.toNat, Nat.toUInt8]
  rw [if_pos (by omega)]

theorem flatMap_utf8EncodeChar_of_digits {cs : List Char} (h : ∀ c ∈ cs, isDigit c = true) :
    cs.flatMap String.utf8EncodeChar = cs.map fun c => c.toNat.toUInt8 := by
  induction cs with
  | nil => rfl
  | cons c cs ih =>
    rw [List.flatMap_cons, utf8EncodeChar_of_isDigit (h c List.mem_cons_self),
      ih fun d hd => h d (List.mem_cons_of_mem _ hd)]
    rfl

/-- The bytes of a text of decimal digits are the codes of its characters. -/
theorem toUTF8_toList_of_digits {s : String} (h : ∀ c ∈ s.toList, isDigit c = true) :
    s.toUTF8.toList = s.toList.map fun c => c.toNat.toUInt8 := by
  rw [toUTF8_toList, flatMap_utf8EncodeChar_of_digits h]

theorem toDigits_eq (n : Nat) :
    toDigits n = if n < 10 then [digitChar n] else toDigits (n / 10) ++ [digitChar (n % 10)] := by
  rw [toDigits]

theorem isDigit_of_mem_toDigits {n : Nat} {c : Char} (h : c ∈ toDigits n) : isDigit c = true := by
  induction n using Nat.strong_induction_on with
  | _ n ih =>
    rw [toDigits_eq] at h
    split at h
    · simp_all
    · rcases List.mem_append.1 h with h | h
      · exact ih (n / 10) (by omega) h
      · simp_all

theorem toDigits_ne_nil (n : Nat) : toDigits n ≠ [] := by
  rw [toDigits_eq]
  split <;> simp

/-- A number below `10 ^ w` has at most `w` digits. -/
theorem toDigits_length_le {n w : Nat} (hw : 0 < w) (h : n < 10 ^ w) : (toDigits n).length ≤ w := by
  induction w generalizing n with
  | zero => omega
  | succ w ih =>
    rw [toDigits_eq]
    split
    · simp
    · rename_i hn
      have hw' : 0 < w := by
        rcases Nat.eq_zero_or_pos w with rfl | hw'
        · simp at h; omega
        · exact hw'
      have hdiv : n / 10 < 10 ^ w := by
        rw [pow_succ] at h
        omega
      simpa using ih hw' hdiv

theorem ofDigits_snoc (cs : List Char) (c : Char) :
    ofDigits (cs ++ [c]) =
      (ofDigits cs).bind fun v => if isDigit c then some (10 * v + digitValue c) else none := by
  simp [ofDigits, List.foldl_append]

theorem ofDigits_toDigits (n : Nat) : ofDigits (toDigits n) = some n := by
  induction n using Nat.strong_induction_on with
  | _ n ih =>
    rw [toDigits_eq]
    split
    · rename_i hn
      simp [ofDigits, digitValue_digitChar hn]
    · rw [ofDigits_snoc, ih (n / 10) (by omega)]
      simp [digitValue_digitChar (Nat.mod_lt n (by omega : 10 > 0))]
      omega

theorem ofDigits_of_digits {cs : List Char} (h : ∀ c ∈ cs, isDigit c = true) :
    ∃ v, ofDigits cs = some v := by
  induction cs using List.reverseRecOn with
  | nil => exact ⟨0, rfl⟩
  | append_singleton cs d ih =>
    obtain ⟨v, hv⟩ := ih fun c hc => h c (by simp [hc])
    refine ⟨10 * v + digitValue d, ?_⟩
    rw [ofDigits_snoc, hv]
    simp [h d (by simp)]

/-- A leading digit counts its place. -/
theorem ofDigits_cons {c : Char} (hc : isDigit c = true) :
    ∀ {cs : List Char} {v : Nat}, ofDigits cs = some v →
      ofDigits (c :: cs) = some (digitValue c * 10 ^ cs.length + v) := by
  intro cs
  induction cs using List.reverseRecOn with
  | nil => intro v hv; cases hv; simp [ofDigits, hc]
  | append_singleton cs d ih =>
    intro v hv
    rw [ofDigits_snoc] at hv
    obtain ⟨w, hw, hd⟩ := Option.bind_eq_some_iff.1 hv
    rw [← List.cons_append, ofDigits_snoc, ih hw]
    split at hd
    · cases hd
      simp_all [pow_succ]
      ring
    · cases hd

/-- Leading zeros do not change the value of a number. -/
theorem ofDigits_replicate_zero_append (k : Nat) (cs : List Char) :
    ofDigits (List.replicate k '0' ++ cs) = ofDigits cs := by
  have zeros : ∀ k, (List.replicate k '0').foldl
      (fun acc c => acc.bind fun v => if isDigit c then some (10 * v + digitValue c) else none)
      (some 0) = some 0 := by
    intro k
    induction k with
    | zero => rfl
    | succ k ih =>
      rw [List.replicate_succ', List.foldl_append, ih]
      rfl
  simp only [ofDigits, List.foldl_append, zeros]

/-- A number written with exactly `w` digits, zeros in front. -/
def paddedDigits (w n : Nat) : List Char := padLeft w '0' (toDigits n)

theorem paddedDigits_ne_nil (w n : Nat) : paddedDigits w n ≠ [] := by
  simp [paddedDigits, padLeft, toDigits_ne_nil]

theorem paddedDigits_length {w n : Nat} (hw : 0 < w) (h : n < 10 ^ w) :
    (paddedDigits w n).length = w := by
  rw [paddedDigits, padLeft_length]
  have := toDigits_length_le hw h
  omega

theorem isDigit_of_mem_paddedDigits {w n : Nat} {c : Char} (h : c ∈ paddedDigits w n) :
    isDigit c = true := by
  rcases List.mem_append.1 h with h | h
  · rw [(List.mem_replicate.1 h).2]; rfl
  · exact isDigit_of_mem_toDigits h

theorem ofDigits_paddedDigits (w n : Nat) : ofDigits (paddedDigits w n) = some n := by
  rw [paddedDigits, padLeft, ofDigits_replicate_zero_append, ofDigits_toDigits]

/-- Two numbers written with the same width are equal when their texts are. -/
theorem paddedDigits_inj {w m n : Nat} (h : paddedDigits w m = paddedDigits w n) : m = n := by
  have := ofDigits_paddedDigits w m
  rwa [h, ofDigits_paddedDigits, Option.some.injEq, eq_comm] at this

/-- Width one adds nothing to the digits of a number. -/
theorem paddedDigits_one (n : Nat) : paddedDigits 1 n = toDigits n := by
  have := toDigits_ne_nil n
  simp only [paddedDigits, padLeft]
  rw [Nat.sub_eq_zero_of_le (List.length_pos_iff.2 this), List.replicate_zero, List.nil_append]

theorem padNat_toList (w n : Nat) : (padNat w n).toList = paddedDigits w n := by
  simp [padNat, paddedDigits]

theorem padInt_toList (w : Nat) {n : Int} (h : 0 ≤ n) :
    (padInt w n).toList = paddedDigits w n.toNat := by
  simp [padInt, padNat_toList, not_lt.2 h]

theorem showInt_toList {n : Int} (h : 0 ≤ n) : (showInt n).toList = paddedDigits 1 n.toNat := by
  rw [showInt, padInt_toList 0 h, paddedDigits_one]
  simp [paddedDigits, padLeft]

/-! ## Blanks -/

theorem dropBlanks_of_forall {cs : List Char} (h : ∀ c ∈ cs, isBlank c = false) :
    dropBlanks cs = cs := by
  cases cs with
  | nil => rfl
  | cons c cs => simp [dropBlanks, h c (by simp)]

/-- A text with no blank character is its own trim. -/
theorem trim_of_forall {s : String} (h : ∀ c ∈ s.toList, isBlank c = false) : trim s = s := by
  have h' : ∀ c ∈ s.toList.reverse, isBlank c = false := fun c hc => h c (List.mem_reverse.1 hc)
  simp [trim, dropBlanks_of_forall h, dropBlanks_of_forall h']

end Text

end EInvoice
