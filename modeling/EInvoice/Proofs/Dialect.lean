import EInvoice.Proofs.Envelope
import Mathlib

/-!
# Reading a response in either dialect

A response is read without knowing its dialect by trying SOAP 1.2 and SOAP 1.1 in an order
chosen by which namespace the text mentions (`dialectOrder`). The order is only a guess that
saves a try: every order tries both dialects (`dialectOrder_cases`), and the two never both read
one text, since a dialect reads a text only when the envelope's root is in its namespace
(`readAs_exclusive`). So what a response reads as is what one of the two dialects reads it as,
and reading fails, reporting the failure of each dialect, exactly when both fail.

Main statement: `read_dialect_independent`.
-/

namespace EInvoice.Soap

open EInvoice.Xml EInvoice.Text

/-! ## One dialect -/

/-- A text reads in a dialect only as an envelope of that dialect whose root is the text's root,
in the dialect's namespace. -/
theorem readAs_root {v : Version} {raw : String} {e : Envelope} (h : Envelope.readAs v raw = .ok e) :
    e.version = v ∧ readRoot (trim raw) = .ok (some e.root) ∧ namespaceOf e.root [] = v.namespace := by
  unfold Envelope.readAs at h
  simp only [bind, Except.bind, pure, Except.pure] at h
  split at h
  · cases h
  · split at h <;> try cases h
    rename_i root hroot
    split at h
    · cases h
    · split at h
      · cases h
      · rename_i hns
        split at h <;> cases h
        exact ⟨rfl, hroot, not_not.1 hns⟩

theorem namespace_soap12_ne_soap11 : Version.soap12.namespace ≠ Version.soap11.namespace :=
  soap_namespaces_ne

/-- No text reads in both dialects: its root is in one namespace. -/
theorem readAs_exclusive {raw : String} {e e' : Envelope}
    (h12 : Envelope.readAs .soap12 raw = .ok e) (h11 : Envelope.readAs .soap11 raw = .ok e') :
    False := by
  obtain ⟨-, hroot, hns⟩ := readAs_root h12
  obtain ⟨-, hroot', hns'⟩ := readAs_root h11
  -- both readings start from the same root, read once from the text
  have hsame : e.root = e'.root := by
    rw [hroot] at hroot'
    simpa using hroot'
  rw [hsame, hns'] at hns
  exact namespace_soap12_ne_soap11 hns.symm

/-- What the two dialects make of a text: neither reads it, or exactly one does. -/
theorem readAs_cases (raw : String) :
    (∃ x y, Envelope.readAs .soap12 raw = .error x ∧ Envelope.readAs .soap11 raw = .error y) ∨
    (∃ e y, Envelope.readAs .soap12 raw = .ok e ∧ Envelope.readAs .soap11 raw = .error y) ∨
    (∃ x e, Envelope.readAs .soap12 raw = .error x ∧ Envelope.readAs .soap11 raw = .ok e) := by
  rcases h12 : Envelope.readAs .soap12 raw with x | e <;>
    rcases h11 : Envelope.readAs .soap11 raw with y | e'
  · exact .inl ⟨x, y, rfl, rfl⟩
  · exact .inr (.inr ⟨x, e', rfl, rfl⟩)
  · exact .inr (.inl ⟨e, y, rfl, rfl⟩)
  · exact (readAs_exclusive h12 h11).elim

/-! ## Trying two dialects in turn -/

/-- Trying two dialects gives the first that reads, or the failures of both, in order. -/
theorem read_go_pair (raw : String) (a b : Version) :
    Envelope.read.go raw [a, b] [] =
      match Envelope.readAs a raw, Envelope.readAs b raw with
      | .ok e, _ => .ok e
      | .error _, .ok e => .ok e
      | .error x, .error y => .error ⟨[(a, x), (b, y)]⟩ := by
  simp only [Envelope.read.go]
  cases Envelope.readAs a raw <;> cases Envelope.readAs b raw <;> rfl

/-- The two orders of trying read the same envelopes. -/
theorem read_eq_ok_iff (raw : String) (e : Envelope) :
    Envelope.read raw = .ok e ↔
      Envelope.readAs .soap12 raw = .ok e ∨ Envelope.readAs .soap11 raw = .ok e := by
  unfold Envelope.read
  rcases dialectOrder_cases raw with h | h <;>
    rcases readAs_cases raw with ⟨x, y, h12, h11⟩ | ⟨e', y, h12, h11⟩ | ⟨x, e', h12, h11⟩ <;>
    simp [h, read_go_pair, h12, h11]

/-- A failed reading reports the failure of both dialects, in the order they were tried. -/
theorem read_eq_error {raw : String} {u : Unparseable} (h : Envelope.read raw = .error u) :
    ∃ x y, Envelope.readAs .soap12 raw = .error x ∧ Envelope.readAs .soap11 raw = .error y ∧
      (u.tries = [(.soap12, x), (.soap11, y)] ∨ u.tries = [(.soap11, y), (.soap12, x)]) := by
  unfold Envelope.read at h
  rcases dialectOrder_cases raw with ho | ho <;>
    rcases readAs_cases raw with ⟨x, y, h12, h11⟩ | ⟨e', y, h12, h11⟩ | ⟨x, e', h12, h11⟩ <;>
    simp only [ho, read_go_pair, h12, h11, reduceCtorEq, Except.error.injEq] at h
  · exact ⟨x, y, h12, h11, .inl (by rw [← h])⟩
  · exact ⟨x, y, h12, h11, .inr (by rw [← h])⟩

/-- When neither dialect reads a text, reading it fails. -/
theorem read_error_of_both {raw : String} {x y : EnvelopeError}
    (hx : Envelope.readAs .soap12 raw = .error x) (hy : Envelope.readAs .soap11 raw = .error y) :
    ∃ u, Envelope.read raw = .error u := by
  cases hr : Envelope.read raw with
  | error u => exact ⟨u, rfl⟩
  | ok e =>
    rcases (read_eq_ok_iff raw e).1 hr with h | h
    · rw [hx] at h; cases h
    · rw [hy] at h; cases h

/-! ## Reading without a dialect -/

/-- Which dialect a response is read in does not depend on the namespaces the text mentions.
Reading without a dialect gives envelope `e` exactly when one of the two dialects reads the text
as `e`, and a dialect gives only envelopes of its own version. The two dialects never both read
one text. Reading fails, as an unparseable envelope, exactly when both dialects fail, and the
failure reports the failure of each. -/
theorem read_dialect_independent (raw : String) :
    (∀ e, Envelope.read raw = .ok e ↔
      Envelope.readAs .soap12 raw = .ok e ∨ Envelope.readAs .soap11 raw = .ok e) ∧
    (∀ v e, Envelope.readAs v raw = .ok e → e.version = v) ∧
    ¬ ((∃ e, Envelope.readAs .soap12 raw = .ok e) ∧ ∃ e, Envelope.readAs .soap11 raw = .ok e) ∧
    ((∃ u, Envelope.read raw = .error u) ↔
      (∃ x, Envelope.readAs .soap12 raw = .error x) ∧ ∃ y, Envelope.readAs .soap11 raw = .error y) ∧
    ∀ u, Envelope.read raw = .error u →
      ∃ x y, Envelope.readAs .soap12 raw = .error x ∧ Envelope.readAs .soap11 raw = .error y ∧
        u.tries.Perm [(.soap12, x), (.soap11, y)] := by
  refine ⟨read_eq_ok_iff raw, fun _ _ h => (readAs_root h).1,
    fun ⟨⟨_, h12⟩, ⟨_, h11⟩⟩ => readAs_exclusive h12 h11, ⟨?_, ?_⟩, ?_⟩
  · rintro ⟨u, hu⟩
    obtain ⟨x, y, hx, hy, -⟩ := read_eq_error hu
    exact ⟨⟨x, hx⟩, ⟨y, hy⟩⟩
  · rintro ⟨⟨x, hx⟩, ⟨y, hy⟩⟩
    exact read_error_of_both hx hy
  · intro u hu
    obtain ⟨x, y, hx, hy, htries⟩ := read_eq_error hu
    refine ⟨x, y, hx, hy, ?_⟩
    rcases htries with h | h <;> rw [h]
    exact List.Perm.swap _ _ _

end EInvoice.Soap
