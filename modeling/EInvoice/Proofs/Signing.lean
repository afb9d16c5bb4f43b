import EInvoice.Assembly.Assembler
import EInvoice.Invoice.Reading
import EInvoice.Proofs.Basic
import Mathlib

/-!
# The signing state of documents

A program holds its documents by reference and signs them in place. Here such a collection is
a `Store`, the document behind each handle, and a `Call` is one of the four operations that can
sign a document: sealing it with a tree, signing it with a signer at a time, assembling it alone,
or assembling a lot. `Call.run` answers the failure the call reports, or the store after it: the
documents the call gives back are written behind their handles.

What one call can do is said once (`Call.run_eq_ok`): it succeeds only on documents that are all
unsigned, each named once, and then each of them is sealed with a tree and nothing else changes.
Everything else is derived from that:

* a signed document is never changed again, whatever calls follow (`final_of_signed`);
* a document becomes signed only in a call that succeeds and names it, and a call that succeeds
  signs every document it names, a lot all of them (`signed_after_ok`);
* a call that fails changes nothing;
* a signed document shows the tree it was sealed with at every time, and sealing, signing or
  assembling it again fails as already signed (`run_signed`). A lot that holds it fails too, but
  with the first fault of its list: a lot that is too long, or has a missing or repeated document
  before it, reports that instead (`lot_signed_after_missing`).

Main statement: `signing_state_machine`.
-/

namespace EInvoice.Signing

open EInvoice.Invoice EInvoice.Assembly EInvoice.Security EInvoice.Xml EInvoice.Clock

/-- The document sealed with a tree. -/
def sealedAs (d : Document) (x : Element) : Document :=
  { d with state := .signed, signed := some x }

/-! ## Sealing and signing one document -/

theorem sealWith_eq_ok {d d' : Document} {t : Option Element} :
    d.sealWith t = .ok d' ↔ d.state = .unsigned ∧ ∃ x, t = some x ∧ d' = sealedAs d x := by
  unfold Document.sealWith
  cases hs : d.state <;> cases t <;> simp [sealedAs, eq_comm]

theorem sealChecked_eq_ok {d d' : Document} {x : Element} :
    sealChecked d x = .ok d' ↔ d.state = .unsigned ∧ d' = sealedAs d x := by
  simp [sealChecked, Except.mapError_eq_ok, sealWith_eq_ok]

theorem signDocument_eq_ok {s : Signer} {now : Time} {d d' : Document} {x : Element}
    (h : s.signDocument now d = .ok (d', x)) : d.state = .unsigned ∧ d' = sealedAs d x := by
  by_cases hs : d.state = .signed
  · simp [Signer.signDocument, hs, Except.error_bind] at h
  · simp only [Signer.signDocument, hs, ↓reduceIte, Except.bind_eq_ok] at h
    obtain ⟨-, -, y, -, d'', hseal, hpure⟩ := h
    obtain ⟨rfl, rfl⟩ := Prod.mk.inj (Except.ok.inj hpure)
    exact sealChecked_eq_ok.1 hseal

theorem signDocument_signed (s : Signer) (now : Time) {d : Document} (h : d.state = .signed) :
    s.signDocument now d = .error (.alreadySigned d.id) := by
  simp [Signer.signDocument, h, Except.error_bind]

theorem document_eq_ok {a : Assembler} {doc : Option Document} {d' : Document}
    {sd : SignedDocument} (h : a.document doc = .ok (d', sd)) :
    ∃ d, doc = some d ∧ d.state = .unsigned ∧ d' = sealedAs d sd.element := by
  simp only [Assembler.document, Except.bind_eq_ok] at h
  obtain ⟨x, -, h⟩ := h
  cases doc with
  | none => cases h
  | some d =>
    obtain ⟨d'', hseal, hpure⟩ := Except.bind_eq_ok.1 h
    obtain ⟨rfl, rfl⟩ := Prod.mk.inj (Except.ok.inj hpure)
    exact ⟨d, rfl, sealChecked_eq_ok.1 hseal⟩

/-- An assembler's signature stops the program only where the document's tree does. -/
theorem Assembler.sign_eq_halted {a : Assembler} {doc : Option Document} {o : Decimal.Overflow}
    (h : a.sign doc = .error (.halted o)) : ∃ d, doc = some d ∧ d.elementChecked a.now = .error o := by
  rcases doc with _ | d
  · cases h
  refine ⟨d, rfl, ?_⟩
  by_cases hst : d.state = .signed
  · simp [Assembler.sign, hst, Except.error_bind] at h
  cases he : d.elementChecked a.now with
  | error o' =>
    simp [Assembler.sign, hst, he, Except.mapError, Except.error_bind] at h
    rw [h]
  | ok e =>
    -- after the tree, signing fails only without a signer, in the signer or in the QR link
    simp only [Assembler.sign, hst, he, ↓reduceIte, Except.mapError, bind, Except.bind] at h
    rcases hs : a.signer with _ | s
    · simp [hs] at h
    rcases hsg : s.sign e with _ | signed
    · simp [hs, hsg] at h
    rcases hq : a.qr with _ | q
    · simp [hs, hsg, hq, pure, Except.pure] at h
    rcases happ : appendQr q signed with _ | p
    · simp [hs, hsg, hq, happ, Functor.map, Except.map] at h
    · simp [hs, hsg, hq, happ, Functor.map, Except.map] at h

/-- Signing and sealing a document stops the program only where its tree does. -/
theorem Assembler.document_eq_halted {a : Assembler} {doc : Option Document} {o : Decimal.Overflow}
    (h : a.document doc = .error (.halted o)) : ∃ d, doc = some d ∧ d.elementChecked a.now = .error o := by
  rcases hs : a.sign doc with e | rde
  · simp only [Assembler.document, hs, Except.error_bind] at h
    cases h
    exact Assembler.sign_eq_halted hs
  -- after signing, only sealing can fail, as already signed
  rcases doc with _ | d
  · simp [Assembler.document, hs, bind, Except.bind] at h
  rcases hseal : sealChecked d rde with e | d'
  · simp only [Assembler.document, hs, hseal, bind, Except.bind, Except.error.injEq] at h
    subst h
    cases hw : d.sealWith (some rde) <;> simp [sealChecked, hw, Except.mapError] at hseal
  · simp [Assembler.document, hs, hseal, bind, Except.bind, pure, Except.pure] at h

/-! ## The checks of a lot -/

/-- A list that passes the checks of a lot holds only unsigned documents, with identifiers that
differ from each other and from those seen before. -/
theorem lotFault_eq_none : ∀ {seen : List String} {docs : List (Option Document)},
    lotFault seen docs = none →
      (∀ x ∈ docs, ∃ d, x = some d ∧ d.state = .unsigned) ∧
      ((docs.filterMap fun x => x).map (·.id)).Nodup ∧ ∀ d ∈ docs.filterMap (fun x => x), d.id ∉ seen
  | _, [], _ => by simp
  | _, none :: _, h => by simp [lotFault] at h
  | seen, some d :: rest, h => by
    by_cases hs : d.state = .signed
    · simp [lotFault, hs] at h
    by_cases hseen : d.id ∈ seen
    · simp [lotFault, hs, hseen] at h
    have hc : seen.contains d.id = false := by simpa using hseen
    simp only [lotFault, hs, hc, ↓reduceIte, Bool.false_eq_true] at h
    obtain ⟨hall, hnodup, hnew⟩ := lotFault_eq_none h
    have hunsigned : d.state = .unsigned := by cases hd : d.state <;> simp_all
    refine ⟨?_, ?_, ?_⟩
    · intro x hx
      rcases List.mem_cons.1 hx with rfl | hx
      · exact ⟨d, rfl, hunsigned⟩
      · exact hall x hx
    · simp only [List.filterMap_cons, List.map_cons, List.nodup_cons]
      exact ⟨fun hmem => by
        obtain ⟨e, he, hid⟩ := List.mem_map.1 hmem
        exact hnew e he (by simp [hid]), hnodup⟩
    · intro e he
      simp only [List.filterMap_cons, List.mem_cons] at he
      rcases he with rfl | he
      · exact hseen
      · exact fun hmem => hnew e he (List.mem_cons_of_mem _ hmem)

/-- Entries that pass the checks only add to the identifiers seen. -/
theorem lotFault_append_of_none : ∀ {seen : List String} {pre : List (Option Document)}
    (rest : List (Option Document)), lotFault seen pre = none →
      ∃ seen', lotFault seen (pre ++ rest) = lotFault seen' rest
  | seen, [], rest, _ => ⟨seen, rfl⟩
  | _, none :: _, _, h => by simp [lotFault] at h
  | seen, some d :: pre, rest, h => by
    by_cases hs : d.state = .signed
    · simp [lotFault, hs] at h
    by_cases hseen : d.id ∈ seen
    · simp [lotFault, hs, hseen] at h
    have hc : seen.contains d.id = false := by simpa using hseen
    simp only [lotFault, hs, hc, ↓reduceIte, Bool.false_eq_true] at h
    obtain ⟨seen', h'⟩ := lotFault_append_of_none rest h
    exact ⟨seen', by simp only [List.cons_append, lotFault, hs, hc, ↓reduceIte,
      Bool.false_eq_true, h']⟩

theorem signAll_length {a : Assembler} : ∀ {i : Nat} {ds : List Document} {signed : List Element},
    signAll a i ds = .ok signed → signed.length = ds.length
  | _, [], signed, h => by
    have : signed = [] := by simpa [signAll, pure, Except.pure] using h.symm
    simp [this]
  | i, d :: ds, signed, h => by
    simp only [signAll, Except.bind_eq_ok] at h
    obtain ⟨x, -, xs, hrest, hpure⟩ := h
    cases Except.ok.inj hpure
    simp [signAll_length hrest]

/-- A zip of lists of one length relates the first list to the results when each pair does. -/
theorem forall₂_of_zip {α β γ : Type} {R : α × β → γ → Prop} :
    ∀ {xs : List α} {ys : List β} {zs : List γ}, xs.length = ys.length →
      List.Forall₂ R (xs.zip ys) zs → List.Forall₂ (fun x z => ∃ y, R (x, y) z) xs zs
  | [], [], _, _, h => by cases h; exact .nil
  | x :: xs, y :: ys, _, hl, h => by
    cases h with
    | cons hr hrest => exact .cons ⟨y, hr⟩ (forall₂_of_zip (by simpa using hl) hrest)

/-- A lot that is assembled passed its checks, and each of its documents was unsigned and is
given back sealed with a tree. -/
theorem lot_eq_ok {a : Assembler} {id : String} {docs : List (Option Document)}
    {sealed : List Document} {lot : Lot} (h : a.lot id docs = .ok (sealed, lot)) :
    lotFault [] docs = none ∧ List.Forall₂ (fun d d' => d.state = .unsigned ∧ ∃ x, d' = sealedAs d x)
      (docs.filterMap fun x => x) sealed := by
  by_cases he : docs.isEmpty = true
  · simp [Assembler.lot, he, Except.error_bind] at h
  by_cases hl : docs.length > a.maxLot
  · simp [Assembler.lot, he, hl, Except.error_bind] at h
  cases hf : lotFault [] docs with
  | some e => simp [Assembler.lot, he, hl, hf, Except.error_bind] at h
  | none =>
    simp only [Assembler.lot, he, hl, hf, Bool.false_eq_true, ↓reduceIte, Except.bind_eq_ok] at h
    obtain ⟨signed, hsigned, sealed', hmap, hpure⟩ := h
    obtain ⟨rfl, -⟩ := Prod.mk.inj (Except.ok.inj hpure)
    refine ⟨rfl, ?_⟩
    -- each pair of a document and its signed tree was sealed by `sealChecked`
    have hpairs := forall₂_of_zip (signAll_length hsigned).symm (Except.mapM_eq_ok hmap)
    refine hpairs.imp fun d d' ⟨x, hx⟩ => ?_
    obtain ⟨hu, rfl⟩ := sealChecked_eq_ok.1 (Except.mapError_eq_ok.1 hx)
    exact ⟨hu, x, rfl⟩

/-- A lot whose list has a fault, and is within its limit, fails with the first fault. -/
theorem lot_of_fault {a : Assembler} {id : String} {docs : List (Option Document)}
    {e : AssemblyError} (hne : docs ≠ []) (hlen : docs.length ≤ a.maxLot)
    (hf : lotFault [] docs = some e) : a.lot id docs = .error e := by
  have hempty : docs.isEmpty = false := List.isEmpty_eq_false_iff.2 hne
  have hlong : ¬docs.length > a.maxLot := by omega
  simp only [Assembler.lot, hempty, hlong, hf, Bool.false_eq_true, ↓reduceIte, Except.error_bind]

/-- Signing the documents of a lot stops the program only where the tree of one of them does. -/
theorem signAll_eq_halted {a : Assembler} {o : Decimal.Overflow} :
    ∀ {i : Nat} {ds : List Document}, signAll a i ds = .error (.halted o) →
      ∃ d ∈ ds, d.elementChecked a.now = .error o
  | _, [], h => by cases h
  | i, d :: ds, h => by
    rcases hs : a.sign (some d) with e | rde
    · -- the document's own failure is the lot's, and only a stop stays a stop
      simp only [signAll, hs, Except.mapError, bind, Except.bind, Except.error.injEq] at h
      cases e <;> simp only [AssemblyError.ofDocument, reduceCtorEq] at h
      cases h
      obtain ⟨d', hd', he⟩ := Assembler.sign_eq_halted hs
      cases hd'
      exact ⟨d, List.mem_cons_self, he⟩
    rcases hrest : signAll a (i + 1) ds with e | more
    · simp only [signAll, hs, hrest, Except.mapError, bind, Except.bind, Except.error.injEq] at h
      subst h
      obtain ⟨d', hd', he⟩ := signAll_eq_halted hrest
      exact ⟨d', List.mem_cons_of_mem _ hd', he⟩
    · simp [signAll, hs, hrest, Except.mapError, bind, Except.bind, pure, Except.pure] at h

/-- The checks of a lot never stop the program. -/
theorem lotFault_ne_halted {o : Decimal.Overflow} :
    ∀ {seen : List String} {docs : List (Option Document)}, lotFault seen docs ≠ some (.halted o)
  | _, [] => nofun
  | _, none :: _ => nofun
  | seen, some d :: rest => by
    unfold lotFault
    split_ifs
    · simp
    · simp
    · exact lotFault_ne_halted

/-- Sealing signed documents in a checked map fails only as the sealing does. -/
theorem mapM_signing_ne_halted {o : Decimal.Overflow}
    {g : Document × Element → Except SigningError Document} (xs : List (Document × Element)) :
    xs.mapM (fun p => (g p).mapError AssemblyError.signing) ≠ .error (.halted o) := by
  induction xs with
  | nil => nofun
  | cons x xs ih =>
    rw [List.mapM_cons]
    rcases g x with e | y
    · simp [Except.mapError, bind, Except.bind]
    · rcases hxs : xs.mapM (fun p => (g p).mapError AssemblyError.signing) with e | ys
      · simp only [Except.mapError, bind, Except.bind, ne_eq]
        exact fun h => ih (hxs.trans h)
      · simp [Except.mapError, bind, Except.bind, pure, Except.pure]

/-- Assembling a lot stops the program only where the tree of one of its documents does. -/
theorem Assembler.lot_eq_halted {a : Assembler} {id : String} {docs : List (Option Document)}
    {o : Decimal.Overflow} (h : a.lot id docs = .error (.halted o)) :
    ∃ d, some d ∈ docs ∧ d.elementChecked a.now = .error o := by
  by_cases he : docs.isEmpty = true
  · simp [Assembler.lot, he, Except.error_bind] at h
  by_cases hl : docs.length > a.maxLot
  · simp [Assembler.lot, he, hl, Except.error_bind] at h
  cases hf : lotFault [] docs with
  | some e =>
    simp only [Assembler.lot, he, hl, hf, Bool.false_eq_true, ↓reduceIte, Except.error_bind,
      Except.error.injEq] at h
    exact absurd (h ▸ hf) lotFault_ne_halted
  | none =>
    rcases hsigned : signAll a 1 (docs.filterMap fun x => x) with e | signed
    · simp only [Assembler.lot, he, hl, hf, hsigned, Bool.false_eq_true, ↓reduceIte, bind,
        Except.bind, Except.error.injEq] at h
      subst h
      obtain ⟨d, hd, hdo⟩ := signAll_eq_halted hsigned
      exact ⟨d, by simpa using hd, hdo⟩
    · -- after signing, only sealing can fail, and it does not stop the program
      simp only [Assembler.lot, he, hl, hf, hsigned, Bool.false_eq_true, ↓reduceIte, bind,
        Except.bind] at h
      split at h
      · rename_i e hmap
        cases h
        exact absurd hmap (mapM_signing_ne_halted _)
      · cases h

/-! ## Documents held by handles -/

/-- Documents held by handles, as a program holds them by reference. -/
abbrev Store (ι : Type) := ι → Document

/-- A call that can sign documents of a store. An absent handle stands for a missing document. -/
inductive Call (ι : Type) where
  /-- Seal a document with a tree, or with none. -/
  | sealWith (h : ι) (tree : Option Element)
  /-- Sign a document with a signer at a time, and seal it. -/
  | signDocument (signer : Signer) (now : Time) (h : ι)
  /-- Sign and seal one document with an assembler. -/
  | assemble (a : Assembler) (h : Option ι)
  /-- Assemble a lot with an assembler. -/
  | assembleLot (a : Assembler) (id : String) (hs : List (Option ι))

variable {ι : Type} [DecidableEq ι]

/-- Write documents behind their handles, in order. -/
def writeBack (st : Store ι) (ds : List (ι × Document)) : Store ι :=
  ds.foldl (fun st p => Function.update st p.1 p.2) st

namespace Call

/-- The handles of the documents a call names. -/
def handles : Call ι → List ι
  | .sealWith h _ => [h]
  | .signDocument _ _ h => [h]
  | .assemble _ h => h.toList
  | .assembleLot _ _ hs => hs.filterMap fun h => h

/-- Run a call: the failure it reports, or the store with the documents it gave back. -/
def run (st : Store ι) : Call ι → Except Report (Store ι)
  | .sealWith h tree =>
    match (st h).sealWith tree with
    | .ok d => .ok (writeBack st [(h, d)])
    | .error e => .error (Report.of e)
  | .signDocument s now h =>
    match s.signDocument now (st h) with
    | .ok (d, _) => .ok (writeBack st [(h, d)])
    | .error e => .error (Report.of e)
  | .assemble a h =>
    match a.document (h.map st) with
    | .ok (d, _) => .ok (writeBack st (h.toList.zip [d]))
    | .error e => .error (Report.of e)
  | .assembleLot a id hs =>
    match a.lot id (hs.map (Option.map st)) with
    | .ok (sealed, _) => .ok (writeBack st ((hs.filterMap fun h => h).zip sealed))
    | .error e => .error (Report.of e)

/-- The store after a call: the one the call gave when it succeeds, the same when it fails. -/
def next (st : Store ι) (c : Call ι) : Store ι :=
  match c.run st with
  | .ok st' => st'
  | .error _ => st

end Call

/-- The store after a sequence of calls. -/
def final (st : Store ι) (cs : List (Call ι)) : Store ι := cs.foldl Call.next st

@[simp] theorem final_nil (st : Store ι) : final st [] = st := rfl

theorem final_cons (st : Store ι) (c : Call ι) (cs : List (Call ι)) :
    final st (c :: cs) = final (c.next st) cs := rfl

/-! ## Writing documents back -/

theorem writeBack_cons (st : Store ι) (p : ι × Document) (ds : List (ι × Document)) :
    writeBack st (p :: ds) = writeBack (Function.update st p.1 p.2) ds := rfl

theorem writeBack_of_not_mem {ds : List (ι × Document)} {k : ι} (hk : ∀ p ∈ ds, p.1 ≠ k)
    (st : Store ι) : writeBack st ds k = st k := by
  induction ds generalizing st with
  | nil => rfl
  | cons p ds ih =>
    rw [writeBack_cons, ih (fun q hq => hk q (List.mem_cons_of_mem _ hq)),
      Function.update_of_ne (hk p List.mem_cons_self).symm]

theorem writeBack_zip_of_not_mem {hs : List ι} {ds : List Document} {k : ι} (hk : k ∉ hs)
    (st : Store ι) : writeBack st (hs.zip ds) k = st k :=
  writeBack_of_not_mem (fun p hp heq => hk (by rw [← heq]; exact (List.of_mem_zip hp).1)) st

/-- Documents written behind distinct handles are each found behind their own handle. -/
theorem writeBack_zip {R : ι → Document → Prop} {hs : List ι} {ds : List Document}
    (hall : List.Forall₂ R hs ds) : hs.Nodup →
      ∀ (st : Store ι), ∀ k ∈ hs, R k (writeBack st (hs.zip ds) k) := by
  induction hall with
  | nil => exact fun _ _ k hk => absurd hk List.not_mem_nil
  | @cons h d hs ds hr _ ih =>
    intro hnd st k hk
    obtain ⟨hnotin, hnd'⟩ := List.nodup_cons.1 hnd
    rw [List.zip_cons_cons, writeBack_cons]
    rcases List.mem_cons.1 hk with rfl | hk
    · rw [writeBack_zip_of_not_mem hnotin, Function.update_self]
      exact hr
    · exact ih hnd' _ k hk

/-! ## What one call does -/

/-- The document behind `h` was unsigned, and `d` is it sealed with a tree. -/
def SealsTo (st : Store ι) (h : ι) (d : Document) : Prop :=
  (st h).state = .unsigned ∧ ∃ x, d = sealedAs (st h) x

omit [DecidableEq ι] in
theorem filterMap_map_some (st : Store ι) (hs : List (Option ι)) :
    ((hs.map (Option.map st)).filterMap fun x => x) = (hs.filterMap fun h => h).map st := by
  induction hs with
  | nil => rfl
  | cons h hs ih => cases h <;> simp [ih]

/-- A call that succeeds names distinct documents, all unsigned, and gives each back sealed with
a tree; the store after it holds them behind their handles and nothing else changes. -/
theorem run_eq_ok {st st' : Store ι} {c : Call ι} (h : c.run st = .ok st') :
    c.handles.Nodup ∧ ∃ ds, List.Forall₂ (SealsTo st) c.handles ds ∧
      st' = writeBack st (c.handles.zip ds) := by
  cases c with
  | sealWith k tree =>
    simp only [Call.run] at h
    split at h
    · rename_i d hd
      obtain ⟨hu, x, -, rfl⟩ := sealWith_eq_ok.1 hd
      cases h
      exact ⟨List.nodup_singleton k, [_], .cons ⟨hu, x, rfl⟩ .nil, rfl⟩
    · cases h
  | signDocument s now k =>
    simp only [Call.run] at h
    split at h
    · rename_i d x hd
      obtain ⟨hu, rfl⟩ := signDocument_eq_ok hd
      cases h
      exact ⟨List.nodup_singleton k, [_], .cons ⟨hu, x, rfl⟩ .nil, rfl⟩
    · cases h
  | assemble a k =>
    simp only [Call.run] at h
    split at h
    · rename_i d sd hd
      obtain ⟨d₀, hk, hu, rfl⟩ := document_eq_ok hd
      obtain ⟨k, rfl, rfl⟩ := Option.map_eq_some_iff.1 hk
      cases h
      exact ⟨List.nodup_singleton k, [_], .cons ⟨hu, _, rfl⟩ .nil, rfl⟩
    · cases h
  | assembleLot a id hs =>
    simp only [Call.run] at h
    split at h
    · rename_i sealed lot hl
      obtain ⟨hf, hall⟩ := lot_eq_ok hl
      cases h
      rw [filterMap_map_some, List.forall₂_map_left_iff] at hall
      -- the lot's checks found the identifiers distinct, so the handles are distinct too
      obtain ⟨-, hnodup, -⟩ := lotFault_eq_none hf
      rw [filterMap_map_some, List.map_map] at hnodup
      exact ⟨hnodup.of_map _, sealed, hall, rfl⟩
    · cases h

/-- After a call that succeeds, each document it names is the one it had, sealed with a tree, and
every other document is as it was. -/
theorem run_eq_ok_at {st st' : Store ι} {c : Call ι} (h : c.run st = .ok st') (k : ι) :
    (k ∈ c.handles → SealsTo st k (st' k)) ∧ (k ∉ c.handles → st' k = st k) := by
  obtain ⟨hnd, ds, hall, rfl⟩ := run_eq_ok h
  exact ⟨fun hk => writeBack_zip hall hnd st k hk, fun hk => writeBack_zip_of_not_mem hk st⟩

theorem next_of_error {st : Store ι} {c : Call ι} {r : Report} (h : c.run st = .error r) :
    c.next st = st := by
  simp [Call.next, h]

theorem next_of_ok {st st' : Store ι} {c : Call ι} (h : c.run st = .ok st') : c.next st = st' := by
  simp [Call.next, h]

/-- A call that names a signed document fails. -/
theorem run_of_signed {st : Store ι} {c : Call ι} {k : ι} (hs : (st k).state = .signed)
    (hk : k ∈ c.handles) : ∃ r, c.run st = .error r := by
  cases h : c.run st with
  | error r => exact ⟨r, rfl⟩
  | ok st' =>
    have hu := ((run_eq_ok_at h k).1 hk).1
    rw [hs] at hu
    cases hu

/-- A call leaves a signed document as it is. -/
theorem next_of_signed {st : Store ι} {c : Call ι} {k : ι} (hs : (st k).state = .signed) :
    c.next st k = st k := by
  cases h : c.run st with
  | error r => rw [next_of_error h]
  | ok st' =>
    rw [next_of_ok h]
    refine (run_eq_ok_at h k).2 fun hk => ?_
    obtain ⟨r, hr⟩ := run_of_signed hs hk
    rw [h] at hr
    cases hr

/-- A signed document stays as it is, whatever calls follow. -/
theorem final_of_signed {st : Store ι} {k : ι} (hs : (st k).state = .signed)
    (cs : List (Call ι)) : final st cs k = st k := by
  induction cs generalizing st with
  | nil => rfl
  | cons c cs ih =>
    have hnext : c.next st k = st k := next_of_signed hs
    rw [final_cons, ih (hnext ▸ hs), hnext]

/-- A call that succeeds signs every document it names. -/
theorem signed_after_ok {st st' : Store ι} {c : Call ι} (h : c.run st = .ok st') :
    ∀ k ∈ c.handles, (st' k).state = .signed := by
  intro k hk
  obtain ⟨-, x, hx⟩ := (run_eq_ok_at h k).1 hk
  rw [hx]
  rfl

/-- A document becomes signed only in a call that succeeds and names it. -/
theorem signed_only_by_ok {st : Store ι} {c : Call ι} {k : ι} (hu : (st k).state = .unsigned)
    (hs : (c.next st k).state = .signed) : (∃ st', c.run st = .ok st') ∧ k ∈ c.handles := by
  cases h : c.run st with
  | error r =>
    rw [next_of_error h, hu] at hs
    cases hs
  | ok st' =>
    refine ⟨⟨st', rfl⟩, ?_⟩
    by_contra hk
    rw [next_of_ok h, (run_eq_ok_at h k).2 hk, hu] at hs
    cases hs

/-! ## Refusing a signed document -/

section Signed

variable {st : Store ι} {k : ι} (hs : (st k).state = .signed)
include hs

theorem sealWith_run_signed (tree : Option Element) :
    (Call.sealWith k tree).run st =
      .error (Report.of (Document.SealError.alreadySigned (st k).id)) := by
  simp [Call.run, Document.sealWith_twice _ _ hs]

theorem signDocument_run_signed (s : Signer) (now : Time) :
    (Call.signDocument s now k).run st =
      .error (Report.of (SigningError.alreadySigned (st k).id)) := by
  simp [Call.run, signDocument_signed s now hs]

theorem assemble_run_signed (a : Assembler) :
    (Call.assemble a (some k)).run st = .error (Report.of (SigningError.alreadySigned (st k).id)) := by
  simp [Call.run, document_signed a (st k) hs]

/-- A lot within its limit reports a signed document when no entry before it is missing, signed
or repeated. -/
theorem assembleLot_run_signed (a : Assembler) (id : String) (pre post : List (Option ι))
    (hlen : (pre ++ some k :: post).length ≤ a.maxLot)
    (hpre : lotFault [] (pre.map (Option.map st)) = none) :
    (Call.assembleLot a id (pre ++ some k :: post)).run st =
      .error (Report.of (AssemblyError.signing (.alreadySigned (st k).id))) := by
  obtain ⟨seen, hseen⟩ := lotFault_append_of_none ((some k :: post).map (Option.map st)) hpre
  have hfault : lotFault [] ((pre ++ some k :: post).map (Option.map st)) =
      some (.signing (.alreadySigned (st k).id)) := by
    rw [List.map_append, hseen]
    simp [lotFault, hs]
  have hlot : a.lot id ((pre ++ some k :: post).map (Option.map st)) =
      .error (.signing (.alreadySigned (st k).id)) :=
    lot_of_fault (by simp) (by simpa using hlen) hfault
  simp only [Call.run, hlot]

end Signed

/-! ## The tree of a signed document -/

/-- A signed document holds a signed tree. -/
def Coherent (d : Document) : Prop := d.state = .signed → ∃ x, d.signed = some x

/-- A signed document that holds its signed tree shows it at every time. -/
theorem element_of_coherent {d : Document} (hc : Coherent d) (hs : d.state = .signed) :
    ∃ x, d.signed = some x ∧ ∀ t, d.element t = x := by
  obtain ⟨x, hx⟩ := hc hs
  exact ⟨x, hx, fun t => by simp [Document.element, hx]⟩

theorem coherent_sealedAs (d : Document) (x : Element) : Coherent (sealedAs d x) :=
  fun _ => ⟨x, rfl⟩

theorem new_state {f : Fields} {d : Document} (h : Document.new f = .ok d) :
    d.state = .unsigned := by
  simp only [Document.new, Except.bind_eq_ok] at h
  obtain ⟨id, -, h⟩ := h
  split at h
  · cases h
  · split at h
    · cases h
    · cases h
      rfl

theorem new_eq_ok_of {f : Fields} {id : String} (hid : f.identifier = .ok id)
    (hitems : f.items.isEmpty = false) (herr : itemError 0 f.items = none) :
    Document.new f = .ok { fields := f.withDefaults, id } := by
  simp [Document.new, hid, hitems, herr]

theorem coherent_of_new {f : Fields} {d : Document} (h : Document.new f = .ok d) : Coherent d :=
  fun hs => by rw [new_state h] at hs; cases hs

/-- A document read from XML is signed only when its tree holds a signature, and then that
tree is its signed tree. -/
theorem coherent_of_read {xml : String} {d : Document} (h : Document.read xml = .ok d) :
    Coherent d := by
  -- each match and test of the reader either fails or leads on; what remains of each path is
  -- the reading of the fields, then the record
  simp only [Document.read] at h
  repeat' (first
    | split at h
    | simp only [Except.error_bind, pure_bind, reduceCtorEq, Except.bind_eq_ok] at h)
  all_goals
    obtain ⟨f, -, derived, -, h⟩ := h
    split at h
    · cases h
    · cases h
      exact fun hs => by first | exact ⟨_, rfl⟩ | cases hs

theorem next_coherent {st : Store ι} (c : Call ι) (hst : ∀ k, Coherent (st k)) (k : ι) :
    Coherent (c.next st k) := by
  cases h : c.run st with
  | error r =>
    rw [next_of_error h]
    exact hst k
  | ok st' =>
    rw [next_of_ok h]
    by_cases hk : k ∈ c.handles
    · obtain ⟨-, x, hx⟩ := (run_eq_ok_at h k).1 hk
      rw [hx]
      exact coherent_sealedAs _ x
    · rw [(run_eq_ok_at h k).2 hk]
      exact hst k

theorem final_coherent {st : Store ι} (hst : ∀ k, Coherent (st k)) (cs : List (Call ι)) (k : ι) :
    Coherent (final st cs k) := by
  induction cs generalizing st with
  | nil => exact hst k
  | cons c cs ih => exact ih (next_coherent c hst)

theorem alreadySigned_mem_kinds (id : String) :
    Kind.alreadySigned ∈ (Report.of (SigningError.alreadySigned id)).kinds := by
  simp [Report.of, Reportable.kinds, Kind.mem_sortedOf]

/-! ## Runs -/

/-- **Signing state machine.** Start from documents that were made or read, run any calls that
seal, sign or assemble them (with any signers, assemblers and clocks), and take one call more.
A signed document is never changed again. A document becomes signed only in a call that
succeeds and names it, and a call that succeeds signs every document it names. A call that fails
changes nothing. A signed document shows its sealed tree at every time; a call that names it
fails, and sealing, signing or assembling it alone fails as already signed, as does a lot within
its limit in which no entry before it is missing, signed or repeated. -/
theorem signing_state_machine (st : Store ι)
    (hst : ∀ k, (∃ f, Document.new f = .ok (st k)) ∨ ∃ xml, Document.read xml = .ok (st k))
    (cs : List (Call ι)) (c : Call ι) (k : ι) :
    ((final st cs k).state = .signed → ∀ more, final (final st cs) more k = final st cs k) ∧
    ((final st cs k).state = .unsigned → (c.next (final st cs) k).state = .signed →
      (∃ s', c.run (final st cs) = .ok s') ∧ k ∈ c.handles) ∧
    (∀ s', c.run (final st cs) = .ok s' → ∀ k' ∈ c.handles, (s' k').state = .signed) ∧
    (∀ r, c.run (final st cs) = .error r → c.next (final st cs) = final st cs) ∧
    ((final st cs k).state = .signed →
      (∃ x, (final st cs k).signed = some x ∧ ∀ t, (final st cs k).element t = x) ∧
      (k ∈ c.handles → ∃ r, c.run (final st cs) = .error r) ∧
      (∀ tree, ∃ r, (Call.sealWith k tree).run (final st cs) = .error r ∧
        Kind.alreadySigned ∈ r.kinds) ∧
      (∀ signer now, ∃ r, (Call.signDocument signer now k).run (final st cs) = .error r ∧
        Kind.alreadySigned ∈ r.kinds) ∧
      (∀ a, ∃ r, (Call.assemble a (some k)).run (final st cs) = .error r ∧
        Kind.alreadySigned ∈ r.kinds) ∧
      (∀ a id pre post, (pre ++ some k :: post).length ≤ a.maxLot →
        lotFault [] (pre.map (Option.map (final st cs))) = none →
        ∃ r, (Call.assembleLot a id (pre ++ some k :: post)).run (final st cs) = .error r ∧
          Kind.alreadySigned ∈ r.kinds)) := by
  have hcoh : ∀ k, Coherent (final st cs k) := by
    refine final_coherent (fun k => ?_) cs
    rcases hst k with ⟨f, hf⟩ | ⟨xml, hxml⟩
    · exact coherent_of_new hf
    · exact coherent_of_read hxml
  refine ⟨fun hs more => final_of_signed hs more, signed_only_by_ok,
    fun s' h => signed_after_ok h, fun r h => next_of_error h, fun hs => ?_⟩
  refine ⟨element_of_coherent (hcoh k) hs, run_of_signed hs, fun tree => ?_,
    fun signer now => ⟨_, signDocument_run_signed hs signer now, alreadySigned_mem_kinds _⟩,
    fun a => ⟨_, assemble_run_signed hs a, alreadySigned_mem_kinds _⟩,
    fun a id pre post hlen hpre => ⟨_, assembleLot_run_signed hs a id pre post hlen hpre, ?_⟩⟩
  · exact ⟨_, sealWith_run_signed hs tree, by simp [Report.of, Reportable.kinds, Kind.mem_sortedOf]⟩
  · simp [Report.of, Reportable.kinds, Kind.mem_sortedOf]

/-- Two units at 11000, with VAT at 10 %. -/
def sampleItem : Item where
  code := "A1"
  description := "Producto"
  quantity := 2
  unitPrice := 11000
  vatRate := 10

/-- An invoice of one line, issued on 15 January 2024. -/
def sampleInvoice : Fields where
  type := 1
  issuerRuc := "80089752"
  issuerDv := 8
  establishment := 1
  pointOfSale := 1
  number := 1
  taxpayerType := 2
  issuedAt := Time.ofCivil 2024 1 15 10 30 0 0 0
  emissionType := 1
  securityCode := 123
  items := [sampleItem]

/-- The document made from `sampleInvoice`. -/
def sampleDocument : Document :=
  { fields := sampleInvoice.withDefaults, id := "01800897528001001000000122024011510000001236" }

theorem new_sampleInvoice : Document.new sampleInvoice = .ok sampleDocument :=
  new_eq_ok_of (Except.eq_ok_of_toOption (by decide +kernel)) rfl
    (Option.isNone_iff_eq_none.1 (by decide +kernel))

/-- An assembler with no signer, at the zero time. -/
def bareAssembler : Assembler := { signer := none, now := Time.zero }

theorem sampleDocument_sealed_refused :
    (final (fun _ : Unit => sampleDocument) [.sealWith () (some { tag := "rDE" })] ()).state =
        .signed ∧
      ∃ r, (Call.assemble bareAssembler (some ())).run
          (final (fun _ : Unit => sampleDocument) [.sealWith () (some { tag := "rDE" })]) =
        .error r ∧ Kind.alreadySigned ∈ r.kinds := by
  have hsigned : (final (fun _ : Unit => sampleDocument)
      [.sealWith () (some { tag := "rDE" })] ()).state = .signed := rfl
  exact ⟨hsigned, ((signing_state_machine (fun _ : Unit => sampleDocument)
    (fun _ => .inl ⟨sampleInvoice, new_sampleInvoice⟩) [.sealWith () (some { tag := "rDE" })]
    (.assemble bareAssembler (some ())) ()).2.2.2.2 hsigned).2.2.2.2.1 bareAssembler⟩

/-- A lot whose first entry is missing reports the missing entry, though a signed document
follows it. -/
theorem lot_signed_after_missing :
    (final (fun _ : Unit => sampleDocument) [.sealWith () (some { tag := "rDE" })] ()).state =
        .signed ∧
      (Call.assembleLot bareAssembler "L" [none, some ()]).run
          (final (fun _ : Unit => sampleDocument) [.sealWith () (some { tag := "rDE" })]) =
        .error (Report.of AssemblyError.missingInLot) ∧
      Kind.alreadySigned ∉ (Report.of AssemblyError.missingInLot).kinds := by
  have hlot : ∀ d, bareAssembler.lot "L" [none, some d] = .error .missingInLot :=
    fun d => lot_of_fault (by simp) (by simp [bareAssembler, maxLotDocuments]) rfl
  refine ⟨rfl, ?_, by decide⟩
  simp [Call.run, hlot]

end EInvoice.Signing
