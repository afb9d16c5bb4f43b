import EInvoice.Asn1.Der

/-!
# Reading DER by schema

A second reader of DER, for formats described as nested records, as key stores are. A record
is read field by field from the content of its sequence, each field by its kind (an integer,
an object identifier, an octet string, any element, a record, a list of records) and its
options (optional, an explicit or implicit context tag, read as a set).

Faults are worded as the key store decoder words them, with the offset where they were
found in the bytes being read:

* a header is refused for a truncated tag or length, an indefinite length, a length of more
  than 2³¹ bytes, or a length not written in its shortest form;
* a field whose header is not the one its kind asks for is absent when optional and a fault
  otherwise (`tags don't match`, which names the header and the field's options);
* a record may have bytes after its last field; the caller decides about bytes after the
  whole value.
-/

namespace EInvoice.Asn1.Schema

open EInvoice.Text

/-- A fault of the structure. -/
def structural (msg : String) : String := "asn1: structure error: " ++ msg

/-- A fault of the encoding. -/
def syntaxFault (msg : String) : String := "asn1: syntax error: " ++ msg

/-- The header of an element: its class, tag number, length and whether it is constructed. -/
structure Header where
  cls : Nat
  tag : Nat
  length : Nat
  compound : Bool
  deriving Repr, DecidableEq

/-- A header as the faults show it. -/
def Header.show (h : Header) : String :=
  "\x7bclass:" ++ toString h.cls ++ " tag:" ++ toString h.tag ++ " length:" ++ toString h.length ++
    " isCompound:" ++ toString h.compound ++ "\x7d"

/-- A base-128 number starting at `offset`: at most five bytes, the first not `0x80`, the value
below 2³¹; with the offset after it. -/
def readBase128 (bs : Bytes) (offset : Nat) : Except String (Nat × Nat) :=
  go 0 0 (bs.drop offset) offset
where
  go (shifted acc : Nat) : Bytes → Nat → Except String (Nat × Nat)
    | [], _ => .error (syntaxFault "truncated base 128 integer")
    | b :: rest, off =>
      if shifted = 5 then .error (structural "base 128 integer too large")
      else if shifted = 0 ∧ b = 0x80 then .error (syntaxFault "integer is not minimally encoded")
      else
        let acc := acc * 128 + (b &&& 0x7f).toNat
        if b &&& 0x80 = 0 then
          if acc > 2147483647 then .error (structural "base 128 integer too large")
          else .ok (acc, off + 1)
        else go (shifted + 1) acc rest (off + 1)

/-- The `count` bytes of a long-form length starting at `off`, added to `acc`. -/
def readLongLength (bs : Bytes) : Nat → Nat → Nat → Except String (Nat × Nat)
  | 0, off, acc => .ok (acc, off)
  | count + 1, off, acc =>
    match bs[off]? with
    | none => .error (syntaxFault "truncated tag or length")
    | some b =>
      if acc ≥ Nat.pow 2 23 then .error (structural "length too large")
      else
        let acc := acc * 256 + b.toNat
        if acc = 0 then .error (structural "superfluous leading zeros in length")
        else readLongLength bs count (off + 1) acc

/-- The header at `offset`, with the offset after it. -/
def readHeader (bs : Bytes) (offset : Nat) : Except String (Header × Nat) := do
  let some b := bs[offset]? | .error "asn1: internal error in parseTagAndLength"
  let compound := b &&& 0x20 == 0x20
  let (tag, off) ← if b &&& 0x1f = 0x1f then do
      let (t, off) ← readBase128 bs (offset + 1)
      if t < 0x1f then .error (syntaxFault "non-minimal tag")
      pure (t, off)
    else pure ((b &&& 0x1f).toNat, offset + 1)
  let some l := bs[off]? | .error (syntaxFault "truncated tag or length")
  if l &&& 0x80 = 0 then pure (⟨(b >>> 6).toNat, tag, l.toNat, compound⟩, off + 1)
  else
    let count := (l &&& 0x7f).toNat
    if count = 0 then .error (syntaxFault "indefinite length found (not DER)")
    let (len, off) ← readLongLength bs count (off + 1) 0
    if len < 0x80 then .error (structural "non-minimal length")
    pure (⟨(b >>> 6).toNat, tag, len, compound⟩, off)

/-- The options of a field. -/
structure Params where
  optional : Bool := false
  explicit : Bool := false
  tag : Option Nat := none
  set : Bool := false
  deriving Repr

/-- The options as the faults show them. -/
def Params.show (p : Params) : String :=
  "\x7boptional:" ++ toString p.optional ++ " explicit:" ++ toString p.explicit ++
    " application:false private:false defaultValue:<nil> tag:" ++
    (match p.tag with | some t => toString t | none => "<nil>") ++
    " stringType:0 timeType:0 set:" ++ toString p.set ++ " omitEmpty:false\x7d"

/-- What a kind of field expects of its header: the universal tag, whether constructed, or
any element at all; and the kind's name for faults. -/
structure ValueKind where
  tag : Nat
  compound : Bool
  any : Bool
  name : String

def intKind : ValueKind := ⟨2, false, false, "int"⟩
def oidKind : ValueKind := ⟨6, false, false, "ObjectIdentifier"⟩
def octetsKind : ValueKind := ⟨4, false, false, ""⟩
def anyKind : ValueKind := ⟨0, false, true, "RawValue"⟩
def listKind : ValueKind := ⟨16, true, false, ""⟩

/-- The kind of a record with a name. -/
def recordKind (name : String) : ValueKind := ⟨16, true, false, name⟩

/-- An element as read: its header's class, tag and form, its content, and its whole
encoding. -/
structure Raw where
  cls : Nat
  tag : Nat
  compound : Bool
  content : Bytes
  full : Bytes
  deriving Repr, DecidableEq

/-- Step into an explicit tag: the header inside it, or `none` for an absent optional field. -/
def unwrapExplicit (bs : Bytes) (p : Params) (k : ValueKind) (h : Header) (off : Nat) :
    Except String (Option (Header × Nat)) :=
  if !p.explicit then .ok (some (h, off))
  else if off = bs.length then .error (structural "explicit tag has no child")
  else if h.cls = 2 ∧ some h.tag = p.tag ∧ (h.length = 0 ∨ h.compound) then
    if k.any then .ok (some (h, off))
    else if h.length > 0 then some <$> readHeader bs off
    else .error (structural "zero length explicit tag was not an asn1.Flag")
  else if p.optional then .ok none
  else .error (structural "explicitly tagged member didn't match")

/-- Check a header against a field's kind and take its element; `none` for an absent
optional field. -/
def takeElement (bs : Bytes) (offset : Nat) (p : Params) (k : ValueKind) (h : Header) (off : Nat) :
    Except String (Option Raw × Nat) :=
  let universal := if p.set then 17 else k.tag
  let (cls, tag, anyTag) :=
    if !p.explicit ∧ p.tag.isSome then (2, p.tag.getD 0, false) else (0, universal, k.any)
  if (!anyTag ∧ (h.cls ≠ cls ∨ h.tag ≠ tag)) ∨ (!k.any ∧ h.compound ≠ k.compound) then
    if p.optional then .ok (none, offset)
    else .error (structural ("tags don't match (" ++ toString tag ++ " vs " ++ h.show ++ ") " ++
      p.show ++ " " ++ k.name ++ " @" ++ toString off))
  else if off + h.length > bs.length then .error (syntaxFault "data truncated")
  else .ok (some ⟨h.cls, h.tag, h.compound, (bs.drop off).take h.length,
    (bs.drop offset).take (off + h.length - offset)⟩, off + h.length)

/-- The element of a field at `offset`, or `none` when an optional field is absent; with the
offset after it. -/
def element (bs : Bytes) (offset : Nat) (p : Params) (k : ValueKind) : Except String (Option Raw × Nat) :=
  if offset ≥ bs.length then
    if p.optional then .ok (none, offset) else .error (syntaxFault "sequence truncated")
  else do
    let (h, off) ← readHeader bs offset
    match ← unwrapExplicit bs p k h off with
    | none => pure (none, offset)
    | some (h, off) => takeElement bs offset p k h off

/-- A field read by its kind and decoded, or `none` when optional and absent. -/
def optionalField {α : Type} (k : ValueKind) (decode : Raw → Except String α) (bs : Bytes)
    (offset : Nat) (p : Params) : Except String (Option α × Nat) := do
  let (r, off) ← element bs offset p k
  match r with
  | none => pure (none, off)
  | some r => pure (some (← decode r), off)

/-- A field that must be present. -/
def field {α : Type} (k : ValueKind) (decode : Raw → Except String α) (bs : Bytes) (offset : Nat)
    (p : Params) : Except String (α × Nat) := do
  let (v, off) ← optionalField k decode bs offset { p with optional := false }
  match v with
  | some a => pure (a, off)
  | none => .error (syntaxFault "sequence truncated")

/-- An integer of at most eight bytes, in its shortest form. -/
def intOf (r : Raw) : Except String Int :=
  match r.content with
  | [] => .error (structural "empty integer")
  | b0 :: b1 :: _ =>
    if (b0 = 0 ∧ b1 &&& 0x80 = 0) ∨ (b0 = 0xff ∧ b1 &&& 0x80 = 0x80) then
      .error (structural "integer not minimally-encoded")
    else if r.content.length > 8 then .error (structural "integer too large")
    else .ok (Asn1.integerValue r.content)
  | c => .ok (Asn1.integerValue c)

/-- The arcs of an object identifier after the first two. -/
def oidArcsFrom (c : Bytes) : Nat → Nat → Except String (List Nat)
  | 0, _ => .ok []
  | fuel + 1, off =>
    if off ≥ c.length then .ok []
    else do
      let (v, off) ← readBase128 c off
      (v :: ·) <$> oidArcsFrom c fuel off

/-- An object identifier. -/
def oidOf (r : Raw) : Except String Oid := do
  if r.content.isEmpty then .error (syntaxFault "zero length OBJECT IDENTIFIER")
  let (v, off) ← readBase128 r.content 0
  let firstTwo := if v < 80 then [v / 40, v % 40] else [2, v - 80]
  (firstTwo ++ ·) <$> oidArcsFrom r.content r.content.length off

/-- The content of an octet string. -/
def octetsOf (r : Raw) : Except String Bytes := .ok r.content

/-- The element itself. -/
def rawOf (r : Raw) : Except String Raw := .ok r

/-- Tags that a list of elements treats as one: the string types as printable strings, the
time types as one. -/
def listTag (t : Nat) : Nat :=
  if t = 22 ∨ t = 27 ∨ t = 20 ∨ t = 12 ∨ t = 18 ∨ t = 30 then 19
  else if t = 24 then 23
  else t

/-- Count the elements of a list's content, checking each header against the kind of its
elements. -/
def countElements (k : ValueKind) (bs : Bytes) : Nat → Nat → Nat → Except String Nat
  | 0, _, n => .ok n
  | fuel + 1, off, n =>
    if off ≥ bs.length then .ok n
    else do
      let (h, o) ← readHeader bs off
      if !k.any ∧ (h.cls ≠ 0 ∨ h.compound ≠ k.compound ∨ listTag h.tag ≠ k.tag) then
        .error (structural "sequence tag mismatch")
      if o + h.length > bs.length then .error (syntaxFault "truncated sequence")
      countElements k bs fuel (o + h.length) (n + 1)

/-- Decode `count` elements one after another. -/
def readElements {α : Type} (k : ValueKind) (decode : Raw → Except String α) (bs : Bytes) :
    Nat → Nat → Except String (List α)
  | 0, _ => .ok []
  | count + 1, off => do
    let (a, off) ← field k decode bs off {}
    (a :: ·) <$> readElements k decode bs count off

/-- The elements of a list, every header checked before any element is decoded. -/
def listOf {α : Type} (k : ValueKind) (decode : Raw → Except String α) (r : Raw) :
    Except String (List α) := do
  let n ← countElements k r.content r.content.length 0 0
  readElements k decode r.content n 0

theorem element_end (bs : Bytes) (p : Params) (k : ValueKind) (h : p.optional = true) :
    element bs bs.length p k = .ok (none, bs.length) := by
  simp [element, h]

end EInvoice.Asn1.Schema
