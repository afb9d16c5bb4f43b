import EInvoice.Asn1.Der

/-!
# Distinguished names

A name is a sequence of relative distinguished names, each a set of attributes: an object
identifier and a text value. Values are read from the ASN.1 string types: PrintableString
(a blank, letters, digits and `'()+,-./:=?`, with `*` and `&` tolerated), UTF8String (valid
UTF-8), IA5String (ASCII), NumericString (digits and blanks), T61String (read as Latin-1)
and BMPString (UCS-2 without surrogates and noncharacters, a trailing zero pair dropped).

A name is written in the order of RFC 2253, last attribute first, after being sorted into
its well-known parts: serial number, common name, organizational units, organizations,
postal codes, streets, localities, provinces and countries, each of these several-valued
parts as one multi-valued element joined with `+`. Attributes of other types come last, in
the reverse of the order they appear in, written as their object identifier and `#` with
the hexadecimal DER encoding of the value (`Name.show`). In values, `,+"\<>;` are escaped
with a backslash, as are a leading `#` and a blank at either end.
-/

namespace EInvoice.Pki

open EInvoice.Text EInvoice.Asn1

/-- One attribute of a name. -/
structure Attribute where
  type : Oid
  value : String
  deriving Repr, DecidableEq

/-- A name: its relative distinguished names in order, each a list of attributes. -/
structure Name where
  rdns : List (List Attribute)
  deriving Repr, DecidableEq

/-- Whether a byte may stand in a PrintableString as read from a certificate. -/
def printableByte (b : UInt8) : Bool :=
  (97 ≤ b && b ≤ 122) || (65 ≤ b && b ≤ 90) || (48 ≤ b && b ≤ 57) || (39 ≤ b && b ≤ 41) ||
  (43 ≤ b && b ≤ 47) || b = 32 || b = 58 || b = 61 || b = 63 || b = 42 || b = 38

/-- Whether a character may stand in a PrintableString written out (no `*` or `&`). -/
def printableStrict (c : Char) : Bool :=
  c.toNat < 128 && c ≠ '*' && c ≠ '&' && printableByte c.toNat.toUInt8

/-- The characters of a BMPString, or `none` when it holds a surrogate or a noncharacter. -/
def bmpChars : Bytes → Option (List Char)
  | hi :: lo :: rest => do
    let p := hi.toNat * 256 + lo.toNat
    if p = 0xfffe ∨ p = 0xffff ∨ (0xfdd0 ≤ p ∧ p ≤ 0xfdef) ∨ (0xd800 ≤ p ∧ p ≤ 0xdfff) then none
    let more ← bmpChars rest
    pure (Char.ofNat p :: more)
  | _ => some []

/-- The text of a string value with its tag. -/
def stringValue (tag : Tag) (v : Bytes) : Except String String :=
  if tag = Tag.t61String then .ok (String.ofList (v.map fun b => Char.ofNat b.toNat))
  else if tag = Tag.printableString then
    if v.all printableByte then .ok (decodeLossy v) else .error "invalid PrintableString"
  else if tag = Tag.utf8String then
    if isValid v then .ok (decodeLossy v) else .error "invalid UTF-8 string"
  else if tag = Tag.bmpString then
    if v.length % 2 ≠ 0 then .error "invalid BMPString"
    else
      let v := if v.length ≥ 2 ∧ v.getLast? = some 0 ∧ v.dropLast.getLast? = some 0
        then v.dropLast.dropLast else v
      match bmpChars v with
      | some cs => .ok (String.ofList cs)
      | none => .error "invalid BMPString"
  else if tag = Tag.ia5String then
    if v.all (· < 0x80) then .ok (decodeLossy v) else .error "invalid IA5String"
  else if tag = Tag.numericString then
    if v.all fun b => (48 ≤ b && b ≤ 57) || b = 32 then .ok (decodeLossy v)
    else .error "invalid NumericString"
  else .error ("unsupported string type: " ++ toString tag.toNat)

/-- The attributes of one relative distinguished name. -/
def readAttributes (set : Bytes) : Except String (List Attribute) :=
  go set.length set
where
  go : Nat → Bytes → Except String (List Attribute)
    | _, [] => .ok []
    | 0, _ => .error "x509: invalid RDNSequence: invalid attribute"
    | fuel + 1, s => do
      let some (atv, rest) := read Tag.sequence s
        | .error "x509: invalid RDNSequence: invalid attribute"
      let some (type, atv) := readOid atv
        | .error "x509: invalid RDNSequence: invalid attribute type"
      let some (tag, raw, _) := readAny atv
        | .error "x509: invalid RDNSequence: invalid attribute value"
      let value ← (stringValue tag raw).mapError
        ("x509: invalid RDNSequence: invalid attribute value: " ++ ·)
      let more ← go fuel rest
      pure (⟨type, value⟩ :: more)

/-- A name from its DER encoding. -/
def readName (der : Bytes) : Except String Name := do
  let some (seq, _) := read Tag.sequence der | .error "x509: invalid RDNSequence"
  let rdns ← go seq.length seq
  pure ⟨rdns⟩
where
  go : Nat → Bytes → Except String (List (List Attribute))
    | _, [] => .ok []
    | 0, _ => .error "x509: invalid RDNSequence"
    | fuel + 1, s => do
      let some (set, rest) := read Tag.set s | .error "x509: invalid RDNSequence"
      let rdn ← readAttributes set
      let more ← go fuel rest
      pure (rdn :: more)

/-- The well-known attribute types, by the last arc under `2.5.4`, with their short names, in
the order they are written from the end of a name. -/
def wellKnown : List (Nat × String) :=
  [(6, "C"), (8, "ST"), (7, "L"), (9, "STREET"), (17, "POSTALCODE"), (10, "O"), (11, "OU"),
   (3, "CN"), (5, "SERIALNUMBER")]

/-- The short name of a well-known attribute type. -/
def shortName (o : Oid) : Option String :=
  match o with
  | [2, 5, 4, k] => (wellKnown.find? (·.1 = k)).map (·.2)
  | _ => none

/-- The attributes of a name, all relative names together. -/
def Name.attributes (n : Name) : List Attribute := n.rdns.flatten

/-- The values of a well-known attribute type, in order. -/
def Name.valuesOf (n : Name) (k : Nat) : List String :=
  (n.attributes.filter (·.type = [2, 5, 4, k])).map (·.value)

/-- The last value of a well-known single-valued attribute type (common name, serial
number), or the empty text. -/
def Name.lastOf (n : Name) (k : Nat) : String := (n.valuesOf k).getLastD ""

/-- The common name. -/
def Name.commonName (n : Name) : String := n.lastOf 3

/-- A value escaped for writing. -/
def escapeValue (v : String) : String :=
  let cs := v.toList
  let n := cs.length
  String.ofList ((cs.zipIdx).flatMap fun (c, k) =>
    let esc := c = ',' ∨ c = '+' ∨ c = '"' ∨ c = '\\' ∨ c = '<' ∨ c = '>' ∨ c = ';' ∨
      (c = ' ' ∧ (k = 0 ∨ k + 1 = n)) ∨ (c = '#' ∧ k = 0)
    if esc then ['\\', c] else [c])

/-- The DER encoding of a text value as a string would be written: PrintableString when
every character allows it, UTF8String otherwise. -/
def encodeValue (v : String) : Bytes :=
  if v.toList.all printableStrict then encodeElement Tag.printableString (encode v)
  else encodeElement Tag.utf8String (encode v)

/-- One attribute written out. -/
def Attribute.show (a : Attribute) : String :=
  match shortName a.type with
  | some s => s ++ "=" ++ escapeValue a.value
  | none => a.type.show ++ "=#" ++ String.join ((encodeValue a.value).map fun b => hexDigits 2 b.toNat)

/-- The relative names a name is written from, first to last: other attributes (each alone),
then each well-known part present. -/
def Name.writtenRdns (n : Name) : List (List Attribute) :=
  let others := (n.attributes.filter fun a => (shortName a.type).isNone).map ([·])
  let parts := wellKnown.filterMap fun (k, _) =>
    let vs := if k = 3 ∨ k = 5 then (if n.lastOf k = "" then [] else [n.lastOf k]) else n.valuesOf k
    if vs.isEmpty then none else some (vs.map fun v => (⟨[2, 5, 4, k], v⟩ : Attribute))
  others ++ parts

/-- A name written in the order of RFC 2253. -/
def Name.show (n : Name) : String :=
  ",".intercalate (n.writtenRdns.reverse.map fun rdn => "+".intercalate (rdn.map Attribute.show))

example : shortName [2, 5, 4, 3] = some "CN" := by decide

example : Name.show ⟨[]⟩ = "" := by decide +kernel

end EInvoice.Pki
