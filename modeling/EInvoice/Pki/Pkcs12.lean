import EInvoice.Asn1.Schema
import EInvoice.Crypto.Sha1
import EInvoice.Crypto.Hmac
import EInvoice.Crypto.Des
import EInvoice.Crypto.Rc2
import EInvoice.Pki.PrivateKey

/-!
# PKCS #12 key stores

A PKCS #12 file (RFC 7292) as certificate providers issue them: a password-protected
container of certificates and one encrypted private key. Reading one goes:

1. the password is written as a big-endian UCS-2 string with two zero bytes at the end; a
   character outside the basic plane makes it unusable, reported as a wrong password;
2. the outer record is read (version 3, content of type data) and its MAC is checked: HMAC
   with SHA-1 under a key derived from the password (the PKCS #12 derivation, purpose 3).
   When the empty password fails, the empty byte string is tried, as some writers use it;
3. the authenticated safe holds exactly two parts, each plain data or data encrypted with
   triple DES or 40-bit RC2 in CBC mode under a derived key and vector (purposes 1 and 2),
   padded as PKCS #7 pads;
4. each part is a list of bags: certificate bags give certificates, shrouded key bags give a
   private key (decrypted like a part, then read as PKCS #8; only RSA and elliptic curve keys
   are kept); any other bag is refused.

Every fault is reported with the text the key store reader gives for it.
-/

namespace EInvoice.Pki.Pkcs12

open EInvoice.Text EInvoice.Asn1 EInvoice.Asn1.Schema EInvoice.Crypto

def oidData : Oid := [1, 2, 840, 113549, 1, 7, 1]
def oidEncryptedData : Oid := [1, 2, 840, 113549, 1, 7, 6]
def oidFriendlyName : Oid := [1, 2, 840, 113549, 1, 9, 20]
def oidLocalKeyId : Oid := [1, 2, 840, 113549, 1, 9, 21]
def oidCspName : Oid := [1, 3, 6, 1, 4, 1, 311, 17, 1]
def oidSha1 : Oid := [1, 3, 14, 3, 2, 26]
def oidTripleDes : Oid := [1, 2, 840, 113549, 1, 12, 1, 3]
def oidRc2 : Oid := [1, 2, 840, 113549, 1, 12, 1, 6]
def oidX509Certificate : Oid := [1, 2, 840, 113549, 1, 9, 22, 1]
def oidShroudedKeyBag : Oid := [1, 2, 840, 113549, 1, 12, 10, 1, 2]
def oidCertBag : Oid := [1, 2, 840, 113549, 1, 12, 10, 1, 3]

def incorrectPassword : String := "pkcs12: decryption password incorrect"
def decryptionError : String := "pkcs12: decryption error, incorrect padding"

/-- The password as a UCS-2 string with its terminator, or `none` when a character lies
outside the basic plane. -/
def bmpPassword (password : String) : Option Bytes :=
  (password.toList.mapM fun c =>
    if c.toNat < 0x10000 then some [(c.toNat / 256).toUInt8, (c.toNat % 256).toUInt8] else none).map
    fun bs => bs.flatten ++ [0, 0]

/-- A pattern repeated up to the next multiple of `v` bytes; empty for an empty pattern. -/
def fillWithRepeats (pattern : Bytes) (v : Nat) : Bytes :=
  if pattern.isEmpty then []
  else
    let outLen := v * ((pattern.length + v - 1) / v)
    (List.replicate ((outLen + pattern.length - 1) / pattern.length) pattern).flatten.take outLen

/-- Apply a function `n` times. -/
def iterate {α : Type} (f : α → α) : Nat → α → α
  | 0, a => a
  | n + 1, a => iterate f n (f a)

/-- Add `b + 1` to each 64-byte block of `i`, modulo 2⁵¹². -/
def addBlocks (i : Bytes) (b : Bytes) : Bytes :=
  let bv := unsigned b
  (List.range (i.length / 64)).flatMap fun j =>
    bigEndian 64 ((unsigned ((i.drop (64 * j)).take 64) + bv + 1) % Nat.pow 2 512)

/-- The PKCS #12 key derivation with SHA-1: `size` bytes for a purpose `id` from a salt and
password, each block the `r`-fold hash of the diversifier and the salted password. -/
def derive (salt password : Bytes) (r : Int) (id : UInt8) (size : Nat) : Bytes :=
  let d := List.replicate 64 id
  let c := (size + 19) / 20
  let rounds := r.toNat - 1
  let (_, out) := (List.range c).foldl (fun (i, out) k =>
    let a := iterate Sha1.hash rounds (Sha1.hash (d ++ i))
    let i := if k + 1 < c then addBlocks i ((List.replicate 4 a).flatten.take 64) else i
    (i, out ++ a)) (fillWithRepeats salt 64 ++ fillWithRepeats password 64, [])
  out.take size

/-- An algorithm identifier: the algorithm and its parameters, if any. -/
structure Algorithm where
  algorithm : Oid
  parameters : Option Raw
  deriving Repr

/-- A typed content: its type and the element tagged `[0]` holding it, if any. -/
structure ContentInfo where
  contentType : Oid
  content : Option Raw
  deriving Repr

/-- The MAC of the whole file. -/
structure MacData where
  algorithm : Oid
  digest : Bytes
  salt : Bytes
  iterations : Int
  deriving Repr

/-- The outer record. -/
structure Pfx where
  version : Int
  authSafe : ContentInfo
  mac : Option MacData
  deriving Repr

/-- An encrypted part: its encryption algorithm and the encrypted bytes. -/
structure EncryptedData where
  version : Int
  algorithm : Algorithm
  encrypted : Bytes
  deriving Repr

/-- A bag of the safe: its type, its value and its attributes. -/
structure SafeBag where
  id : Oid
  value : Raw
  attributes : List (Oid × Raw)
  deriving Repr

def algorithmOf (r : Raw) : Except String Algorithm := do
  let (alg, o) ← field oidKind oidOf r.content 0 {}
  let (params, _) ← optionalField anyKind rawOf r.content o { optional := true }
  pure ⟨alg, params⟩

def contentInfoOf (r : Raw) : Except String ContentInfo := do
  let (t, o) ← field oidKind oidOf r.content 0 {}
  let (c, _) ← optionalField anyKind rawOf r.content o { optional := true, explicit := true, tag := some 0 }
  pure ⟨t, c⟩

def macDataOf (r : Raw) : Except String MacData := do
  let c := r.content
  let ((alg, digest), o) ← field (recordKind "digestInfo") (fun d => do
      let (alg, o) ← field (recordKind "AlgorithmIdentifier") algorithmOf d.content 0 {}
      let (digest, _) ← field octetsKind octetsOf d.content o {}
      pure (alg, digest)) c 0 {}
  let (salt, o) ← field octetsKind octetsOf c o {}
  let (iterations, _) ← optionalField intKind intOf c o { optional := true }
  pure ⟨alg.algorithm, digest, salt, iterations.getD 1⟩

def pfxOf (r : Raw) : Except String Pfx := do
  let c := r.content
  let (version, o) ← field intKind intOf c 0 {}
  let (authSafe, o) ← field (recordKind "contentInfo") contentInfoOf c o {}
  let (mac, _) ← optionalField (recordKind "macData") macDataOf c o { optional := true }
  pure ⟨version, authSafe, mac⟩

def encryptedDataOf (r : Raw) : Except String EncryptedData := do
  let (version, o) ← field intKind intOf r.content 0 {}
  let ((alg, enc), _) ← field (recordKind "encryptedContentInfo") (fun e => do
      let (_, o) ← field oidKind oidOf e.content 0 {}
      let (alg, o) ← field (recordKind "AlgorithmIdentifier") algorithmOf e.content o {}
      let (enc, _) ← optionalField octetsKind octetsOf e.content o { optional := true, tag := some 0 }
      pure (alg, enc.getD [])) r.content o {}
  pure ⟨version, alg, enc⟩

def attributeOf (r : Raw) : Except String (Oid × Raw) := do
  let (id, o) ← field oidKind oidOf r.content 0 {}
  let (v, _) ← field anyKind rawOf r.content o { set := true }
  pure (id, v)

def safeBagOf (r : Raw) : Except String SafeBag := do
  let (id, o) ← field oidKind oidOf r.content 0 {}
  let (v, o) ← field anyKind rawOf r.content o { explicit := true, tag := some 0 }
  let (attrs, _) ← optionalField listKind (listOf (recordKind "pkcs12Attribute") attributeOf)
    r.content o { optional := true, set := true }
  pure ⟨id, v, attrs.getD []⟩

/-- Decode a whole value of a kind; bytes after it are refused. -/
def unmarshal {α : Type} (k : ValueKind) (decode : Raw → Except String α) (bs : Bytes) :
    Except String α := do
  let (a, off) ← field k decode bs 0 {}
  if off ≠ bs.length then .error "pkcs12: trailing data found"
  pure a

/-- Check the MAC of the authenticated content under a password. -/
def verifyMac (mac : MacData) (message password : Bytes) : Except String Unit :=
  if mac.algorithm ≠ oidSha1 then .error ("pkcs12: unknown digest algorithm: " ++ mac.algorithm.show)
  else
    let key := derive mac.salt password mac.iterations 3 20
    if hmac Sha1.hash 64 key message = mac.digest then .ok () else .error incorrectPassword

/-- The two ciphers of password-based encryption. -/
inductive Cipher where
  | tripleDes
  | rc2
  deriving Repr, DecidableEq

/-- Decrypt data encrypted under a password, and strip its padding. -/
def pbDecrypt (alg : Algorithm) (encrypted password : Bytes) : Except String Bytes := do
  let cipher ← if alg.algorithm = oidTripleDes then pure Cipher.tripleDes
    else if alg.algorithm = oidRc2 then pure Cipher.rc2
    else .error ("pkcs12: algorithm " ++ alg.algorithm.show ++ " is not supported")
  let (salt, iterations) ← unmarshal (recordKind "pbeParams") (fun r => do
      let (salt, o) ← field octetsKind octetsOf r.content 0 {}
      let (iterations, _) ← field intKind intOf r.content o {}
      pure (salt, iterations)) ((alg.parameters.map (·.full)).getD [])
  let key := derive salt password iterations 1 (if cipher = .tripleDes then 24 else 5)
  let iv := derive salt password iterations 2 8
  if encrypted.isEmpty then .error "pkcs12: empty encrypted data"
  if encrypted.length % 8 ≠ 0 then .error "pkcs12: input is not a multiple of the block size"
  let decrypted := match cipher with
    | .tripleDes => Des.decryptCbc3 key iv encrypted
    | .rc2 => Des.cbcDecrypt 8 (Rc2.decryptBlock (Rc2.expandKey key 40)) iv encrypted
  let padLen := (decrypted.getLastD 0).toNat
  if padLen = 0 ∨ padLen > 8 then .error decryptionError
  if decrypted.drop (decrypted.length - padLen) ≠ List.replicate padLen padLen.toUInt8 then
    .error decryptionError
  pure (decrypted.take (decrypted.length - padLen))

/-- The parts of the safe, checked under the password: the bags and the password that
opened them. -/
def safeContents (der password : Bytes) : Except String (List SafeBag × Bytes) := do
  let pfx ← (unmarshal (recordKind "pfxPdu") pfxOf der).mapError ("pkcs12: error reading P12 data: " ++ ·)
  if pfx.version ≠ 3 then .error "pkcs12: can only decode v3 PFX PDU's"
  if pfx.authSafe.contentType ≠ oidData then .error "pkcs12: only password-protected PFX is implemented"
  let content ← unmarshal anyKind rawOf ((pfx.authSafe.content.map (·.content)).getD [])
  let some mac := pfx.mac | .error "pkcs12: no MAC in data"
  let password ← match verifyMac mac content.content password with
    | .ok () => pure password
    | .error e =>
      if e = incorrectPassword ∧ password = [0, 0] then
        (fun _ => []) <$> verifyMac mac content.content []
      else .error e
  let safe ← unmarshal listKind (listOf (recordKind "contentInfo") contentInfoOf) content.content
  if safe.length ≠ 2 then .error "pkcs12: expected exactly two items in the authenticated safe"
  let parts ← safe.mapM fun ci => do
    let inner := (ci.content.map (·.content)).getD []
    let data ← if ci.contentType = oidData then unmarshal octetsKind octetsOf inner
      else if ci.contentType = oidEncryptedData then do
        let ed ← unmarshal (recordKind "encryptedData") encryptedDataOf inner
        if ed.version ≠ 0 then .error "pkcs12: only version 0 of EncryptedData is supported"
        pbDecrypt ed.algorithm ed.encrypted password
      else .error "pkcs12: only data and encryptedData content types are supported in authenticated safe"
    unmarshal listKind (listOf (recordKind "safeBag") safeBagOf) data
  pure (parts.flatten, password)

/-- What a bag holds. -/
inductive Block where
  | certificate (der : Bytes)
  | privateKey (key : PrivateKey)
  deriving Repr

/-- Check an attribute's value: names must be UCS-2 strings of even length. -/
def checkAttribute (a : Oid × Raw) : Except String Unit :=
  if a.1 = oidFriendlyName ∨ a.1 = oidCspName then do
    let v ← unmarshal anyKind rawOf a.2.content
    if v.content.length % 2 ≠ 0 then .error "pkcs12: odd-length BMP string"
  else .ok ()

/-- The private key of a shrouded key bag. -/
def shroudedKey (value password : Bytes) : Except String PrivateKey := do
  let (alg, enc) ← (unmarshal (recordKind "encryptedPrivateKeyInfo") (fun r => do
      let (alg, o) ← field (recordKind "AlgorithmIdentifier") algorithmOf r.content 0 {}
      let (enc, _) ← field octetsKind octetsOf r.content o {}
      pure (alg, enc)) value).mapError ("pkcs12: error decoding PKCS#8 shrouded key bag: " ++ ·)
  let der ← (pbDecrypt alg enc password).mapError ("pkcs12: error decrypting PKCS#8 shrouded key bag: " ++ ·)
  let _ ← (unmarshal anyKind rawOf der).mapError ("pkcs12: error unmarshaling decrypted private key: " ++ ·)
  (readPkcs8 der).mapError ("pkcs12: error parsing PKCS#8 private key: " ++ ·)

/-- What a bag holds; only certificates and RSA or elliptic curve keys. -/
def convertBag (bag : SafeBag) (password : Bytes) : Except String Block := do
  bag.attributes.forM checkAttribute
  if bag.id = oidCertBag then do
    let (id, der) ← (unmarshal (recordKind "certBag") (fun r => do
        let (id, o) ← field oidKind oidOf r.content 0 {}
        let (der, _) ← field octetsKind octetsOf r.content o { explicit := true, tag := some 0 }
        pure (id, der)) bag.value.content).mapError ("pkcs12: error decoding cert bag: " ++ ·)
    if id ≠ oidX509Certificate then .error "pkcs12: only X509 certificates are supported"
    pure (.certificate der)
  else if bag.id = oidShroudedKeyBag then do
    let key ← shroudedKey bag.value.content password
    match key with
    | .rsa .. | .ecdsa .. => pure (.privateKey key)
    | _ => .error "found unknown private key type in PKCS#8 wrapping"
  else .error ("don't know how to convert a safe bag of type " ++ bag.id.show)

/-- The certificates and keys of a PKCS #12 file, in the order of their bags. -/
def readPkcs12 (der : Bytes) (password : String) : Except String (List Block) := do
  let some pw := bmpPassword password | .error incorrectPassword
  let (bags, pw) ← safeContents der pw
  bags.mapM (convertBag · pw)

/-- Each character of a password takes two bytes, and the terminator two more. -/
theorem bmpPassword_length {password : String} {bs : Bytes} (h : bmpPassword password = some bs) :
    bs.length = 2 * password.length + 2 := by
  have hunits : ∀ (cs : List Char) (units : List Bytes), (cs.mapM fun c =>
      if c.toNat < 0x10000 then some [(c.toNat / 256).toUInt8, (c.toNat % 256).toUInt8]
      else none) = some units → units.flatten.length = 2 * cs.length := by
    intro cs
    induction cs with
    | nil => intro units h; cases h; rfl
    | cons c cs ih =>
      intro units h
      simp only [List.mapM_cons, bind, Option.bind_eq_some_iff, pure] at h
      obtain ⟨u, hu, us, hus, h⟩ := h
      cases h
      split at hu
      · cases hu
        simp only [List.flatten_cons, List.length_append, ih us hus, List.length_cons,
          List.length_nil]
        omega
      · cases hu
  unfold bmpPassword at h
  simp only [Option.map_eq_some_iff] at h
  obtain ⟨units, hm, rfl⟩ := h
  rw [List.length_append, hunits _ _ hm, String.length_toList]
  rfl

example : bmpPassword "" = some [0, 0] ∧ bmpPassword "a" = some [0, 97, 0, 0] := by decide

end EInvoice.Pki.Pkcs12
