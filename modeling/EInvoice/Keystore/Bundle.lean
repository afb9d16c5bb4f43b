import EInvoice.Failure
import EInvoice.Keystore.Files
import EInvoice.Pki.Pem
import EInvoice.Pki.Pkcs12
import EInvoice.Pki.Issuer
import EInvoice.Pki.KeyPair
import EInvoice.Clock.Layout
import EInvoice.Text.Case

/-!
# Loading signing credentials

A bundle is a private key, the certificate of its public key (the leaf) and the certificates
of the issuers above it. It is loaded from files in one of two formats:

* PEM: a certificate file, which may hold the chain after the leaf, and a key file whose
  first block is the key (PKCS #1, SEC 1 or PKCS #8; encrypted blocks are refused);
* PKCS #12: one file opened with a password, holding certificates and one key.

The leaf is the first certificate whose public key is the key's. The others form the chain,
ordered so that each is followed by its issuer: starting from the leaf, the next is the first
unused certificate that signed the current one; certificates never reached follow in the
order they came.

Trust anchors are read from PEM files into a pool that keeps each distinct certificate once,
in the order first seen.
-/

namespace EInvoice.Keystore

open EInvoice.Text EInvoice.Pki EInvoice.Clock

/-- Why a credential cannot be loaded. -/
inductive LoadError where
  | notFound (path : String)
  | noKey
  | unreadable (path : String) (detail : String)
  | invalid (detail : String)
  | noMatch
  | tokenUnsupported
  | plain (message : String)
  | inFile (path : String) (e : LoadError)
  deriving Repr

/-- The sentence of a load failure. -/
def LoadError.message : LoadError → String
  | .notFound p => "credential not found: " ++ p
  | .noKey => "credential not found"
  | .unreadable p d => "reading " ++ p ++ ": " ++ d
  | .invalid d => "invalid credential: " ++ d
  | .noMatch => "invalid credential\nno certificate matches the private key"
  | .tokenUnsupported => "PKCS#11 support not compiled in (build with -tags pkcs11)"
  | .plain m => m
  | .inFile p e => p ++ ": " ++ e.message

/-- The conditions of a load failure. -/
def LoadError.kinds : LoadError → List Kind
  | .notFound _ | .noKey => [.keyNotFound]
  | .invalid _ | .noMatch => [.invalidCredential]
  | .tokenUnsupported => [.tokenUnsupported]
  | .unreadable _ _ | .plain _ => []
  | .inFile _ e => e.kinds

instance : Reportable LoadError where
  message := LoadError.message
  kinds := LoadError.kinds

/-- A private key with its certificate and the issuers' certificates, issuer first. -/
structure Bundle where
  key : PrivateKey
  certificate : Certificate
  chain : List Certificate
  deriving Repr

/-- The bytes of a file. -/
def readFile (fs : Files) (path : String) : Except LoadError Bytes :=
  match fs.read path with
  | .ok bs => .ok bs
  | .error .missing => .error (.notFound path)
  | .error .directory => .error (.unreadable path ("read " ++ path ++ ": is a directory"))
  | .error .notDirectory => .error (.unreadable path ("open " ++ path ++ ": not a directory"))

/-- The certificates of the `CERTIFICATE` blocks of a PEM file; at least one. -/
def readCertificateBlocks (data : Bytes) : Except LoadError (List Certificate) := do
  let certs ← ((decodeBlocks data).filter (·.type = "CERTIFICATE")).mapM fun b =>
    (readCertificate b.bytes).mapError .invalid
  if certs.isEmpty then .error (.invalid "no certificate found")
  pure certs

/-- A private key from a block by its type. A block typed `PRIVATE KEY` is tried as PKCS #1,
then SEC 1, then PKCS #8. -/
def readKeyBlock (b : PemBlock) : Except LoadError PrivateKey :=
  if b.type = "RSA PRIVATE KEY" then (readPkcs1 b.bytes).mapError .plain
  else if b.type = "EC PRIVATE KEY" then (readSec1 b.bytes none).mapError .plain
  else if b.type = "PRIVATE KEY" then
    match readPkcs1 b.bytes with
    | .ok k => .ok k
    | .error _ => match readSec1 b.bytes none with
      | .ok k => .ok k
      | .error _ => match readPkcs8 b.bytes with
        | .ok k => if k.canSign then .ok k else .error (.invalid "key is not a signer")
        | .error e => .error (.invalid e)
  else .error (.invalid ("unsupported key type: " ++ b.type))

/-- The private key of the first block of a PEM file. -/
def readPemKey (data : Bytes) : Except LoadError PrivateKey :=
  match (decodeBlock data).1 with
  | none => .error (.invalid "no PEM block found")
  | some b =>
    if b.headers.any (·.1 = "DEK-Info") then .error (.invalid "encrypted PEM keys are not supported")
    else readKeyBlock b

/-- The issuer chain above a leaf, each certificate followed by its issuer, then the
certificates never reached, in their order. -/
def orderChain (leaf : Certificate) (certs : List Certificate) : List Certificate :=
  go certs.length leaf (certs.map fun c => (c, false)) []
where
  go : Nat → Certificate → List (Certificate × Bool) → List Certificate → List Certificate
    | 0, _, pool, acc => acc ++ (pool.filter (!·.2)).map (·.1)
    | fuel + 1, current, pool, acc =>
      match pool.findIdx? (fun (c, used) => !used && current.signedBy c) with
      | none => acc ++ (pool.filter (!·.2)).map (·.1)
      | some i =>
        let next := (pool.getD i (current, true)).1
        go fuel next (pool.set i (next, true)) (acc ++ [next])

/-- The first certificate with a property, and the others in their order. -/
def splitFirst (p : Certificate → Bool) : List Certificate → Option (Certificate × List Certificate)
  | [] => none
  | c :: cs => if p c then some (c, cs) else (splitFirst p cs).map fun (l, rest) => (l, c :: rest)

/-- The bundle of a key and certificates: the leaf is the first certificate of the key. -/
def newBundle (key : Option PrivateKey) (certs : List Certificate) : Except LoadError Bundle := do
  let some key := key | .error .noKey
  let pub := key.publicKey
  match splitFirst (fun c => pub.isSome && c.publicKey == pub) certs with
  | none => .error .noMatch
  | some (leaf, rest) => pure ⟨key, leaf, orderChain leaf rest⟩

/-- The bundle of a PKCS #12 file: its certificates and its one key. -/
def parsePkcs12 (data : Bytes) (password : String) : Except LoadError Bundle := do
  let blocks ← (Pkcs12.readPkcs12 data password).mapError fun e => .invalid ("decoding PKCS#12: " ++ e)
  let (key, certs) ← blocks.foldlM (fun (acc : Option PrivateKey × List Certificate) b =>
    match b with
    | .certificate der => do
      let c ← (readCertificate der).mapError LoadError.invalid
      pure (acc.1, acc.2 ++ [c])
    | .privateKey k =>
      if acc.1.isSome then .error (.invalid "more than one private key") else pure (some k, acc.2))
    (none, [])
  newBundle key certs

/-- The bundle of a PEM certificate file and a PEM key file. -/
def loadPem (fs : Files) (certPath keyPath : String) : Except LoadError Bundle := do
  let certData ← readFile fs certPath
  let keyData ← readFile fs keyPath
  let certs ← readCertificateBlocks certData
  let key ← readPemKey keyData
  newBundle (some key) certs

/-- Where a credential is read from. -/
structure Source where
  format : String
  path : String
  keyPath : String
  password : String
  deriving Repr

/-- Load a credential; the format is matched without regard to case. -/
def load (fs : Files) (src : Source) : Except LoadError Bundle :=
  let f := lowerText src.format
  if f = "pkcs12" ∨ f = "p12" ∨ f = "pfx" then do parsePkcs12 (← readFile fs src.path) src.password
  else if f = "pem" then loadPem fs src.path src.keyPath
  else if f = "pkcs11" then .error .tokenUnsupported
  else .error (.invalid ("unknown credential format " ++ quote src.format))

/-- What is reported about a loaded credential. -/
structure KeyInfo where
  algorithm : String
  keySize : Nat
  notBefore : Time
  notAfter : Time
  subject : String
  deriving Repr

/-- The description of a bundle, from its leaf certificate. -/
def Bundle.info (b : Bundle) : KeyInfo :=
  let (alg, size) := match b.certificate.publicKey with
    | some (.ecdsa c _ _) => ("EC", c.bits)
    | some (.rsa n _) => ("RSA", bitLength n)
    | _ => ("Unknown", 0)
  ⟨alg, size, b.certificate.notBefore, b.certificate.notAfter, b.certificate.subject.show⟩

/-- Trust anchors from PEM files: the distinct certificates, in the order first seen. -/
def loadRoots (fs : Files) (paths : List String) : Except LoadError (List Certificate) :=
  paths.foldlM (fun pool path => do
    let data ← readFile fs path
    let certs ← (readCertificateBlocks data).mapError (LoadError.inFile path)
    pure (certs.foldl (fun pool c => if pool.any (·.raw == c.raw) then pool else pool ++ [c]) pool)) []

theorem newBundle_none (certs : List Certificate) : newBundle none certs = .error .noKey := rfl

end EInvoice.Keystore
