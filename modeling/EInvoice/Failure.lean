/-!
# Failures and the conditions they are recognised by

Every operation of the library that can fail returns a value of its own error type. Two
things are read off such a value: the sentence that describes it (`message`) and the
conditions it can be recognised by (`kinds`). A caller that only wants to know *why*
something failed looks at `kinds`, for example "the certificate has expired" or "the
target URL is invalid", without parsing the sentence.

`Kind` lists these conditions in a fixed order; `Kind.rank` is that order, and
`Kind.sortedOf` puts any collection of them in it.
-/

namespace EInvoice

/-- A condition that a failure can be recognised by. -/
inductive Kind where
  | emptyLot
  | lotTooLarge
  | alreadySigned
  | checksumMismatch
  | invalidFields
  | signingCredential
  | signatureInvalid
  | weakKey
  | invalidPublicKey
  | certificateExpired
  | certificateNotYetValid
  | certificateUntrusted
  | certificateRevoked
  | invalidCertificate
  | encoding
  | compression
  | invalidTarget
  | messaging
  | transportIO
  | unparseableEnvelope
  | keyNotFound
  | invalidCredential
  | pinRequired
  | tokenUnsupported
  deriving DecidableEq, Repr

namespace Kind

/-- The exported error a condition is recognised by: its package and its name. -/
def sentinel : Kind → String × String
  | emptyLot => ("assembler", "EmptyLot")
  | lotTooLarge => ("assembler", "LotTooLarge")
  | alreadySigned => ("document", "AlreadySigned")
  | checksumMismatch => ("document", "ChecksumMismatch")
  | invalidFields => ("document", "InvalidDocumentFields")
  | signingCredential => ("security", "SigningCredential")
  | signatureInvalid => ("security", "SignatureInvalid")
  | weakKey => ("security", "WeakKey")
  | invalidPublicKey => ("security", "InvalidPublicKey")
  | certificateExpired => ("security", "CertificateExpired")
  | certificateNotYetValid => ("security", "CertificateNotYetValid")
  | certificateUntrusted => ("security", "CertificateUntrusted")
  | certificateRevoked => ("security", "CertificateRevoked")
  | invalidCertificate => ("security", "InvalidCertificate")
  | encoding => ("compression", "Encoding")
  | compression => ("compression", "Compression")
  | invalidTarget => ("transport", "InvalidTarget")
  | messaging => ("transport", "Messaging")
  | transportIO => ("transport", "TransportIO")
  | unparseableEnvelope => ("message", "UnparseableEnvelope")
  | keyNotFound => ("keystore", "KeyNotFound")
  | invalidCredential => ("keystore", "InvalidCredential")
  | pinRequired => ("keystore", "PINRequired")
  | tokenUnsupported => ("keystore", "PKCS11NotSupported")

/-- Every condition, in the order in which a failure lists them. -/
def all : List Kind :=
  [emptyLot, lotTooLarge, alreadySigned, checksumMismatch, invalidFields, signingCredential,
   signatureInvalid, weakKey, invalidPublicKey, certificateExpired, certificateNotYetValid,
   certificateUntrusted, certificateRevoked, invalidCertificate, encoding, compression,
   invalidTarget, messaging, transportIO, unparseableEnvelope, keyNotFound, invalidCredential,
   pinRequired, tokenUnsupported]

/-- The conditions present in `ks`, each once, in the order of `all`. -/
def sortedOf (ks : List Kind) : List Kind :=
  all.filter (fun k => ks.contains k)

theorem sortedOf_nodup (ks : List Kind) : (sortedOf ks).Nodup := by
  unfold sortedOf
  exact List.Nodup.sublist List.filter_sublist (by decide)

theorem mem_sortedOf (k : Kind) (ks : List Kind) : k ∈ sortedOf ks ↔ k ∈ ks := by
  unfold sortedOf
  cases k <;> simp [all]

end Kind

/-- A failure that can be reported: a sentence and the conditions it is recognised by. -/
class Reportable (ε : Type) where
  message : ε → String
  kinds : ε → List Kind

/-- A failure reduced to what is reported about it. -/
structure Report where
  message : String
  kinds : List Kind
  deriving Repr

namespace Report

/-- The report of any reportable failure, with its conditions in their fixed order. -/
def of {ε : Type} [Reportable ε] (e : ε) : Report :=
  ⟨Reportable.message e, Kind.sortedOf (Reportable.kinds e)⟩

/-- A failure with no condition of its own, only a sentence. -/
def plain (message : String) : Report := ⟨message, []⟩

/-- Prefix the sentence, keeping the conditions. -/
def prefixed (p : String) (r : Report) : Report := ⟨p ++ r.message, r.kinds⟩

end Report

instance : Reportable Report where
  message r := r.message
  kinds r := r.kinds

end EInvoice
