import EInvoice.Keystore.Bundle

/-!
# The client TLS context

Every exchange shares one TLS context: TLS 1.2 to 1.3, and when 1.2 is negotiated only the
ECDHE suites with AES-GCM (ECDSA first, 256-bit keys first). A signing credential may be
presented as the client certificate, with its chain; a pool of trust anchors may replace the
system pool.
-/

namespace EInvoice.Transport

open EInvoice.Pki EInvoice.Keystore

/-- The version numbers of TLS 1.2 and 1.3. -/
def tls12 : Nat := 0x0303
def tls13 : Nat := 0x0304

/-- The cipher suites offered for TLS 1.2. -/
def recommendedSuites : List Nat := [0xC02C, 0xC02B, 0xC030, 0xC02F]

/-- A client TLS context. -/
structure TlsContext where
  minVersion : Nat
  maxVersion : Nat
  cipherSuites : List Nat
  certificates : List Bundle
  roots : Option (List Certificate)
  deriving Repr

/-- The context presenting a credential, if one is given, and trusting a pool, if one is
given. -/
def tlsContext (b : Option Bundle) (roots : Option (List Certificate)) : TlsContext :=
  ⟨tls12, tls13, recommendedSuites, b.toList, roots⟩

theorem tlsContext_certificates (roots : Option (List Certificate)) :
    (tlsContext none roots).certificates = [] := rfl

end EInvoice.Transport
