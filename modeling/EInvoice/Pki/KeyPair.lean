import EInvoice.Pki.PrivateKey
import EInvoice.Pki.Ecdsa
import EInvoice.Crypto.Ed25519

/-!
# The public half of a private key

The public key a private key belongs to: for RSA the modulus and public exponent it carries,
for an elliptic curve key the multiple of the curve's base point by its scalar, for Ed25519
the point derived from its seed. X25519 keys cannot sign and have no public key here.
-/

namespace EInvoice.Pki

open EInvoice.Crypto

/-- The public key of a private key, for the keys that can sign. -/
def PrivateKey.publicKey : PrivateKey → Option PublicKey
  | .rsa n e _ => some (.rsa n e)
  | .ecdsa c k => (c.publicPoint k).map fun (x, y) => .ecdsa c x y
  | .ed25519 seed => some (.ed25519 (Ed25519.publicKey seed))
  | .x25519 _ => none

/-- Whether a private key can sign. -/
def PrivateKey.canSign : PrivateKey → Bool
  | .x25519 _ => false
  | _ => true

theorem publicKey_rsa (n e d : Nat) : (PrivateKey.rsa n e d).publicKey = some (.rsa n e) := rfl

end EInvoice.Pki
