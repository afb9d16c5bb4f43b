import EInvoice.Text.Utf8

/-!
# HMAC

The keyed digest of RFC 2104 over any hash with a given block size: a key longer than a block
is hashed first, then padded with zeros to a block; the digest is
`H((K ⊕ opad) ‖ H((K ⊕ ipad) ‖ m))`.
-/

namespace EInvoice.Crypto

open EInvoice.Text

/-- The HMAC of a message under a key, for a hash with the given block size. -/
def hmac (hash : Bytes → Bytes) (blockSize : Nat) (key msg : Bytes) : Bytes :=
  let key := if key.length > blockSize then hash key else key
  let key := key ++ List.replicate (blockSize - key.length) 0
  let inner := key.map (· ^^^ 0x36)
  let outer := key.map (· ^^^ 0x5c)
  hash (outer ++ hash (inner ++ msg))

theorem hmac_short_key (hash : Bytes → Bytes) (n : Nat) (key msg : Bytes) (h : key.length ≤ n) :
    hmac hash n key msg = hash ((key ++ List.replicate (n - key.length) 0).map (· ^^^ 0x5c) ++
      hash ((key ++ List.replicate (n - key.length) 0).map (· ^^^ 0x36) ++ msg)) := by
  simp [hmac, Nat.not_lt.mpr h]

end EInvoice.Crypto
