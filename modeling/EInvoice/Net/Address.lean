import EInvoice.Text.Utf8

/-!
# IP addresses

An IP address written as text: IPv4 in dotted decimal (`192.0.2.1`: four fields from 0 to
255, no leading zeros), or IPv6 as colon-separated groups of one to four hexadecimal digits
(`2001:db8::1`), where one `::` stands for a run of at least one zero group, the last two
groups may be written as an embedded IPv4 address (`::ffff:192.0.2.1`), and `%zone` may
follow. A text is IPv4 when a `.` comes before any `:`, and IPv6 when a `:` does.

A text that is not an address has a fault that names the text, the problem and, for some
problems, the rest of the text from where reading stopped.
-/

namespace EInvoice.Net

open EInvoice.Text

/-- An IP address: four octets, or sixteen octets with a zone (empty for none). -/
inductive IpAddress where
  | v4 (octets : List Nat)
  | v6 (octets : List Nat) (zone : Bytes)
  deriving Repr, DecidableEq

/-- Why a text is not an IP address: the text, the problem, and the rest of the text where
reading stopped (empty when the problem names no place). -/
structure AddressError where
  input : Bytes
  problem : String
  rest : Bytes
  deriving Repr, DecidableEq

/-- The sentence of an address fault. -/
def AddressError.message (e : AddressError) : String :=
  "ParseAddr(" ++ quoteBytes e.input ++ "): " ++ e.problem ++
    (if e.rest.isEmpty then "" else " (at " ++ quoteBytes e.rest ++ ")")

/-- Whether a byte is an ASCII digit. -/
def isDigitByte (c : UInt8) : Bool := 0x30 ≤ c && c ≤ 0x39

/-- The value of a hexadecimal digit, if the byte is one. -/
def hexDigitValue (c : UInt8) : Option Nat :=
  if 0x30 ≤ c && c ≤ 0x39 then some (c.toNat - 0x30)
  else if 0x61 ≤ c && c ≤ 0x66 then some (c.toNat - 0x61 + 10)
  else if 0x41 ≤ c && c ≤ 0x46 then some (c.toNat - 0x41 + 10)
  else none

/-- The four fields of a dotted IPv4 address `s`, which is part of the text `whole` (named in
faults). Each field has at least one digit, no leading zero and a value up to 255. -/
def ipv4Fields (whole s : Bytes) : Except AddressError (List Nat) :=
  go s true false 0 0 []
where
  /-- `first`: at the first byte; `afterDot`: the byte before was a dot; `val` and
  `digits`: the field being read; `done`: the fields read before it. -/
  go : Bytes → Bool → Bool → Nat → Nat → List Nat → Except AddressError (List Nat)
    | [], _, _, val, _, done =>
      if done.length < 3 then .error ⟨whole, "IPv4 address too short", []⟩
      else .ok (done ++ [val])
    | c :: rest, first, afterDot, val, digits, done =>
      if isDigitByte c then
        if digits = 1 && val = 0 then .error ⟨whole, "IPv4 field has octet with leading zero", []⟩
        else
          let v := val * 10 + (c.toNat - 0x30)
          if v > 255 then .error ⟨whole, "IPv4 field has value >255", []⟩
          else go rest false false v (digits + 1) done
      else if c = 0x2E then
        if first || rest.isEmpty || afterDot then
          .error ⟨whole, "IPv4 field must have at least one digit", c :: rest⟩
        else if done.length = 3 then .error ⟨whole, "IPv4 address too long", []⟩
        else go rest false true 0 0 (done ++ [val])
      else .error ⟨whole, "unexpected character", c :: rest⟩

/-- The value of the hexadecimal digits at the front of a list, how many there are, and the
rest. -/
def hexRun : Bytes → Nat × Nat × Bytes
  | [] => (0, 0, [])
  | c :: rest =>
    match hexDigitValue c with
    | none => (0, 0, c :: rest)
    | some d =>
      let (v, n, r) := hexRun rest
      (d * Nat.pow 16 n + v, n + 1, r)

/-- The groups of an IPv6 address after its zone is split off: `whole` is the text (named in
faults), `ip` the octets read, `ellipsis` where a `::` stood (in octets). Each round reads one
group, or an embedded IPv4 address at the end, and the colons after it; there are at most
eight rounds. The result is the octets read, where the `::` stood, and what is left. -/
def ipv6Groups (whole : Bytes) : Nat → Bytes → List Nat → Option Nat →
    Except AddressError (List Nat × Option Nat × Bytes)
  | 0, s, ip, ellipsis => .ok (ip, ellipsis, s)
  | fuel + 1, s, ip, ellipsis =>
    if ip.length ≥ 16 then .ok (ip, ellipsis, s)
    else
      let (acc, n, after) := hexRun s
      if n > 4 then .error ⟨whole, "each colon-separated field must have at most 4 hex digits", s⟩
      else if n = 0 then .error ⟨whole, "each colon-separated field must have at least one digit", s⟩
      else match after with
        | 0x2E :: _ =>
          if ellipsis.isNone && ip.length ≠ 12 then
            .error ⟨whole, "embedded IPv4 address must replace the final 2 fields of the address", s⟩
          else if ip.length + 4 > 16 then
            .error ⟨whole, "too many hex fields to fit an embedded IPv4 at the end of the address", s⟩
          else do
            let fields ← ipv4Fields whole s
            pure (ip ++ fields, ellipsis, [])
        | [] => .ok (ip ++ [acc / 256, acc % 256], ellipsis, [])
        | c :: rest =>
          let ip := ip ++ [acc / 256, acc % 256]
          if c ≠ 0x3A then .error ⟨whole, "unexpected character, want colon", c :: rest⟩
          else match rest with
            | [] => .error ⟨whole, "colon must be followed by more characters", [c]⟩
            | 0x3A :: more =>
              if ellipsis.isSome then .error ⟨whole, "multiple :: in address", rest⟩
              else if more.isEmpty then .ok (ip, some ip.length, [])
              else ipv6Groups whole fuel more ip (some ip.length)
            | _ => ipv6Groups whole fuel rest ip ellipsis

/-- Read an IPv6 address. -/
def parseIpv6 (whole : Bytes) : Except AddressError IpAddress := do
  let (s, zone) ← match whole.idxOf? 0x25 with
    | none => pure (whole, [])
    | some i =>
      let zone := whole.drop (i + 1)
      if zone.isEmpty then throw ⟨whole, "zone must be a non-empty string", []⟩
      pure (whole.take i, zone)
  let (s, start) := match s with
    | 0x3A :: 0x3A :: r => (r, some 0)
    | _ => (s, none)
  if start.isSome && s.isEmpty then return .v6 (List.replicate 16 0) zone
  let (ip, ellipsis, rest) ← ipv6Groups whole 9 s [] start
  if !rest.isEmpty then throw ⟨whole, "trailing garbage after address", rest⟩
  match ellipsis with
  | none =>
    if ip.length < 16 then throw ⟨whole, "address string too short", []⟩
    pure (.v6 ip zone)
  | some e =>
    if ip.length ≥ 16 then throw ⟨whole, "the :: must expand to at least one field of zeros", []⟩
    pure (.v6 (ip.take e ++ List.replicate (16 - ip.length) 0 ++ ip.drop e) zone)

/-- Read an IP address: IPv4 when a `.` comes first, IPv6 when a `:` does. -/
def parseAddress (s : Bytes) : Except AddressError IpAddress :=
  match s.find? (fun c => c = 0x2E || c = 0x3A || c = 0x25) with
  | some 0x2E => .v4 <$> ipv4Fields s s
  | some 0x3A => parseIpv6 s
  | some _ => .error ⟨s, "missing IPv6 address", []⟩
  | none => .error ⟨s, "unable to parse IP", []⟩

/-- Whether an address is IPv4 (an IPv4 address embedded in IPv6 is not). -/
def IpAddress.isV4 : IpAddress → Bool
  | .v4 _ => true
  | .v6 _ _ => false

example : (parseAddress (encode "192.0.2.1")).toOption = some (.v4 [192, 0, 2, 1]) := by decide

example : ((parseAddress (encode "::1")).toOption.map IpAddress.isV4) = some false := by decide

end EInvoice.Net
