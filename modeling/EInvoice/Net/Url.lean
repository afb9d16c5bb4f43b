import EInvoice.Text.Utf8
import EInvoice.Net.Address

/-!
# URLs

A URL is read as `scheme:` (letters first, then letters, digits, `+`, `-`, `.`; kept in
lower case), then an optional `?query` and `#fragment`, and, when what follows the scheme
starts with `//`, an authority `userinfo@host:port` up to the next `/`; the rest is the
path. Without `/` after a scheme, the rest is an opaque part. Percent escapes are decoded
in the path, the fragment, the user information and the host; in a host only bytes from
`0x80` on may be escaped (and `%25` inside an IPv6 zone), and a host may hold only letters,
digits and the characters `-._~!$&'()*+,;=:[]<>"`.

Writing a URL escapes each part again by its own rules, keeping the text that was read for
the path and the fragment when it decodes to the same value.

All work is on bytes: a URL may carry escapes that decode to bytes which are no UTF-8.
-/

namespace EInvoice.Net

open EInvoice.Text

/-- The part of a URL a text belongs to; each has its own escaping rules. -/
inductive UrlPart where
  | host
  | zone
  | path
  | pathSegment
  | userPassword
  | queryComponent
  | fragment
  deriving DecidableEq, Repr

/-- Whether a byte is an ASCII letter or digit. -/
def isAlnumByte (c : UInt8) : Bool :=
  (0x61 ≤ c && c ≤ 0x7A) || (0x41 ≤ c && c ≤ 0x5A) || (0x30 ≤ c && c ≤ 0x39)

/-- Whether a byte must be escaped in a part of a URL. -/
def shouldEscape (c : UInt8) (m : UrlPart) : Bool :=
  if isAlnumByte c then false
  else if (m = .host ∨ m = .zone) ∧ "!$&'()*+,;=:[]<>\"".toList.any (·.toNat = c.toNat) then false
  else if "-_.~".toList.any (·.toNat = c.toNat) then false
  else if "$&+,/:;=?@".toList.any (·.toNat = c.toNat) then
    match m with
    | .path => c = 0x3F
    | .pathSegment => c = 0x2F ∨ c = 0x3B ∨ c = 0x2C ∨ c = 0x3F
    | .userPassword => c = 0x40 ∨ c = 0x2F ∨ c = 0x3F ∨ c = 0x3A
    | .queryComponent => true
    | .fragment => false
    | _ => true
  else if m = .fragment ∧ "!()*".toList.any (·.toNat = c.toNat) then false
  else true

/-- The upper-case hexadecimal digit of a value below 16. -/
def hexByte (v : Nat) : UInt8 := (if v < 10 then 48 + v else 55 + v).toUInt8

/-- A byte string with every byte that `m` does not allow written as `%XX` (and, in a query
component, a blank as `+`). -/
def escape (s : Bytes) (m : UrlPart) : Bytes :=
  s.flatMap fun c =>
    if c = 0x20 ∧ m = .queryComponent then [0x2B]
    else if shouldEscape c m then [0x25, hexByte (c.toNat / 16), hexByte (c.toNat % 16)]
    else [c]

/-- Whether a byte is a hexadecimal digit. -/
def isHexByte (c : UInt8) : Bool :=
  (0x30 ≤ c && c ≤ 0x39) || (0x61 ≤ c && c ≤ 0x66) || (0x41 ≤ c && c ≤ 0x46)

/-- The value of a hexadecimal digit. -/
def unhex (c : UInt8) : Nat :=
  if c ≤ 0x39 then c.toNat - 48 else if c ≤ 0x46 then c.toNat - 55 else c.toNat - 87

/-- Why a URL cannot be read. -/
inductive UrlError where
  | controlChar
  | missingScheme
  | colonInFirstSegment
  | badEscape (s : Bytes)
  | badHostChar (s : Bytes)
  | missingBracket
  | badPort (p : Bytes)
  | badUserinfo
  | ipLiteral
  | badAddress (e : AddressError)
  deriving Repr, DecidableEq

/-- The text of a URL error. -/
def UrlError.message : UrlError → String
  | .controlChar => "net/url: invalid control character in URL"
  | .missingScheme => "missing protocol scheme"
  | .colonInFirstSegment => "first path segment in URL cannot contain colon"
  | .badEscape s => "invalid URL escape " ++ quoteBytes s
  | .badHostChar s => "invalid character " ++ quoteBytes s ++ " in host name"
  | .missingBracket => "missing ']' in host"
  | .badPort p => "invalid port " ++ quoteBytes p ++ " after host"
  | .badUserinfo => "net/url: invalid userinfo"
  | .ipLiteral => "invalid IP-literal"
  | .badAddress e => "invalid host: " ++ e.message

/-- Check the escapes of a part: each `%` has two hexadecimal digits; in a host, escapes are
only for bytes from `0x80` on (and `%25`), and the bytes left as they are must be allowed. -/
def checkEscapes (m : UrlPart) : Bytes → Except UrlError Unit
  | [] => .ok ()
  | 0x25 :: rest =>
    match rest with
    | h1 :: h2 :: r =>
      if !(isHexByte h1 && isHexByte h2) then .error (.badEscape [0x25, h1, h2])
      else
        let isPct25 := h1 = 0x32 ∧ h2 = 0x35
        let v := unhex h1 * 16 + unhex h2
        if m = .host ∧ unhex h1 < 8 ∧ !isPct25 then .error (.badEscape [0x25, h1, h2])
        else if m = .zone ∧ !isPct25 ∧ v ≠ 0x20 ∧ shouldEscape v.toUInt8 .host then
          .error (.badEscape [0x25, h1, h2])
        else checkEscapes m r
    | r => .error (.badEscape (0x25 :: r))
  | c :: rest =>
    if (m = .host ∨ m = .zone) ∧ c < 0x80 ∧ shouldEscape c m then .error (.badHostChar [c])
    else checkEscapes m rest

/-- The bytes a checked part stands for. -/
def decodeEscapes (m : UrlPart) : Bytes → Bytes
  | 0x25 :: h1 :: h2 :: r => (unhex h1 * 16 + unhex h2).toUInt8 :: decodeEscapes m r
  | 0x2B :: r => (if m = .queryComponent then 0x20 else 0x2B) :: decodeEscapes m r
  | c :: r => c :: decodeEscapes m r
  | [] => []

/-- Decode the escapes of a part, after checking them. -/
def unescape (s : Bytes) (m : UrlPart) : Except UrlError Bytes := do
  checkEscapes m s
  pure (decodeEscapes m s)

/-- User name and, if given, password. -/
structure Userinfo where
  user : Bytes
  password : Option Bytes
  deriving Repr, DecidableEq

/-- A read URL. -/
structure Url where
  scheme : Bytes := []
  opaquePart : Bytes := []
  userinfo : Option Userinfo := none
  host : Bytes := []
  path : Bytes := []
  rawPath : Bytes := []
  omitHost : Bool := false
  forceQuery : Bool := false
  rawQuery : Bytes := []
  fragment : Bytes := []
  rawFragment : Bytes := []
  deriving Repr, DecidableEq

/-- The front of a byte string up to the first `sep`, and the rest after it (if found). -/
def cutAt (sep : UInt8) (s : Bytes) : Bytes × Option Bytes :=
  match s.idxOf? sep with
  | some i => (s.take i, some (s.drop (i + 1)))
  | none => (s, none)

/-- The scheme and what follows its colon; no scheme when the text does not start with
one. -/
def splitScheme (s : Bytes) : Except UrlError (Bytes × Bytes) :=
  go 0 s
where
  go (i : Nat) : Bytes → Except UrlError (Bytes × Bytes)
    | [] => .ok ([], s)
    | c :: rest =>
      if (0x61 ≤ c && c ≤ 0x7A) || (0x41 ≤ c && c ≤ 0x5A) then go (i + 1) rest
      else if (0x30 ≤ c && c ≤ 0x39) || c = 0x2B || c = 0x2D || c = 0x2E then
        if i = 0 then .ok ([], s) else go (i + 1) rest
      else if c = 0x3A then
        if i = 0 then .error .missingScheme else .ok (s.take i, rest)
      else .ok ([], s)

/-- ASCII letters in lower case. -/
def lowerBytes (s : Bytes) : Bytes := s.map fun c => if 0x41 ≤ c && c ≤ 0x5A then c + 32 else c

/-- Whether a port part is empty or `:` and digits. -/
def validOptionalPort : Bytes → Bool
  | [] => true
  | 0x3A :: ds => ds.all fun d => 0x30 ≤ d && d ≤ 0x39
  | _ => false

/-- The index of the last occurrence of a byte. -/
def lastIndexOf (b : UInt8) (s : Bytes) : Option Nat :=
  match (s.reverse.idxOf? b) with
  | some j => some (s.length - 1 - j)
  | none => none

/-- The index of the first occurrence of a byte string. -/
def indexOfSeq (pat s : Bytes) : Option Nat :=
  (List.range (s.length + 1)).find? fun i => pat.isPrefixOf (s.drop i)

/-- Read a host (with its port). A `[` may only open the host: what stands between it and
the last `]` must be an IPv6 address (`%25` starting its zone), and only `:` and digits may
follow the `]`. Otherwise a port starts at the first `:`. -/
def parseHost (h : Bytes) : Except UrlError Bytes :=
  match lastIndexOf 0x5B h with
  | some 0 =>
    match lastIndexOf 0x5D h with
    | none => .error .missingBracket
    | some i =>
      let colonPort := h.drop (i + 1)
      if !validOptionalPort colonPort then .error (.badPort colonPort)
      else do
        let port ← unescape colonPort .host
        let name := (h.take i).drop 1
        let plain ← match indexOfSeq [0x25, 0x32, 0x35] name with
          | some z => do
            let addr ← unescape (name.take z) .host
            let zone ← unescape (name.drop z) .zone
            pure (addr ++ zone)
          | none => unescape name .host
        match parseAddress plain with
        | .error e => .error (.badAddress e)
        | .ok a => if a.isV4 then .error .ipLiteral else pure ([0x5B] ++ plain ++ [0x5D] ++ port)
  | some _ => .error .ipLiteral
  | none =>
    match h.idxOf? 0x3A with
    | some i =>
      let colonPort := h.drop i
      if !validOptionalPort colonPort then .error (.badPort colonPort) else unescape h .host
    | none => unescape h .host

/-- Whether user information holds only allowed bytes. -/
def validUserinfo (s : Bytes) : Bool :=
  (decodeLossy s).toList.all fun r =>
    r.isAlphanum || "-._:~!$&'()*+,;=%@".toList.contains r

/-- Read an authority: user information (up to the last `@`) and host. -/
def parseAuthority (a : Bytes) : Except UrlError (Option Userinfo × Bytes) :=
  match lastIndexOf 0x40 a with
  | none => do
    let h ← parseHost a
    pure (none, h)
  | some i => do
    let h ← parseHost (a.drop (i + 1))
    let ui := a.take i
    if !validUserinfo ui then .error .badUserinfo
    match cutAt 0x3A ui with
    | (u, none) => do
      let u ← unescape u .userPassword
      pure (some ⟨u, none⟩, h)
    | (u, some p) => do
      let u ← unescape u .userPassword
      let p ← unescape p .userPassword
      pure (some ⟨u, some p⟩, h)

/-- The path of a URL, with the text read kept when it is not the default escaping. -/
def Url.withPath (u : Url) (p : Bytes) : Except UrlError Url := do
  let path ← unescape p .path
  pure { u with path, rawPath := if escape path .path = p then [] else p }

/-- What follows the scheme, split at the query: whether a lone `?` ends it (an empty query that
is still written), the part before the query, and the query. -/
def splitQuery (rest : Bytes) : Bool × Bytes × Bytes :=
  if rest.getLast? = some 0x3F ∧ rest.count 0x3F = 1 then (true, rest.dropLast, [])
  else match cutAt 0x3F rest with
    | (r, some q) => (false, r, q)
    | (r, none) => (false, r, [])

/-- What follows `//`, split into the authority and the path, which starts at the first `/`. -/
def splitAuthority (auth : Bytes) : Bytes × Bytes :=
  match auth.idxOf? 0x2F with
  | some i => (auth.take i, auth.drop i)
  | none => (auth, [])

/-- Read a URL without its fragment. -/
def parseNoFragment (raw : Bytes) : Except UrlError Url := do
  if raw.any (fun b => b < 0x20 || b = 0x7F) then .error .controlChar
  if raw = [0x2A] then return { path := raw }
  let (scheme, rest) ← splitScheme raw
  let scheme := lowerBytes scheme
  let (forceQuery, rest, rawQuery) := splitQuery rest
  let u : Url := { scheme, forceQuery, rawQuery }
  if rest.head? ≠ some 0x2F then
    if !scheme.isEmpty then return { u with opaquePart := rest }
    if (cutAt 0x2F rest).1.contains 0x3A then .error .colonInFirstSegment
  if (!scheme.isEmpty || !([0x2F, 0x2F, 0x2F] : Bytes).isPrefixOf rest) ∧
      ([0x2F, 0x2F] : Bytes).isPrefixOf rest then
    let (authority, rest) := splitAuthority (rest.drop 2)
    let (userinfo, host) ← parseAuthority authority
    Url.withPath { u with userinfo := userinfo, host := host } rest
  else if !scheme.isEmpty ∧ rest.head? = some 0x2F then
    Url.withPath { u with omitHost := true } rest
  else u.withPath rest

/-- Why a URL text cannot be read: the text (without fragment, unless the fragment is at
fault) and the error. -/
structure UrlFailure where
  text : Bytes
  error : UrlError
  deriving Repr

/-- The text of a URL failure. -/
def UrlFailure.message (f : UrlFailure) : String :=
  "parse " ++ quoteBytes f.text ++ ": " ++ f.error.message

/-- Read a URL. -/
def Url.parse (text : String) : Except UrlFailure Url :=
  let raw := encode text
  let (u, frag) := cutAt 0x23 raw
  match parseNoFragment u with
  | .error e => .error ⟨u, e⟩
  | .ok url =>
    match frag with
    | none => .ok url
    | some [] => .ok url
    | some f =>
      match unescape f .fragment with
      | .error e => .error ⟨raw, e⟩
      | .ok fragment =>
        .ok { url with fragment, rawFragment := if escape fragment .fragment = f then [] else f }

/-- The host without port and without the brackets of an IPv6 address. -/
def Url.hostname (u : Url) : Bytes :=
  let h := match lastIndexOf 0x3A u.host with
    | some i => if validOptionalPort (u.host.drop i) then u.host.take i else u.host
    | none => u.host
  if h.head? = some 0x5B ∧ h.getLast? = some 0x5D then (h.drop 1).dropLast else h

/-- The port, `[]` when none is given. -/
def Url.port (u : Url) : Bytes :=
  match lastIndexOf 0x3A u.host with
  | some i => if validOptionalPort (u.host.drop i) then u.host.drop (i + 1) else []
  | none => []

/-- Whether every byte of a part is allowed there (escapes included). -/
def validEncoded (s : Bytes) (m : UrlPart) : Bool :=
  s.all fun c => "!$&'()*+,;=:@[]%".toList.any (·.toNat = c.toNat) || !shouldEscape c m

/-- The path as written: the text read when it is still right, else the escaped path. -/
def Url.escapedPath (u : Url) : Bytes :=
  let keep := !u.rawPath.isEmpty && validEncoded u.rawPath .path &&
    (match unescape u.rawPath .path with | .ok p => p = u.path | .error _ => false)
  if keep then u.rawPath
  else if u.path = [0x2A] then u.path
  else escape u.path .path

/-- The fragment as written. -/
def Url.escapedFragment (u : Url) : Bytes :=
  let keep := !u.rawFragment.isEmpty && validEncoded u.rawFragment .fragment &&
    (match unescape u.rawFragment .fragment with | .ok p => p = u.fragment | .error _ => false)
  if keep then u.rawFragment else escape u.fragment .fragment

/-- User information as written. -/
def Userinfo.render (ui : Userinfo) : Bytes :=
  escape ui.user .userPassword ++
    (match ui.password with | some p => 0x3A :: escape p .userPassword | none => [])

/-- The path and query as sent in a request line. -/
def Url.requestUri (u : Url) : Bytes :=
  let r := if !u.opaquePart.isEmpty then
      (if [0x2F, 0x2F].isPrefixOf u.opaquePart then u.scheme ++ [0x3A] ++ u.opaquePart else u.opaquePart)
    else u.escapedPath
  let r := if r.isEmpty then [0x2F] else r
  if u.forceQuery || !u.rawQuery.isEmpty then r ++ [0x3F] ++ u.rawQuery else r

/-- A URL written back as text. -/
def Url.render (u : Url) : Bytes :=
  let head := if u.scheme.isEmpty then [] else u.scheme ++ [0x3A]
  let body :=
    if !u.opaquePart.isEmpty then u.opaquePart
    else
      let auth :=
        if !u.scheme.isEmpty || !u.host.isEmpty || u.userinfo.isSome then
          if u.omitHost && u.host.isEmpty && u.userinfo.isNone then []
          else
            (if !u.host.isEmpty || !u.path.isEmpty || u.userinfo.isSome then [0x2F, 0x2F] else []) ++
            (match u.userinfo with | some ui => ui.render ++ [0x40] | none => []) ++
            escape u.host .host
        else []
      let path := u.escapedPath
      let slash := if !path.isEmpty && path.head? ≠ some 0x2F && !u.host.isEmpty then [0x2F] else []
      let dot :=
        if (head ++ auth ++ slash).isEmpty && (cutAt 0x2F path).1.contains 0x3A then [0x2E, 0x2F] else []
      auth ++ slash ++ dot ++ path
  let query := if u.forceQuery || !u.rawQuery.isEmpty then [0x3F] ++ u.rawQuery else []
  let frag := if u.fragment.isEmpty then [] else [0x23] ++ u.escapedFragment
  head ++ body ++ query ++ frag

/-- A text escaped for a query component (blanks as `+`). -/
def queryEscape (s : String) : String := decodeLossy (escape (encode s) .queryComponent)

example : (Url.parse "https://example.com/%zz").toOption.isNone := by decide +kernel

end EInvoice.Net
