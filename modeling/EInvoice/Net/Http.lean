import EInvoice.Net.Url
import EInvoice.Net.ContentType

/-!
# HTTP exchanges

The program reaches other services over HTTP through a proxy, and everything it learns from
them is what they answer. That other side is modelled as a `Remote`: it answers each request
with a `Reply` from its `Responder`, and keeps every request that reached it, in order
(`arrivals`).

A plain `http` request reaches the remote side whole. An `https` request only asks the proxy
for a tunnel (`CONNECT host:443`), which the proxy refuses with status 502, so the client
fails with `Bad Gateway`. A reply may also hang up without answering (the client reads end of
input) or announce a longer body than it sends (the body cannot be read to its end).

An answer that names no content type gets one detected from its body (`detectContentType`);
an answer whose status allows no body (`204`, `304`) arrives without one.

Requests sent without the proxy never reach the remote side (`sendUnproxied`).

Failures are reported as the HTTP client reports them: the method, the URL in quotes, and
the cause (`HttpFailure.message`).
-/

namespace EInvoice.Net

open EInvoice.Text

/-- A request as it leaves the client. -/
structure HttpRequest where
  method : String
  /-- the URL as the client writes it -/
  url : String
  /-- the host and port a tunnel would be asked for, when the scheme is `https` -/
  tunnel : Option String
  /-- header names and values, in the order they were set -/
  headers : List (String × String)
  body : Bytes
  /-- whether the request asks for the connection to be closed afterwards -/
  close : Bool := false
  deriving Repr, DecidableEq

/-- The value of a header, if the request carries it. -/
def HttpRequest.header (r : HttpRequest) (name : String) : Option String :=
  (r.headers.find? (·.1 = name)).map (·.2)

/-- What the remote side does with one request. -/
inductive Reply where
  /-- answer with a status, a content type (empty for none) and a body -/
  | answer (status : Nat) (contentType : String) (body : Bytes)
  /-- close the connection without answering -/
  | hangUp
  /-- answer, announcing a body longer than the one sent, and close -/
  | cutShort (status : Nat) (contentType : String) (body : Bytes)
  deriving Repr, DecidableEq

/-- How the remote side chooses its replies. -/
inductive Responder where
  /-- the same reply to every request -/
  | always (r : Reply)
  /-- one reply per request, in turn; once they are used up, `404` with an empty body -/
  | inTurn (rs : List Reply)
  deriving Repr, DecidableEq

/-- What reached the remote side. -/
inductive Arrival where
  | request (r : HttpRequest)
  | tunnel (hostPort : String)
  deriving Repr, DecidableEq

/-- The remote side: how it replies, and what reached it so far, oldest first. -/
structure Remote where
  responder : Responder
  arrivals : List Arrival := []
  deriving Repr

/-- A remote side that answers every request with `200` and an empty body. -/
def Remote.quiet : Remote := ⟨.always (.answer 200 "" []), []⟩

/-- Computations that talk to the remote side. -/
abbrev Net := StateM Remote

/-- A response as the client receives it: status, content type and body, the body failing to
read when the reply was cut short. -/
structure HttpResponse where
  status : Nat
  contentType : String
  body : Bytes
  complete : Bool
  deriving Repr

/-- Why an exchange failed before a response arrived. -/
structure HttpFailure where
  method : String
  url : String
  cause : String
  deriving Repr, DecidableEq

/-- The text of a failed exchange: `Post "url": cause`. -/
def HttpFailure.message (f : HttpFailure) : String :=
  let op := match f.method.toList with
    | [] => ""
    | c :: cs => String.ofList (c.toUpper :: cs.map Char.toLower)
  op ++ " " ++ quote f.url ++ ": " ++ f.cause

/-- The next reply of a responder, and the responder after it. -/
def Responder.next : Responder → Reply × Responder
  | .always r => (r, .always r)
  | .inTurn [] => (.answer 404 "" [], .inTurn [])
  | .inTurn (r :: rs) => (r, .inTurn rs)

/-- Whether a status allows a body. -/
def bodyAllowed (status : Nat) : Bool := status ≠ 204 ∧ status ≠ 304

/-- The response an answer gives: its body when the status allows one, and its content type, or
one detected from the body when it names none. -/
def answerResponse (status : Nat) (contentType : String) (body : Bytes) : HttpResponse :=
  let body := if bodyAllowed status then body else []
  ⟨status, if contentType.isEmpty && !body.isEmpty then detectContentType body else contentType,
   body, true⟩

/-- Send a request and wait for its response. -/
def send (req : HttpRequest) : Net (Except HttpFailure HttpResponse) := do
  let remote ← get
  match req.tunnel with
  | some hostPort =>
    set { remote with arrivals := remote.arrivals ++ [Arrival.tunnel hostPort] }
    pure (.error ⟨req.method, req.url, "Bad Gateway"⟩)
  | none =>
    let (reply, responder) := remote.responder.next
    set { remote with responder := responder, arrivals := remote.arrivals ++ [Arrival.request req] }
    match reply with
    | .answer s ct b => pure (.ok (answerResponse s ct b))
    | .cutShort s ct b => pure (.ok ⟨s, ct, b, false⟩)
    | .hangUp => pure (.error ⟨req.method, req.url, "EOF"⟩)

/-- The body of a response, or why it cannot be read to its end. -/
def HttpResponse.read (r : HttpResponse) : Except String Bytes :=
  if r.complete then .ok r.body else .error "unexpected EOF"

/-- The host and port of a tunnel to a URL: its host name and port, `443` when none is
given, an IPv6 address in brackets. -/
def tunnelAddress (u : Url) : String :=
  let host := decodeLossy u.hostname
  let port := decodeLossy u.port
  let host := if host.contains ':' then "[" ++ host ++ "]" else host
  host ++ ":" ++ (if port.isEmpty then "443" else port)

/-- A request for a parsed URL. -/
def HttpRequest.ofUrl (method : String) (u : Url) (headers : List (String × String)) (body : Bytes)
    (close : Bool) : HttpRequest :=
  { method := method, url := decodeLossy u.render,
    tunnel := if decodeLossy u.scheme = "https" then some (tunnelAddress u) else none,
    headers := headers, body := body, close := close }

/-- A request sent without the proxy, as the certificate checkers send theirs. The hosts
they are given do not resolve without the proxy, so such a request never leaves: it fails
on a scheme the client does not speak, on a missing host, or on the lookup of the host. -/
def sendUnproxied (method : String) (u : Url) : HttpFailure :=
  let url := decodeLossy u.render
  let scheme := decodeLossy u.scheme
  if scheme ≠ "http" ∧ scheme ≠ "https" then ⟨method, url, "unsupported protocol scheme " ++ quote scheme⟩
  else if u.host.isEmpty then ⟨method, url, "http: no Host in request URL"⟩
  else ⟨method, url, "dial tcp: lookup " ++ decodeLossy u.hostname ++ ": no such host"⟩

example : Responder.next (.inTurn []) = (.answer 404 "" [], .inTurn []) := rfl

end EInvoice.Net
