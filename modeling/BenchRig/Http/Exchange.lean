import BenchRig.Failure
import BenchRig.Http.Response
import BenchRig.Url.Reference

/-!
# Exchanges

A request for a URL, put to a server that answers one request on each connection. An answer that
leads elsewhere is followed a limited number of times.
-/

namespace BenchRig.Http

open Url (Address Reference)

/-- What a server does with a connection. -/
inductive Service where
  /-- It sends bytes and closes the connection. -/
  | sends (octets : Octets)
  /-- It reads the request and then does nothing. -/
  | hangs
  /-- It reads the request and closes the connection. -/
  | closes
  deriving DecidableEq, Repr

/-- The bytes of a text. -/
def octets (s : String) : Octets := (Text.encode s).map fun b => Char.ofNat b.toNat

/-- The text of bytes. -/
def textOf (bytes : Octets) : String := Text.decode (bytes.map fun c => UInt8.ofNat c.toNat)

/-- A header as it is written. -/
def headerLine (name : String) (value : Octets) : Octets :=
  name.toList ++ ':' :: ' ' :: value ++ ['\r', '\n']

/-- The answer of a server that sends a status and a body. The length it states is that of the body
unless another one is given. -/
def answerText (status : Nat) (body : String) (location : Option String) (length : Option Nat) :
    Octets :=
  "HTTP/1.1 ".toList ++ Decimal.numeral status ++ " Status\r\n".toList
    ++ (match location with | some l => headerLine "Location" (octets l) | none => [])
    ++ headerLine "Content-Length" (Decimal.numeral (length.getD (octets body).length))
    ++ headerLine "Connection" "close".toList ++ '\r' :: '\n' :: octets body

/-- How often an answer that leads elsewhere is followed. -/
def maxRedirects : Nat := 10

/-- Whether a status asks for the same request elsewhere. -/
def isRedirect (status : Nat) : Bool :=
  status == 301 || status == 302 || status == 303 || status == 307 || status == 308

/-- The first line of a request for a path and a query. -/
def requestLine (path : List Char) (query : Option (List Char)) : String :=
  "GET " ++ String.ofList ((if path.isEmpty then ['/'] else path)
    ++ (match query with | some q => '?' :: q | none => [])) ++ " HTTP/1.1"

/-- The requests that reached the server, and what came of them. -/
structure Exchange (α : Type) where
  /-- The first lines of the requests, in order. -/
  requests : List String
  /-- What the client has for its caller. -/
  outcome : Except Failure α

/-- What is asked for. -/
structure Request where
  /-- The address. -/
  address : Address
  /-- The same as it is written, if that is a reference. -/
  written : Option Reference
  /-- The first line of the request. -/
  line : String

/-- The question for an address. -/
def Request.ofAddress (a : Address) : Request :=
  ⟨a, Reference.ofText? { a with fragment := none }.text, requestLine a.path a.query⟩

/-- The question for what an answer leads to. -/
def Request.ofTarget (target : Reference) (a : Address) : Request :=
  ⟨a, some { target with fragment := none }, requestLine target.path target.query⟩

/-- What the answer to a question leads to, if it leads elsewhere. Where what was asked for or what
is given is no reference, it leads nowhere. -/
def Response.target? (asked : Request) (r : Response) : Option Reference := do
  guard (isRedirect r.status)
  let location ← r.location
  let base ← asked.written
  let target := base.resolve (← Reference.ofText? (textOf location))
  guard target.isTarget
  return target

/-- The host, with the name of this machine for its address. -/
def machine (a : Address) : Option Url.Host :=
  if a.host = some (.name "localhost".toList) then some (.ipv4 2130706433) else a.host

/-- Whether two addresses lead to the same server. -/
def sameServer (a b : Address) : Bool :=
  a.scheme == b.scheme && machine a == machine b && a.port == b.port

/-- Asks for a response that leads nowhere else. The server at `home` answers connection `k` with
`service k`, and no other server is there. A failure names the address that was asked first, unless
it is about where an answer leads. -/
def ask (service : Nat → Service) (home : Address) : Nat → Nat → Request → Exchange Response
  | redirects, k, q =>
    let sent (outcome : Except Failure Response) : Exchange Response := ⟨[q.line], outcome⟩
    if !sameServer q.address home then
      ⟨[], .error (home.failed .network "error sending request")⟩
    else
      match service k with
      | .hangs => sent (.error (home.failed .timeout "error sending request"))
      | .closes => sent (.error (home.failed .network "error sending request"))
      | .sends octets =>
        match Response.ofOctets octets with
        | none => sent (.error (home.failed .network "error sending request"))
        | some r =>
          match r.target? q with
          | none => sent (.ok r)
          | some target =>
            match Address.ofText { target with fragment := none }.text, redirects with
            | .error _, _ => sent (.error (home.failed .httpRequest "builder error"))
            | .ok _, 0 =>
              sent (.error (q.address.failed .httpRequest "error following redirect"))
            | .ok next, left + 1 =>
              if !Url.isHttp next.scheme then
                sent (.error (next.failed .httpRequest "builder error"))
              else if target.authority.isNone then
                sent (.error (home.failed .network "error sending request"))
              else
                let rest := ask service home left (k + 1) (.ofTarget target next)
                { rest with requests := q.line :: rest.requests }

/-- The status of a response whose whole body has arrived. -/
def Response.settled (r : Response) : Except Failure UInt16 :=
  if r.complete then .ok (.ofNat r.status)
  else .error ⟨.httpRequest, "reading response body: error decoding response body"⟩

/-- Requests a URL; `k` connections have been made before. -/
def get (service : Nat → Service) (k : Nat) (url : String) : Exchange UInt16 :=
  match Address.ofText url with
  | .error _ => ⟨[], .error (Url.unreachable url)⟩
  | .ok a =>
    let a := a.asked
    if !Url.isHttp a.scheme || !a.isAskable then ⟨[], .error (Url.unreachable url)⟩
    else
      let sent := ask service a maxRedirects k (.ofAddress a)
      { sent with
        outcome :=
          match sent.outcome with
          | .ok r => r.settled
          | .error f => .error (f.within ("GET " ++ url)) }

/-- Requests a URL a number of times, and answers every exchange. -/
def getAll (service : Nat → Service) (url : String) : Nat → Nat → List (Exchange UInt16)
  | 0, _ => []
  | left + 1, k =>
    let e := get service k url
    e :: getAll service url left (k + e.requests.length)

end BenchRig.Http
