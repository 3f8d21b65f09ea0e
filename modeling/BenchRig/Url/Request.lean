import BenchRig.Failure
import BenchRig.Url.Parse

/-!
# Requests

What becomes of a URL in a request: user and password go into a header, and the rest is the address
to ask. A request fails without any server if its URL cannot be read, leads to no host, has another
scheme than web pages, or does not make an address; and then if nobody listens there.
-/

namespace BenchRig.Url

/-- Whether a scheme is that of web pages. -/
def isHttp (scheme : List Char) : Bool :=
  scheme == "http".toList || scheme == "https".toList

/-- Whether an encoded part of a URL stands for text. -/
def holdsText (part : List Char) : Bool :=
  let bytes := percentDecode (part.flatMap String.utf8EncodeChar)
  Text.encode (Text.decode bytes) == bytes

/-- Whether a user can be put into a header: the name is text, and so is the password if the name is
empty. -/
def User.isCredential (u : User) : Bool :=
  holdsText u.name && (!u.name.isEmpty || u.password.any holdsText)

/-- The address that is asked. A user that can be put into a header is left out. -/
def Address.asked (a : Address) : Address :=
  if a.user.any (·.isCredential) then { a with user := none } else a

/-- The most bytes of an address. -/
def maxLength : Nat := 65534

/-- Whether a request can be built: names of hosts may hold characters that addresses may not. -/
def Address.isAskable (a : Address) : Bool :=
  a.text.utf8ByteSize ≤ maxLength
    && a.hostText.all fun c => c != '"' && c != '\x60' && c != '\x7b' && c != '\x7d'

/-- A failure with the address that it is about. -/
def Address.failed (a : Address) (cause : Cause) (text : String) : Failure :=
  ⟨cause, text ++ " for url (" ++ a.text ++ ")"⟩

/-- The failure of a request that finds no server. -/
def unreachable (url : String) : Failure :=
  let f : Failure :=
    match Address.ofText url with
    | .error _ => ⟨.httpRequest, "builder error"⟩
    | .ok a =>
      let a := a.asked
      if isHttp a.scheme && a.isAskable then a.failed .network "error sending request"
      else a.failed .httpRequest "builder error"
  f.within ("GET " ++ url)

end BenchRig.Url
