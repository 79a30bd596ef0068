import Courier.Delivery.Request
import Courier.Url.Reader

/-! Which requests HTTP can carry. The method is looked at first, then the headers in their order, and
the URL last; a request that passes is handed to the network. -/
namespace Courier.Http

def isTokenChar (c : Char) : Bool :=
  ('a' ≤ c && c ≤ 'z') || ('A' ≤ c && c ≤ 'Z') || c.isDigit || "!#$%&'*+-.^_`|~".toList.contains c

def isToken (s : String) : Bool := s ≠ "" && s.toList.all isTokenChar

def maxNameSize : Nat := 65535

def isHeaderName (s : String) : Bool := isToken s && s.utf8ByteSize ≤ maxNameSize

/-- A header's value holds no control character but the tab. -/
def isValueChar (c : Char) : Bool := c = '\t' || (32 ≤ c.toNat && c.toNat ≠ 127)

def isHeaderValue (s : String) : Bool := s.toList.all isValueChar

/-- Names are shown in lower case once they are known to be names. -/
def checkHeader (header : String × String) : Except TransportError Unit :=
  if ¬isHeaderName header.1 then
    .error (.request ("header " ++ header.1 ++ ": invalid HTTP header name"))
  else if ¬isHeaderValue header.2 then
    .error (.request ("header " ++ header.1.map Char.toLower ++ ": failed to parse header value"))
  else .ok ()

def checkHeaders : List (String × String) → Except TransportError Unit
  | [] => .ok ()
  | header :: rest => do
    checkHeader header
    checkHeaders rest

def checkMethod (method : String) : Except TransportError Unit :=
  if isToken method then .ok () else .error (.request "invalid HTTP method")

def isHostChar (c : Char) : Bool :=
  ('a' ≤ c && c ≤ 'z') || ('A' ≤ c && c ≤ 'Z') || c.isDigit || "!$&'()*+,-.;=_~".toList.contains c

def isHost : Url.Host → Bool
  | .name text => text.toList.all isHostChar
  | _ => true

def maxUrlSize : Nat := 65534

def isCarried (u : Url) : Bool :=
  (u.scheme = "http" || u.scheme = "https") && u.host.any isHost &&
    u.text.utf8ByteSize ≤ maxUrlSize

def checkUrl (url : String) : Except TransportError Url :=
  match Url.ofText? url with
  | none => .error (.request "builder error")
  | some u =>
    let u := u.withoutLogin
    if isCarried u then .ok u
    else .error (.request ("builder error for url (" ++ u.text ++ ")"))

def check (r : Request) : Except TransportError Request := do
  checkMethod r.method
  checkHeaders r.headers
  let url ← checkUrl r.url
  .ok { r with url := url.text }

def unreachable (r : Request) : Except TransportError Response :=
  .error (.connect ("error sending request for url (" ++ r.url ++ ")"))

def deliver (network : Request → Except TransportError Response) (r : Request) :
    Except TransportError Response := do
  network (← check r)

end Courier.Http
