import HostConsole.Identity
import HostConsole.Server.Reply
import HostConsole.Settings.Basic
import HostConsole.Text.Base64
import HostConsole.Url.Reader

/-!
# Connections

Where the server is and who asks. Together with a call this gives the request that goes out, and
with what arrives for it the answer.

Requests go out through a client, and what arrives is what the client hands back. The requests here
are those that it is given to send: further ones, by which it follows redirections, are its own
matter, and so is what it is told on the way.

## Main definitions

* `Connection`: an address with the user, made by `Connection.ofSettings`
* `WireRequest`: a request as the client is given it to send, made by `Connection.wire`
* `Network`: the far end behind the client, of which a run sees nothing but what arrives
* `Turn`: a request that the client was given and what it handed back
* `Connection.exchange`: what comes of a call
-/

namespace HostConsole

/-- Where the server is and who asks. -/
structure Connection where
  base : Address
  username : Option String := none
  password : Option String := none
  deriving DecidableEq, Repr

/-- A request as the client is given it to send. Where the client follows a redirection it sends
another one by itself, which is none of these. -/
structure WireRequest where
  method : Method
  /-- The path with the query. -/
  target : String
  accept : String
  userAgent : String
  authorization : Option String
  contentType : Option String
  body : Option Json

/-- A request that the client was given to send, the call behind it, and what it handed back for the
request. Redirections that it followed in between are no turns. -/
structure Turn where
  call : Call
  request : WireRequest
  delivery : Delivery

/-- The far end of a connection, as far as it can be told through the client. -/
structure Network where
  /-- Is anybody there? If not, no request gets as far as going out. -/
  isListening : Bool
  /-- What the client hands back for the requests that it is given, in their order: one delivery for
  each, however many redirections it follows. For any further one nothing arrives. -/
  deliveries : List Delivery
  deriving DecidableEq, Repr

/-- The user and the password that an address names, when they are texts. -/
def Address.credentials? (a : Address) : Option (String × Option String) := do
  let user ← Utf8.text? (Url.percentDecode a.user.toList)
  let password := a.password.bind fun p => Utf8.text? (Url.percentDecode p.toList)
  if user = "" ∧ password.isNone then none else some (user, password)

namespace Connection

/-- The connection of the settings. -/
def ofSettings (settings : Settings) : Except Failure Connection := do
  match Address.read settings.url with
  | .error fault => throw (.configuration (.badAddress settings.url fault.message))
  | .ok base =>
    if base.isRootless then throw (.configuration (.addressWithoutPath settings.url))
    return { base, username := settings.username, password := settings.password }

/-- The user and the password of the requests. Those of the settings come before those of the
address. -/
def credentials? (c : Connection) : Option (String × Option String) :=
  match c.username with
  | some user => some (user, c.password)
  | none => c.base.credentials?

/-- How a request tells who asks. -/
def authorization (c : Connection) : Option String :=
  c.credentials?.map fun (user, password) =>
    .ofList ("Basic ".toList ++ Base64.encode (Utf8.bytes (user ++ ":" ++ password.getD "")))

/-- The address of the server as requests name it. -/
def plainBase (c : Connection) : Address :=
  if c.base.credentials?.isSome then c.base.withoutUser else c.base

/-- The address of a request. -/
def address (c : Connection) (r : Request) : Address :=
  let place := c.plainBase.endpoint r.segments
  match r.query with
  | some pairs => place.withPairs pairs
  | none => place

/-- The path by which faults name the resource of a request. -/
def resource (c : Connection) (r : Request) : String :=
  (c.base.endpoint r.segments).path

/-- A request as the client is given it to send. -/
def wire (c : Connection) (r : Request) : WireRequest :=
  { method := r.method
    target := (c.address r).target
    accept := r.accept
    userAgent := consoleAgent
    authorization := c.authorization
    contentType := r.body.map fun _ => "application/json"
    body := r.body }

/-- The schemes that requests go out by. -/
def requestSchemes : List String := ["http", "https"]

/-- The size in bytes up to which an address can be asked for. -/
def largestAddress : Nat := 65534

/-- Can a request not name this character in a host? -/
def isUnfitForHost (c : Char) : Bool :=
  ['"', '\\', '\x60', '\x7b', '\x7d'].contains c

/-- Can a request go out to the address? -/
def isFit (a : Address) : Bool :=
  requestSchemes.contains a.scheme &&
    decide (a.render.utf8ByteSize ≤ largestAddress) &&
    ((a.host.map Url.Host.render).getD []).all fun c => !isUnfitForHost c

/-- The fault of a request that got no answer. -/
def noAnswer (c : Connection) (r : Request) (what : String) : RemoteFault :=
  { resource := c.resource r
    cause := .noAnswer (what ++ " for url (" ++ (c.address r).render ++ ")") }

/-- The fault of a request that was sent without an answer. -/
def broken (c : Connection) (r : Request) : RemoteFault :=
  c.noAnswer r "error sending request"

/-- The fault of a request that cannot go out. -/
def obstacle? (c : Connection) (isListening : Bool) (r : Request) : Option RemoteFault :=
  if !isFit (c.address r) then some (c.noAnswer r "builder error")
  else if !isListening then some (c.broken r)
  else none

/-- What a call makes of what arrives. -/
def receive (c : Connection) (call : Call) : Delivery → Except RemoteFault call.Answer
  | .nothing => .error (c.broken call.request)
  | .reply reply =>
    (call.answer reply).mapError fun cause => { resource := c.resource call.request, cause }

/-- The turn of a call for which something arrived. -/
def turn (c : Connection) (call : Call) (delivery : Delivery) : Turn :=
  { call, request := c.wire call.request, delivery }

/-- What comes of a call: its answer, the turns that it took, and the far end behind it. -/
structure Exchange (α : Type) where
  result : Except RemoteFault α
  turns : List Turn
  network : Network

/-- What comes of a call. -/
def exchange (c : Connection) (call : Call) (network : Network) : Exchange call.Answer :=
  match c.obstacle? network.isListening call.request with
  | some fault => { result := .error fault, turns := [], network }
  | none =>
    match network.deliveries with
    | [] =>
      { result := .error (c.broken call.request), turns := [c.turn call .nothing], network }
    | delivery :: rest =>
      { result := c.receive call delivery, turns := [c.turn call delivery]
        network := { network with deliveries := rest } }

end Connection

end HostConsole
