import HostConsole.Failure
import HostConsole.Json.Reader
import HostConsole.Server.Call
import HostConsole.Server.Status
import HostConsole.Text.Blank
import HostConsole.Text.Utf8

/-!
# Replies

What comes back for a request, and what a call makes of it.

A request is handed to a client, and the client hands back what came of it. Since it follows
redirections by itself, it may have asked more than once by then: the reply is the last one, and the
redirections before it are seen by nobody else. The case that it gives up following them is left
out.

## Main definitions

* `Reply`, `Delivery`: a reply, and what the client hands back in any case
* `Reply.explanation`: what a reply without success says about itself
* `Call.read`: the answer to a call, or why the reply gives none
-/

namespace HostConsole

/-- A reply of the server, the last one where the client followed redirections. -/
structure Reply where
  status : Nat
  headers : List (String × String) := []
  body : List UInt8 := []
  /-- Did the body break off? -/
  isCut : Bool := false
  deriving DecidableEq, Repr

/-- What arrives for a request: what the client hands back once it has sent the request and followed
whatever redirections there were. It need not be what a single exchange with the server brought. -/
inductive Delivery where
  /-- The connection breaks before there is a reply to hand back. -/
  | nothing
  | reply (reply : Reply)
  deriving DecidableEq, Repr

namespace Reply

/-- The codes whose replies have no content, whatever follows their headers. -/
def contentlessCodes : List Nat := [204, 304]

/-- The content; `none` when it breaks off. -/
def content? (r : Reply) : Option (List UInt8) :=
  if contentlessCodes.contains r.status then some []
  else if r.isCut then none
  else some r.body

/-- May the character stand in the text of a header? -/
def isHeaderCharacter (c : Char) : Bool :=
  c == '\t' || (0x20 ≤ c.toNat && c.toNat < 0x7F)

/-- The text of the first header with a name, which is given in small letters. -/
def header? (r : Reply) (name : String) : Option String :=
  let named := r.headers.find? fun header =>
    header.1.toList.map Char.toLower == name.toList
  (named.map fun header => Text.trimmed header.2).filter fun value =>
    value.toList.all isHeaderCharacter

/-! ## Replies without success -/

/-- What an object says about a failure: its own message, else its errors. -/
def statedMessage? (value : Json) : Option String :=
  match (value.get? "displayMessage").bind Json.text? with
  | some message => some message
  | none =>
    let errors := ((value.get? "errors").bind Json.items?).getD []
    let joined := String.intercalate "; " (errors.filterMap Json.text?)
    if joined = "" then none else some joined

/-- What a reply without success says about itself: a stated message, else its text, else its
status. -/
def explanation (r : Reply) : String :=
  let text := Utf8.textLossy (r.content?.getD [])
  match (Json.readStrict (Utf8.bytes text)).toOption.bind statedMessage? with
  | some message => message
  | none =>
    let trimmed := Text.trimmed text
    if trimmed = "" then statusText r.status else trimmed

/-- Why a reply is no success. -/
def refusal? (r : Reply) : Option RemoteCause :=
  if isSuccess r.status then none
  else if r.status = notFoundCode then some (.notFound r.explanation)
  else some (.status r.status r.explanation)

/-! ## Replies with success -/

/-- The cause when a reply does not have the form it should have. -/
def undecodable : RemoteCause := .unreadable "error decoding response body"

/-- The content as it is. -/
def bytes (r : Reply) : Except RemoteCause (List UInt8) :=
  match r.content? with
  | some content => .ok content
  | none => .error undecodable

/-- The content as a record. -/
def record {α : Type} (reader : Json → Option α) (r : Reply) : Except RemoteCause α := do
  match Json.read (← r.bytes) with
  | .error _ => throw undecodable
  | .ok (value, _) =>
    match reader value with
    | some result => return result
    | none => throw undecodable

/-- The content as a report. -/
def report (r : Reply) : Except RemoteCause Report := do
  return { body := ← r.bytes, disposition := r.header? "content-disposition" }

/-- Does the content confirm a removal? No content does. -/
def confirmation (r : Reply) : Except RemoteCause Bool := do
  let text := Utf8.textLossy (← r.bytes)
  if Text.trimmed text = "" then return true
  match Json.readStrict (Utf8.bytes text) with
  | .ok value => return value.isTruthy
  | .error fault => throw (.unreadable (fault.message (Utf8.bytes text)))

end Reply

open Json

/-- The answer to a lookup. -/
def Lookup.read : (l : Lookup) → Reply → Except RemoteCause l.Answer
  | environments .., r => r.record (list? Environment.ofJson?)
  | systemsOfOrganisation .., r | systemsOfEnvironment .., r =>
    r.record (list? Machine.ofJson?)
  | system _, r => r.record Machine.ofJson?
  | releasesOfSystem _, r | releasesOfEnvironment _, r => r.record Releases.ofJson?
  | packages _, r => r.record (list? Package.ofJson?)
  | task _, r => r.record Task.ofJson?
  | tasks .., r => r.record (list? Task.ofJson?)
  | subscriptions _, r => r.record Subscriptions.ofJson?
  | pools .., r => r.record Pools.ofJson?
  | report .., r => r.report
  | systemGroups .., r => r.record (list? SystemGroup.ofJson?)
  | customInfo .., r => r.record CustomInfo.ofJson?

/-- The answer to a change. Where nothing is told, any content will do. -/
def Change.read : (c : Change) → Reply → Except RemoteCause c.Answer
  | register _, r | update .., r | addSystemGroups .., r | removeSystemGroups .., r =>
    r.record (optional? Machine.ofJson?)
  | unregister _, _ | removeDeletionRecord _, _ | subscribe .., _ | unsubscribe .., _ => .ok ()
  | packageAction .., r => r.record Task.ofJson?
  | addCustomInfo .., r | updateCustomInfo .., r => r.record CustomInfo.ofJson?
  | removeCustomInfo .., r => r.confirmation

/-- The answer to a call in a reply with success. -/
def Call.read : (call : Call) → Reply → Except RemoteCause call.Answer
  | lookup l, r => l.read r
  | change c, r => c.read r

/-- What a call makes of a reply. -/
def Call.answer (call : Call) (reply : Reply) : Except RemoteCause call.Answer :=
  match reply.refusal? with
  | some cause => .error cause
  | none => call.read reply

/-- A reply without success answers no call. -/
theorem Call.answer_of_refusal {call : Call} {reply : Reply} {cause : RemoteCause}
    (h : reply.refusal? = some cause) : call.answer reply = .error cause := by
  simp [Call.answer, h]

end HostConsole
