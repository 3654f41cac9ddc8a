import HostConsole.Json.Basic
import HostConsole.Server.Query

/-!
# Requests

What is asked of the server, apart from where the server is and who asks.

## Main definitions

* `Method`: what is to be done
* `Request`: a method at a resource, with what goes along
-/

namespace HostConsole

/-- What is to be done with a resource. -/
inductive Method where
  | get
  | post
  | put
  | delete
  deriving DecidableEq, Repr

namespace Method

/-- The name of a method. -/
def name : Method → String
  | get => "GET"
  | post => "POST"
  | put => "PUT"
  | delete => "DELETE"

end Method

/-- A request: a method at the resource that some segments name. -/
structure Request where
  method : Method
  segments : List String
  /-- The pairs to add to the query; a request without takes the query of the address as it is. -/
  query : Option Query := none
  body : Option Json := none
  /-- The media type that the reply should have. -/
  accept : String := "*/*"

namespace Request

/-- A request that looks a resource up. -/
def look (segments : List String) (query : Query := []) : Request :=
  { method := .get, segments, query := some query }

/-- A request that changes a resource. -/
def change (method : Method) (segments : List String) (body : Option Json := none) : Request :=
  { method, segments, body }

end Request

end HostConsole
