/-!
# Filters of listings

## Main definitions

* `SystemQuery`, `TaskFilter`, `PoolFilter`: filters, each with the pairs of its query
-/

namespace HostConsole

/-- The pairs of a query, in their order. -/
abbrev Query := List (String × String)

/-- A pair for a value that may be missing. -/
def Query.optional (key : String) (value : Option String) : Query :=
  (value.map fun v => (key, v)).toList

/-- A filter of a listing of systems. -/
structure SystemQuery where
  name : Option String := none
  uuid : Option String := none
  poolId : Option String := none
  deriving DecidableEq, Repr

/-- The pairs of the filter. -/
def SystemQuery.pairs (q : SystemQuery) : Query :=
  Query.optional "name" q.name ++ Query.optional "uuid" q.uuid ++
    Query.optional "pool_id" q.poolId

/-- A filter of a listing of tasks. -/
structure TaskFilter where
  environmentId : Option Nat := none
  systemName : Option String := none
  systemUuid : Option String := none
  deriving DecidableEq, Repr

/-- The pairs of the filter. -/
def TaskFilter.pairs (f : TaskFilter) : Query :=
  Query.optional "environment_id" (f.environmentId.map Nat.repr) ++
    Query.optional "system_name" f.systemName ++ Query.optional "system_uuid" f.systemUuid

/-- A filter of a listing of pools. -/
structure PoolFilter where
  matchSystem : Bool := false
  matchInstalled : Bool := false
  noOverlap : Bool := false
  deriving DecidableEq, Repr

/-- A pair for a switch that is on. -/
def Query.switch (key : String) (on : Bool) : Query :=
  if on then [(key, "true")] else []

/-- The pairs of the filter. -/
def PoolFilter.pairs (f : PoolFilter) : Query :=
  Query.switch "match_system" f.matchSystem ++
    Query.switch "match_installed" f.matchInstalled ++ Query.switch "no_overlap" f.noOverlap

end HostConsole
