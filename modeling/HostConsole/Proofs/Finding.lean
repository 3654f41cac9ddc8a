import HostConsole.Proofs.Route

/-!
# Finding

How a route finds the system that a reference means: by a name it lists the systems that bear
it, and settles on the only one.

The three routes differ in where they list the systems and in what they make of the only one. In
between they all do the same, which `Route.find_name` states as an equation of programs. What
holds of a name is proved from it for the three routes at once.

## Main definitions

* `Turn.environments?`, `Turn.listed?`, `Turn.machine?`: what a turn was told
* `Route.candidates`, `Route.settle`: the stages of a route by a name
* `Route.Lists`: the lookup by which a route lists the systems of a name

## Main results

* `Route.find_name`: a route lists the systems of a name and settles on the only one
-/

namespace HostConsole

open Program

/-! ## What turns were told -/

namespace Turn

/-- The environments that the turn was told of. -/
def environments? (t : Turn) : Option (List Environment) :=
  match t.call with
  | .lookup (.environments org name) => t.delivery.answer? (.lookup (.environments org name))
  | _ => none

/-- The full record that the turn was told. -/
def machine? (t : Turn) : Option Machine :=
  match t.call with
  | .lookup (.system uuid) => t.delivery.answer? (.lookup (.system uuid))
  | _ => none

/-- The systems that the turn was told of in a listing. -/
def listed? (t : Turn) : Option (List Machine) :=
  match t.call with
  | .lookup (.systemsOfOrganisation org query) =>
    t.delivery.answer? (.lookup (.systemsOfOrganisation org query))
  | .lookup (.systemsOfEnvironment environment query) =>
    t.delivery.answer? (.lookup (.systemsOfEnvironment environment query))
  | _ => none

variable {t : Turn}

theorem environments?_eq {org : String} {name : Option String}
    (h : t.call = .lookup (.environments org name)) :
    t.environments? = t.delivery.answer? (.lookup (.environments org name)) := by
  obtain ⟨call, request, delivery⟩ := t
  cases h
  rfl

theorem listed?_of_organisation {org : String} {query : SystemQuery}
    (h : t.call = .lookup (.systemsOfOrganisation org query)) :
    t.listed? = t.delivery.answer? (.lookup (.systemsOfOrganisation org query)) := by
  obtain ⟨call, request, delivery⟩ := t
  cases h
  rfl

theorem listed?_of_environment {environment : Nat} {query : SystemQuery}
    (h : t.call = .lookup (.systemsOfEnvironment environment query)) :
    t.listed? = t.delivery.answer? (.lookup (.systemsOfEnvironment environment query)) := by
  obtain ⟨call, request, delivery⟩ := t
  cases h
  rfl

end Turn

/-! ## The stages of a route -/

namespace Route

/-- The environment in which a route looks for a name. -/
def place? : Route → Option String
  | record environment => environment
  | listing | direct => none

/-- The systems that may be meant by a name. -/
def candidates (org name : String) (route : Route) : Program (List Machine) :=
  match route.place? with
  | some place => do
    let place ← Resolution.environment org (some place)
    look (.systemsOfEnvironment place.id { name := some name })
      (some (.systemNotFound (.name name) org))
  | none =>
    look (.systemsOfOrganisation org { name := some name })
      (some (.systemNotFound (.name name) org))

/-- The lookup by which a route lists the systems of a name, behind the turns before it: the
organisation is asked at once, an environment once its own record is there. -/
inductive Lists (org name : String) (route : Route) : List Turn → Lookup → Prop where
  | organisation (h : route.place? = none) :
      Lists org name route [] (.systemsOfOrganisation org { name := some name })
  | environment {place : String} {asked : Turn} {first : Environment} {others : List Environment}
      (h : route.place? = some place)
      (asks : asked.call = .lookup (.environments org (some place)))
      (found : asked.environments? = some (first :: others)) :
      Lists org name route [asked] (.systemsOfEnvironment first.id { name := some name })

/-- What a route makes of the only system of a name. -/
def settle (org name : String) (only : Machine) : (route : Route) → Program route.Found
  | record _ => look (.system only.uuid) (some (.systemNotFound (.name name) org))
  | listing => (pure only : Program Machine)
  | direct => do
    let machine : Machine ← look (.system only.uuid) (some (.systemNotFound (.name name) org))
    return machine.uuid

/-- A route lists the systems of a name and settles on the only one. -/
theorem find_name (org name : String) (route : Route) :
    route.find org (.name name) = route.candidates org name >>= fun found =>
      require (Resolution.exactlyOne found (.name name) org) >>= fun only =>
        route.settle org name only := by
  cases route with
  | record environment =>
    cases environment with
    | none => rfl
    | some place => exact (bind_assoc _ _ _).symm
  | listing => exact (bind_pure _).symm
  | direct => exact (bind_assoc _ _ _).trans (bind_congr fun _ => bind_assoc _ _ _)

end Route

end HostConsole
