import HostConsole.Proofs.RequestPath
import HostConsole.Proofs.SentFields
import HostConsole.Server.Connection

/-!
# The requests of changes

A change can be read back from its method, the names of its path and its body. On the wire the
names that are not plain get lost, and with them the changes that they tell apart.

The bodies are read back by their fields, each of which is in the body or left out. The reading
has no other use than to show that a body forgets nothing. What the wire forgets is then a matter
of the path alone.

## Main definitions

* `Change.ofRequest?`: the change that a request stands for
* `Change.IsPlain`: every name in the path of the change is plain
* `Change.renamed`: the change with other names in its path

## Main results

* `Change.ofRequest?_request`: a request says what change it is
* `Connection.wire_change`: which changes can be told apart on the wire
-/

namespace HostConsole

open Json

/-! ## Reading bodies back -/

namespace Json

/-- A natural number of any size. -/
def numeral? : Json → Option Nat
  | number (.integer n) => some n.toNat
  | _ => none

/-- Texts by key, as they come. -/
def entries? : Json → Option (Dictionary String)
  | object fields => fields.mapM fun (key, value) => (text? value).map fun s => (key, s)
  | _ => none

theorem numeral?_ofNat (n : Nat) : numeral? (ofNat n) = some n := rfl

theorem entries?_ofDictionary (entries : Dictionary String) :
    entries? (ofDictionary string entries) = some entries := by
  unfold ofDictionary entries?
  induction entries with
  | nil => rfl
  | cons entry entries ih => simp [ih]

theorem bind_text? (value : Option String) : (value.map string).bind text? = value := by
  cases value <;> rfl

theorem bind_numeral? (value : Option Nat) : (value.map ofNat).bind numeral? = value := by
  cases value <;> rfl

theorem getD_bind_someTexts (values : List String) :
    ((someTexts values).bind (list? text?)).getD [] = values := by
  cases values with
  | nil => rfl
  | cons s values => exact congrArg (·.getD []) (list?_ofList fun s _ => text?_string s)

end Json

/-- The registration that a body stands for. -/
def Registration.ofBody? (org : String) (body : Json) : Option Registration := do
  return {
    name := ← (body.get? "name").bind text?
    org
    environmentId := (body.get? "environment_id").bind numeral?
    activationKeys := ((body.get? "activation_keys").bind (list? text?)).getD []
    consumerType := ← (body.get? "cType").bind text?
    release := (body.get? "releaseVer").bind text?
    serviceLevel := (body.get? "serviceLevel").bind text?
    facts := ← (body.get? "facts").bind entries? }

theorem Registration.ofBody?_body (r : Registration) : ofBody? r.org r.body = some r := by
  have field (key : String) : r.body.get? key = (r.fields.lookup key).join := by
    rw [r.body_eq]
    exact get?_ofList_presentFields r.nodup_fields key
  simp [ofBody?, field, fields, List.lookup_cons, entries?_ofDictionary, bind_text?,
    bind_numeral?, getD_bind_someTexts]

/-- The update that a body stands for. -/
def SystemUpdate.ofBody? (body : Json) : Option SystemUpdate := do
  let fields ← body.get? "system"
  return {
    name := (fields.get? "name").bind text?
    description := (fields.get? "description").bind text?
    location := (fields.get? "location").bind text?
    release := (fields.get? "releaseVer").bind text?
    serviceLevel := (fields.get? "serviceLevel").bind text?
    environmentId := (fields.get? "environment_id").bind numeral? }

theorem SystemUpdate.ofBody?_body (u : SystemUpdate) : ofBody? u.body = some u := by
  obtain ⟨sent, within, field⟩ : ∃ sent, u.body.get? "system" = some sent ∧
      ∀ key, sent.get? key = (u.fields.lookup key).join := by
    rw [u.body_eq]
    exact ⟨_, rfl, get?_ofList_presentFields u.nodup_fields⟩
  simp [ofBody?, within, field, fields, List.lookup_cons, bind_text?, bind_numeral?]

/-- The package action that a method and a body stand for. -/
def PackageAction.ofBody? (method : Method) (body : Json) : Option PackageAction :=
  match method, (body.get? "packages").bind (list? text?),
    (body.get? "groups").bind (list? text?) with
  | .post, some names, _ => some (.install names)
  | .delete, some names, _ => some (.remove names)
  | .put, some names, _ => some (.update names)
  | .post, none, some names => some (.installGroups names)
  | .delete, none, some names => some (.removeGroups names)
  | _, _, _ => none

theorem PackageAction.ofBody?_actionBody (action : PackageAction) :
    ofBody? (Change.actionMethod action) (Change.actionBody action) = some action := by
  have texts (names : List String) : list? text? (ofList string names) = some names :=
    list?_ofList fun name _ => text?_string name
  cases action <;>
    simp [ofBody?, Change.actionMethod, Change.actionBody, targetsGroups, names, Json.get?,
      Dictionary.get?, texts, List.lookup_cons]

namespace Change

/-! ## Reading requests back -/

/-- The numbers of groups that a body stands for. -/
def groupsOfBody? (body : Json) : Option (List Nat) :=
  ((body.get? "system").bind (·.get? "system_group_ids")).bind (list? numeral?)

theorem groupsOfBody?_groupsBody (groups : List Nat) :
    groupsOfBody? (groupsBody groups) = some groups :=
  list?_ofList fun n _ => numeral?_ofNat n

/-- The change that a request stands for, by its method, the names of its path and its body. -/
def ofRequest? (method : Method) (segments : List String) (body : Option Json) : Option Change :=
  match segments with
  | ["organizations", org, "systems"] => do
    return register (← Registration.ofBody? org (← body))
  | ["consumers", uuid, "deletionrecord"] => some (removeDeletionRecord uuid)
  | ["systems", uuid] =>
    if method = .delete then some (unregister uuid)
    else do return update uuid (← SystemUpdate.ofBody? (← body))
  | ["systems", uuid, "packages"] => do
    return packageAction uuid (← PackageAction.ofBody? method (← body))
  | ["systems", uuid, "subscriptions"] =>
    if method = .delete then some (unsubscribe uuid .all)
    else do
      let body ← body
      return subscribe uuid (← (body.get? "pool").bind text?)
        (← (body.get? "quantity").bind numeral?)
  | ["systems", uuid, "subscriptions", id] => some (unsubscribe uuid (.entitlement id))
  | ["systems", uuid, "subscriptions", "serials", serial] =>
    some (unsubscribe uuid (.serial serial))
  | ["systems", uuid, "system_groups"] => do
    let groups ← groupsOfBody? (← body)
    return if method = .delete then removeSystemGroups uuid groups else addSystemGroups uuid groups
  | ["custom_info", "system", owner] => do
    let body ← body
    return addCustomInfo owner (← (body.get? "keyname").bind text?)
      (← (body.get? "value").bind text?)
  | ["custom_info", "system", owner, key] => some (removeCustomInfo owner key none)
  | ["custom_info", "system", owner, key, value] =>
    if method = .delete then some (removeCustomInfo owner key (some value))
    else do return updateCustomInfo owner key value (← (← body).get? "value" >>= text?)
  | _ => none

/-- **A request says what change it is.** -/
theorem ofRequest?_request (ch : Change) :
    ofRequest? ch.request.method ch.request.segments ch.request.body = some ch := by
  cases ch with
  | register registration => simp [request, Request.change, ofRequest?, Registration.ofBody?_body]
  | unregister uuid => rfl
  | removeDeletionRecord uuid => rfl
  | update uuid u => simp [request, Request.change, ofRequest?, SystemUpdate.ofBody?_body]
  | packageAction uuid action =>
    simp [request, Request.change, ofRequest?, PackageAction.ofBody?_actionBody]
  | subscribe uuid pool quantity => rfl
  | unsubscribe uuid target => cases target <;> rfl
  | addSystemGroups uuid groups =>
    simp [request, Request.change, ofRequest?, groupsOfBody?_groupsBody]
  | removeSystemGroups uuid groups =>
    simp [request, Request.change, ofRequest?, groupsOfBody?_groupsBody]
  | addCustomInfo owner key value => rfl
  | updateCustomInfo owner key current new => rfl
  | removeCustomInfo owner key value => cases value <;> rfl

/-- Changes with the same method, names and body are the same. -/
theorem eq_of_request_eq {a b : Change} (hm : a.request.method = b.request.method)
    (hs : a.request.segments = b.request.segments) (hb : a.request.body = b.request.body) :
    a = b := by
  -- Both are what the same request stands for.
  have read := ofRequest?_request a
  rw [hm, hs, hb, ofRequest?_request b] at read
  exact (Option.some.inj read).symm

/-! ## Names in the paths of changes -/

/-- Every name in the path of the change is plain. -/
def IsPlain (ch : Change) : Prop :=
  ∀ name ∈ ch.request.segments, Address.IsPlain name

instance : DecidablePred IsPlain := fun ch =>
  inferInstanceAs (Decidable (∀ name ∈ ch.request.segments, Address.IsPlain name))

/-- The change with other names in its path. -/
def renamed (f : String → String) : Change → Change
  | register registration => register { registration with org := f registration.org }
  | unregister uuid => unregister (f uuid)
  | removeDeletionRecord uuid => removeDeletionRecord (f uuid)
  | update uuid u => update (f uuid) u
  | packageAction uuid action => packageAction (f uuid) action
  | subscribe uuid pool quantity => subscribe (f uuid) pool quantity
  | unsubscribe uuid .all => unsubscribe (f uuid) .all
  | unsubscribe uuid (.serial serial) => unsubscribe (f uuid) (.serial (f serial))
  | unsubscribe uuid (.entitlement id) => unsubscribe (f uuid) (.entitlement (f id))
  | addSystemGroups uuid groups => addSystemGroups (f uuid) groups
  | removeSystemGroups uuid groups => removeSystemGroups (f uuid) groups
  | addCustomInfo owner key value => addCustomInfo (f owner) key value
  | updateCustomInfo owner key current new => updateCustomInfo (f owner) (f key) (f current) new
  | removeCustomInfo owner key value => removeCustomInfo (f owner) (f key) (value.map f)

/-- The names that the changes bring along. -/
def fixedNames : List String :=
  ["organizations", "systems", "consumers", "deletionrecord", "packages", "subscriptions",
    "serials", "system_groups", "custom_info", "system"]

theorem request_renamed {f : String → String} (hf : ∀ name ∈ fixedNames, f name = name)
    (ch : Change) :
    (ch.renamed f).request = { ch.request with segments := ch.request.segments.map f } := by
  simp only [fixedNames, List.forall_mem_cons] at hf
  cases ch with
  | unsubscribe uuid target =>
    cases target <;> simp [renamed, request, Request.change, targetSegments, hf]
  | removeCustomInfo owner key value =>
    cases value <;> simp [renamed, request, Request.change, hf]
  | register registration =>
    simp [renamed, request, Request.change, hf, Registration.body]
  | _ => simp [renamed, request, Request.change, hf]

theorem twin_eq_of_mem_fixedNames : ∀ name ∈ fixedNames, Address.twin name = name := by
  decide

theorem exists_segments (ch : Change) :
    ∃ first more, ch.request.segments = first :: more ∧ first ≠ "" := by
  cases ch <;> exact ⟨_, _, rfl, by decide⟩

end Change

namespace Connection

variable (c : Connection)

/-- The requests cannot be told apart by method, path and body. -/
def Confuses (a b : Request) : Prop :=
  a.method = b.method ∧ (c.address a).path = (c.address b).path ∧ a.body = b.body

/-- A connection is only opened to an address that has a path with segments. -/
theorem isRootless_of_ofSettings {c : Connection} {settings : Settings}
    (h : ofSettings settings = .ok c) : c.base.isRootless = false := by
  unfold ofSettings at h
  split at h
  · cases h
  · next base _ =>
    cases hb : base.isRootless with
    | true =>
      rw [hb] at h
      cases h
    | false =>
      rw [hb] at h
      cases h
      exact hb

theorem isRootless_plainBase : c.plainBase.isRootless = c.base.isRootless := by
  unfold plainBase
  split <;> rfl

/-- A change takes the query of the server's address as it is. -/
theorem address_change (ch : Change) :
    c.address ch.request = c.plainBase.endpoint ch.request.segments := by
  -- No change asks with a query of its own.
  have unasked : ch.request.query = none := by cases ch <;> rfl
  rw [address, unasked]

theorem wire_renamed_twin (ch : Change) :
    c.wire (ch.renamed Address.twin).request = c.wire ch.request := by
  have renamed := Change.request_renamed Change.twin_eq_of_mem_fixedNames ch
  have same : c.address (ch.renamed Address.twin).request = c.address ch.request := by
    rw [address_change, address_change, renamed, Address.endpoint_map_twin]
  unfold wire
  rw [same, renamed]

variable {c}

/-- Plain changes are told apart on the wire. -/
theorem eq_of_confuses (hr : c.base.isRootless = false) {a b : Change} (ha : a.IsPlain)
    (hb : b.IsPlain) (h : c.Confuses a.request b.request) : a = b := by
  obtain ⟨hm, hp, hbody⟩ := h
  refine Change.eq_of_request_eq hm ?_ hbody
  obtain ⟨first, more, hs, hf⟩ := a.exists_segments
  obtain ⟨other, others, ht, ho⟩ := b.exists_segments
  unfold Change.IsPlain at ha hb
  rw [address_change, address_change] at hp
  rw [hs] at ha hp ⊢
  rw [ht] at hb hp ⊢
  exact Address.path_endpoint_injective ((isRootless_plainBase c).trans hr) hf ho ha hb hp

/-- A change that is not plain goes out as another one does too. -/
theorem exists_wire_eq (c : Connection) {a : Change} (ha : ¬ a.IsPlain) :
    ∃ b, b ≠ a ∧ c.wire b.request = c.wire a.request := by
  refine ⟨a.renamed Address.twin, ?_, c.wire_renamed_twin a⟩
  -- A change that its twins leave as it is has plain names only.
  intro he
  apply ha
  intro name hm
  have names := congrArg (·.request.segments) he
  simp only [Change.request_renamed Change.twin_eq_of_mem_fixedNames] at names
  exact Address.isPlain_of_twin_eq
    (List.map_inj_left.mp (names.trans (List.map_id _).symm) name hm)

/-- Two changes of which one has a further name in its path are confused only if that is a dot or
two. -/
theorem confuses_iff_of_concat (hr : c.base.isRootless = false) {a b : Change}
    {names : List String} {last name : String} (hm : a.request.method = b.request.method)
    (hb : a.request.body = b.request.body)
    (ha : a.request.segments = names ++ [last, name])
    (hs : b.request.segments = names ++ [last]) (hp : Address.IsPlain last) (hl : last ≠ "") :
    c.Confuses a.request b.request ↔ name = "." ∨ name = ".." := by
  have lost := @Address.path_endpoint_concat_eq_iff names _ ((isRootless_plainBase c).trans hr)
    last hp hl name
  rw [Confuses, address_change, address_change, ha, hs]
  constructor
  · rintro ⟨-, path_eq, -⟩
    exact lost.mp path_eq
  · intro hd
    exact ⟨hm, lost.mpr hd, hb⟩

/-- **Which changes can be told apart on the wire**: the plain ones, and no others. In particular
one entitlement is told from all of them, and one text from all under its key, unless its name is
a dot or two. -/
theorem wire_change (hr : c.base.isRootless = false) :
    (∀ a b : Change, a.IsPlain → b.IsPlain → c.Confuses a.request b.request → a = b) ∧
    (∀ a : Change, ¬ a.IsPlain → ∃ b, b ≠ a ∧ c.wire b.request = c.wire a.request) ∧
    (∀ uuid id, c.Confuses (Change.unsubscribe uuid (.entitlement id)).request
      (Change.unsubscribe uuid .all).request ↔ id = "." ∨ id = "..") ∧
    ∀ owner key value, Address.IsPlain key → key ≠ "" →
      (c.Confuses (Change.removeCustomInfo owner key (some value)).request
        (Change.removeCustomInfo owner key none).request ↔ value = "." ∨ value = "..") := by
  refine ⟨?_, ?_, ?_, ?_⟩
  · intro a b ha hb
    exact eq_of_confuses hr ha hb
  · intro a ha
    exact c.exists_wire_eq ha
  · intro uuid id
    have segments : (Change.unsubscribe uuid (.entitlement id)).request.segments =
        ["systems", uuid] ++ ["subscriptions", id] := rfl
    exact confuses_iff_of_concat hr rfl rfl segments rfl (by decide) (by decide)
  · intro owner key value hp hk
    have segments : (Change.removeCustomInfo owner key (some value)).request.segments =
        ["custom_info", "system", owner] ++ [key, value] := rfl
    exact confuses_iff_of_concat hr rfl rfl segments rfl hp hk

/-- A server at a fixed address. -/
def sample : Connection :=
  { base := { scheme := "http", host := some (.name "h"), route := .segments ["api"] } }

/-- An entitlement is told from all of them by its name. -/
theorem wire_change_of_entitlements :
    sample.Confuses (Change.unsubscribe "u" (.entitlement ".")).request
      (Change.unsubscribe "u" .all).request ∧
    ¬ sample.Confuses (Change.unsubscribe "u" (.entitlement "e")).request
      (Change.unsubscribe "u" .all).request := by
  obtain ⟨-, -, entitlements, -⟩ := wire_change (show sample.base.isRootless = false from rfl)
  exact ⟨(entitlements "u" ".").mpr (.inl rfl),
    fun h => absurd ((entitlements "u" "e").mp h) (by decide)⟩

/-- A dot for an entitlement asks for all of them to be given back, and a dot for a text asks for
all texts under its key to be removed. -/
theorem wire_dot_eq :
    Change.unsubscribe "u" (.entitlement ".") ≠ .unsubscribe "u" .all ∧
    Change.removeCustomInfo "o" "k" (some ".") ≠ .removeCustomInfo "o" "k" none ∧
    [Change.unsubscribe "u" (.entitlement "."), .unsubscribe "u" .all,
        .removeCustomInfo "o" "k" (some "."), .removeCustomInfo "o" "k" none].map
      (fun ch => ((sample.wire ch.request).method, (sample.wire ch.request).target,
        (sample.wire ch.request).body.isNone)) =
      [(.delete, "/api/systems/u/subscriptions", true),
        (.delete, "/api/systems/u/subscriptions", true),
        (.delete, "/api/custom_info/system/o/k", true),
        (.delete, "/api/custom_info/system/o/k", true)] := by
  decide +kernel

end Connection

end HostConsole
