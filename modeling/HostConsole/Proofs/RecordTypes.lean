import HostConsole.Record.Machine
import HostConsole.Record.Package
import HostConsole.Record.Subscription
import HostConsole.Record.Task

/-!
# The types of records

All record types side by side, for what holds of every one of them.

## Main definitions

* `RecordType`: the types of records
* `RecordType.ofJson?`, `RecordType.toJson`: the reader and the writer of each
* `RecordType.fieldNames`: the names of the fields of each

## Main results

* `RecordType.nodup_fieldNames`: no record has two fields of one name
-/

namespace HostConsole

/-- The types of records. -/
inductive RecordType where
  | namedRef
  | environment
  | systemGroup
  | machine
  | customInfo
  | package
  | releases
  | taskState
  | task
  | serial
  | entitlement
  | subscriptions
  | providedProduct
  | productAttribute
  | pool
  | pools

namespace RecordType

/-- The records of a type. -/
def Record : RecordType → Type
  | namedRef => NamedRef
  | environment => Environment
  | systemGroup => SystemGroup
  | machine => Machine
  | customInfo => CustomInfo
  | package => Package
  | releases => Releases
  | taskState => TaskState
  | task => Task
  | serial => Serial
  | entitlement => Entitlement
  | subscriptions => Subscriptions
  | providedProduct => ProvidedProduct
  | productAttribute => ProductAttribute
  | pool => Pool
  | pools => Pools

/-- Reads a record of a type. -/
def ofJson? : (type : RecordType) → Json → Option type.Record
  | namedRef => NamedRef.ofJson?
  | environment => Environment.ofJson?
  | systemGroup => SystemGroup.ofJson?
  | machine => Machine.ofJson?
  | customInfo => CustomInfo.ofJson?
  | package => Package.ofJson?
  | releases => Releases.ofJson?
  | taskState => TaskState.ofJson?
  | task => Task.ofJson?
  | serial => Serial.ofJson?
  | entitlement => Entitlement.ofJson?
  | subscriptions => Subscriptions.ofJson?
  | providedProduct => ProvidedProduct.ofJson?
  | productAttribute => ProductAttribute.ofJson?
  | pool => Pool.ofJson?
  | pools => Pools.ofJson?

/-- Writes a record of a type. -/
def toJson : (type : RecordType) → type.Record → Json
  | namedRef => NamedRef.toJson
  | environment => Environment.toJson
  | systemGroup => SystemGroup.toJson
  | machine => Machine.toJson
  | customInfo => CustomInfo.toJson
  | package => Package.toJson
  | releases => Releases.toJson
  | taskState => TaskState.toJson
  | task => Task.toJson
  | serial => Serial.toJson
  | entitlement => Entitlement.toJson
  | subscriptions => Subscriptions.toJson
  | providedProduct => ProvidedProduct.toJson
  | productAttribute => ProductAttribute.toJson
  | pool => Pool.toJson
  | pools => Pools.toJson

/-- The names of the fields of a record, in their order. Attached texts and states have no fields:
attached texts are a dictionary, and a state is a name, be it alone or the key of an object. -/
def fieldNames : RecordType → List String
  | namedRef => ["id", "name"]
  | environment => ["id", "name", "library"]
  | systemGroup => ["id", "name"]
  | machine => Machine.fieldNames
  | customInfo => []
  | package => ["name", "vendor", "version", "release", "arch"]
  | releases => ["releases"]
  | taskState => []
  | task => ["uuid", "state", "result_description", "description", "system_name", "created_at",
      "finish_time"]
  | serial => ["id"]
  | entitlement => ["entitlementId", "serials", "poolName", "expires", "consumed", "quantity",
      "sla", "contractNumber", "providedProducts"]
  | subscriptions => ["entitlements"]
  | providedProduct => ["productName"]
  | productAttribute => ["name", "value"]
  | pool => ["id", "productName", "endDate", "consumed", "quantity", "sockets",
      "providedProducts", "productAttributes"]
  | pools => ["pools"]

/-- No record has two fields of one name. -/
theorem nodup_fieldNames (type : RecordType) : type.fieldNames.Nodup := by
  cases type <;> decide

end RecordType

end HostConsole
