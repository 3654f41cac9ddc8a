import HostConsole.Record.NamedRef

/-!
# Subscriptions

What a system has consumed from pools of subscriptions, and the pools that it could consume
from.

## Main definitions

* `Entitlement`, `Subscriptions`: what a system has consumed
* `Pool`, `Pools`: what it could consume from
* `Pool.isUnlimited`, `Pool.attribute?`: properties of a pool
-/

namespace HostConsole

open Json

/-- The serial of a certificate; its number is a free-form value. -/
structure Serial where
  id : Json

namespace Serial

/-- Reads a serial. -/
def ofJson? (value : Json) : Option Serial := do
  let fields ← fields? ["id"] value
  return { id := ← required fields "id" normal? }

/-- Writes a serial. -/
def toJson (s : Serial) : Json :=
  .object [("id", s.id)]

end Serial

/-- A consumed subscription. -/
structure Entitlement where
  entitlementId : String
  serials : List Serial
  poolName : String
  expires : Option String
  consumed : Option Int
  quantity : Option Int
  sla : Option String
  contractNumber : Option String
  providedProducts : List NamedRef

namespace Entitlement

/-- Reads an entitlement; every field may be missing. -/
def ofJson? (value : Json) : Option Entitlement := do
  let fields ← fields? ["entitlementId", "serials", "poolName", "expires", "consumed", "quantity",
    "sla", "contractNumber", "providedProducts"] value
  let optionalText := fun name => orDefault fields name none (optional? text?)
  let optionalInteger := fun name => orDefault fields name none (optional? integer?)
  return {
    entitlementId := ← orDefault fields "entitlementId" "" text?
    serials := ← orDefault fields "serials" [] (list? Serial.ofJson?)
    poolName := ← orDefault fields "poolName" "" text?
    expires := ← optionalText "expires"
    consumed := ← optionalInteger "consumed"
    quantity := ← optionalInteger "quantity"
    sla := ← optionalText "sla"
    contractNumber := ← optionalText "contractNumber"
    providedProducts := ← orDefault fields "providedProducts" [] (list? NamedRef.ofJson?) }

/-- Writes an entitlement. -/
def toJson (e : Entitlement) : Json :=
  let optionalText := ofOption Json.string
  .object [
    ("entitlementId", .string e.entitlementId),
    ("serials", ofList Serial.toJson e.serials),
    ("poolName", .string e.poolName),
    ("expires", optionalText e.expires),
    ("consumed", ofOption ofInt e.consumed),
    ("quantity", ofOption ofInt e.quantity),
    ("sla", optionalText e.sla),
    ("contractNumber", optionalText e.contractNumber),
    ("providedProducts", ofList NamedRef.toJson e.providedProducts)]

end Entitlement

/-- The consumed subscriptions of a system. -/
structure Subscriptions where
  entitlements : List Entitlement

namespace Subscriptions

/-- Reads subscriptions. -/
def ofJson? (value : Json) : Option Subscriptions := do
  let fields ← fields? ["entitlements"] value
  return { entitlements := ← orDefault fields "entitlements" [] (list? Entitlement.ofJson?) }

/-- Writes subscriptions. -/
def toJson (s : Subscriptions) : Json :=
  .object [("entitlements", ofList Entitlement.toJson s.entitlements)]

end Subscriptions

/-- A product that a pool provides. -/
structure ProvidedProduct where
  productName : String
  deriving DecidableEq, Repr

namespace ProvidedProduct

/-- Reads a provided product. -/
def ofJson? (value : Json) : Option ProvidedProduct := do
  let fields ← fields? ["productName"] value
  return { productName := ← required fields "productName" text? }

/-- Writes a provided product. -/
def toJson (p : ProvidedProduct) : Json :=
  .object [("productName", .string p.productName)]

end ProvidedProduct

/-- A named free-form property of a pool's product. -/
structure ProductAttribute where
  name : String
  value : Json

namespace ProductAttribute

/-- Reads an attribute. -/
def ofJson? (value : Json) : Option ProductAttribute := do
  let fields ← fields? ["name", "value"] value
  return {
    name := ← required fields "name" text?
    value := ← required fields "value" normal? }

/-- Writes an attribute. -/
def toJson (a : ProductAttribute) : Json :=
  .object [("name", .string a.name), ("value", a.value)]

end ProductAttribute

/-- A pool of subscriptions that systems consume from. -/
structure Pool where
  id : String
  productName : String
  endDate : Option String
  consumed : Option Int
  quantity : Int
  sockets : Option Json
  providedProducts : List ProvidedProduct
  productAttributes : List ProductAttribute

namespace Pool

/-- Reads a pool; every field may be missing. -/
def ofJson? (value : Json) : Option Pool := do
  let fields ← fields? ["id", "productName", "endDate", "consumed", "quantity", "sockets",
    "providedProducts", "productAttributes"] value
  return {
    id := ← orDefault fields "id" "" text?
    productName := ← orDefault fields "productName" "" text?
    endDate := ← orDefault fields "endDate" none (optional? text?)
    consumed := ← orDefault fields "consumed" none (optional? integer?)
    quantity := ← orDefault fields "quantity" 0 integer?
    sockets := ← orDefault fields "sockets" none (optional? normal?)
    providedProducts := ← orDefault fields "providedProducts" [] (list? ProvidedProduct.ofJson?)
    productAttributes :=
      ← orDefault fields "productAttributes" [] (list? ProductAttribute.ofJson?) }

/-- Writes a pool. -/
def toJson (p : Pool) : Json :=
  .object [
    ("id", .string p.id),
    ("productName", .string p.productName),
    ("endDate", ofOption Json.string p.endDate),
    ("consumed", ofOption ofInt p.consumed),
    ("quantity", ofInt p.quantity),
    ("sockets", ofOption (fun value => value) p.sockets),
    ("providedProducts", ofList ProvidedProduct.toJson p.providedProducts),
    ("productAttributes", ofList ProductAttribute.toJson p.productAttributes)]

/-- May the pool be consumed from without limit? -/
def isUnlimited (p : Pool) : Bool :=
  p.quantity == -1

/-- The value of the first attribute with a name. -/
def attribute? (p : Pool) (name : String) : Option Json :=
  (p.productAttributes.find? fun a => a.name == name).map (·.value)

end Pool

/-- The pools that a system could consume from. -/
structure Pools where
  pools : List Pool

namespace Pools

/-- Reads pools. -/
def ofJson? (value : Json) : Option Pools := do
  let fields ← fields? ["pools"] value
  return { pools := ← orDefault fields "pools" [] (list? Pool.ofJson?) }

/-- Writes pools. -/
def toJson (p : Pools) : Json :=
  .object [("pools", ofList Pool.toJson p.pools)]

end Pools

end HostConsole
