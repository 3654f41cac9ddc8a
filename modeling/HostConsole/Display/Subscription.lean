import HostConsole.Display.Machine
import HostConsole.Record.Subscription

/-!
# Subscriptions on the screen

Subscriptions have many columns, so records are preferred to tables.

## Main definitions

* `Display.entitlements`, `Display.pools`: layouts for what is consumed and what could be
-/

namespace HostConsole.Display

open Output

/-- An integer, empty where there is none. -/
def integer (n : Option Int) : String := text (n.map fun n => toString n)

/-- A free-form value, empty where there is none. -/
def optionalValue (v : Option Json) : String := text (v.map value)

/-- The row of an entitlement. -/
def entitlementRow (e : Entitlement) : Row :=
  Dictionary.ofList [
    ("entitlementId", e.entitlementId),
    ("serialIds", String.intercalate ", " (e.serials.map fun serial => value serial.id)),
    ("poolName", e.poolName), ("expires", text e.expires), ("consumed", integer e.consumed),
    ("quantity", integer e.quantity), ("sla", text e.sla),
    ("contractNumber", text e.contractNumber),
    ("providedProducts", String.intercalate ", " (e.providedProducts.map (·.name)))]

/-- What a system consumes. -/
def entitlements (strategy : Strategy) (reference : SystemReference)
    (found : List Entitlement) : Listing :=
  let layout : Layout :=
    { strategy
      header := some ("Current Subscriptions for System [ " ++ reference.text ++ " ]")
      columns := [.ofKey "entitlementId", ⟨"serialIds", "Serial ID", .always⟩,
        .ofKey "poolName", .ofKey "expires", .ofKey "consumed", .ofKey "quantity",
        .ofKey "sla", .ofKey "contractNumber",
        ⟨"providedProducts", "Provided products", .always⟩] }
  (layout.prefer .verbose, found.map entitlementRow)

/-- How much a pool holds. -/
def poolQuantity (p : Pool) : String :=
  if p.isUnlimited then "Unlimited" else toString p.quantity

/-- The row of a pool. -/
def poolRow (p : Pool) : Row :=
  Dictionary.ofList [
    ("id", p.id), ("productName", p.productName), ("endDate", text p.endDate),
    ("consumed", integer p.consumed), ("quantity", poolQuantity p),
    ("sockets", optionalValue p.sockets),
    ("stacking_id", optionalValue (p.attribute? "stacking_id")),
    ("multi-entitlement", optionalValue (p.attribute? "multi-entitlement")),
    ("providedProducts", String.intercalate ", " (p.providedProducts.map (·.productName)))]

/-- What a system could consume from. -/
def pools (strategy : Strategy) (reference : SystemReference) (found : List Pool) : Listing :=
  let layout : Layout :=
    { strategy
      header := some ("Available Subscriptions for System [ " ++ reference.text ++ " ]")
      columns := [.ofKey "id", ⟨"productName", "Name", .always⟩, .ofKey "endDate",
        .ofKey "consumed", .ofKey "quantity", .ofKey "sockets",
        ⟨"stacking_id", "Stacking ID", .always⟩,
        ⟨"multi-entitlement", "Multi-entitlement", .always⟩,
        ⟨"providedProducts", "Provided products", .always⟩] }
  (layout.prefer .verbose, found.map poolRow)

end HostConsole.Display
