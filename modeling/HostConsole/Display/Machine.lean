import HostConsole.Json.Printer
import HostConsole.Output.Layout
import HostConsole.Output.Timestamp
import HostConsole.Record.Machine
import HostConsole.SystemReference

/-!
# Systems on the screen

## Main definitions

* `Display.machines`, `Display.machine`: layouts for a listing of systems and for one system
* `Display.facts`, `Display.attachedTexts`: layouts for what is free-form about a system
* `Display.value`: a free-form value in words
-/

namespace HostConsole.Display

open Output

/-- A layout with its rows. -/
abbrev Listing := Layout × List Row

/-- A layout with a single row. -/
abbrev Sheet := Layout × Row

/-- A text, empty where there is none. -/
def text (s : Option String) : String := s.getD ""

/-- A moment, empty where there is none. -/
def moment (s : Option String) : String := text (s.map showTimestamp)

/-- A free-form value: a text without its quotes, nothing for `null`. -/
def value : Json → String
  | .string s => s
  | .null => ""
  | other => other.render

/-! ## Where something stands -/

/-- Words for an organisation, or for an environment in it. -/
def place (org : String) : Option String → String
  | some environment => "Environment [ " ++ environment ++ " ] in Org [ " ++ org ++ " ]"
  | none => "Org [ " ++ org ++ " ]"

/-- Words for a system in an organisation, or in an environment of it. -/
def systemIn (reference : SystemReference) (org : String) (environment : Option String) :
    String :=
  "System [ " ++ reference.text ++ " ] in " ++ place org environment

/-! ## Listings of systems -/

/-- The row of a system in a listing. -/
def machineRow (m : Machine) : Row :=
  Dictionary.ofList [
    ("name", m.name), ("uuid", m.uuid), ("ipv4_address", text m.ipv4Address),
    ("serviceLevel", text m.serviceLevel)]

/-- A listing of systems. -/
def machines (strategy : Strategy) (org : String) (environment : Option String)
    (found : List Machine) : Listing :=
  ({ strategy
     header := some ("Systems List For " ++ place org environment)
     columns := [.ofKey "name", .ofKey "uuid", .ofKey "ipv4_address",
       { key := "serviceLevel", label := "Service Level" }] },
   found.map machineRow)

/-! ## One system -/

/-- The header of a system with the texts attached to it. -/
def machineHeader (reference : SystemReference) (org : String) (environment : Option String) :
    String :=
  match reference with
  | .uuid uuid => "System Information [ " ++ uuid ++ " ]"
  | .name _ => "System Information For " ++ place org environment

/-- The columns of a system. A release and a template have columns only where there is one. -/
def machineColumns (m : Machine) : List Column :=
  [.ofKey "name", .ofKey "ipv4_address", .ofKey "uuid", .ofKey "location",
    ⟨"created_at", "Registered", .always⟩, ⟨"updated_at", "Last updated", .always⟩,
    .ofKey "description"] ++
  (if text m.releaseVer = "" then [] else [⟨"releaseVer", "OS release", .always⟩]) ++
  [⟨"activation_keys", "Activation Keys", .verbose⟩, ⟨"host", "Host", .verbose⟩,
    ⟨"serviceLevel", "Service Level", .always⟩, ⟨"guests", "Guests", .verbose⟩] ++
  (if m.template.isSome then [⟨"template", "Template", .verbose⟩] else []) ++
  [⟨"custom_info", "Custom Info", .verbose⟩]

/-- Attached texts in brackets, each key with its texts. -/
def bracketedTexts (info : CustomInfo) : String :=
  bracketed (info.map fun (key, values) => key ++ ": " ++ bracketed values)

/-- One system with the texts attached to it. -/
def machine (strategy : Strategy) (reference : SystemReference) (org : String)
    (environment : Option String) (m : Machine) (info : CustomInfo) : Sheet :=
  ({ strategy, header := some (machineHeader reference org environment)
     columns := machineColumns m },
   Dictionary.ofList [
    ("name", m.name), ("ipv4_address", text m.ipv4Address), ("uuid", m.uuid),
    ("location", text m.location), ("created_at", moment m.createdAt),
    ("updated_at", moment m.updatedAt), ("description", text m.description),
    ("releaseVer", text m.releaseVer),
    ("activation_keys", bracketed (m.activationKeys.map (·.name))),
    ("host", text (m.host.map (·.name))), ("serviceLevel", text m.serviceLevel),
    ("guests", bracketed (m.guests.map (·.name))),
    ("template", text (m.template.map (·.name))), ("custom_info", bracketedTexts info)])

/-! ## What is free-form about a system -/

/-- Texts by key, a column for each key. -/
def byKey (strategy : Strategy) (header : String) (entries : Dictionary String) : Sheet :=
  ({ strategy, header := some header
     columns := entries.map fun (key, _) => { key, label := key } },
   entries)

/-- The facts of a system. -/
def facts (strategy : Strategy) (reference : SystemReference) (org : String)
    (environment : Option String) (m : Machine) : Sheet :=
  byKey strategy ("System Facts For " ++ systemIn reference org environment)
    (m.facts.map fun (key, fact) => (key, value fact))

/-- The header of the texts attached to a system. -/
def attachedHeader (reference : SystemReference) (org : String) (environment : Option String) :
    String :=
  "Custom Information For " ++ match reference with
    | .uuid uuid => "System [ " ++ uuid ++ " ]"
    | .name _ => systemIn reference org environment

/-- The texts attached to a system. -/
def attachedTexts (strategy : Strategy) (reference : SystemReference) (org : String)
    (environment : Option String) (info : CustomInfo) : Sheet :=
  byKey strategy (attachedHeader reference org environment)
    (info.map fun (key, values) => (key, String.intercalate ", " values))

end HostConsole.Display
