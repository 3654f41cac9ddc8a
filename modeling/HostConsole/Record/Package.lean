import HostConsole.Json.Shape

/-!
# Packages and releases

## Main definitions

* `Package`: an installed package, with `Package.nvra` naming it in one text
* `Releases`: the releases that a system or an environment can be set to
-/

namespace HostConsole

open Json

/-- An installed package. -/
structure Package where
  name : String
  vendor : String
  version : String
  release : String
  arch : String
  deriving DecidableEq, Repr

namespace Package

/-- Reads a package. -/
def ofJson? (value : Json) : Option Package := do
  let fields ← fields? ["name", "vendor", "version", "release", "arch"] value
  return {
    name := ← required fields "name" text?
    vendor := ← orDefault fields "vendor" "" text?
    version := ← required fields "version" text?
    release := ← required fields "release" text?
    arch := ← required fields "arch" text? }

/-- Writes a package. -/
def toJson (p : Package) : Json :=
  .object [("name", .string p.name), ("vendor", .string p.vendor),
    ("version", .string p.version), ("release", .string p.release), ("arch", .string p.arch)]

/-- Name, version, release and architecture in one text. -/
def nvra (p : Package) : String :=
  p.name ++ "-" ++ p.version ++ "-" ++ p.release ++ "." ++ p.arch

end Package

/-- The releases that a system or an environment can be set to. -/
structure Releases where
  releases : List String
  deriving DecidableEq, Repr

namespace Releases

/-- Reads releases. -/
def ofJson? (value : Json) : Option Releases := do
  let fields ← fields? ["releases"] value
  return { releases := ← orDefault fields "releases" [] (list? text?) }

/-- Writes releases. -/
def toJson (r : Releases) : Json :=
  .object [("releases", ofList Json.string r.releases)]

end Releases

end HostConsole
