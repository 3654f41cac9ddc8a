import HostConsole.Display.Machine
import HostConsole.Record.Package

/-!
# Packages on the screen

## Main definitions

* `Display.packages`, `Display.releases`: layouts for installed packages and for releases
-/

namespace HostConsole.Display

open Output

/-- The row of a package. -/
def packageRow (p : Package) : Row :=
  Dictionary.ofList [
    ("name", p.name), ("vendor", p.vendor), ("version", p.version), ("release", p.release),
    ("arch", p.arch), ("nvra", p.nvra)]

/-- The packages of a system: one column with all in a table, a column for each part in
records. -/
def packages (strategy : Strategy) (reference : SystemReference) (org : String)
    (environment : Option String) (found : List Package) : Listing :=
  ({ strategy
     header := some ("Package Information for " ++ systemIn reference org environment)
     columns := [⟨"name", "Name", .verbose⟩, ⟨"vendor", "Vendor", .verbose⟩,
       ⟨"version", "Version", .verbose⟩, ⟨"release", "Release", .verbose⟩,
       ⟨"arch", "Arch", .verbose⟩, ⟨"nvra", "Name Version Release Arch", .compact⟩] },
   found.map packageRow)

/-- Releases that can be set. -/
def releases (strategy : Strategy) (found : List String) : Listing :=
  ({ strategy, header := some "Available releases", columns := [.ofKey "value"] },
   found.map fun release => [("value", release)])

end HostConsole.Display
