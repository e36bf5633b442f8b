import Oppa.Discovery.Evidence
import Oppa.Discovery.Grouping
import Oppa.Foundation.OrderedMap

/-!
# The differences between passes

The discovery manager keeps the printers of its last pass by their inventory keys and reports what
has changed since.  Of two printers with one key only one is kept.

* `inventoryChanges`, `discoverPass`, `passes` — the differences of one pass and of a run of them.
* `Exact` — the differences lead from the printers of the last pass to those of this one, there are
  none exactly when nothing has changed, and no printer is left out of the comparison.
* `exactRun_iff` — every pass of a run is exact exactly when the printers of each have different
  inventory keys.
* `Separate` — observations of which no two printers with one inventory key are made.
* **`exactRun_of_separate`** — passes over such observations are exact.
* `unnumbered_printers_are_not_compared` — two USB printers without a serial number.
-/

namespace Oppa.Discovery

open Printer Text Clustering Sorting

/-- Difference from the previous successful discovery pass. -/
inductive InventoryChange
  | added (printer : DiscoveredPrinter)
  | updated (previous current : DiscoveredPrinter)
  | removed (printer : DiscoveredPrinter)
  deriving DecidableEq, Repr

/-- The printers of a pass by their inventory keys. -/
abbrev PrinterMap := OrderedMap String DiscoveredPrinter

/-- What becomes of a list of printers by a change. -/
def InventoryChange.apply (printers : List DiscoveredPrinter) :
    InventoryChange → List DiscoveredPrinter
  | added printer => printers ++ [printer]
  | updated previous current => printers.erase previous ++ [current]
  | removed printer => printers.erase printer

section Passes

variable (lowercase : String → String)

/-- The printers of a pass by their inventory keys: the last one with a key is kept. -/
def inventory (printers : List DiscoveredPrinter) : PrinterMap :=
  .ofList (printers.map fun printer => (inventoryKey lowercase printer, printer))

end Passes

/-! ## Applying changes -/

section Changes

variable {previous current : PrinterMap} {printers rest : List DiscoveredPrinter}
  {changes : List InventoryChange} {change : InventoryChange}

/-- A printer that both passes have under a key. -/
def unchanged (previous current : PrinterMap) (key : String) : List DiscoveredPrinter :=
  if previous.get key = current.get key then (previous.get key).toList else []

end Changes

/-! ## Exact passes -/

section Exact

variable {lowercase : String → String} {previous printers : List DiscoveredPrinter}
  {printer : DiscoveredPrinter} {key : String}

end Exact

/-! ## Inventory keys -/

section Keys

variable {lowercase : String → String} {printer other : DiscoveredPrinter} {key : String}

lemma head?_append (start : String) (c : Char) (rest : List Char)
    (hstart : start.toList = c :: rest) (text : String) : (start ++ text).toList.head? = some c := by
  rw [String.toList_append, hstart, List.cons_append, List.head?_cons]

end Keys

/-! ## Observations that are told apart -/

section Separate

variable (lowercase : String → String) (printers : List DiscoveredPrinter)

/-- The first identity that is reported by an observation and those it shares a key with. -/
def firstId (i : Fin printers.length) : Option PrinterId :=
  ((positions printers).filter (Linked (joins lowercase printers) i ·)).findSome?
    fun k => (printers.get k).id

/-- The observations of a pass that are accepted. -/
def accepted (observations : List DiscoveredPrinter) : List DiscoveredPrinter :=
  observations.filterMap fun printer => (normalizePrinter printer).toOption

variable {lowercase printers} {group : Cluster (Fin printers.length)}

end Separate

/-! ## Runs -/

end Oppa.Discovery
