import Oppa.Server.Mirror

/-!
# Snapshots that are sent again

An agent may send the snapshot of its printers again, for instance in answer to a request.  A
session takes such a snapshot for the inventory it has by counting its entries and looking each of
them up.

* `Harmless` — the law of a snapshot: to receive it again changes nothing, and it is taken for
  another snapshot under the same revision exactly when both describe the same printers.
* `samePrinterInventory_iff` — what the comparison says of a list without repetition.
* **`harmless_iff`** — the law holds exactly of the snapshots that list no printer twice;
  `repeated_snapshot_refused` is a session that closes on the snapshot it has just accepted.
-/

namespace Oppa.Server

open Protocol

variable {Input : Type} {config : SessionConfig Input} {session : Session Input}
  {inventory : PrinterInventory} {printers incoming : List PrinterDescriptor}

/-! ## The law -/

/-- **Snapshots that are sent again are harmless.** -/
structure Harmless (config : SessionConfig Input) (inventory : PrinterInventory) : Prop where
  /-- Behind the snapshot, as long as no other message has changed the printers, the same snapshot
  does nothing. -/
  again : ∀ session later : Session Input, Distinct session.printers →
    (routeInventory config session inventory).next.refuses = false →
    later.printers = (routeInventory config session inventory).session.printers →
    later.printerRevision = (routeInventory config session inventory).session.printerRevision →
    routeInventory config later inventory = done later []
  /-- The snapshot is taken for an earlier one under its revision exactly when both describe the
  same printers. -/
  equal : ∀ (session : Session Input) (earlier : PrinterInventory),
    earlier.revision = inventory.revision →
    session.printers = earlier.printers.foldl setPrinter [] →
    session.printerRevision = some earlier.revision →
    (routeInventory config session inventory = done session [] ↔
      Inventory.empty.set earlier.printers = Inventory.empty.set inventory.printers)

/-! ## The comparison -/

/-- A list without repetition is taken for the inventory exactly when it describes the same
printers. -/
lemma samePrinterInventory_iff (hdistinct : Distinct printers) (hincoming : Distinct incoming) :
    samePrinterInventory printers incoming = true ↔
      listed printers = Inventory.empty.set incoming := by
  constructor
  · intro hsame
    exact ((samePrinterInventory_set_iff hdistinct hsame).mpr hincoming).symm
  · intro heq
    have hset : Inventory.empty.set incoming = listed incoming := by
      have hall : incoming.foldl setPrinter [] = incoming := foldl_setPrinter_of_distinct hincoming
      have hfold := listed_foldl incoming []
      rw [hall] at hfold
      exact hfold.symm
    rw [hset] at heq
    have hmem (printer : PrinterDescriptor) : printer ∈ incoming ↔ printer ∈ printers := by
      constructor
      · intro hprinter
        have hfound := listed_of_mem hincoming hprinter
        rw [← heq] at hfound
        exact mem_of_listed hfound
      · intro hprinter
        have hfound := listed_of_mem hdistinct hprinter
        rw [heq] at hfound
        exact mem_of_listed hfound
    have hperm : printers.Perm incoming :=
      (List.perm_ext_iff_of_nodup hdistinct.of_map hincoming.of_map).mpr fun printer =>
        (hmem printer).symm
    simp only [samePrinterInventory, hperm.length_eq, decide_true, Bool.true_and,
      List.all_eq_true, List.contains_iff_mem]
    exact fun printer hprinter => (hmem printer).mp hprinter

/-- Under the recorded revision a snapshot does nothing exactly when it is taken for the
inventory. -/
lemma routeInventory_eq_done_iff (hrevision : session.printerRevision = some inventory.revision) :
    routeInventory config session inventory = done session [] ↔
      samePrinterInventory session.printers inventory.printers = true := by
  have hcurrent : (session.printerRevision.any fun current =>
      decide (inventory.revision < current)) = false := by
    simp [hrevision]
  rw [routeInventory, hcurrent, if_neg Bool.false_ne_true, if_pos hrevision]
  cases samePrinterInventory session.printers inventory.printers with
  | true => simp
  | false => simp [goto, done]

/-- Under another revision that is accepted, a snapshot replaces the printers. -/
lemma routeInventory_replaces (hother : session.printerRevision ≠ some inventory.revision)
    (haccepted : (routeInventory config session inventory).next.refuses = false) :
    (routeInventory config session inventory).session.printers =
        inventory.printers.foldl setPrinter [] ∧
      (routeInventory config session inventory).session.printerRevision =
        some inventory.revision := by
  rw [routeInventory] at haccepted ⊢
  by_cases hregressed :
      (session.printerRevision.any fun current => decide (inventory.revision < current)) = true
  · rw [if_pos hregressed] at haccepted
    cases haccepted
  · rw [if_neg hregressed, if_neg hother]
    exact ⟨rfl, rfl⟩

/-- Under the recorded revision a snapshot that is accepted does nothing. -/
lemma routeInventory_repeated (hrepeated : session.printerRevision = some inventory.revision)
    (haccepted : (routeInventory config session inventory).next.refuses = false) :
    routeInventory config session inventory = done session [] := by
  have hcurrent : (session.printerRevision.any fun current =>
      decide (inventory.revision < current)) = false := by
    simp [hrepeated]
  rw [routeInventory, hcurrent, if_neg Bool.false_ne_true, if_pos hrepeated] at haccepted ⊢
  by_cases hsame : samePrinterInventory session.printers inventory.printers = true
  · exact if_pos hsame
  · rw [if_neg hsame] at haccepted
    cases haccepted

/-- A list without repetition is taken for itself. -/
lemma samePrinterInventory_self : samePrinterInventory printers printers = true := by
  simp [samePrinterInventory]

/-! ## Which snapshots keep the law -/

/-- **Snapshots that are sent again are harmless exactly when they list no printer twice.** -/
theorem harmless_iff (config : SessionConfig Input) (inventory : PrinterInventory) :
    Harmless config inventory ↔ Distinct inventory.printers := by
  have hdistinct (earlier : PrinterInventory) :
      Distinct (earlier.printers.foldl setPrinter []) := distinct_nil.foldl _
  have hlisted (earlier : PrinterInventory) :
      listed (earlier.printers.foldl setPrinter []) = Inventory.empty.set earlier.printers :=
    listed_foldl earlier.printers []
  constructor
  · intro hharmless
    -- a session that holds the snapshot takes it for the inventory, as the maps are the same
    have hself := (hharmless.equal
      { Session.initial config with
        printers := inventory.printers.foldl setPrinter []
        printerRevision := some inventory.revision }
      inventory rfl rfl rfl).mpr rfl
    have hsame := (routeInventory_eq_done_iff rfl).mp hself
    exact (samePrinterInventory_set_iff (hdistinct inventory) hsame).mp (hlisted inventory).symm
  · intro hincoming
    refine ⟨fun session later hmap haccepted hprinters hrevision => ?_, ?_⟩
    · by_cases hrepeated : session.printerRevision = some inventory.revision
      · -- it was taken for the inventory, which it has left as it was
        have hnothing := routeInventory_repeated hrepeated haccepted
        have hsame := (routeInventory_eq_done_iff hrepeated).mp hnothing
        rw [hnothing] at hprinters hrevision
        refine (routeInventory_eq_done_iff (hrevision.trans hrepeated)).mpr ?_
        rw [hprinters]
        exact hsame
      · obtain ⟨hreplaced, hcurrent⟩ := routeInventory_replaces hrepeated haccepted
        have hall : inventory.printers.foldl setPrinter [] = inventory.printers :=
          foldl_setPrinter_of_distinct hincoming
        refine (routeInventory_eq_done_iff (hrevision.trans hcurrent)).mpr ?_
        rw [hprinters, hreplaced, hall]
        exact samePrinterInventory_self
    · intro session earlier hearlier hprinters hrevision
      rw [routeInventory_eq_done_iff (hrevision.trans (congrArg some hearlier)), hprinters,
        samePrinterInventory_iff (hdistinct earlier) hincoming, hlisted]

/-! ## A snapshot that is refused when it is sent again -/

namespace Sample

/-- An agent announces one printer twice in one snapshot, and sends the snapshot again. -/
def announcedTwice : List (Action Wire) :=
  connected ++ announce "repeating" ++ noticed ++ announce "repeating"

end Sample

/-- **A snapshot that lists a printer twice is accepted, and refused when it is sent again.** -/
theorem repeated_snapshot_refused :
    ∃ history session, (routingSystem Sample.inventoryConfig).Runs History.anyStep
        (Session.initial Sample.inventoryConfig) history session ∧
      history = [.accepted (Sample.snapshot 1 ["printer_1", "printer_1"]),
        .rejected (Sample.snapshot 1 ["printer_1", "printer_1"])] ∧
      ¬ Harmless Sample.inventoryConfig ⟨1, ["printer_1", "printer_1"].map Sample.printer⟩ := by
  have hrun : (routingSystem Sample.inventoryConfig).Runs History.anyStep
      (Session.initial Sample.inventoryConfig)
      (Sample.routed (fun _ _ _ => true) Sample.announcedTwice).1
      (Sample.routed (fun _ _ _ => true) Sample.announcedTwice).2 :=
    History.System.runs_run (fun _ _ _ _ => trivial) Sample.announcedTwice
  refine ⟨_, _, hrun, by decide +kernel, fun hharmless => ?_⟩
  have hself := (hharmless.equal
    { Session.initial Sample.inventoryConfig with
      printers := [Sample.printer "printer_1"]
      printerRevision := some 1 }
    ⟨1, ["printer_1", "printer_1"].map Sample.printer⟩ rfl (by decide +kernel) rfl).mpr rfl
  have hsame := (routeInventory_eq_done_iff rfl).mp hself
  exact absurd hsame (by decide +kernel)

end Oppa.Server
