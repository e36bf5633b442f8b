import Oppa.Desktop.CatalogJson

/-!
# The migration of older catalogs

Older versions of the program stored printers without a submission mode and virtual printers without
a device profile.  The migration adds what is missing before the catalog is read.

* `field_setField`, `lookup_insertMember` — what an object holds after a member is set.
* `migrateReference` — the part of a row that is read before anything else.
* `Equipped`, `LegacyRow` — the rows the migration leaves alone, and those that were valid
  before there were submission modes.
* `CatalogMigration` — the four laws of the migration.
* **`catalogMigration`** — they hold of every setting, as long as the connections of older rows are
  written as objects; `listed_connection_refused` is a row that is written as a list.
-/

namespace Oppa.Desktop

open Printer Json

abbrev Members := List (String × Serde.Content)

/-! ## Members of objects -/

lemma lookup_cons_ite (key other : String) (value : Serde.Content) (members : Members) :
    List.lookup other ((key, value) :: members) =
      if other = key then some value else members.lookup other := by
  split_ifs with h
  · rw [h, List.lookup_cons_self]
  · rw [List.lookup_cons, beq_false_of_ne h]

/-- Setting a member changes what is found under its key. -/
@[simp] lemma lookup_insertMember (key other : String) (value : Serde.Content) (members : Members) :
    (insertMember key value members).lookup other =
      if other = key then some value else members.lookup other := by
  induction members with
  | nil => exact lookup_cons_ite key other value []
  | cons member members ih =>
      rcases member with ⟨first, old⟩
      rw [insertMember]
      split_ifs with hkey hlt hfound hfound hfound <;>
        simp only [lookup_cons_ite, ih] <;> grind

lemma exists_of_field {key : String} {content value : Serde.Content}
    (hfield : field key content = some value) : ∃ members, content = .object members ∧
      members.lookup key = some value := by
  cases content with
  | object members => exact ⟨members, rfl, hfield⟩
  | _ => cases hfield

/-- A member of an object that is set. -/
lemma field_setField {key found : String} {content old : Serde.Content}
    (hobject : field found content = some old) (other : String) (value : Serde.Content) :
    field other (setField key value content) =
      if other = key then some value else field other content := by
  obtain ⟨members, rfl, -⟩ := exists_of_field hobject
  exact lookup_insertMember key other value members

/-! ## References -/

/-- What the migration makes of a reference, if it changes it. -/
def migrateReference (width : ℕ) (reference : Members) : Option Members :=
  addVirtualProfile width ((addSubmissionMode reference).getD reference) <|>
    addSubmissionMode reference

lemma migratePrinter_of_reference {printer : Serde.Content} {reference : Members}
    (hreference : field "reference" printer = some (.object reference)) :
    migratePrinter printer = (migrateReference (legacyWidth printer) reference).map fun migrated =>
      if (addSubmissionMode reference).isSome ∧ connectionType reference = some "system-queue" then
        migrateQueueCapabilities (setField "reference" (.object migrated) printer)
      else setField "reference" (.object migrated) printer := by
  rw [migratePrinter, hreference]
  rfl

/-- The ways in which the migration changes a reference: it adds the mode, the profile, or both. -/
inductive Change (width : ℕ) (reference : Members) : Members → Prop
  | mode {mode : Serde.Content} :
      reference.lookup "submissionMode" = none →
      legacySubmissionMode (connectionType reference) = some mode →
      ¬ (connectionType reference = some "virtual" ∧ reference.lookup "virtualProfile" = none) →
        Change width reference (insertMember "submissionMode" mode reference)
  | profile {mode : Serde.Content} :
      reference.lookup "submissionMode" = some mode →
      connectionType reference = some "virtual" → reference.lookup "virtualProfile" = none →
        Change width reference
          (insertMember "virtualProfile" (legacyProfile width reference) reference)
  | both {mode : Serde.Content} :
      reference.lookup "submissionMode" = none →
      legacySubmissionMode (connectionType reference) = some mode →
      connectionType reference = some "virtual" → reference.lookup "virtualProfile" = none →
        Change width reference (insertMember "virtualProfile"
          (legacyProfile width (insertMember "submissionMode" mode reference))
          (insertMember "submissionMode" mode reference))

/-- The type of the connection is not touched. -/
lemma connectionType_insertMember {key : String} (hkey : "connection" ≠ key) (value : Serde.Content)
    (reference : Members) :
    connectionType (insertMember key value reference) = connectionType reference := by
  rw [connectionType, lookup_insertMember, if_neg hkey]
  rfl

/-- A reference the migration is done with. -/
structure Migrated (reference : Members) : Prop where
  mode : addSubmissionMode reference = none
  profile : ∀ width, addVirtualProfile width reference = none

lemma change_of_migrateReference {width : ℕ} {reference migrated : Members}
    (h : migrateReference width reference = some migrated) : Change width reference migrated := by
  rw [migrateReference, addSubmissionMode] at h
  split_ifs at h with hmode
  · -- a reference with a mode
    rw [Option.getD_none, addVirtualProfile] at h
    split_ifs at h with hvirtual
    · cases h
      obtain ⟨mode, hmode⟩ := Option.isSome_iff_exists.mp hmode
      exact .profile hmode hvirtual.1 (Option.isNone_iff_eq_none.mp hvirtual.2)
    · cases h
  · rw [Bool.not_eq_true, Option.isSome_eq_false_iff, Option.isNone_iff_eq_none] at hmode
    cases hlegacy : legacySubmissionMode (connectionType reference) with
    | none =>
        -- neither a mode nor a type that tells it
        rw [hlegacy, Option.map_none, Option.getD_none, addVirtualProfile] at h
        split_ifs at h with hvirtual
        · rw [hvirtual.1] at hlegacy
          cases hlegacy
        · cases h
    | some mode =>
        rw [hlegacy, Option.map_some, Option.getD_some, addVirtualProfile,
          connectionType_insertMember (by decide), lookup_insertMember,
          if_neg (show "virtualProfile" ≠ "submissionMode" by decide)] at h
        split_ifs at h with hvirtual
        · cases h
          exact .both hmode hlegacy hvirtual.1 (Option.isNone_iff_eq_none.mp hvirtual.2)
        · cases h
          rw [Option.isNone_iff_eq_none] at hvirtual
          exact .mode hmode hlegacy hvirtual

lemma migrated_of_lookup {reference : Members}
    (hmode : (reference.lookup "submissionMode").isSome = true)
    (hprofile : connectionType reference = some "virtual" →
      (reference.lookup "virtualProfile").isSome = true) : Migrated reference := by
  refine ⟨if_pos hmode, fun width => if_neg ?_⟩
  rintro ⟨hvirtual, hnone⟩
  have hsome := hprofile hvirtual
  rw [Option.isNone_iff_eq_none] at hnone
  rw [hnone] at hsome
  cases hsome

/-- One round is enough. -/
lemma Change.migrated {width : ℕ} {reference changed : Members}
    (h : Change width reference changed) : Migrated changed := by
  cases h with
  | mode _ _ hkept =>
      refine migrated_of_lookup (by simp) fun hvirtual => ?_
      rw [connectionType_insertMember (by decide)] at hvirtual
      rw [lookup_insertMember, if_neg (by decide), ← Option.ne_none_iff_isSome]
      exact fun hnone => hkept ⟨hvirtual, hnone⟩
  | profile hmode _ _ => exact migrated_of_lookup (by simp [hmode]) fun _ => by simp
  | both _ _ _ _ => exact migrated_of_lookup (by simp) fun _ => by simp

/-- Nothing but the mode and the profile is set. -/
lemma Change.lookup_eq {width : ℕ} {reference changed : Members} {key : String}
    (h : Change width reference changed) (hmode : key ≠ "submissionMode")
    (hprofile : key ≠ "virtualProfile") : changed.lookup key = reference.lookup key := by
  cases h <;> simp [hmode, hprofile]

lemma migrateReference_of_migrated {reference : Members} (h : Migrated reference) (width : ℕ) :
    migrateReference width reference = none := by
  rw [migrateReference, h.mode, Option.getD_none, h.profile]
  rfl

/-- A reference that is changed lacked something that it has now. -/
lemma ne_of_migrateReference {width : ℕ} {reference migrated : Members}
    (h : migrateReference width reference = some migrated) : migrated ≠ reference := by
  rintro rfl
  rw [migrateReference_of_migrated (change_of_migrateReference h).migrated] at h
  cases h

/-! ## Rows -/

/-- The capabilities of a queue are set beside its reference. -/
lemma field_migrateQueueCapabilities {printer old : Serde.Content} {key : String}
    (hobject : field "reference" printer = some old) (hkey : key ≠ "capabilities") :
    field key (migrateQueueCapabilities printer) = field key printer := by
  unfold migrateQueueCapabilities
  split
  · rw [field_setField hobject, if_neg hkey]
  · rw [field_setField hobject, if_neg hkey]
  · rw [field_setField hobject, if_neg hkey]
  · rfl

/-- A row that is changed is a row whose reference is changed. -/
lemma migratePrinter_eq_some {printer printer' : Serde.Content}
    (h : migratePrinter printer = some printer') :
    ∃ reference changed, field "reference" printer = some (.object reference) ∧
      migrateReference (legacyWidth printer) reference = some changed ∧
      field "reference" printer' = some (.object changed) := by
  have hreference : ∃ reference, field "reference" printer = some (.object reference) := by
    rw [migratePrinter] at h
    split at h
    · rename_i reference hreference
      exact ⟨reference, hreference⟩
    · cases h
  obtain ⟨reference, hreference⟩ := hreference
  rw [migratePrinter_of_reference hreference, Option.map_eq_some_iff] at h
  obtain ⟨changed, hchanged, rfl⟩ := h
  have hset : field "reference" (setField "reference" (.object changed) printer) =
      some (.object changed) := by
    rw [field_setField hreference, if_pos rfl]
  refine ⟨reference, changed, hreference, hchanged, ?_⟩
  split_ifs
  · rw [field_migrateQueueCapabilities hset (by decide), hset]
  · exact hset

lemma migratePrinter_of_migrated {printer : Serde.Content} {reference : Members}
    (hreference : field "reference" printer = some (.object reference))
    (h : Migrated reference) : migratePrinter printer = none := by
  rw [migratePrinter_of_reference hreference, migrateReference_of_migrated h]
  rfl

/-- One round is enough for a row. -/
lemma migratePrinter_again {printer printer' : Serde.Content}
    (h : migratePrinter printer = some printer') : migratePrinter printer' = none := by
  obtain ⟨reference, changed, -, hchanged, hreference⟩ := migratePrinter_eq_some h
  exact migratePrinter_of_migrated hreference (change_of_migrateReference hchanged).migrated

lemma ne_of_migratePrinter {printer printer' : Serde.Content}
    (h : migratePrinter printer = some printer') : printer' ≠ printer := by
  rintro rfl
  obtain ⟨reference, changed, hreference, hchanged, hreference'⟩ := migratePrinter_eq_some h
  rw [hreference] at hreference'
  cases hreference'
  exact ne_of_migrateReference hchanged rfl

/-- What the migration leaves of a row. -/
def migratedRow (row : Serde.Content) : Serde.Content := (migratePrinter row).getD row

lemma migratePrinter_migratedRow (row : Serde.Content) :
    migratePrinter (migratedRow row) = none := by
  rw [migratedRow]
  cases h : migratePrinter row with
  | none => exact h
  | some row' => exact migratePrinter_again h

/-- A row that has a submission mode and, if it is virtual, a profile. -/
def Equipped (row : Serde.Content) : Prop :=
  ∃ reference, field "reference" row = some (.object reference) ∧
    (reference.lookup "submissionMode").isSome = true ∧
    (connectionType reference = some "virtual" → (reference.lookup "virtualProfile").isSome = true)

lemma migratedRow_of_equipped {row : Serde.Content} (h : Equipped row) : migratedRow row = row := by
  obtain ⟨reference, hreference, hmode, hprofile⟩ := h
  rw [migratedRow, migratePrinter_of_migrated hreference (migrated_of_lookup hmode hprofile)]
  rfl

/-! ## Settings -/

/-- What the migration leaves of a setting. -/
def migratedSetting (setting : Serde.Content) : Serde.Content :=
  (migrateLegacyPrinterConfig setting).getD setting

lemma migrate_of_rows {setting : Serde.Content} {rows : List Serde.Content}
    (hrows : field "printers" setting = some (.array rows)) :
    migrateLegacyPrinterConfig setting =
      if rows.any fun row => (migratePrinter row).isSome then
        some (setField "printers" (.array (rows.map migratedRow)) setting)
      else none := by
  rw [migrateLegacyPrinterConfig, hrows]
  rfl

lemma exists_rows_of_migrate {setting setting' : Serde.Content}
    (h : migrateLegacyPrinterConfig setting = some setting') :
    ∃ rows, field "printers" setting = some (.array rows) := by
  rw [migrateLegacyPrinterConfig] at h
  split at h
  · rename_i rows hrows
    exact ⟨rows, hrows⟩
  · cases h

/-- The rows of a setting are brought up to date one by one. -/
lemma field_migratedSetting {setting : Serde.Content} {rows : List Serde.Content}
    (hrows : field "printers" setting = some (.array rows)) :
    field "printers" (migratedSetting setting) = some (.array (rows.map migratedRow)) := by
  rw [migratedSetting, migrate_of_rows hrows]
  split_ifs with hany
  · rw [Option.getD_some, field_setField hrows, if_pos rfl]
  · rw [Option.getD_none, hrows]
    have hsame (row : Serde.Content) (hrow : row ∈ rows) : migratedRow row = row := by
      have hnone : migratePrinter row = none := by
        by_contra hsome
        exact hany (List.any_eq_true.mpr ⟨row, hrow, Option.isSome_iff_ne_none.mpr hsome⟩)
      rw [migratedRow, hnone]
      rfl
    rw [List.map_congr_left hsame, List.map_id']

lemma migrate_migratedSetting (setting : Serde.Content) :
    migrateLegacyPrinterConfig (migratedSetting setting) = none := by
  cases h : migrateLegacyPrinterConfig setting with
  | none => rw [migratedSetting, h, Option.getD_none, h]
  | some setting' =>
      obtain ⟨rows, hrows⟩ := exists_rows_of_migrate h
      rw [migrate_of_rows (field_migratedSetting hrows), if_neg]
      simp [migratePrinter_migratedRow]

/-- A setting that is changed has a row that is changed. -/
lemma ne_of_migrate {setting setting' : Serde.Content}
    (h : migrateLegacyPrinterConfig setting = some setting') : setting' ≠ setting := by
  rintro rfl
  have hnone := migrate_migratedSetting setting'
  rw [migratedSetting, h, Option.getD_some, h] at hnone
  cases hnone

/-! ## Rows that were valid before -/

/-- A reference that was valid before there were submission modes and device profiles. -/
structure LegacyReference (reference : Members) : Prop where
  noMode : reference.lookup "submissionMode" = none
  noProfile : reference.lookup "virtualProfile" = none
  name : ∃ name, Serde.required reference "displayName" Serde.string = some name ∧
    validateText "printer display name" name maxPrinterNameBytes = .ok ()
  connection : ∃ connection,
    Serde.required reference "connection" readConnection = some connection ∧
      connection.validate = .ok ()

/-- The tag of a connection. -/
def connectionTag : PrinterConnection → String
  | .systemQueue _ => "system-queue"
  | .network _ _ => "network"
  | .usb _ _ _ => "usb"
  | .virtual _ => "virtual"

/-- A connection that is written as an object has its type inside. -/
lemma lookup_type_of_readConnection {members : Members} {connection : PrinterConnection}
    (h : readConnection (.object members) = some connection) :
    members.lookup "type" = some (.string (connectionTag connection)) := by
  simp only [readConnection, Serde.tagged] at h
  split at h
  · rename_i name htype
    rw [htype]
    -- the fields of the four variants; another tag is refused
    split at h <;> simp only [Serde.record, Option.bind_eq_bind, reduceCtorEq] at h <;>
      split_ifs at h <;> simp only [Option.bind_eq_some_iff, Option.some.injEq] at h
    · obtain ⟨queueName, -, rfl⟩ := h
      rfl
    · obtain ⟨host, -, port, -, rfl⟩ := h
      rfl
    · obtain ⟨vendorId, -, productId, -, serialNumber, -, rfl⟩ := h
      rfl
    · obtain ⟨printerId, -, rfl⟩ := h
      rfl
  · cases h

lemma connectionType_of_readConnection {reference members : Members}
    {connection : PrinterConnection}
    (hconnection : reference.lookup "connection" = some (.object members))
    (h : readConnection (.object members) = some connection) :
    connectionType reference = some (connectionTag connection) := by
  have htype : field "type" (.object members) = some (.string (connectionTag connection)) :=
    lookup_type_of_readConnection h
  rw [connectionType, hconnection, Option.bind_some, htype]
  rfl

/-- What a reference is read from. -/
lemma readReference_object {members : Members} {reference : PrinterRef}
    (h : readReference (.object members) = some reference) :
    Serde.required members "displayName" Serde.string = some reference.displayName ∧
      Serde.required members "connection" readConnection = some reference.connection ∧
      Serde.defaulted members "submissionMode" .driver readSubmissionMode =
        some reference.submissionMode ∧
      Serde.defaulted members "virtualProfile" none (Serde.nullable readProfile) =
        some reference.virtualProfile := by
  simp only [readReference, Serde.record] at h
  split_ifs at h
  simp only [Option.bind_eq_bind, Option.bind_eq_some_iff, Option.some.injEq] at h
  obtain ⟨id, -, name, hname, connection, hconnection, mode, hmode, profile, hprofile, enabled, -,
    rfl⟩ := h
  exact ⟨hname, hconnection, hmode, hprofile⟩

lemma legacyWidth_eq (printer : Serde.Content) :
    legacyWidth printer = 58 ∨ legacyWidth printer = 80 := by
  unfold legacyWidth
  split
  · split_ifs with hwidth
    · exact hwidth
    · exact .inr rfl
  · exact .inr rfl

/-- The mode that is added to a connection. -/
def modeOf : PrinterConnection → SubmissionMode
  | .systemQueue _ => .driver
  | .network _ _ | .usb _ _ _ | .virtual _ => .raw .escPos

lemma readSubmissionMode_legacy {connection : PrinterConnection} {mode : Serde.Content}
    (hmode : legacySubmissionMode (some (connectionTag connection)) = some mode) :
    readSubmissionMode mode = some (modeOf connection) := by
  cases connection <;> cases hmode <;> rfl

/-- The profile that is added to a virtual printer whose mode is added as well. -/
lemma readProfile_legacy {printer mode : Serde.Content} {reference : Members}
    {connection : PrinterConnection} (hvirtual : connectionTag connection = "virtual")
    (hmode : legacySubmissionMode (some (connectionTag connection)) = some mode) :
    ∃ width : UInt16, (width = 58 ∨ width = 80) ∧
      Serde.nullable readProfile (legacyProfile (legacyWidth printer)
        (insertMember "submissionMode" mode reference)) = some (some (.escPosReceipt width)) := by
  rw [hvirtual] at hmode
  cases hmode
  have hraw : legacyProfile (legacyWidth printer) (insertMember "submissionMode"
      (.object [("language", .string "esc-pos"), ("type", .string "raw")]) reference) = .object
        [("type", .string "esc-pos-receipt"), ("widthMm", literal (legacyWidth printer))] := by
    rw [legacyProfile, lookup_insertMember, if_pos rfl, if_neg]
    decide
  rw [hraw]
  rcases legacyWidth_eq printer with hwidth | hwidth <;> rw [hwidth]
  · exact ⟨58, .inl rfl, rfl⟩
  · exact ⟨80, .inr rfl, rfl⟩

/-- **A legacy reference is valid after the migration**, if its connection is written as an
object. -/
theorem validate_of_legacy {printer : Serde.Content} {legacy changed members : Members}
    {reference : PrinterRef} (hlegacy : LegacyReference legacy)
    (hobject : legacy.lookup "connection" = some (.object members))
    (hchange : Change (legacyWidth printer) legacy changed)
    (hread : readReference (.object changed) = some reference) :
    reference.validate = .ok () := by
  obtain ⟨hname, hconnection, hmode, hprofile⟩ := readReference_object hread
  obtain ⟨name, hname', hnameValid⟩ := hlegacy.name
  obtain ⟨connection, hconnection', hconnectionValid⟩ := hlegacy.connection
  -- name and connection are those of the older row
  rw [Serde.required, hchange.lookup_eq (by decide) (by decide), ← Serde.required, hname',
    Option.some.injEq] at hname
  rw [Serde.required, hchange.lookup_eq (by decide) (by decide), ← Serde.required, hconnection',
    Option.some.injEq] at hconnection
  have htype : connectionType legacy = some (connectionTag connection) := by
    rw [Serde.required, hobject] at hconnection'
    exact connectionType_of_readConnection hobject hconnection'
  have hprofiled : reference.validateProfile = .ok () := by
    cases hchange with
    | @mode mode hnone hadded hkept =>
        rw [Serde.defaulted, lookup_insertMember, if_neg (by decide), hlegacy.noProfile,
          Option.some.injEq] at hprofile
        rw [htype] at hkept
        rw [PrinterRef.validateProfile, ← hconnection, ← hprofile]
        cases connection with
        | virtual printerId => exact absurd ⟨rfl, hlegacy.noProfile⟩ hkept
        | _ => rfl
    | profile hsome =>
        rw [hlegacy.noMode] at hsome
        cases hsome
    | @both mode hnone hadded hvirtual hnoProfile =>
        rw [htype, Option.some.injEq] at hvirtual
        rw [htype] at hadded
        rcases @readProfile_legacy printer mode legacy _ hvirtual hadded
          with ⟨width, hwidth, hreadProfile⟩
        rw [Serde.defaulted, lookup_insertMember, if_pos rfl] at hprofile
        simp only [hreadProfile, Option.some.injEq] at hprofile
        rw [Serde.defaulted, lookup_insertMember, if_neg (by decide), lookup_insertMember,
          if_pos rfl] at hmode
        simp only [readSubmissionMode_legacy hadded, Option.some.injEq] at hmode
        rw [PrinterRef.validateProfile, ← hconnection, ← hprofile, ← hmode]
        cases connection with
        | virtual printerId =>
            have hvalid : (VirtualPrinterProfile.escPosReceipt width).validate = .ok () :=
              if_pos hwidth
            show ((VirtualPrinterProfile.escPosReceipt width).validate >>= fun _ => _) = _
            rw [hvalid]
            rfl
        | _ => simp [connectionTag] at hvirtual
  simp only [PrinterRef.validate, ← hname, ← hconnection, hnameValid, hconnectionValid, hprofiled]
  rfl

/-- A row whose reference was valid before there were submission modes. -/
def LegacyRow (row : Serde.Content) : Prop :=
  ∃ reference, field "reference" row = some (.object reference) ∧ LegacyReference reference

/-- A row whose connection is written as an object, as the catalog writes it. -/
def ObjectConnection (row : Serde.Content) : Prop :=
  ∃ reference members, field "reference" row = some (.object reference) ∧
    reference.lookup "connection" = some (.object members)

/-- A reference without a mode gets one from an object connection. -/
lemma exists_migrateReference {legacy members : Members} (hlegacy : LegacyReference legacy)
    (hobject : legacy.lookup "connection" = some (.object members)) (width : ℕ) :
    ∃ changed, migrateReference width legacy = some changed := by
  obtain ⟨connection, hconnection, -⟩ := hlegacy.connection
  rw [Serde.required, hobject] at hconnection
  have hmode : ∃ moded, addSubmissionMode legacy = some moded := by
    rw [addSubmissionMode, hlegacy.noMode, connectionType_of_readConnection hobject hconnection]
    cases connection <;> exact ⟨_, rfl⟩
  obtain ⟨moded, hmode⟩ := hmode
  rw [migrateReference, hmode, Option.getD_some]
  cases addVirtualProfile width moded with
  | none => exact ⟨moded, rfl⟩
  | some profiled => exact ⟨profiled, rfl⟩

/-- What the reference of a row is read from. -/
lemma readReference_of_readPrinter {row : Serde.Content} {reference : Members}
    {printer : CatalogPrinter} (hreference : field "reference" row = some (.object reference))
    (hread : readPrinter row = some printer) :
    readReference (.object reference) = some printer.reference := by
  obtain ⟨members, rfl, hlookup⟩ := exists_of_field hreference
  simp only [readPrinter, Serde.record] at hread
  split_ifs at hread
  rw [Option.bind_eq_bind, Option.bind_eq_some_iff] at hread
  obtain ⟨found, hfound, hrest⟩ := hread
  rw [Serde.required, hlookup, Option.bind_some] at hfound
  simp only [Option.bind_eq_bind, Option.bind_eq_some_iff, Option.some.injEq] at hrest
  obtain ⟨-, -, -, -, -, -, -, -, -, -, -, -, -, -, -, -, rfl⟩ := hrest
  exact hfound

lemma validate_of_legacyRow {row : Serde.Content} {printer : CatalogPrinter}
    (hlegacy : LegacyRow row) (hobject : ObjectConnection row)
    (hread : readPrinter (migratedRow row) = some printer) :
    printer.reference.validate = .ok () := by
  obtain ⟨legacy, hreference, hlegacy⟩ := hlegacy
  obtain ⟨legacy', members, hreference', hobject⟩ := hobject
  rw [hreference, Option.some.injEq, Tree.object.injEq] at hreference'
  subst hreference'
  obtain ⟨changed, hchanged⟩ := exists_migrateReference hlegacy hobject (legacyWidth row)
  cases hrow : migratePrinter row with
  | none =>
      rw [migratePrinter_of_reference hreference, hchanged] at hrow
      cases hrow
  | some row' =>
      obtain ⟨reference, changed', hreference', hchanged', hrow'⟩ := migratePrinter_eq_some hrow
      rw [hreference, Option.some.injEq, Tree.object.injEq] at hreference'
      subst hreference'
      rw [migratedRow, hrow, Option.getD_some] at hread
      exact validate_of_legacy hlegacy hobject (change_of_migrateReference hchanged')
        (readReference_of_readPrinter hrow' hread)

/-! ## The laws of the migration -/

/-- The laws of the migration of a setting: a second run finds nothing to do, a change is reported
exactly when there is one, rows that are up to date stay as they are, and a row that was valid
before is valid after it. -/
structure CatalogMigration (setting : Serde.Content) : Prop where
  again : migrateLegacyPrinterConfig (migratedSetting setting) = none
  reported : (migrateLegacyPrinterConfig setting).isSome = true ↔
    migratedSetting setting ≠ setting
  kept : ∀ rows, field "printers" setting = some (.array rows) → ∃ rows',
    field "printers" (migratedSetting setting) = some (.array rows') ∧
      List.Forall₂ (fun row row' => Equipped row → row' = row) rows rows'
  valid : ∀ rows catalog, field "printers" setting = some (.array rows) →
    readCatalog (migratedSetting setting) = some catalog →
      List.Forall₂ (fun row printer => LegacyRow row → ObjectConnection row →
        printer.reference.validate = .ok ()) rows catalog.printers

/-- The rows of a catalog are read one by one. -/
lemma forall₂_readPrinter {setting : Serde.Content} {rows : List Serde.Content}
    {catalog : PersistedCatalog} (hrows : field "printers" setting = some (.array rows))
    (hread : readCatalog setting = some catalog) :
    List.Forall₂ (fun row printer => readPrinter row = some printer) rows catalog.printers := by
  obtain ⟨members, rfl, hlookup⟩ := exists_of_field hrows
  simp only [readCatalog, Serde.record] at hread
  split_ifs at hread
  simp only [Option.bind_eq_bind, Option.bind_eq_some_iff, Option.some.injEq] at hread
  obtain ⟨printers, hprinters, -, -, rfl⟩ := hread
  rw [Serde.required, hlookup, Option.bind_some] at hprinters
  exact Serde.forall₂_of_array hprinters

/-- **The migration of a catalog.** -/
theorem catalogMigration (setting : Serde.Content) : CatalogMigration setting where
  again := migrate_migratedSetting setting
  reported := by
    cases h : migrateLegacyPrinterConfig setting with
    | none => simp [migratedSetting, h]
    | some setting' =>
        rw [migratedSetting, h, Option.getD_some]
        exact iff_of_true rfl (ne_of_migrate h)
  kept := by
    intro rows hrows
    refine ⟨rows.map migratedRow, field_migratedSetting hrows, ?_⟩
    rw [List.forall₂_map_right_iff]
    exact List.forall₂_same.mpr fun row _ => migratedRow_of_equipped
  valid := by
    intro rows catalog hrows hread
    have hall := forall₂_readPrinter (field_migratedSetting hrows) hread
    rw [List.forall₂_map_left_iff] at hall
    exact hall.imp fun row printer hrow hlegacy hobject =>
      validate_of_legacyRow hlegacy hobject hrow

/-! ## A connection that is written as a list -/

namespace Sample

/-- A setting whose only printer is a virtual one. -/
def olderSetting (connection : Serde.Content) : Serde.Content :=
  .object [("printers", .array [.object [("availability", .string "online"),
    ("capabilities", .null),
    ("reference", .object [("connection", connection), ("displayName", .string "Counter"),
      ("enabled", .bool true), ("id", .string "printer_1")]),
    ("sourceName", .string "Virtual printer"), ("virtualWidth", literal 58)]])]

/-- The fields of a connection in order, which the reader takes as well. -/
def listedConnection : Serde.Content := .array [.string "virtual", .string "printer_1"]

end Sample

/-- The row of such a setting was valid before there were submission modes. -/
lemma Sample.legacyRow {connection : Serde.Content} {found : PrinterConnection}
    (hread : readConnection connection = some found) (hvalid : found.validate = .ok ()) :
    ∀ rows, field "printers" (olderSetting connection) = some (.array rows) →
      ∀ row ∈ rows, LegacyRow row := by
  intro rows hrows row hrow
  cases hrows
  rw [List.mem_singleton] at hrow
  subst hrow
  refine ⟨_, rfl, ⟨rfl, rfl, ⟨"Counter", rfl, ?_⟩, found, hread, hvalid⟩⟩
  decide

/-- **A connection that is written as a list is missed by the migration**, and its printer is
refused after it. -/
theorem listed_connection_refused :
    ¬ ∀ (setting : Serde.Content) (rows : List Serde.Content) (catalog : PersistedCatalog),
      field "printers" setting = some (.array rows) → (∀ row ∈ rows, LegacyRow row) →
        readCatalog (migratedSetting setting) = some catalog →
        ∀ printer ∈ catalog.printers, printer.reference.validate = .ok () := by
  intro hall
  have hread : (readCatalog (migratedSetting (Sample.olderSetting Sample.listedConnection))).map
      (fun catalog => catalog.printers.map fun printer => printer.reference.validate) =
        some [.error .missingVirtualProfile] := by decide +kernel
  rw [Option.map_eq_some_iff] at hread
  obtain ⟨catalog, hcatalog, hprinters⟩ := hread
  have hlegacy := @Sample.legacyRow Sample.listedConnection (.virtual "printer_1") rfl (by decide)
  have hvalid := hall _ _ catalog rfl (hlegacy _ rfl) hcatalog
  have hrefused : .error .missingVirtualProfile ∈
      catalog.printers.map fun printer => printer.reference.validate := by
    rw [hprinters]
    exact List.mem_singleton_self _
  obtain ⟨printer, hmem, hresult⟩ := List.mem_map.mp hrefused
  rw [hvalid printer hmem] at hresult
  cases hresult

example : (readCatalog (migratedSetting (Sample.olderSetting (.object
    [("printer_id", .string "printer_1"), ("type", .string "virtual")])))).map (fun catalog =>
      catalog.printers.map fun printer => printer.reference.validate) = some [.ok ()] := by
  decide +kernel

end Oppa.Desktop
