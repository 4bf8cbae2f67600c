import EidolonHub.Database.Lineage
import EidolonHub.Library.Run

/-!
# EidolonHub.Database.FirstInstall

**A first install that dies on the way.** A start changes three durable things one after the
other, and can die between any two changes. What it leaves is the disk the next start finds,
which may die as well.

A start finds its way from what it left: from a commit without an anchor by the capability,
from an anchor by the anchor. It does not where the capability has more fields than the
recovery compares it with, where the anchor was not written to its end, and where tables were
left behind without the marker.
-/

namespace EidolonHub.Database

open EidolonHub.Library EidolonHub.Library.Python

/-- Some of a text. -/
def beginning (text : String) (n : Nat) : String := String.ofList (text.toList.take n)

/-- Where a start can die before it is complete. -/
inductive CrashPoint where
  /-- in the transaction, behind this many schema statements: the driver begins it with the
  first row that is written, and does not undo the statements before -/
  | inTransaction (statements : Nat)
  | committed
  /-- the anchor file was created, with this much of its text -/
  | anchoring (written : Nat)
  deriving DecidableEq

namespace HubDatabase

variable (hub : HubDatabase)

/-- The schema statements of a start. -/
def schemaStatements (disk : Disk) : List Statement :=
  match hub.readAnchor disk, hub.readBootstrap disk with
  | .ok anchor, .ok bootstrap =>
    if disk.database.schema = [] then
      if anchor.isNone && ((hub.firstBootstrap bootstrap).bind hub.capability).isSome then
        hub.metadata.createAll
      else []
    else hub.metadata.upgradeStatements disk.database.schema
  | _, _ => []

/-- What is on the disk when a start has died. A start that raises before does not get there. -/
def crash (disk : Disk) : CrashPoint → Disk
  | .inTransaction k =>
    let schema := runStatements disk.database.schema ((hub.schemaStatements disk).take k)
    { disk with database := { disk.database with schema } }
  | .committed =>
    match hub.transaction disk with
    | .ok committed => { disk with database := committed.2 }
    | .error _ => disk
  | .anchoring written =>
    match hub.transaction disk with
    | .ok committed =>
      let anchor := some (beginning committed.1.marker.payload written)
      if committed.1.createAnchor && disk.anchor.isNone then
        { disk with database := committed.2, anchor }
      else { disk with database := committed.2 }
    | .error _ => disk

/-- Marker and anchor identify one lineage, and the capability is gone. -/
def Settled (disk : Disk) : Prop :=
  disk.bootstrap = none ∧ ∃ marker document, disk.database.authorityState = some marker ∧
    hub.readAnchor disk = .ok (some document) ∧ document.equalsDict marker.document = true

/-- The next start succeeds and settles the lineage. -/
def Recovers (disk : Disk) : Prop :=
  ∃ disk', hub.initializeSchema disk = .ok disk' ∧ hub.Settled disk'

/-- An empty database, no anchor, and a capability that a first install accepts. -/
structure Fresh (document : Json) (stateId : String) (disk : Disk) : Prop where
  database : disk.database = ⟨[], none, .empty⟩
  anchor : disk.anchor = none
  configured : hub.hasBootstrapPath = true
  bootstrap : hub.readBootstrap disk = .ok (some document)
  capability : hub.capability document = some stateId

/-- `json.loads` reads an anchor that is complete but for its newline, and no other beginning
of it. -/
def ReadsBack (marker : AuthorityState) : Prop :=
  ∀ n, hub.loads (beginning marker.payload n) =
    if marker.payload.toList.length ≤ n + 1 then some (.obj marker.document) else none

/-- The capability has the fields the recovery compares, and no others. -/
def FiveFields (document : Json) : Prop :=
  document.hasKeys ["operation", "contract_version", "owner_domain_generation", "owner_domain_id",
    "state_id"] = true

instance (document : Json) : Decidable (FiveFields document) :=
  inferInstanceAs (Decidable (document.hasKeys _ = true))

/-- The crash leaves what the next start can go on from. -/
def Harmless (document : Json) (stateId : String) (disk : Disk) : CrashPoint → Prop
  -- no schema statement is left behind
  | .inTransaction k => (hub.schemaStatements disk).take k = []
  | .committed => FiveFields document
  -- an anchor that is there is not written again
  | .anchoring written => FiveFields document ∧
      (disk.anchor = none → (hub.expected stateId).payload.toList.length ≤ written + 1)

variable {hub} {disk disk' : Disk} {document : Json} {stateId : String} {point : CrashPoint}

/-! ### Reading the files back -/

theorem beginning_all {text : String} {n : Nat} (h : text.toList.length ≤ n) : beginning text n = text := by
  rw [beginning, List.take_of_length_le h, String.ofList_toList]

theorem isObject_obj {fields : List (String × Json)} : (Json.obj fields).isObject = true := rfl

/-- An anchor that was written far enough is read. -/
theorem readAnchor_beginning {marker : AuthorityState} {written : Nat} (hreads : hub.ReadsBack marker)
    (h : marker.payload.toList.length ≤ written + 1)
    (hanchor : disk.anchor = some (beginning marker.payload written)) :
    hub.readAnchor disk = .ok (some (.obj marker.document)) := by
  rw [readAnchor, hanchor, readDocument_some, hreads, if_pos h]
  exact ⟨rfl, isObject_obj⟩

/-- A torn anchor is not. -/
theorem readAnchor_torn {marker : AuthorityState} {written : Nat} (hreads : hub.ReadsBack marker)
    (h : ¬ marker.payload.toList.length ≤ written + 1)
    (hanchor : disk.anchor = some (beginning marker.payload written)) :
    hub.readAnchor disk = .error (.recovery .anchorInvalid) := by
  have hloads : hub.loads (beginning marker.payload written) = none := by rw [hreads, if_neg h]
  rw [readAnchor, hanchor, readDocument]
  simp only [hloads]

/-- The anchor of a marker says what the marker says. -/
theorem document_equals (marker : AuthorityState) :
    (Json.obj marker.document).equalsDict marker.document = true := by
  simp [Json.equalsDict, Json.hasKeys, Json.hasFields, AuthorityState.document, Json.field,
    Json.equalsScalar, Json.equalsInt, Json.isText]

/-- What the recovery compares a capability with beyond what the install does. -/
theorem equalsDict_bootstrapMarker (hcapability : hub.capability document = some stateId) :
    document.equalsDict (hub.expected stateId).bootstrapMarker = true ↔ FiveFields document := by
  unfold capability at hcapability
  split_ifs at hcapability with hfields
  split at hcapability
  next found hstate =>
    split_ifs at hcapability
    cases hcapability
    have hall : document.hasFields (hub.expected stateId).bootstrapMarker = true := by
      simp only [Json.hasFields, expectedBootstrap, List.all_cons, List.all_nil, Bool.and_true,
        Bool.and_eq_true] at hfields
      simp [Json.hasFields, AuthorityState.bootstrapMarker, AuthorityState.document, expected, hfields,
        hstate, Json.equalsScalar, Json.isText]
    rw [Json.equalsDict, hall, Bool.and_true]
    rfl
  · cases hcapability

/-! ### The disks a crash can leave -/

/-- The database a first install commits. -/
def installed (hub : HubDatabase) (stateId : String) : Contents :=
  ⟨hub.metadata.tables, some (hub.expected stateId), .empty⟩

/-- The first install was committed; the anchor may be there or not. -/
structure Installed (hub : HubDatabase) (document : Json) (stateId : String) (disk : Disk) : Prop where
  database : disk.database = hub.installed stateId
  anchor : disk.anchor = none ∨
    hub.readAnchor disk = .ok (some (.obj (hub.expected stateId).document))
  configured : hub.hasBootstrapPath = true
  bootstrap : hub.readBootstrap disk = .ok (some document)
  capability : hub.capability document = some stateId

/-- What no start finds its way from. -/
inductive Lost (hub : HubDatabase) (document : Json) (stateId : String) (disk : Disk) : Prop where
  /-- tables without a marker -/
  | unmarked (schema : disk.database.schema ≠ []) (marker : disk.database.authorityState = none)
  /-- an anchor that is no JSON -/
  | torn (error : StartError) (anchor : hub.readAnchor disk = .error error)
  /-- a capability the recovery does not take for one -/
  | unrecognised (installed : hub.Installed document stateId disk) (more : ¬ FiveFields document)

theorem runStatements_ne_nil {schema : Schema} {statements : List Statement} (h : schema ≠ []) :
    runStatements schema statements ≠ [] := by
  induction statements generalizing schema with
  | nil => exact h
  | cons statement statements ih =>
    apply ih
    cases statement <;> simp [Statement.run, Schema.onTable, h]

/-- The first schema statement of an install creates a table. -/
theorem run_take_createAll {k : Nat} (h : hub.metadata.createAll.take k ≠ []) :
    runStatements [] (hub.metadata.createAll.take k) ≠ [] := by
  obtain ⟨t, tables, htables⟩ := List.exists_cons_of_ne_nil hub.metadata.nonempty
  have hall : hub.metadata.createAll = .createTable t ::
      (t.indexes.map (.createIndex t.name) ++ tables.flatMap TableSchema.createStatements) := by
    rw [Metadata.createAll, htables]
    rfl
  cases k with
  | zero => exact absurd rfl h
  | succ k =>
    have hfirst : Statement.run [] (.createTable t) ≠ [] := List.cons_ne_nil _ _
    rw [hall, List.take_succ_cons]
    show runStatements (Statement.run [] (.createTable t)) _ ≠ []
    exact runStatements_ne_nil hfirst

/-- A transaction whose files are not read has no effect. -/
theorem transaction_torn {error : StartError} (h : hub.readAnchor disk = .error error) :
    hub.transaction disk = .error error := by
  rw [transaction, h]
  rfl

theorem transaction_unmarked (hschema : disk.database.schema ≠ [])
    (hmarker : disk.database.authorityState = none) :
    ∃ error, hub.transaction disk = .error error := by
  cases h : hub.transaction disk with
  | error error => exact ⟨error, rfl⟩
  | ok committed =>
    obtain ⟨opened, contents⟩ := committed
    obtain ⟨_, _, -, -, hcommits⟩ := transaction_ok.mp h
    obtain ⟨_, hopens, -⟩ := commits_runInitializeSchema.mp hcommits
    rw [openSchema, if_neg hschema, commits_openExisting] at hopens
    obtain ⟨-, marker, hsome, -⟩ := hopens
    rw [hmarker] at hsome
    cases hsome

/-- The transaction of a fresh disk commits the install. -/
theorem Fresh.transaction (h : hub.Fresh document stateId disk) : hub.transaction disk =
    .ok (⟨true, hub.expected stateId, true⟩, hub.installed stateId) := by
  have hbootstrap : (hub.firstBootstrap (some document)).bind hub.capability = some stateId := by
    rw [← h.capability]
    rfl
  refine transaction_ok.mpr ⟨none, some document, readAnchor_none.mpr h.anchor, h.bootstrap,
    commits_runInitializeSchema.mpr ⟨hub.installed stateId, ?_, ?_⟩⟩
  · rw [h.database, openSchema, if_pos rfl, commits_install]
    refine ⟨rfl, stateId, hbootstrap, rfl, ?_⟩
    rw [Metadata.run_createAll]
    rfl
  · exact commits_repair.mpr ⟨0, .empty, Admission.repair_empty, rfl⟩

/-- What the next start makes of a committed install. -/
theorem Installed.commits (h : hub.Installed document stateId disk) {anchor : Option Json}
    {opened : Opened} {contents : Contents} (hanchor : hub.readAnchor disk = .ok anchor) :
    hub.transaction disk = .ok (opened, contents) ↔
      hub.verify (hub.expected stateId) anchor (some document) = .ok opened ∧
        contents = hub.installed stateId := by
  have hupgraded : hub.metadata.upgraded hub.metadata.tables = hub.metadata.tables := by
    rw [Metadata.upgraded, Metadata.upgradeStatements_tables]
    rfl
  have hopening : ∀ contents₁, Tx.Commits (hub.openSchema disk.database.schema anchor (some document))
      disk.database opened contents₁ ↔
      hub.verify (hub.expected stateId) anchor (some document) = .ok opened ∧
        contents₁ = hub.installed stateId := by
    intro contents₁
    have hschema : (hub.installed stateId).schema ≠ [] := hub.metadata.nonempty
    rw [h.database, openSchema, if_neg hschema, commits_openExisting]
    simp only [installed, hupgraded, Metadata.problems_tables, true_and, Option.some.injEq,
      exists_eq_left']
  constructor
  · intro hstart
    obtain ⟨anchor', bootstrap, hanchor', hbootstrap, hcommits⟩ := transaction_ok.mp hstart
    rw [hanchor] at hanchor'
    rw [h.bootstrap] at hbootstrap
    cases hanchor'
    cases hbootstrap
    obtain ⟨contents₁, hopens, hrepair⟩ := commits_runInitializeSchema.mp hcommits
    obtain ⟨hverify, rfl⟩ := (hopening contents₁).mp hopens
    obtain ⟨n, tables, hclaims, rfl⟩ := commits_repair.mp hrepair
    -- there is nothing to repair yet
    have hempty := Admission.repair_empty.symm.trans hclaims
    cases hempty
    exact ⟨hverify, rfl⟩
  · rintro ⟨hverify, rfl⟩
    exact transaction_ok.mpr ⟨anchor, some document, hanchor, h.bootstrap,
      commits_runInitializeSchema.mpr ⟨_, (hopening _).mpr ⟨hverify, rfl⟩,
        commits_repair.mpr ⟨0, .empty, Admission.repair_empty, rfl⟩⟩⟩

theorem Installed.unanchored (h : hub.Installed document stateId disk) (hanchor : disk.anchor = none)
    (hfive : FiveFields document) : hub.transaction disk =
      .ok (⟨true, hub.expected stateId, true⟩, hub.installed stateId) := by
  refine (h.commits (readAnchor_none.mpr hanchor)).mpr ⟨verify_none.mpr ⟨?_, rfl⟩, rfl⟩
  exact (equalsDict_bootstrapMarker h.capability).mpr hfive

theorem Installed.refused (h : hub.Installed document stateId disk) (hanchor : disk.anchor = none)
    (hmore : ¬ FiveFields document) : ∃ error, hub.transaction disk = .error error := by
  cases hstart : hub.transaction disk with
  | error error => exact ⟨error, rfl⟩
  | ok committed =>
    obtain ⟨hverify, -⟩ := (h.commits (readAnchor_none.mpr hanchor)).mp hstart
    exact absurd ((equalsDict_bootstrapMarker h.capability).mp (verify_none.mp hverify).1) hmore

theorem Installed.anchored (h : hub.Installed document stateId disk)
    (hanchor : hub.readAnchor disk = .ok (some (.obj (hub.expected stateId).document))) :
    ∃ consume, hub.transaction disk =
      .ok (⟨false, hub.expected stateId, consume⟩, hub.installed stateId) ∧
      (consume = true ↔ FiveFields document) := by
  refine ⟨_, (h.commits hanchor).mpr ⟨verify_some.mpr ⟨rfl, document_equals _, rfl⟩, rfl⟩, ?_⟩
  rw [Option.any_some]
  exact equalsDict_bootstrapMarker h.capability

/-! ### From which of them a start finds its way -/

theorem finished_bootstrap {opened : Opened} : (hub.finished opened disk).bootstrap =
    if opened.consumeBootstrap = true ∧ hub.hasBootstrapPath = true then none else disk.bootstrap := by
  unfold finished consumeBootstrap
  dsimp only
  split_ifs <;> simp_all

/-- A start that anchors what it opened, or found it anchored, settles the lineage. -/
theorem settled_finished {opened : Opened} {contents : Contents}
    (hcontents : contents.authorityState = some (hub.expected stateId)) (hpath : hub.hasBootstrapPath = true) (hconsume : opened.consumeBootstrap = true)
    (hanchor : hub.readDocument (if opened.createAnchor then some opened.marker.payload
      else disk.anchor) .anchorInvalid = .ok (some (.obj (hub.expected stateId).document))) :
    hub.Settled (hub.finished opened { disk with database := contents }) := by
  refine ⟨?_, hub.expected stateId, _, ?_, ?_, document_equals _⟩
  · rw [finished_bootstrap, if_pos ⟨hconsume, hpath⟩]
  · rw [finished_database, hcontents]
  · rw [readAnchor, finished_anchor]
    exact hanchor

/-- The anchor that a start has written is read back. -/
theorem readDocument_payload (hreads : hub.ReadsBack (hub.expected stateId)) :
    hub.readDocument (some (hub.expected stateId).payload) .anchorInvalid =
      .ok (some (.obj (hub.expected stateId).document)) := by
  have hall := hreads (hub.expected stateId).payload.toList.length
  rw [beginning_all (Nat.le_refl _), if_pos (by omega)] at hall
  exact readDocument_some.mpr ⟨hall, isObject_obj⟩

theorem Fresh.recovers (h : hub.Fresh document stateId disk)
    (hreads : hub.ReadsBack (hub.expected stateId)) : hub.Recovers disk :=
  ⟨_, initializeSchema_ok.mpr ⟨_, _, h.transaction, fun _ => h.anchor, rfl⟩,
    settled_finished rfl h.configured rfl (readDocument_payload hreads)⟩

theorem Installed.recovers (h : hub.Installed document stateId disk)
    (hreads : hub.ReadsBack (hub.expected stateId)) (hfive : FiveFields document) :
    hub.Recovers disk := by
  rcases h.anchor with hnone | hanchor
  · exact ⟨_, initializeSchema_ok.mpr ⟨_, _, h.unanchored hnone hfive, fun _ => hnone, rfl⟩,
      settled_finished rfl h.configured rfl (readDocument_payload hreads)⟩
  · obtain ⟨consume, hstart, hconsume⟩ := h.anchored hanchor
    exact ⟨_, initializeSchema_ok.mpr ⟨_, _, hstart, fun hcreate => absurd hcreate (by simp), rfl⟩,
      settled_finished rfl h.configured (hconsume.mpr hfive) hanchor⟩

theorem not_recovers_of_error {error : StartError} (h : hub.transaction disk = .error error) :
    ¬ hub.Recovers disk := by
  rintro ⟨disk', hstart, -⟩
  obtain ⟨opened, contents, hstart, -⟩ := initializeSchema_ok.mp hstart
  rw [h] at hstart
  cases hstart

/-- A capability that is read is there. -/
theorem bootstrap_of_read (h : hub.readBootstrap disk = .ok (some document)) :
    disk.bootstrap ≠ none := by
  intro hnone
  unfold readBootstrap at h
  rw [hnone] at h
  split_ifs at h <;> cases h

theorem Lost.not_recovers (h : hub.Lost document stateId disk) : ¬ hub.Recovers disk := by
  cases h with
  | unmarked hschema hmarker =>
    obtain ⟨error, herror⟩ := transaction_unmarked hschema hmarker
    exact not_recovers_of_error herror
  | torn error hanchor => exact not_recovers_of_error (transaction_torn hanchor)
  | unrecognised hinstalled hmore =>
    rcases hinstalled.anchor with hnone | hanchor
    · obtain ⟨error, herror⟩ := hinstalled.refused hnone hmore
      exact not_recovers_of_error herror
    · -- the start succeeds, and leaves the capability where it is
      rintro ⟨disk', hstart, hsettled⟩
      obtain ⟨consume, hstart', hconsume⟩ := hinstalled.anchored hanchor
      obtain ⟨opened, contents, hopened, -, rfl⟩ := initializeSchema_ok.mp hstart
      rw [hstart'] at hopened
      cases hopened
      have hgone := hsettled.1
      rw [finished_bootstrap, if_neg fun hboth => hmore (hconsume.mp hboth.1)] at hgone
      exact bootstrap_of_read hinstalled.bootstrap hgone

/-! ### What a crash leaves of them -/

theorem crash_of_error {error : StartError} (h : hub.transaction disk = .error error) :
    hub.crash disk .committed = disk ∧ ∀ written, hub.crash disk (.anchoring written) = disk := by
  simp only [crash, h, implies_true, and_self]

theorem crash_inTransaction {k : Nat} (h : (hub.schemaStatements disk).take k = []) :
    hub.crash disk (.inTransaction k) = disk := by
  simp only [crash, h]
  rfl

theorem Installed.schemaStatements (h : hub.Installed document stateId disk) :
    hub.schemaStatements disk = [] := by
  have hschema : disk.database.schema = hub.metadata.tables := by rw [h.database]; rfl
  unfold HubDatabase.schemaStatements
  split
  · rw [hschema, if_neg hub.metadata.nonempty, Metadata.upgradeStatements_tables]
  · rfl

theorem Installed.crash_committed (h : hub.Installed document stateId disk) :
    hub.crash disk .committed = disk := by
  cases hstart : hub.transaction disk with
  | error error => exact (crash_of_error hstart).1
  | ok committed =>
    obtain ⟨opened, contents⟩ := committed
    obtain ⟨anchor, hanchor⟩ : ∃ anchor, hub.readAnchor disk = .ok anchor :=
      h.anchor.elim (fun hnone => ⟨_, readAnchor_none.mpr hnone⟩) fun hsome => ⟨_, hsome⟩
    obtain ⟨-, rfl⟩ := (h.commits hanchor).mp hstart
    simp only [crash, hstart, ← h.database]

/-- An anchor that is there is not written again. -/
theorem Installed.crash_anchored (h : hub.Installed document stateId disk) {written : Nat}
    (hanchor : hub.readAnchor disk = .ok (some (.obj (hub.expected stateId).document))) :
    hub.crash disk (.anchoring written) = disk := by
  obtain ⟨consume, hstart, -⟩ := h.anchored hanchor
  simp only [crash, hstart, Bool.false_and, Bool.false_eq_true, if_false, ← h.database]

theorem Lost.crash (h : hub.Lost document stateId disk) :
    hub.Lost document stateId (hub.crash disk point) := by
  cases h with
  | unmarked hschema hmarker =>
    cases point with
    | inTransaction k => exact .unmarked (runStatements_ne_nil hschema) hmarker
    | committed =>
      obtain ⟨error, herror⟩ := transaction_unmarked hschema hmarker
      rw [(crash_of_error herror).1]
      exact .unmarked hschema hmarker
    | anchoring written =>
      obtain ⟨error, herror⟩ := transaction_unmarked hschema hmarker
      rw [(crash_of_error herror).2]
      exact .unmarked hschema hmarker
  -- the transaction raises before it writes, so however far it gets the disk stays
  | torn error hanchor =>
    have hsame : hub.crash disk point = disk := by
      cases point with
      | inTransaction k =>
        refine crash_inTransaction ?_
        simp [HubDatabase.schemaStatements, hanchor]
      | committed => exact (crash_of_error (transaction_torn hanchor)).1
      | anchoring written => exact (crash_of_error (transaction_torn hanchor)).2 written
    rw [hsame]
    exact .torn error hanchor
  | unrecognised hinstalled hmore =>
    have hsame : hub.crash disk point = disk := by
      cases point with
      | inTransaction k => exact crash_inTransaction (by rw [hinstalled.schemaStatements, List.take_nil])
      | committed => exact hinstalled.crash_committed
      | anchoring written =>
        rcases hinstalled.anchor with hnone | hanchor
        · obtain ⟨error, herror⟩ := hinstalled.refused hnone hmore
          exact (crash_of_error herror).2 written
        · exact hinstalled.crash_anchored hanchor
    rw [hsame]
    exact .unrecognised hinstalled hmore

/-- The next start finds its way from the disk. -/
inductive Recoverable (hub : HubDatabase) (document : Json) (stateId : String) (disk : Disk) : Prop where
  | fresh (h : hub.Fresh document stateId disk)
  | installed (h : hub.Installed document stateId disk) (five : FiveFields document)

/-- An anchor with some of its text, beside a committed install. -/
theorem anchoring_cases {written : Nat} (hreads : hub.ReadsBack (hub.expected stateId))
    (hpath : hub.hasBootstrapPath = true) (hbootstrap : hub.readBootstrap disk = .ok (some document))
    (hcapability : hub.capability document = some stateId)
    (hdisk : disk' = { disk with
      database := hub.installed stateId
      anchor := some (beginning (hub.expected stateId).payload written) }) :
    ((hub.expected stateId).payload.toList.length ≤ written + 1 →
      hub.Installed document stateId disk') ∧
    (¬ (hub.expected stateId).payload.toList.length ≤ written + 1 →
      hub.Lost document stateId disk') := by
  have hanchor : disk'.anchor = some (beginning (hub.expected stateId).payload written) := by
    rw [hdisk]
  have hfile : disk'.bootstrap = disk.bootstrap := by rw [hdisk]
  constructor
  · intro hlength
    refine ⟨by rw [hdisk], .inr (readAnchor_beginning hreads hlength hanchor), hpath, ?_, hcapability⟩
    rwa [readBootstrap, hfile]
  · intro hlength
    exact .torn _ (readAnchor_torn hreads hlength hanchor)

theorem Fresh.schemaStatements (h : hub.Fresh document stateId disk) :
    hub.schemaStatements disk = hub.metadata.createAll := by
  have hschema : disk.database.schema = [] := by rw [h.database]
  unfold HubDatabase.schemaStatements
  rw [readAnchor_none.mpr h.anchor, h.bootstrap]
  simp [hschema, firstBootstrap, h.capability]

/-- A start that dies behind its commit. -/
theorem Fresh.installed (h : hub.Fresh document stateId disk) :
    hub.Installed document stateId (hub.crash disk .committed) := by
  simp only [HubDatabase.crash, h.transaction]
  exact ⟨rfl, .inl h.anchor, h.configured, h.bootstrap, h.capability⟩

/-- What a crash of the first start leaves. -/
theorem Fresh.crash (h : hub.Fresh document stateId disk)
    (hreads : hub.ReadsBack (hub.expected stateId)) :
    (hub.Harmless document stateId disk point →
      hub.Recoverable document stateId (hub.crash disk point)) ∧
    (¬ hub.Harmless document stateId disk point → hub.Lost document stateId (hub.crash disk point)) := by
  cases point with
  | inTransaction k =>
    constructor
    · intro hharmless
      rw [crash_inTransaction hharmless]
      exact .fresh h
    · intro hleft
      have hschema : disk.database.schema = [] := by rw [h.database]
      have hmarker : disk.database.authorityState = none := by rw [h.database]
      rw [Harmless, h.schemaStatements] at hleft
      refine .unmarked ?_ hmarker
      simp only [HubDatabase.crash, h.schemaStatements, hschema]
      exact run_take_createAll hleft
  | committed =>
    exact ⟨fun hfive => .installed h.installed hfive, fun hmore => .unrecognised h.installed hmore⟩
  | anchoring written =>
    have hcrash : hub.crash disk (.anchoring written) = { disk with
        database := hub.installed stateId
        anchor := some (beginning (hub.expected stateId).payload written) } := by
      simp [HubDatabase.crash, h.transaction, h.anchor]
    obtain ⟨hwhole, htorn⟩ := anchoring_cases hreads h.configured h.bootstrap h.capability hcrash
    constructor
    · rintro ⟨hfive, hlength⟩
      exact .installed (hwhole (hlength h.anchor)) hfive
    · intro hharm
      by_cases hlength : (hub.expected stateId).payload.toList.length ≤ written + 1
      · exact .unrecognised (hwhole hlength) fun hfive => hharm ⟨hfive, fun _ => hlength⟩
      · exact htorn hlength

/-- What a crash of a later start leaves. -/
theorem Installed.crash (h : hub.Installed document stateId disk) (hfive : FiveFields document)
    (hreads : hub.ReadsBack (hub.expected stateId)) :
    (hub.Harmless document stateId disk point →
      hub.Recoverable document stateId (hub.crash disk point)) ∧
    (¬ hub.Harmless document stateId disk point → hub.Lost document stateId (hub.crash disk point)) := by
  cases point with
  | inTransaction k =>
    have hnothing : (hub.schemaStatements disk).take k = [] := by
      rw [h.schemaStatements, List.take_nil]
    rw [crash_inTransaction hnothing]
    exact ⟨fun _ => .installed h hfive, fun hharm => absurd hnothing hharm⟩
  | committed =>
    rw [h.crash_committed]
    exact ⟨fun _ => .installed h hfive, fun hharm => absurd hfive hharm⟩
  | anchoring written =>
    rcases h.anchor with hnone | hanchor
    · have hcrash : hub.crash disk (.anchoring written) = { disk with
          database := hub.installed stateId
          anchor := some (beginning (hub.expected stateId).payload written) } := by
        simp [HubDatabase.crash, h.unanchored hnone hfive, hnone]
      obtain ⟨hwhole, htorn⟩ := anchoring_cases hreads h.configured h.bootstrap h.capability hcrash
      constructor
      · rintro ⟨-, hlength⟩
        exact .installed (hwhole (hlength hnone)) hfive
      · intro hharm
        exact htorn fun hlength => hharm ⟨hfive, fun _ => hlength⟩
    · rw [h.crash_anchored hanchor]
      refine ⟨fun _ => .installed h hfive, fun hharm => absurd ⟨hfive, fun hnone => ?_⟩ hharm⟩
      rw [readAnchor_none.mpr hnone] at hanchor
      cases hanchor

/-- One crash: what it does to the disk is what `Harmless` says. -/
theorem Recoverable.crash (h : hub.Recoverable document stateId disk)
    (hreads : hub.ReadsBack (hub.expected stateId)) :
    (hub.Harmless document stateId disk point →
      hub.Recoverable document stateId (hub.crash disk point)) ∧
    (¬ hub.Harmless document stateId disk point → hub.Lost document stateId (hub.crash disk point)) := by
  cases h with
  | fresh h => exact h.crash hreads
  | installed h hfive => exact h.crash hfive hreads

theorem Recoverable.recovers (h : hub.Recoverable document stateId disk)
    (hreads : hub.ReadsBack (hub.expected stateId)) : hub.Recovers disk := by
  cases h with
  | fresh h => exact h.recovers hreads
  | installed h hfive => exact h.recovers hreads hfive

theorem Lost.run (h : hub.Lost document stateId disk) (points : List CrashPoint) :
    ¬ hub.Recovers (Library.run hub.crash disk points) := by
  have hlost : hub.Lost document stateId (Library.run hub.crash disk points) :=
    run_inv (fun _ _ h => h.crash) h points
  exact hlost.not_recovers

theorem Recoverable.run (h : hub.Recoverable document stateId disk)
    (hreads : hub.ReadsBack (hub.expected stateId)) (points : List CrashPoint) :
    hub.Recovers (Library.run hub.crash disk points) ↔
      Along hub.crash (hub.Harmless document stateId) disk points := by
  induction points generalizing disk with
  | nil => exact iff_of_true (h.recovers hreads) trivial
  | cons point points ih =>
    rw [run_cons, Along]
    by_cases hharmless : hub.Harmless document stateId disk point
    · rw [ih ((h.crash hreads).1 hharmless), and_iff_right hharmless]
    · exact iff_of_false (((h.crash hreads).2 hharmless).run points) fun hall => hharmless hall.1

/-- **A first install survives its crashes exactly where each of them is harmless**: it leaves
no table without a marker and no anchor without its end, and once the install is committed the
capability has the five fields of the recovery. -/
theorem first_install_survives (h : hub.Fresh document stateId disk)
    (hreads : hub.ReadsBack (hub.expected stateId)) (points : List CrashPoint) :
    hub.Recovers (Library.run hub.crash disk points) ↔
      Along hub.crash (hub.Harmless document stateId) disk points :=
  (Recoverable.fresh h).run hreads points

end HubDatabase

namespace Sample

/-- The disk of a first install, with these fields in the capability besides. -/
def fresh (extra : List (String × Json)) : Disk where
  database := ⟨[], none, .empty⟩
  anchor := none
  bootstrap := some (dumpsAscii (capability extra))

theorem fresh_fresh (extra : List (String × Json)) :
    HubDatabase.Fresh (hub extra) (capability extra) state.stateId (fresh extra) where
  database := rfl
  anchor := rfl
  configured := rfl
  bootstrap := by
    have hloads : (hub extra).loads = loads [capability extra, .obj state.document] := by simp only [hub]
    have hbootstrap : (fresh extra).bootstrap = some (dumpsAscii (capability extra)) := rfl
    rw [HubDatabase.readBootstrap, if_pos (show (hub extra).hasBootstrapPath = true from rfl), hbootstrap,
      HubDatabase.readDocument_some, hloads]
    exact ⟨loads_head, rfl⟩
  capability := rfl

theorem beginning_eq_iff {text s : String} {n : Nat} :
    beginning text n = s ↔ text.toList.take n = s.toList := by
  unfold beginning
  constructor
  · rintro rfl
    exact String.toList_ofList.symm
  · intro h
    rw [h, String.ofList_toList]

/-- Of a line, the beginnings that are complete but for the end of the line. -/
theorem beginning_line {text : String} {n : Nat} :
    beginning (text ++ "\n") n = text ∨ beginning (text ++ "\n") n = text ++ "\n" ↔
      (text ++ "\n").toList.length ≤ n + 1 := by
  have hline : (text ++ "\n").toList = text.toList ++ ['\n'] := String.toList_append
  rw [beginning_eq_iff, beginning_eq_iff, hline, List.length_append, List.length_singleton]
  constructor
  · rintro (h | h)
    all_goals
      have hlength := congrArg List.length h
      simp only [List.length_take, List.length_append, List.length_singleton] at hlength
      omega
  · intro h
    by_cases hn : n = text.toList.length
    · exact .inl (hn ▸ List.take_left)
    · refine .inr (List.take_of_length_le ?_)
      rw [List.length_append, List.length_singleton]
      omega

/-- The capability is no beginning of the anchor. -/
theorem capability_not_prefix :
    ¬ (dumpsAscii (capability [])).toList <+: state.payload.toList := by decide +kernel

theorem reads_back : HubDatabase.ReadsBack (hub []) ((hub []).expected state.stateId) := by
  intro n
  have hexpected : (hub []).expected state.stateId = state := by simp only [hub, HubDatabase.expected, state]
  have hloads : (hub []).loads = loads [capability [], .obj state.document] := by simp only [hub]
  rw [hexpected, hloads]
  have hcapability : ¬ (beginning state.payload n = dumpsAscii (capability []) ∨
      beginning state.payload n = dumpsAscii (capability []) ++ "\n") := by
    have hprefix : (beginning state.payload n).toList <+: state.payload.toList := by
      rw [beginning, String.toList_ofList]
      exact List.take_prefix _ _
    rintro (h | h)
    · exact capability_not_prefix (h ▸ hprefix)
    · rw [h, String.toList_append] at hprefix
      exact capability_not_prefix ((List.prefix_append _ _).trans hprefix)
  have hdocument : beginning state.payload n = dumpsAscii (.obj state.document) ∨
      beginning state.payload n = dumpsAscii (.obj state.document) ++ "\n" ↔
      state.payload.toList.length ≤ n + 1 := beginning_line
  rw [loads, List.find?_cons_of_neg (by simpa using hcapability)]
  by_cases hread : state.payload.toList.length ≤ n + 1
  · rw [if_pos hread, List.find?_cons_of_pos (by simpa using hdocument.mpr hread)]
  · rw [if_neg hread, List.find?_cons_of_neg (by simpa using fun h => hread (hdocument.mp h)),
      List.find?_nil]

/-- A capability with a field more than the recovery compares. -/
def noted : List (String × Json) := [("note", .str "first install")]

end Sample

/-- A start that died behind its commit, and one that died before the anchor was synced. -/
theorem HubDatabase.first_install_survives_two : (Sample.hub []).Recovers
    (run (Sample.hub []).crash (Sample.fresh []) [.committed, .anchoring 110]) := by
  refine (HubDatabase.first_install_survives (Sample.fresh_fresh []) Sample.reads_back _).mpr ⟨?_, ?_, trivial⟩
  · exact (by decide : HubDatabase.FiveFields (Sample.capability []))
  · exact ⟨by decide, fun _ => by decide +kernel⟩

/-- With the further field the install is accepted, and a crash behind its commit is the end. -/
theorem HubDatabase.first_install_stuck :
    (Sample.hub Sample.noted).Fresh (Sample.capability Sample.noted) Sample.state.stateId
      (Sample.fresh Sample.noted) ∧
    ¬ ∀ points, (Sample.hub Sample.noted).Recovers
      (run (Sample.hub Sample.noted).crash (Sample.fresh Sample.noted) points) := by
  refine ⟨Sample.fresh_fresh Sample.noted, fun h => ?_⟩
  have hinstalled := (Sample.fresh_fresh Sample.noted).installed
  have hlost := HubDatabase.Lost.unrecognised hinstalled (by decide)
  have hrecovers := h [.committed]
  rw [run_cons, run_nil] at hrecovers
  exact hlost.not_recovers hrecovers

end EidolonHub.Database
