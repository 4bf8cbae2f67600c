import EidolonHub.Admission.ClaimRevisionMigration
import EidolonHub.Database.Schema
import EidolonHub.Library.JsonText

/-!
# EidolonHub.Database.Lineage

**The start of the Hub on its database.** A database belongs to one Owner Authority lineage:
a marker row inside it, an anchor file beside it, and, until the lineage is established, a
bootstrap capability. A start reads the two files, creates or verifies the schema and the
marker in one transaction, and afterwards writes the anchor and consumes the capability.

A database that exists is opened for the lineage that is configured and anchored. There is
one way around: without an anchor the capability is compared with the configuration and with
the state id of the marker, and the rest of the marker with nothing.
-/

namespace EidolonHub.Database

open EidolonHub.Library EidolonHub.Library.Python

/-! ### What is on the disk -/

/-- `AuthorityStateRow`, the one row of its table. -/
structure AuthorityState where
  ownerDomainId : String
  ownerDomainGeneration : Nat
  stateId : String
  deriving DecidableEq, Repr

/-- What a database file holds: its tables, the row of its lineage, and the rows of the Admission. -/
structure Contents where
  schema : Schema
  authorityState : Option AuthorityState
  tables : Admission.Tables

/-- The database and the text of the two files, where they exist. -/
structure Disk where
  database : Contents
  anchor : Option String
  bootstrap : Option String

/-- Why an operator has to act, `AuthorityRecoveryRequired`. -/
inductive RecoveryRequired where
  | lineageExists | noCapability | markerMissing | anchorMissing | generationsDiffer | anchorInvalid
  | capabilityInvalid | anchorAppeared
  deriving DecidableEq, Repr

/-- `str` of the `AuthorityRecoveryRequired` that is raised. -/
def RecoveryRequired.message : RecoveryRequired → String
  | lineageExists => "AuthorityRecoveryRequired: Hub database is empty but an established " ++
      "Owner Authority lineage exists"
  | noCapability => "AuthorityRecoveryRequired: empty Hub database has no matching " ++
      "first-install or ResetAuthority bootstrap capability"
  | markerMissing => "AuthorityRecoveryRequired: Hub database Authority marker is missing"
  | anchorMissing => "AuthorityRecoveryRequired: Hub database exists but its external " ++
      "Authority lineage anchor is missing"
  | generationsDiffer => "AuthorityRecoveryRequired: Hub database, Owner configuration, and " ++
      "Authority lineage anchor do not identify the same generation"
  | anchorInvalid => "AuthorityRecoveryRequired: Authority lineage anchor is invalid"
  | capabilityInvalid => "AuthorityRecoveryRequired: Authority bootstrap capability is invalid"
  | anchorAppeared => "AuthorityRecoveryRequired: Authority lineage anchor appeared during bootstrap"

/-- What a start raises. -/
inductive StartError where
  | recovery (reason : RecoveryRequired)
  /-- the database does not match the schema of this release -/
  | schema (problems : List Metadata.SchemaProblem)
  /-- the Claim histories could not be repaired -/
  | repair (error : Admission.HubError)
  deriving DecidableEq

/-! ### The documents of a lineage -/

namespace AuthorityState

variable (state : AuthorityState)

/-- What the anchor says of a lineage. -/
def document : List (String × Json) := [
  ("contract_version", .int 1),
  ("owner_domain_generation", .int state.ownerDomainGeneration),
  ("owner_domain_id", .str state.ownerDomainId),
  ("state_id", .str state.stateId)]

/-- `bootstrap_marker`. -/
def bootstrapMarker : List (String × Json) :=
  ("operation", .str "owner-authority.bootstrap") :: state.document

/-- The text of the anchor file. -/
def payload : String := dumpsAscii (.obj state.document) ++ "\n"

end AuthorityState

/-- `HubDatabase`: what a start is configured with, the tables it declares, and `json.loads`
of the text of a file, where it is JSON. -/
structure HubDatabase where
  metadata : Metadata
  loads : String → Option Json
  ownerDomainId : String
  ownerDomainGeneration : Nat
  /-- `authority_bootstrap_path` is configured -/
  hasBootstrapPath : Bool

namespace HubDatabase

variable (hub : HubDatabase)

/-- The configured lineage, with this state id. -/
def expected (stateId : String) : AuthorityState :=
  ⟨hub.ownerDomainId, hub.ownerDomainGeneration, stateId⟩

/-- What a capability to install has to say, field by field. -/
def expectedBootstrap : List (String × Json) := [
  ("contract_version", .int 1),
  ("operation", .str "owner-authority.bootstrap"),
  ("owner_domain_id", .str hub.ownerDomainId),
  ("owner_domain_generation", .int hub.ownerDomainGeneration)]

/-- The state id of a capability for a first install. -/
def capability (bootstrap : Json) : Option String :=
  if bootstrap.hasFields hub.expectedBootstrap then
    match bootstrap.field "state_id" with
    | some (.str stateId) => if startsWith "authority-state_" stateId then some stateId else none
    | _ => none
  else none

/-- The capability of a Hub that is configured with none, as tests are. -/
def implicitBootstrap : Json := .obj [
  ("contract_version", .int 1),
  ("operation", .str "owner-authority.bootstrap"),
  ("owner_domain_id", .str hub.ownerDomainId),
  ("owner_domain_generation", .int hub.ownerDomainGeneration),
  ("state_id", .str "authority-state_test-only")]

/-- The capability a first install has. -/
def firstBootstrap (bootstrap : Option Json) : Option Json :=
  if bootstrap.isNone && !hub.hasBootstrapPath then some hub.implicitBootstrap else bootstrap

/-! ### A start -/

/-- A file of JSON text that must hold an object, where it exists. -/
def readDocument (file : Option String) (invalid : RecoveryRequired) :
    Except StartError (Option Json) :=
  match file with
  | none => .ok none
  | some text =>
    match hub.loads text with
    | none => .error (.recovery invalid)
    | some value => if value.isObject then .ok (some value) else .error (.recovery invalid)

/-- The lineage that is anchored beside the database, if there is one. -/
def readAnchor (disk : Disk) : Except StartError (Option Json) :=
  hub.readDocument disk.anchor .anchorInvalid

/-- The capability to install, if a path for it is configured and it is there. -/
def readBootstrap (disk : Disk) : Except StartError (Option Json) :=
  if hub.hasBootstrapPath then hub.readDocument disk.bootstrap .capabilityInvalid else .ok none

/-- What the transaction leaves to do. -/
structure Opened where
  createAnchor : Bool
  marker : AuthorityState
  consumeBootstrap : Bool

/-- `_initialize_schema` of an empty database. -/
def install (anchor bootstrap : Option Json) : Tx Contents StartError Opened := do
  Tx.raiseIf (anchor.isSome = true) (.recovery .lineageExists)
  let stateId ← Tx.demand ((hub.firstBootstrap bootstrap).bind hub.capability) (.recovery .noCapability)
  Tx.update fun db => { db with
    schema := runStatements db.schema hub.metadata.createAll
    authorityState := some (hub.expected stateId) }
  return ⟨true, hub.expected stateId, true⟩

/-- The marker row against configuration, anchor and capability. -/
def verify (marker : AuthorityState) (anchor bootstrap : Option Json) : Except StartError Opened :=
  let expected := hub.expected marker.stateId
  match anchor with
  | none =>
    -- the capability names the expected lineage; the marker itself is not compared with it
    if bootstrap.any (·.equalsDict expected.bootstrapMarker) then .ok ⟨true, marker, true⟩
    else .error (.recovery .anchorMissing)
  | some anchor =>
    if marker ≠ expected ∨ ¬ anchor.equalsDict expected.document then
      .error (.recovery .generationsDiffer)
    else .ok ⟨false, marker, bootstrap.any (·.equalsDict expected.bootstrapMarker)⟩

/-- `_initialize_schema` of a database that exists. -/
def openExisting (anchor bootstrap : Option Json) : Tx Contents StartError Opened := do
  Tx.update fun db => { db with schema := hub.metadata.upgraded db.schema }
  let problems ← Tx.read fun db => hub.metadata.problems db.schema
  Tx.raiseIf (problems ≠ []) (.schema problems)
  let row ← Tx.read (·.authorityState)
  let marker ← Tx.demand row (.recovery .markerMissing)
  Tx.lift (hub.verify marker anchor bootstrap)

/-- `repair_claim_revisions`, in the transaction of the schema. -/
def repair : Tx Contents StartError Unit := fun db =>
  match Admission.repairClaimRevisions db.tables with
  | .ok (_, tables) => .ok ((), { db with tables })
  | .error e => .error (.repair e)

/-- `_initialize_schema`. -/
def openSchema (schema : Schema) (anchor bootstrap : Option Json) : Tx Contents StartError Opened :=
  if schema = [] then hub.install anchor bootstrap else hub.openExisting anchor bootstrap

/-- The transaction of a start. -/
def runInitializeSchema (anchor bootstrap : Option Json) : Tx Contents StartError Opened := do
  let schema ← Tx.read (·.schema)
  let opened ← hub.openSchema schema anchor bootstrap
  repair
  return opened

/-- The files are read and the transaction is run. -/
def transaction (disk : Disk) : Except StartError (Opened × Contents) := do
  let anchor ← hub.readAnchor disk
  let bootstrap ← hub.readBootstrap disk
  hub.runInitializeSchema anchor bootstrap disk.database

/-- `_create_anchor`: the file must not exist. -/
def createAnchor (marker : AuthorityState) (disk : Disk) : Except StartError Disk :=
  if disk.anchor.isSome then .error (.recovery .anchorAppeared)
  else .ok { disk with anchor := some marker.payload }

/-- `_consume_bootstrap`. -/
def consumeBootstrap (disk : Disk) : Disk :=
  if hub.hasBootstrapPath then { disk with bootstrap := none } else disk

/-- What follows the commit. -/
def finish (opened : Opened) (disk : Disk) : Except StartError Disk := do
  let disk ← (if opened.createAnchor then createAnchor opened.marker disk else .ok disk)
  .ok (if opened.consumeBootstrap then hub.consumeBootstrap disk else disk)

/-- `initialize_schema`. -/
def initializeSchema (disk : Disk) : Except StartError Disk := do
  let committed ← hub.transaction disk
  hub.finish committed.1 { disk with database := committed.2 }

/-! ### What a start that ends well did -/

variable {hub} {disk disk' : Disk} {anchor bootstrap : Option Json} {opened : Opened}
  {contents contents' : Contents} {marker : AuthorityState}

theorem commits_install : Tx.Commits (hub.install anchor bootstrap) contents opened contents' ↔
    anchor = none ∧ ∃ stateId, (hub.firstBootstrap bootstrap).bind hub.capability = some stateId ∧
      opened = ⟨true, hub.expected stateId, true⟩ ∧
      contents' = { contents with
        schema := runStatements contents.schema hub.metadata.createAll
        authorityState := some (hub.expected stateId) } := by
  simp only [install, Tx.commits_raiseIf_bind, Tx.commits_demand_bind, Tx.commits_update_bind,
    Tx.commits_pure, Option.isSome_iff_ne_none, ne_eq, not_not]

theorem commits_openExisting :
    Tx.Commits (hub.openExisting anchor bootstrap) contents opened contents' ↔
      hub.metadata.problems (hub.metadata.upgraded contents.schema) = [] ∧
      ∃ marker, contents.authorityState = some marker ∧
        hub.verify marker anchor bootstrap = .ok opened ∧
        contents' = { contents with schema := hub.metadata.upgraded contents.schema } := by
  simp only [openExisting, Tx.commits_update_bind, Tx.commits_read_bind, Tx.commits_raiseIf_bind,
    Tx.commits_demand_bind, Tx.commits_lift, ne_eq, not_not]

theorem commits_repair {u : Unit} : Tx.Commits repair contents u contents' ↔
    ∃ n tables, Tx.Commits Admission.repairClaimRevisions contents.tables n tables ∧
      contents' = { contents with tables } := by
  unfold Tx.Commits repair
  cases Admission.repairClaimRevisions contents.tables with
  | error e => simp
  | ok found =>
    obtain ⟨n, tables⟩ := found
    simp [eq_comm]

theorem verify_none : hub.verify marker none bootstrap = .ok opened ↔
    bootstrap.any (·.equalsDict (hub.expected marker.stateId).bootstrapMarker) = true ∧
      opened = ⟨true, marker, true⟩ := by
  unfold verify
  dsimp only
  split_ifs with h
  · simp [h, eq_comm]
  · simp [h]

theorem verify_some {document : Json} : hub.verify marker (some document) bootstrap = .ok opened ↔
    marker = hub.expected marker.stateId ∧
      document.equalsDict (hub.expected marker.stateId).document = true ∧
      opened = ⟨false, marker,
        bootstrap.any (·.equalsDict (hub.expected marker.stateId).bootstrapMarker)⟩ := by
  unfold verify
  dsimp only
  split_ifs with h
  · simp only [false_iff]
    rintro ⟨hmarker, hdocument, -⟩
    exact h.elim (fun hne => hne hmarker) fun hne => hne hdocument
  · push Not at h
    rw [Except.ok.injEq]
    exact ⟨fun heq => ⟨h.1, h.2, heq.symm⟩, fun heq => heq.2.2.symm⟩

theorem transaction_ok : hub.transaction disk = .ok (opened, contents) ↔
    ∃ anchor bootstrap, hub.readAnchor disk = .ok anchor ∧ hub.readBootstrap disk = .ok bootstrap ∧
      Tx.Commits (hub.runInitializeSchema anchor bootstrap) disk.database opened contents := by
  simp only [transaction, except_bind_ok, Tx.Commits]
  constructor
  · rintro ⟨anchor, hanchor, bootstrap, hbootstrap, h⟩
    exact ⟨anchor, bootstrap, hanchor, hbootstrap, h⟩
  · rintro ⟨anchor, bootstrap, hanchor, hbootstrap, h⟩
    exact ⟨anchor, hanchor, bootstrap, hbootstrap, h⟩

theorem commits_runInitializeSchema :
    Tx.Commits (hub.runInitializeSchema anchor bootstrap) contents opened contents' ↔
      ∃ contents₁, Tx.Commits (hub.openSchema contents.schema anchor bootstrap) contents opened contents₁ ∧
        Tx.Commits repair contents₁ () contents' := by
  rw [runInitializeSchema, Tx.commits_read_bind]
  simp only [Tx.commits_bind, Tx.commits_pure]
  constructor
  · rintro ⟨opened', contents₁, hopens, u, contents₂, hrepair, rfl, rfl⟩
    exact ⟨contents₁, hopens, hrepair⟩
  · rintro ⟨contents₁, hopens, hrepair⟩
    exact ⟨opened, contents₁, hopens, (), contents', hrepair, rfl, rfl⟩

/-- What is on the disk after a start, given what its transaction left to do. -/
def finished (hub : HubDatabase) (opened : Opened) (disk : Disk) : Disk :=
  let disk := if opened.createAnchor then { disk with anchor := some opened.marker.payload } else disk
  if opened.consumeBootstrap then hub.consumeBootstrap disk else disk

theorem finish_ok : hub.finish opened disk = .ok disk' ↔
    (opened.createAnchor = true → disk.anchor = none) ∧ disk' = hub.finished opened disk := by
  rw [finish, except_bind_ok]
  unfold finished
  cases hcreate : opened.createAnchor with
  | false =>
    simp only [Bool.false_eq_true, if_false, Except.ok.injEq, exists_eq_left', false_implies, true_and]
    exact eq_comm
  | true =>
    unfold createAnchor
    cases hanchor : disk.anchor with
    | none =>
      simp only [if_true, Option.isSome_none, Bool.false_eq_true, if_false, Except.ok.injEq,
        exists_eq_left', forall_const, true_and]
      exact eq_comm
    | some text => simp

theorem initializeSchema_ok : hub.initializeSchema disk = .ok disk' ↔
    ∃ opened contents, hub.transaction disk = .ok (opened, contents) ∧
      (opened.createAnchor = true → disk.anchor = none) ∧
      disk' = hub.finished opened { disk with database := contents } := by
  simp only [initializeSchema, except_bind_ok, Prod.exists, finish_ok]

/-! ### Whose lineage is served -/

/-- The document that vouches for a lineage: the anchor, or without one the capability. -/
def Vouches (hub : HubDatabase) (disk : Disk) (document : Json) : Prop :=
  hub.readAnchor disk = .ok (some document) ∨
    hub.readAnchor disk = .ok none ∧ hub.readBootstrap disk = .ok (some document)

/-- The marker is of the configured lineage. -/
def Configured (hub : HubDatabase) (marker : AuthorityState) : Prop :=
  marker.ownerDomainId = hub.ownerDomainId ∧ marker.ownerDomainGeneration = hub.ownerDomainGeneration

/-- What a start that ends well may have done. -/
structure OwnLineage (hub : HubDatabase) (disk disk' : Disk) : Prop where
  /-- a database that exists is of the configured lineage, and of the one vouched for -/
  serves : disk.database.schema ≠ [] → ∃ marker, disk.database.authorityState = some marker ∧
    hub.Configured marker ∧
    ∃ document, hub.Vouches disk document ∧ document.field "state_id" = some (.str marker.stateId)
  /-- its marker stays as it is -/
  keeps : disk.database.schema ≠ [] → disk'.database.authorityState = disk.database.authorityState
  /-- a lineage is created where there is none, for a capability of this configuration -/
  creates : disk.database.schema = [] → disk.anchor = none ∧ ∃ file bootstrap stateId,
    hub.readBootstrap disk = .ok file ∧ hub.firstBootstrap file = some bootstrap ∧
    hub.capability bootstrap = some stateId ∧
    disk'.database.authorityState = some (hub.expected stateId)
  /-- an anchor that is written is of the marker and of the configuration -/
  anchors : disk'.anchor ≠ disk.anchor → ∃ marker, disk'.database.authorityState = some marker ∧
    disk'.anchor = some marker.payload ∧ hub.Configured marker

/-- The case that slips through: a database of another Owner Domain or generation, without an
anchor, and a capability of this configuration with the state id of that database. -/
structure Foreign (hub : HubDatabase) (disk : Disk) : Prop where
  existing : disk.database.schema ≠ []
  usable : hub.metadata.problems (hub.metadata.upgraded disk.database.schema) = []
  repairable : ∃ n tables, Tx.Commits Admission.repairClaimRevisions disk.database.tables n tables
  unanchored : disk.anchor = none
  vouched : ∃ marker document, disk.database.authorityState = some marker ∧
    hub.readBootstrap disk = .ok (some document) ∧
    document.equalsDict (hub.expected marker.stateId).bootstrapMarker = true ∧ ¬ hub.Configured marker

theorem configured_iff : hub.Configured marker ↔ marker = hub.expected marker.stateId := by
  obtain ⟨ownerDomainId, ownerDomainGeneration, stateId⟩ := marker
  simp [Configured, expected]

theorem configured_expected {stateId : String} : hub.Configured (hub.expected stateId) := ⟨rfl, rfl⟩

theorem readAnchor_none : hub.readAnchor disk = .ok none ↔ disk.anchor = none := by
  unfold readAnchor readDocument
  cases disk.anchor with
  | none => simp
  | some text =>
    dsimp only
    cases hub.loads text with
    | none => simp
    | some value =>
      dsimp only
      split_ifs <;> simp

theorem readDocument_some {text : String} {document : Json} {invalid : RecoveryRequired} :
    hub.readDocument (some text) invalid = .ok (some document) ↔
      hub.loads text = some document ∧ document.isObject = true := by
  unfold readDocument
  dsimp only
  cases hub.loads text with
  | none => simp
  | some value =>
    dsimp only
    split_ifs with h
    · simp only [Except.ok.injEq, Option.some.injEq]
      exact ⟨fun heq => ⟨heq, heq ▸ h⟩, fun heq => heq.1⟩
    · simp only [Option.some.injEq, false_iff]
      rintro ⟨rfl, hobject⟩
      exact h hobject

/-- A document that is compared with a text field has it. -/
theorem field_of_equalsDict {fields : List (String × Json)} {document : Json} {key text : String}
    (h : document.equalsDict fields = true) (hkey : (key, Json.str text) ∈ fields) :
    document.field key = some (.str text) := by
  rw [Json.equalsDict, Bool.and_eq_true, Json.hasFields, List.all_eq_true] at h
  obtain ⟨value, hvalue, htext⟩ := (Option.any_eq_true _ _).mp (h.2 _ hkey)
  rw [hvalue, Json.isText_iff.mp htext]

theorem stateId_mem_document : ("state_id", Json.str marker.stateId) ∈ marker.document := by
  simp [AuthorityState.document]

theorem finished_database : (hub.finished opened disk).database = disk.database := by
  unfold finished consumeBootstrap
  dsimp only
  split_ifs <;> rfl

theorem finished_anchor : (hub.finished opened disk).anchor =
    if opened.createAnchor then some opened.marker.payload else disk.anchor := by
  unfold finished consumeBootstrap
  dsimp only
  split_ifs <;> rfl

/-- A start of a database that exists, in the terms of its lineage. -/
theorem initializeSchema_existing (hschema : disk.database.schema ≠ []) :
    hub.initializeSchema disk = .ok disk' ↔
      ∃ anchor bootstrap marker opened n tables, hub.readAnchor disk = .ok anchor ∧
        hub.readBootstrap disk = .ok bootstrap ∧
        hub.metadata.problems (hub.metadata.upgraded disk.database.schema) = [] ∧
        disk.database.authorityState = some marker ∧
        hub.verify marker anchor bootstrap = .ok opened ∧
        Tx.Commits Admission.repairClaimRevisions disk.database.tables n tables ∧
        (opened.createAnchor = true → disk.anchor = none) ∧
        disk' = hub.finished opened { disk with
          database := ⟨hub.metadata.upgraded disk.database.schema, some marker, tables⟩ } := by
  simp only [initializeSchema_ok, transaction_ok, commits_runInitializeSchema, openSchema,
    if_neg hschema, commits_openExisting, commits_repair]
  constructor
  · rintro ⟨opened, _, ⟨anchor, bootstrap, hanchor, hbootstrap, _, ⟨hproblems, marker, hmarker,
      hverify, rfl⟩, n, tables, hrepair, rfl⟩, hcreate, rfl⟩
    refine ⟨anchor, bootstrap, marker, opened, n, tables, hanchor, hbootstrap, hproblems, hmarker,
      hverify, hrepair, hcreate, ?_⟩
    rw [← hmarker]
  · rintro ⟨anchor, bootstrap, marker, opened, n, tables, hanchor, hbootstrap, hproblems, hmarker,
      hverify, hrepair, hcreate, rfl⟩
    refine ⟨opened, _, ⟨anchor, bootstrap, hanchor, hbootstrap, _, ⟨hproblems, marker, hmarker,
      hverify, rfl⟩, n, tables, hrepair, rfl⟩, hcreate, ?_⟩
    rw [← hmarker]

/-- A start of an empty database. -/
theorem initializeSchema_empty (hschema : disk.database.schema = []) :
    hub.initializeSchema disk = .ok disk' ↔
      ∃ bootstrap stateId n tables, disk.anchor = none ∧ hub.readBootstrap disk = .ok bootstrap ∧
        (hub.firstBootstrap bootstrap).bind hub.capability = some stateId ∧
        Tx.Commits Admission.repairClaimRevisions disk.database.tables n tables ∧
        disk' = hub.finished ⟨true, hub.expected stateId, true⟩ { disk with
          database := ⟨hub.metadata.tables, some (hub.expected stateId), tables⟩ } := by
  simp only [initializeSchema_ok, transaction_ok, commits_runInitializeSchema, openSchema,
    if_pos hschema, commits_install, commits_repair]
  have hcreated : runStatements disk.database.schema hub.metadata.createAll = hub.metadata.tables := by
    rw [hschema, Metadata.run_createAll]
  constructor
  · rintro ⟨_, _, ⟨_, bootstrap, hanchor, hbootstrap, _, ⟨rfl, stateId, hcapability, rfl, rfl⟩, n,
      tables, hrepair, rfl⟩, -, rfl⟩
    refine ⟨bootstrap, stateId, n, tables, readAnchor_none.mp hanchor, hbootstrap, hcapability, hrepair,
      ?_⟩
    rw [← hcreated]
  · rintro ⟨bootstrap, stateId, n, tables, hanchor, hbootstrap, hcapability, hrepair, rfl⟩
    refine ⟨_, _, ⟨none, bootstrap, readAnchor_none.mpr hanchor, hbootstrap, _,
      ⟨rfl, stateId, hcapability, rfl, rfl⟩, n, tables, hrepair, rfl⟩, fun _ => hanchor, ?_⟩
    rw [hcreated]

/-- A foreign database is served. -/
theorem Foreign.starts (h : hub.Foreign disk) : ∃ disk', hub.initializeSchema disk = .ok disk' := by
  obtain ⟨n, tables, hrepair⟩ := h.repairable
  obtain ⟨marker, document, hmarker, hbootstrap, hdocument, -⟩ := h.vouched
  exact ⟨_, (initializeSchema_existing h.existing).mpr ⟨none, some document, marker,
    ⟨true, marker, true⟩, n, tables, readAnchor_none.mpr h.unanchored, hbootstrap, h.usable, hmarker,
    verify_none.mpr ⟨hdocument, rfl⟩, hrepair, fun _ => h.unanchored, rfl⟩⟩

/-- What a start of a database that exists goes by. -/
theorem ownLineage_existing (hschema : disk.database.schema ≠ []) (hforeign : ¬ hub.Foreign disk)
    (h : hub.initializeSchema disk = .ok disk') : hub.OwnLineage disk disk' := by
  obtain ⟨anchor, bootstrap, marker, opened, n, tables, hanchor, hbootstrap, hproblems, hmarker,
    hverify, hrepair, hcreate, rfl⟩ := (initializeSchema_existing hschema).mp h
  have hstate : (hub.finished opened { disk with
      database := ⟨hub.metadata.upgraded disk.database.schema, some marker, tables⟩
      }).database.authorityState = some marker := by rw [finished_database]
  -- either document names the state id of the marker; the anchor is compared with all of it
  have hvouched : opened.marker = marker ∧ hub.Configured marker ∧ ∃ document,
      hub.Vouches disk document ∧ document.field "state_id" = some (.str marker.stateId) := by
    cases anchor with
    | none =>
      obtain ⟨hany, rfl⟩ := verify_none.mp hverify
      obtain ⟨document, rfl, hdocument⟩ := (Option.any_eq_true _ _).mp hany
      refine ⟨rfl, ?_, document, .inr ⟨hanchor, hbootstrap⟩, ?_⟩
      · by_contra hother
        exact hforeign ⟨hschema, hproblems, ⟨n, tables, hrepair⟩, readAnchor_none.mp hanchor, marker,
          document, hmarker, hbootstrap, hdocument, hother⟩
      · exact field_of_equalsDict hdocument (List.mem_cons_of_mem _ stateId_mem_document)
    | some document =>
      obtain ⟨hexpected, hdocument, rfl⟩ := verify_some.mp hverify
      exact ⟨rfl, configured_iff.mpr hexpected, document, .inl hanchor,
        field_of_equalsDict hdocument stateId_mem_document⟩
  obtain ⟨hopened, hconfigured, document, hdocument⟩ := hvouched
  refine ⟨fun _ => ⟨marker, hmarker, hconfigured, document, hdocument⟩, fun _ => ?_,
    fun hempty => absurd hempty hschema, fun hwritten => ⟨marker, hstate, ?_, hconfigured⟩⟩
  · rw [hstate, hmarker]
  · rw [finished_anchor] at hwritten ⊢
    split_ifs at hwritten ⊢
    · rw [hopened]
    · exact absurd rfl hwritten

theorem ownLineage_empty (hschema : disk.database.schema = [])
    (h : hub.initializeSchema disk = .ok disk') : hub.OwnLineage disk disk' := by
  obtain ⟨file, stateId, n, tables, hanchor, hfile, hcapability, hrepair, rfl⟩ :=
    (initializeSchema_empty hschema).mp h
  obtain ⟨bootstrap, hbootstrap, hstateId⟩ := Option.bind_eq_some_iff.mp hcapability
  refine ⟨fun hne => absurd hschema hne, fun hne => absurd hschema hne,
    fun _ => ⟨hanchor, file, bootstrap, stateId, hfile, hbootstrap, hstateId, ?_⟩,
    fun _ => ⟨hub.expected stateId, ?_, ?_, configured_expected⟩⟩
  · rw [finished_database]
  · rw [finished_database]
  · rw [finished_anchor, if_pos rfl]

/-- **A start that ends well serves the lineage that is configured and vouched for, creates
one only where there is none, and anchors no other, exactly where it is not asked to open a
foreign database without an anchor.** -/
theorem serves_own_lineage :
    (∀ disk', hub.initializeSchema disk = .ok disk' → hub.OwnLineage disk disk') ↔
      ¬ hub.Foreign disk := by
  constructor
  · intro hall hforeign
    obtain ⟨disk', hstarts⟩ := hforeign.starts
    obtain ⟨marker, hmarker, hconfigured, -⟩ := (hall disk' hstarts).serves hforeign.existing
    obtain ⟨marker', -, hmarker', -, -, hother⟩ := hforeign.vouched
    rw [hmarker, Option.some.injEq] at hmarker'
    exact hother (hmarker' ▸ hconfigured)
  · intro hforeign disk' hstarts
    by_cases hschema : disk.database.schema = []
    · exact ownLineage_empty hschema hstarts
    · exact ownLineage_existing hschema hforeign hstarts

end HubDatabase

/-! ### A sample Hub -/

namespace Sample

/-- The table of the lineage. -/
def authorityTable : TableSchema where
  name := "hub_authority_state"
  columns := [⟨"singleton_id", "INTEGER", false, true, none⟩,
    ⟨"owner_domain_id", "VARCHAR(255)", false, false, none⟩,
    ⟨"owner_domain_generation", "INTEGER", false, false, none⟩,
    ⟨"state_id", "VARCHAR(128)", false, false, none⟩]
  indexes := []

/-- The metadata of a database with that table alone. -/
def metadata : Metadata where
  tables := [authorityTable]
  nodup := List.nodup_singleton _
  nonempty := List.cons_ne_nil _ _
  directory := by decide

/-- The lineage of the example. -/
def state : AuthorityState := ⟨"domain", 1, "authority-state_a"⟩

/-- The capability of the sample lineage, with these fields besides. -/
def capability (extra : List (String × Json)) : Json := .obj (state.bootstrapMarker ++ extra)

/-- The texts of the sample documents, with or without a newline behind them. -/
def loads (documents : List Json) (text : String) : Option Json :=
  documents.find? fun document =>
    text = dumpsAscii document ∨ text = dumpsAscii document ++ "\n"

theorem loads_head {document : Json} {documents : List Json} :
    loads (document :: documents) (dumpsAscii document) = some document :=
  List.find?_cons_of_pos (by simp)

/-- A Hub of that domain, whose capability may have further fields. -/
def hub (extra : List (String × Json)) : HubDatabase where
  metadata := metadata
  loads := loads [capability extra, .obj state.document]
  ownerDomainId := "domain"
  ownerDomainGeneration := 1
  hasBootstrapPath := true

/-- A database of another Owner Domain, without its anchor. -/
def foreign : Disk where
  database := ⟨metadata.tables, some ⟨"elsewhere", 1, "authority-state_a"⟩, .empty⟩
  anchor := none
  bootstrap := some (dumpsAscii (capability []))

theorem foreign_foreign : HubDatabase.Foreign (hub []) foreign where
  existing := List.cons_ne_nil _ _
  usable := by decide +kernel
  repairable := ⟨0, _, Admission.repair_empty⟩
  unanchored := rfl
  vouched := by
    refine ⟨_, capability [], rfl, ?_, by decide +kernel, fun h => absurd h.1 (by decide)⟩
    have hbootstrap : foreign.bootstrap = some (dumpsAscii (capability [])) := rfl
    have hloads : (hub []).loads = loads [capability [], .obj state.document] := by simp only [hub]
    rw [HubDatabase.readBootstrap, if_pos (show (hub []).hasBootstrapPath = true from rfl), hbootstrap,
      HubDatabase.readDocument_some, hloads]
    exact ⟨loads_head, rfl⟩

end Sample

/-- The database of another Owner Domain is opened for this one. -/
theorem HubDatabase.foreign_lineage_served : ¬ ∀ disk', (Sample.hub []).initializeSchema Sample.foreign = .ok disk' →
    (Sample.hub []).OwnLineage Sample.foreign disk' := by
  intro h
  obtain ⟨disk', hstarts⟩ := Sample.foreign_foreign.starts
  obtain ⟨marker, hmarker, hconfigured, -⟩ := (h disk' hstarts).serves Sample.foreign_foreign.existing
  cases hmarker
  exact absurd hconfigured.1 (by decide)

end EidolonHub.Database
