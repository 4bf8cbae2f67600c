import EidolonHub.Library.Run

/-!
# EidolonHub.Integration.Store

**The file of the integration primitives and its schema.** `initialize` reads the version, brings the
schema up and stamps the version. The script of the schema commits the transaction it is called in, so
each statement from there on is durable on its own, and a start may die between any two of them.

A start that dies is made good by the next one, except for one that brings up a file of version 1 and
dies between the new column and the stamp: the column is there, the version says that it is not, and no
later start opens the file (`initialize_recovers`).
-/

namespace EidolonHub.Integration

open EidolonHub.Library

/-! ### The file -/

/-- A table of the file: its columns, and its rows, whatever they are. -/
structure FileTable (ρ : Type) where
  columns : List String
  rows : List ρ

/-- The database file of the integrations. -/
structure File (ρ : Type) where
  /-- `PRAGMA user_version` -/
  userVersion : Int
  tables : String → Option (FileTable ρ)
  indexes : List String

/-- A statement of the schema or of a migration. -/
inductive Statement where
  /-- `CREATE TABLE IF NOT EXISTS` -/
  | createTable (name : String) (columns : List String)
  /-- `CREATE INDEX IF NOT EXISTS` -/
  | createIndex (name table : String) (columns : List String)
  /-- `ALTER TABLE ADD COLUMN` -/
  | addColumn (table column : String)
  | stamp (version : Int)
deriving DecidableEq

variable {ρ : Type}

/-- What a statement makes of the file; `none` where it raises. -/
def Statement.exec (file : File ρ) : Statement → Option (File ρ)
  | .createTable name columns =>
    match file.tables name with
    | some _ => some file
    | none => some { file with tables := Function.update file.tables name (some ⟨columns, []⟩) }
  | .createIndex name table columns =>
    if name ∈ file.indexes then some file
    else
      match file.tables table with
      | none => none
      | some t =>
        if columns.all (· ∈ t.columns) then some { file with indexes := name :: file.indexes } else none
  | .addColumn table column =>
    match file.tables table with
    | none => none
    | some t =>
      if column ∈ t.columns then none
      else some { file with
        tables := Function.update file.tables table (some { t with columns := t.columns ++ [column] }) }
  | .stamp version => some { file with userVersion := version }

/-- The statements, one after the other; whether all of them went through. -/
def execute : List Statement → File ρ → File ρ × Bool
  | [], file => (file, true)
  | statement :: statements, file =>
    match statement.exec file with
    | none => (file, false)
    | some file => execute statements file

/-! ### `IntegrationStore` -/

/-- The version that the code is written for. -/
def schemaVersion : Int := 2

/-- The columns of `provider_accounts`. -/
def accountColumns : List String :=
  ["account_id", "owner_id", "kind", "label", "status", "error", "choices_json", "created_at_ms",
    "last_seen_ms"]

/-- The columns of `credentials`. -/
def credentialColumns : List String := ["account_id", "key", "nonce", "ciphertext", "updated_at_ms"]

/-- The columns of `receipts`, with the one that the migration adds. -/
def receiptColumns : List String :=
  ["owner_id", "scope", "request_id", "fingerprint", "submitted_at_ms", "provider_started_at_ms",
    "provider_returned_at_ms", "confirmed_at_ms", "completed_at_ms", "result_json", "reconciled_at_ms"]

/-- The columns of `observations`. -/
def observationColumns : List String :=
  ["owner_id", "target", "reachable", "state_json", "observed_at_ms", "seq"]

/-- `_SCHEMA` -/
def schema : List Statement :=
  [.createTable "provider_accounts" accountColumns,
    .createIndex "ix_provider_accounts_owner" "provider_accounts" ["owner_id"],
    .createTable "credentials" credentialColumns,
    .createTable "receipts" receiptColumns,
    .createIndex "ix_receipts_submitted" "receipts" ["submitted_at_ms"],
    .createTable "observations" observationColumns,
    .createIndex "ix_observations_owner_seq" "observations" ["owner_id", "seq"]]

/-- The statements of `initialize` on a file of this version; `none` where it raises before. -/
def initializeStatements (version : Int) : Option (List Statement) :=
  if version ∈ [0, 1, schemaVersion] then
    some (schema ++ (if version = 1 then [.addColumn "receipts" "reconciled_at_ms"] else []) ++
      [.stamp schemaVersion])
  else none

/-- How a start ends. -/
inductive Ending where
  | opened
  | unsupported
  | raised
  | died
deriving DecidableEq

/-- A start, which may die behind some of the statements. -/
def start (file : File ρ) (dies : Option Nat) : File ρ × Ending :=
  match initializeStatements file.userVersion with
  | none => (file, .unsupported)
  | some statements =>
    match dies with
    | none =>
      match execute statements file with
      | (file, true) => (file, .opened)
      | (file, false) => (file, .raised)
    | some k =>
      match execute (statements.take k) file with
      | (file, true) => (file, .died)
      | (file, false) => (file, .raised)

/-- The file after these starts. -/
def started (file : File ρ) (starts : List (Option Nat)) : File ρ :=
  run (fun file dies => (start file dies).1) file starts

/-! ### Files of each version -/

/-- The columns of each table of the schema. -/
def columnsOf : String → List String
  | "provider_accounts" => accountColumns
  | "credentials" => credentialColumns
  | "receipts" => receiptColumns
  | "observations" => observationColumns
  | _ => []

/-- The columns of each table in version 1. -/
def columnsOfV1 (name : String) : List String := (columnsOf name).filter (· ≠ "reconciled_at_ms")

/-- The tables of the schema. -/
def tableNames : List String := ["provider_accounts", "credentials", "receipts", "observations"]

/-- The indexes of the schema. -/
def indexNames : List String :=
  ["ix_provider_accounts_owner", "ix_receipts_submitted", "ix_observations_owner_seq"]

/-- The tables of the schema that are there have these columns. -/
def Fits (columns : String → List String) (file : File ρ) : Prop :=
  ∀ name ∈ tableNames, ∀ t, file.tables name = some t → t.columns = columns name

/-- These tables are there. -/
def Has (file : File ρ) (names : List String) : Prop := ∀ name ∈ names, (file.tables name).isSome = true

/-- A file that a start has opened. -/
structure Complete (file : File ρ) : Prop where
  version : file.userVersion = schemaVersion
  fits : Fits columnsOf file
  tables : Has file tableNames
  indexes : ∀ name ∈ indexNames, name ∈ file.indexes

/-- A file of version 1, with the column of version 2. -/
structure Torn (file : File ρ) : Prop where
  version : file.userVersion = 1
  fits : Fits columnsOf file
  tables : Has file tableNames
  indexes : ∀ name ∈ indexNames, name ∈ file.indexes

/-- A file that no start has opened yet, one of version 1, and one of version 2. -/
inductive Sound (file : File ρ) : Prop where
  | fresh (version : file.userVersion = 0) (fits : Fits columnsOf file)
  | v1 (version : file.userVersion = 1) (fits : Fits columnsOfV1 file) (receipts : Has file ["receipts"])
  | complete (complete : Complete file)

/-- Every table that was there is there, with its rows. -/
def Keeps (file file' : File ρ) : Prop :=
  ∀ name t, file.tables name = some t → ∃ t', file'.tables name = some t' ∧ t'.rows = t.rows

theorem Keeps.refl (file : File ρ) : Keeps file file := fun _ t h => ⟨t, h, rfl⟩

theorem Keeps.trans {file file' file'' : File ρ} (h : Keeps file file') (h' : Keeps file' file'') :
    Keeps file file'' := by
  intro name t ht
  obtain ⟨t', ht', hrows⟩ := h name t ht
  obtain ⟨t'', ht'', hrows'⟩ := h' name t' ht'
  exact ⟨t'', ht'', hrows'.trans hrows⟩

/-! ### The script -/

theorem execute_append {as bs : List Statement} {file file' : File ρ} (h : execute as file = (file', true)) :
    execute (as ++ bs) file = execute bs file' := by
  induction as generalizing file with
  | nil =>
    cases h
    rfl
  | cons a as ih =>
    rw [execute] at h
    rw [List.cons_append, execute]
    cases hexec : a.exec file with
    | none => simp [hexec] at h
    | some file₁ =>
      rw [hexec] at h
      exact ih h

/-- Statements that find everything done. -/
theorem execute_done {statements : List Statement} {file : File ρ}
    (h : ∀ statement ∈ statements, statement.exec file = some file) :
    execute statements file = (file, true) := by
  induction statements with
  | nil => rfl
  | cons statement statements ih =>
    rw [execute, h statement List.mem_cons_self]
    exact ih fun s hs => h s (List.mem_cons_of_mem _ hs)

/-- The script can run where these tables are there: it makes each index on a table that is there by
then, and each table with these columns unless it is there already. -/
def Ready (columns : String → List String) : List String → List Statement → Bool
  | _, [] => true
  | present, .createTable name made :: rest =>
    decide (name ∈ present ∨ made = columns name) && Ready columns (name :: present) rest
  | present, .createIndex _ table indexed :: rest =>
    decide (table ∈ present ∧ table ∈ tableNames ∧ ∀ column ∈ indexed, column ∈ columns table) &&
      Ready columns present rest
  | _, _ :: _ => false

/-- What a script makes: everything it names, and nothing else. -/
structure Brought (columns : String → List String) (statements : List Statement) (file file' : File ρ) :
    Prop where
  version : file'.userVersion = file.userVersion
  fits : Fits columns file'
  kept : ∀ name t, file.tables name = some t → file'.tables name = some t
  tables : ∀ name made, .createTable name made ∈ statements → (file'.tables name).isSome = true
  indexes : ∀ name, name ∈ file.indexes ∨ (∃ table indexed, .createIndex name table indexed ∈ statements) →
    name ∈ file'.indexes

theorem Has.cons {file : File ρ} {name : String} {names : List String}
    (hname : (file.tables name).isSome = true)
    (h : Has file names) : Has file (name :: names) := by
  intro n hn
  obtain rfl | hn := List.mem_cons.mp hn
  · exact hname
  · exact h n hn

theorem execute_ready {columns : String → List String} {present : List String} {statements : List Statement}
    {file : File ρ} (hready : Ready columns present statements = true) (hfits : Fits columns file)
    (hpresent : Has file present) :
    ∃ file', execute statements file = (file', true) ∧ Brought columns statements file file' := by
  induction statements generalizing present file with
  | nil =>
    exact ⟨file, rfl, rfl, hfits, fun _ _ => id, by simp, by simp⟩
  | cons statement rest ih =>
    cases statement with
    | addColumn | stamp => cases hready
    -- a table that is there is left alone; one that is not is made empty, with the columns asked
    -- for
    | createTable name made =>
      simp only [Ready, Bool.and_eq_true, decide_eq_true_eq] at hready
      obtain ⟨hmade, hready⟩ := hready
      cases htable : file.tables name with
      | some t =>
        have hexec : Statement.exec file (.createTable name made) = some file := by
          simp [Statement.exec, htable]
        obtain ⟨file', hexecute, hbrought⟩ := ih hready hfits (hpresent.cons (by rw [htable]; rfl))
        refine ⟨file', by rw [execute, hexec]; exact hexecute, hbrought.version, hbrought.fits, hbrought.kept,
          fun n m hmem => ?_, fun n hn => ?_⟩
        · obtain heq | hmem := List.mem_cons.mp hmem
          · cases heq
            rw [hbrought.kept name t htable]
            rfl
          · exact hbrought.tables n m hmem
        · exact hbrought.indexes n (hn.imp_right fun ⟨t, c, hmem⟩ => ⟨t, c, by simpa using hmem⟩)
      | none =>
        obtain ⟨made_file, hmade_file⟩ : ∃ f : File ρ,
          f = { file with tables := Function.update file.tables name (some ⟨made, []⟩) } := ⟨_, rfl⟩
        have hexec : Statement.exec file (.createTable name made) = some made_file := by
          simp [Statement.exec, htable, hmade_file]
        have hself : made_file.tables name = some ⟨made, []⟩ := by simp [hmade_file]
        have hother (n : String) (hn : n ≠ name) : made_file.tables n = file.tables n := by
          simp [hmade_file, hn]
        have habsent : name ∉ present := fun hmem => by
          have hsome := hpresent name hmem
          rw [htable] at hsome
          cases hsome
        have hfits' : Fits columns made_file := by
          intro n hn t ht
          by_cases hname : n = name
          · subst hname
            rw [hself] at ht
            cases ht
            exact hmade.resolve_left habsent
          · rw [hother n hname] at ht
            exact hfits n hn t ht
        have hpresent' : Has made_file (name :: present) := by
          refine Has.cons (by rw [hself]; rfl) fun n hn => ?_
          rw [hother n fun hname => habsent (hname ▸ hn)]
          exact hpresent n hn
        obtain ⟨file', hexecute, hbrought⟩ := ih hready hfits' hpresent'
        have hversion : made_file.userVersion = file.userVersion := by simp [hmade_file]
        have hindexes : made_file.indexes = file.indexes := by simp [hmade_file]
        refine ⟨file', by rw [execute, hexec]; exact hexecute, hbrought.version.trans hversion, hbrought.fits,
          fun n t ht => hbrought.kept n t ?_, fun n m hmem => ?_, fun n hn => hbrought.indexes n ?_⟩
        · have hn : n ≠ name := by
            rintro rfl
            rw [htable] at ht
            cases ht
          rwa [hother n hn]
        · obtain heq | hmem := List.mem_cons.mp hmem
          · cases heq
            rw [hbrought.kept name _ hself]
            rfl
          · exact hbrought.tables n m hmem
        · rw [hindexes]
          exact hn.imp_right fun ⟨t, c, hmem⟩ => ⟨t, c, by simpa using hmem⟩
    -- `Ready` says that the table was made before and has the columns, so SQLite takes the index
    | createIndex name table indexed =>
      simp only [Ready, Bool.and_eq_true, decide_eq_true_eq] at hready
      obtain ⟨⟨htable, hknown, hcolumns⟩, hready⟩ := hready
      obtain ⟨t, ht⟩ := Option.isSome_iff_exists.mp (hpresent table htable)
      obtain ⟨indexed_file, hexec, hversion, htables, hindexes⟩ : ∃ f : File ρ,
          Statement.exec file (.createIndex name table indexed) = some f ∧ f.userVersion = file.userVersion ∧
            f.tables = file.tables ∧ ∀ n, n ∈ file.indexes ∨ n = name → n ∈ f.indexes := by
        by_cases hmem : name ∈ file.indexes
        · refine ⟨file, by simp [Statement.exec, hmem], rfl, rfl, fun n hn => ?_⟩
          obtain hn | rfl := hn
          · exact hn
          · exact hmem
        · have hall : indexed.all (· ∈ t.columns) = true := by
            rw [List.all_eq_true]
            intro column hcolumn
            rw [decide_eq_true_eq, hfits table hknown t ht]
            exact hcolumns column hcolumn
          refine ⟨{ file with indexes := name :: file.indexes }, ?_, rfl, rfl, fun n hn => ?_⟩
          · simp only [Statement.exec, if_neg hmem, ht, if_pos hall]
          · obtain hn | rfl := hn
            · exact List.mem_cons_of_mem _ hn
            · exact List.mem_cons_self
      have hfits' : Fits columns indexed_file := fun n hn t ht => hfits n hn t (htables ▸ ht)
      have hpresent' : Has indexed_file present := fun n hn => htables ▸ hpresent n hn
      obtain ⟨file', hexecute, hbrought⟩ := ih hready hfits' hpresent'
      refine ⟨file', by rw [execute, hexec]; exact hexecute, hbrought.version.trans hversion, hbrought.fits,
        fun n t ht => hbrought.kept n t (htables ▸ ht), fun n m hmem => ?_, fun n hn => hbrought.indexes n ?_⟩
      · exact hbrought.tables n m (by simpa using hmem)
      · obtain hn | ⟨t, c, hmem⟩ := hn
        · exact .inl (hindexes n (.inl hn))
        · obtain heq | hmem := List.mem_cons.mp hmem
          · cases heq
            exact .inl (hindexes _ (.inr rfl))
          · exact .inr ⟨t, c, hmem⟩

/-- A script that can run can run to any of its statements. -/
theorem Ready.take {columns : String → List String} {statements : List Statement} {present : List String}
    (h : Ready columns present statements = true) (k : Nat) :
    Ready columns present (statements.take k) = true := by
  induction statements generalizing present k with
  | nil => rw [List.take_nil]; rfl
  | cons statement rest ih =>
    cases k with
    | zero => rfl
    | succ k =>
      rw [List.take_succ_cons]
      cases statement with
      | addColumn | stamp => cases h
      | createTable | createIndex =>
        simp only [Ready, Bool.and_eq_true] at h ⊢
        exact ⟨h.1, ih h.2 k⟩

/-! ### One start -/

/-- The statement behind which the column is there and the stamp is not. -/
def tornPoint : Nat := schema.length + 1

theorem schema_ready : Ready columnsOf [] schema = true := by decide

theorem schema_ready_v1 : Ready columnsOfV1 ["receipts"] schema = true := by decide

theorem schema_tables : ∀ name ∈ tableNames, .createTable name (columnsOf name) ∈ schema := by decide

theorem schema_indexes : ∀ name ∈ indexNames, ∃ table indexed, .createIndex name table indexed ∈ schema := by
  intro name hname
  simp only [indexNames, List.mem_cons, List.not_mem_nil, or_false] at hname
  obtain rfl | rfl | rfl := hname
  · exact ⟨"provider_accounts", ["owner_id"], by decide⟩
  · exact ⟨"receipts", ["submitted_at_ms"], by decide⟩
  · exact ⟨"observations", ["owner_id", "seq"], by decide⟩

section Starts

variable {file file' : File ρ} {dies : Option Nat} {columns : String → List String} {present : List String}

/-- The whole script brings every table and every index. -/
theorem Brought.all (h : Brought columns schema file file') :
    Has file' tableNames ∧ ∀ name ∈ indexNames, name ∈ file'.indexes := by
  exact ⟨fun name hname => h.tables name _ (schema_tables name hname),
    fun name hname => h.indexes name (.inr (schema_indexes name hname))⟩

theorem Brought.keeps {statements : List Statement} (h : Brought columns statements file file') :
    Keeps file file' :=
  fun name t ht => ⟨t, h.kept name t ht, rfl⟩

/-- How a start ends of which no statement raises. -/
theorem start_eq (file' : File ρ) (dies : Option Nat) {statements : List Statement}
    (hstatements : initializeStatements file.userVersion = some statements)
    (hexecute : execute (statements.take (dies.getD statements.length)) file = (file', true)) :
    start file dies = (file', if dies = none then .opened else .died) := by
  unfold start
  rw [hstatements]
  cases dies with
  | none =>
    rw [Option.getD_none, List.take_length] at hexecute
    simp [hexecute]
  | some k =>
    rw [Option.getD_some] at hexecute
    simp [hexecute]

/-- A file that stays as complete as it was. -/
theorem Brought.sound {k : Nat} (h : Brought columns (schema.take k) file file')
    (hfile : file.userVersion = 0 ∧ columns = columnsOf ∨
      file.userVersion = 1 ∧ columns = columnsOfV1 ∧ Has file ["receipts"] ∨
      Complete file ∧ columns = columnsOf) : Sound file' := by
  have hhas {names : List String} (hnames : Has file names) : Has file' names := by
    intro name hname
    obtain ⟨t, ht⟩ := Option.isSome_iff_exists.mp (hnames name hname)
    rw [h.kept name t ht]
    rfl
  obtain ⟨hversion, rfl⟩ | ⟨hversion, rfl, hreceipts⟩ | ⟨hcomplete, rfl⟩ := hfile
  · exact .fresh (h.version.trans hversion) h.fits
  · exact .v1 (h.version.trans hversion) h.fits (hhas hreceipts)
  · exact .complete ⟨h.version.trans hcomplete.version, h.fits, hhas hcomplete.tables,
      fun name hname => h.indexes name (.inl (hcomplete.indexes name hname))⟩

/-- The column of version 2. -/
theorem add_column (h : Brought columnsOfV1 schema file file') (hversion : file.userVersion = 1) :
    ∃ added, Statement.exec file' (.addColumn "receipts" "reconciled_at_ms") = some added ∧
      Keeps file' added ∧ Torn added := by
  obtain ⟨htables, hindexes⟩ := h.all
  obtain ⟨t, ht⟩ := Option.isSome_iff_exists.mp (htables "receipts" (by decide))
  have hcolumns : t.columns = columnsOfV1 "receipts" := h.fits "receipts" (by decide) t ht
  -- the table is still that of version 1, without the column
  have hnew : "reconciled_at_ms" ∉ t.columns := by
    rw [hcolumns]
    decide
  obtain ⟨added, hadded⟩ : ∃ added : File ρ, added = { file' with
      tables := Function.update file'.tables "receipts"
        (some { t with columns := t.columns ++ ["reconciled_at_ms"] }) } := ⟨_, rfl⟩
  have hself : added.tables "receipts" = some { t with columns := t.columns ++ ["reconciled_at_ms"] } := by
    simp [hadded]
  have hother (name : String) (hname : name ≠ "receipts") : added.tables name = file'.tables name := by
    simp [hadded, hname]
  refine ⟨added, by simp only [Statement.exec, ht, if_neg hnew, hadded], fun name u hu => ?_, ?_,
    fun name hname u hu => ?_, fun name hname => ?_, fun name hname => ?_⟩
  · by_cases hreceipts : name = "receipts"
    · subst hreceipts
      obtain rfl : t = u := Option.some.inj (ht.symm.trans hu)
      exact ⟨_, hself, rfl⟩
    · exact ⟨u, (hother name hreceipts).trans hu, rfl⟩
  · rw [hadded]
    exact h.version.trans hversion
  · by_cases hreceipts : name = "receipts"
    · subst hreceipts
      obtain rfl := Option.some.inj (hself.symm.trans hu)
      show t.columns ++ ["reconciled_at_ms"] = _
      rw [hcolumns]
      decide
    · have hcolumns := h.fits name hname u ((hother name hreceipts).symm.trans hu)
      rw [hcolumns]
      revert hreceipts hname
      clear * -
      revert name
      decide
  · by_cases hreceipts : name = "receipts"
    · subst hreceipts
      exact congrArg Option.isSome hself
    · exact (congrArg Option.isSome (hother name hreceipts)).trans (htables name hname)
  · rw [hadded]
    exact hindexes name hname

/-- A start of a file that has no column to gain. -/
theorem start_plain (hfile : file.userVersion = 0 ∧ Fits columnsOf file ∨ Complete file) (dies : Option Nat) :
    Keeps file (start file dies).1 ∧ Sound (start file dies).1 ∧
      (dies = none → (start file dies).2 = .opened ∧ Complete (start file dies).1) := by
  have hstatements : initializeStatements file.userVersion = some (schema ++ [.stamp schemaVersion]) := by
    obtain ⟨h, -⟩ | h := hfile
    · rw [h]
      rfl
    · rw [h.version]
      rfl
  have hfits : Fits columnsOf file := hfile.elim And.right Complete.fits
  obtain ⟨n, hn⟩ : ∃ n, dies.getD (schema ++ [Statement.stamp schemaVersion]).length = n := ⟨_, rfl⟩
  by_cases hle : n ≤ schema.length
  · obtain ⟨f, hexecute, hbrought⟩ := execute_ready (Ready.take schema_ready n) hfits (by simp [Has])
    have hstart := start_eq f dies hstatements
      (by rw [hn, List.take_append_of_le_length hle]; exact hexecute)
    rw [hstart]
    refine ⟨hbrought.keeps, hbrought.sound ?_, ?_⟩
    · exact hfile.imp (fun h => ⟨h.1, rfl⟩) fun h => .inr ⟨h, rfl⟩
    · rintro rfl
      rw [Option.getD_none, List.length_append, List.length_singleton] at hn
      omega
  · obtain ⟨f, hexecute, hbrought⟩ := execute_ready schema_ready hfits (by simp [Has])
    have hcomplete : Complete { f with userVersion := schemaVersion } :=
      ⟨rfl, hbrought.fits, hbrought.all.1, hbrought.all.2⟩
    have hstart := start_eq { f with userVersion := schemaVersion } dies hstatements (by
      rw [hn, List.take_of_length_le (by rw [List.length_append, List.length_singleton]; omega),
        execute_append hexecute]
      rfl)
    rw [hstart]
    exact ⟨hbrought.keeps, .complete hcomplete, fun h => ⟨if_pos h, hcomplete⟩⟩

/-- A start of a file of version 1. -/
theorem start_v1 (hversion : file.userVersion = 1) (hfits : Fits columnsOfV1 file)
    (hreceipts : Has file ["receipts"]) (dies : Option Nat) :
    Keeps file (start file dies).1 ∧
      (dies = some tornPoint → Torn (start file dies).1) ∧
      (dies ≠ some tornPoint → Sound (start file dies).1) ∧
      (dies = none → (start file dies).2 = .opened ∧ Complete (start file dies).1) := by
  have hstatements : initializeStatements file.userVersion = some (schema ++
      [.addColumn "receipts" "reconciled_at_ms", .stamp schemaVersion]) := by
    rw [hversion]
    rfl
  obtain ⟨n, hn⟩ : ∃ n, dies.getD (schema ++
    [Statement.addColumn "receipts" "reconciled_at_ms", .stamp schemaVersion]).length = n := ⟨_, rfl⟩
  obtain ⟨f, hexecute, hbrought⟩ := execute_ready schema_ready_v1 hfits hreceipts
  obtain ⟨added, hadd, hkeeps, htorn⟩ := add_column hbrought hversion
  by_cases hle : n ≤ schema.length
  · -- it dies within the script
    obtain ⟨f, hexecute, hbrought⟩ := execute_ready (Ready.take schema_ready_v1 n) hfits hreceipts
    have hstart := start_eq f dies hstatements
      (by rw [hn, List.take_append_of_le_length hle]; exact hexecute)
    have hdies : dies ≠ some tornPoint ∧ dies ≠ none := by
      refine ⟨?_, ?_⟩ <;> rintro rfl
      · rw [Option.getD_some, tornPoint] at hn
        omega
      · rw [Option.getD_none, List.length_append, List.length_cons, List.length_singleton] at hn
        omega
    rw [hstart]
    exact ⟨hbrought.keeps, fun h => absurd h hdies.1,
      fun _ => hbrought.sound (.inr (.inl ⟨hversion, rfl, hreceipts⟩)), fun h => absurd h hdies.2⟩
  -- it dies after the column and before the stamp
  by_cases htear : n = tornPoint
  · have htake : (schema ++ [Statement.addColumn "receipts" "reconciled_at_ms", .stamp schemaVersion]).take n =
        schema ++ [Statement.addColumn "receipts" "reconciled_at_ms"] := by
      rw [htear]
      decide
    have hstart := start_eq added dies hstatements (by
      rw [hn, htake, execute_append hexecute, execute, hadd]
      rfl)
    have hdies : dies = some tornPoint := by
      cases dies with
      | none =>
        rw [Option.getD_none] at hn
        rw [htear] at hn
        exact absurd hn (by decide)
      | some k =>
        rw [Option.getD_some] at hn
        rw [hn, htear]
    rw [hstart]
    refine ⟨hbrought.keeps.trans hkeeps, fun _ => htorn, fun h => absurd hdies h, fun h => ?_⟩
    rw [hdies] at h
    cases h
  -- it gets past the stamp
  · have hcomplete : Complete { added with userVersion := schemaVersion } :=
      ⟨rfl, htorn.fits, htorn.tables, htorn.indexes⟩
    have hlast :
        (schema ++ [Statement.addColumn "receipts" "reconciled_at_ms", .stamp schemaVersion]).length ≤ n := by
      rw [List.length_append, List.length_cons, List.length_singleton]
      rw [tornPoint] at htear
      omega
    have hstart := start_eq { added with userVersion := schemaVersion } dies hstatements (by
      rw [hn, List.take_of_length_le hlast, execute_append hexecute, execute, hadd]
      rfl)
    have hdies : dies ≠ some tornPoint := by
      rintro rfl
      exact htear hn.symm
    rw [hstart]
    exact ⟨hbrought.keeps.trans hkeeps, fun h => absurd h hdies, fun _ => .complete hcomplete,
      fun h => ⟨if_pos h, hcomplete⟩⟩

/-- **A start** of a sound file keeps its rows; it leaves a sound file, except where it dies between the
column and the stamp; and where it does not die, it opens the file. -/
theorem start_sound (h : Sound file) (dies : Option Nat) :
    Keeps file (start file dies).1 ∧
      (dies = some tornPoint ∧ file.userVersion = 1 → Torn (start file dies).1) ∧
      (¬ (dies = some tornPoint ∧ file.userVersion = 1) → Sound (start file dies).1) ∧
      (dies = none → (start file dies).2 = .opened ∧ Complete (start file dies).1) := by
  cases h with
  | fresh hversion hfits =>
    obtain ⟨hkeeps, hsound, hopens⟩ := start_plain (.inl ⟨hversion, hfits⟩) dies
    refine ⟨hkeeps, fun h => ?_, fun _ => hsound, hopens⟩
    rw [hversion] at h
    exact absurd h.2 (by decide)
  | complete hcomplete =>
    obtain ⟨hkeeps, hsound, hopens⟩ := start_plain (.inr hcomplete) dies
    refine ⟨hkeeps, fun h => ?_, fun _ => hsound, hopens⟩
    rw [hcomplete.version] at h
    exact absurd h.2 (by decide)
  | v1 hversion hfits hreceipts =>
    obtain ⟨hkeeps, htears, hsound, hopens⟩ := start_v1 hversion hfits hreceipts dies
    exact ⟨hkeeps, fun h => htears h.1, fun h => hsound fun hdies => h ⟨hdies, hversion⟩, hopens⟩

/-- **A torn file** stays as it is: no start opens it. -/
theorem start_torn (h : Torn file) (dies : Option Nat) :
    (start file dies).1 = file ∧ (start file dies).2 ≠ .opened := by
  have hstatements : initializeStatements file.userVersion = some (schema ++
      [.addColumn "receipts" "reconciled_at_ms", .stamp schemaVersion]) := by
    rw [h.version]
    rfl
  -- the script finds everything in place and changes nothing
  have hdone : ∀ statement ∈ schema, statement.exec file = some file := by
    have htable {name : String} {made : List String} (hname : name ∈ tableNames) :
        Statement.exec file (.createTable name made) = some file := by
      obtain ⟨t, ht⟩ := Option.isSome_iff_exists.mp (h.tables name hname)
      simp [Statement.exec, ht]
    have hindex {name table : String} {indexed : List String} (hname : name ∈ indexNames) :
        Statement.exec file (.createIndex name table indexed) = some file :=
      if_pos (h.indexes name hname)
    intro statement hmem
    simp only [schema, List.mem_cons, List.not_mem_nil, or_false] at hmem
    obtain rfl | rfl | rfl | rfl | rfl | rfl | rfl := hmem
    · exact htable (by decide)
    · exact hindex (by decide)
    · exact htable (by decide)
    · exact htable (by decide)
    · exact hindex (by decide)
    · exact htable (by decide)
    · exact hindex (by decide)
  -- the column is there already, and SQLite has no `ADD COLUMN IF NOT EXISTS`
  have hadd : Statement.exec file (.addColumn "receipts" "reconciled_at_ms") = none := by
    obtain ⟨t, ht⟩ := Option.isSome_iff_exists.mp (h.tables "receipts" (by decide))
    have hmem : "reconciled_at_ms" ∈ t.columns := by
      rw [h.fits "receipts" (by decide) t ht]
      decide
    simp [Statement.exec, ht, hmem]
  have hraise (rest : List Statement) : execute (schema ++
      Statement.addColumn "receipts" "reconciled_at_ms" :: rest) file = (file, false) := by
    rw [execute_append (execute_done hdone), execute, hadd]
  unfold start
  rw [hstatements]
  cases dies with
  | none =>
    dsimp only
    rw [hraise]
    exact ⟨rfl, by simp⟩
  | some k =>
    dsimp only
    by_cases hle : k ≤ schema.length
    · rw [List.take_append_of_le_length hle,
        execute_done fun statement hmem => hdone statement (List.mem_of_mem_take hmem)]
      exact ⟨rfl, by simp⟩
    · obtain ⟨l, rfl⟩ : ∃ l, k = schema.length + (l + 1) := ⟨k - schema.length - 1, by omega⟩
      rw [List.take_length_add_append, List.take_succ_cons, hraise]
      exact ⟨rfl, by simp⟩

end Starts

/-! ### Every sequence of starts -/

section Runs

variable {file : File ρ}

theorem started_concat (starts : List (Option Nat)) (dies : Option Nat) :
    started file (starts ++ [dies]) = (start (started file starts) dies).1 :=
  run_concat ..

/-- Some start died between the column and the stamp, on a file of version 1. -/
def Tears (file : File ρ) (starts : List (Option Nat)) : Prop :=
  ∃ pre post, starts = pre ++ some tornPoint :: post ∧ (started file pre).userVersion = 1

theorem tears_concat {starts : List (Option Nat)} {dies : Option Nat} :
    Tears file (starts ++ [dies]) ↔
      Tears file starts ∨ dies = some tornPoint ∧ (started file starts).userVersion = 1 := by
  constructor
  · rintro ⟨pre, post, heq, hversion⟩
    cases post using List.reverseRec with
    | nil =>
      obtain ⟨rfl, hdies⟩ := List.append_inj' heq rfl
      exact .inr ⟨List.singleton_inj.mp hdies, hversion⟩
    | append_singleton post last =>
      rw [← List.cons_append, ← List.append_assoc] at heq
      exact .inl ⟨pre, post, (List.append_inj' heq rfl).1, hversion⟩
  · rintro (⟨pre, post, rfl, hversion⟩ | ⟨rfl, hversion⟩)
    · exact ⟨pre, post ++ [dies], by simp, hversion⟩
    · exact ⟨starts, [], rfl, hversion⟩

/-- What a sequence of starts leaves. -/
theorem started_sound (h : Sound file) (starts : List (Option Nat)) :
    Keeps file (started file starts) ∧ (Tears file starts → Torn (started file starts)) ∧
      (¬ Tears file starts → Sound (started file starts)) := by
  induction starts using List.reverseRec with
  | nil =>
    refine ⟨Keeps.refl file, ?_, fun _ => h⟩
    rintro ⟨pre, post, heq, -⟩
    exact absurd heq (by simp)
  | append_singleton starts dies ih =>
    obtain ⟨hkeeps, htorn, hsound⟩ := ih
    rw [started_concat, tears_concat]
    by_cases htears : Tears file starts
    · have hstill := (start_torn (htorn htears) dies).1
      rw [hstill]
      exact ⟨hkeeps, fun _ => htorn htears, fun h => absurd (.inl htears) h⟩
    · obtain ⟨hkeeps', htorn', hsound', -⟩ := start_sound (hsound htears) dies
      exact ⟨hkeeps.trans hkeeps', fun h => htorn' (h.resolve_left htears),
        fun h => hsound' fun hd => h (.inr hd)⟩

/-- **Starts that die.** Of a sound file, every sequence of starts, of which each may die anywhere,
keeps the rows. Unless one of them dies between the new column and the stamp of version 2, the next
start that does not die opens the file, with every table and index of the schema. If one does, the file
stays as it is from there on, and no start ever opens it. -/
theorem initialize_recovers (h : Sound file) (starts : List (Option Nat)) :
    Keeps file (started file starts) ∧
      (¬ Tears file starts → (start (started file starts) none).2 = .opened ∧
        Complete (start (started file starts) none).1) ∧
      (Tears file starts → ∀ later dies, started file (starts ++ later) = started file starts ∧
        (start (started file (starts ++ later)) dies).2 ≠ .opened) := by
  obtain ⟨hkeeps, htorn, hsound⟩ := started_sound h starts
  refine ⟨hkeeps, fun htears => (start_sound (hsound htears) none).2.2.2 rfl, fun htears later dies => ?_⟩
  have hstill : started file (starts ++ later) = started file starts := by
    induction later using List.reverseRec with
    | nil => rw [List.append_nil]
    | append_singleton later last ih =>
      rw [← List.append_assoc, started_concat, ih, (start_torn (htorn htears) last).1]
  rw [hstill]
  exact ⟨rfl, (start_torn (htorn htears) dies).2⟩

end Runs

/-! ### A file of version 1 -/

/-- A file of the first version with a row in each table. -/
def Sample.receipts : File Nat where
  userVersion := 1
  tables name := if name ∈ tableNames then some ⟨columnsOfV1 name, [7]⟩ else none
  indexes := indexNames

theorem Sample.receipts_sound : Sound Sample.receipts := by
  refine .v1 rfl (fun name hname t ht => ?_)
    (by simp [Has, Sample.receipts, tableNames])
  simp only [Sample.receipts, if_pos hname, Option.some.injEq] at ht
  subst ht
  rfl

/-- The first start that brings the file up dies behind the new column. -/
theorem initialize_recovers_receipts :
    (start (started Sample.receipts ([some tornPoint] ++ [some 3, none])) none).2 ≠ .opened :=
  ((initialize_recovers Sample.receipts_sound [some tornPoint]).2.2
    ⟨[], [], rfl, rfl⟩ [some 3, none] none).2

end EidolonHub.Integration
