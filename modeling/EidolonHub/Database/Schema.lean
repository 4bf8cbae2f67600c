import EidolonHub.Library.Python
import Mathlib.Data.List.Nodup
import Mathlib.Data.List.Sort

/-!
# EidolonHub.Database.Schema

**The schema of a Hub database against the one this release declares.** What can be added
without a decision about existing rows is added; then everything this release reads must be
there, and nothing it does not know about may refuse its writes.

Changes of the schema are lists of statements: the database driver runs each on its own, so
what a start leaves of them when it dies is one of their beginnings.
-/

namespace EidolonHub.Database

open EidolonHub.Library.Python

/-- A column, as declared or as reflected. -/
structure Column where
  name : String
  /-- the type, compiled for the dialect, in capitals -/
  type : String
  nullable : Bool
  primaryKey : Bool
  /-- the default the database itself fills in -/
  default : Option String
  deriving DecidableEq, Repr

/-- An index of a table. -/
structure Index where
  name : String
  columns : List String
  unique : Bool
  deriving DecidableEq, Repr

/-- A table with its columns and its indexes. -/
structure TableSchema where
  name : String
  columns : List Column
  indexes : List Index
  deriving DecidableEq, Repr

namespace TableSchema

/-- The names of the columns of a table. -/
def columnNames (t : TableSchema) : List String := t.columns.map (·.name)

/-- The table with one more column, the last. -/
def addColumn (c : Column) (t : TableSchema) : TableSchema := { t with columns := t.columns ++ [c] }

/-- The table with one more index. -/
def addIndex (i : Index) (t : TableSchema) : TableSchema := { t with indexes := t.indexes ++ [i] }

end TableSchema

/-- The tables of a database. -/
abbrev Schema := List TableSchema

namespace Schema

/-- The names of the tables. -/
def names (s : Schema) : List String := s.map (·.name)

/-- The table of this name. -/
def table (s : Schema) (name : String) : Option TableSchema := s.find? (·.name = name)

/-- Apply `f` to the table with this name. -/
def onTable (s : Schema) (name : String) (f : TableSchema → TableSchema) : Schema :=
  s.map fun t => if t.name = name then f t else t

/-- The tables in the order of their names. -/
def sorted (s : Schema) : Schema := s.insertionSort fun t u => t.name ≤ u.name

end Schema

/-! ### Statements -/

/-- A statement that changes the schema. -/
inductive Statement where
  | createTable (table : TableSchema)
  | createIndex (table : String) (index : Index)
  | addColumn (table : String) (column : Column)
  deriving DecidableEq

/-- What a statement makes of the tables. -/
def Statement.run (s : Schema) : Statement → Schema
  | createTable t => s ++ [{ t with indexes := [] }]
  | createIndex name i => s.onTable name (·.addIndex i)
  -- a key is declared with the table, so a column that is added later is none
  | addColumn name c => s.onTable name (·.addColumn { c with primaryKey := false })

/-- What statements make of the tables, one after the other. -/
def runStatements (s : Schema) (statements : List Statement) : Schema :=
  statements.foldl Statement.run s

/-- `Table.create`. -/
def TableSchema.createStatements (t : TableSchema) : List Statement :=
  .createTable t :: t.indexes.map (.createIndex t.name)

/-- The table of the device directory. -/
def directoryTable : String := "hub_device_directory_v1"

/-- The tables this release declares, in the order it creates them. -/
structure Metadata where
  tables : Schema
  nodup : tables.names.Nodup
  nonempty : tables ≠ []
  /-- the directory declares the revision of a device's Manifest -/
  directory : ∀ t ∈ tables, t.name = directoryTable → "manifest_declared_revision" ∈ t.columnNames

namespace Metadata

variable (metadata : Metadata)

/-- `Base.metadata.create_all`. -/
def createAll : List Statement := metadata.tables.flatMap TableSchema.createStatements

/-- A column gets NULL or its own default in the rows there are. -/
def addable (c : Column) : Bool := c.nullable || c.default.isSome

/-- The declared columns that can be added to the tables there are. -/
def additiveColumns (s : Schema) : List Statement :=
  Schema.sorted metadata.tables |>.flatMap fun declared =>
    match s.table declared.name with
    | none => []
    | some actual =>
      (declared.columns.filter fun c => c.name ∉ actual.columnNames && addable c).map
        (.addColumn declared.name)

/-- The revision of a device's Manifest is 1 in the rows there are. -/
def directoryColumn (s : Schema) : List Statement :=
  match s.table directoryTable with
  | none => []
  | some actual =>
    if "manifest_declared_revision" ∈ actual.columnNames then []
    else [.addColumn directoryTable ⟨"manifest_declared_revision", "INTEGER", false, false, some "1"⟩]

/-- A table that may be created in a database that exists. -/
def creatable (name : String) : Bool :=
  startsWith "admission_" name || name = "hub_channel_revocation_delivery_v1"

/-- The tables of the metadata that are not there, in the order in which they are created. -/
def missingTables (s : Schema) : Schema :=
  (Schema.sorted metadata.tables).filter fun t => t.name ∉ s.names

/-- The missing tables, where all of them may be created. -/
def tableCreations (s : Schema) : List Statement :=
  if (metadata.missingTables s).all (creatable ·.name) then
    (metadata.missingTables s).flatMap TableSchema.createStatements
  else []

/-- What is added to a database that exists. -/
def upgradeStatements (s : Schema) : List Statement :=
  metadata.additiveColumns s ++ directoryColumn (runStatements s (metadata.additiveColumns s)) ++
    metadata.tableCreations s

/-- The tables after the additive upgrade. -/
def upgraded (s : Schema) : Schema := runStatements s (metadata.upgradeStatements s)

/-! ### The comparison -/

/-- Why a database cannot be used. -/
inductive SchemaProblem where
  | tablesMissing (names : List String)
  | columnsMissing (table : String) (names : List String)
  /-- columns this release cannot write and cannot leave empty -/
  | unwritable (table : String) (names : List String)
  | definitionsDiffer (table : String)
  | indexesMissing (table : String) (names : List String)
  /-- unique indexes this release did not declare and could be refused by -/
  | rejectingIndexes (table : String) (names : List String)
  deriving DecidableEq

/-- Name, type, nullability and key of a column. -/
def Column.contract (c : Column) : String × String × Bool × Bool :=
  (c.name, c.type, c.nullable, c.primaryKey)

/-- The two lists have the same members. -/
def sameMembers {α : Type} [DecidableEq α] (xs ys : List α) : Bool :=
  xs.all (· ∈ ys) && ys.all (· ∈ xs)

/-- `sorted(names)`. -/
def sortNames (names : List String) : List String := names.insertionSort (· ≤ ·)

/-- What keeps this release from using a table. -/
def tableProblems (declared actual : TableSchema) : List SchemaProblem :=
  let missing := declared.columnNames.filter (· ∉ actual.columnNames)
  if missing ≠ [] then [.columnsMissing declared.name (sortNames missing)]
  else
    let unwritable := actual.columns.filter fun c =>
      c.name ∉ declared.columnNames && !c.nullable && c.default.isNone
    let known := actual.columns.filter fun c => c.name ∈ declared.columnNames
    let absent := declared.indexes.filter (· ∉ actual.indexes)
    let rejecting := actual.indexes.filter fun i => i ∉ declared.indexes && i.unique
    (if unwritable ≠ [] then [.unwritable declared.name (sortNames (unwritable.map (·.name)))] else []) ++
      (if ¬ sameMembers (known.map Column.contract) (declared.columns.map Column.contract) then
        [.definitionsDiffer declared.name] else []) ++
      (if absent ≠ [] then [.indexesMissing declared.name (sortNames (absent.map (·.name)))] else []) ++
      (if rejecting ≠ [] then
        [.rejectingIndexes declared.name (sortNames (rejecting.map (·.name)))] else [])

/-- What keeps this release from using a database. -/
def problems (s : Schema) : List SchemaProblem :=
  let missing := metadata.tables.names.filter (· ∉ s.names)
  (if missing ≠ [] then [.tablesMissing (sortNames missing)] else []) ++
    (Schema.sorted metadata.tables).flatMap fun declared =>
      match s.table declared.name with
      | none => []
      | some actual => tableProblems declared actual

/-! ### A database of this release -/

theorem runStatements_append {s : Schema} {statements statements' : List Statement} :
    runStatements s (statements ++ statements') = runStatements (runStatements s statements) statements' :=
  List.foldl_append

theorem Schema.onTable_of_not_mem {s : Schema} {name : String} {f : TableSchema → TableSchema}
    (h : name ∉ s.names) : s.onTable name f = s := by
  refine (List.map_congr_left fun t ht => ?_).trans (List.map_id s)
  have hne : ¬ t.name = name := fun heq => h (heq ▸ List.mem_map_of_mem ht)
  rw [if_neg hne]
  rfl

/-- The indexes of a table are created one by one. -/
theorem run_createIndexes {s : Schema} {t : TableSchema} {indexes indexes' : List Index}
    (h : t.name ∉ s.names) :
    runStatements (s ++ [{ t with indexes }]) (indexes'.map (.createIndex t.name)) =
      s ++ [{ t with indexes := indexes ++ indexes' }] := by
  induction indexes' generalizing indexes with
  | nil => simp [runStatements]
  | cons i indexes' ih =>
    have hone : Statement.run (s ++ [{ t with indexes }]) (.createIndex t.name i) =
        s ++ [{ t with indexes := indexes ++ [i] }] := by
      show Schema.onTable (s ++ [_]) t.name _ = _
      have hs := Schema.onTable_of_not_mem (f := (·.addIndex i)) h
      unfold Schema.onTable at hs ⊢
      rw [List.map_append, hs]
      simp [TableSchema.addIndex]
    show runStatements (Statement.run _ _) _ = _
    rw [hone, ih, List.append_assoc]
    rfl

theorem run_createStatements {s : Schema} {t : TableSchema} (h : t.name ∉ s.names) :
    runStatements s t.createStatements = s ++ [t] := by
  have hindexes : runStatements (s ++ [{ t with indexes := [] }]) (t.indexes.map
      (.createIndex t.name)) = s ++ [{ t with indexes := [] ++ t.indexes }] := run_createIndexes h
  exact hindexes

theorem run_createTables {s tables : Schema} (hnodup : tables.names.Nodup)
    (hnew : ∀ t ∈ tables, t.name ∉ s.names) :
    runStatements s (tables.flatMap TableSchema.createStatements) = s ++ tables := by
  induction tables generalizing s with
  | nil => simp [runStatements]
  | cons t tables ih =>
    obtain ⟨hfresh, hnodup⟩ := List.nodup_cons.mp hnodup
    rw [List.forall_mem_cons] at hnew
    rw [List.flatMap_cons, runStatements_append, run_createStatements hnew.1, ih hnodup,
      List.append_assoc, List.singleton_append]
    intro u hu hmem
    rw [Schema.names, List.map_append, List.mem_append] at hmem
    rcases hmem with hold | hlast
    · exact hnew.2 u hu hold
    · have hname : u.name = t.name := by simpa using hlast
      have hmem : u.name ∈ tables.map (·.name) := List.mem_map_of_mem hu
      rw [hname] at hmem
      exact hfresh hmem

variable {metadata : Metadata}

/-- A database that was created has the tables that are declared. -/
theorem run_createAll : runStatements [] metadata.createAll = metadata.tables :=
  run_createTables metadata.nodup fun _ _ => List.not_mem_nil

theorem table_of_mem {t : TableSchema} (h : t ∈ metadata.tables) :
    Schema.table metadata.tables t.name = some t := by
  cases hfound : Schema.table metadata.tables t.name with
  | none =>
    have := List.find?_eq_none.mp hfound t h
    simp at this
  | some u =>
    have hname : u.name = t.name := by simpa using List.find?_some hfound
    rw [List.inj_on_of_nodup_map metadata.nodup (List.mem_of_find?_eq_some hfound) h hname]

theorem mem_sorted {s : Schema} {t : TableSchema} : t ∈ s.sorted ↔ t ∈ s := List.mem_insertionSort _

/-- **A database of this release is not changed**, -/
theorem upgradeStatements_tables : metadata.upgradeStatements metadata.tables = [] := by
  have hadditive : metadata.additiveColumns metadata.tables = [] := by
    refine List.flatMap_eq_nil_iff.mpr fun t ht => ?_
    rw [table_of_mem (mem_sorted.mp ht)]
    rw [List.map_eq_nil_iff, List.filter_eq_nil_iff]
    intro c hc
    have hmem : c.name ∈ t.columnNames := List.mem_map_of_mem hc
    simp [hmem]
  have hdirectory : directoryColumn metadata.tables = [] := by
    unfold directoryColumn
    split
    · rfl
    next actual hactual =>
      have hname : actual.name = directoryTable := by simpa using List.find?_some hactual
      exact if_pos (metadata.directory actual (List.mem_of_find?_eq_some hactual) hname)
  have hmissing : metadata.missingTables metadata.tables = [] := by
    refine List.filter_eq_nil_iff.mpr fun t ht => ?_
    have hmem : t.name ∈ Schema.names metadata.tables := List.mem_map_of_mem (mem_sorted.mp ht)
    simpa using hmem
  have hcreations : metadata.tableCreations metadata.tables = [] := by
    unfold tableCreations
    rw [hmissing]
    rfl
  rw [upgradeStatements, hadditive, hcreations, List.append_nil, List.nil_append]
  exact hdirectory

theorem sameMembers_self {α : Type} [DecidableEq α] (xs : List α) : sameMembers xs xs = true := by
  simp [sameMembers]

theorem tableProblems_self (t : TableSchema) : tableProblems t t = [] := by
  have hcolumns : t.columnNames.filter (· ∉ t.columnNames) = [] := by
    simp [List.filter_eq_nil_iff]
  have hknown : t.columns.filter (fun c => c.name ∈ t.columnNames) = t.columns := by
    rw [List.filter_eq_self]
    intro c hc
    exact decide_eq_true (List.mem_map_of_mem hc)
  have hunwritable : (t.columns.filter fun c =>
      c.name ∉ t.columnNames && !c.nullable && c.default.isNone) = [] := by
    rw [List.filter_eq_nil_iff]
    intro c hc
    have hmem : c.name ∈ t.columnNames := List.mem_map_of_mem hc
    simp [hmem]
  have habsent : t.indexes.filter (· ∉ t.indexes) = [] := by
    simp [List.filter_eq_nil_iff]
  have hrejecting : (t.indexes.filter fun i => i ∉ t.indexes && i.unique) = [] := by
    rw [List.filter_eq_nil_iff]
    intro i hi
    simp [hi]
  simp only [tableProblems, hcolumns, hknown, hunwritable, habsent, hrejecting, sameMembers_self,
    ne_eq, not_true_eq_false, if_false, List.append_nil]

/-- **and is accepted.** -/
theorem problems_tables : metadata.problems metadata.tables = [] := by
  have hmissing : (Schema.names metadata.tables).filter (· ∉ Schema.names metadata.tables) = [] := by
    simp [List.filter_eq_nil_iff]
  unfold problems
  simp only [hmissing]
  rw [if_neg (fun h => h rfl), List.nil_append]
  refine List.flatMap_eq_nil_iff.mpr fun t ht => ?_
  rw [table_of_mem (mem_sorted.mp ht)]
  exact tableProblems_self t

end Metadata

end EidolonHub.Database
