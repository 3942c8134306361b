import PartsList.Store.Basic

/-!
# Databases

The store as a database keeps it: in tables, any of which may be missing, and changed by
transactions, each of which takes effect as a whole or not at all.
-/

namespace PartsList

/-- A summary as it is read. -/
structure FileSummary where
  /-- The file. -/
  filePath : Path
  /-- Name of the file. -/
  fileName : String
  /-- The file yielded rows. -/
  success : Bool
  /-- The stage that failed. -/
  failingStage : Option Stage
  /-- Code of the outcome. -/
  errorCode : ErrorCode
  /-- The failure in words. -/
  errorMessage : Option String
  /-- Time spent, in milliseconds. -/
  durationMs : Nat
  /-- Number of rows. -/
  rowCount : Nat
  /-- Number of pages. -/
  pageCount : Nat
  /-- Size of the file. -/
  sizeBytes : Nat
  /-- Memory in use after the file. -/
  memoryPeakMb : Option Float
  /-- Which attempt the result is from. -/
  attempt : Nat

/-- Why a database does not answer. -/
inductive DatabaseError
  /-- The database refuses: it is none, a table is missing, or it cannot be written. -/
  | refused
  /-- A stored name stands for no value of its kind. -/
  | invalidName (field value : String)
  /-- The database cannot be brought to the current version. -/
  | migrationFailed (version : Nat) (reason : String)
  /-- The stored text of a row's cells cannot be read. -/
  | malformedCells
deriving DecidableEq, Repr

namespace DatabaseError

/-- The error in words. -/
def message : DatabaseError → String
  | refused => "SQLite error"
  | invalidName field value => "Invalid enum value for " ++ field ++ ": " ++ value
  | migrationFailed version reason =>
    "Migration failed at version " ++ toString version ++ ": " ++ reason
  | malformedCells => "Cell encoding error"

end DatabaseError

/-- The tables of a database. -/
inductive DatabaseTable
  /-- The table that records the version. -/
  | version
  /-- The table of rows. -/
  | rows
  /-- The table of summaries. -/
  | summaries
deriving DecidableEq, Repr

namespace DatabaseTable

/-- The table's name. -/
def name : DatabaseTable → String
  | version => "schema_version"
  | rows => "bom_rows"
  | summaries => "file_summaries"

/-- The table with the given name, whatever the case of its letters. -/
def ofName? (text : String) : Option DatabaseTable :=
  [version, rows, summaries].find? (·.name == text.toLower)

end DatabaseTable

/-- What one transaction touched. -/
structure UpsertCounts where
  /-- Number of results. -/
  results : Nat
  /-- Number of rows written. -/
  rows : Nat
deriving DecidableEq, Repr

namespace UpsertCounts

/-- What a transaction with the given results touches. -/
def ofResults (results : List ExtractionResult) : UpsertCounts where
  results := results.length
  rows := (results.map fun result => if result.success then result.rowCount else 0).foldr (· + ·) 0

end UpsertCounts

/-- A database: its tables, as far as it has them, and the verdicts it will give on coming
transactions for reasons of its own, true standing for a refusal. -/
structure Database where
  /-- The table that records the version exists. -/
  versioned : Bool := false
  /-- The table of rows. -/
  rows : Option (List StoredRow) := none
  /-- The table of summaries. -/
  summaries : Option (List StoredSummary) := none
  /-- Verdicts on coming transactions. -/
  refusals : List Bool := []

namespace Database

/-- Brings the database to the current version: one without a version gets the tables it lacks. -/
def migrate (database : Database) : Database :=
  if database.versioned then database
  else
    { database with
      versioned := true
      rows := some (database.rows.getD [])
      summaries := some (database.summaries.getD []) }

/-- A new database at the current version. -/
def fresh : Database :=
  migrate {}

/-- The store that the database keeps, when it has both tables. -/
def store? (database : Database) : Option Store :=
  match database.rows, database.summaries with
  | some rows, some summaries => some ⟨rows, summaries⟩
  | _, _ => none

/-- The database with another store in its tables. -/
def putStore (database : Database) (store : Store) : Database :=
  { database with rows := some store.rows, summaries := some store.summaries }

/-- Delivers results in one transaction.  A refused one changes no table. -/
def upsert (database : Database) (results : List ExtractionResult) :
    Except DatabaseError UpsertCounts × Database :=
  let rest := { database with refusals := database.refusals.tail }
  if database.refusals.head? = some true then (.error .refused, rest)
  else if results.isEmpty then (.ok (UpsertCounts.ofResults results), rest)
  else
    match database.store? with
    | some store => (.ok (UpsertCounts.ofResults results), rest.putStore (store.deliverAll results))
    | none => (.error .refused, rest)

/-- The table of rows, if the database has it. -/
def rowTable (database : Database) : Except DatabaseError (List StoredRow) :=
  match database.rows with
  | some rows => .ok rows
  | none => .error .refused

/-- How many rows are stored. -/
def countRows (database : Database) : Except DatabaseError Nat := do
  return (← database.rowTable).length

/-- How many rows of one file are stored. -/
def countRowsOf (database : Database) (path : Path) : Except DatabaseError Nat := do
  return ((← database.rowTable).filter (·.filePath == path.spelling)).length

/-- A stored row as it is read. -/
def readRow (stored : StoredRow) : Except DatabaseError Row :=
  match stored.toRow? with
  | some row => .ok row
  | none => .error .malformedCells

/-- All rows in the order of their keys. -/
def loadRows (database : Database) : Except DatabaseError (List Row) := do
  ((← database.rowTable).mergeSort StoredRow.ranked).mapM readRow

/-- The stage with the given name. -/
def readStage (name : String) : Except DatabaseError Stage :=
  match Stage.ofName? name with
  | some stage => .ok stage
  | none => .error (.invalidName "Stage" name)

/-- The code with the given name. -/
def readCode (name : String) : Except DatabaseError ErrorCode :=
  match ErrorCode.ofName? name with
  | some code => .ok code
  | none => .error (.invalidName "ErrorCode" name)

/-- A stored summary as it is read. -/
def readSummary (stored : StoredSummary) : Except DatabaseError FileSummary := do
  let failingStage ← stored.failingStage.mapM readStage
  let errorCode ← readCode stored.errorCode
  return {
    filePath := ⟨stored.filePath⟩
    fileName := stored.fileName
    success := stored.success
    failingStage := failingStage
    errorCode := errorCode
    errorMessage := stored.errorMessage
    durationMs := stored.durationMs
    rowCount := stored.rowCount
    pageCount := stored.pageCount
    sizeBytes := stored.sizeBytes
    memoryPeakMb := stored.memoryPeakMb
    attempt := stored.attempt }

/-- All summaries in the order of their paths' texts. -/
def loadSummaries (database : Database) : Except DatabaseError (List FileSummary) :=
  match database.summaries with
  | some summaries => (summaries.mergeSort StoredSummary.ranked).mapM readSummary
  | none => .error .refused

/-! ## Damage

Changes that are made to the tables from outside. -/

/-- Overwrites the text of the cells of one file's rows, and counts them. -/
def overwriteCells (database : Database) (path text : String) :
    Except DatabaseError Nat × Database :=
  match database.rows with
  | none => (.error .refused, database)
  | some rows =>
    (.ok (rows.filter (·.filePath == path)).length,
      { database with
        rows := some (rows.map fun row =>
          if row.filePath == path then { row with cells := text } else row) })

/-- Changes the summary of one file, and counts it. -/
def changeSummary (database : Database) (path : String) (change : StoredSummary → StoredSummary) :
    Except DatabaseError Nat × Database :=
  match database.summaries with
  | none => (.error .refused, database)
  | some summaries =>
    (.ok (summaries.filter (·.filePath == path)).length,
      { database with
        summaries := some (summaries.map fun summary =>
          if summary.filePath == path then change summary else summary) })

/-- Overwrites the name of the code in one file's summary. -/
def overwriteCode (database : Database) (path text : String) :
    Except DatabaseError Nat × Database :=
  database.changeSummary path fun summary => { summary with errorCode := text }

/-- Overwrites the name of the stage in one file's summary. -/
def overwriteStage (database : Database) (path text : String) :
    Except DatabaseError Nat × Database :=
  database.changeSummary path fun summary => { summary with failingStage := some text }

/-- The database has the table. -/
def hasTable (database : Database) : DatabaseTable → Bool
  | .version => database.versioned
  | .rows => database.rows.isSome
  | .summaries => database.summaries.isSome

/-- Removes a table, which has to be there. -/
def dropTable (database : Database) (table : DatabaseTable) :
    Except DatabaseError Unit × Database :=
  if database.hasTable table then
    (.ok (),
      match table with
      | .version => { database with versioned := false }
      | .rows => { database with rows := none }
      | .summaries => { database with summaries := none })
  else (.error .refused, database)

end Database

end PartsList
