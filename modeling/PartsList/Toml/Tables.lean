/-!
# Values and tables in TOML

The values of a TOML text, and how headers and assignments make up its tables.  A table may be
written out only once; a table that was only passed on the way to another one may be written out
later.  A dotted key makes the tables it passes, and adds only to tables that were made that way.
-/

namespace PartsList

/-- A value of a TOML text.  Of a date or a time only its presence is kept. -/
inductive Toml
  /-- A string. -/
  | text (value : String)
  /-- An integer of 64 bits. -/
  | integer (value : Int)
  /-- A floating point number. -/
  | float (value : Float)
  /-- A truth value. -/
  | boolean (value : Bool)
  /-- A date, a time of day, or both. -/
  | dateTime
  /-- An array. -/
  | array (items : List Toml)
  /-- A table, each key once. -/
  | table (entries : List (String × Toml))

namespace Toml

/-- How a table came to be. -/
inductive Origin
  /-- It was written out. -/
  | written
  /-- A header has passed it. -/
  | passed
  /-- A dotted key has passed it. -/
  | dotted
deriving DecidableEq, Repr

/-- What a key stands for while a text is read. -/
inductive Node
  /-- A value. -/
  | value (value : Toml)
  /-- A table. -/
  | table (origin : Origin) (entries : List (String × Node))
  /-- Tables that are written out one after the other, the latest first. -/
  | tables (latest : List (String × Node)) (earlier : List (List (String × Node)))

/-- The keys of a table with what they stand for. -/
abbrev Entries := List (String × Node)

namespace Entries

/-- What a key stands for. -/
def find? (entries : Entries) (key : String) : Option Node :=
  (List.find? (·.1 == key) entries).map (·.2)

/-- The entries with another meaning of a key. -/
def put (entries : Entries) (key : String) (node : Node) : Entries :=
  List.filter (·.1 != key) entries ++ [(key, node)]

/-- Adds a value under a key of a table of the given origin. -/
def assignHere (first : Bool) (origin : Origin) (entries : Entries) (key : String) (value : Toml) :
    Option Entries :=
  if (first || origin == .dotted) && (entries.find? key).isNone then
    some (entries.put key (.value value))
  else none

/-- Adds a value under a dotted key; `front` are its parts but the last one, and `first` says that
no part was passed yet. -/
def assign (first : Bool) (origin : Origin) (entries : Entries) :
    (front : List String) → (key : String) → (value : Toml) → Option Entries
  | [], key, value => entries.assignHere first origin key value
  | part :: front, key, value =>
    match entries.find? part with
    | none => do
      return entries.put part (.table .dotted (← assign false .dotted [] front key value))
    | some (.table origin inner) =>
      if origin = .written then none
      else do return entries.put part (.table origin (← assign false origin inner front key value))
    | some (.tables latest earlier) => do
      return entries.put part
        (.tables (← assign false .written latest front key value) earlier)
    | some (.value _) => none

/-- Changes the entries of the table that a path leads to.  Tables on the way are made if they are
missing; of tables one after the other the latest is meant. -/
def within (change : Entries → Option Entries) : (path : List String) → Entries → Option Entries
  | [], entries => change entries
  | part :: path, entries =>
    match entries.find? part with
    | none => do return entries.put part (.table .passed (← within change path []))
    | some (.table origin inner) => do
      return entries.put part (.table origin (← within change path inner))
    | some (.tables latest earlier) => do
      return entries.put part (.tables (← within change path latest) earlier)
    | some (.value _) => none

/-- Begins a table under a key. -/
def beginTable (key : String) (entries : Entries) : Option Entries :=
  match entries.find? key with
  | none => some (entries.put key (.table .written []))
  | some (.table .passed inner) => some (entries.put key (.table .written inner))
  | _ => none

/-- Begins one more of the tables under a key. -/
def beginElement (key : String) (entries : Entries) : Option Entries :=
  match entries.find? key with
  | none => some (entries.put key (.tables [] []))
  | some (.tables latest earlier) => some (entries.put key (.tables [] (latest :: earlier)))
  | _ => none

end Entries

/-- A key: its parts but the last one, and the last one. -/
structure Key where
  /-- The parts that lead to a table. -/
  front : List String
  /-- The key in that table. -/
  last : String
deriving DecidableEq, Repr

namespace Key

/-- All parts. -/
def parts (key : Key) : List String :=
  key.front ++ [key.last]

end Key

/-- A statement of a text. -/
inductive Statement
  /-- The header of a table. -/
  | header (key : Key)
  /-- The header of one of several tables. -/
  | element (key : Key)
  /-- An assignment. -/
  | assign (key : Key) (value : Toml)

/-- A text as far as it was read: where assignments go, and the tables. -/
structure Draft where
  /-- The table that assignments go to. -/
  place : List String := []
  /-- The outermost table. -/
  entries : Entries := []

namespace Draft

/-- The text after one more statement. -/
def follow (draft : Draft) : Statement → Option Draft
  | .header key => do
    let entries ← draft.entries.within (Entries.beginTable key.last) key.front
    return { place := key.parts, entries := entries }
  | .element key => do
    let entries ← draft.entries.within (Entries.beginElement key.last) key.front
    return { place := key.parts, entries := entries }
  | .assign key value => do
    let add := fun (entries : Entries) => entries.assign true .written key.front key.last value
    return { draft with entries := ← draft.entries.within add draft.place }

end Draft

mutual

/-- The value that a node stands for. -/
def ofNode : Node → Toml
  | .value value => value
  | .table _ entries => .table (ofEntries entries)
  | .tables latest earlier => .array ((ofElements earlier).reverse ++ [.table (ofEntries latest)])

/-- The values of a table's entries. -/
def ofEntries : List (String × Node) → List (String × Toml)
  | [] => []
  | (key, node) :: entries => (key, ofNode node) :: ofEntries entries

/-- The values of tables one after the other. -/
def ofElements : List (List (String × Node)) → List Toml
  | [] => []
  | entries :: elements => .table (ofEntries entries) :: ofElements elements

end

/-- The value of a text with the given statements. -/
def ofStatements (statements : List Statement) : Option Toml := do
  let draft ← statements.foldlM Draft.follow {}
  return .table (ofEntries draft.entries)

/-- The table that assignments inside braces make up. -/
def ofAssignments (assignments : List (Key × Toml)) : Option Toml :=
  ofStatements (assignments.map fun (key, value) => .assign key value)

end Toml

end PartsList
