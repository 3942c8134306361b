/-!
# Comma separated values

Records of fields as text.  A field is quoted when it holds a comma, a quote or a line end, and a
quote inside of quotes is written twice.  Reading splits a text into the records it holds.
-/

namespace PartsList

namespace Csv

/-- The character makes quotes necessary. -/
def isSpecial (c : Char) : Bool :=
  c == ',' || c == '"' || c == '\r' || c == '\n'

/-- A quoted field's characters, each quote twice. -/
def doubleQuotes : List Char → List Char
  | [] => []
  | c :: rest => if c = '"' then '"' :: '"' :: doubleQuotes rest else c :: doubleQuotes rest

/-- A field. -/
def fieldChars (field : List Char) : List Char :=
  if field.any isSpecial then '"' :: (doubleQuotes field ++ ['"']) else field

/-- The fields of a record with commas between them. -/
def fieldsChars : List (List Char) → List Char
  | [] => []
  | [field] => fieldChars field
  | field :: next :: rest => fieldChars field ++ ',' :: fieldsChars (next :: rest)

/-- A record with its line end. -/
def recordChars (fields : List String) : List Char :=
  fieldsChars (fields.map String.toList) ++ ['\n']

/-- The text of records. -/
def write (records : List (List String)) : String :=
  String.ofList (records.flatMap recordChars)

/-- Where a reader stands. -/
inductive ReaderState
  /-- In front of a field. -/
  | start
  /-- In a field without quotes. -/
  | plain
  /-- In a quoted field. -/
  | quoted
  /-- Behind a quote inside a quoted field. -/
  | closing
deriving DecidableEq, Repr

/-- A reader: where it stands, and what it has read, each part with the latest first. -/
structure Reader where
  /-- Where it stands. -/
  state : ReaderState := .start
  /-- Characters of the current field. -/
  field : List Char := []
  /-- Fields of the current record. -/
  fields : List String := []
  /-- Records. -/
  records : List (List String) := []

namespace Reader

/-- Adds a character to the field. -/
def push (reader : Reader) (state : ReaderState) (c : Char) : Reader :=
  { reader with state := state, field := c :: reader.field }

/-- Ends the field. -/
def endField (reader : Reader) : Reader :=
  { reader with
    state := .start
    field := []
    fields := String.ofList reader.field.reverse :: reader.fields }

/-- Ends the record. -/
def endRecord (reader : Reader) : Reader :=
  let reader := reader.endField
  { reader with fields := [], records := reader.fields.reverse :: reader.records }

/-- The reader stands in front of a record. -/
def atRecordStart (reader : Reader) : Bool :=
  reader.state == .start && reader.fields.isEmpty

/-- Reads a character outside of quotes. -/
def stepPlain (reader : Reader) (c : Char) : Reader :=
  if c = ',' then reader.endField
  else if c = '\n' ∨ c = '\r' then
    if reader.atRecordStart then reader else reader.endRecord
  else reader.push .plain c

/-- Reads a character. -/
def step (reader : Reader) (c : Char) : Reader :=
  match reader.state with
  | .start => if c = '"' then { reader with state := .quoted } else reader.stepPlain c
  | .plain => reader.stepPlain c
  | .quoted => if c = '"' then { reader with state := .closing } else reader.push .quoted c
  | .closing =>
    if c = '"' then reader.push .quoted c else { reader with state := .plain }.stepPlain c

/-- The records, the one at the end included. -/
def finish (reader : Reader) : List (List String) :=
  (if reader.atRecordStart then reader else reader.endRecord).records.reverse

end Reader

/-- The records of a text. -/
def read (text : String) : List (List String) :=
  (text.toList.foldl Reader.step {}).finish

end Csv

end PartsList
