import Mathlib.Data.List.Basic

/-!
# Rows of CSV

`csv.reader` with its default dialect on a single line, character by character: commas
between the fields, double quotes around them, a doubled quote for a quote.
-/

namespace Text.Csv

set_option autoImplicit false

inductive State where
  | startRecord | startField | inField | inQuotedField | quoteInQuotedField | eatNewline
  deriving DecidableEq

structure Reader where
  state : State := .startRecord
  field : List Char := []
  fields : List (List Char) := []

/-- `csv.field_size_limit()` -/
def fieldLimit : Nat := 131072

def Reader.add (reader : Reader) (char : Char) (state : State) : Except String Reader :=
  if fieldLimit ≤ reader.field.length then
    .error "field larger than field limit (131072)"
  else
    .ok { reader with field := reader.field ++ [char], state }

def Reader.save (reader : Reader) (state : State) : Reader :=
  { state, field := [], fields := reader.fields ++ [reader.field] }

/-- The end of a field that has no quotes. -/
def Reader.plain (reader : Reader) (char : Char) : Except String Reader :=
  if char = '\n' || char = '\r' then .ok (reader.save .eatNewline)
  else if char = ',' then .ok (reader.save .startField)
  else reader.add char .inField

def Reader.begin (reader : Reader) (char : Char) : Except String Reader :=
  if char = '"' then .ok { reader with state := .inQuotedField } else reader.plain char

def Reader.process (reader : Reader) (char : Char) : Except String Reader :=
  match reader.state with
  | .startRecord =>
      if char = '\n' || char = '\r' then .ok { reader with state := .eatNewline }
      else reader.begin char
  | .startField => reader.begin char
  | .inField => reader.plain char
  | .inQuotedField =>
      if char = '"' then .ok { reader with state := .quoteInQuotedField }
      else reader.add char .inQuotedField
  | .quoteInQuotedField =>
      if char = '"' then reader.add char .inQuotedField else reader.plain char
  | .eatNewline =>
      if char = '\n' || char = '\r' then .ok reader
      else .error "new-line character seen in unquoted field - do you need to open the file in universal-newline mode?"

/-- The row at the end of the line, where an open quote closes. -/
def Reader.finish (reader : Reader) : List (List Char) :=
  match reader.state with
  | .startRecord | .eatNewline => reader.fields
  | _ => (reader.save .startRecord).fields

/-- `next(csv.reader([line]))` -/
def row (line : List Char) : Except String (List (List Char)) :=
  (line.foldlM Reader.process {}).map Reader.finish

example : row "a,\"b\"\"c\",d\r\n".toList = .ok ["a".toList, "b\"c".toList, "d".toList] := by
  rfl

end Text.Csv
