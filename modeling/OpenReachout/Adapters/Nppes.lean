import OpenReachout.Schema
import OpenReachout.Text.Csv
import OpenReachout.Text.Lines
import Mathlib.Data.List.Dedup
import Mathlib.Data.List.Sort

/-!
# NPPES

`adapters/sources/nppes.py`: pages of the providers in a registry file. The cursor is the
offset in the file where the next page begins.
-/

namespace OpenReachout.Nppes

open Text

set_option autoImplicit false

/-- What `str` does to letters. -/
structure Letters where
  upper : String → String
  title : String → String

abbrev Row := List (String × String)

/-- `row.get(column)`, where the last of several columns of one name counts. -/
def column (name : String) (row : Row) : Option String := row.reverse.lookup name

/-- `row.get(column) or ""` -/
def columnText (name : String) (row : Row) : String := (column name row).getD ""

def entityType : String := "Entity Type Code"
def stateName : String := "Provider Business Practice Location Address State Name"
def cityName : String := "Provider Business Practice Location Address City Name"

def taxonomyCols : List String :=
  (List.range' 1 15).map fun index => "Healthcare Provider Taxonomy Code_" ++ toString index

/-- `{state, taxonomy: [...]}` -/
structure Filters where
  state : String := ""
  taxonomy : List String := []

structure SourceRef where
  npi : String
  taxonomies : List String
  credential : String
  practiceCity : String
  practiceState : String
  deriving DecidableEq

/-- A candidate of this source, which has no organisation, website or address of mail. -/
structure Candidate where
  displayName : String
  phone : Option String
  address : String
  sourceRef : SourceRef
  deriving DecidableEq

/-- A page, with the cursor of the next. -/
structure Page where
  candidates : List Candidate
  cursor : Option Nat
  deriving DecidableEq

section Source

variable (letters : Letters) (filters : Filters)

/-- `_match` -/
def matched (row : Row) : Option Candidate :=
  let state := letters.upper filters.state
  let rowTaxonomies := (taxonomyCols.map fun col => columnText col row).filter (· ≠ "")
  let shared := (rowTaxonomies.filter (· ∈ filters.taxonomy)).dedup
  let first := letters.title (columnText "Provider First Name" row)
  let last := letters.title (columnText "Provider Last Name (Legal Name)" row)
  if column entityType row ≠ some "1" then none
  else if letters.upper (columnText stateName row) ≠ state then none
  else if shared = [] then none
  else if first = "" || last = "" then none
  else some
    { displayName := first ++ " " ++ last
      phone := (column "Provider Business Practice Location Address Telephone Number" row).filter
        (· ≠ "")
      address := String.intercalate ", "
        (([("Provider First Line Business Practice Location Address"), cityName, stateName,
          "Provider Business Practice Location Address Postal Code"].map
            fun name => columnText name row).filter (· ≠ ""))
      sourceRef :=
        { npi := columnText "NPI" row
          taxonomies := shared.insertionSort (· ≤ ·)
          credential := columnText "Provider Credential Text" row
          practiceCity := columnText cityName row
          practiceState := columnText stateName row } }

/-- The fields of a line. -/
def fieldsOf (line : List Char) : Except Exc (List String) :=
  match Csv.row line with
  | .ok fields => .ok (fields.map String.ofList)
  | .error text => .error ⟨.other, text⟩

/-- What a line of the file is, under the names of the header. -/
def readRow (header : List String) (line : List Char) : Except Exc (Option Candidate) :=
  (fieldsOf line).map fun fields => matched letters filters (header.zip fields)

/-- `_BATCH` -/
def batch : Nat := 500

/-- The loop over the lines of the file. -/
def scan (header : List String) : Nat → List Candidate → List (List Char) → Except Exc Page
  | _, candidates, [] => .ok ⟨candidates, none⟩
  | offset, candidates, line :: rest => do
      let offset := offset + byteLength line
      let candidate ← readRow letters filters header line
      let candidates := candidates ++ candidate.toList
      if batch ≤ candidates.length then
        pure ⟨candidates, some offset⟩
      else
        scan header offset candidates rest

/-- `state` and `taxonomy` are given. -/
def Filters.valid : Bool := letters.upper filters.state ≠ "" && !filters.taxonomy.isEmpty

/-- The lines after the header, or those after a seek to the cursor. -/
def linesFrom (file : List Char) (cursor : Option Nat) : Except Exc (List (List Char)) :=
  match cursor with
  | none => .ok (linesOf file).tail
  | some offset =>
      match seek file offset with
      | none => .error ⟨.valueError, "UnicodeDecodeError"⟩
      | some left => .ok (linesOf left)

def discover (file : List Char) (cursor : Option Nat) : Except Exc Page :=
  if !filters.valid letters then
    .error ⟨.valueError, "nppes cohort filters require 'state' and 'taxonomy'"⟩
  else do
    let first := (linesOf file).headD []
    let header ← fieldsOf first
    let lines ← linesFrom file cursor
    scan letters filters header (cursor.getD (byteLength first)) [] lines

end Source

end OpenReachout.Nppes
