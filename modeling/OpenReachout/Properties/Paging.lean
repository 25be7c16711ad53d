import OpenReachout.Adapters.Nppes

/-!
# Pages of a registry file

The cursor of a page is the offset of its end, where a line begins, so the next page
goes on with the lines that are left.
-/

namespace OpenReachout.Nppes

open Text

set_option autoImplicit false

variable (letters : Letters) (filters : Filters)

/-- The matching records among the lines, in one pass. -/
def gather (header : List String) : List (List Char) → Except Exc (List Candidate)
  | [] => .ok []
  | line :: rest => do
      let candidate ← readRow letters filters header line
      let others ← gather header rest
      pure (candidate.toList ++ others)

/-- One pass over all lines of the file after its header. -/
def onePass (file : List Char) : Except Exc (List Candidate) := do
  let header ← fieldsOf ((linesOf file).headD [])
  gather letters filters header (linesOf file).tail

/-- All pages from a cursor on, one after the other, as long as there is fuel. -/
def follow (file : List Char) : Nat → Option Nat → Option (Except Exc (List Candidate))
  | 0, _ => none
  | fuel + 1, cursor =>
      match discover letters filters file cursor with
      | .error exc => some (.error exc)
      | .ok ⟨candidates, none⟩ => some (.ok candidates)
      | .ok ⟨candidates, some next⟩ =>
          (follow file fuel (some next)).map fun others =>
            others.map fun later => candidates ++ later

variable {letters filters}

/-- Where a scan of lines can end: at a line that is no row, after the last line, or
after a line that fills the page, with the offset of its end. -/
inductive Scanned (letters : Letters) (filters : Filters) (header : List String) (offset : Nat)
    (before : List Candidate) (lines : List (List Char)) : Except Exc Page → Prop where
  | failed (exc : Exc) (fails : gather letters filters header lines = .error exc) :
      Scanned letters filters header offset before lines (.error exc)
  | ended (found : List Candidate) (gathered : gather letters filters header lines = .ok found) :
      Scanned letters filters header offset before lines (.ok ⟨before ++ found, none⟩)
  | filled (front rest : List (List Char)) (found : List Candidate) (some_front : front ≠ [])
      (split : lines = front ++ rest)
      (gathered : gather letters filters header lines =
        (gather letters filters header rest).map fun later => found ++ later) :
      Scanned letters filters header offset before lines
        (.ok ⟨before ++ found, some (offset + byteLength front.flatten)⟩)

theorem scanned (header : List String) (offset : Nat) (before : List Candidate)
    (lines : List (List Char)) :
    Scanned letters filters header offset before lines
      (scan letters filters header offset before lines) := by
  induction lines generalizing offset before with
  | nil =>
      have page : Scanned letters filters header offset before [] (.ok ⟨before ++ [], none⟩) :=
        .ended [] rfl
      rw [List.append_nil] at page
      exact page
  | cons line rest induction =>
      rw [scan]
      cases read : readRow letters filters header line with
      | error exc =>
          apply Scanned.failed
          rw [gather, read]
          rfl
      | ok candidate =>
          have here : gather letters filters header (line :: rest) =
              (gather letters filters header rest).map fun later => candidate.toList ++ later := by
            rw [gather, read]
            rfl
          change Scanned letters filters header offset before (line :: rest)
            (if batch ≤ (before ++ candidate.toList).length then
              .ok ⟨before ++ candidate.toList, some (offset + byteLength line)⟩
            else scan letters filters header (offset + byteLength line)
              (before ++ candidate.toList) rest)
          by_cases full : batch ≤ (before ++ candidate.toList).length
          · rw [if_pos full]
            have end_of_line : [line].flatten = line := by
              rw [List.flatten_cons, List.flatten_nil, List.append_nil]
            have page : Scanned letters filters header offset before (line :: rest)
                (.ok ⟨before ++ candidate.toList, some (offset + byteLength [line].flatten)⟩) :=
              .filled [line] rest candidate.toList (List.cons_ne_nil line []) rfl here
            rw [end_of_line] at page
            exact page
          · rw [if_neg full]
            have later := induction (offset + byteLength line) (before ++ candidate.toList)
            generalize scan letters filters header (offset + byteLength line)
              (before ++ candidate.toList) rest = outcome at later
            cases later with
            | failed exc fails =>
                apply Scanned.failed
                rw [here, fails]
                rfl
            | ended found gathered =>
                rw [List.append_assoc]
                apply Scanned.ended
                rw [here, gathered]
                rfl
            | filled front late found some_front split gathered =>
                have whole : line :: rest = (line :: front) ++ late := by
                  rw [split, List.cons_append]
                have all : gather letters filters header (line :: rest) =
                    (gather letters filters header late).map
                      fun others => (candidate.toList ++ found) ++ others := by
                  rw [here, gathered]
                  cases gather letters filters header late with
                  | error exc => rfl
                  | ok others =>
                      change Except.ok (candidate.toList ++ (found ++ others)) =
                        Except.ok (candidate.toList ++ found ++ others)
                      rw [List.append_assoc]
                have page : Scanned letters filters header offset before (line :: rest)
                    (.ok ⟨before ++ (candidate.toList ++ found),
                      some (offset + byteLength (line :: front).flatten)⟩) :=
                  .filled (line :: front) late _ (List.cons_ne_nil line front) whole all
                rw [List.flatten_cons, byteLength_append, ← Nat.add_assoc, ← List.append_assoc] at page
                exact page

/-- A cursor that stands before the last lines of the file. -/
structure Before (file : List Char) (cursor : Option Nat) (lines : List (List Char)) : Prop where
  left : linesFrom file cursor = .ok lines
  offset : ∃ front, linesOf file = front ++ lines ∧
    cursor.getD (byteLength ((linesOf file).headD [])) = byteLength front.flatten

theorem before_of_front {file : List Char} {front lines : List (List Char)}
    (split : linesOf file = front ++ lines) :
    Before file (some (byteLength front.flatten)) lines := by
  obtain ⟨rest, text, left⟩ := rest_of_lines split
  refine ⟨?_, front, split, rfl⟩
  have found : seek file (byteLength front.flatten) = some rest := by
    rw [text]
    exact seek_append front.flatten rest
  unfold linesFrom
  dsimp only
  rw [found, ← left]

theorem before_none (file : List Char) : Before file none (linesOf file).tail := by
  refine ⟨rfl, (linesOf file).take 1, ?_, ?_⟩
  · cases linesOf file with
    | nil => rfl
    | cons line rest => rfl
  · cases linesOf file with
    | nil => rfl
    | cons line rest =>
        change byteLength line = byteLength (line ++ [])
        rw [List.append_nil]

/-- From where the next page begins, its lines to the end of the file. -/
theorem before_next {file : List Char} {cursor : Option Nat} {front rest : List (List Char)}
    (before : Before file cursor (front ++ rest)) :
    Before file (some (cursor.getD (byteLength ((linesOf file).headD [])) +
      byteLength front.flatten)) rest := by
  obtain ⟨early, split, offset⟩ := before.offset
  rw [offset, ← byteLength_append, ← List.flatten_append]
  apply before_of_front
  rw [split, List.append_assoc]

theorem discover_of_before {file : List Char} (valid : filters.valid letters = true)
    {header : List String} (first : fieldsOf ((linesOf file).headD []) = .ok header)
    {cursor : Option Nat} {lines : List (List Char)} (before : Before file cursor lines) :
    discover letters filters file cursor = scan letters filters header
      (cursor.getD (byteLength ((linesOf file).headD []))) [] lines := by
  unfold discover
  rw [valid, if_neg (by decide)]
  dsimp only
  rw [first]
  change (linesFrom file cursor >>= _) = _
  rw [before.left]
  rfl

/-- Following the cursors from before some lines gathers them. -/
theorem follow_of_before {file : List Char} (valid : filters.valid letters = true)
    {header : List String} (first : fieldsOf ((linesOf file).headD []) = .ok header) (more : Nat) :
    ∀ cursor lines, Before file cursor lines → lines.length < more →
      follow letters filters file more cursor = some (gather letters filters header lines) := by
  induction more with
  | zero =>
      intro cursor lines _ short
      exact absurd short (Nat.not_lt_zero _)
  | succ more induction =>
      intro cursor lines before short
      rw [follow, discover_of_before valid first before]
      have outcome : Scanned letters filters header
          (cursor.getD (byteLength ((linesOf file).headD []))) [] lines (scan letters filters header
            (cursor.getD (byteLength ((linesOf file).headD []))) [] lines) :=
        scanned header _ [] lines
      generalize scan letters filters header
        (cursor.getD (byteLength ((linesOf file).headD []))) [] lines = page at outcome
      cases outcome with
      | failed exc fails => rw [fails]
      | ended found gathered => rw [gathered, List.nil_append]
      | filled front rest found some_front split gathered =>
          rw [split] at before short
          have left : rest.length < more := by
            have positive := List.length_pos_iff.2 some_front
            rw [List.length_append] at short
            omega
          dsimp only
          rw [induction _ rest (before_next before) left, gathered, List.nil_append]
          rfl

def sampleLetters : Letters := ⟨fun text => String.ofList (text.toList.map Char.toUpper), id⟩

def sampleFilters : Filters := { state := "tx", taxonomy := ["106H00000X"] }

/-- A header, a provider that matches and one of another state. -/
def sampleRegistry : List Char :=
  ("NPI,Entity Type Code,Provider First Name,Provider Last Name (Legal Name)," ++
    "Provider Business Practice Location Address State Name," ++
    "Healthcare Provider Taxonomy Code_1\r\n" ++
    "1234567890,1,Zoë,Nuñez,TX,106H00000X\r\n2345678901,1,Ann,Lee,CA,106H00000X\r\n").toList

end OpenReachout.Nppes
