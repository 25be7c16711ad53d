import Mathlib.Data.List.Basic
import Mathlib.Algebra.BigOperators.Group.List.Basic
import Mathlib.Algebra.Ring.Nat

/-!
# Text files read line by line

A file opened with `newline=""`: a line ends with a line feed, a carriage return or
both, which it keeps. A position is the number of bytes before it in UTF-8, and reading
goes on from the start of a line as it would have without the seek.
-/

namespace Text

set_option autoImplicit false

/-- `len(text.encode("utf-8"))` -/
def byteLength (text : List Char) : Nat := (text.map Char.utf8Size).sum

def endsLine (char : Char) (rest : List Char) : Bool :=
  char = '\n' || (char = '\r' && rest.head? != some '\n')

/-- The lines of a text, with their ends. -/
def linesOf : List Char → List (List Char)
  | [] => []
  | char :: rest =>
      if endsLine char rest then
        [char] :: linesOf rest
      else
        match linesOf rest with
        | [] => [[char]]
        | line :: others => (char :: line) :: others

/-- What is left to read from an offset on; within a character there is nothing to
decode. -/
def seek : List Char → Nat → Option (List Char)
  | text, 0 => some text
  | [], _ + 1 => some []
  | char :: rest, offset + 1 =>
      if char.utf8Size ≤ offset + 1 then seek rest (offset + 1 - char.utf8Size) else none

theorem byteLength_cons (char : Char) (rest : List Char) :
    byteLength (char :: rest) = char.utf8Size + byteLength rest := rfl

theorem byteLength_append (first second : List Char) :
    byteLength (first ++ second) = byteLength first + byteLength second := by
  unfold byteLength
  rw [List.map_append, List.sum_append]

/-- The offset of a position is where a seek to it leads. -/
theorem seek_append (front rest : List Char) : seek (front ++ rest) (byteLength front) = some rest := by
  induction front with
  | nil => rw [List.nil_append]; unfold seek; rfl
  | cons char front induction =>
      have wide : 0 < char.utf8Size := Char.utf8Size_pos char
      obtain ⟨more, width⟩ : ∃ more, char.utf8Size + byteLength front = more + 1 :=
        ⟨char.utf8Size + byteLength front - 1, by omega⟩
      have enough : char.utf8Size ≤ more + 1 := by omega
      have left : more + 1 - char.utf8Size = byteLength front := by omega
      rw [List.cons_append, byteLength_cons, width, seek, if_pos enough, left, induction]

/-- After its first line, a text has the lines that are left. -/
theorem rest_of_linesOf {text line : List Char} {others : List (List Char)}
    (lines : linesOf text = line :: others) : ∃ rest, text = line ++ rest ∧ linesOf rest = others := by
  induction text generalizing line others with
  | nil => cases lines
  | cons char text induction =>
      rw [linesOf] at lines
      by_cases ends : endsLine char text = true
      · rw [if_pos ends] at lines
        obtain ⟨rfl, rfl⟩ := List.cons.inj lines
        exact ⟨text, rfl, rfl⟩
      · rw [if_neg ends] at lines
        cases later : linesOf text with
        | nil =>
            rw [later] at lines
            obtain ⟨rfl, rfl⟩ := List.cons.inj lines
            cases text with
            | nil => exact ⟨[], rfl, rfl⟩
            | cons second text =>
                rw [linesOf] at later
                split at later
                · cases later
                · split at later
                  · cases later
                  · cases later
        | cons first more =>
            rw [later] at lines
            obtain ⟨rfl, rfl⟩ := List.cons.inj lines
            obtain ⟨rest, split, same⟩ := induction later
            exact ⟨rest, by rw [split, List.cons_append], same⟩

theorem rest_of_lines {text : List Char} {front others : List (List Char)}
    (lines : linesOf text = front ++ others) :
    ∃ rest, text = front.flatten ++ rest ∧ linesOf rest = others := by
  induction front generalizing text with
  | nil => exact ⟨text, rfl, lines⟩
  | cons line front induction =>
      obtain ⟨rest, split, same⟩ := rest_of_linesOf lines
      obtain ⟨last, further, left⟩ := induction same
      refine ⟨last, ?_, left⟩
      rw [split, further, List.flatten_cons, List.append_assoc]

end Text
