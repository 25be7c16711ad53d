import OpenReachout.Text.Regex
import Mathlib.Data.List.Infix

/-!
# The runtime platform

What the program takes from its language runtime that rests on large tables, on
cryptography or on the pattern language of its own regular expressions. White
space and substring search are given in full.
-/

namespace Text

set_option autoImplicit false

/-- What is checked of the characters of a text, one after the other, holds of each. -/
theorem every_of_all {holds : Char → Prop} [DecidablePred holds] {text : List Char}
    (all : (text.all fun char => decide (holds char)) = true) : ∀ char ∈ text, holds char :=
  fun char member => of_decide_eq_true (List.all_eq_true.1 all char member)

def isAscii (char : Char) : Bool := char.toNat < 128

structure Platform where
  /-- lower-case hex digest of the UTF-8 encoding -/
  sha256 : List Char → String
  lower : List Char → List Char
  isAlnum : Char → Bool
  isDecimal : Char → Bool
  /-- the value of a decimal digit -/
  decimalValue : Char → Nat
  isDigit : Char → Bool
  idna : List Char → Option (List Char)
  repr : List Char → List Char
  /-- `json.dumps` of a text -/
  json : String → String
  /-- the number that HMAC-SHA-256 makes of a text under a key -/
  hmac : List Char → List Char → Nat
  /-- a case-insensitive search with a pattern read from configuration -/
  searchPattern : String → List Char → Except String (Option (List Char))

namespace Platform

def isWord (platform : Platform) (char : Char) : Bool := platform.isAlnum char || char = '_'

def isSpace (char : Char) : Bool :=
  let code := char.toNat
  (9 ≤ code && code ≤ 13) || (28 ≤ code && code ≤ 32) || code = 0x85 || code = 0xA0 ||
    code = 0x1680 || (0x2000 ≤ code && code ≤ 0x200A) || code = 0x2028 || code = 0x2029 ||
    code = 0x202F || code = 0x205F || code = 0x3000

def strip (text : List Char) : List Char :=
  ((text.dropWhile isSpace).reverse.dropWhile isSpace).reverse

/-- `str.split()`: the maximal runs without white space. -/
def fields (text : List Char) : List (List Char) :=
  (text.splitOnP isSpace).filter fun piece => !piece.isEmpty

/-- `str.find`: where the first occurrence starts. -/
def find (needle : List Char) : List Char → Option Nat
  | [] => if needle.isEmpty then some 0 else none
  | char :: rest =>
      if needle.isPrefixOf (char :: rest) then some 0 else (find needle rest).map (· + 1)

def contains (text needle : List Char) : Bool := (find needle text).isSome

theorem contains_iff (text needle : List Char) : contains text needle = true ↔ needle <:+: text := by
  unfold contains
  induction text with
  | nil =>
      rw [find, List.infix_nil, ← List.isEmpty_iff]
      cases needle.isEmpty with
      | true => exact Iff.intro (fun _ => rfl) fun _ => rfl
      | false => exact Iff.intro (fun found => by cases found) fun empty => by cases empty
  | cons char rest induction =>
      rw [find, List.infix_cons_iff, ← List.isPrefixOf_iff_prefix, ← induction]
      by_cases starts : needle.isPrefixOf (char :: rest) = true
      · rw [if_pos starts]
        simp [starts]
      · rw [if_neg starts]
        simp [starts]

def search (platform : Platform) (regex : Regex) (text : List Char) : Option (List Char) :=
  regex.search platform.isWord text

def space : Regex := .set isSpace

def digit (platform : Platform) : Regex := .set platform.isDecimal

/-- The platform on ASCII text, with the digests given by hand. -/
def ascii (digests : List (List Char × String)) : Platform where
  sha256 text := (digests.lookup text).getD ""
  lower := List.map Char.toLower
  isAlnum := Char.isAlphanum
  isDecimal := Char.isDigit
  decimalValue char := char.toNat - 48
  isDigit := Char.isDigit
  idna := some
  repr text := '\'' :: text ++ ['\'']
  json text := "\"" ++ text ++ "\""
  hmac _ _ := 0
  searchPattern _ _ := .ok none

/-- An expression between two word boundaries. -/
def bounded (body : Regex) : Regex := .sequence [.wordBoundary, body, .wordBoundary]

section Trim

theorem toNat_toLower (char : Char) :
    char.toLower.toNat = if 65 ≤ char.toNat ∧ char.toNat ≤ 90 then char.toNat + 32
      else char.toNat := by
  unfold Char.toLower
  have low : char.val ≥ 'A'.val ↔ 65 ≤ char.toNat := UInt32.le_iff_toNat_le
  have high : char.val ≤ 'Z'.val ↔ char.toNat ≤ 90 := UInt32.le_iff_toNat_le
  by_cases upper : char.val ≥ 'A'.val ∧ char.val ≤ 'Z'.val
  · rw [dif_pos upper, if_pos ⟨low.1 upper.1, high.1 upper.2⟩]
    have bound := high.1 upper.2
    change (char.val + ('a'.val - 'A'.val)).toNat = char.toNat + 32
    rw [UInt32.toNat_add]
    have shift : ('a'.val - 'A'.val).toNat = 32 := by decide
    rw [shift]
    change (char.toNat + 32) % 2 ^ 32 = char.toNat + 32
    omega
  · rw [dif_neg upper, if_neg fun both => upper ⟨low.2 both.1, high.2 both.2⟩]

theorem toLower_eq_of_not_upper {char : Char} (lower : ¬ (65 ≤ char.toNat ∧ char.toNat ≤ 90)) :
    char.toLower = char := by
  have same := toNat_toLower char
  rw [if_neg lower] at same
  exact Char.toNat_inj.1 same

theorem toLower_toLower (char : Char) : char.toLower.toLower = char.toLower := by
  have shifted := toNat_toLower char
  apply toLower_eq_of_not_upper
  split_ifs at shifted <;> omega

/-- Only a letter becomes a lower-case letter. -/
theorem toLower_eq_iff {char plain : Char} (fixed : plain.toNat < 65) :
    char.toLower = plain ↔ char = plain := by
  have shifted := toNat_toLower char
  constructor
  · rintro rfl
    symm
    apply toLower_eq_of_not_upper
    split_ifs at shifted <;> omega
  · rintro rfl
    apply toLower_eq_of_not_upper
    omega

/-- What folds to a character below the letters is that character. -/
theorem fold_eq_iff {char plain : Char} (low : plain.toNat < 65) :
    Regex.fold char = plain ↔ char = plain := by
  unfold Regex.fold
  constructor
  · intro folded
    split_ifs at folded with long_s kelvin dotted
    · rw [← folded] at low
      exact absurd low (by decide)
    · rw [← folded] at low
      exact absurd low (by decide)
    · rw [← folded] at low
      exact absurd low (by decide)
    · exact (toLower_eq_iff low).1 folded
  · rintro rfl
    have plain_long : char ≠ 'ſ' := by
      rintro rfl
      exact absurd low (by decide)
    have plain_kelvin : char ≠ 'K' := by
      rintro rfl
      exact absurd low (by decide)
    have plain_dotted : ¬ (char = 'İ' || char = 'ı') = true := by
      rw [Bool.or_eq_true, decide_eq_true_eq, decide_eq_true_eq]
      rintro (rfl | rfl)
      · exact absurd low (by decide)
      · exact absurd low (by decide)
    rw [if_neg plain_long, if_neg plain_kelvin, if_neg plain_dotted]
    exact (toLower_eq_iff low).2 rfl

theorem isSpace_toLower (char : Char) : isSpace char.toLower = isSpace char := by
  have shifted := toNat_toLower char
  unfold isSpace
  rw [shifted]
  by_cases upper : 65 ≤ char.toNat ∧ char.toNat ≤ 90
  · rw [if_pos upper]
    rw [Bool.eq_iff_iff]
    simp only [Bool.or_eq_true, Bool.and_eq_true, decide_eq_true_eq]
    omega
  · rw [if_neg upper]

theorem dropWhile_spaces {spaces : List Char} (blank : ∀ char ∈ spaces, isSpace char = true)
    (text : List Char) : (spaces ++ text).dropWhile isSpace = text.dropWhile isSpace :=
  List.dropWhile_append_of_pos blank

theorem dropWhile_append_spaces {spaces : List Char}
    (blank : ∀ char ∈ spaces, isSpace char = true) (text : List Char) :
    ∃ kept, (∀ char ∈ kept, isSpace char = true) ∧
      (text ++ spaces).dropWhile isSpace = text.dropWhile isSpace ++ kept := by
  rw [List.dropWhile_append]
  by_cases empty : (text.dropWhile isSpace).isEmpty = true
  · rw [if_pos empty, List.isEmpty_iff.1 empty]
    exact ⟨spaces.dropWhile isSpace, fun char member =>
      blank char ((List.dropWhile_suffix _).subset member), rfl⟩
  · rw [if_neg empty]
    exact ⟨spaces, blank, rfl⟩

/-- White space around a text goes. -/
theorem strip_spaces {before after : List Char} (blank_before : ∀ char ∈ before, isSpace char = true)
    (blank_after : ∀ char ∈ after, isSpace char = true) (text : List Char) :
    strip (before ++ text ++ after) = strip text := by
  unfold strip
  rw [List.append_assoc, dropWhile_spaces blank_before]
  obtain ⟨kept, blank, same⟩ := dropWhile_append_spaces blank_after text
  rw [same, List.reverse_append, dropWhile_spaces]
  intro char member
  exact blank char (List.mem_reverse.1 member)

/-- A text is what is left of it in white space. -/
theorem exists_spaces_strip (text : List Char) :
    ∃ before after, (∀ char ∈ before, isSpace char = true) ∧
      (∀ char ∈ after, isSpace char = true) ∧ text = before ++ strip text ++ after := by
  refine ⟨text.takeWhile isSpace,
    ((text.dropWhile isSpace).reverse.takeWhile isSpace).reverse, ?_, ?_, ?_⟩
  · intro char member
    exact (List.all_eq_true.1 List.all_takeWhile) char member
  · intro char member
    exact (List.all_eq_true.1 List.all_takeWhile) char (List.mem_reverse.1 member)
  · unfold strip
    rw [List.append_assoc, ← List.reverse_append, List.takeWhile_append_dropWhile,
      List.reverse_reverse, List.takeWhile_append_dropWhile]

theorem strip_eq_self {text : List Char} (visible : ∀ char ∈ text, isSpace char = false) :
    strip text = text := by
  have kept : ∀ other : List Char, (∀ char ∈ other, isSpace char = false) →
      other.dropWhile isSpace = other := by
    intro other plain
    cases other with
    | nil => rfl
    | cons char rest =>
        rw [List.dropWhile_cons_of_neg]
        rw [plain char List.mem_cons_self]
        exact Bool.false_ne_true
  unfold strip
  rw [kept text visible, kept text.reverse fun char member => visible char (List.mem_reverse.1 member),
    List.reverse_reverse]

theorem dropWhile_map_toLower (text : List Char) :
    (text.map Char.toLower).dropWhile isSpace = (text.dropWhile isSpace).map Char.toLower := by
  induction text with
  | nil => rfl
  | cons char rest induction =>
      rw [List.map_cons, List.dropWhile_cons, List.dropWhile_cons, isSpace_toLower, induction]
      by_cases blank : isSpace char = true
      · rw [if_pos blank, if_pos blank]
      · rw [if_neg blank, if_neg blank, List.map_cons]

theorem strip_map_toLower (text : List Char) :
    strip (text.map Char.toLower) = (strip text).map Char.toLower := by
  unfold strip
  rw [dropWhile_map_toLower, ← List.map_reverse, dropWhile_map_toLower, ← List.map_reverse]

/-- Neither end of a stripped text is white space. -/
theorem strip_last {text front : List Char} {char : Char} (ends : strip text = front ++ [char]) :
    isSpace char = false := by
  unfold strip at ends
  have reversed := congrArg List.reverse ends
  rw [List.reverse_reverse, List.reverse_append] at reversed
  have head := List.head?_dropWhile_not isSpace (text.dropWhile isSpace).reverse
  rw [reversed] at head
  simpa using head

end Trim

end Platform

end Text
