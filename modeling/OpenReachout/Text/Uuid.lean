import OpenReachout.Text.Hex
import OpenReachout.Text.Platform
import Mathlib.Data.List.DropRight

/-!
# Reading UUIDs

The readers of integers and of UUIDs, as the language's runtime has them. They take
more than the digits that a UUID is written with: prefixes, braces, hyphens, white
space, single underscores and the decimal digits of every script.
-/

namespace Text

set_option autoImplicit false

/-- `text.replace(needle, "")`; `skip` characters of an occurrence are still to go. -/
def removed (needle : List Char) : Nat → List Char → List Char
  | _, [] => []
  | skip + 1, _ :: rest => removed needle skip rest
  | 0, char :: rest =>
      if needle.isPrefixOf (char :: rest) then removed needle (needle.length - 1) rest
      else char :: removed needle 0 rest

/-- `text.strip(...)` with the characters it takes off. -/
def stripped (drops : Char → Bool) (text : List Char) : List Char :=
  (text.dropWhile drops).rdropWhile drops

def dropped (start text : List Char) : List Char :=
  if start.isPrefixOf text then text.drop start.length else text

/-- The digits of a number, with single underscores between them; `ended` says that the
last character was a digit. -/
def digitsValue : Nat → Bool → List Char → Option Nat
  | value, ended, [] => if ended then some value else none
  | value, ended, char :: rest =>
      if char = '_' then if ended then digitsValue value false rest else none
      else (hexDigitValue char).bind fun digit => digitsValue (16 * value + digit) true rest

def isBlank (char : Char) : Bool := (9 ≤ char.toNat && char.toNat ≤ 13) || char = ' '

def isBrace (char : Char) : Bool := char = '\x7b' || char = '\x7d'

/-- The digits behind the mark of the base. -/
def withoutBase (text : List Char) : List Char :=
  if ['0', 'x'].isPrefixOf text || ['0', 'X'].isPrefixOf text then dropped ['_'] (text.drop 2)
  else text

namespace Platform

/-- What `int` makes of a character before it reads digits. -/
def plainChar (platform : Platform) (char : Char) : Char :=
  if char.toNat < 127 then char
  else if isSpace char then ' '
  else if platform.isDecimal char then hexDigit (platform.decimalValue char)
  else '?'

/-- `int(text, 16)` of a text without hyphens -/
def intOfHex (platform : Platform) (text : List Char) : Option Nat :=
  digitsValue 0 false
    (withoutBase (dropped ['+'] (stripped isBlank (text.map platform.plainChar))))

/-- `uuid.UUID(text).int` -/
def uuidOf (platform : Platform) (text : List Char) : Option Nat :=
  let bare := removed "uuid:".toList 0 (removed "urn:".toList 0 text)
  let digits := (stripped isBrace bare).filter (· != '-')
  if digits.length = 32 then (platform.intOfHex digits).filter fun value => value < 2 ^ 128
  else none

end Platform

/-- `uuid.UUID(...).hex` -/
def uuidHex (id : Nat) : List Char := hexDigits 32 id

section Written

theorem hex_digits_all {holds : Char → Prop} (each : ∀ digit < 16, holds (hexDigit digit))
    (width value : Nat) : ∀ char ∈ hexDigits width value, holds char := by
  induction width generalizing value with
  | zero =>
      intro char member
      cases member
  | succ width induction =>
      intro char member
      rw [hexDigits, List.mem_append, List.mem_singleton] at member
      rcases member with earlier | last
      · exact induction _ char earlier
      · rw [last]
        exact each _ (Nat.mod_lt _ (by decide))

theorem removed_of_not_mem {needle text : List Char} {mark : Char} (marked : mark ∈ needle)
    (absent : mark ∉ text) : removed needle 0 text = text := by
  induction text with
  | nil => rfl
  | cons char rest induction =>
      have apart : ¬ needle.isPrefixOf (char :: rest) = true := by
        intro starts
        exact absent ((List.isPrefixOf_iff_prefix.1 starts).subset marked)
      rw [removed, if_neg apart, induction fun member => absent (List.mem_cons_of_mem _ member)]

theorem stripped_of_none {drops : Char → Bool} {text : List Char}
    (kept : ∀ char ∈ text, drops char = false) : stripped drops text = text := by
  have whole : ∀ other : List Char, (∀ char ∈ other, drops char = false) →
      other.dropWhile drops = other := by
    intro other plain
    cases other with
    | nil => rfl
    | cons char rest =>
        apply List.dropWhile_cons_of_neg
        rw [plain char List.mem_cons_self]
        exact Bool.false_ne_true
  unfold stripped List.rdropWhile
  rw [whole text kept, whole text.reverse fun char member => kept char (List.mem_reverse.1 member),
    List.reverse_reverse]

theorem dropped_of_not_mem {start text : List Char} {mark : Char} (marked : mark ∈ start)
    (absent : mark ∉ text) : dropped start text = text := by
  apply if_neg
  intro starts
  exact absent ((List.isPrefixOf_iff_prefix.1 starts).subset marked)

theorem withoutBase_of_not_mem {text : List Char} (small : 'x' ∉ text) (capital : 'X' ∉ text) :
    withoutBase text = text := by
  apply if_neg
  intro starts
  rcases Bool.or_eq_true_iff.1 starts with small_mark | capital_mark
  · exact small ((List.isPrefixOf_iff_prefix.1 small_mark).subset (by decide))
  · exact capital ((List.isPrefixOf_iff_prefix.1 capital_mark).subset (by decide))

theorem digitsValue_eq_hexValue {text : List Char} (value : Nat) (ended : Bool)
    (some_digit : ended = true ∨ text ≠ []) (plain : '_' ∉ text) :
    digitsValue value ended text = hexValue value text := by
  induction text generalizing value ended with
  | nil =>
      rcases some_digit with last | digits
      · rw [digitsValue, if_pos last, hexValue]
      · exact absurd rfl digits
  | cons char rest induction =>
      have digit : char ≠ '_' := fun same => plain (same ▸ List.mem_cons_self)
      rw [digitsValue, if_neg digit, hexValue]
      congr 1
      funext next
      exact induction _ true (Or.inl rfl) fun member => plain (List.mem_cons_of_mem _ member)

/-- The digits of a UUID are read as that UUID. -/
theorem uuidOf_uuidHex (platform : Platform) {id : Nat} (small : id < 2 ^ 128) :
    platform.uuidOf (uuidHex id) = some id := by
  have absent : ∀ mark : Char, (∀ digit < 16, hexDigit digit ≠ mark) → mark ∉ uuidHex id := by
    intro mark apart member
    have all : ∀ char ∈ uuidHex id, char ≠ mark := hex_digits_all apart 32 id
    exact all mark member rfl
  have length : (uuidHex id).length = 32 := hex_digits_length 32 id
  have bare : removed "uuid:".toList 0 (removed "urn:".toList 0 (uuidHex id)) = uuidHex id := by
    have colon : ':' ∉ uuidHex id := absent ':' (by decide)
    rw [removed_of_not_mem (by decide : ':' ∈ "urn:".toList) colon,
      removed_of_not_mem (by decide : ':' ∈ "uuid:".toList) colon]
  have braces : stripped isBrace (uuidHex id) = uuidHex id :=
    stripped_of_none (hex_digits_all (by decide) 32 id)
  have hyphens : (uuidHex id).filter (· != '-') = uuidHex id := by
    rw [List.filter_eq_self]
    exact hex_digits_all (by decide) 32 id
  have plain : (uuidHex id).map platform.plainChar = uuidHex id := by
    have low : ∀ char ∈ uuidHex id, char.toNat < 127 := hex_digits_all (by decide) 32 id
    refine (List.map_congr_left fun char member => ?_).trans (List.map_id _)
    exact if_pos (low char member)
  have blanks : stripped isBlank (uuidHex id) = uuidHex id :=
    stripped_of_none (hex_digits_all (by decide) 32 id)
  have sign : dropped ['+'] (uuidHex id) = uuidHex id :=
    dropped_of_not_mem (List.mem_singleton.2 rfl) (absent '+' (by decide))
  have base : withoutBase (uuidHex id) = uuidHex id :=
    withoutBase_of_not_mem (absent 'x' (by decide)) (absent 'X' (by decide))
  have digits : uuidHex id ≠ [] := by
    intro empty
    rw [empty] at length
    cases length
  have value : platform.intOfHex (uuidHex id) = some id := by
    unfold Platform.intOfHex
    rw [plain, blanks, sign, base, digitsValue_eq_hexValue 0 false (Or.inr digits)
      (absent '_' (by decide))]
    exact hex_value_digits 32 id small
  unfold Platform.uuidOf
  simp only [bare, braces, hyphens, length, value, if_true]
  exact Option.filter_eq_some_iff.2 ⟨rfl, decide_eq_true small⟩

end Written

section Unread

theorem mem_removed {needle text : List Char} {char : Char} (some_needle : needle ≠ [])
    (other : char ∉ needle) {skip : Nat} (member : char ∈ text.drop skip) :
    char ∈ removed needle skip text := by
  induction text generalizing skip with
  | nil =>
      rw [List.drop_nil] at member
      cases member
  | cons head rest induction =>
      cases skip with
      | succ skip => exact induction member
      | zero =>
          rw [removed]
          by_cases starts : needle.isPrefixOf (head :: rest) = true
          · rw [if_pos starts]
            apply induction
            obtain ⟨tail, whole⟩ := List.isPrefixOf_iff_prefix.1 starts
            obtain ⟨first, needles, rfl⟩ := List.exists_cons_of_ne_nil some_needle
            have behind : rest = needles ++ tail := (List.cons.inj whole).2.symm
            have in_tail : char ∈ tail := by
              rw [List.drop_zero, ← whole, List.mem_append] at member
              exact member.resolve_left other
            rw [behind, List.length_cons, Nat.add_sub_cancel, List.drop_left]
            exact in_tail
          · rw [if_neg starts]
            rcases List.mem_cons.1 member with same | later
            · rw [same]
              exact List.mem_cons_self
            · exact List.mem_cons_of_mem _ (induction later)

theorem mem_stripped {drops : Char → Bool} {text : List Char} {char : Char}
    (kept : drops char = false) (member : char ∈ text) : char ∈ stripped drops text := by
  have left : ∀ other : List Char, char ∈ other → char ∈ other.dropWhile drops := by
    intro other inside
    rw [← List.takeWhile_append_dropWhile (p := drops) (l := other), List.mem_append] at inside
    refine inside.resolve_left ?_
    intro early
    have gone := List.all_eq_true.1 List.all_takeWhile char early
    rw [kept] at gone
    cases gone
  unfold stripped List.rdropWhile
  rw [List.mem_reverse]
  apply left
  rw [List.mem_reverse]
  exact left text member

theorem mem_dropped {start text : List Char} {char : Char} (other : char ∉ start)
    (member : char ∈ text) : char ∈ dropped start text := by
  unfold dropped
  by_cases starts : start.isPrefixOf text = true
  · obtain ⟨rest, rfl⟩ := List.isPrefixOf_iff_prefix.1 starts
    rw [if_pos starts, List.drop_left]
    exact (List.mem_append.1 member).resolve_left other
  · rw [if_neg starts]
    exact member

theorem mem_withoutBase {text : List Char} {char : Char} (zero : char ≠ '0') (small : char ≠ 'x')
    (capital : char ≠ 'X') (score : char ≠ '_') (member : char ∈ text) :
    char ∈ withoutBase text := by
  unfold withoutBase
  by_cases marked : (['0', 'x'].isPrefixOf text || ['0', 'X'].isPrefixOf text) = true
  · rw [if_pos marked]
    apply mem_dropped (by simpa using score)
    have behind : ∀ mark : Char, char ≠ mark → ['0', mark].isPrefixOf text = true →
        char ∈ text.drop 2 := by
      intro mark apart starts
      obtain ⟨rest, rfl⟩ := List.isPrefixOf_iff_prefix.1 starts
      have outside : char ∉ ['0', mark] := by simp [zero, apart]
      exact (List.mem_append.1 member).resolve_left outside
    rcases Bool.or_eq_true_iff.1 marked with small_mark | capital_mark
    · exact behind 'x' small small_mark
    · exact behind 'X' capital capital_mark
  · rw [if_neg marked]
    exact member

theorem digitsValue_of_mem {text : List Char} {char : Char} (score : char ≠ '_')
    (digitless : hexDigitValue char = none) (member : char ∈ text) (value : Nat) (ended : Bool) :
    digitsValue value ended text = none := by
  induction text generalizing value ended with
  | nil => cases member
  | cons head rest induction =>
      rw [digitsValue]
      by_cases underscore : head = '_'
      · have later : char ∈ rest := (List.mem_cons.1 member).resolve_left fun same =>
          score (same.trans underscore)
        rw [if_pos underscore, induction later, ite_self]
      · rw [if_neg underscore]
        rcases List.mem_cons.1 member with same | later
        · rw [← same, digitless, Option.bind_none]
        · cases hexDigitValue head with
          | none => rfl
          | some digit => exact induction later _ _

/-- No text with a full stop is read as a UUID. -/
theorem uuidOf_dotted (platform : Platform) {text : List Char} (dotted : '.' ∈ text) :
    platform.uuidOf text = none := by
  have bare : '.' ∈ removed "uuid:".toList 0 (removed "urn:".toList 0 text) :=
    mem_removed (by decide) (by decide) (mem_removed (by decide) (by decide) dotted)
  have digits : '.' ∈ (stripped isBrace
      (removed "uuid:".toList 0 (removed "urn:".toList 0 text))).filter (· != '-') :=
    List.mem_filter.2 ⟨mem_stripped (by decide) bare, by decide⟩
  have unread : ∀ rest : List Char, '.' ∈ rest → platform.intOfHex rest = none := by
    intro rest member
    have plain : '.' ∈ rest.map platform.plainChar := List.mem_map.2 ⟨'.', member, if_pos (by decide)⟩
    have unpadded : '.' ∈ stripped isBlank (rest.map platform.plainChar) :=
      mem_stripped (by decide) plain
    have digits : '.' ∈ withoutBase (dropped ['+'] (stripped isBlank (rest.map platform.plainChar))) :=
      mem_withoutBase (by decide) (by decide) (by decide) (by decide)
        (mem_dropped (by decide) unpadded)
    exact digitsValue_of_mem (by decide) (by decide) digits 0 false
  unfold Platform.uuidOf
  simp only [unread _ digits, Option.filter_none, ite_self]

theorem uuidOf_small (platform : Platform) {text : List Char} {id : Nat}
    (read : platform.uuidOf text = some id) : id < 2 ^ 128 := by
  unfold Platform.uuidOf at read
  simp only at read
  split_ifs at read
  exact of_decide_eq_true (Option.filter_eq_some_iff.1 read).2

end Unread

end Text
