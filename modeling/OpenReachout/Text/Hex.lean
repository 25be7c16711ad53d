import Mathlib.Data.List.Basic
import Mathlib.Data.Nat.Basic
import Mathlib.Algebra.Ring.Nat

/-!
# Hexadecimal texts and UUIDs

A number in a fixed count of hexadecimal digits, and the text form of a UUID: the
32 digits in groups of 8, 4, 4, 4 and 12. A reader of UUIDs takes the hyphens out
wherever they stand.
-/

namespace Text

set_option autoImplicit false

def hexDigit (value : Nat) : Char :=
  if value < 10 then Char.ofNat (48 + value) else Char.ofNat (87 + value)

def hexDigitValue (char : Char) : Option Nat :=
  if '0' ≤ char ∧ char ≤ '9' then some (char.toNat - 48)
  else if 'a' ≤ char ∧ char ≤ 'f' then some (char.toNat - 87)
  else if 'A' ≤ char ∧ char ≤ 'F' then some (char.toNat - 55)
  else none

def hexDigits : Nat → Nat → List Char
  | 0, _ => []
  | width + 1, value => hexDigits width (value / 16) ++ [hexDigit (value % 16)]

/-- `int(text, 16)` on hexadecimal digits, continued from `start`. -/
def hexValue (start : Nat) : List Char → Option Nat
  | [] => some start
  | char :: rest => (hexDigitValue char).bind fun digit => hexValue (16 * start + digit) rest

theorem hex_digit_value : ∀ value < 16, hexDigitValue (hexDigit value) = some value := by
  decide

theorem hex_digit_plain : ∀ value < 16, hexDigit value ≠ '-' := by
  decide

theorem hex_digits_length (width value : Nat) : (hexDigits width value).length = width := by
  induction width generalizing value with
  | zero => rfl
  | succ width induction => simp [hexDigits, induction]

theorem hex_value_append (start : Nat) (first second : List Char) :
    hexValue start (first ++ second) =
      (hexValue start first).bind fun middle => hexValue middle second := by
  induction first generalizing start with
  | nil => rfl
  | cons char rest induction =>
      simp only [List.cons_append, hexValue]
      cases hexDigitValue char with
      | none => rfl
      | some digit => exact induction _

theorem hex_value_digits (width value : Nat) (small : value < 16 ^ width) :
    hexValue 0 (hexDigits width value) = some value := by
  induction width generalizing value with
  | zero =>
      have zero : value = 0 := by simpa using small
      rw [zero]
      rfl
  | succ width induction =>
      have shorter : value / 16 < 16 ^ width := by
        rw [Nat.pow_succ] at small
        omega
      have digit := hex_digit_value (value % 16) (Nat.mod_lt _ (by decide))
      rw [hexDigits, hex_value_append, induction _ shorter]
      simp only [Option.bind_some, hexValue, digit, Option.some.injEq]
      omega

def isHexOrHyphen (char : Char) : Bool := (hexDigitValue char).isSome || char = '-'

theorem hex_or_hyphen_of_digits (width value : Nat) :
    ∀ char ∈ hexDigits width value, isHexOrHyphen char = true ∧ char ≠ '-' := by
  induction width generalizing value with
  | zero =>
      intro char member
      cases member
  | succ width induction =>
      intro char member
      rw [hexDigits, List.mem_append, List.mem_singleton] at member
      rcases member with earlier | last
      · exact induction _ char earlier
      · have small : value % 16 < 16 := Nat.mod_lt _ (by decide)
        rw [last, isHexOrHyphen, hex_digit_value _ small]
        exact ⟨rfl, hex_digit_plain _ small⟩

/-- `str(uuid)` -/
def uuidText (id : Nat) : List Char :=
  let digits := hexDigits 32 id
  digits.take 8 ++ '-' :: (digits.drop 8).take 4 ++ '-' :: (digits.drop 12).take 4 ++
    '-' :: (digits.drop 16).take 4 ++ '-' :: digits.drop 20

/-- `uuid.UUID(text)` on a text of hexadecimal digits and hyphens. -/
def parseUuid (text : List Char) : Option Nat :=
  let digits := text.filter (· != '-')
  if digits.length = 32 then hexValue 0 digits else none

theorem uuid_text_length (id : Nat) : (uuidText id).length = 36 := by
  simp [uuidText, hex_digits_length]

theorem uuid_text_chars (id : Nat) : ∀ char ∈ uuidText id, isHexOrHyphen char = true := by
  intro char member
  by_cases hyphen : char = '-'
  · rw [hyphen]
    rfl
  · refine (hex_or_hyphen_of_digits 32 id char ?_).1
    simp only [uuidText, List.mem_append, List.mem_cons, hyphen, false_or] at member
    rcases member with (((first | second) | third) | fourth) | fifth
    · exact List.mem_of_mem_take first
    · exact List.mem_of_mem_drop (List.mem_of_mem_take second)
    · exact List.mem_of_mem_drop (List.mem_of_mem_take third)
    · exact List.mem_of_mem_drop (List.mem_of_mem_take fourth)
    · exact List.mem_of_mem_drop fifth

/-- Without its hyphens the text of a UUID is its digits. -/
theorem uuid_text_digits (id : Nat) :
    (uuidText id).filter (· != '-') = hexDigits 32 id := by
  have plain : ∀ digits : List Char, (∀ char ∈ digits, char ∈ hexDigits 32 id) →
      digits.filter (· != '-') = digits := by
    intro digits within
    rw [List.filter_eq_self]
    intro char member
    simpa using (hex_or_hyphen_of_digits 32 id char (within char member)).2
  have hyphen : ∀ rest : List Char, ('-' :: rest).filter (· != '-') = rest.filter (· != '-') :=
    fun rest => rfl
  unfold uuidText
  simp only [List.filter_append, hyphen]
  rw [plain _ fun _ => List.mem_of_mem_take,
    plain _ fun _ member => List.mem_of_mem_drop (List.mem_of_mem_take member),
    plain _ fun _ member => List.mem_of_mem_drop (List.mem_of_mem_take member),
    plain _ fun _ member => List.mem_of_mem_drop (List.mem_of_mem_take member),
    plain _ fun _ => List.mem_of_mem_drop]
  have split : ∀ (count skip : Nat) (digits : List Char),
      (digits.drop skip).take count ++ digits.drop (skip + count) = digits.drop skip := by
    intro count skip digits
    rw [← List.drop_drop, List.take_append_drop]
  simp only [List.append_assoc]
  rw [split 4 16, split 4 12, split 4 8, List.take_append_drop]

theorem parse_uuid_text (id : Nat) (small : id < 2 ^ 128) : parseUuid (uuidText id) = some id := by
  have wide : id < 16 ^ 32 := small
  unfold parseUuid
  simp only [uuid_text_digits, hex_digits_length, if_true]
  exact hex_value_digits 32 id wide

end Text
