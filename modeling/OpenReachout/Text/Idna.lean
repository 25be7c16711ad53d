import OpenReachout.Text.Platform
import Mathlib.Data.List.Infix

/-!
# Domain names in ASCII

The `idna` codec: a name is cut into labels, and a label with characters outside ASCII is
prepared and encoded. The preparation rests on large tables and is a parameter, as is the
encoding of what it leaves outside ASCII.
-/

namespace Text

set_option autoImplicit false

def isCapital (char : Char) : Bool := 65 ≤ char.toNat && char.toNat ≤ 90

/-- An ASCII character that is no capital letter. -/
def isSmall (char : Char) : Bool := isAscii char && !isCapital char

structure Idna where
  /-- maps and checks a label; none where it has a prohibited character -/
  nameprep : List Char → Option (List Char)
  punycode : List Char → List Char

namespace Idna

/-- The full stops of a name. -/
def isDot (char : Char) : Bool :=
  char = '.' || char = '\u3002' || char = '\uFF0E' || char = '\uFF61'

def fits (label : List Char) : Bool := 0 < label.length && label.length < 64

def acePrefix : List Char := "xn--".toList

variable (codec : Idna)

/-- `ToASCII`, without the rules for the characters of host names. -/
def toAscii (label : List Char) : Option (List Char) :=
  if label.all isAscii then if fits label then some label else none
  else (codec.nameprep label).bind fun prepared =>
    if prepared.all isAscii then if fits prepared then some prepared else none
    else if acePrefix.isPrefixOf prepared then none
    else
      let encoded := acePrefix ++ codec.punycode prepared
      if fits encoded then some encoded else none

/-- Labels with a full stop between them. -/
def joinLabels (labels : List (List Char)) : List Char := ['.'].intercalate labels

/-- The labels of an ASCII name are as long as they may be. The last one may be empty. -/
def labelsFit (name : List Char) : Bool :=
  let labels := name.splitOn '.'
  labels.dropLast.all fits && (labels.getLast?.getD []).length < 64

def encode (name : List Char) : Option (List Char) :=
  if name.isEmpty then some []
  else if name.all isAscii then if labelsFit name then some name else none
  else
    let labels := name.splitOnP isDot
    if labels.getLast? = some [] then
      (labels.dropLast.mapM codec.toAscii).map fun parts => joinLabels parts ++ ['.']
    else (labels.mapM codec.toAscii).map joinLabels

/-- What the tables do to the case of letters, and what encoded labels are written with. -/
structure Lawful : Prop where
  folds : ∀ label prepared, codec.nameprep label = some prepared →
    ∀ char ∈ prepared, isCapital char = false
  encodes : ∀ text, (∀ char ∈ text, isCapital char = false) →
    ∀ char ∈ codec.punycode text, isSmall char = true

section Labels

variable {codec}

/-- A label in ASCII that is neither empty nor too long. -/
structure Plain (label : List Char) : Prop where
  small : ∀ char ∈ label, isSmall char = true
  filled : label ≠ []
  short : label.length < 64

theorem fits_iff {label : List Char} : fits label = true ↔ label ≠ [] ∧ label.length < 64 := by
  unfold fits
  rw [Bool.and_eq_true, decide_eq_true_eq, decide_eq_true_eq, List.length_pos_iff]

theorem small_of_ascii {text : List Char} (ascii : text.all isAscii = true)
    (lower : ∀ char ∈ text, isCapital char = false) : ∀ char ∈ text, isSmall char = true := by
  intro char member
  unfold isSmall
  rw [List.all_eq_true.1 ascii char member, lower char member]
  rfl

theorem plain_toAscii (lawful : codec.Lawful) {label encoded : List Char}
    (lower : ∀ char ∈ label, isCapital char = false)
    (accepted : codec.toAscii label = some encoded) : Plain encoded := by
  unfold toAscii at accepted
  by_cases ascii : label.all isAscii = true
  · rw [if_pos ascii, Option.ite_none_right_eq_some] at accepted
    obtain ⟨fitting, same⟩ := accepted
    obtain rfl := Option.some.inj same
    exact ⟨small_of_ascii ascii lower, (fits_iff.1 fitting).1, (fits_iff.1 fitting).2⟩
  · rw [if_neg ascii] at accepted
    obtain ⟨prepared, mapped, accepted⟩ := Option.bind_eq_some_iff.1 accepted
    have folded := lawful.folds label prepared mapped
    by_cases plain : prepared.all isAscii = true
    · rw [if_pos plain, Option.ite_none_right_eq_some] at accepted
      obtain ⟨fitting, same⟩ := accepted
      obtain rfl := Option.some.inj same
      exact ⟨small_of_ascii plain folded, (fits_iff.1 fitting).1, (fits_iff.1 fitting).2⟩
    · rw [if_neg plain] at accepted
      by_cases marked : acePrefix.isPrefixOf prepared = true
      · rw [if_pos marked] at accepted
        cases accepted
      · rw [if_neg marked, Option.ite_none_right_eq_some] at accepted
        obtain ⟨fitting, same⟩ := accepted
        obtain rfl := Option.some.inj same
        refine ⟨?_, (fits_iff.1 fitting).1, (fits_iff.1 fitting).2⟩
        intro char member
        rcases List.mem_append.1 member with inside | inside
        · have small : acePrefix.all isSmall = true := by decide
          exact List.all_eq_true.1 small char inside
        · exact lawful.encodes prepared folded char inside

theorem plain_mapM (lawful : codec.Lawful) {labels parts : List (List Char)}
    (lower : ∀ label ∈ labels, ∀ char ∈ label, isCapital char = false)
    (accepted : labels.mapM codec.toAscii = some parts) :
    parts.length = labels.length ∧ ∀ part ∈ parts, Plain part := by
  induction labels generalizing parts with
  | nil =>
      rw [List.mapM_nil] at accepted
      obtain rfl := Option.some.inj accepted
      exact ⟨rfl, fun part member => absurd member List.not_mem_nil⟩
  | cons label labels induction =>
      rw [List.mapM_cons] at accepted
      obtain ⟨first, encoded, accepted⟩ := Option.bind_eq_some_iff.1 accepted
      obtain ⟨rest, others, same⟩ := Option.bind_eq_some_iff.1 accepted
      obtain rfl := Option.some.inj same
      obtain ⟨length, plain⟩ := induction (fun other member =>
        lower other (List.mem_cons_of_mem _ member)) others
      refine ⟨by rw [List.length_cons, length, List.length_cons], ?_⟩
      intro part member
      rcases List.mem_cons.1 member with rfl | later
      · exact plain_toAscii lawful (lower label List.mem_cons_self) encoded
      · exact plain part later

theorem joinLabels_cons (label : List Char) {labels : List (List Char)} (some_label : labels ≠ []) :
    joinLabels (label :: labels) = label ++ '.' :: joinLabels labels := by
  unfold joinLabels
  rw [List.intercalate_cons_of_ne_nil some_label, List.append_assoc]
  rfl

theorem small_joinLabels {parts : List (List Char)} (plain : ∀ part ∈ parts, Plain part) :
    ∀ char ∈ joinLabels parts, isSmall char = true := by
  induction parts with
  | nil => exact fun char member => absurd member List.not_mem_nil
  | cons part parts induction =>
      have here := (plain part List.mem_cons_self).small
      have rest := induction fun other member => plain other (List.mem_cons_of_mem _ member)
      by_cases last : parts = []
      · subst last
        intro char member
        have single : joinLabels [part] = part := List.intercalate_singleton
        exact here char (single ▸ member)
      · rw [joinLabels_cons part last]
        intro char member
        rcases List.mem_append.1 member with inside | inside
        · exact here char inside
        · rcases List.mem_cons.1 inside with rfl | inside
          · decide
          · exact rest char inside

theorem infix_joinLabels {label : List Char} {labels : List (List Char)} (member : label ∈ labels) :
    label <:+: joinLabels labels := by
  induction labels with
  | nil => exact absurd member List.not_mem_nil
  | cons first labels induction =>
      by_cases last : labels = []
      · subst last
        obtain rfl := List.mem_singleton.1 member
        have single : joinLabels [label] = label := List.intercalate_singleton
        rw [single]
      · rw [joinLabels_cons first last]
        rcases List.mem_cons.1 member with rfl | later
        · exact (List.prefix_append _ _).isInfix
        · have rest : joinLabels labels <:+: first ++ '.' :: joinLabels labels :=
            ⟨first ++ ['.'], [], by simp⟩
          exact (induction later).trans rest

/-- The labels of a short text are short. -/
theorem short_pieces {text : List Char} (short : text.length < 64) :
    ∀ piece ∈ text.splitOn '.', piece.length < 64 := by
  intro piece member
  have within := infix_joinLabels member
  unfold joinLabels at within
  rw [List.intercalate_splitOn] at within
  exact Nat.lt_of_le_of_lt within.length_le short

/-- Joining labels cuts them further only where they have full stops of their own. -/
theorem short_joinLabels {parts : List (List Char)} (short : ∀ part ∈ parts, part.length < 64) :
    ∀ piece ∈ (joinLabels parts).splitOn '.', piece.length < 64 := by
  induction parts with
  | nil => exact short_pieces (by decide)
  | cons part parts induction =>
      have here := short_pieces (short part List.mem_cons_self)
      by_cases last : parts = []
      · subst last
        have single : joinLabels [part] = part := List.intercalate_singleton
        rw [single]
        exact here
      · rw [joinLabels_cons part last, List.splitOn_append_cons_self]
        intro piece member
        rcases List.mem_append.1 member with inside | inside
        · exact here piece inside
        · exact induction (fun other listed => short other (List.mem_cons_of_mem _ listed)) piece
            inside

/-- What joins at least two labels has a full stop inside. -/
theorem dotted_joinLabels {first : List Char} {parts : List (List Char)} (some_first : first ≠ [])
    (some_part : parts ≠ []) (filled : ∀ part ∈ parts, part ≠ []) (tail : List Char) :
    ∃ front back, front ≠ [] ∧ back ≠ [] ∧
      joinLabels (first :: parts) ++ tail = front ++ '.' :: back := by
  refine ⟨first, joinLabels parts ++ tail, some_first, ?_, ?_⟩
  · intro empty
    obtain ⟨part, member⟩ := List.exists_mem_of_ne_nil parts some_part
    have within := infix_joinLabels member
    rw [(List.append_eq_nil_iff.1 empty).1, List.infix_nil] at within
    exact filled part member within
  · rw [joinLabels_cons first some_part, List.append_assoc]
    rfl

end Labels

section Names

variable {codec}

/-- What is said of the ASCII form of a name. -/
structure Encoded (encoded : List Char) : Prop where
  small : ∀ char ∈ encoded, isSmall char = true
  short : ∀ label ∈ encoded.splitOn '.', label.length < 64
  dotted : ∃ front back, front ≠ [] ∧ back ≠ [] ∧ encoded = front ++ '.' :: back

theorem short_of_labelsFit {name : List Char} (fitting : labelsFit name = true) :
    ∀ label ∈ name.splitOn '.', label.length < 64 := by
  unfold labelsFit at fitting
  rw [Bool.and_eq_true, List.all_eq_true, decide_eq_true_eq] at fitting
  have split := List.dropLast_append_getLast (List.splitOn_ne_nil '.' name)
  intro label member
  rw [← split, List.mem_append, List.mem_singleton] at member
  rcases member with early | last
  · exact (fits_iff.1 (fitting.1 label early)).2
  · rw [List.getLast?_eq_some_getLast (List.splitOn_ne_nil '.' name), Option.getD_some] at fitting
    rw [last]
    exact fitting.2

theorem lower_pieces {name : List Char} (lower : ∀ char ∈ name, isCapital char = false)
    (stops : Char → Bool) :
    ∀ label ∈ name.splitOnP stops, ∀ char ∈ label, isCapital char = false := by
  induction name with
  | nil =>
      intro label member char inside
      rw [List.splitOnP_nil, List.mem_singleton] at member
      rw [member] at inside
      cases inside
  | cons first name induction =>
      have rest := induction fun char member => lower char (List.mem_cons_of_mem _ member)
      rw [List.splitOnP_cons_eq_if_modifyHead]
      by_cases stopped : stops first = true
      · rw [if_pos stopped]
        intro label member
        rcases List.mem_cons.1 member with rfl | later
        · exact fun char inside => absurd inside List.not_mem_nil
        · exact rest label later
      · rw [if_neg stopped]
        cases pieces : name.splitOnP stops with
        | nil => exact absurd pieces (List.splitOnP_ne_nil _ _)
        | cons piece pieces' =>
            rw [pieces] at rest
            intro label member
            rcases List.mem_cons.1 member with rfl | later
            · intro char inside
              rcases List.mem_cons.1 inside with rfl | inside
              · exact lower char List.mem_cons_self
              · exact rest piece List.mem_cons_self char inside
            · exact rest label (List.mem_cons_of_mem _ later)

theorem encoded_of_labels (lawful : codec.Lawful) {labels parts : List (List Char)}
    (lower : ∀ label ∈ labels, ∀ char ∈ label, isCapital char = false) (several : 2 ≤ labels.length)
    (accepted : labels.mapM codec.toAscii = some parts) {tail : List Char}
    (stop : tail = [] ∨ tail = ['.']) : Encoded (joinLabels parts ++ tail) := by
  obtain ⟨length, plain⟩ := plain_mapM lawful lower accepted
  refine ⟨?_, ?_, ?_⟩
  · intro char member
    rcases List.mem_append.1 member with inside | inside
    · exact small_joinLabels plain char inside
    · rcases stop with rfl | rfl
      · cases inside
      · rw [List.mem_singleton.1 inside]
        decide
  · have short := short_joinLabels fun part member => (plain part member).short
    rcases stop with rfl | rfl
    · rw [List.append_nil]
      exact short
    · rw [List.splitOn_append_cons_self]
      intro label member
      rcases List.mem_append.1 member with inside | inside
      · exact short label inside
      · rw [List.splitOn_nil, List.mem_singleton] at inside
        rw [inside]
        decide
  · cases parts with
    | nil =>
        rw [List.length_nil] at length
        omega
    | cons first parts =>
        apply dotted_joinLabels (plain first List.mem_cons_self).filled
        · rintro rfl
          rw [List.length_singleton] at length
          omega
        · exact fun part member => (plain part (List.mem_cons_of_mem _ member)).filled

theorem encoded_of_encode (lawful : codec.Lawful) {name encoded first second : List Char}
    (lower : ∀ char ∈ name, isCapital char = false) (some_first : first ≠ [])
    (some_second : second ≠ []) (split : name = first ++ '.' :: second)
    (accepted : codec.encode name = some encoded) : Encoded encoded := by
  have some_name : ¬ name.isEmpty = true := by
    rw [split, List.isEmpty_iff]
    exact fun empty => some_first (List.append_eq_nil_iff.1 empty).1
  unfold encode at accepted
  rw [if_neg some_name] at accepted
  by_cases ascii : name.all isAscii = true
  · rw [if_pos ascii, Option.ite_none_right_eq_some] at accepted
    obtain ⟨fitting, same⟩ := accepted
    obtain rfl := Option.some.inj same
    exact ⟨small_of_ascii ascii lower, short_of_labelsFit fitting, first, second, some_first,
      some_second, split⟩
  · rw [if_neg ascii] at accepted
    have pieces : name.splitOnP isDot = first.splitOnP isDot ++ second.splitOnP isDot := by
      rw [split]
      exact List.splitOnP_append_cons first second rfl
    have lower_labels := lower_pieces lower isDot
    have front := List.length_pos_iff.2 (List.splitOnP_ne_nil isDot first)
    have back := List.length_pos_iff.2 (List.splitOnP_ne_nil isDot second)
    by_cases trailing : (name.splitOnP isDot).getLast? = some []
    · rw [if_pos trailing] at accepted
      obtain ⟨parts, encodes, rfl⟩ := Option.map_eq_some_iff.1 accepted
      apply encoded_of_labels lawful ?_ ?_ encodes (Or.inr rfl)
      · exact fun label member => lower_labels label (List.mem_of_mem_dropLast member)
      · -- the last label is not the only one of the second part, which is not empty
        have several : 2 ≤ (second.splitOnP isDot).length := by
          by_contra few
          have one : (second.splitOnP isDot).length = 1 := by omega
          obtain ⟨only, alone⟩ := List.length_eq_one_iff.1 one
          rw [pieces, alone, List.getLast?_append_of_ne_nil _ (List.cons_ne_nil _ _),
            List.getLast?_singleton] at trailing
          obtain rfl := Option.some.inj trailing
          cases second with
          | nil => exact some_second rfl
          | cons char second =>
              rw [List.splitOnP_cons_eq_if_modifyHead] at alone
              split_ifs at alone with stopped
              · exact List.splitOnP_ne_nil isDot second (List.cons.inj alone).2
              · cases rest : second.splitOnP isDot with
                | nil => exact List.splitOnP_ne_nil isDot second rest
                | cons piece others =>
                    rw [rest] at alone
                    cases (List.cons.inj alone).1
        rw [List.length_dropLast, pieces, List.length_append]
        omega
    · rw [if_neg trailing] at accepted
      obtain ⟨parts, encodes, rfl⟩ := Option.map_eq_some_iff.1 accepted
      rw [← List.append_nil (joinLabels parts)]
      apply encoded_of_labels lawful lower_labels ?_ encodes (Or.inl rfl)
      rw [pieces, List.length_append]
      omega

theorem encode_ascii {name encoded : List Char} (ascii : ∀ char ∈ name, isAscii char = true)
    (accepted : codec.encode name = some encoded) : encoded = name := by
  unfold encode at accepted
  by_cases empty : name.isEmpty = true
  · rw [if_pos empty] at accepted
    rw [List.isEmpty_iff.1 empty]
    exact (Option.some.inj accepted).symm
  · rw [if_neg empty, if_pos (List.all_eq_true.2 ascii), Option.ite_none_right_eq_some] at accepted
    exact (Option.some.inj accepted.2).symm

/-- No label before the last is empty. -/
def Filled (name : List Char) : Prop := ∀ label ∈ (name.splitOn '.').dropLast, label ≠ []

theorem encode_of_encoded {encoded : List Char} (facts : Encoded encoded) :
    codec.encode encoded = some encoded ↔ Filled encoded := by
  obtain ⟨front, back, some_front, -, split⟩ := facts.dotted
  have some_name : ¬ encoded.isEmpty = true := by
    rw [split, List.isEmpty_iff]
    exact fun empty => some_front (List.append_eq_nil_iff.1 empty).1
  have ascii : encoded.all isAscii = true := by
    rw [List.all_eq_true]
    intro char member
    have small := facts.small char member
    unfold isSmall at small
    rw [Bool.and_eq_true] at small
    exact small.1
  have last : ((encoded.splitOn '.').getLast?.getD []).length < 64 := by
    rw [List.getLast?_eq_some_getLast (List.splitOn_ne_nil '.' encoded), Option.getD_some]
    exact facts.short _ (List.getLast_mem _)
  unfold encode
  rw [if_neg some_name, if_pos ascii, Option.ite_none_right_eq_some]
  unfold labelsFit Filled
  rw [Bool.and_eq_true, List.all_eq_true, decide_eq_true_eq]
  constructor
  · intro fitting label member
    exact (fits_iff.1 (fitting.1.1 label member)).1
  · intro filled
    refine ⟨⟨?_, last⟩, rfl⟩
    intro label member
    exact fits_iff.2 ⟨filled label member, facts.short label (List.mem_of_mem_dropLast member)⟩

end Names

end Idna

end Text
