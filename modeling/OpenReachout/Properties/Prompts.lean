import OpenReachout.Core.Variables
import OpenReachout.Text.Cutting

/-!
# What a prompt becomes

Every slot of a prompt is replaced, once. What comes from outside stands beside the
text, and no word of it in the text.
-/

namespace OpenReachout

open Text Text.Regex Text.Platform Variables

set_option autoImplicit false

section Slots

/-- A name that a slot may have. -/
def SlotName (name : List Char) : Prop :=
  ∃ first rest, name = first :: rest ∧ isSlotStart first = true ∧ rest.all isSlotChar = true

/-- A slot as a prompt spells it. -/
def SpellsSlot (name written : List Char) : Prop :=
  ∃ left right, left.all isSpace = true ∧ right.all isSpace = true ∧
    written = "\x7b\x7b".toList ++ (left ++ (name ++ (right ++ "\x7d\x7d".toList)))

def IsSlot (written : List Char) : Prop := ∃ name, SlotName name ∧ SpellsSlot name written

variable (isWord : Char → Bool)

theorem reads_slotRe : Reads isWord slotRe IsSlot := by
  intro before rest next
  have parts := reads_seq isWord (reads_literal isWord "\x7b\x7b")
    (reads_seq isWord (reads_star_set isWord isSpace)
      (reads_seq isWord (reads_set isWord isSlotStart)
        (reads_seq isWord (reads_star_set isWord isSlotChar)
          (reads_seq isWord (reads_star_set isWord isSpace)
            (reads_seq isWord (reads_literal isWord "\x7d\x7d") (reads_empty isWord))))))
    before rest next
  apply parts.trans
  apply exists_congr
  intro taken
  apply and_congr_left
  intro _
  constructor
  · rintro ⟨_, _, rfl, ⟨left, _, blank, ⟨_, _, ⟨first, start, rfl⟩, ⟨rest, _, plain,
      ⟨right, _, blank', ⟨_, _, rfl, rfl, rfl⟩, rfl⟩, rfl⟩, rfl⟩, rfl⟩, rfl⟩
    refine ⟨first :: rest, ⟨first, rest, rfl, start, plain⟩, left, right, blank, blank', ?_⟩
    simp only [List.cons_append, List.nil_append, List.append_nil]
  · rintro ⟨_, ⟨first, rest, rfl, start, plain⟩, left, right, blank, blank', rfl⟩
    refine ⟨_, _, rfl, ⟨left, _, blank, ⟨_, _, ⟨first, start, rfl⟩, ⟨rest, _, plain,
      ⟨right, _, blank', ⟨_, _, rfl, rfl, rfl⟩, rfl⟩, rfl⟩, rfl⟩, rfl⟩, ?_⟩
    simp only [List.cons_append, List.nil_append, List.append_nil]

theorem isSlotChar_toNat {char : Char} (plain : isSlotChar char = true) :
    char.toNat = 46 ∨ char.toNat = 95 ∨ (48 ≤ char.toNat ∧ char.toNat ≤ 57) ∨
      (65 ≤ char.toNat ∧ char.toNat ≤ 90) ∨ (97 ≤ char.toNat ∧ char.toNat ≤ 122) := by
  have at_most : ∀ low high : Char, low ≤ high ↔ low.toNat ≤ high.toNat := fun low high =>
    UInt32.le_iff_toNat_le
  unfold isSlotChar at plain
  unfold isSlotStart at plain
  simp only [Bool.or_eq_true, Bool.and_eq_true, decide_eq_true_eq, at_most, ← Char.toNat_inj,
    Char.reduceToNat] at plain
  omega

theorem not_isSpace_of_isSlotChar {char : Char} (plain : isSlotChar char = true) :
    isSpace char = false := by
  have code := isSlotChar_toNat plain
  rw [← Bool.not_eq_true]
  intro blank
  unfold isSpace at blank
  simp only [Bool.or_eq_true, Bool.and_eq_true, decide_eq_true_eq] at blank
  omega

/-- What stands between the braces of a slot. -/
theorem inside_of_isSlot {written : List Char} (slot : IsSlot written) :
    ∃ inside, inside ≠ [] ∧ (∀ char ∈ inside, char ≠ '\x7b' ∧ char ≠ '\x7d') ∧
      written = '\x7b' :: '\x7b' :: (inside ++ ['\x7d', '\x7d']) := by
  obtain ⟨name, ⟨first, rest, rfl, start, plain⟩, left, right, blank, blank', rfl⟩ := slot
  refine ⟨left ++ (first :: rest ++ right), by simp, ?_, by simp⟩
  intro char member
  have kind : isSpace char = true ∨ isSlotChar char = true := by
    simp only [List.mem_append, List.mem_cons] at member
    rcases member with before | (rfl | inner) | after
    · exact Or.inl (List.all_eq_true.1 blank char before)
    · refine Or.inr ?_
      unfold isSlotChar
      rw [start]
      rfl
    · exact Or.inr (List.all_eq_true.1 plain char inner)
    · exact Or.inl (List.all_eq_true.1 blank' char after)
  constructor
  · rintro rfl
    revert kind
    decide
  · rintro rfl
    revert kind
    decide

theorem isSlot_prefixFree : PrefixFree IsSlot := by
  intro taken other after later slot other_slot same
  obtain ⟨inside, -, plain, rfl⟩ := inside_of_isSlot slot
  obtain ⟨inside', -, plain', rfl⟩ := inside_of_isSlot other_slot
  have until_brace : ∀ inside rest : List Char, (∀ char ∈ inside, char ≠ '\x7b' ∧ char ≠ '\x7d') →
      (inside ++ '\x7d' :: rest).takeWhile (· ≠ '\x7d') = inside := by
    intro inside rest plain
    rw [List.takeWhile_append_of_pos]
    · simp
    · intro char member
      exact decide_eq_true (plain char member).2
  simp only [List.cons_append, List.append_assoc, List.cons.injEq, true_and, List.nil_append] at same
  have cut := congrArg (List.takeWhile (· ≠ '\x7d')) same
  rw [until_brace inside _ plain, until_brace inside' _ plain'] at cut
  rw [cut]

theorem slotName_filter {name written : List Char} (named : SlotName name)
    (spelled : SpellsSlot name written) : slotOf written = name := by
  obtain ⟨first, rest, rfl, start, plain⟩ := named
  obtain ⟨left, right, blank, blank', rfl⟩ := spelled
  have none_blank : ∀ {spaces : List Char}, spaces.all isSpace = true →
      spaces.filter isSlotChar = [] := by
    intro spaces blank
    rw [List.filter_eq_nil_iff]
    intro char member slotChar
    have space := List.all_eq_true.1 blank char member
    rw [not_isSpace_of_isSlotChar slotChar] at space
    cases space
  have kept : (first :: rest).filter isSlotChar = first :: rest := by
    rw [List.filter_eq_self]
    intro char member
    rcases List.mem_cons.1 member with rfl | inner
    · unfold isSlotChar
      rw [start]
      rfl
    · exact List.all_eq_true.1 plain char inner
  unfold slotOf
  rw [List.filter_append, List.filter_append, List.filter_append, List.filter_append,
    none_blank blank, none_blank blank', kept]
  have braces : "\x7b\x7b".toList.filter isSlotChar = [] ∧ "\x7d\x7d".toList.filter isSlotChar = [] := by
    decide
  rw [braces.1, braces.2]
  simp

/-- No slot begins inside a slot. -/
theorem slots_apart (before early late after found rest : List Char)
    (matched : slotRe.matchAt isWord before (early ++ late ++ after) = some (early ++ late, after))
    (some_early : early ≠ []) (some_late : late ≠ [])
    (inner : slotRe.matchAt isWord (early.reverse ++ before) (late ++ after) =
      some (found, rest)) : found = [] := by
  have outer := ((matchAt_iff (reads_slotRe isWord) isSlot_prefixFree _ _ _ _).1 matched).1
  obtain ⟨slot, split⟩ := (matchAt_iff (reads_slotRe isWord) isSlot_prefixFree _ _ _ _).1 inner
  obtain ⟨inside, some_inside, plain, whole⟩ := inside_of_isSlot outer
  obtain ⟨inside', -, -, rfl⟩ := inside_of_isSlot slot
  exfalso
  cases early with
  | nil => exact some_early rfl
  | cons first early =>
      simp only [List.cons_append, List.cons.injEq] at whole
      cases early with
      | nil =>
          rw [List.nil_append] at whole
          cases inside with
          | nil => exact some_inside rfl
          | cons char inside =>
              rw [whole.2] at split
              simp only [List.cons_append, List.cons.injEq] at split
              exact (plain char List.mem_cons_self).1 split.2.1
      | cons second early =>
          simp only [List.cons_append, List.cons.injEq] at whole
          cases late with
          | nil => exact some_late rfl
          | cons char late =>
              simp only [List.cons_append, List.cons.injEq] at split
              have member : '\x7b' ∈ inside ++ ['\x7d', '\x7d'] := by
                rw [← whole.2.2, split.1]
                simp
              rcases List.mem_append.1 member with inner | brace
              · exact (plain _ inner).1 rfl
              · simp at brace

end Slots

section Filling

/-- A slot of a prompt, and the text since the slot before it. -/
structure Occurrence where
  before : List Char
  slot : List Char
  written : List Char

def Occurrence.text (occurrence : Occurrence) : List Char :=
  occurrence.before ++ occurrence.written

/-- The slots of a prompt in their order: these and no others. -/
structure SlotsOf (prompt : List Char) (occurrences : List Occurrence) (tail : List Char) :
    Prop where
  join : prompt = occurrences.flatMap Occurrence.text ++ tail
  spelled : ∀ occurrence ∈ occurrences,
    SlotName occurrence.slot ∧ SpellsSlot occurrence.slot occurrence.written
  every : ∀ early slot written late, prompt = early ++ (written ++ late) → SlotName slot →
    SpellsSlot slot written → ∃ front before back,
      occurrences = front ++ ⟨before, slot, written⟩ :: back ∧
        early = front.flatMap Occurrence.text ++ before

def occurrenceOf (piece : List Char × List Char) : Occurrence := ⟨piece.1, slotOf piece.2, piece.2⟩

theorem slots_of_cutText (isWord : Char → Bool) (prompt : List Char) :
    SlotsOf prompt ((slotRe.cutText isWord prompt).1.map occurrenceOf)
      (slotRe.cutText isWord prompt).2 := by
  have cut := cut_cutText isWord slotRe prompt
  have texts : ∀ pieces : List (List Char × List Char),
      (pieces.map occurrenceOf).flatMap Occurrence.text =
        pieces.flatMap fun piece => piece.1 ++ piece.2 := by
    intro pieces
    rw [List.flatMap_map]
    rfl
  constructor
  case join =>
    rw [texts]
    exact cut.join
  case spelled =>
    intro occurrence member
    obtain ⟨piece, inside, rfl⟩ := List.mem_map.1 member
    obtain ⟨name, named, spelled⟩ := cut.accepts (reads_slotRe isWord) piece inside
    have slot := slotName_filter named spelled
    change SlotName (slotOf piece.2) ∧ SpellsSlot (slotOf piece.2) piece.2
    rw [slot]
    exact ⟨named, spelled⟩
  case every =>
    intro early slot written late split named spelled
    have matched : slotRe.matchAt isWord (early.reverse ++ []) (written ++ late) =
        some (written, late) :=
      (matchAt_iff (reads_slotRe isWord) isSlot_prefixFree _ _ _ _).2 ⟨⟨slot, named, spelled⟩, rfl⟩
    have some_written : written ≠ [] := by
      obtain ⟨_, _, _, _, rfl⟩ := spelled
      exact List.cons_ne_nil _ _
    obtain ⟨front, before, back, pieces, rfl⟩ :=
      cut.mem_of_match (slots_apart isWord) split some_written matched
    refine ⟨front.map occurrenceOf, before, back.map occurrenceOf, ?_, ?_⟩
    · rw [pieces, List.map_append, List.map_cons]
      congr 2
      unfold occurrenceOf
      rw [slotName_filter named spelled]
    · rw [texts]

variable (platform : Platform) (registry : Registry)

/-- What stands in the text for a slot. -/
def standsFor (values : List (List Char × ResolvedValue)) (slot : List Char) : List Char :=
  if lookupSlot slot registry = some .untrusted then markerFor slot
  else ((values.lookup slot).map ResolvedValue.value).getD []

/-- The slots have values of the classes that the registry gives them. -/
structure Fills (values : List (List Char × ResolvedValue)) (occurrences : List Occurrence)
    (tail : List Char) (resolved : ResolvedPrompt) : Prop where
  valued : ∀ occurrence ∈ occurrences, ∃ value, values.lookup occurrence.slot = some value ∧
    lookupSlot occurrence.slot registry = some value.trust
  text : resolved.text = occurrences.flatMap (fun occurrence =>
    occurrence.before ++ standsFor registry values occurrence.slot) ++ tail
  untrusted : resolved.untrusted.map some =
    (occurrences.filter fun occurrence =>
      lookupSlot occurrence.slot registry = some .untrusted).map fun occurrence =>
        values.lookup occurrence.slot

theorem substitute_ok_iff (values : List (List Char × ResolvedValue)) (found put : List Char)
    (value : ResolvedValue) :
    substitute platform values registry found = .ok (put, value) ↔
      values.lookup (slotOf found) = some value ∧
        lookupSlot (slotOf found) registry = some value.trust ∧
        put = standsFor registry values (slotOf found) := by
  unfold substitute standsFor
  dsimp only
  cases known : lookupSlot (slotOf found) registry with
  | none =>
      constructor
      · intro impossible
        cases impossible
      · rintro ⟨-, impossible, -⟩
        cases impossible
  | some trust =>
      cases there : values.lookup (slotOf found) with
      | none =>
          constructor
          · intro impossible
            cases impossible
          · rintro ⟨impossible, -, -⟩
            cases impossible
      | some other =>
          dsimp only
          by_cases differs : other.trust = trust
          · rw [if_neg (not_not.2 differs)]
            by_cases outside : trust = .untrusted
            · rw [if_pos outside, if_pos (congrArg some outside)]
              constructor
              · intro same
                cases same
                exact ⟨rfl, congrArg some differs.symm, rfl⟩
              · rintro ⟨same, -, rfl⟩
                rw [Option.some.inj same]
            · rw [if_neg outside, if_neg fun same => outside (Option.some.inj same)]
              constructor
              · intro same
                cases same
                exact ⟨rfl, congrArg some differs.symm, rfl⟩
              · rintro ⟨same, -, rfl⟩
                rw [Option.some.inj same]
                rfl
          · rw [if_pos differs]
            constructor
            · intro impossible
              cases impossible
            · rintro ⟨same, known, -⟩
              rw [Option.some.inj same] at differs
              exact absurd (Option.some.inj known).symm differs

/-- The step of `resolve` at one slot. -/
def fillPiece (values : List (List Char × ResolvedValue)) (piece : List Char × List Char) :
    Except Exc (List Char × ResolvedValue) := do
  let put ← substitute platform values registry piece.2
  pure (piece.1 ++ put.1, put.2)

theorem fillPiece_ok {values : List (List Char × ResolvedValue)} {piece : List Char × List Char}
    {part : List Char × ResolvedValue}
    (filled : fillPiece platform registry values piece = .ok part) :
    values.lookup (slotOf piece.2) = some part.2 ∧
      lookupSlot (slotOf piece.2) registry = some part.2.trust ∧
      part.1 = piece.1 ++ standsFor registry values (slotOf piece.2) := by
  unfold fillPiece at filled
  cases put : substitute platform values registry piece.2 with
  | error error =>
      rw [put] at filled
      cases filled
  | ok found =>
      rw [put] at filled
      cases filled
      obtain ⟨there, known, text⟩ :=
        (substitute_ok_iff platform registry values piece.2 found.1 found.2).1 put
      exact ⟨there, known, congrArg (piece.1 ++ ·) text⟩

theorem fillPieces_ok {values : List (List Char × ResolvedValue)}
    {pieces : List (List Char × List Char)} {parts : List (List Char × ResolvedValue)}
    (filled : pieces.mapM (fillPiece platform registry values) = .ok parts) (tail : List Char) :
    Fills registry values (pieces.map occurrenceOf) tail
      { text := parts.flatMap Prod.fst ++ tail
        untrusted := (parts.map Prod.snd).filter fun value => value.trust = .untrusted
        resolved := parts.map Prod.snd } := by
  induction pieces generalizing parts with
  | nil =>
      rw [List.mapM_nil] at filled
      cases filled
      exact ⟨fun _ member => absurd member List.not_mem_nil, rfl, rfl⟩
  | cons piece pieces induction =>
      rw [List.mapM_cons] at filled
      cases first : fillPiece platform registry values piece with
      | error error =>
          rw [first] at filled
          cases filled
      | ok part =>
          cases others : pieces.mapM (fillPiece platform registry values) with
          | error error =>
              rw [first, others] at filled
              cases filled
          | ok rest =>
              rw [first, others] at filled
              cases filled
              obtain ⟨there, known, put⟩ := fillPiece_ok platform registry first
              have filled := induction others
              constructor
              case valued =>
                intro occurrence member
                rcases List.mem_cons.1 member with rfl | later
                · exact ⟨part.2, there, known⟩
                · exact filled.valued occurrence later
              case text =>
                have text := filled.text
                simp only at text
                simp only [List.flatMap_cons, List.map_cons, List.append_assoc, put, text]
                rfl
              case untrusted =>
                have untrusted := filled.untrusted
                simp only at untrusted
                simp only [List.map_cons, List.filter_cons]
                change _ = List.map _ (if decide (lookupSlot (slotOf piece.2) registry =
                  some .untrusted) = true then _ else _)
                rw [known]
                by_cases outside : part.2.trust = .untrusted
                · rw [if_pos (decide_eq_true outside), if_pos (by rw [outside]; rfl), List.map_cons,
                    List.map_cons, untrusted]
                  exact congrArg (· :: _) there.symm
                · rw [if_neg (by simpa using outside), if_neg (by simpa using outside), untrusted]

theorem resolve_eq (prompt : List Char) (values : List (List Char × ResolvedValue)) :
    Variables.resolve platform prompt values registry =
      if (validatePrompt platform prompt registry).isEmpty = true then
        ((slotRe.cutText platform.isWord prompt).1.mapM
          (fillPiece platform registry values)).map fun parts =>
            { text := parts.flatMap Prod.fst ++ (slotRe.cutText platform.isWord prompt).2
              untrusted := (parts.map Prod.snd).filter fun value => value.trust = .untrusted
              resolved := parts.map Prod.snd }
      else .error ⟨.valueError, "unknown variable slot(s): " ++ ", ".intercalate
        (((validatePrompt platform prompt registry).map String.ofList).mergeSort
          fun first second => !(second < first))⟩ := by
  unfold Variables.resolve
  by_cases known : (validatePrompt platform prompt registry).isEmpty = true
  · rw [if_pos known]
    dsimp only
    rw [known]
    rfl
  · rw [if_neg known]
    rw [Bool.not_eq_true] at known
    dsimp only
    rw [known]
    rfl

/-- Two maps of values that differ in what comes from outside, and in nothing else. -/
def Alike (values others : List (List Char × ResolvedValue)) : Prop :=
  ∀ slot, (values.lookup slot).map ResolvedValue.trust =
      (others.lookup slot).map ResolvedValue.trust ∧
    (lookupSlot slot registry = some .trusted ∨ lookupSlot slot registry = some .prospect →
      values.lookup slot = others.lookup slot)

theorem substitute_alike {values others : List (List Char × ResolvedValue)}
    (alike : Alike registry values others) (found : List Char) :
    (substitute platform values registry found).map Prod.fst =
      (substitute platform others registry found).map Prod.fst := by
  obtain ⟨classes, same⟩ := alike (slotOf found)
  unfold substitute
  dsimp only
  cases known : lookupSlot (slotOf found) registry with
  | none => rfl
  | some trust =>
      rw [known] at same
      cases here : values.lookup (slotOf found) with
      | none =>
          rw [here] at classes
          cases there : others.lookup (slotOf found) with
          | none => rfl
          | some other =>
              rw [there] at classes
              cases classes
      | some value =>
          cases there : others.lookup (slotOf found) with
          | none =>
              rw [here, there] at classes
              cases classes
          | some other =>
              rw [here, there] at classes same
              have one_class : value.trust = other.trust := Option.some.inj classes
              dsimp only
              rw [one_class]
              by_cases differs : other.trust = trust
              · rw [if_neg (not_not.2 differs), if_neg (not_not.2 differs)]
                cases trust with
                | untrusted => rfl
                | trusted => rw [Option.some.inj (same (Or.inl rfl))]
                | prospect => rw [Option.some.inj (same (Or.inr rfl))]
              · rw [if_pos differs, if_pos differs]

theorem fillPiece_alike {values others : List (List Char × ResolvedValue)}
    (alike : Alike registry values others) (piece : List Char × List Char) :
    (fillPiece platform registry values piece).map Prod.fst =
      (fillPiece platform registry others piece).map Prod.fst := by
  have texts : ∀ values, (fillPiece platform registry values piece).map Prod.fst =
      ((substitute platform values registry piece.2).map Prod.fst).map (piece.1 ++ ·) := by
    intro values
    unfold fillPiece
    cases substitute platform values registry piece.2 with
    | error error => rfl
    | ok put => rfl
  rw [texts, texts, substitute_alike platform registry alike]

theorem map_mapM {Input Output Seen Error : Type} (step : Input → Except Error Output)
    (seen : Output → Seen) (inputs : List Input) :
    (inputs.mapM step).map (List.map seen) = inputs.mapM fun input => (step input).map seen := by
  induction inputs with
  | nil => rfl
  | cons input inputs induction =>
      rw [List.mapM_cons, List.mapM_cons, ← induction]
      cases step input with
      | error error => rfl
      | ok output =>
          cases inputs.mapM step with
          | error error => rfl
          | ok outputs => rfl

theorem fillPieces_alike {values others : List (List Char × ResolvedValue)}
    (alike : Alike registry values others) (pieces : List (List Char × List Char)) :
    (pieces.mapM (fillPiece platform registry values)).map (List.map Prod.fst) =
      (pieces.mapM (fillPiece platform registry others)).map (List.map Prod.fst) := by
  rw [map_mapM, map_mapM]
  congr 1
  funext piece
  exact fillPiece_alike platform registry alike piece

theorem resolve_alike {values others : List (List Char × ResolvedValue)}
    (alike : Alike registry values others) (prompt : List Char) :
    (Variables.resolve platform prompt values registry).map ResolvedPrompt.text =
      (Variables.resolve platform prompt others registry).map ResolvedPrompt.text := by
  have texts : ∀ values : List (List Char × ResolvedValue),
      (((slotRe.cutText platform.isWord prompt).1.mapM
        (fillPiece platform registry values)).map fun parts =>
          ({ text := parts.flatMap Prod.fst ++ (slotRe.cutText platform.isWord prompt).2
             untrusted := (parts.map Prod.snd).filter fun value => value.trust = .untrusted
             resolved := parts.map Prod.snd } : ResolvedPrompt)).map ResolvedPrompt.text =
        (((slotRe.cutText platform.isWord prompt).1.mapM
          (fillPiece platform registry values)).map (List.map Prod.fst)).map fun texts =>
            texts.flatten ++ (slotRe.cutText platform.isWord prompt).2 := by
    intro values
    cases (slotRe.cutText platform.isWord prompt).1.mapM (fillPiece platform registry values) with
    | error error => rfl
    | ok parts => rfl
  rw [resolve_eq, resolve_eq]
  by_cases known : (validatePrompt platform prompt registry).isEmpty = true
  · rw [if_pos known, if_pos known, texts, texts, fillPieces_alike platform registry alike]
  · rw [if_neg known, if_neg known]

theorem mapM_ok {Input Output Error : Type} {step : Input → Except Error Output}
    {inputs : List Input} (each : ∀ input ∈ inputs, ∃ output, step input = .ok output) :
    ∃ outputs, inputs.mapM step = .ok outputs := by
  induction inputs with
  | nil => exact ⟨[], rfl⟩
  | cons input inputs induction =>
      obtain ⟨output, here⟩ := each input List.mem_cons_self
      obtain ⟨outputs, there⟩ := induction fun other member =>
        each other (List.mem_cons_of_mem _ member)
      refine ⟨output :: outputs, ?_⟩
      rw [List.mapM_cons, here, there]
      rfl

/-- A prompt whose slots are known, and have values of the classes that they are known by,
can be resolved. -/
theorem resolve_ok {prompt : List Char} {values : List (List Char × ResolvedValue)}
    (known : validatePrompt platform prompt registry = [])
    (valued : ∀ slot ∈ extractSlots platform prompt, ∃ value, values.lookup slot = some value ∧
      lookupSlot slot registry = some value.trust) :
    ∃ resolved, Variables.resolve platform prompt values registry = .ok resolved := by
  have each : ∀ piece ∈ (slotRe.cutText platform.isWord prompt).1,
      ∃ part, fillPiece platform registry values piece = .ok part := by
    intro piece member
    have slot : slotOf piece.2 ∈ extractSlots platform prompt := by
      unfold extractSlots
      rw [List.mem_eraseDups]
      exact List.mem_map_of_mem (List.mem_map_of_mem member)
    obtain ⟨value, there, trust⟩ := valued _ slot
    have put := (substitute_ok_iff platform registry values piece.2 _ value).2 ⟨there, trust, rfl⟩
    unfold fillPiece
    rw [put]
    exact ⟨_, rfl⟩
  obtain ⟨parts, filled⟩ := mapM_ok each
  rw [resolve_eq, known, filled]
  exact ⟨_, rfl⟩

theorem resolve_fills {prompt : List Char} {values : List (List Char × ResolvedValue)}
    {resolved : ResolvedPrompt} (done : Variables.resolve platform prompt values registry = .ok resolved) :
    Fills registry values ((slotRe.cutText platform.isWord prompt).1.map occurrenceOf)
      (slotRe.cutText platform.isWord prompt).2 resolved := by
  rw [resolve_eq] at done
  by_cases known : (validatePrompt platform prompt registry).isEmpty = true
  · rw [if_pos known] at done
    cases parts : (slotRe.cutText platform.isWord prompt).1.mapM
        (fillPiece platform registry values) with
    | error error =>
        rw [parts] at done
        cases done
    | ok filled =>
        rw [parts] at done
        cases done
        exact fillPieces_ok platform registry parts _
  · rw [if_neg known] at done
    cases done

/-- No word from outside is in a prompt: values that differ there make one text. The text
is the prompt with every slot replaced once, and what is left out of it is listed in
order. -/
theorem untrusted_never_inline (prompt : List Char)
    (values others : List (List Char × ResolvedValue)) (alike : Alike registry values others) :
    (Variables.resolve platform prompt values registry).map ResolvedPrompt.text =
        (Variables.resolve platform prompt others registry).map ResolvedPrompt.text ∧
      ∀ resolved, Variables.resolve platform prompt values registry = .ok resolved →
        ∃ occurrences tail, SlotsOf prompt occurrences tail ∧
          Fills registry values occurrences tail resolved :=
  ⟨resolve_alike platform registry alike prompt, fun _ done =>
    ⟨_, _, slots_of_cutText platform.isWord prompt, resolve_fills platform registry done⟩⟩

def evidenceSlot : List Char := "evidence.a".toList

/-- A fact from outside, as the value of a slot. -/
def sampleFact (content : String) : List (List Char × ResolvedValue) :=
  [(evidenceSlot, { slot := evidenceSlot, value := content.toList, trust := .untrusted })]

theorem alike_sampleFact (content other : String) :
    Alike defaultRegistry (sampleFact content) (sampleFact other) := by
  intro slot
  unfold sampleFact
  rw [List.lookup_cons, List.lookup_cons]
  by_cases same : (slot == evidenceSlot) = true
  · rw [same, eq_of_beq same]
    refine ⟨rfl, fun trusted => ?_⟩
    have known : lookupSlot evidenceSlot defaultRegistry = some .untrusted := by
      decide +kernel
    rw [known] at trusted
    rcases trusted with impossible | impossible
    · cases impossible
    · cases impossible
  · rw [Bool.not_eq_true] at same
    rw [same]
    exact ⟨rfl, fun _ => rfl⟩

/-- A fact that spells a slot stays out of the text. -/
theorem slots_in_facts_inert :
    (Variables.resolve (Platform.ascii []) "\x7b\x7b evidence.a \x7d\x7d!".toList
        (sampleFact "\x7b\x7btenant.name\x7d\x7d")).map ResolvedPrompt.text =
      (Variables.resolve (Platform.ascii []) "\x7b\x7b evidence.a \x7d\x7d!".toList
        (sampleFact "nothing")).map ResolvedPrompt.text ∧
    (Variables.resolve (Platform.ascii []) "\x7b\x7b evidence.a \x7d\x7d!".toList
        (sampleFact "\x7b\x7btenant.name\x7d\x7d")).map ResolvedPrompt.text =
      .ok "[UNTRUSTED-REF:evidence.a]!".toList :=
  ⟨(untrusted_never_inline (Platform.ascii []) defaultRegistry _ _ _
      (alike_sampleFact "\x7b\x7btenant.name\x7d\x7d" "nothing")).1, by decide +kernel⟩

end Filling

end OpenReachout
