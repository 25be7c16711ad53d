import OpenReachout.Agents.Composer
import OpenReachout.Text.Cutting
import OpenReachout.Text.Hex

/-!
# Content cannot close its own envelope

The close tag, in any letter case, stands in an envelope once, at its end. So the
evidence of a prompt can be read back out of it.
-/

namespace OpenReachout

open Text Text.Regex Text.Platform Variables

set_option autoImplicit false

section Tags

/-- The close tag in any letter case. -/
def ClosesEnvelope (seen : List Char) : Prop := seen.map fold = closeTag.map fold

/-- No close tag is in the text. -/
def Tagless (text : List Char) : Prop :=
  ∀ before seen after, text = before ++ (seen ++ after) → ¬ ClosesEnvelope seen

/-- A close tag begins with `</`, ends with `>`, and has letters between. -/
theorem parts_of_closesEnvelope {seen : List Char} (closes : ClosesEnvelope seen) :
    ∃ inside, seen = '<' :: '/' :: (inside ++ ['>']) ∧
      (∀ char ∈ inside, char ≠ '<' ∧ char ≠ '>' ∧ char ≠ '\n') ∧ inside.length = 9 := by
  unfold ClosesEnvelope at closes
  have tag : closeTag.map fold = '<' :: '/' :: ("untrusted".toList ++ ['>']) := by decide
  rw [tag] at closes
  cases seen with
  | nil => cases closes
  | cons first seen =>
      cases seen with
      | nil => cases (List.cons.inj closes).2
      | cons second seen =>
          rw [List.map_cons, List.map_cons, List.cons.injEq, List.cons.injEq] at closes
          obtain ⟨opens, slash, rest⟩ := closes
          rw [fold_eq_iff (by decide)] at opens slash
          obtain ⟨inside, last, rfl, letters, ends⟩ := List.map_eq_append_iff.1 rest
          obtain ⟨final, none_left, rfl, closes, empty⟩ := List.map_eq_cons_iff.1 ends
          rw [List.map_eq_nil_iff] at empty
          rw [fold_eq_iff (by decide)] at closes
          refine ⟨inside, ?_, ?_, ?_⟩
          · rw [opens, slash, closes, empty]
          · intro char member
            have letter : fold char ∈ "untrusted".toList := by
              rw [← letters]
              exact List.mem_map_of_mem member
            have unlike : ∀ plain : Char, plain.toNat < 65 → plain ∉ "untrusted".toList →
                char ≠ plain := by
              intro plain low outside same
              rw [(fold_eq_iff low).2 same] at letter
              exact outside letter
            exact ⟨unlike '<' (by decide) (by decide), unlike '>' (by decide) (by decide),
              unlike '\n' (by decide) (by decide)⟩
          · have lengths := congrArg List.length letters
            rw [List.length_map] at lengths
            exact lengths

theorem closesEnvelope_prefixFree : PrefixFree ClosesEnvelope := by
  intro taken other after later closes other_closes same
  have lengths : taken.length = other.length := by
    have first := congrArg List.length closes
    have second := congrArg List.length other_closes
    rw [List.length_map] at first second
    rw [first, second]
  exact (List.append_inj same lengths).1

theorem not_nil_of_closesEnvelope {seen : List Char} (closes : ClosesEnvelope seen) :
    seen ≠ [] := by
  obtain ⟨inside, rfl, -⟩ := parts_of_closesEnvelope closes
  exact List.cons_ne_nil _ _

/-- A tag that goes over from one text to the next does not begin the second. -/
theorem crossing_begins {left right : List Char} {char : Char}
    (closes : ClosesEnvelope (left ++ char :: right)) (some_left : left ≠ []) :
    char ≠ '<' ∧ char ≠ '\n' := by
  obtain ⟨inside, whole, plain, -⟩ := parts_of_closesEnvelope closes
  cases left with
  | nil => exact absurd rfl some_left
  | cons first left =>
      rw [List.cons_append, List.cons.injEq] at whole
      have member : char ∈ '/' :: (inside ++ ['>']) := by
        rw [← whole.2]
        simp
      simp only [List.mem_cons, List.mem_append, List.not_mem_nil, or_false] at member
      rcases member with rfl | inner | rfl
      · exact ⟨by decide, by decide⟩
      · exact ⟨(plain _ inner).1, (plain _ inner).2.2⟩
      · exact ⟨by decide, by decide⟩

/-- Nor does it end with the first of them. -/
theorem crossing_ends {left right : List Char} {char : Char}
    (closes : ClosesEnvelope (left ++ [char] ++ right)) (some_right : right ≠ []) :
    char ≠ '>' ∧ char ≠ '\n' := by
  obtain ⟨inside, whole, plain, -⟩ := parts_of_closesEnvelope closes
  obtain ⟨right, last, rfl⟩ := (List.eq_nil_or_concat right).resolve_left some_right
  have front : left ++ [char] ++ right = '<' :: '/' :: inside := by
    have ends : (left ++ [char] ++ right) ++ [last] = ('<' :: '/' :: inside) ++ ['>'] := by
      rw [List.concat_eq_append, ← List.append_assoc] at whole
      exact whole
    exact (List.append_inj' ends rfl).1
  have member : char ∈ '<' :: '/' :: inside := by
    rw [← front]
    simp
  simp only [List.mem_cons] at member
  rcases member with rfl | rfl | inner
  · exact ⟨by decide, by decide⟩
  · exact ⟨by decide, by decide⟩
  · exact (plain _ inner).2

theorem tagless_append {left right : List Char} (tagless_left : Tagless left)
    (tagless_right : Tagless right)
    (apart : ∀ front back later, left = front ++ back → back ≠ [] → later <+: right →
      later ≠ [] → ¬ ClosesEnvelope (back ++ later)) : Tagless (left ++ right) := by
  intro before seen after split closes
  rcases List.append_eq_append_iff.1 split with ⟨more, longer, rest⟩ | ⟨more, shorter, rest⟩
  · exact tagless_right more seen after rest closes
  · rcases List.append_eq_append_iff.1 rest with ⟨ended, inside, after_eq⟩ | ⟨ended, seen_eq, rest⟩
    · rw [inside] at shorter
      exact tagless_left before seen ended shorter closes
    · by_cases at_once : more = []
      · rw [at_once, List.nil_append] at seen_eq
        rw [← seen_eq] at rest
        exact tagless_right [] seen after rest closes
      · by_cases all_left : ended = []
        · rw [all_left, List.append_nil] at seen_eq
          rw [← seen_eq] at shorter
          exact tagless_left before seen [] (by rw [shorter, List.append_nil]) closes
        · rw [seen_eq] at closes
          exact apart before more ended shorter at_once ⟨after, rest.symm⟩ all_left closes

/-- A text that begins with `<` or a new line holds no end of a tag before it. -/
theorem tagless_before_start {left right : List Char} {first : Char}
    (begins : first = '<' ∨ first = '\n') (tagless_left : Tagless left)
    (tagless_right : Tagless (first :: right)) : Tagless (left ++ first :: right) := by
  apply tagless_append tagless_left tagless_right
  intro front back later _ some_back start some_later closes
  cases later with
  | nil => exact some_later rfl
  | cons char later =>
      have same : char = first := (List.cons_prefix_cons.1 start).1
      have unlike := crossing_begins closes some_back
      rw [same] at unlike
      rcases begins with angle | line
      · exact unlike.1 angle
      · exact unlike.2 line

/-- A text that ends with `>` or a new line ends every tag that it holds a part of. -/
theorem tagless_after_end {left right : List Char} {final : Char}
    (ends : final = '>' ∨ final = '\n') (tagless_left : Tagless (left ++ [final]))
    (tagless_right : Tagless right) : Tagless (left ++ [final] ++ right) := by
  apply tagless_append tagless_left tagless_right
  intro front back later split some_back _ some_later closes
  obtain ⟨back, char, rfl⟩ := (List.eq_nil_or_concat back).resolve_left some_back
  rw [List.concat_eq_append] at closes split
  have unlike := crossing_ends closes some_later
  rw [← List.append_assoc] at split
  have same : final = char := List.head_eq_of_cons_eq (List.append_inj' split rfl).2
  rw [← same] at unlike
  rcases ends with angle | line
  · exact unlike.1 angle
  · exact unlike.2 line

theorem tagless_of_not_mem {text : List Char} (plain : '<' ∉ text) : Tagless text := by
  intro before seen after split closes
  obtain ⟨inside, rfl, -⟩ := parts_of_closesEnvelope closes
  apply plain
  rw [split]
  simp

/-- An angle bracket without a slash after it opens no close tag. -/
theorem tagless_of_open {char : Char} {rest : List Char} (opens : char ≠ '/')
    (plain : '<' ∉ char :: rest) : Tagless ('<' :: char :: rest) := by
  intro before seen after split closes
  obtain ⟨inside, rfl, -⟩ := parts_of_closesEnvelope closes
  cases before with
  | nil =>
      simp only [List.nil_append, List.cons_append, List.cons.injEq] at split
      exact opens split.2.1
  | cons first before =>
      simp only [List.cons_append, List.cons.injEq] at split
      apply plain
      rw [split.2]
      simp

end Tags

section Escaping

variable {isWord : Char → Bool}

theorem reads_escapeRe : Reads isWord escapeRe ClosesEnvelope := reads_word isWord "</untrusted>"

theorem tagless_of_clear {before plain rest : List Char}
    (clear : Clear isWord escapeRe before plain rest) : Tagless plain := by
  intro early seen late split closes
  have some_late : seen ++ late ≠ [] := by
    simp [not_nil_of_closesEnvelope closes]
  have matched : escapeRe.matchAt isWord (early.reverse ++ before) (seen ++ late ++ rest) =
      some (seen, late ++ rest) :=
    (matchAt_iff reads_escapeRe closesEnvelope_prefixFree _ _ _ _).2
      ⟨closes, List.append_assoc _ _ _⟩
  exact not_nil_of_closesEnvelope closes
    (clear early (seen ++ late) split some_late seen (late ++ rest) matched)

/-- Before a tag of its own, a text without tags that ends its line is clear. -/
theorem clear_of_tagless {plain : List Char} (tagless : Tagless (plain ++ ['\n']))
    (before rest : List Char) : Clear isWord escapeRe before (plain ++ ['\n']) rest := by
  intro early late split some_late found after matched
  obtain ⟨closes, same⟩ := (matchAt_iff reads_escapeRe closesEnvelope_prefixFree _ _ _ _).1 matched
  exfalso
  rcases List.append_eq_append_iff.1 same with ⟨more, longer, rest⟩ | ⟨more, shorter, rest⟩
  · by_cases inside : more = []
    · rw [inside, List.append_nil] at longer
      rw [← longer] at split
      exact tagless early found [] (by rw [split, List.append_nil]) closes
    · obtain ⟨late, char, rfl⟩ := (List.eq_nil_or_concat late).resolve_left some_late
      rw [List.concat_eq_append] at longer split
      rw [longer] at closes
      rw [← List.append_assoc] at split
      have line : '\n' = char := List.head_eq_of_cons_eq (List.append_inj' split rfl).2
      exact (crossing_ends closes inside).2 line.symm
  · rw [shorter] at split
    exact tagless early found more split closes

theorem clear_last_of_tagless {plain : List Char} (tagless : Tagless plain) (before : List Char) :
    Clear isWord escapeRe before plain [] := by
  intro early late split _ found after matched
  obtain ⟨closes, same⟩ := (matchAt_iff reads_escapeRe closesEnvelope_prefixFree _ _ _ _).1 matched
  rw [List.append_nil] at same
  rw [same] at split
  exact absurd closes (tagless early found after split)

theorem tagless_escapedTag : Tagless escapedTag := by
  apply tagless_of_open
  · decide
  · decide

/-- Escaping leaves no close tag, and makes none. -/
theorem tagless_of_cut {before text tail : List Char} {pieces : List (List Char × List Char)}
    (cut : Cut isWord escapeRe before text pieces tail) :
    Tagless ((pieces.flatMap fun piece => piece.1 ++ escapedTag) ++ tail) := by
  induction cut with
  | last before plain clear => exact tagless_of_clear clear
  | next before plain found after pieces tail clear some_found matched others induction =>
      rw [List.flatMap_cons, List.append_assoc, List.append_assoc]
      have whole : escapedTag = "<⁄untrusted".toList ++ ['>'] := rfl
      apply tagless_before_start (Or.inl rfl) (tagless_of_clear clear)
      have tagless := tagless_escapedTag
      rw [whole] at tagless
      exact tagless_after_end (Or.inl rfl) tagless induction

theorem tagless_escapeContent (platform : Platform) (content : List Char) :
    Tagless (escapeContent platform content) :=
  tagless_of_cut (cut_cutText platform.isWord escapeRe content)

end Escaping

section Wrapping

variable (platform : Platform)

/-- The labels of envelopes: fact ids, names of slots, and the sources. -/
def Label (text : List Char) : Prop :=
  ∀ char ∈ text, (isSlotChar char || char = '-' || char = ':') = true

/-- What stands in an envelope before its content. -/
def header (source : String) (digest : String) (idem : List Char) : List Char :=
  openTag ++ " source=\"".toList ++ source.toList ++ "\" sha256=\"".toList ++ digest.toList ++
    "\" idem=\"".toList ++ idem ++ "\">\n".toList

/-- An envelope up to its close tag. -/
def wrapped (source : String) (idem content : List Char) : List Char :=
  header source (platform.sha256 (escapeContent platform content)) idem ++
    escapeContent platform content ++ ['\n']

theorem wrap_ok {source : String} (allowed : allowedSource source = true)
    (content idem : List Char) : ∃ envelope, wrap platform content source idem = .ok envelope ∧
      envelope.text = wrapped platform source idem content ++ closeTag := by
  unfold wrap
  rw [allowed]
  refine ⟨_, rfl, ?_⟩
  unfold wrapped header
  simp only [List.append_assoc, List.cons_append, List.nil_append]

theorem label_plain {text : List Char} (label : Label text) (char : Char) (member : char ∈ text) :
    char ≠ '<' ∧ char ≠ '\n' ∧ char ≠ '=' := by
  have plain := label char member
  refine ⟨?_, ?_, ?_⟩
  · rintro rfl
    exact absurd plain (by decide)
  · rintro rfl
    exact absurd plain (by decide)
  · rintro rfl
    exact absurd plain (by decide)

/-- The digests are in hexadecimal. -/
def HexDigests : Prop :=
  ∀ text, ∀ char ∈ (platform.sha256 text).toList, (hexDigitValue char).isSome = true

variable {platform}

theorem header_parts (hex : HexDigests platform) {source : String} (plain_source : Label source.toList)
    {idem : List Char} (plain_idem : Label idem) (text : List Char) :
    ∃ rest, header source (platform.sha256 text) idem = '<' :: 'u' :: (rest ++ ['\n']) ∧
      '<' ∉ rest ∧ '\n' ∉ rest := by
  refine ⟨"ntrusted source=\"".toList ++ source.toList ++ "\" sha256=\"".toList ++
    (platform.sha256 text).toList ++ "\" idem=\"".toList ++ idem ++ "\">".toList, ?_, ?_⟩
  · unfold header
    simp only [List.append_assoc]
    rfl
  · have digest : ∀ char ∈ (platform.sha256 text).toList, char ≠ '<' ∧ char ≠ '\n' := by
      intro char member
      have value := hex text char member
      constructor
      · rintro rfl
        exact absurd value (by decide)
      · rintro rfl
        exact absurd value (by decide)
    simp only [List.mem_append, not_or]
    have first : '<' ∉ "ntrusted source=\"".toList ∧ '\n' ∉ "ntrusted source=\"".toList := by decide
    have second : '<' ∉ "\" sha256=\"".toList ∧ '\n' ∉ "\" sha256=\"".toList := by decide
    have third : '<' ∉ "\" idem=\"".toList ∧ '\n' ∉ "\" idem=\"".toList := by decide
    have last : '<' ∉ "\">".toList ∧ '\n' ∉ "\">".toList := by decide
    have of_source : '<' ∉ source.toList ∧ '\n' ∉ source.toList :=
      ⟨fun member => (label_plain plain_source _ member).1 rfl,
        fun member => (label_plain plain_source _ member).2.1 rfl⟩
    have of_idem : '<' ∉ idem ∧ '\n' ∉ idem :=
      ⟨fun member => (label_plain plain_idem _ member).1 rfl,
        fun member => (label_plain plain_idem _ member).2.1 rfl⟩
    have of_digest : '<' ∉ (platform.sha256 text).toList ∧ '\n' ∉ (platform.sha256 text).toList :=
      ⟨fun member => (digest _ member).1 rfl, fun member => (digest _ member).2 rfl⟩
    exact ⟨⟨⟨⟨⟨⟨⟨first.1, of_source.1⟩, second.1⟩, of_digest.1⟩, third.1⟩, of_idem.1⟩, last.1⟩,
      ⟨⟨⟨⟨⟨⟨first.2, of_source.2⟩, second.2⟩, of_digest.2⟩, third.2⟩, of_idem.2⟩, last.2⟩⟩

theorem tagless_wrapped (hex : HexDigests platform) {source : String}
    (plain_source : Label source.toList) {idem : List Char} (plain_idem : Label idem)
    (content : List Char) : Tagless (wrapped platform source idem content) := by
  obtain ⟨rest, whole, plain, -⟩ := header_parts hex plain_source plain_idem
    (escapeContent platform content)
  have opening : Tagless ('<' :: 'u' :: rest ++ ['\n']) := by
    apply tagless_of_open
    · decide
    · simp [plain]
  have ending : Tagless (escapeContent platform content ++ ['\n']) := by
    apply tagless_before_start (Or.inr rfl) (tagless_escapeContent platform content)
    apply tagless_of_not_mem
    decide
  unfold wrapped
  rw [whole, List.append_assoc]
  exact tagless_after_end (Or.inr rfl) opening ending

theorem only_closeTag {before seen after : List Char}
    (split : closeTag = before ++ (seen ++ after)) (closes : ClosesEnvelope seen) :
    before = [] ∧ seen = closeTag ∧ after = [] := by
  have lengths : seen.length = closeTag.length := by
    have same := congrArg List.length (show seen.map fold = closeTag.map fold from closes)
    rw [List.length_map, List.length_map] at same
    exact same
  have sum := congrArg List.length split
  rw [List.length_append, List.length_append, lengths] at sum
  have none_before : before = [] := List.length_eq_zero_iff.1 (by omega)
  have none_after : after = [] := List.length_eq_zero_iff.1 (by omega)
  rw [none_before, none_after, List.nil_append, List.append_nil] at split
  exact ⟨none_before, split.symm, none_after⟩

/-- After a line without tags, the close tag is the only one. -/
theorem closes_once {front before seen after : List Char} (tagless : Tagless (front ++ ['\n']))
    (split : front ++ ['\n'] ++ closeTag = before ++ (seen ++ after)) (closes : ClosesEnvelope seen) :
    before = front ++ ['\n'] ∧ seen = closeTag ∧ after = [] := by
  rcases List.append_eq_append_iff.1 split with ⟨more, longer, rest⟩ | ⟨more, shorter, rest⟩
  · obtain ⟨no_more, same, none_after⟩ := only_closeTag rest closes
    rw [no_more, List.append_nil] at longer
    exact ⟨longer, same, none_after⟩
  · rcases List.append_eq_append_iff.1 rest with ⟨ended, inside, after_eq⟩ | ⟨ended, seen_eq, rest⟩
    · rw [inside] at shorter
      exact absurd closes (tagless before seen ended shorter)
    · by_cases at_once : more = []
      · rw [at_once, List.nil_append] at seen_eq
        rw [at_once, List.append_nil] at shorter
        rw [← seen_eq] at rest
        have inside : closeTag = [] ++ (seen ++ after) := rest
        obtain ⟨-, same, none_after⟩ := only_closeTag inside closes
        exact ⟨shorter.symm, same, none_after⟩
      · by_cases all_front : ended = []
        · rw [all_front, List.append_nil] at seen_eq
          rw [← seen_eq] at shorter
          exact absurd closes (tagless before seen [] (by rw [shorter, List.append_nil]))
        · obtain ⟨more, char, rfl⟩ := (List.eq_nil_or_concat more).resolve_left at_once
          rw [List.concat_eq_append] at seen_eq shorter
          rw [seen_eq] at closes
          rw [← List.append_assoc] at shorter
          have line : '\n' = char := List.head_eq_of_cons_eq (List.append_inj' shorter rfl).2
          exact absurd line.symm (crossing_ends closes all_front).2

end Wrapping

section Blocks

variable {platform : Platform}

/-- A fact in the evidence of a prompt, up to the close tag. -/
def shownFact (platform : Platform) (value : ResolvedValue) : List Char :=
  "fact_id=".toList ++ Agents.evidenceId value ++
    '\n' :: wrapped platform "web" (Agents.evidenceId value) value.value

/-- What an envelope in a prompt carries: the fact's id, and its content. -/
def readFact (shown : List Char) : List Char × List Char :=
  (((shown.dropWhile (· ≠ '=')).tail).takeWhile (· ≠ '\n'),
    (((shown.dropWhile (· ≠ '<')).dropWhile (· ≠ '\n')).tail).dropLast)

/-- Whatever ends with a close tag is an envelope. -/
def readEnvelopes (platform : Platform) (blocks : List Char) : List (List Char × List Char) :=
  (escapeRe.cutText platform.isWord blocks).1.map fun piece => readFact piece.1

theorem label_web : Label "web".toList := by
  exact every_of_all (by decide)

theorem readFact_shown (hex : HexDigests platform) {value : ResolvedValue}
    (plain : Label (Agents.evidenceId value)) {space : List Char}
    (blank : ∀ char ∈ space, char = '\n') :
    readFact (space ++ shownFact platform value) =
      (Agents.evidenceId value, escapeContent platform value.value) := by
  obtain ⟨rest, whole, none_open, none_line⟩ := header_parts hex label_web plain
    (escapeContent platform value.value)
  have skip : ∀ (stop : Char) (passed left : List Char), stop ∉ passed →
      (passed ++ stop :: left).dropWhile (· ≠ stop) = stop :: left := by
    intro stop passed left absent
    rw [List.dropWhile_append_of_pos]
    · simp
    · intro char member
      apply decide_eq_true
      rintro rfl
      exact absent member
  have keep : ∀ (stop : Char) (passed left : List Char), stop ∉ passed →
      (passed ++ stop :: left).takeWhile (· ≠ stop) = passed := by
    intro stop passed left absent
    rw [List.takeWhile_append_of_pos]
    · simp
    · intro char member
      apply decide_eq_true
      rintro rfl
      exact absent member
  have unlike : ∀ stop : Char, stop ≠ '\n' → stop ∉ space := fun stop differs member =>
    differs (blank stop member)
  have id_line : '\n' ∉ Agents.evidenceId value := fun member => (label_plain plain _ member).2.1 rfl
  have id_open : '<' ∉ Agents.evidenceId value := fun member => (label_plain plain _ member).1 rfl
  unfold readFact
  congr 1
  · have text : space ++ shownFact platform value = (space ++ "fact_id".toList) ++
        '=' :: (Agents.evidenceId value ++ '\n' :: wrapped platform "web" (Agents.evidenceId value)
          value.value) := by
      unfold shownFact
      simp only [List.append_assoc]
      rfl
    rw [text, skip, List.tail_cons, keep _ _ _ id_line]
    rw [List.mem_append, not_or]
    exact ⟨unlike '=' (by decide), by decide⟩
  · have text : space ++ shownFact platform value =
        (space ++ "fact_id=".toList ++ Agents.evidenceId value ++ ['\n']) ++
          '<' :: (('u' :: rest) ++ '\n' :: (escapeContent platform value.value ++ ['\n'])) := by
      unfold shownFact wrapped
      rw [whole]
      simp only [List.append_assoc, List.cons_append, List.nil_append]
    have after_open : '\n' ∉ '<' :: 'u' :: rest := by
      simp [none_line]
    rw [text, skip, ← List.cons_append, skip _ _ _ after_open, List.tail_cons,
      List.dropLast_concat]
    simp only [List.mem_append, not_or]
    exact ⟨⟨⟨unlike '<' (by decide), by decide⟩, id_open⟩, by decide⟩

theorem tagless_shownFact (hex : HexDigests platform) {value : ResolvedValue}
    (plain : Label (Agents.evidenceId value)) {space : List Char}
    (blank : ∀ char ∈ space, char = '\n') : Tagless (space ++ shownFact platform value) := by
  have text : space ++ shownFact platform value =
      (space ++ "fact_id=".toList ++ Agents.evidenceId value) ++ ['\n'] ++
        wrapped platform "web" (Agents.evidenceId value) value.value := by
    unfold shownFact
    simp only [List.append_assoc, List.cons_append, List.nil_append]
  rw [text]
  apply tagless_after_end (Or.inr rfl) _ (tagless_wrapped hex label_web plain value.value)
  apply tagless_of_not_mem
  simp only [List.mem_append, not_or]
  exact ⟨⟨⟨fun member => absurd (blank _ member) (by decide), by decide⟩,
    fun member => (label_plain plain _ member).1 rfl⟩, by decide⟩

theorem shownFact_line (value : ResolvedValue) (space : List Char) :
    ∃ front, space ++ shownFact platform value = front ++ ['\n'] := by
  unfold shownFact wrapped
  exact ⟨space ++ ("fact_id=".toList ++ Agents.evidenceId value ++
    '\n' :: (header "web" (platform.sha256 (escapeContent platform value.value))
      (Agents.evidenceId value) ++ escapeContent platform value.value)),
    by simp only [List.append_assoc, List.cons_append]⟩

/-- Envelopes one after another are cut at their ends. -/
theorem cut_shownFacts (hex : HexDigests platform) (isWord : Char → Bool)
    (facts : List (List Char × ResolvedValue))
    (plain : ∀ fact ∈ facts, (∀ char ∈ fact.1, char = '\n') ∧ Label (Agents.evidenceId fact.2))
    (before : List Char) :
    Cut isWord escapeRe before
      (facts.flatMap fun fact => fact.1 ++ shownFact platform fact.2 ++ closeTag)
      (facts.map fun fact => (fact.1 ++ shownFact platform fact.2, closeTag)) [] := by
  induction facts generalizing before with
  | nil => exact Cut.last before [] (clear_nil isWord escapeRe before [])
  | cons fact facts induction =>
      obtain ⟨blank, label⟩ := plain fact List.mem_cons_self
      have tagless := tagless_shownFact hex label blank
      have line : ∃ front, fact.1 ++ shownFact platform fact.2 = front ++ ['\n'] :=
        shownFact_line fact.2 fact.1
      obtain ⟨front, line⟩ := line
      rw [List.flatMap_cons, List.map_cons, List.append_assoc]
      apply Cut.next
      case clear =>
        rw [line] at tagless ⊢
        exact clear_of_tagless tagless _ _
      case some_found => decide
      case matched =>
        exact (matchAt_iff reads_escapeRe closesEnvelope_prefixFree _ _ _ _).2 ⟨rfl, rfl⟩
      case others =>
        exact induction (fun other member => plain other (List.mem_cons_of_mem _ member)) _

theorem intercalate_eq (space : List Char) (first : List Char) (others : List (List Char)) :
    space.intercalate (first :: others) = first ++ others.flatMap (space ++ ·) := by
  induction others generalizing first with
  | nil => simp
  | cons second others induction =>
      rw [List.intercalate_cons_cons, induction, List.flatMap_cons]
      simp only [List.append_assoc]

/-- The evidence of a prompt is an envelope for each fact, with blank lines between. -/
theorem evidenceBlocks_eq (runtime : Runtime) (resolved : ResolvedPrompt) :
    Agents.evidenceBlocks runtime resolved = .ok
      (if resolved.untrusted.isEmpty then "(no evidence provided)".toList
        else "\n\n".toList.intercalate (resolved.untrusted.map fun value =>
          shownFact runtime.platform value ++ closeTag),
        resolved.untrusted.map Agents.evidenceId) := by
  have each : ∀ value : ResolvedValue,
      (do
        let envelope ← wrap runtime.platform value.value "web" (Agents.evidenceId value)
        pure ("fact_id=".toList ++ Agents.evidenceId value ++ '\n' :: envelope.text) :
        Except Exc (List Char)) =
      pure (shownFact runtime.platform value ++ closeTag) := by
    intro value
    have allowed : allowedSource "web" = true := by decide
    obtain ⟨envelope, made, text⟩ := wrap_ok runtime.platform allowed value.value
      (Agents.evidenceId value)
    rw [made]
    change (Except.ok _ : Except Exc (List Char)) = Except.ok _
    unfold shownFact
    rw [text]
    simp only [List.append_assoc, List.cons_append]
  unfold Agents.evidenceBlocks
  rw [funext each, List.mapM_pure]
  change Except.ok _ = Except.ok _
  rw [List.isEmpty_map]

/-- The evidence is read back as it was put in. -/
theorem readEnvelopes_blocks (runtime : Runtime) (hex : HexDigests runtime.platform)
    (resolved : ResolvedPrompt)
    (plain : ∀ value ∈ resolved.untrusted, Label (Agents.evidenceId value)) :
    ∃ blocks, Agents.evidenceBlocks runtime resolved =
        .ok (blocks, resolved.untrusted.map Agents.evidenceId) ∧
      readEnvelopes runtime.platform blocks = resolved.untrusted.map fun value =>
        (Agents.evidenceId value, escapeContent runtime.platform value.value) := by
  refine ⟨_, evidenceBlocks_eq runtime resolved, ?_⟩
  unfold readEnvelopes
  cases untrusted : resolved.untrusted with
  | nil =>
      have nothing : Tagless "(no evidence provided)".toList := by
        apply tagless_of_not_mem
        decide
      have clear : Clear runtime.platform.isWord escapeRe [] "(no evidence provided)".toList [] :=
        clear_last_of_tagless nothing []
      have cut := Cut.last [] _ clear
      change ((escapeRe.cutText runtime.platform.isWord "(no evidence provided)".toList).1.map _) = _
      rw [cutText_of_cut cut]
      rfl
  | cons first others =>
      rw [untrusted] at plain
      let marked := ([], first) :: others.map fun value => ("\n\n".toList, value)
      have plain_marked : ∀ fact ∈ marked,
          (∀ char ∈ fact.1, char = '\n') ∧ Label (Agents.evidenceId fact.2) := by
        intro fact member
        rcases List.mem_cons.1 member with rfl | later
        · exact ⟨fun _ member => absurd member List.not_mem_nil, plain first List.mem_cons_self⟩
        · obtain ⟨value, inside, rfl⟩ := List.mem_map.1 later
          have lines : ∀ char ∈ "\n\n".toList, char = '\n' := every_of_all (by decide)
          exact ⟨lines, plain value (List.mem_cons_of_mem _ inside)⟩
      have text : "\n\n".toList.intercalate ((first :: others).map fun value =>
          shownFact runtime.platform value ++ closeTag) =
          marked.flatMap fun fact => fact.1 ++ shownFact runtime.platform fact.2 ++ closeTag := by
        rw [List.map_cons, intercalate_eq, List.flatMap_cons, List.flatMap_map, List.flatMap_map]
        simp only [List.append_assoc, List.nil_append]
      have cut := cut_shownFacts hex runtime.platform.isWord marked plain_marked []
      change ((escapeRe.cutText runtime.platform.isWord ("\n\n".toList.intercalate
        ((first :: others).map fun value => shownFact runtime.platform value ++ closeTag))).1.map
          fun piece => readFact piece.1) = _
      rw [text, cutText_of_cut cut, List.map_map]
      calc marked.map (fun fact => readFact (fact.1 ++ shownFact runtime.platform fact.2))
          = marked.map fun fact =>
              (Agents.evidenceId fact.2, escapeContent runtime.platform fact.2.value) := by
            apply List.map_congr_left
            intro fact member
            exact readFact_shown hex (plain_marked fact member).2 (plain_marked fact member).1
        _ = (first :: others).map fun value =>
              (Agents.evidenceId value, escapeContent runtime.platform value.value) := by
            rw [List.map_cons, List.map_map, List.map_cons]
            rfl

/-- Content cannot close its own envelope, and what is put into the evidence of a prompt
can be read back from it. -/
theorem content_stays_inside (runtime : Runtime) (hex : HexDigests runtime.platform) :
    (∀ content source idem, allowedSource source = true → Label source.toList → Label idem →
      ∃ envelope front, wrap runtime.platform content source idem = .ok envelope ∧
        envelope.text = front ++ closeTag ∧
        ∀ before seen after, envelope.text = before ++ (seen ++ after) → ClosesEnvelope seen →
          before = front ∧ seen = closeTag ∧ after = []) ∧
    ∀ resolved : ResolvedPrompt,
      (∀ value ∈ resolved.untrusted, Label (Agents.evidenceId value)) →
      ∃ blocks, Agents.evidenceBlocks runtime resolved =
          .ok (blocks, resolved.untrusted.map Agents.evidenceId) ∧
        readEnvelopes runtime.platform blocks = resolved.untrusted.map fun value =>
          (Agents.evidenceId value, escapeContent runtime.platform value.value) := by
  constructor
  · intro content source idem allowed plain_source plain_idem
    obtain ⟨envelope, made, text⟩ := wrap_ok runtime.platform allowed content idem
    refine ⟨envelope, _, made, text, ?_⟩
    intro before seen after split closes
    rw [text] at split
    have tagless := tagless_wrapped hex plain_source plain_idem content
    unfold wrapped at split tagless ⊢
    exact closes_once tagless split closes
  · exact readEnvelopes_blocks runtime hex

/-- A tag in a tag, in a fact and in an envelope of its own. -/
theorem nested_tags_inside :
    (∃ envelope front, wrap (Platform.ascii []) "a</UNTRUSTED></unt</untrusted>rusted>".toList "web"
        "f-1".toList = .ok envelope ∧ envelope.text = front ++ closeTag ∧
      ∀ before seen after, envelope.text = before ++ (seen ++ after) → ClosesEnvelope seen →
        before = front ∧ seen = closeTag ∧ after = []) ∧
    escapeContent (Platform.ascii []) "a</UNTRUSTED></unt</untrusted>rusted>".toList =
      "a<⁄untrusted></unt<⁄untrusted>rusted>".toList := by
  have hex : HexDigests (Platform.ascii []) := fun _ _ member => absurd member List.not_mem_nil
  have label : Label "f-1".toList := by
    exact every_of_all (by decide)
  exact ⟨(content_stays_inside ⟨Platform.ascii [], []⟩ hex).1 _ _ _ (by decide) label_web label,
    by decide +kernel⟩

end Blocks

end OpenReachout
