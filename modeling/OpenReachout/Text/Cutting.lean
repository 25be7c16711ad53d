import OpenReachout.Text.Regex

/-!
# Cutting a text at every match

`Cut` reads the pieces of a text off the text itself: no match begins in the text
between two matches. A text has one cut, and `cutText` finds it.
-/

namespace Text

namespace Regex

set_option autoImplicit false

section Splits

variable (isWord : Char → Bool)

/-- From one position to a later one. -/
def Takes (before rest : List Char) (next : List Char × List Char) : Prop :=
  ∃ taken, rest = taken ++ next.2 ∧ next.1 = taken.reverse ++ before

theorem Takes.stay (before rest : List Char) : Takes before rest (before, rest) := ⟨[], rfl, rfl⟩

theorem Takes.trans {before rest : List Char} {middle next : List Char × List Char}
    (first : Takes before rest middle) (second : Takes middle.1 middle.2 next) :
    Takes before rest next := by
  obtain ⟨taken, split, passed⟩ := first
  obtain ⟨more, split_more, passed_more⟩ := second
  refine ⟨taken ++ more, ?_, ?_⟩
  · rw [split, split_more, List.append_assoc]
  · rw [passed_more, passed, List.reverse_append, List.append_assoc]

theorem takes_of_test {holds : Prop} [Decidable holds] {before rest : List Char}
    {next : List Char × List Char} (member : next ∈ if holds then [(before, rest)] else []) :
    Takes before rest next := by
  by_cases yes : holds
  · rw [if_pos yes, List.mem_singleton] at member
    rw [member]
    exact Takes.stay before rest
  · rw [if_neg yes] at member
    exact absurd member List.not_mem_nil

theorem takes_of_starLoop {step : List Char → List Char → List (List Char × List Char)}
    (steps : ∀ before rest next, next ∈ step before rest → Takes before rest next)
    (fuel : Nat) (before rest : List Char) (next : List Char × List Char)
    (member : next ∈ starLoop step fuel before rest) : Takes before rest next := by
  induction fuel generalizing before rest with
  | zero =>
      rw [starLoop, List.mem_singleton] at member
      rw [member]
      exact Takes.stay before rest
  | succ fuel induction =>
      rw [starLoop, List.mem_append, List.mem_singleton, List.mem_flatMap] at member
      rcases member with ⟨middle, first, more⟩ | same
      · by_cases shorter : middle.2.length < rest.length
        · rw [if_pos shorter] at more
          exact (steps _ _ _ first).trans (induction _ _ more)
        · rw [if_neg shorter] at more
          exact absurd more List.not_mem_nil
      · rw [same]
        exact Takes.stay before rest

theorem takes_of_results (regex : Regex) (before rest : List Char)
    (next : List Char × List Char) (member : next ∈ regex.results isWord before rest) :
    Takes before rest next := by
  induction regex generalizing before rest next with
  | empty =>
      rw [results, List.mem_singleton] at member
      rw [member]
      exact Takes.stay before rest
  | set accepts =>
      cases rest with
      | nil => exact absurd member List.not_mem_nil
      | cons char rest =>
          rw [results] at member
          by_cases accepted : accepts char = true
          · rw [if_pos accepted, List.mem_singleton] at member
            rw [member]
            exact ⟨[char], rfl, rfl⟩
          · rw [if_neg accepted] at member
            exact absurd member List.not_mem_nil
  | seq first second first_takes second_takes =>
      obtain ⟨middle, one, two⟩ := (mem_results_seq isWord first second _ _ _).1 member
      exact (first_takes _ _ _ one).trans (second_takes _ _ _ two)
  | alt first second first_takes second_takes =>
      rw [results, List.mem_append] at member
      rcases member with one | two
      · exact first_takes _ _ _ one
      · exact second_takes _ _ _ two
  | star body body_takes => exact takes_of_starLoop body_takes _ _ _ _ member
  | wordBoundary => exact takes_of_test member
  | lineStart => exact takes_of_test member
  | textStart => exact takes_of_test member
  | textEnd => exact takes_of_test member

/-- A match stands at its position. -/
theorem split_of_matchAt {regex : Regex} {before rest found after : List Char}
    (matched : regex.matchAt isWord before rest = some (found, after)) :
    rest = found ++ after := by
  unfold matchAt at matched
  rw [Option.map_eq_some_iff] at matched
  obtain ⟨next, first, same⟩ := matched
  obtain ⟨taken, split, -⟩ := takes_of_results isWord regex before rest next
    (List.mem_of_head? first)
  rw [Prod.mk.injEq] at same
  obtain ⟨rfl, rfl⟩ := same
  rw [split, List.length_append, Nat.add_sub_cancel, List.take_left]

end Splits

section Cutting

variable (isWord : Char → Bool) (regex : Regex)

/-- No match begins in `plain`. -/
def Clear (before plain rest : List Char) : Prop :=
  ∀ early late, plain = early ++ late → late ≠ [] → ∀ found after,
    regex.matchAt isWord (early.reverse ++ before) (late ++ rest) = some (found, after) →
    found = []

/-- The pieces of a text up to its matches, the matches, and the last piece. -/
inductive Cut : List Char → List Char → List (List Char × List Char) → List Char → Prop
  | last (before plain : List Char) (clear : Clear isWord regex before plain []) :
      Cut before plain [] plain
  | next (before plain found after : List Char) (pieces : List (List Char × List Char))
      (tail : List Char) (clear : Clear isWord regex before plain (found ++ after))
      (some_found : found ≠ [])
      (matched : regex.matchAt isWord (plain.reverse ++ before) (found ++ after) =
        some (found, after))
      (others : Cut (found.reverse ++ (plain.reverse ++ before)) after pieces tail) :
      Cut before (plain ++ (found ++ after)) ((plain, found) :: pieces) tail

theorem clear_nil (before rest : List Char) : Clear isWord regex before [] rest := by
  intro early late split some_late
  exact absurd (List.append_eq_nil_iff.1 split.symm).2 some_late

theorem clear_concat {before plain rest : List Char} {char : Char}
    (clear : Clear isWord regex before plain (char :: rest))
    (none_here : ∀ found after, regex.matchAt isWord (plain.reverse ++ before) (char :: rest) =
      some (found, after) → found = []) :
    Clear isWord regex before (plain ++ [char]) rest := by
  intro early late split some_late
  rcases List.eq_nil_or_concat late with empty | ⟨late, last, rfl⟩
  · exact absurd empty some_late
  · rw [List.concat_eq_append, ← List.append_assoc] at split
    have parts := List.append_inj' split rfl
    have same : char = last := List.head_eq_of_cons_eq parts.2
    rw [← same, List.concat_eq_append, List.append_assoc]
    by_cases empty : late = []
    · have whole : plain = early := by
        rw [parts.1, empty, List.append_nil]
      rw [empty, ← whole]
      exact none_here
    · exact clear early late parts.1 empty

theorem cut_of_fuel (fuel : Nat) (before piece rest : List Char) (enough : rest.length ≤ fuel)
    (clear : Clear isWord regex before piece.reverse rest) :
    Cut isWord regex before (piece.reverse ++ rest)
      (regex.cut isWord fuel (piece ++ before) piece rest).1
      (regex.cut isWord fuel (piece ++ before) piece rest).2 := by
  induction fuel generalizing before piece rest with
  | zero =>
      obtain rfl := List.length_eq_zero_iff.1 (Nat.le_zero.1 enough)
      rw [cut]
      simp only [List.append_nil]
      exact Cut.last before piece.reverse clear
  | succ fuel induction =>
      cases rest with
      | nil =>
          rw [cut]
          simp only [List.append_nil]
          exact Cut.last before piece.reverse clear
      | cons char rest =>
          have shorter : rest.length ≤ fuel := Nat.le_of_succ_le_succ enough
          have goes_on (none_here : ∀ found after, regex.matchAt isWord (piece ++ before)
              (char :: rest) = some (found, after) → found = []) :
              Cut isWord regex before (piece.reverse ++ char :: rest)
                (regex.cut isWord fuel (char :: (piece ++ before)) (char :: piece) rest).1
                (regex.cut isWord fuel (char :: (piece ++ before)) (char :: piece) rest).2 := by
            have next := induction before (char :: piece) rest shorter (by
              rw [List.reverse_cons]
              apply clear_concat isWord regex clear
              rw [List.reverse_reverse]
              exact none_here)
            rw [List.reverse_cons, List.append_assoc] at next
            exact next
          rw [cut]
          cases matched : regex.matchAt isWord (piece ++ before) (char :: rest) with
          | none =>
              apply goes_on
              rw [matched]
              intro found after impossible
              cases impossible
          | some next =>
              obtain ⟨found, after⟩ := next
              cases found with
              | nil =>
                  apply goes_on
                  rw [matched]
                  intro found after same
                  cases same
                  rfl
              | cons first found =>
                  have split := split_of_matchAt isWord matched
                  have less : after.length ≤ fuel := by
                    have lengths := congrArg List.length split
                    rw [List.length_cons, List.length_append, List.length_cons] at lengths
                    omega
                  have others := induction ((first :: found).reverse ++ (piece ++ before)) [] after
                    less (clear_nil isWord regex _ _)
                  simp only [List.isEmpty_cons, Bool.false_eq_true, if_false]
                  rw [split] at matched clear ⊢
                  apply Cut.next _ _ _ _ _ _ clear (List.cons_ne_nil _ _)
                  · rw [List.reverse_reverse]
                    exact matched
                  · rw [List.reverse_reverse]
                    exact others

/-- `cutText` finds a cut of its text. -/
theorem cut_cutText (text : List Char) :
    Cut isWord regex [] text (regex.cutText isWord text).1 (regex.cutText isWord text).2 :=
  cut_of_fuel isWord regex text.length [] [] text (Nat.le_refl _) (clear_nil isWord regex _ _)

variable {isWord regex}

/-- The pieces and the matches make up the text. -/
theorem Cut.join {before text tail : List Char} {pieces : List (List Char × List Char)}
    (cut : Cut isWord regex before text pieces tail) :
    text = pieces.flatMap (fun piece => piece.1 ++ piece.2) ++ tail := by
  induction cut with
  | last before plain clear => rfl
  | next before plain found after pieces tail clear some_found matched others induction =>
      rw [List.flatMap_cons, List.append_assoc, List.append_assoc, ← induction]

theorem Clear.excludes {before early late rest found after : List Char}
    (clear : Clear isWord regex before (early ++ late) rest) (some_late : late ≠ [])
    (some_found : found ≠ []) :
    regex.matchAt isWord (early.reverse ++ before) (late ++ rest) ≠ some (found, after) := by
  intro matched
  exact some_found (clear early late rfl some_late found after matched)

theorem Clear.excludes_last {before early found after : List Char}
    (clear : Clear isWord regex before (early ++ (found ++ after)) []) (some_found : found ≠ []) :
    regex.matchAt isWord (early.reverse ++ before) (found ++ after) ≠ some (found, after) := by
  have stands : found ++ after ≠ [] := by simp [some_found]
  have excluded : regex.matchAt isWord (early.reverse ++ before) (found ++ after ++ []) ≠
      some (found, after) := clear.excludes stands some_found
  rw [List.append_nil] at excluded
  exact excluded

/-- Of two clear texts with a match after each, neither is the longer one. -/
theorem Clear.meets {before plain other found after found' after' : List Char}
    (clear : Clear isWord regex before plain (found ++ after)) (some_found : found' ≠ [])
    (matched : regex.matchAt isWord (other.reverse ++ before) (found' ++ after') =
      some (found', after'))
    (same : plain ++ (found ++ after) = other ++ (found' ++ after')) :
    ∃ more, other = plain ++ more ∧ found ++ after = more ++ (found' ++ after') := by
  rcases List.append_eq_append_iff.1 same with ⟨more, longer, rest⟩ | ⟨more, shorter, rest⟩
  · exact ⟨more, longer, rest⟩
  · by_cases empty : more = []
    · rw [empty, List.append_nil] at shorter
      rw [empty, List.nil_append] at rest
      exact ⟨[], by rw [shorter, List.append_nil], rest.symm⟩
    · rw [shorter] at clear
      rw [rest] at matched
      exact absurd matched (clear.excludes empty some_found)

/-- A text has one cut. -/
theorem Cut.unique {before text tail other_tail : List Char}
    {pieces other_pieces : List (List Char × List Char)}
    (cut : Cut isWord regex before text pieces tail)
    (other : Cut isWord regex before text other_pieces other_tail) :
    pieces = other_pieces ∧ tail = other_tail := by
  induction cut generalizing other_pieces other_tail with
  | last before plain clear =>
      cases other with
      | last => exact ⟨rfl, rfl⟩
      | next _ early found after _ _ _ some_found matched =>
          exact absurd matched (clear.excludes_last some_found)
  | next before plain found after pieces tail clear some_found matched others induction =>
      generalize whole : plain ++ (found ++ after) = text at other
      cases other with
      | last _ _ alone =>
          rw [← whole] at alone
          exact absurd matched (alone.excludes_last some_found)
      | next _ plain' found' after' pieces' tail' clear' some_found' matched' others' =>
          obtain ⟨more, longer, -⟩ := clear.meets some_found' matched' whole
          obtain ⟨less, shorter, -⟩ := clear'.meets some_found matched whole.symm
          have empty : more = [] := by
            rw [shorter, List.append_assoc] at longer
            exact (List.append_eq_nil_iff.1 (List.self_eq_append_right.1 longer)).2
          rw [empty, List.append_nil] at longer
          rw [longer] at whole matched' others'
          rw [← List.append_cancel_left whole, matched, Option.some.injEq, Prod.mk.injEq] at matched'
          obtain ⟨rfl, rfl⟩ := matched'
          obtain ⟨rfl, rfl⟩ := induction others'
          rw [longer]
          exact ⟨rfl, rfl⟩

theorem cutText_of_cut {text tail : List Char} {pieces : List (List Char × List Char)}
    (cut : Cut isWord regex [] text pieces tail) : regex.cutText isWord text = (pieces, tail) := by
  obtain ⟨same_pieces, same_tail⟩ := (cut_cutText isWord regex text).unique cut
  rw [← same_pieces, ← same_tail]

/-- Where matches do not overlap, each of them is a piece of the cut. -/
theorem Cut.mem_of_match
    (apart : ∀ before early late after found rest,
      regex.matchAt isWord before (early ++ late ++ after) = some (early ++ late, after) →
      early ≠ [] → late ≠ [] →
      regex.matchAt isWord (early.reverse ++ before) (late ++ after) = some (found, rest) →
      found = [])
    {before text tail : List Char} {pieces : List (List Char × List Char)}
    (cut : Cut isWord regex before text pieces tail) {early found late : List Char}
    (split : text = early ++ (found ++ late)) (some_found : found ≠ [])
    (matched : regex.matchAt isWord (early.reverse ++ before) (found ++ late) =
      some (found, late)) :
    ∃ front plain back, pieces = front ++ (plain, found) :: back ∧
      early = front.flatMap (fun piece => piece.1 ++ piece.2) ++ plain := by
  induction cut generalizing early with
  | last before plain clear =>
      rw [split] at clear
      exact absurd matched (clear.excludes_last some_found)
  | next before plain here after pieces tail clear some_here stood others induction =>
      obtain ⟨more, rfl, rest⟩ := clear.meets some_found matched split
      have beyond : ∀ gap, more = here ++ gap → after = gap ++ (found ++ late) →
          ∃ front inner back, (plain, here) :: pieces = front ++ (inner, found) :: back ∧
            plain ++ more = front.flatMap (fun piece => piece.1 ++ piece.2) ++ inner := by
        intro gap longer after_eq
        rw [longer, List.reverse_append, List.reverse_append, List.append_assoc,
          List.append_assoc] at matched
        obtain ⟨front, inner, back, rfl, rfl⟩ := induction after_eq matched
        refine ⟨(plain, here) :: front, inner, back, rfl, ?_⟩
        simp only [longer, List.flatMap_cons, List.append_assoc]
      rcases List.append_eq_append_iff.1 rest with ⟨gap, longer, after_eq⟩ |
        ⟨gap, shorter, late_eq⟩
      · exact beyond gap longer after_eq
      · by_cases no_gap : gap = []
        · rw [no_gap, List.append_nil] at shorter
          rw [no_gap, List.nil_append] at late_eq
          exact beyond [] (by rw [shorter, List.append_nil]) late_eq.symm
        · rw [List.reverse_append, List.append_assoc, late_eq] at matched
          by_cases at_once : more = []
          · rw [at_once, List.nil_append] at shorter
            rw [at_once, List.reverse_nil, List.nil_append, ← shorter, stood, Option.some.injEq,
              Prod.mk.injEq] at matched
            obtain ⟨rfl, -⟩ := matched
            exact ⟨[], plain, pieces, rfl, by rw [at_once, List.append_nil]; rfl⟩
          · rw [shorter] at stood
            exact absurd (apart _ _ _ _ _ _ stood at_once no_gap matched) some_found

end Cutting

section Reading

variable (isWord : Char → Bool)

/-- The expression looks at nothing but the text it takes. -/
def Reads (regex : Regex) (accepts : List Char → Prop) : Prop :=
  ∀ before rest next, next ∈ regex.results isWord before rest ↔
    ∃ taken, accepts taken ∧ rest = taken ++ next.2 ∧ next.1 = taken.reverse ++ before

theorem reads_empty : Reads isWord .empty (· = []) := by
  intro before rest next
  rw [results, List.mem_singleton]
  constructor
  · intro same
    rw [same]
    exact ⟨[], rfl, rfl, rfl⟩
  · rintro ⟨taken, rfl, split, passed⟩
    exact Prod.ext passed split.symm

theorem reads_set (accepts : Char → Bool) :
    Reads isWord (.set accepts) fun taken => ∃ char, accepts char = true ∧ taken = [char] := by
  intro before rest next
  cases rest with
  | nil =>
      rw [results]
      constructor
      · intro member
        exact absurd member List.not_mem_nil
      · rintro ⟨taken, ⟨char, -, rfl⟩, split, -⟩
        cases split
  | cons first rest =>
      rw [results]
      by_cases accepted : accepts first = true
      · rw [if_pos accepted, List.mem_singleton]
        constructor
        · intro same
          rw [same]
          exact ⟨[first], ⟨first, accepted, rfl⟩, rfl, rfl⟩
        · rintro ⟨taken, ⟨char, -, rfl⟩, split, passed⟩
          cases split
          exact Prod.ext passed rfl
      · rw [if_neg accepted]
        constructor
        · intro member
          exact absurd member List.not_mem_nil
        · rintro ⟨taken, ⟨char, fits, rfl⟩, split, -⟩
          cases split
          exact absurd fits accepted

theorem reads_seq {first second : Regex} {accepts_first accepts_second : List Char → Prop}
    (one : Reads isWord first accepts_first) (two : Reads isWord second accepts_second) :
    Reads isWord (.seq first second) fun taken =>
      ∃ left right, accepts_first left ∧ accepts_second right ∧ taken = left ++ right := by
  intro before rest next
  rw [mem_results_seq]
  constructor
  · rintro ⟨middle, here, there⟩
    obtain ⟨left, accepted, split, passed⟩ := (one _ _ _).1 here
    obtain ⟨right, accepted_right, split_right, passed_right⟩ := (two _ _ _).1 there
    refine ⟨left ++ right, ⟨left, right, accepted, accepted_right, rfl⟩, ?_, ?_⟩
    · rw [split, split_right, List.append_assoc]
    · rw [passed_right, passed, List.reverse_append, List.append_assoc]
  · rintro ⟨taken, ⟨left, right, accepted, accepted_right, rfl⟩, split, passed⟩
    rw [List.append_assoc] at split
    rw [List.reverse_append, List.append_assoc] at passed
    exact ⟨(left.reverse ++ before, right ++ next.2),
      (one _ _ _).2 ⟨left, accepted, split, rfl⟩,
      (two _ _ _).2 ⟨right, accepted_right, rfl, passed⟩⟩

theorem reads_star_set (accepts : Char → Bool) :
    Reads isWord (.star (.set accepts)) fun taken => taken.all accepts = true := by
  intro before rest next
  exact mem_starLoop_set isWord accepts rest.length before rest (Nat.le_refl _) next

/-- A text, up to a likeness of characters. -/
theorem reads_spelled (likeness : Char → Char) (text : List Char) :
    Reads isWord
      (sequence (text.map fun expected => .set fun char => likeness char = likeness expected))
      fun taken => taken.map likeness = text.map likeness := by
  induction text with
  | nil =>
      intro before rest next
      rw [List.map_nil, sequence, List.foldr_nil, reads_empty isWord before rest next]
      simp only [List.map_nil, List.map_eq_nil_iff]
  | cons expected text induction =>
      intro before rest next
      have both := reads_seq isWord
        (reads_set isWord fun char => likeness char = likeness expected) induction before rest next
      rw [List.map_cons, sequence, List.foldr_cons]
      apply both.trans
      apply exists_congr
      intro taken
      apply and_congr_left
      intro _
      constructor
      · rintro ⟨left, right, ⟨char, same, rfl⟩, others, rfl⟩
        rw [decide_eq_true_eq] at same
        rw [List.singleton_append, List.map_cons, List.map_cons, same, others]
      · intro same
        cases taken with
        | nil => cases same
        | cons char taken =>
            rw [List.map_cons, List.map_cons, List.cons.injEq] at same
            exact ⟨[char], taken, ⟨char, decide_eq_true same.1, rfl⟩, same.2, rfl⟩

theorem reads_literal (text : String) : Reads isWord (literal text) (· = text.toList) := by
  intro before rest next
  have spelled := reads_spelled isWord id text.toList before rest next
  simp only [List.map_id] at spelled
  exact spelled

theorem reads_word (text : String) :
    Reads isWord (word text) fun taken => taken.map fold = text.toList.map fold :=
  reads_spelled isWord fold text.toList

variable {isWord}

theorem accepts_of_matchAt {regex : Regex} {accepts : List Char → Prop}
    (reads : Reads isWord regex accepts) {before rest found after : List Char}
    (matched : regex.matchAt isWord before rest = some (found, after)) : accepts found := by
  have split := split_of_matchAt isWord matched
  unfold matchAt at matched
  rw [Option.map_eq_some_iff] at matched
  obtain ⟨next, first, same⟩ := matched
  obtain ⟨taken, accepted, split_taken, -⟩ := (reads _ _ _).1 (List.mem_of_head? first)
  rw [Prod.mk.injEq] at same
  rw [same.2, split] at split_taken
  rw [List.append_cancel_right split_taken]
  exact accepted

theorem exists_matchAt {regex : Regex} {accepts : List Char → Prop}
    (reads : Reads isWord regex accepts) {taken : List Char} (accepted : accepts taken)
    (before after : List Char) :
    ∃ found later, regex.matchAt isWord before (taken ++ after) = some (found, later) := by
  have member : (taken.reverse ++ before, after) ∈ regex.results isWord before (taken ++ after) :=
    (reads _ _ _).2 ⟨taken, accepted, rfl, rfl⟩
  obtain ⟨next, matched⟩ := Option.isSome_iff_exists.1
    ((matchAt_isSome_iff isWord regex before (taken ++ after)).2 ⟨_, member⟩)
  exact ⟨next.1, next.2, matched⟩

/-- Two accepted texts at one place are the same. -/
def PrefixFree (accepts : List Char → Prop) : Prop :=
  ∀ taken other after later, accepts taken → accepts other → taken ++ after = other ++ later →
    taken = other

theorem matchAt_iff {regex : Regex} {accepts : List Char → Prop}
    (reads : Reads isWord regex accepts) (alone : PrefixFree accepts)
    (before rest found after : List Char) :
    regex.matchAt isWord before rest = some (found, after) ↔
      accepts found ∧ rest = found ++ after := by
  constructor
  · intro matched
    exact ⟨accepts_of_matchAt reads matched, split_of_matchAt isWord matched⟩
  · rintro ⟨accepted, rfl⟩
    obtain ⟨other, later, matched⟩ := exists_matchAt reads accepted before after
    have split := split_of_matchAt isWord matched
    have one : found = other :=
      alone _ _ _ _ accepted (accepts_of_matchAt reads matched) split
    rw [matched, ← one, List.append_cancel_left (split.trans (congrArg (· ++ later) one.symm))]

theorem Cut.accepts {regex : Regex} {accepts : List Char → Prop}
    (reads : Reads isWord regex accepts) {before text tail : List Char}
    {pieces : List (List Char × List Char)} (cut : Cut isWord regex before text pieces tail)
    (piece : List Char × List Char) (member : piece ∈ pieces) : accepts piece.2 := by
  induction cut with
  | last before plain clear => exact absurd member List.not_mem_nil
  | next before plain found after pieces tail clear some_found matched others induction =>
      rcases List.mem_cons.1 member with rfl | later
      · exact accepts_of_matchAt reads matched
      · exact induction later

end Reading

section Greedy

variable {isWord : Char → Bool}

theorem reads_alt {first second : Regex} {accepts_first accepts_second : List Char → Prop}
    (one : Reads isWord first accepts_first) (two : Reads isWord second accepts_second) :
    Reads isWord (.alt first second) fun taken => accepts_first taken ∨ accepts_second taken := by
  intro before rest next
  rw [results, List.mem_append, one before rest next, two before rest next, ← exists_or]
  apply exists_congr
  intro taken
  rw [or_and_right]

theorem head_seq {first second : Regex} {before rest : List Char}
    {next last : List Char × List Char}
    (one : (first.results isWord before rest).head? = some next)
    (two : (second.results isWord next.1 next.2).head? = some last) :
    ((Regex.seq first second).results isWord before rest).head? = some last := by
  obtain ⟨others, all⟩ := List.head?_eq_some_iff.1 one
  rw [results, all, List.flatMap_cons, List.head?_append, two]
  rfl

theorem head_spelled (likeness : Char → Char) {text taken : List Char}
    (same : taken.map likeness = text.map likeness) (before rest : List Char) :
    ((sequence (text.map fun expected =>
      .set fun char => likeness char = likeness expected)).results isWord before
        (taken ++ rest)).head? = some (taken.reverse ++ before, rest) := by
  induction text generalizing taken before with
  | nil =>
      obtain rfl : taken = [] := List.map_eq_nil_iff.1 same
      rfl
  | cons expected text induction =>
      cases taken with
      | nil => cases same
      | cons char taken =>
          rw [List.map_cons, List.map_cons, List.cons.injEq] at same
          have here : ((Regex.set fun char => likeness char = likeness expected).results isWord
              before (char :: taken ++ rest)).head? = some (char :: before, taken ++ rest) := by
            rw [List.cons_append, results, if_pos (decide_eq_true same.1)]
            rfl
          have others := induction same.2 (char :: before)
          rw [List.reverse_cons, List.append_assoc]
          exact head_seq here others

theorem head_word {text : String} {taken : List Char}
    (same : taken.map fold = text.toList.map fold) (before rest : List Char) :
    ((word text).results isWord before (taken ++ rest)).head? =
      some (taken.reverse ++ before, rest) :=
  head_spelled fold same before rest

/-- Greedy repetition takes all there is. -/
theorem head_star_set {accepts : Char → Bool} {run rest : List Char}
    (accepted : ∀ char ∈ run, accepts char = true)
    (ends : ∀ char ∈ rest.head?, accepts char = false) (before : List Char) :
    ((Regex.star (.set accepts)).results isWord before (run ++ rest)).head? =
      some (run.reverse ++ before, rest) := by
  rw [results]
  have enough : run.length ≤ (run ++ rest).length := by
    rw [List.length_append]
    exact Nat.le_add_right _ _
  generalize (run ++ rest).length = fuel at enough
  induction run generalizing before fuel with
  | nil =>
      have none_here : (Regex.set accepts).results isWord before rest = [] := by
        cases rest with
        | nil => rfl
        | cons char rest =>
            rw [results, ends char rfl]
            rfl
      cases fuel with
      | zero => rfl
      | succ fuel =>
          rw [List.nil_append, starLoop, none_here]
          rfl
  | cons char run induction =>
      cases fuel with
      | zero => exact absurd enough (Nat.not_succ_le_zero _)
      | succ fuel =>
          have here : (Regex.set accepts).results isWord before (char :: (run ++ rest)) =
              [(char :: before, run ++ rest)] := by
            rw [results, accepted char List.mem_cons_self]
            rfl
          have others := induction (fun other member => accepted other (List.mem_cons_of_mem _ member))
            (char :: before) fuel (Nat.le_of_succ_le_succ enough)
          have shorter : (run ++ rest).length < (char :: (run ++ rest)).length := Nat.lt_succ_self _
          rw [List.cons_append, starLoop, here, List.flatMap_cons, List.flatMap_nil, List.append_nil,
            if_pos shorter, List.head?_append, others, List.reverse_cons, List.append_assoc]
          rfl

theorem matchAt_of_head {regex : Regex} {before found after : List Char}
    {passed : List Char}
    (first : (regex.results isWord before (found ++ after)).head? = some (passed, after)) :
    regex.matchAt isWord before (found ++ after) = some (found, after) := by
  unfold matchAt
  rw [first, Option.map_some, List.length_append, Nat.add_sub_cancel, List.take_left]

end Greedy

section Pieces

variable (isWord : Char → Bool) (stops : Char → Bool)

/-- A piece of a text, between characters that stop it. -/
structure Piece (text before piece after : List Char) : Prop where
  whole : text = before ++ (piece ++ after)
  plain : ∀ char ∈ piece, stops char = false
  starts : ∀ char ∈ before.getLast?, stops char = true
  ends : ∀ char ∈ after.head?, stops char = true

theorem reads_plus_set :
    Reads isWord (plus (.set stops)) fun taken => taken ≠ [] ∧ taken.all stops = true := by
  intro before rest next
  rw [mem_results_plus_set]
  apply exists_congr
  intro taken
  rw [and_assoc]

variable {isWord stops}

theorem Clear.unstopped {before plain rest : List Char}
    (clear : Clear isWord (plus (.set stops)) before plain rest) (char : Char)
    (member : char ∈ plain) : stops char = false := by
  rw [← Bool.not_eq_true]
  intro stopped
  obtain ⟨early, late, rfl⟩ := List.append_of_mem member
  have accepted : [char] ≠ [] ∧ [char].all stops = true := ⟨List.cons_ne_nil _ _, by simp [stopped]⟩
  obtain ⟨found, later, matched⟩ := exists_matchAt (reads_plus_set isWord stops) accepted
    (early.reverse ++ before) (late ++ rest)
  have empty : found = [] := clear early (char :: late) rfl (List.cons_ne_nil _ _) found later matched
  exact (accepts_of_matchAt (reads_plus_set isWord stops) matched).1 empty

theorem takeWhile_of_ends {piece after : List Char} (plain : ∀ char ∈ piece, stops char = false)
    (ends : ∀ char ∈ after.head?, stops char = true) :
    (piece ++ after).takeWhile (fun char => !stops char) = piece := by
  rw [List.takeWhile_append_of_pos (by simpa using plain)]
  cases after with
  | nil => rw [List.takeWhile_nil, List.append_nil]
  | cons char after =>
      have stopped : stops char = true := ends char rfl
      rw [List.takeWhile_cons_of_neg (by simp [stopped]), List.append_nil]

/-- The first piece of a text, and the others, which begin after what stops the first. -/
theorem Piece.first_or_later {text before piece after plain rest : List Char}
    (bounded : Piece stops text before piece after) (whole : text = plain ++ rest)
    (unstopped : ∀ char ∈ plain, stops char = false) (ends : ∀ char ∈ rest.head?, stops char = true) :
    piece = plain ∨ ∃ gap, gap ≠ [] ∧ before = plain ++ gap := by
  have split := bounded.whole
  rw [whole] at split
  by_cases here : before = []
  · rw [here, List.nil_append] at split
    left
    rw [← takeWhile_of_ends bounded.plain bounded.ends, ← split, takeWhile_of_ends unstopped ends]
  · right
    have stopped : stops (before.getLast here) = true :=
      bounded.starts _ (List.getLast?_eq_some_getLast here)
    rcases List.append_eq_append_iff.1 split with ⟨gap, longer, -⟩ | ⟨gap, shorter, -⟩
    · refine ⟨gap, ?_, longer⟩
      rintro rfl
      rw [List.append_nil] at longer
      rw [unstopped _ (longer ▸ List.getLast_mem here)] at stopped
      cases stopped
    · have inside : before.getLast here ∈ plain := by
        rw [shorter]
        exact List.mem_append_left _ (List.getLast_mem here)
      rw [unstopped _ inside] at stopped
      cases stopped

theorem Cut.mem_of_piece {before text tail : List Char} {pieces : List (List Char × List Char)}
    (cut : Cut isWord (plus (.set stops)) before text pieces tail) {early piece late : List Char}
    (bounded : Piece stops text early piece late) (some_piece : piece ≠ []) :
    piece ∈ pieces.map Prod.fst ++ [tail] := by
  induction cut generalizing early with
  | last before plain clear =>
      have unstopped := clear.unstopped
      rcases bounded.first_or_later (List.append_nil plain).symm unstopped nofun with
        rfl | ⟨gap, some_gap, longer⟩
      · exact List.mem_append_right _ (List.mem_singleton_self _)
      · have length := congrArg List.length bounded.whole
        rw [longer, List.length_append, List.length_append, List.length_append] at length
        have positive := List.length_pos_iff.2 some_gap
        omega
  | next before plain found after pieces tail clear some_found matched others induction =>
      have stopped := (accepts_of_matchAt (reads_plus_set isWord stops) matched).2
      rw [List.all_eq_true] at stopped
      have ends : ∀ char ∈ (found ++ after).head?, stops char = true := by
        intro char first
        rw [List.head?_append_of_ne_nil _ some_found] at first
        exact stopped char (List.mem_of_head? first)
      rcases bounded.first_or_later rfl clear.unstopped ends with rfl | ⟨gap, some_gap, longer⟩
      · exact List.mem_append_left _ List.mem_cons_self
      · have rest := bounded.whole
        rw [longer, List.append_assoc] at rest
        rcases List.append_eq_append_iff.1 (List.append_cancel_left rest) with
          ⟨more, gap_eq, after_eq⟩ | ⟨more, found_eq, piece_eq⟩
        · have later : Piece stops after more piece late := by
            refine ⟨after_eq, bounded.plain, ?_, bounded.ends⟩
            intro char last
            apply bounded.starts char
            rw [longer, gap_eq, ← List.append_assoc]
            exact List.mem_getLast?_append_of_mem_getLast? last
          exact List.mem_cons_of_mem _ (induction later)
        · cases more with
          | nil =>
              have later : Piece stops after [] piece late :=
                ⟨piece_eq.symm, bounded.plain, nofun, bounded.ends⟩
              exact List.mem_cons_of_mem _ (induction later)
          | cons char more =>
              cases piece with
              | nil => exact absurd rfl some_piece
              | cons first piece =>
                  obtain rfl : first = char := List.head_eq_of_cons_eq piece_eq
                  have in_found : stops first = true := by
                    apply stopped
                    rw [found_eq]
                    exact List.mem_append_right _ List.mem_cons_self
                  rw [bounded.plain first List.mem_cons_self] at in_found
                  cases in_found

theorem mem_split_of_piece {text before piece after : List Char}
    (bounded : Piece stops text before piece after) (some_piece : piece ≠ []) :
    piece ∈ (plus (.set stops)).split isWord text :=
  (cut_cutText isWord (plus (.set stops)) text).mem_of_piece bounded some_piece

theorem Cut.piece_of_mem {before text tail : List Char} {pieces : List (List Char × List Char)}
    (cut : Cut isWord (plus (.set stops)) before text pieces tail) {piece : List Char}
    (member : piece ∈ pieces.map Prod.fst ++ [tail]) :
    ∃ early late, Piece stops text early piece late := by
  induction cut with
  | last before plain clear =>
      obtain rfl := List.mem_singleton.1 member
      exact ⟨[], [], (List.append_nil piece).symm, clear.unstopped, nofun, nofun⟩
  | next before plain found after pieces tail clear some_found matched others induction =>
      have stopped := (accepts_of_matchAt (reads_plus_set isWord stops) matched).2
      rw [List.all_eq_true] at stopped
      rcases List.mem_cons.1 member with rfl | later
      · refine ⟨[], found ++ after, rfl, clear.unstopped, nofun, ?_⟩
        intro char first
        rw [List.head?_append_of_ne_nil _ some_found] at first
        exact stopped char (List.mem_of_head? first)
      · obtain ⟨early, late, bounded⟩ := induction later
        refine ⟨plain ++ (found ++ early), late, ?_, bounded.plain, ?_, bounded.ends⟩
        · rw [bounded.whole, List.append_assoc, List.append_assoc]
        · intro char last
          rw [← List.append_assoc] at last
          by_cases here : early = []
          · rw [here, List.append_nil, List.getLast?_append_of_ne_nil _ some_found] at last
            exact stopped char (List.mem_of_getLast? last)
          · rw [List.getLast?_append_of_ne_nil _ here] at last
            exact bounded.starts char last

theorem piece_of_mem_split {text piece : List Char}
    (member : piece ∈ (plus (.set stops)).split isWord text) :
    ∃ before after, Piece stops text before piece after :=
  (cut_cutText isWord (plus (.set stops)) text).piece_of_mem member

/-- A piece that is not all outside a stretch without stops has the whole of it. -/
theorem Piece.covers {text before piece after front middle back : List Char}
    (bounded : Piece stops text before piece after) (whole : text = front ++ (middle ++ back))
    (unstopped : ∀ char ∈ middle, stops char = false) {outside : Char → Bool}
    (front_outside : ∀ char ∈ front, outside char = true)
    (back_outside : ∀ char ∈ back, outside char = true)
    {seen : Char} (member : seen ∈ piece) (inside : outside seen = false) :
    ∃ lead tail, piece = lead ++ (middle ++ tail) ∧ lead <:+ front ∧ tail <+: back := by
  have apart : ∀ part : List Char, (∀ char ∈ part, outside char = true) → ¬ piece <:+: part := by
    intro part all within
    rw [all seen (within.subset member)] at inside
    cases inside
  -- a nonempty end of the stretch before the piece would be a stop
  have starts : ∃ lead, front = before ++ lead ∧ piece ++ after = lead ++ (middle ++ back) := by
    have split := bounded.whole
    rw [whole] at split
    rcases List.append_eq_append_iff.1 split with ⟨cut, longer, rest⟩ | ⟨lead, shorter, rest⟩
    · by_cases here : cut = []
      · subst here
        rw [List.append_nil] at longer
        exact ⟨[], by rw [longer, List.append_nil], rest.symm⟩
      · exfalso
        have stopped : stops (cut.getLast here) = true := by
          apply bounded.starts
          rw [longer, List.getLast?_append_of_ne_nil _ here, List.getLast?_eq_some_getLast here]
          rfl
        rcases List.append_eq_append_iff.1 rest with ⟨more, cut_eq, back_eq⟩ | ⟨more, middle_eq, -⟩
        · apply apart back back_outside
          exact ⟨more, after, by rw [back_eq, List.append_assoc]⟩
        · rw [unstopped _ (middle_eq ▸ List.mem_append_left _ (List.getLast_mem here))] at stopped
          cases stopped
    · exact ⟨lead, shorter, rest⟩
  obtain ⟨lead, front_eq, rest⟩ := starts
  have lead_outside : ∀ char ∈ lead, outside char = true := by
    intro char inside_lead
    apply front_outside
    rw [front_eq]
    exact List.mem_append_right _ inside_lead
  rw [← List.append_assoc] at rest
  rcases List.append_eq_append_iff.1 rest with ⟨cut, whole_eq, after_eq⟩ | ⟨more, piece_eq, back_eq⟩
  · cases cut with
    | nil =>
        refine ⟨lead, [], ?_, ⟨before, front_eq.symm⟩, List.nil_prefix⟩
        rw [List.append_nil, whole_eq, List.append_nil]
    | cons char cut =>
        exfalso
        have stopped : stops char = true := by
          apply bounded.ends
          rw [after_eq]
          rfl
        rcases List.append_eq_append_iff.1 whole_eq with ⟨more, lead_eq, tail_eq⟩ | ⟨more, lead_eq, -⟩
        · have inside_middle : char ∈ middle := by
            rw [tail_eq]
            exact List.mem_append_right _ List.mem_cons_self
          rw [unstopped char inside_middle] at stopped
          cases stopped
        · apply apart lead lead_outside
          rw [lead_eq]
          exact (List.prefix_append _ _).isInfix
  · refine ⟨lead, more, ?_, ⟨before, front_eq.symm⟩, ⟨after, back_eq.symm⟩⟩
    rw [piece_eq, List.append_assoc]

end Pieces

section Demands

variable (isWord : Char → Bool) (accepts : Char → Bool)

/-- Every match takes a character of the kind. -/
def Demands (regex : Regex) : Prop :=
  ∀ before rest next, next ∈ regex.results isWord before rest →
    ∃ taken, rest = taken ++ next.2 ∧ ∃ char ∈ taken, accepts char = true

variable {isWord accepts}

theorem demands_set {kind : Char → Bool} (sub : ∀ char, kind char = true → accepts char = true) :
    Demands isWord accepts (.set kind) := by
  intro before rest next member
  cases rest with
  | nil => exact absurd member List.not_mem_nil
  | cons char rest =>
      rw [results] at member
      by_cases accepted : kind char = true
      · rw [if_pos accepted, List.mem_singleton] at member
        rw [member]
        exact ⟨[char], rfl, char, List.mem_cons_self, sub char accepted⟩
      · rw [if_neg accepted] at member
        exact absurd member List.not_mem_nil

theorem demands_first {first : Regex} (demands : Demands isWord accepts first) (second : Regex) :
    Demands isWord accepts (.seq first second) := by
  intro before rest next member
  obtain ⟨middle, one, two⟩ := (mem_results_seq isWord first second _ _ _).1 member
  obtain ⟨taken, split, char, inside, accepted⟩ := demands _ _ _ one
  obtain ⟨more, split_more, -⟩ := takes_of_results isWord second _ _ _ two
  refine ⟨taken ++ more, ?_, char, List.mem_append_left _ inside, accepted⟩
  rw [split, split_more, List.append_assoc]

theorem demands_second (first : Regex) {second : Regex} (demands : Demands isWord accepts second) :
    Demands isWord accepts (.seq first second) := by
  intro before rest next member
  obtain ⟨middle, one, two⟩ := (mem_results_seq isWord first second _ _ _).1 member
  obtain ⟨taken, split, -⟩ := takes_of_results isWord first _ _ _ one
  obtain ⟨more, split_more, char, inside, accepted⟩ := demands _ _ _ two
  refine ⟨taken ++ more, ?_, char, List.mem_append_right _ inside, accepted⟩
  rw [split, split_more, List.append_assoc]

theorem demands_choice (parts : List Regex)
    (every : ∀ part ∈ parts, Demands isWord accepts part) :
    Demands isWord accepts (choice parts) := by
  induction parts with
  | nil => exact demands_set fun char impossible => absurd impossible Bool.false_ne_true
  | cons first others induction =>
      cases others with
      | nil => exact every first List.mem_cons_self
      | cons second others =>
          intro before rest next member
          change next ∈ first.results isWord before rest ++
            (choice (second :: others)).results isWord before rest at member
          rcases List.mem_append.1 member with one | two
          · exact every first List.mem_cons_self _ _ _ one
          · have later := fun part inside => every part (List.mem_cons_of_mem _ inside)
            exact induction later _ _ _ two

/-- A text without such a character has no match. -/
theorem search_of_demands {regex : Regex} (demands : Demands isWord accepts regex)
    {text : List Char} (none_here : ∀ char ∈ text, accepts char = false) :
    regex.search isWord text = none := by
  have unmatched : ∀ before rest, (∀ char ∈ rest, accepts char = false) →
      regex.matchAt isWord before rest = none := by
    intro before rest clear
    cases matched : regex.matchAt isWord before rest with
    | none => rfl
    | some found =>
        unfold matchAt at matched
        obtain ⟨next, first, -⟩ := Option.map_eq_some_iff.1 matched
        obtain ⟨taken, split, char, inside, accepted⟩ := demands _ _ _ (List.mem_of_head? first)
        rw [clear char (split ▸ List.mem_append_left _ inside)] at accepted
        cases accepted
  unfold search
  generalize ([] : List Char) = before
  induction text generalizing before with
  | nil =>
      rw [searchFrom, unmatched before [] none_here]
      rfl
  | cons char rest induction =>
      rw [searchFrom, unmatched before _ none_here]
      exact induction (fun other inside => none_here other (List.mem_cons_of_mem _ inside)) _

end Demands

section Boundless

/-- No part of the expression asks what a word is. -/
def boundless : Regex → Bool
  | .wordBoundary => false
  | .seq first second => first.boundless && second.boundless
  | .alt first second => first.boundless && second.boundless
  | .star body => body.boundless
  | _ => true

theorem results_boundless (isWord other : Char → Bool) {regex : Regex}
    (free : regex.boundless = true) : regex.results isWord = regex.results other := by
  induction regex with
  | wordBoundary => cases free
  | seq first second left right =>
      rw [boundless, Bool.and_eq_true] at free
      funext before rest
      rw [results, results, left free.1, right free.2]
  | alt first second left right =>
      rw [boundless, Bool.and_eq_true] at free
      funext before rest
      rw [results, results, left free.1, right free.2]
  | star body induction =>
      funext before rest
      rw [results, results, induction free]
  | set accepts =>
      funext before rest
      cases rest <;> rfl
  | empty => rfl
  | lineStart => rfl
  | textStart => rfl
  | textEnd => rfl

theorem cut_boundless (isWord other : Char → Bool) {regex : Regex}
    (free : regex.boundless = true) (fuel : Nat) (before piece rest : List Char) :
    regex.cut isWord fuel before piece rest = regex.cut other fuel before piece rest := by
  have matched : regex.matchAt isWord = regex.matchAt other := by
    funext before rest
    unfold matchAt
    rw [results_boundless isWord other free]
  induction fuel generalizing before piece rest with
  | zero => rfl
  | succ fuel induction =>
      cases rest with
      | nil => rfl
      | cons char rest =>
          unfold cut
          simp only [matched, induction]

theorem findAll_boundless (isWord other : Char → Bool) {regex : Regex}
    (free : regex.boundless = true) (text : List Char) :
    regex.findAll isWord text = regex.findAll other text := by
  unfold findAll cutText
  rw [cut_boundless isWord other free]

end Boundless

end Regex

end Text
