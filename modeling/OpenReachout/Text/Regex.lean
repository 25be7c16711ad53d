import Mathlib.Data.List.Basic

/-!
# Backtracking regular expressions

`results` lists the ways an expression can match at a position, in the order in
which a backtracking engine tries them, so its head is the match such an engine
reports. A position is the text before it, read backwards, and the text after.
-/

namespace Text

set_option autoImplicit false

inductive Regex where
  | empty
  | set (accepts : Char → Bool)
  | seq (first second : Regex)
  | alt (first second : Regex)
  | star (body : Regex)
  | wordBoundary
  | lineStart
  | textStart
  | textEnd

namespace Regex

/-- Greedy repetition. An iteration that consumes nothing ends the loop. -/
def starLoop (step : List Char → List Char → List (List Char × List Char)) :
    Nat → List Char → List Char → List (List Char × List Char)
  | 0, before, rest => [(before, rest)]
  | fuel + 1, before, rest =>
      ((step before rest).flatMap fun next =>
        if next.2.length < rest.length then starLoop step fuel next.1 next.2 else []) ++
        [(before, rest)]

def results (isWord : Char → Bool) : Regex → List Char → List Char →
    List (List Char × List Char)
  | .empty, before, rest => [(before, rest)]
  | .set _, _, [] => []
  | .set accepts, before, char :: rest => if accepts char then [(char :: before, rest)] else []
  | .seq first second, before, rest =>
      (first.results isWord before rest).flatMap fun next =>
        second.results isWord next.1 next.2
  | .alt first second, before, rest =>
      first.results isWord before rest ++ second.results isWord before rest
  | .star body, before, rest => starLoop (body.results isWord) rest.length before rest
  | .wordBoundary, before, rest =>
      if before.head?.any isWord != rest.head?.any isWord then [(before, rest)] else []
  | .lineStart, before, rest =>
      if before.head?.all (· = '\n') then [(before, rest)] else []
  | .textStart, before, rest => if before.isEmpty then [(before, rest)] else []
  | .textEnd, before, rest => if rest.isEmpty || rest = ['\n'] then [(before, rest)] else []

/-- The match that starts here, and what follows it. -/
def matchAt (isWord : Char → Bool) (regex : Regex) (before rest : List Char) :
    Option (List Char × List Char) :=
  (regex.results isWord before rest).head?.map fun next =>
    (rest.take (rest.length - next.2.length), next.2)

/-- The first match at or after this position. -/
def searchFrom (isWord : Char → Bool) (regex : Regex) : List Char → List Char → Option (List Char)
  | before, [] => (regex.matchAt isWord before []).map Prod.fst
  | before, char :: rest =>
      match regex.matchAt isWord before (char :: rest) with
      | some found => some found.1
      | none => regex.searchFrom isWord (char :: before) rest

def search (isWord : Char → Bool) (regex : Regex) (text : List Char) : Option (List Char) :=
  regex.searchFrom isWord [] text

/-- The pieces of a text cut at every match, with the results between them. -/
def cut (isWord : Char → Bool) (regex : Regex) : Nat → List Char → List Char → List Char →
    List (List Char × List Char) × List Char
  | 0, _, piece, rest => ([], piece.reverse ++ rest)
  | _ + 1, _, piece, [] => ([], piece.reverse)
  | fuel + 1, before, piece, char :: rest =>
      match regex.matchAt isWord before (char :: rest) with
      | some (found, after) =>
          if found.isEmpty then regex.cut isWord fuel (char :: before) (char :: piece) rest
          else
            let tail := regex.cut isWord fuel (found.reverse ++ before) [] after
            ((piece.reverse, found) :: tail.1, tail.2)
      | none => regex.cut isWord fuel (char :: before) (char :: piece) rest

def cutText (isWord : Char → Bool) (regex : Regex) (text : List Char) :
    List (List Char × List Char) × List Char :=
  regex.cut isWord text.length [] [] text

/-- All results, left to right, none overlapping; for expressions that match no
empty text. -/
def findAll (isWord : Char → Bool) (regex : Regex) (text : List Char) : List (List Char) :=
  (regex.cutText isWord text).1.map Prod.snd

def split (isWord : Char → Bool) (regex : Regex) (text : List Char) : List (List Char) :=
  let pieces := regex.cutText isWord text
  pieces.1.map Prod.fst ++ [pieces.2]

def opt (body : Regex) : Regex := .alt body .empty

def plus (body : Regex) : Regex := .seq body (.star body)

/-- `body{0,count}` -/
def upTo (body : Regex) : Nat → Regex
  | 0 => .empty
  | count + 1 => opt (.seq body (upTo body count))

def exactly (body : Regex) : Nat → Regex
  | 0 => .empty
  | count + 1 => .seq body (exactly body count)

def dot : Regex := .set fun char => char != '\n'

def sequence (parts : List Regex) : Regex := parts.foldr .seq .empty

def choice : List Regex → Regex
  | [] => .set fun _ => false
  | [last] => last
  | first :: others => .alt first (choice others)

def literal (text : String) : Regex :=
  sequence (text.toList.map fun expected => .set fun char => char = expected)

/-- Under `IGNORECASE` an ASCII letter also results the letters that fold to it. -/
def fold (char : Char) : Char :=
  if char = 'ſ' then 's' else if char = 'K' then 'k'
  else if char = 'İ' || char = 'ı' then 'i' else char.toLower

def word (text : String) : Regex :=
  sequence (text.toList.map fun expected => .set fun char => fold char = fold expected)

def words (texts : List String) : Regex := choice (texts.map word)

section Delimited

variable (isWord : Char → Bool)

theorem results_exactly_set (accepts : Char → Bool) (count : Nat) (before rest : List Char) :
    (exactly (.set accepts) count).results isWord before rest =
      if count ≤ rest.length ∧ (rest.take count).all accepts = true then
        [((rest.take count).reverse ++ before, rest.drop count)]
      else [] := by
  induction count generalizing before rest with
  | zero => simp [exactly, results]
  | succ count induction =>
      cases rest with
      | nil => simp [exactly, results]
      | cons char rest =>
          simp only [exactly, results]
          by_cases accepted : accepts char = true
          · simp [accepted, induction]
          · simp [accepted]

/-- A character, then `count` characters of a kind, then a last character. -/
def delimited (first : Char) (accepts : Char → Bool) (count : Nat) (last : Char) : Regex :=
  .sequence [.set (· = first), exactly (.set accepts) count, .set (· = last)]

theorem match_delimited (first last : Char) (accepts : Char → Bool) (count : Nat)
    (before body after : List Char) (length : body.length = count)
    (accepted : body.all accepts = true) :
    (delimited first accepts count last).matchAt isWord before
        (first :: body ++ last :: after) = some (first :: body ++ [last], after) := by
  have taken : (body ++ last :: after).take count = body := by
    rw [← length, List.take_left]
  have dropped : (body ++ last :: after).drop count = last :: after := by
    rw [← length, List.drop_left]
  have long : count ≤ (body ++ last :: after).length := by simp [length]
  simp only [matchAt, delimited, sequence, List.foldr, results, List.cons_append, decide_true,
    if_true, List.flatMap_cons, List.flatMap_nil, List.append_nil, results_exactly_set, taken,
    dropped, accepted, long, and_self, List.head?_cons, Option.map_some]
  have count_kept : (first :: (body ++ last :: after)).length - after.length =
      (first :: (body ++ [last])).length := by
    simp only [List.length_cons, List.length_append, List.length_nil]
    omega
  have whole : first :: (body ++ last :: after) = (first :: (body ++ [last])) ++ after := by simp
  rw [count_kept, whole, List.take_left]

theorem shape_of_match_delimited {first last : Char} {accepts : Char → Bool} {count : Nat}
    {before rest found after : List Char}
    (matched : (delimited first accepts count last).matchAt isWord before rest =
      some (found, after)) :
    ∃ body, body.all accepts = true ∧ found = first :: body ++ [last] ∧ rest = found ++ after := by
  cases rest with
  | nil => simp [matchAt, delimited, sequence, results] at matched
  | cons char rest =>
      simp only [matchAt, delimited, sequence, List.foldr, results] at matched
      by_cases opens : char = first
      · subst opens
        simp only [decide_true, if_true, List.flatMap_cons, List.flatMap_nil, List.append_nil,
          results_exactly_set] at matched
        by_cases inner : count ≤ rest.length ∧ (rest.take count).all accepts = true
        · rw [if_pos inner] at matched
          simp only [List.flatMap_cons, List.flatMap_nil, List.append_nil] at matched
          have split := List.take_append_drop count rest
          cases ending : rest.drop count with
          | nil => simp [ending, results] at matched
          | cons final tail =>
              rw [ending] at matched split
              simp only [results] at matched
              by_cases closes : final = last
              · subst closes
                simp only [decide_true, if_true, List.flatMap_cons, List.flatMap_nil,
                  List.append_nil, List.head?_cons, Option.map_some, Option.some.injEq,
                  Prod.mk.injEq] at matched
                obtain ⟨found_eq, rfl⟩ := matched
                obtain ⟨body, accepted, same⟩ : ∃ body : List Char, body.all accepts = true ∧
                    rest = body ++ final :: tail := ⟨_, inner.2, split.symm⟩
                subst same
                have whole : char :: (body ++ final :: tail) = (char :: body ++ [final]) ++ tail := by
                  simp
                have kept : (char :: (body ++ final :: tail)).length - tail.length =
                    (char :: body ++ [final]).length := by
                  simp only [List.length_cons, List.length_append, List.length_nil]
                  omega
                rw [kept, whole, List.take_left] at found_eq
                exact ⟨body, accepted, found_eq.symm, by rw [← found_eq, whole]⟩
              · simp [closes] at matched
        · rw [if_neg inner] at matched
          simp at matched
      · simp [opens] at matched

end Delimited

section Membership

variable (isWord : Char → Bool)

theorem matchAt_isSome_iff (regex : Regex) (before rest : List Char) :
    (regex.matchAt isWord before rest).isSome = true ↔
      ∃ next, next ∈ regex.results isWord before rest := by
  unfold matchAt
  rw [Option.isSome_map]
  cases regex.results isWord before rest with
  | nil => simp
  | cons next others => simp

theorem mem_results_seq (first second : Regex) (before rest : List Char)
    (next : List Char × List Char) :
    next ∈ (Regex.seq first second).results isWord before rest ↔
      ∃ middle, middle ∈ first.results isWord before rest ∧
        next ∈ second.results isWord middle.1 middle.2 :=
  List.mem_flatMap

theorem mem_starLoop_set (accepts : Char → Bool) (fuel : Nat) (before rest : List Char)
    (enough : rest.length ≤ fuel) (next : List Char × List Char) :
    next ∈ starLoop ((Regex.set accepts).results isWord) fuel before rest ↔
      ∃ taken, taken.all accepts = true ∧ rest = taken ++ next.2 ∧
        next.1 = taken.reverse ++ before := by
  have none_taken : ∀ before rest : List Char, (∃ taken, taken.all accepts = true ∧
      rest = taken ++ next.2 ∧ next.1 = taken.reverse ++ before) ↔
      next = (before, rest) ∨ ∃ char taken, accepts char = true ∧ taken.all accepts = true ∧
        rest = char :: (taken ++ next.2) ∧ next.1 = taken.reverse ++ char :: before := by
    intro before rest
    constructor
    · rintro ⟨taken, accepted, split, passed⟩
      cases taken with
      | nil => exact Or.inl (Prod.ext passed split.symm)
      | cons char taken =>
          rw [List.all_cons, Bool.and_eq_true] at accepted
          refine Or.inr ⟨char, taken, accepted.1, accepted.2, split, ?_⟩
          rw [passed, List.reverse_cons, List.append_assoc]
          rfl
    · rintro (rfl | ⟨char, taken, here, accepted, split, passed⟩)
      · exact ⟨[], rfl, rfl, rfl⟩
      · refine ⟨char :: taken, ?_, split, ?_⟩
        · rw [List.all_cons, here, accepted]
          rfl
        · rw [passed, List.reverse_cons, List.append_assoc]
          rfl
  induction fuel generalizing before rest with
  | zero =>
      have empty : rest = [] := List.eq_nil_of_length_eq_zero (Nat.le_zero.1 enough)
      subst empty
      rw [none_taken]
      simp [starLoop]
  | succ fuel induction =>
      rw [none_taken]
      cases rest with
      | nil => simp [starLoop, results]
      | cons char rest =>
          have shorter : rest.length ≤ fuel := Nat.le_of_succ_le_succ enough
          by_cases here : accepts char = true
          · have step := induction (char :: before) rest shorter
            simp only [starLoop, results, here, if_true, List.flatMap_cons, List.flatMap_nil,
              List.append_nil, List.length_cons, Nat.lt_succ_self, List.mem_append,
              List.mem_singleton, step, List.cons.injEq]
            constructor
            · rintro (⟨taken, accepted, split, passed⟩ | same)
              · exact Or.inr ⟨char, taken, here, accepted, ⟨rfl, split⟩, passed⟩
              · exact Or.inl same
            · rintro (same | ⟨other, taken, _, accepted, ⟨rfl, split⟩, passed⟩)
              · exact Or.inr same
              · exact Or.inl ⟨taken, accepted, split, passed⟩
          · simp only [starLoop, results, here, List.cons.injEq]
            constructor
            · intro member
              exact Or.inl (by simpa using member)
            · rintro (same | ⟨other, taken, accepted, _, ⟨rfl, _⟩, _⟩)
              · simp [same]
              · exact absurd accepted here

/-- One or more characters of a kind. -/
theorem mem_results_plus_set (accepts : Char → Bool) (before rest : List Char)
    (next : List Char × List Char) :
    next ∈ (plus (.set accepts)).results isWord before rest ↔
      ∃ taken, taken ≠ [] ∧ taken.all accepts = true ∧ rest = taken ++ next.2 ∧
        next.1 = taken.reverse ++ before := by
  cases rest with
  | nil =>
      simp only [plus, results, List.flatMap_nil, List.not_mem_nil, false_iff]
      rintro ⟨taken, some_taken, _, split, _⟩
      exact some_taken (List.append_eq_nil_iff.1 split.symm).1
  | cons char rest =>
      by_cases here : accepts char = true
      · simp only [plus, results, here, if_true, List.flatMap_cons, List.flatMap_nil,
          List.append_nil, mem_starLoop_set isWord accepts _ _ _ (Nat.le_refl _)]
        constructor
        · rintro ⟨taken, accepted, split, passed⟩
          refine ⟨char :: taken, nofun, ?_, congrArg (List.cons char) split, ?_⟩
          · rw [List.all_cons, here, accepted]
            rfl
          · rw [passed, List.reverse_cons, List.append_assoc]
            rfl
        · rintro ⟨taken, some_taken, accepted, split, passed⟩
          cases taken with
          | nil => exact absurd rfl some_taken
          | cons other taken =>
              rw [List.cons_append, List.cons.injEq] at split
              rw [List.all_cons, Bool.and_eq_true] at accepted
              refine ⟨taken, accepted.2, split.2, ?_⟩
              rw [passed, List.reverse_cons, List.append_assoc, split.1]
              rfl
      · simp only [plus, results, here, if_false, List.flatMap_nil, List.not_mem_nil, false_iff,
          Bool.false_eq_true]
        rintro ⟨taken, some_taken, accepted, split, _⟩
        cases taken with
        | nil => exact some_taken rfl
        | cons other taken =>
            rw [List.cons_append, List.cons.injEq] at split
            rw [List.all_cons, Bool.and_eq_true] at accepted
            rw [split.1] at here
            exact here accepted.1

end Membership

/-- A text that the expression matches wherever it stands is found in every text around
it, if no match can begin inside another. -/
theorem mem_findAll_of_infix (isWord : Char → Bool) {regex : Regex} {first : Char}
    {tail : List Char}
    (whole : ∀ before after, regex.matchAt isWord before (first :: tail ++ after) =
      some (first :: tail, after))
    (shape : ∀ before rest found after, regex.matchAt isWord before rest = some (found, after) →
      rest = found ++ after ∧ ∃ inner, found = first :: inner ∧ first ∉ inner)
    (early late : List Char) :
    first :: tail ∈ regex.findAll isWord (early ++ (first :: tail ++ late)) := by
  have cut_mem : ∀ (fuel : Nat) (before piece early : List Char),
      (early ++ (first :: tail ++ late)).length ≤ fuel →
      first :: tail ∈ (regex.cut isWord fuel before piece
        (early ++ (first :: tail ++ late))).1.map Prod.snd := by
    intro fuel
    induction fuel with
    | zero =>
        intro before piece early enough
        simp at enough
    | succ fuel induction =>
        intro before piece early enough
        cases early with
        | nil =>
            simp only [List.nil_append, List.cons_append, cut] at enough ⊢
            have here := whole before late
            rw [List.cons_append] at here
            rw [here]
            simp
        | cons char early =>
            have shorter : (early ++ (first :: tail ++ late)).length ≤ fuel := by
              simp only [List.cons_append, List.length_cons] at enough
              simp only [List.cons_append]
              omega
            simp only [List.cons_append, cut]
            cases matched : regex.matchAt isWord before
                (char :: (early ++ (first :: (tail ++ late)))) with
            | none => exact induction _ _ early shorter
            | some next =>
                obtain ⟨found, after⟩ := next
                obtain ⟨split, inner, rfl, fresh⟩ := shape _ _ _ _ matched
                -- the match ends before the text, for it cannot hold the text's first character
                have within : ∃ rest, early = inner ++ rest ∧
                    after = rest ++ (first :: tail ++ late) := by
                  rw [List.cons_append, List.cons.injEq] at split
                  rcases List.append_eq_append_iff.1 split.2 with ⟨more, longer, rest⟩ |
                    ⟨rest, shorter, rest_eq⟩
                  · cases more with
                    | nil => exact ⟨[], by simpa using longer.symm, by simpa using rest.symm⟩
                    | cons other more =>
                        rw [List.cons_append, List.cons.injEq] at rest
                        refine absurd ?_ fresh
                        rw [longer, rest.1]
                        simp
                  · exact ⟨rest, shorter, rest_eq⟩
                obtain ⟨rest, rfl, rfl⟩ := within
                have less : (rest ++ (first :: tail ++ late)).length ≤ fuel := by
                  simp only [List.append_assoc, List.length_append] at shorter ⊢
                  omega
                simp only [List.isEmpty_cons, Bool.false_eq_true, if_false, List.map_cons]
                exact List.mem_cons_of_mem _ (induction _ _ rest less)
  exact cut_mem _ [] [] early (Nat.le_refl _)

end Regex

end Text
