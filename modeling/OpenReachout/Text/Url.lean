import Mathlib.Data.List.DropRight
import Mathlib.Data.List.Infix

/-!
# Where a link leads

The scheme, the host, the query and the fragment of a link, as the generic syntax of
links has them.
-/

namespace Text.Url

set_option autoImplicit false

def endsAuthority (char : Char) : Bool := char = '/' || char = '?' || char = '#'

def scheme (link : List Char) : List Char := link.takeWhile (· ≠ ':')

/-- What follows the scheme and `://`. -/
def afterScheme (link : List Char) : List Char := link.drop ((scheme link).length + 3)

def authority (link : List Char) : List Char :=
  (afterScheme link).takeWhile fun char => !endsAuthority char

/-- The host of an authority, without the user before it and the port after it. -/
def hostOf (authority : List Char) : List Char :=
  match (authority.reverse.takeWhile (· ≠ '@')).reverse with
  | '[' :: address => '[' :: address.takeWhile (· ≠ ']')
  | server => server.takeWhile (· ≠ ':')

/-- The scheme and the host. -/
def site (link : List Char) : List Char × List Char := (scheme link, hostOf (authority link))

/-- The fragment, with its sign. -/
def fragment (link : List Char) : List Char := link.dropWhile (· ≠ '#')

def beforeFragment (link : List Char) : List Char := link.takeWhile (· ≠ '#')

/-- The scheme, the authority and the path. -/
def address (link : List Char) : List Char := (beforeFragment link).takeWhile (· ≠ '?')

def query (link : List Char) : List Char := ((beforeFragment link).dropWhile (· ≠ '?')).drop 1

/-- The parameters of a query, in their order. -/
def parameters (query : List Char) : List (List Char) :=
  (query.splitOn '&').filter fun parameter => !parameter.isEmpty

def isPunctuation (char : Char) : Bool :=
  char = '.' || char = ',' || char = ';' || char = ':' || char = '!' || char = '?' || char = '\''

/-- The link as the reader of a text takes it, without the punctuation of its sentence. -/
def trim (link : List Char) : List Char :=
  link.rdropWhile isPunctuation

/-- The link goes on after its host. -/
def goesPastHost (link : List Char) : Bool := (afterScheme link).any endsAuthority

theorem takeWhile_append_of_stop {keeps : Char → Bool} {text : List Char}
    (stops : text.all keeps = false) (rest : List Char) :
    (text ++ rest).takeWhile keeps = text.takeWhile keeps := by
  induction text with
  | nil => cases stops
  | cons char text induction =>
      rw [List.cons_append, List.takeWhile_cons, List.takeWhile_cons]
      by_cases kept : keeps char = true
      · rw [List.all_cons, kept, Bool.true_and] at stops
        rw [if_pos kept, if_pos kept, induction stops]
      · rw [if_neg kept, if_neg kept]

theorem trim_prefix {start link : List Char} (begins : start <+: link) :
    trim start <+: trim link := by
  obtain ⟨rest, rfl⟩ := (List.rdropWhile_prefix _ start : trim start <+: start).trans begins
  have trimmed : trim (trim start) = trim start := List.rdropWhile_idempotent _ start
  unfold trim at trimmed ⊢
  generalize List.rdropWhile _ start = kept at trimmed ⊢
  have kept_reversed := congrArg List.reverse trimmed
  unfold List.rdropWhile at kept_reversed ⊢
  rw [List.reverse_reverse] at kept_reversed
  rw [List.reverse_append, List.dropWhile_append]
  split_ifs
  · rw [kept_reversed, List.reverse_reverse]
  · rw [List.reverse_append, List.reverse_reverse]
    exact List.prefix_append _ _

/-- A link that goes past its host leads where every longer link leads. -/
theorem site_of_prefix {start link : List Char} (begins : start <+: link)
    (past : goesPastHost start = true) : site link = site start := by
  obtain ⟨rest, rfl⟩ := begins
  have long : (scheme start).length + 3 < start.length := by
    have some_after : afterScheme start ≠ [] := by
      intro empty
      unfold goesPastHost at past
      rw [empty] at past
      cases past
    have length := List.length_pos_iff.2 some_after
    unfold afterScheme at length
    rw [List.length_drop] at length
    omega
  have same_scheme : scheme (start ++ rest) = scheme start := by
    apply takeWhile_append_of_stop
    rw [← Bool.not_eq_true]
    intro every
    have whole : (start ++ []).takeWhile (· ≠ ':') = start ++ [].takeWhile (· ≠ ':') :=
      List.takeWhile_append_of_pos (List.all_eq_true.1 every)
    rw [List.append_nil, List.takeWhile_nil, List.append_nil] at whole
    unfold scheme at long
    rw [whole] at long
    omega
  have same_after : afterScheme (start ++ rest) = afterScheme start ++ rest := by
    unfold afterScheme
    rw [same_scheme, List.drop_append_of_le_length (Nat.le_of_lt long)]
  unfold site authority
  rw [same_scheme, same_after, takeWhile_append_of_stop]
  rw [← Bool.not_eq_true]
  intro every
  obtain ⟨char, member, ends⟩ := List.any_eq_true.1 past
  have kept := List.all_eq_true.1 every char member
  rw [ends] at kept
  cases kept

section Parameters

/-- The new link leads where the old one leads, with one more parameter. -/
structure Extends (parameter old new : List Char) : Prop where
  address_eq : address new = address old
  fragment_eq : fragment new = fragment old
  parameters_eq : parameters (query new) = parameters (query old) ++ [parameter]

/-- The link with a parameter written behind it. -/
def withParameter (parameter link : List Char) : List Char :=
  link ++ (if link.contains '?' then '&' else '?') :: parameter

/-- The link has no fragment, and no punctuation at its end but a sign of an empty query. -/
def Open (link : List Char) : Prop :=
  '#' ∉ link ∧ (trim link = link ∨ (link = trim link ++ ['?'] ∧ '?' ∉ trim link))

/-- What the reader leaves out is punctuation. -/
theorem exists_punctuation (link : List Char) :
    ∃ late, link = trim link ++ late ∧ ∀ char ∈ late, isPunctuation char = true := by
  refine ⟨link.rtakeWhile isPunctuation, List.rdropWhile_append_rtakeWhile.symm, ?_⟩
  intro char member
  exact List.mem_rtakeWhile_imp member

theorem flatten_parameters (query : List Char) :
    (parameters query).flatten = query.filter (· != '&') := by
  have filled : ∀ pieces : List (List Char),
      (pieces.filter fun piece => !piece.isEmpty).flatten = pieces.flatten := by
    intro pieces
    induction pieces with
    | nil => rfl
    | cons piece pieces induction =>
        cases piece with
        | nil => exact induction
        | cons char piece =>
            change ((char :: piece) :: pieces.filter _).flatten = _
            rw [List.flatten_cons, List.flatten_cons, induction]
  unfold parameters List.splitOn
  rw [filled]
  induction query with
  | nil => rfl
  | cons char query induction =>
      rw [List.splitOnP_cons_eq_if_modifyHead]
      by_cases sign : (char == '&') = true
      · rw [if_pos sign, List.filter_cons, bne, sign, List.flatten_cons, List.nil_append, induction]
        rfl
      · obtain ⟨first, others, pieces⟩ :=
          List.exists_cons_of_ne_nil (List.splitOnP_ne_nil (· == '&') query)
        rw [Bool.not_eq_true] at sign
        rw [if_neg (by rw [sign]; exact Bool.false_ne_true), List.filter_cons, bne, sign, ← induction,
          pieces]
        rfl

theorem parameters_nil : parameters [] = [] := rfl

theorem parameters_single {parameter : List Char} (some_parameter : parameter ≠ [])
    (single : '&' ∉ parameter) : parameters parameter = [parameter] := by
  have one : parameter.splitOn '&' = [parameter] := by
    apply List.splitOnP_eq_singleton
    intro char member
    rw [← Bool.not_eq_true]
    intro same
    exact single (eq_of_beq same ▸ member)
  have kept : (!parameter.isEmpty) = true := by
    rw [Bool.not_eq_true', List.isEmpty_eq_false_iff]
    exact some_parameter
  unfold parameters
  rw [one, List.filter_cons, kept]
  rfl

theorem parameters_append (first second : List Char) :
    parameters (first ++ '&' :: second) = parameters first ++ parameters second := by
  have pieces : (first ++ '&' :: second).splitOn '&' = first.splitOn '&' ++ second.splitOn '&' :=
    List.splitOnP_append_cons first second (beq_self_eq_true '&')
  unfold parameters
  rw [pieces, List.filter_append]

theorem takeWhile_of_absent {mark : Char} {text : List Char} (absent : mark ∉ text) :
    text.takeWhile (· ≠ mark) = text := by
  rw [List.takeWhile_eq_self_iff]
  intro char member
  exact decide_eq_true fun same => absurd (same ▸ member) absent

theorem dropWhile_of_absent {mark : Char} {text : List Char} (absent : mark ∉ text) :
    text.dropWhile (· ≠ mark) = [] := by
  rw [List.dropWhile_eq_nil_iff]
  intro char member
  exact decide_eq_true fun same => absurd (same ▸ member) absent

theorem takeWhile_to_mark {mark : Char} {text : List Char} (absent : mark ∉ text)
    (rest : List Char) : (text ++ mark :: rest).takeWhile (· ≠ mark) = text := by
  have plain : ∀ char ∈ text, decide (char ≠ mark) = true := by
    intro char member
    exact decide_eq_true fun same => absurd (same ▸ member) absent
  rw [List.takeWhile_append_of_pos plain, List.takeWhile_cons_of_neg (by simp), List.append_nil]

theorem dropWhile_to_mark {mark : Char} {text : List Char} (absent : mark ∉ text)
    (rest : List Char) : (text ++ mark :: rest).dropWhile (· ≠ mark) = mark :: rest := by
  have plain : ∀ char ∈ text, decide (char ≠ mark) = true := by
    intro char member
    exact decide_eq_true fun same => absurd (same ▸ member) absent
  rw [List.dropWhile_append_of_pos plain, List.dropWhile_cons_of_neg (by simp)]

variable {link : List Char}

theorem fragment_of_absent (whole : '#' ∉ link) : fragment link = [] := dropWhile_of_absent whole

theorem address_of_bare (whole : '#' ∉ link) (bare : '?' ∉ link) : address link = link := by
  unfold address beforeFragment
  rw [takeWhile_of_absent whole, takeWhile_of_absent bare]

theorem query_of_bare (whole : '#' ∉ link) (bare : '?' ∉ link) : query link = [] := by
  unfold query beforeFragment
  rw [takeWhile_of_absent whole, dropWhile_of_absent bare]
  rfl

theorem address_of_query {base rest : List Char} (whole : '#' ∉ base ++ '?' :: rest)
    (bare : '?' ∉ base) : address (base ++ '?' :: rest) = base := by
  unfold address beforeFragment
  rw [takeWhile_of_absent whole, takeWhile_to_mark bare]

theorem query_of_query {base rest : List Char} (whole : '#' ∉ base ++ '?' :: rest)
    (bare : '?' ∉ base) : query (base ++ '?' :: rest) = rest := by
  unfold query beforeFragment
  rw [takeWhile_of_absent whole, dropWhile_to_mark bare]
  rfl

theorem fragment_append (marked : '#' ∈ link) (more : List Char) :
    fragment (link ++ more) = fragment link ++ more := by
  obtain ⟨front, back, rfl, absent⟩ := List.eq_append_cons_of_mem marked
  unfold fragment
  rw [List.append_assoc, List.cons_append, dropWhile_to_mark absent, dropWhile_to_mark absent,
    List.cons_append]

/-- A link with a fragment does not keep it when it grows, nor do its beginnings have it. -/
theorem fragment_grows {start rest more : List Char} (marked : '#' ∈ start ++ rest)
    (some_more : more ≠ []) : fragment (start ++ rest ++ more) ≠ fragment start := by
  intro same
  have long : 0 < more.length := List.length_pos_iff.2 some_more
  have shorter : (fragment start).length ≤ (fragment (start ++ rest)).length := by
    by_cases early : '#' ∈ start
    · rw [fragment_append early, List.length_append]
      exact Nat.le_add_right _ _
    · rw [fragment_of_absent early]
      exact Nat.zero_le _
  have lengths := congrArg List.length same
  rw [fragment_append marked, List.length_append] at lengths
  omega

variable {parameter : List Char}

theorem withParameter_of_bare (bare : '?' ∉ link) (parameter : List Char) :
    withParameter parameter link = link ++ '?' :: parameter := by
  unfold withParameter
  rw [if_neg]
  rw [List.contains_iff_mem]
  exact bare

theorem withParameter_of_query (base rest parameter : List Char) :
    withParameter parameter (base ++ '?' :: rest) = base ++ '?' :: (rest ++ '&' :: parameter) := by
  have asked : '?' ∈ base ++ '?' :: rest := List.mem_append_right _ List.mem_cons_self
  unfold withParameter
  rw [if_pos (List.contains_iff_mem.2 asked), List.append_assoc, List.cons_append]

/-- A parameter behind a link without a query makes the query. -/
theorem extends_of_bare (some_parameter : parameter ≠ []) (single : '&' ∉ parameter)
    (unmarked : '#' ∉ parameter) (whole : '#' ∉ link) (bare : '?' ∉ link) :
    address (withParameter parameter link) = link ∧
    fragment (withParameter parameter link) = [] ∧
    parameters (query (withParameter parameter link)) = [parameter] := by
  rw [withParameter_of_bare bare]
  have still_whole : '#' ∉ link ++ '?' :: parameter := by
    simp [whole, unmarked]
  rw [address_of_query still_whole bare, query_of_query still_whole bare,
    fragment_of_absent still_whole, parameters_single some_parameter single]
  exact ⟨rfl, rfl, rfl⟩

/-- A parameter behind a link with a query is its last one. -/
theorem extends_of_query {base rest : List Char} (some_parameter : parameter ≠ [])
    (single : '&' ∉ parameter) (unmarked : '#' ∉ parameter) (whole : '#' ∉ base ++ '?' :: rest)
    (bare : '?' ∉ base) :
    address (withParameter parameter (base ++ '?' :: rest)) = base ∧
    fragment (withParameter parameter (base ++ '?' :: rest)) = [] ∧
    parameters (query (withParameter parameter (base ++ '?' :: rest))) =
      parameters rest ++ [parameter] := by
  rw [withParameter_of_query]
  have still_whole : '#' ∉ base ++ '?' :: (rest ++ '&' :: parameter) := by
    simp only [List.mem_append, List.mem_cons, not_or] at whole ⊢
    exact ⟨whole.1, whole.2.1, whole.2.2, by decide, unmarked⟩
  rw [address_of_query still_whole bare, query_of_query still_whole bare,
    fragment_of_absent still_whole, parameters_append, parameters_single some_parameter single]
  exact ⟨rfl, rfl, rfl⟩

/-- Punctuation in a query is part of its parameters. -/
theorem filter_punctuation {late : List Char}
    (punctuation : ∀ char ∈ late, isPunctuation char = true) : late.filter (· != '&') = late := by
  rw [List.filter_eq_self]
  intro char member
  rw [bne_iff_ne]
  rintro rfl
  exact absurd (punctuation _ member) (by decide)

/-- Where a parameter is written behind a link, the link as it is read has it if the link is
open, and only then. -/
theorem extends_withParameter_iff (some_parameter : parameter ≠ [])
    (single : '&' ∉ parameter) (unmarked : '#' ∉ parameter) (link : List Char) :
    Extends parameter (trim link) (withParameter parameter link) ↔ Open link := by
  obtain ⟨late, split, punctuation⟩ := exists_punctuation link
  constructor
  · intro carried
    have whole : '#' ∉ link := by
      intro marked
      rw [split] at marked
      have grows : fragment (trim link ++ late ++
          (if link.contains '?' then '&' else '?') :: parameter) ≠ fragment (trim link) :=
        fragment_grows marked (List.cons_ne_nil _ _)
      rw [← split] at grows
      exact grows carried.fragment_eq
    have trim_whole : '#' ∉ trim link := fun marked => whole (split ▸ List.mem_append_left _ marked)
    refine ⟨whole, ?_⟩
    by_cases asked : '?' ∈ link
    · obtain ⟨base, rest, parts, bare⟩ := List.eq_append_cons_of_mem asked
      have new := extends_of_query some_parameter single unmarked (parts ▸ whole) bare
      rw [← parts] at new
      have same_address := carried.address_eq
      have same_parameters := carried.parameters_eq
      rw [new.1] at same_address
      rw [new.2.2] at same_parameters
      by_cases kept : '?' ∈ trim link
      · obtain ⟨front, back, trimmed, front_bare⟩ := List.eq_append_cons_of_mem kept
        rw [trimmed, address_of_query (trimmed ▸ trim_whole) front_bare] at same_address
        rw [trimmed, query_of_query (trimmed ▸ trim_whole) front_bare] at same_parameters
        have pieces : base ++ '?' :: rest = base ++ '?' :: (back ++ late) := by
          rw [← parts, split, trimmed, ← same_address, List.append_assoc, List.cons_append]
        have behind : rest = back ++ late := (List.cons.inj (List.append_cancel_left pieces)).2
        have texts := congrArg List.flatten (List.append_cancel_right same_parameters)
        rw [flatten_parameters, flatten_parameters, behind, List.filter_append,
          filter_punctuation punctuation, List.append_right_eq_self] at texts
        left
        rw [trimmed, parts, ← same_address, behind, texts, List.append_nil]
      · rw [address_of_bare trim_whole kept] at same_address
        rw [query_of_bare trim_whole kept, parameters_nil] at same_parameters
        have texts := congrArg List.flatten (List.append_cancel_right same_parameters)
        rw [flatten_parameters, List.flatten_nil] at texts
        have pieces : base ++ '?' :: rest = base ++ late := by
          rw [← parts, same_address, ← split]
        have behind : '?' :: rest = late := List.append_cancel_left pieces
        have rest_punctuation : ∀ char ∈ rest, isPunctuation char = true := fun char member =>
          punctuation char (behind ▸ List.mem_cons_of_mem _ member)
        rw [filter_punctuation rest_punctuation] at texts
        right
        refine ⟨?_, kept⟩
        rw [← same_address, parts, texts]
    · have new := extends_of_bare some_parameter single unmarked whole asked
      have trim_bare : '?' ∉ trim link := fun inside =>
        asked (split ▸ List.mem_append_left _ inside)
      have same_address := carried.address_eq
      rw [new.1, address_of_bare trim_whole trim_bare] at same_address
      exact Or.inl same_address.symm
  · intro bare
    obtain ⟨whole, same | ⟨ends, unasked⟩⟩ := bare
    · rw [same]
      by_cases asked : '?' ∈ link
      · obtain ⟨base, rest, rfl, bare⟩ := List.eq_append_cons_of_mem asked
        have new := extends_of_query some_parameter single unmarked whole bare
        refine ⟨?_, ?_, ?_⟩
        · rw [new.1, address_of_query whole bare]
        · rw [new.2.1, fragment_of_absent whole]
        · rw [new.2.2, query_of_query whole bare]
      · have new := extends_of_bare some_parameter single unmarked whole asked
        refine ⟨?_, ?_, ?_⟩
        · rw [new.1, address_of_bare whole asked]
        · rw [new.2.1, fragment_of_absent whole]
        · rw [new.2.2, query_of_bare whole asked, parameters_nil, List.nil_append]
    · have trim_whole : '#' ∉ trim link := fun marked => whole (split ▸ List.mem_append_left _ marked)
      have new : address (withParameter parameter (trim link ++ '?' :: [])) = trim link ∧
          fragment (withParameter parameter (trim link ++ '?' :: [])) = [] ∧
          parameters (query (withParameter parameter (trim link ++ '?' :: []))) =
            parameters [] ++ [parameter] :=
        extends_of_query some_parameter single unmarked (ends ▸ whole) unasked
      rw [← ends] at new
      refine ⟨?_, ?_, ?_⟩
      · rw [new.1, address_of_bare trim_whole unasked]
      · rw [new.2.1, fragment_of_absent trim_whole]
      · rw [new.2.2, query_of_bare trim_whole unasked]

end Parameters

end Text.Url
