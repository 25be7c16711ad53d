import OpenReachout.Core.Attribution
import OpenReachout.Text.Cutting
import OpenReachout.Text.Url
import Mathlib.Data.List.Forall2

/-!
# Link tokens

What a token is read as, and what becomes of the links of a body that carry one.
-/

namespace OpenReachout

open Text Text.Platform

set_option autoImplicit false

section Verification

variable (platform : Platform)

theorem partition_eq_some_iff (mark : Char) (text head tail : List Char) :
    partition mark text = some (head, tail) ↔ text = head ++ mark :: tail ∧ mark ∉ head := by
  induction text generalizing head with
  | nil =>
      rw [partition]
      constructor
      · intro found
        cases found
      · intro parts
        exact absurd parts.1.symm (List.append_ne_nil_of_right_ne_nil _ (List.cons_ne_nil _ _))
  | cons char rest induction =>
      rw [partition]
      by_cases here : char = mark
      · rw [if_pos here, Option.some.injEq, Prod.mk.injEq, here]
        constructor
        · intro same
          rw [← same.1, ← same.2]
          exact ⟨rfl, List.not_mem_nil⟩
        · intro parts
          cases head with
          | nil =>
              exact ⟨rfl, (List.cons.inj parts.1).2⟩
          | cons first head =>
              have same : mark = first := (List.cons.inj parts.1).1
              exact absurd (same ▸ List.mem_cons_self) parts.2
      · rw [if_neg here, Option.map_eq_some_iff]
        constructor
        · intro found
          obtain ⟨⟨front, back⟩, later, same⟩ := found
          rw [Prod.mk.injEq] at same
          obtain ⟨rfl, rfl⟩ := same
          obtain ⟨split, absent⟩ := (induction front).1 later
          refine ⟨by rw [split]; rfl, ?_⟩
          intro member
          rcases List.mem_cons.1 member with same | inside
          · exact here same.symm
          · exact absent inside
        · intro parts
          cases head with
          | nil => exact absurd (List.cons.inj parts.1).1 here
          | cons first head =>
              obtain ⟨rfl, split⟩ := List.cons.inj parts.1
              exact ⟨(head, tail), (induction head).2
                ⟨split, fun member => parts.2 (List.mem_cons_of_mem _ member)⟩, rfl⟩

/-- The characters of a MAC are hexadecimal digits. -/
theorem macOf_all {holds : Char → Prop} (each : ∀ digit < 16, holds (hexDigit digit))
    (key text : List Char) : ∀ char ∈ macOf platform key text, holds char := by
  intro char member
  exact hex_digits_all each 64 _ char (List.mem_of_mem_take member)

theorem macOf_length (key text : List Char) : (macOf platform key text).length = 12 := by
  unfold macOf macLen
  rw [List.length_take, hex_digits_length]
  rfl

/-- The answer to a text that names a UUID before its first dot. -/
theorem verify_of_uuid {token head mac key : List Char} {id : Nat}
    (split : token = head ++ '.' :: mac) (read : platform.uuidOf head = some id) :
    verify platform token key =
      if mac.all isAscii then
        .ok (if macOf platform key (uuidHex id) = mac then some (uuidText id) else none)
      else .error ⟨.other, "comparing strings with non-ASCII characters is not supported"⟩ := by
  have undotted : '.' ∉ head := by
    intro dotted
    rw [uuidOf_dotted platform dotted] at read
    cases read
  have parts : partition '.' token = some (head, mac) :=
    (partition_eq_some_iff '.' token head mac).2 ⟨split, undotted⟩
  have expected : (macOf platform key (uuidHex id)).all isAscii = true := by
    have ascii : ∀ char ∈ macOf platform key (uuidHex id), isAscii char = true :=
      macOf_all platform (by decide) key (uuidHex id)
    exact List.all_eq_true.2 ascii
  unfold verify compareDigest
  rw [parts]
  simp only [read, expected, Bool.true_and]
  by_cases given : mac.all isAscii = true
  · rw [if_pos given, if_pos given]
    simp only [Except.map, decide_eq_true_eq]
  · rw [if_neg given, if_neg given]
    rfl

/-- Any other text is answered at once. -/
theorem verify_of_none {token key : List Char}
    (unread : ∀ head mac, token = head ++ '.' :: mac → platform.uuidOf head = none) :
    verify platform token key = .ok none := by
  unfold verify
  cases parts : partition '.' token with
  | none => rfl
  | some pieces =>
      obtain ⟨head, mac⟩ := pieces
      have split := ((partition_eq_some_iff '.' token head mac).1 parts).1
      simp only [unread head mac split]

/-- A text is read as a touch where it is a UUID, a dot and the MAC of it. -/
theorem verify_eq_some_iff (key token touch : List Char) :
    verify platform token key = .ok (some touch) ↔
      ∃ head id, platform.uuidOf head = some id ∧ touch = uuidText id ∧
        token = head ++ '.' :: macOf platform key (uuidHex id) := by
  constructor
  · intro accepted
    by_cases named : ∃ head mac, token = head ++ '.' :: mac ∧ platform.uuidOf head ≠ none
    · obtain ⟨head, mac, split, some_id⟩ := named
      obtain ⟨id, read⟩ := Option.ne_none_iff_exists'.1 some_id
      rw [verify_of_uuid platform split read] at accepted
      split_ifs at accepted with ascii same
      · have touched : uuidText id = touch := Option.some.inj (Except.ok.inj accepted)
        exact ⟨head, id, read, touched.symm, by rw [same, split]⟩
      · cases Except.ok.inj accepted
    · have unread : ∀ head mac, token = head ++ '.' :: mac → platform.uuidOf head = none := by
        intro head mac split
        by_contra some_id
        exact named ⟨head, mac, split, some_id⟩
      rw [verify_of_none platform unread] at accepted
      cases Except.ok.inj accepted
  · intro parts
    obtain ⟨head, id, read, touched, split⟩ := parts
    have ascii : ∀ char ∈ macOf platform key (uuidHex id), isAscii char = true :=
      macOf_all platform (by decide) key (uuidHex id)
    rw [verify_of_uuid platform split read, if_pos (List.all_eq_true.2 ascii), if_pos rfl, touched]

/-- The token of a touch is read as that touch. -/
theorem verify_tokenFor {touch : Nat} (small : touch < 2 ^ 128) (key : List Char) :
    verify platform (tokenFor platform touch key) key = .ok (some (uuidText touch)) := by
  rw [verify_eq_some_iff]
  exact ⟨uuidHex touch, touch, uuidOf_uuidHex platform small, rfl, rfl⟩

/-- What the readers of tokens rely on: the token of a touch is read as that touch, every
text gets an answer, and a text gets a touch where it is a UUID, a dot and the MAC of it. -/
structure Attributes (key token : List Char) : Prop where
  returned : ∀ touch id, platform.uuidOf touch = some id →
    verify platform (tokenFor platform id key) key = .ok (some (uuidText id))
  answered : ∃ answer, verify platform token key = .ok answer
  accepted : ∀ touch, verify platform token key = .ok (some touch) ↔
    ∃ head id, platform.uuidOf head = some id ∧ touch = uuidText id ∧
      token = head ++ '.' :: macOf platform key (uuidHex id)

/-- What stands behind the dot is ASCII, where a UUID stands before it. -/
def Comparable (token : List Char) : Prop :=
  ∀ head mac, token = head ++ '.' :: mac → platform.uuidOf head ≠ none → mac.all isAscii = true

/-- Reading a token does what is relied on exactly where its MAC can be compared. -/
theorem attributes_iff (key token : List Char) :
    Attributes platform key token ↔ Comparable platform token := by
  constructor
  · intro attributes head mac split named
    obtain ⟨id, read⟩ := Option.ne_none_iff_exists'.1 named
    obtain ⟨answer, answered⟩ := attributes.answered
    rw [verify_of_uuid platform split read] at answered
    by_contra foreign
    rw [if_neg foreign] at answered
    cases answered
  · intro comparable
    refine ⟨fun touch id read => verify_tokenFor platform (uuidOf_small platform read) key, ?_,
      verify_eq_some_iff platform key token⟩
    by_cases named : ∃ head mac, token = head ++ '.' :: mac ∧ platform.uuidOf head ≠ none
    · obtain ⟨head, mac, split, some_id⟩ := named
      obtain ⟨id, read⟩ := Option.ne_none_iff_exists'.1 some_id
      rw [verify_of_uuid platform split read, if_pos (comparable head mac split some_id)]
      exact ⟨_, rfl⟩
    · refine ⟨none, verify_of_none platform ?_⟩
      intro head mac split
      by_contra some_id
      exact named ⟨head, mac, split, some_id⟩

/-- A token whose MAC is not ASCII is no malformed token but an error. -/
theorem foreign_mac_raises :
    verify (Platform.ascii []) "00000000000000000000000000000004.é".toList "key".toList =
      .error ⟨.other, "comparing strings with non-ASCII characters is not supported"⟩ ∧
    ¬ Attributes (Platform.ascii []) "key".toList "00000000000000000000000000000004.é".toList := by
  have raises : verify (Platform.ascii []) "00000000000000000000000000000004.é".toList
      "key".toList =
        .error ⟨.other, "comparing strings with non-ASCII characters is not supported"⟩ := by
    decide +kernel
  refine ⟨raises, ?_⟩
  intro attributes
  obtain ⟨answer, answered⟩ := attributes.answered
  rw [raises] at answered
  cases answered

end Verification

section Links

variable {isWord : Char → Bool}

def inLink (char : Char) : Bool :=
  !(isSpace char || char = '>' || char = '"' || char = ')' || char = ']')

/-- `http://` or `https://`, in any case. -/
def IsScheme (start : List Char) : Prop :=
  start.map Regex.fold = "http://".toList.map Regex.fold ∨
  start.map Regex.fold = "https://".toList.map Regex.fold

def IsLink (link : List Char) : Prop :=
  ∃ start more, IsScheme start ∧ more ≠ [] ∧ (∀ char ∈ more, inLink char = true) ∧
    link = start ++ more

theorem isLink_of_match {before rest found after : List Char}
    (matched : url.matchAt isWord before rest = some (found, after)) : IsLink found := by
  have reads := Regex.reads_seq isWord (Regex.reads_word isWord "http")
    (Regex.reads_seq isWord
      (Regex.reads_alt (Regex.reads_word isWord "s") (Regex.reads_empty isWord))
      (Regex.reads_seq isWord (Regex.reads_word isWord "://")
        (Regex.reads_seq isWord (Regex.reads_plus_set isWord inLink) (Regex.reads_empty isWord))))
  obtain ⟨http, others, same_http, ⟨mark, others, same_mark, ⟨slashes, others, same_slashes,
    ⟨more, _, ⟨some_more, inside⟩, rfl, rfl⟩, rfl⟩, rfl⟩, rfl⟩ :=
    Regex.accepts_of_matchAt reads matched
  refine ⟨http ++ (mark ++ slashes), more, ?_, some_more, List.all_eq_true.1 inside, ?_⟩
  · rcases same_mark with same_mark | rfl
    · right
      rw [List.map_append, List.map_append, same_http, same_mark, same_slashes]
      rfl
    · left
      rw [List.map_append, List.nil_append, same_http, same_slashes]
      rfl
  · simp only [List.append_nil, List.append_assoc]

/-- No text that goes on after `http` goes on with an `s` and without one. -/
theorem unmarked_results {slashes : List Char}
    (same : slashes.map Regex.fold = "://".toList.map Regex.fold) (before rest : List Char) :
    (Regex.word "s").results isWord before (slashes ++ rest) = [] := by
  rw [List.eq_nil_iff_forall_not_mem]
  intro next member
  obtain ⟨taken, spelled, split, -⟩ := (Regex.reads_word isWord "s" _ _ _).1 member
  cases slashes with
  | nil => cases same
  | cons first slashes =>
      cases taken with
      | nil => cases spelled
      | cons other taken =>
          obtain ⟨rfl, -⟩ := List.cons.inj split
          have colon : Regex.fold first = ':' := (List.cons.inj same).1
          have letter : Regex.fold first = 's' := (List.cons.inj spelled).1
          rw [colon] at letter
          exact absurd letter (by decide)

section Scheme

variable {more after : List Char} (some_more : more ≠ [])
  (inside : ∀ char ∈ more, inLink char = true) (ends : ∀ char ∈ after.head?, inLink char = false)

include some_more inside ends

theorem head_more (before : List Char) :
    ((Regex.seq (Regex.plus (.set inLink)) .empty).results isWord before
      (more ++ after)).head? = some (more.reverse ++ before, after) := by
  obtain ⟨first, run, rfl⟩ := List.exists_cons_of_ne_nil some_more
  have here : ((Regex.set inLink).results isWord before (first :: (run ++ after))).head? =
      some (first :: before, run ++ after) := by
    rw [Regex.results, if_pos (inside first List.mem_cons_self)]
    rfl
  have others : ((Regex.star (.set inLink)).results isWord (first :: before)
      (run ++ after)).head? = some (run.reverse ++ first :: before, after) :=
    Regex.head_star_set (fun char member => inside char (List.mem_cons_of_mem _ member)) ends _
  rw [List.reverse_cons, List.append_assoc]
  exact Regex.head_seq (Regex.head_seq here others) rfl

theorem head_slashes {slashes : List Char}
    (same : slashes.map Regex.fold = "://".toList.map Regex.fold) (before : List Char) :
    ((Regex.sequence [Regex.word "://", Regex.plus (.set inLink)]).results isWord before
      (slashes ++ (more ++ after))).head? =
        some (more.reverse ++ (slashes.reverse ++ before), after) :=
  Regex.head_seq (Regex.head_word same before _) (head_more some_more inside ends _)

/-- What follows `http`, with the `s` or without it. -/
theorem head_mark {mark slashes : List Char}
    (same_mark : mark = [] ∨ mark.map Regex.fold = "s".toList.map Regex.fold)
    (same : slashes.map Regex.fold = "://".toList.map Regex.fold) (before : List Char) :
    ((Regex.sequence [Regex.opt (Regex.word "s"), Regex.word "://",
      Regex.plus (.set inLink)]).results isWord before
        (mark ++ (slashes ++ (more ++ after)))).head? =
          some (more.reverse ++ (slashes.reverse ++ (mark.reverse ++ before)), after) := by
  have optional : ((Regex.opt (Regex.word "s")).results isWord before
      (mark ++ (slashes ++ (more ++ after)))).head? =
        some (mark.reverse ++ before, slashes ++ (more ++ after)) := by
    rw [Regex.opt, Regex.results]
    rcases same_mark with rfl | letter
    · rw [List.nil_append, unmarked_results same]
      rfl
    · rw [List.head?_append, Regex.head_word letter before _]
      rfl
  exact Regex.head_seq optional (head_slashes some_more inside ends same _)

/-- A link is matched to its end. -/
theorem matchAt_start {start : List Char} (scheme : IsScheme start) (before : List Char) :
    url.matchAt isWord before (start ++ more ++ after) = some (start ++ more, after) := by
  have parts : ∃ http mark slashes, http.map Regex.fold = "http".toList.map Regex.fold ∧
      (mark = [] ∨ mark.map Regex.fold = "s".toList.map Regex.fold) ∧
      slashes.map Regex.fold = "://".toList.map Regex.fold ∧
      start = http ++ (mark ++ slashes) := by
    rcases scheme with plain | secure
    · have split : start.map Regex.fold =
          "http".toList.map Regex.fold ++ "://".toList.map Regex.fold := plain
      obtain ⟨http, slashes, rfl, same_http, same_slashes⟩ := List.map_eq_append_iff.1 split
      exact ⟨http, [], slashes, same_http, Or.inl rfl, same_slashes, rfl⟩
    · have split : start.map Regex.fold = "http".toList.map Regex.fold ++
          ("s".toList.map Regex.fold ++ "://".toList.map Regex.fold) := secure
      obtain ⟨http, others, rfl, same_http, same_others⟩ := List.map_eq_append_iff.1 split
      obtain ⟨mark, slashes, rfl, same_mark, same_slashes⟩ := List.map_eq_append_iff.1 same_others
      exact ⟨http, mark, slashes, same_http, Or.inr same_mark, same_slashes, rfl⟩
  obtain ⟨http, mark, slashes, same_http, same_mark, same_slashes, rfl⟩ := parts
  have first : (url.results isWord before
      (http ++ (mark ++ slashes) ++ more ++ after)).head? =
        some (more.reverse ++ (slashes.reverse ++ (mark.reverse ++ (http.reverse ++ before))),
          after) := by
    simp only [List.append_assoc]
    exact Regex.head_seq (Regex.head_word same_http before _)
      (head_mark some_more inside ends same_mark same_slashes _)
  exact Regex.matchAt_of_head first

end Scheme

/-- Where a link begins, it is matched as far as it goes. -/
theorem matchAt_run {start more : List Char} (scheme : IsScheme start) (some_more : more ≠ [])
    (inside : ∀ char ∈ more, inLink char = true) (before rest : List Char) :
    url.matchAt isWord before (start ++ more ++ rest) =
      some (start ++ (more ++ rest.takeWhile inLink), rest.dropWhile inLink) := by
  have some_run : more ++ rest.takeWhile inLink ≠ [] := by
    rw [ne_eq, List.append_eq_nil_iff]
    exact fun both => some_more both.1
  have run : ∀ char ∈ more ++ rest.takeWhile inLink, inLink char = true := by
    intro char member
    rcases List.mem_append.1 member with early | late
    · exact inside char early
    · exact List.all_eq_true.1 List.all_takeWhile char late
  have ends : ∀ char ∈ (rest.dropWhile inLink).head?, inLink char = false := by
    intro char first
    have stops := List.head?_dropWhile_not inLink rest
    rw [first] at stops
    simpa using stops
  have split : start ++ more ++ rest =
      start ++ (more ++ rest.takeWhile inLink) ++ rest.dropWhile inLink := by
    rw [List.append_assoc, List.append_assoc, List.append_assoc, List.takeWhile_append_dropWhile]
  rw [split]
  exact matchAt_start some_run run ends scheme before

/-- The links of a text are matched to their ends, whatever stands before them. -/
theorem matchAt_url_iff (before rest found after : List Char) :
    url.matchAt isWord before rest = some (found, after) ↔
      IsLink found ∧ (∀ char ∈ after.head?, inLink char = false) ∧ rest = found ++ after := by
  constructor
  · intro matched
    have split := Regex.split_of_matchAt isWord matched
    have isLink := isLink_of_match matched
    refine ⟨isLink, ?_, split⟩
    obtain ⟨start, more, scheme, some_more, inside, rfl⟩ := isLink
    -- the match takes every character of a link that follows
    have longer : url.matchAt isWord before (start ++ more ++ after) =
        some (start ++ (more ++ after.takeWhile inLink), after.dropWhile inLink) :=
      matchAt_run scheme some_more inside before after
    rw [split, longer, Option.some.injEq, Prod.mk.injEq, ← List.append_assoc,
      List.append_right_eq_self] at matched
    intro char first
    cases after with
    | nil => cases first
    | cons other after =>
        obtain rfl := Option.some.inj first
        rw [← Bool.not_eq_true]
        intro kept
        rw [List.takeWhile_cons_of_pos kept] at matched
        cases matched.1
  · intro parts
    obtain ⟨⟨start, more, scheme, some_more, inside, rfl⟩, ends, rfl⟩ := parts
    exact matchAt_start some_more inside ends scheme before

theorem length_scheme {start : List Char} (scheme : IsScheme start) :
    7 ≤ start.length ∧ start.length ≤ 8 := by
  rcases scheme with plain | secure
  · have length := congrArg List.length plain
    rw [List.length_map] at length
    rw [length]
    decide
  · have length := congrArg List.length secure
    rw [List.length_map] at length
    rw [length]
    decide

/-- Before a link there is no link, whatever follows it: the shortest beginning of a link does
not reach behind the link that stands there. -/
theorem clear_before_link {before plain link after : List Char}
    (clear : Regex.Clear isWord url before plain (link ++ after)) (isLink : IsLink link)
    (other later : List Char) : Regex.Clear isWord url other plain (link ++ later) := by
  intro early late split some_late found rest matched
  by_contra some_found
  obtain ⟨⟨start, more, scheme, some_more, inside, rfl⟩, -, same⟩ :=
    (matchAt_url_iff _ _ _ _).1 matched
  obtain ⟨first, run, rfl⟩ := List.exists_cons_of_ne_nil some_more
  have shorter : (start ++ [first]).length ≤ (late ++ link).length := by
    obtain ⟨own, tail, own_scheme, some_tail, -, rfl⟩ := isLink
    have short := (length_scheme scheme).2
    have long := (length_scheme own_scheme).1
    have one := List.length_pos_iff.2 some_late
    have two := List.length_pos_iff.2 some_tail
    simp only [List.length_append, List.length_singleton]
    omega
  have begins : start ++ [first] <+: late ++ (link ++ later) := ⟨run ++ rest, by rw [same]; simp⟩
  have opening : start ++ [first] <+: late ++ link :=
    List.prefix_of_prefix_length_le begins ⟨later, List.append_assoc _ _ _⟩ shorter
  obtain ⟨behind, whole⟩ := opening
  have single : ∀ char ∈ [first], inLink char = true := by
    intro char member
    rw [List.mem_singleton.1 member]
    exact inside first List.mem_cons_self
  have stood : url.matchAt isWord (early.reverse ++ before) (late ++ (link ++ after)) =
      some (start ++ ([first] ++ (behind ++ after).takeWhile inLink),
        (behind ++ after).dropWhile inLink) := by
    rw [← List.append_assoc late, ← whole, List.append_assoc _ behind]
    exact matchAt_run scheme (List.cons_ne_nil _ _) single _ _
  have nothing := clear early late split some_late _ _ stood
  exact List.append_ne_nil_of_right_ne_nil _ (List.cons_ne_nil _ _) nothing

variable {suffix : List Char → List Char}

/-- The text with something behind each of its links. -/
def tagged (suffix : List Char → List Char) (pieces : List (List Char × List Char))
    (tail : List Char) : List Char :=
  (pieces.flatMap fun piece => piece.1 ++ (piece.2 ++ suffix piece.2)) ++ tail

theorem head_tagged {before text tail : List Char} {pieces : List (List Char × List Char)}
    (cut : Regex.Cut isWord url before text pieces tail) :
    (tagged suffix pieces tail).head? = text.head? := by
  cases cut with
  | last => rfl
  | next _ plain found after pieces _ _ some_found _ _ =>
      obtain ⟨first, found, rfl⟩ := List.exists_cons_of_ne_nil some_found
      unfold tagged
      rw [List.flatMap_cons]
      cases plain with
      | nil => rfl
      | cons char plain => rfl

/-- The links of the tagged text are the links with what was put behind them. -/
theorem cut_tagged (inside : ∀ link, ∀ char ∈ suffix link, inLink char = true)
    {before text tail : List Char} {pieces : List (List Char × List Char)}
    (cut : Regex.Cut isWord url before text pieces tail) (other : List Char) :
    Regex.Cut isWord url other (tagged suffix pieces tail)
      (pieces.map fun piece => (piece.1, piece.2 ++ suffix piece.2)) tail := by
  induction cut generalizing other with
  | last before plain clear =>
      refine Regex.Cut.last other plain ?_
      intro early late split some_late found rest matched
      rw [matchAt_url_iff] at matched
      exact clear early late split some_late found rest ((matchAt_url_iff _ _ _ _).2 matched)
  | next before plain found after pieces tail clear some_found matched others induction =>
      obtain ⟨isLink, ends, -⟩ := (matchAt_url_iff _ _ _ _).1 matched
      have longer : IsLink (found ++ suffix found) := by
        obtain ⟨start, more, scheme, some_more, own, rfl⟩ := isLink
        refine ⟨start, more ++ suffix (start ++ more), scheme, ?_, ?_, List.append_assoc _ _ _⟩
        · exact List.append_ne_nil_of_left_ne_nil some_more _
        · intro char member
          rcases List.mem_append.1 member with early | late
          · exact own char early
          · exact inside _ char late
      have still_ends : ∀ char ∈ (tagged suffix pieces tail).head?, inLink char = false := by
        rw [head_tagged others]
        exact ends
      have split : tagged suffix ((plain, found) :: pieces) tail =
          plain ++ (found ++ suffix found ++ tagged suffix pieces tail) := by
        unfold tagged
        rw [List.flatMap_cons]
        simp only [List.append_assoc]
      rw [split, List.map_cons]
      refine Regex.Cut.next other plain _ _ _ tail ?_ ?_ ?_ (induction _)
      · rw [List.append_assoc]
        exact clear_before_link clear isLink other _
      · exact List.append_ne_nil_of_left_ne_nil some_found _
      · exact (matchAt_url_iff _ _ _ _).2 ⟨longer, still_ends, rfl⟩

variable (platform : Platform)

def tokenParameter (touchId : Uuid) (key : List Char) : List Char :=
  't' :: '=' :: tokenFor platform touchId key

theorem tokenParameter_all {holds : Char → Prop} (each : ∀ digit < 16, holds (hexDigit digit))
    (letter : holds 't') (equals : holds '=') (dot : holds '.') (touchId : Uuid)
    (key : List Char) : ∀ char ∈ tokenParameter platform touchId key, holds char := by
  intro char member
  unfold tokenParameter tokenFor at member
  rw [List.mem_cons, List.mem_cons, List.mem_append, List.mem_cons] at member
  rcases member with rfl | rfl | digit | rfl | mac
  · exact letter
  · exact equals
  · exact hex_digits_all each 32 touchId char digit
  · exact dot
  · exact macOf_all platform each key (uuidHex touchId) char mac

theorem tokenParameter_absent {mark : Char} (apart : ∀ digit < 16, hexDigit digit ≠ mark)
    (letter : 't' ≠ mark) (equals : '=' ≠ mark) (dot : '.' ≠ mark) (touchId : Uuid)
    (key : List Char) : mark ∉ tokenParameter platform touchId key := by
  intro member
  have others : ∀ char ∈ tokenParameter platform touchId key, char ≠ mark :=
    tokenParameter_all platform apart letter equals dot touchId key
  exact others mark member rfl

/-- A link with a token ends in a digit of its MAC. -/
theorem trim_withParameter (touchId : Uuid) (key link : List Char) :
    Url.trim (Url.withParameter (tokenParameter platform touchId key) link) =
      Url.withParameter (tokenParameter platform touchId key) link := by
  have digits : ∀ char ∈ macOf platform key (uuidHex touchId), Url.isPunctuation char = false :=
    macOf_all platform (by decide) key (uuidHex touchId)
  have some_mac : macOf platform key (uuidHex touchId) ≠ [] := by
    intro empty
    have length := macOf_length platform key (uuidHex touchId)
    rw [empty] at length
    cases length
  unfold Url.trim
  rw [List.rdropWhile_eq_self_iff]
  intro some_link
  have split : ∃ front, Url.withParameter (tokenParameter platform touchId key) link =
      front ++ macOf platform key (uuidHex touchId) := by
    unfold Url.withParameter tokenParameter tokenFor
    exact ⟨link ++ ((if link.contains '?' then '&' else '?') :: 't' :: '=' ::
      (uuidHex touchId ++ ['.'])), by simp⟩
  obtain ⟨front, whole⟩ := split
  simp only [whole, List.getLast_append_of_ne_nil _ some_mac]
  rw [digits _ (List.getLast_mem some_mac)]
  exact Bool.false_ne_true

/-- The code puts a parameter behind each link, and leaves the rest of the body alone. -/
theorem cut_tokenizeLinks (body : List Char) (touchId : Uuid) (key : List Char) :
    url.cutText platform.isWord (tokenizeLinks platform body touchId key) =
      ((url.cutText platform.isWord body).1.map fun piece =>
        (piece.1, Url.withParameter (tokenParameter platform touchId key) piece.2),
        (url.cutText platform.isWord body).2) := by
  have inside : ∀ link : List Char, ∀ char ∈
      (if link.contains '?' then '&' else '?') :: tokenParameter platform touchId key,
      inLink char = true := by
    intro link char member
    rcases List.mem_cons.1 member with sign | later
    · rw [sign]
      by_cases asked : link.contains '?' = true
      · rw [if_pos asked]
        decide
      · rw [if_neg asked]
        decide
    · have parameter_inside : ∀ char ∈ tokenParameter platform touchId key, inLink char = true :=
        tokenParameter_all platform (by decide) (by decide) (by decide) (by decide) touchId key
      exact parameter_inside char later
  have cut := cut_tagged inside (Regex.cut_cutText platform.isWord url body) []
  have same : tokenizeLinks platform body touchId key =
      tagged (fun link => (if link.contains '?' then '&' else '?') ::
        tokenParameter platform touchId key) (url.cutText platform.isWord body).1
          (url.cutText platform.isWord body).2 := by
    unfold tokenizeLinks tagged
    simp only [List.append_assoc]
    rfl
  rw [same]
  exact Regex.cutText_of_cut cut

/-- What is read behind the scheme of a link. -/
def Followable (link : List Char) : Prop := Url.afterScheme link ≠ []

/-- What the sender relies on: the text around the links stays, each link that a reader
follows leads where it led with the token for one more parameter, the token is read as the
touch, and a body without links stays. -/
structure KeepsLinks (body : List Char) (touchId : Uuid) (key : List Char) : Prop where
  around : (url.cutText platform.isWord (tokenizeLinks platform body touchId key)).1.map Prod.fst =
    (url.cutText platform.isWord body).1.map Prod.fst
  behind : (url.cutText platform.isWord (tokenizeLinks platform body touchId key)).2 =
    (url.cutText platform.isWord body).2
  followed : List.Forall₂
    (fun old new => Followable (Url.trim old) →
      Url.Extends (tokenParameter platform touchId key) (Url.trim old) (Url.trim new))
    (url.findAll platform.isWord body)
    (url.findAll platform.isWord (tokenizeLinks platform body touchId key))
  attributed : verify platform (tokenFor platform touchId key) key = .ok (some (uuidText touchId))
  untouched : url.findAll platform.isWord body = [] → tokenizeLinks platform body touchId key = body

/-- The links of a body keep working exactly where each of them that a reader follows is open
at its end. -/
theorem keepsLinks_iff (body touch key : List Char) (touchId : Uuid)
    (read : platform.uuidOf touch = some touchId) :
    KeepsLinks platform body touchId key ↔
      ∀ link ∈ url.findAll platform.isWord body, Followable (Url.trim link) → Url.Open link := by
  have pieces := cut_tokenizeLinks platform body touchId key
  have links : url.findAll platform.isWord (tokenizeLinks platform body touchId key) =
      (url.findAll platform.isWord body).map
        (Url.withParameter (tokenParameter platform touchId key)) := by
    unfold Regex.findAll
    rw [pieces, List.map_map, List.map_map]
    rfl
  have each : ∀ link, Url.Extends (tokenParameter platform touchId key) (Url.trim link)
      (Url.trim (Url.withParameter (tokenParameter platform touchId key) link)) ↔
        Url.Open link := by
    intro link
    rw [trim_withParameter]
    exact Url.extends_withParameter_iff (List.cons_ne_nil _ _)
      (tokenParameter_absent platform (by decide) (by decide) (by decide) (by decide) touchId key)
      (tokenParameter_absent platform (by decide) (by decide) (by decide) (by decide) touchId key)
      link
  have followed : List.Forall₂
      (fun old new => Followable (Url.trim old) →
        Url.Extends (tokenParameter platform touchId key) (Url.trim old) (Url.trim new))
      (url.findAll platform.isWord body)
      (url.findAll platform.isWord (tokenizeLinks platform body touchId key)) ↔
      ∀ link ∈ url.findAll platform.isWord body, Followable (Url.trim link) → Url.Open link := by
    rw [links, List.forall₂_map_right_iff, List.forall₂_same]
    simp only [each]
  constructor
  · intro keeps
    exact followed.1 keeps.followed
  · intro bare
    refine ⟨?_, ?_, followed.2 bare, verify_tokenFor platform (uuidOf_small platform read) key, ?_⟩
    · rw [pieces, List.map_map]
      rfl
    · rw [pieces]
    · intro linkless
      have no_pieces : (url.cutText platform.isWord body).1 = [] := List.map_eq_nil_iff.1 linkless
      have whole := (Regex.cut_cutText platform.isWord url body).join
      rw [no_pieces] at whole
      unfold tokenizeLinks
      simp only [no_pieces]
      exact whole.symm

/-- A full stop behind a link becomes part of its path. -/
theorem stopped_link_breaks :
    url.findAll (Platform.ascii []).isWord "See https://x.com/a. Bye".toList =
      ["https://x.com/a.".toList] ∧
    Url.address "https://x.com/a".toList = "https://x.com/a".toList ∧
    (url.findAll (Platform.ascii []).isWord
      (tokenizeLinks (Platform.ascii []) "See https://x.com/a. Bye".toList 4 "key".toList)).map
        Url.address = ["https://x.com/a.".toList] ∧
    ¬ KeepsLinks (Platform.ascii []) "See https://x.com/a. Bye".toList 4 "key".toList := by
  have old : url.findAll (Platform.ascii []).isWord "See https://x.com/a. Bye".toList =
      ["https://x.com/a.".toList] := by
    decide +kernel
  have new : (url.findAll (Platform.ascii []).isWord
      (tokenizeLinks (Platform.ascii []) "See https://x.com/a. Bye".toList 4 "key".toList)) =
      ["https://x.com/a.?t=00000000000000000000000000000004.000000000000".toList] := by
    decide +kernel
  refine ⟨old, by decide, ?_, ?_⟩
  · rw [new]
    decide
  · intro keeps
    have followed := keeps.followed
    rw [old, new, List.forall₂_cons] at followed
    have same := (followed.1 (by unfold Followable; decide)).address_eq
    exact absurd same (by decide)

/-- Links in brackets and with a query keep their places. -/
theorem bracketed_links_keep :
    KeepsLinks (Platform.ascii []) "Hi (https://x.com/a?b=1) and http://y.org\nBye".toList 4
      "key".toList := by
  refine (keepsLinks_iff (Platform.ascii []) _ "00000000-0000-0000-0000-000000000004".toList
    "key".toList 4 (by decide +kernel)).2 ?_
  have links : url.findAll (Platform.ascii []).isWord
      "Hi (https://x.com/a?b=1) and http://y.org\nBye".toList =
      ["https://x.com/a?b=1".toList, "http://y.org".toList] := by
    decide +kernel
  rw [links]
  intro link member _
  simp only [List.mem_cons, List.not_mem_nil, or_false] at member
  rcases member with rfl | rfl
  · exact ⟨by decide, Or.inl (by decide)⟩
  · exact ⟨by decide, Or.inl (by decide)⟩

end Links

end OpenReachout
