import OpenReachout.Core.Canonical

/-!
# Aliases of an address

Two addresses are aliases when one is reached from the other by changes of letter case,
of white space around the address and of a `+suffix`, and at Gmail by dots in the local
part and by the choice of its two domains. `canonicalize` takes two ASCII addresses that
it accepts to one address exactly when they are aliases.
-/

namespace OpenReachout

open Text Text.Regex Text.Platform

set_option autoImplicit false

def Ascii (text : List Char) : Prop := ∀ char ∈ text, char.toNat < 128

def Visible (text : List Char) : Prop := ∀ char ∈ text, isSpace char = false

/-- What the language runtime does with ASCII text: it lowers letters one by one, and it
encodes a domain as itself where it accepts it, which it does when the labels have 1 to
63 characters. -/
structure AsciiLaws (platform : Platform) : Prop where
  lower : ∀ text, Ascii text → platform.lower text = text.map Char.toLower
  idna_kept : ∀ domain encoded, Ascii domain → platform.idna domain = some encoded →
    encoded = domain
  idna_short : ∀ domain, Ascii domain →
    (∀ label ∈ domain.splitOn '.', label ≠ [] ∧ label.length < 64) →
    (platform.idna domain).isSome = true

/-- The texts that differ in nothing that matters for the mailbox they are taken to name. -/
inductive Alias : List Char → List Char → Prop where
  | refl (text : List Char) : Alias text text
  | symm {first second : List Char} (alike : Alias first second) : Alias second first
  | trans {first second third : List Char} (alike : Alias first second)
      (further : Alias second third) : Alias first third
  | letters (text : List Char) : Alias text (text.map Char.toLower)
  | spaces (before text after : List Char) (leading : ∀ char ∈ before, isSpace char = true)
      (trailing : ∀ char ∈ after, isSpace char = true) : Alias (before ++ text ++ after) text
  | suffix (name tag domain : List Char) (shown : Visible (name ++ tag ++ domain))
      (plain : '@' ∉ domain) : Alias (name ++ '+' :: tag ++ '@' :: domain) (name ++ '@' :: domain)
  | dot (first second : List Char) (shown : Visible (first ++ second)) :
      Alias (first ++ '.' :: second ++ "@gmail.com".toList) (first ++ second ++ "@gmail.com".toList)
  | domain (name : List Char) (shown : Visible name) :
      Alias (name ++ "@googlemail.com".toList) (name ++ "@gmail.com".toList)

section Shape

theorem rpartition_append {name domain : List Char} (plain : '@' ∉ domain) :
    rpartition '@' (name ++ '@' :: domain) = (name, domain) := by
  unfold rpartition
  have split : (name ++ '@' :: domain).reverse = domain.reverse ++ '@' :: name.reverse := by
    simp
  have passed : ∀ char ∈ domain.reverse, (char != '@') = true := by
    intro char member
    rw [bne_iff_ne]
    rintro rfl
    exact plain (List.mem_reverse.1 member)
  rw [split, List.span_eq_takeWhile_dropWhile, List.takeWhile_append_of_pos passed,
    List.dropWhile_append_of_pos passed]
  simp

theorem fold_mark_iff {char plain : Char} (mark : plain = '@' ∨ plain = '.') :
    fold char = plain ↔ char = plain := by
  apply fold_eq_iff
  rcases mark with rfl | rfl
  · decide
  · decide

/-- A text in the form that is asked of an address. -/
structure Shaped (text : List Char) (name domain : List Char) : Prop where
  split : text = name ++ '@' :: domain
  named : name ≠ []
  dotted : ∃ first second, first ≠ [] ∧ second ≠ [] ∧ domain = first ++ '.' :: second
  shown : Visible (name ++ domain)
  plain : '@' ∉ name ++ domain

theorem mem_results_mark (isWord : Char → Bool) {plain : Char} (mark : plain = '@' ∨ plain = '.')
    (before rest : List Char) (next : List Char × List Char) :
    next ∈ (Regex.seq (.set fun char => fold char = fold plain) .empty).results isWord before rest ↔
      rest = plain :: next.2 ∧ next.1 = plain :: before := by
  have fixed : fold plain = plain := by rcases mark with rfl | rfl <;> rfl
  cases rest with
  | nil => simp [results]
  | cons char rest =>
      by_cases same : char = plain
      · subst same
        simp only [results, decide_true, if_true, List.flatMap_cons, List.flatMap_nil,
          List.append_nil, List.mem_singleton, Prod.ext_iff, List.cons.injEq, true_and]
        constructor
        · intro both
          exact ⟨both.2.symm, both.1⟩
        · intro both
          exact ⟨both.2, both.1.symm⟩
      · have other : ¬ fold char = plain := fun equal => same ((fold_mark_iff mark).1 equal)
        simp [results, fixed, other, same]

/-- The pattern accepts a text without white space at its end in the form of an address, and
no other. -/
theorem shape_accepts_iff (isWord : Char → Bool) {text : List Char}
    (ended : ∀ front char, text = front ++ [char] → isSpace char = false) :
    (shape.matchAt isWord [] text).isSome = true ↔ ∃ name domain, Shaped text name domain := by
  have shown_of : ∀ part : List Char,
      (part.all fun char => !(decide (char = '@') || isSpace char)) = true ↔
        Visible part ∧ '@' ∉ part := by
    intro part
    rw [List.all_eq_true]
    constructor
    · intro every
      refine ⟨fun char member => ?_, fun member => ?_⟩
      · have here := every char member
        rw [Bool.not_eq_true', Bool.or_eq_false_iff] at here
        exact here.2
      · have here := every '@' member
        simp at here
    · rintro ⟨shown, plain⟩ char member
      have apart : char ≠ '@' := fun same => plain (same ▸ member)
      rw [shown char member, Bool.or_false, Bool.not_eq_true', decide_eq_false_iff_not]
      exact apart
  have unfolded : shape = .seq .textStart (.seq (plus (.set fun char =>
      !(decide (char = '@') || isSpace char))) (.seq (.seq (.set fun char => fold char = fold '@')
        .empty) (.seq (plus (.set fun char => !(decide (char = '@') || isSpace char)))
          (.seq (.seq (.set fun char => fold char = fold '.') .empty)
            (.seq (plus (.set fun char => !(decide (char = '@') || isSpace char)))
              (.seq .textEnd .empty)))))) := rfl
  rw [matchAt_isSome_iff, unfolded]
  constructor
  · rintro ⟨next, member⟩
    obtain ⟨start, started, after_start⟩ := (mem_results_seq ..).1 member
    have begun : start = ([], text) := by simpa [results] using started
    subst begun
    obtain ⟨⟨_, after⟩, passed_name, after_name⟩ := (mem_results_seq ..).1 after_start
    obtain ⟨name, named, name_shown, split, -⟩ := (mem_results_plus_set ..).1 passed_name
    obtain ⟨⟨_, rest⟩, passed_sign, after_sign⟩ := (mem_results_seq ..).1 after_name
    obtain ⟨at_sign, -⟩ := (mem_results_mark isWord (Or.inl rfl) ..).1 passed_sign
    obtain ⟨⟨_, behind⟩, passed_first, after_first⟩ := (mem_results_seq ..).1 after_sign
    obtain ⟨first, some_first, first_shown, first_split, -⟩ :=
      (mem_results_plus_set ..).1 passed_first
    obtain ⟨⟨_, tail⟩, passed_period, after_period⟩ := (mem_results_seq ..).1 after_first
    obtain ⟨period, -⟩ := (mem_results_mark isWord (Or.inr rfl) ..).1 passed_period
    obtain ⟨⟨_, last⟩, passed_second, after_second⟩ := (mem_results_seq ..).1 after_period
    obtain ⟨second, some_second, second_shown, second_split, -⟩ :=
      (mem_results_plus_set ..).1 passed_second
    obtain ⟨final, reached, -⟩ := (mem_results_seq ..).1 after_second
    dsimp only at split at_sign first_split period second_split reached
    subst at_sign first_split period second_split
    have closed : last = [] := by
      by_cases empty : last = []
      · exact empty
      · by_cases newline : last = ['\n']
        · subst newline
          have blank := ended (name ++ '@' :: (first ++ '.' :: second)) '\n' (by
            rw [split]
            simp)
          exact absurd blank (by decide)
        · exfalso
          unfold results at reached
          rw [List.isEmpty_eq_false_iff.2 empty, decide_eq_false newline, Bool.or_false,
            if_neg Bool.false_ne_true] at reached
          exact List.not_mem_nil reached
    subst closed
    rw [List.append_nil] at split
    have name_plain := (shown_of name).1 name_shown
    have first_plain := (shown_of first).1 first_shown
    have second_plain := (shown_of second).1 second_shown
    refine ⟨name, first ++ '.' :: second, split, named, ⟨first, second, some_first, some_second,
      rfl⟩, ?_, ?_⟩
    · intro char member
      simp only [List.mem_append, List.mem_cons] at member
      rcases member with inside | inside | rfl | inside
      · exact name_plain.1 char inside
      · exact first_plain.1 char inside
      · decide
      · exact second_plain.1 char inside
    · simp only [List.mem_append, List.mem_cons, not_or]
      exact ⟨name_plain.2, first_plain.2, by decide, second_plain.2⟩
  · rintro ⟨name, domain, shaped⟩
    obtain ⟨first, second, some_first, some_second, dotted⟩ := shaped.dotted
    have split := shaped.split
    have shown := shaped.shown
    have plain := shaped.plain
    subst dotted
    have part_shown : ∀ part : List Char, (∀ char ∈ part, char ∈ name ++ (first ++ '.' :: second)) →
        (part.all fun char => !(decide (char = '@') || isSpace char)) = true := by
      intro part inside
      exact (shown_of part).2 ⟨fun char member => shown char (inside char member),
        fun member => plain (inside '@' member)⟩
    refine ⟨(text.reverse, []), (mem_results_seq ..).2 ⟨([], text), by simp [results], ?_⟩⟩
    refine (mem_results_seq ..).2 ⟨(name.reverse, '@' :: (first ++ '.' :: second)), ?_, ?_⟩
    · exact (mem_results_plus_set ..).2 ⟨name, shaped.named, part_shown name (by
        intro char member
        simp [member]), split, by simp⟩
    refine (mem_results_seq ..).2 ⟨('@' :: name.reverse, first ++ '.' :: second),
      (mem_results_mark isWord (Or.inl rfl) ..).2 ⟨rfl, rfl⟩, ?_⟩
    refine (mem_results_seq ..).2 ⟨(first.reverse ++ '@' :: name.reverse, '.' :: second), ?_, ?_⟩
    · exact (mem_results_plus_set ..).2 ⟨first, some_first, part_shown first (by
        intro char member
        simp [member]), rfl, rfl⟩
    refine (mem_results_seq ..).2 ⟨('.' :: (first.reverse ++ '@' :: name.reverse), second),
      (mem_results_mark isWord (Or.inr rfl) ..).2 ⟨rfl, rfl⟩, ?_⟩
    refine (mem_results_seq ..).2 ⟨(text.reverse, []), ?_, by simp [results]⟩
    refine (mem_results_plus_set ..).2 ⟨second, some_second, part_shown second (by
      intro char member
      simp [member]), by simp, ?_⟩
    rw [split]
    simp

end Shape

section Normal

/-- The local part without what is ignored, and the domain. -/
def mailboxOf (whole domain : List Char) : List Char × List Char :=
  let bare := whole.takeWhile fun char => char != '+'
  if domain = "gmail.com".toList || domain = "googlemail.com".toList then
    (bare.filter fun char => char != '.', "gmail.com".toList)
  else (bare, domain)

def normal (text : List Char) : List Char × List Char :=
  let parts := rpartition '@' ((strip text).map Char.toLower)
  mailboxOf parts.1 parts.2

def written (parts : List Char × List Char) : List Char := parts.1 ++ '@' :: parts.2

theorem map_toLower_plain {text : List Char} (plain : '@' ∉ text) :
    '@' ∉ text.map Char.toLower := by
  intro member
  obtain ⟨char, inside, same⟩ := List.mem_map.1 member
  rw [toLower_eq_iff (by decide)] at same
  exact plain (same ▸ inside)

theorem visible_append {first second : List Char} :
    Visible (first ++ second) ↔ Visible first ∧ Visible second := by
  constructor
  · intro shown
    exact ⟨fun char member => shown char (List.mem_append_left _ member),
      fun char member => shown char (List.mem_append_right _ member)⟩
  · rintro ⟨first_shown, second_shown⟩ char member
    rcases List.mem_append.1 member with inside | inside
    · exact first_shown char inside
    · exact second_shown char inside

theorem visible_cons {char : Char} {rest : List Char} :
    Visible (char :: rest) ↔ isSpace char = false ∧ Visible rest := by
  constructor
  · intro shown
    exact ⟨shown char List.mem_cons_self, fun other member =>
      shown other (List.mem_cons_of_mem _ member)⟩
  · rintro ⟨here, shown⟩ other member
    rcases List.mem_cons.1 member with rfl | inside
    · exact here
    · exact shown other inside

theorem visible_map_toLower {text : List Char} (shown : Visible text) :
    Visible (text.map Char.toLower) := by
  intro char member
  obtain ⟨other, inside, rfl⟩ := List.mem_map.1 member
  rw [isSpace_toLower]
  exact shown other inside

theorem normal_of_visible {name domain : List Char} (name_shown : Visible name)
    (domain_shown : Visible domain) (plain : '@' ∉ domain) :
    normal (name ++ '@' :: domain) =
      mailboxOf (name.map Char.toLower) (domain.map Char.toLower) := by
  have shown : Visible (name ++ '@' :: domain) :=
    visible_append.2 ⟨name_shown, visible_cons.2 ⟨rfl, domain_shown⟩⟩
  unfold normal
  rw [strip_eq_self shown, List.map_append, List.map_cons,
    show Char.toLower '@' = '@' from rfl, rpartition_append (map_toLower_plain plain)]

theorem takeWhile_suffix (name tag : List Char) :
    (name ++ '+' :: tag).takeWhile (fun char => char != '+') =
      name.takeWhile fun char => char != '+' := by
  induction name with
  | nil => rfl
  | cons char name induction =>
      rw [List.cons_append, List.takeWhile_cons, List.takeWhile_cons, induction]

theorem filter_takeWhile_dot (first second : List Char) :
    ((first ++ '.' :: second).takeWhile fun char => char != '+').filter (fun char => char != '.') =
      ((first ++ second).takeWhile fun char => char != '+').filter fun char => char != '.' := by
  induction first with
  | nil => rfl
  | cons char first induction =>
      rw [List.cons_append, List.cons_append, List.takeWhile_cons, List.takeWhile_cons]
      by_cases plus : (char != '+') = true
      · rw [if_pos plus, if_pos plus, List.filter_cons, List.filter_cons, induction]
      · rw [if_neg plus, if_neg plus]

theorem gmail_visible : Visible "gmail.com".toList := by
  unfold Visible
  exact every_of_all (by decide)

theorem googlemail_visible : Visible "googlemail.com".toList := by
  unfold Visible
  exact every_of_all (by decide)

/-- Aliases have one normal form. -/
theorem normal_of_alias {first second : List Char} (alike : Alias first second) :
    normal first = normal second := by
  induction alike with
  | refl text => rfl
  | symm _ induction => exact induction.symm
  | trans _ _ early late => exact early.trans late
  | letters text =>
      unfold normal
      have twice : ((strip text).map Char.toLower).map Char.toLower =
          (strip text).map Char.toLower := by
        rw [List.map_map]
        apply List.map_congr_left
        intro char _
        exact toLower_toLower char
      rw [strip_map_toLower, twice]
  | spaces before text after leading trailing =>
      unfold normal
      rw [strip_spaces leading trailing]
  | suffix name tag domain shown plain =>
      obtain ⟨both, domain_shown⟩ := visible_append.1 shown
      obtain ⟨name_shown, tag_shown⟩ := visible_append.1 both
      have tagged : Visible (name ++ '+' :: tag) :=
        visible_append.2 ⟨name_shown, visible_cons.2 ⟨rfl, tag_shown⟩⟩
      rw [normal_of_visible tagged domain_shown plain,
        normal_of_visible name_shown domain_shown plain]
      unfold mailboxOf
      rw [List.map_append, List.map_cons, show Char.toLower '+' = '+' from rfl, takeWhile_suffix]
  | dot first second shown =>
      obtain ⟨first_shown, second_shown⟩ := visible_append.1 shown
      have dotted : Visible (first ++ '.' :: second) :=
        visible_append.2 ⟨first_shown, visible_cons.2 ⟨rfl, second_shown⟩⟩
      have with_dot := normal_of_visible dotted gmail_visible (by decide)
      have without := normal_of_visible shown gmail_visible (by decide)
      have lowered : "gmail.com".toList.map Char.toLower = "gmail.com".toList := by decide
      refine with_dot.trans (Eq.trans ?_ without.symm)
      unfold mailboxOf
      rw [lowered, List.map_append, List.map_cons, List.map_append,
        show Char.toLower '.' = '.' from rfl]
      dsimp only
      rw [filter_takeWhile_dot]
      rfl
  | domain name shown =>
      have one := normal_of_visible shown googlemail_visible (by decide)
      have other := normal_of_visible shown gmail_visible (by decide)
      have lowered : "gmail.com".toList.map Char.toLower = "gmail.com".toList := by decide
      have lowered_too : "googlemail.com".toList.map Char.toLower = "googlemail.com".toList := by
        decide
      refine one.trans (Eq.trans ?_ other.symm)
      unfold mailboxOf
      rw [lowered, lowered_too]
      rfl

theorem alias_of_dots (first second : List Char) (shown : Visible (first ++ second)) :
    Alias (first ++ second ++ "@gmail.com".toList)
      (first ++ second.filter (fun char => char != '.') ++ "@gmail.com".toList) := by
  induction second generalizing first with
  | nil => exact .refl _
  | cons char second induction =>
      obtain ⟨first_shown, rest_shown⟩ := visible_append.1 shown
      obtain ⟨here, second_shown⟩ := visible_cons.1 rest_shown
      by_cases dot : char = '.'
      · subst dot
        rw [List.filter_cons_of_neg (by decide)]
        refine Alias.trans (.dot first second (visible_append.2 ⟨first_shown, second_shown⟩)) ?_
        exact induction first (visible_append.2 ⟨first_shown, second_shown⟩)
      · rw [List.filter_cons_of_pos (by simp [dot])]
        have later := induction (first ++ [char]) (by
          rw [List.append_assoc]
          exact shown)
        rw [List.append_assoc first [char], List.append_assoc first [char]] at later
        exact later

/-- An address is an alias of its normal form. -/
theorem alias_normal {text name domain : List Char}
    (shaped : Shaped ((strip text).map Char.toLower) name domain) :
    Alias text (written (normal text)) := by
  obtain ⟨before, after, leading, trailing, whole⟩ := exists_spaces_strip text
  have stripped : Alias text (strip text) := by
    have around := Alias.spaces before (strip text) after leading trailing
    rw [← whole] at around
    exact around
  obtain ⟨name_shown, domain_shown⟩ := visible_append.1 shaped.shown
  have plain : '@' ∉ domain := fun member => shaped.plain (List.mem_append_right _ member)
  have lowered : Alias text (name ++ '@' :: domain) := by
    rw [← shaped.split]
    exact stripped.trans (.letters _)
  have parts : normal text = mailboxOf name domain := by
    unfold normal
    rw [shaped.split, rpartition_append plain]
  have bare_shown : Visible (name.takeWhile fun char => char != '+') := fun char member =>
    name_shown char (List.takeWhile_subset _ member)
  have untagged : Alias text ((name.takeWhile fun char => char != '+') ++ '@' :: domain) := by
    have split := List.takeWhile_append_dropWhile (p := fun char : Char => char != '+') (l := name)
    cases rest : name.dropWhile fun char => char != '+' with
    | nil =>
        rw [rest, List.append_nil] at split
        rw [split]
        exact lowered
    | cons char tag =>
        have head := List.head?_dropWhile_not (fun char : Char => char != '+') name
        rw [rest] at head
        have plus : char = '+' := by simpa using head
        subst plus
        rw [rest] at split
        have tag_shown : Visible ('+' :: tag) := by
          rw [← split] at name_shown
          exact (visible_append.1 name_shown).2
        have dropped := Alias.suffix (name.takeWhile fun char => char != '+') tag domain
          (visible_append.2 ⟨visible_append.2 ⟨bare_shown, (visible_cons.1 tag_shown).2⟩,
            domain_shown⟩) plain
        rw [split] at dropped
        exact lowered.trans dropped
  rw [parts]
  unfold mailboxOf written
  by_cases gmail : domain = "gmail.com".toList
  · subst gmail
    have plainer := alias_of_dots [] (name.takeWhile fun char => char != '+') bare_shown
    exact untagged.trans plainer
  by_cases googlemail : domain = "googlemail.com".toList
  · subst googlemail
    have plainer := alias_of_dots [] (name.takeWhile fun char => char != '+') bare_shown
    exact (untagged.trans (.domain _ bare_shown)).trans plainer
  rw [decide_eq_false gmail, decide_eq_false googlemail]
  exact untagged

end Normal

section Canonical

variable {platform : Platform}

theorem ascii_strip {text : List Char} (ascii : Ascii text) : Ascii (strip text) := by
  obtain ⟨before, after, _, _, whole⟩ := exists_spaces_strip text
  intro char member
  apply ascii
  rw [whole]
  exact List.mem_append_left _ (List.mem_append_right _ member)

theorem ascii_map_toLower {text : List Char} (ascii : Ascii text) :
    Ascii (text.map Char.toLower) := by
  intro char member
  obtain ⟨other, inside, rfl⟩ := List.mem_map.1 member
  have small := ascii other inside
  have shifted := toNat_toLower other
  split_ifs at shifted <;> omega

theorem lowered_ends {text front : List Char} {char : Char}
    (ends : (strip text).map Char.toLower = front ++ [char]) : isSpace char = false := by
  rw [← strip_map_toLower] at ends
  exact strip_last ends

theorem ofList_eq_iff {text : List Char} {string : String} :
    String.ofList text = string ↔ string.toList = text := by
  constructor
  · rintro rfl
    exact String.toList_ofList
  · rintro rfl
    exact String.ofList_toList

/-- A canonical address is no empty text. -/
theorem canonical_ne_empty {email canonical : String}
    (accepted : canonicalize platform email = .ok canonical) : canonical ≠ "" := by
  rintro rfl
  unfold canonicalize at accepted
  simp only [bind, Except.bind, pure, Except.pure, throw, throwThe, MonadExceptOf.throw] at accepted
  have written_out : ∀ first second : String, '@' ∈ second.toList → first ++ second ≠ "" := by
    intro first second sign same
    have empty := congrArg String.toList same
    rw [String.toList_append] at empty
    have nothing := (List.append_eq_nil_iff.1 empty).2
    rw [nothing] at sign
    cases sign
  cases encoded : platform.idna (rpartition '@' (platform.lower (strip email.toList))).2 with
  | none =>
      rw [encoded] at accepted
      split_ifs at accepted <;> cases accepted
  | some ascii =>
      rw [encoded] at accepted
      dsimp only at accepted
      split_ifs at accepted
      · exact written_out _ _ (by decide) (Except.ok.inj accepted)
      · rw [Except.ok.injEq, String.append_assoc] at accepted
        refine written_out _ _ ?_ accepted
        rw [String.toList_append]
        exact List.mem_append_left _ (by decide)

theorem ofList_written (bare domain : List Char) :
    String.ofList bare ++ "@" ++ String.ofList domain = String.ofList (written (bare, domain)) := by
  unfold written
  rw [← String.toList_inj]
  simp

theorem ofList_written_gmail (bare : List Char) :
    String.ofList bare ++ "@gmail.com" =
      String.ofList (written (bare, "gmail.com".toList)) := by
  unfold written
  rw [← String.toList_inj]
  simp

theorem shaped_unique {text name domain other_name other_domain : List Char}
    (shaped : Shaped text name domain) (other : Shaped text other_name other_domain) :
    other_name = name ∧ other_domain = domain := by
  have parts : ∀ front back, Shaped text front back → rpartition '@' text = (front, back) := by
    intro front back here
    rw [here.split]
    exact rpartition_append fun member => here.plain (List.mem_append_right _ member)
  exact Prod.mk.inj ((parts _ _ other).symm.trans (parts _ _ shaped))

/-- What is accepted, and what becomes of it. -/
theorem canonicalize_eq_ok {email canonical : String}
    (ended : ∀ front char, platform.lower (strip email.toList) = front ++ [char] →
      isSpace char = false) :
    canonicalize platform email = .ok canonical ↔
      ∃ name domain encoded, Shaped (platform.lower (strip email.toList)) name domain ∧
        platform.idna domain = some encoded ∧ (mailboxOf name encoded).1 ≠ [] ∧
        canonical.toList = written (mailboxOf name encoded) := by
  have accepts := shape_accepts_iff platform.isWord ended
  unfold canonicalize
  simp only [bind, Except.bind, pure, Except.pure, throw, throwThe, MonadExceptOf.throw]
  by_cases accepted : (shape.matchAt platform.isWord []
      (platform.lower (strip email.toList))).isSome = true
  · rw [if_neg (by rw [Option.isNone_iff_eq_none]; exact Option.isSome_iff_ne_none.1 accepted)]
    obtain ⟨name, domain, shaped⟩ := accepts.1 accepted
    have plain : '@' ∉ domain := fun member => shaped.plain (List.mem_append_right _ member)
    have parts : rpartition '@' (platform.lower (strip email.toList)) = (name, domain) := by
      rw [shaped.split]
      exact rpartition_append plain
    rw [parts]
    dsimp only
    by_cases empty : (name.takeWhile fun char => char != '+').isEmpty = true
    · rw [if_pos empty]
      simp only [reduceCtorEq, false_iff, not_exists, not_and]
      intro other_name other_domain encoded other _ left
      obtain ⟨rfl, rfl⟩ := shaped_unique shaped other
      refine absurd ?_ left
      unfold mailboxOf
      rw [List.isEmpty_iff.1 empty]
      dsimp only
      split_ifs <;> rfl
    · rw [if_neg empty]
      have some_bare : (name.takeWhile fun char => char != '+') ≠ [] :=
        fun none_left => empty (List.isEmpty_iff.2 none_left)
      cases encodes : platform.idna domain with
      | none =>
          simp only [reduceCtorEq, false_iff, not_exists, not_and]
          intro other_name other_domain encoded other given
          obtain ⟨rfl, rfl⟩ := shaped_unique shaped other
          rw [encodes] at given
          cases given
      | some result =>
          have unique : (∃ other_name other_domain encoded,
              Shaped (platform.lower (strip email.toList)) other_name other_domain ∧
              platform.idna other_domain = some encoded ∧ (mailboxOf other_name encoded).1 ≠ [] ∧
              canonical.toList = written (mailboxOf other_name encoded)) ↔
              (mailboxOf name result).1 ≠ [] ∧
                canonical.toList = written (mailboxOf name result) := by
            constructor
            · rintro ⟨other_name, other_domain, encoded, other, given, holds⟩
              obtain ⟨rfl, rfl⟩ := shaped_unique shaped other
              obtain rfl := Option.some.inj (encodes.symm.trans given)
              exact holds
            · intro holds
              exact ⟨name, domain, result, shaped, encodes, holds⟩
          rw [unique]
          unfold mailboxOf
          dsimp only
          by_cases google : (decide (result = "gmail.com".toList) ||
              decide (result = "googlemail.com".toList)) = true
          · rw [if_pos google, if_pos google]
            by_cases dots : ((name.takeWhile fun char => char != '+').filter
                fun char => char != '.').isEmpty = true
            · rw [if_pos dots]
              simp only [reduceCtorEq, false_iff, not_and]
              exact fun other => absurd (List.isEmpty_iff.1 dots) other
            · rw [if_neg dots, Except.ok.injEq, ofList_written_gmail, ofList_eq_iff]
              exact ⟨fun equal => ⟨fun nothing => dots (List.isEmpty_iff.2 nothing), equal⟩,
                fun both => both.2⟩
          · rw [if_neg google, if_neg google, Except.ok.injEq, ofList_written, ofList_eq_iff]
            exact ⟨fun equal => ⟨some_bare, equal⟩, fun both => both.2⟩
  · rw [if_pos (by rw [Option.isNone_iff_eq_none]; exact Option.not_isSome_iff_eq_none.1 accepted)]
    simp only [reduceCtorEq, false_iff, not_exists, not_and]
    intro name domain encoded shaped
    exact absurd (accepts.2 ⟨name, domain, shaped⟩) accepted

/-- The same for addresses in ASCII. -/
theorem canonicalize_ok_iff (laws : AsciiLaws platform) {email canonical : String}
    (ascii : Ascii email.toList) :
    canonicalize platform email = .ok canonical ↔
      ∃ name domain, Shaped ((strip email.toList).map Char.toLower) name domain ∧
        (platform.idna domain).isSome = true ∧ (normal email.toList).1 ≠ [] ∧
        canonical.toList = written (normal email.toList) := by
  have lowered : platform.lower (strip email.toList) = (strip email.toList).map Char.toLower :=
    laws.lower _ (ascii_strip ascii)
  rw [canonicalize_eq_ok, lowered]
  · have normal_parts : ∀ name domain, Shaped ((strip email.toList).map Char.toLower) name domain →
        normal email.toList = mailboxOf name domain ∧ Ascii domain := by
      intro name domain shaped
      constructor
      · unfold normal
        rw [shaped.split, rpartition_append fun member =>
          shaped.plain (List.mem_append_right _ member)]
      · intro char member
        apply ascii_map_toLower (ascii_strip ascii)
        rw [shaped.split]
        exact List.mem_append_right _ (List.mem_cons_of_mem _ member)
    constructor
    · rintro ⟨name, domain, encoded, shaped, given, holds⟩
      obtain ⟨parts, domain_ascii⟩ := normal_parts name domain shaped
      obtain rfl := laws.idna_kept domain encoded domain_ascii given
      rw [parts]
      exact ⟨name, encoded, shaped, Option.isSome_iff_exists.2 ⟨encoded, given⟩, holds⟩
    · rintro ⟨name, domain, shaped, accepted, holds⟩
      obtain ⟨parts, domain_ascii⟩ := normal_parts name domain shaped
      obtain ⟨encoded, given⟩ := Option.isSome_iff_exists.1 accepted
      obtain rfl := laws.idna_kept domain encoded domain_ascii given
      rw [parts] at holds
      exact ⟨name, encoded, encoded, shaped, given, holds⟩
  · intro front char ends
    rw [lowered] at ends
    exact lowered_ends ends

theorem bare_subset {whole domain : List Char} :
    (mailboxOf whole domain).1 ⊆ whole := by
  intro char member
  unfold mailboxOf at member
  dsimp only at member
  split_ifs at member
  · exact List.takeWhile_subset _ (List.mem_of_mem_filter member)
  · exact List.takeWhile_subset _ member

theorem domain_of_mailbox (whole domain : List Char) :
    (mailboxOf whole domain).2 = domain ∨ (mailboxOf whole domain).2 = "gmail.com".toList := by
  unfold mailboxOf
  dsimp only
  split_ifs
  · exact Or.inr rfl
  · exact Or.inl rfl

theorem normal_of_shaped {text name domain : List Char}
    (shaped : Shaped ((strip text).map Char.toLower) name domain) :
    normal text = mailboxOf name domain := by
  have plain : '@' ∉ domain := fun member => shaped.plain (List.mem_append_right _ member)
  unfold normal
  rw [shaped.split, rpartition_append plain]

/-- The normal form has the form of an address. -/
theorem written_shaped {text name domain : List Char}
    (shaped : Shaped ((strip text).map Char.toLower) name domain)
    (some_left : (normal text).1 ≠ []) :
    Shaped (written (normal text)) (normal text).1 (normal text).2 := by
  obtain ⟨name_shown, domain_shown⟩ := visible_append.1 shaped.shown
  have plain := shaped.plain
  rw [List.mem_append, not_or] at plain
  rw [normal_of_shaped shaped] at some_left ⊢
  have bare_shown : Visible (mailboxOf name domain).1 := fun char member =>
    name_shown char (bare_subset member)
  have bare_plain : '@' ∉ (mailboxOf name domain).1 := fun member => plain.1 (bare_subset member)
  rcases domain_of_mailbox name domain with same | gmail
  · refine ⟨rfl, some_left, ?_, ?_, ?_⟩
    · rw [same]
      exact shaped.dotted
    · rw [same]
      exact visible_append.2 ⟨bare_shown, domain_shown⟩
    · rw [same, List.mem_append, not_or]
      exact ⟨bare_plain, plain.2⟩
  · refine ⟨rfl, some_left, ?_, ?_, ?_⟩
    · rw [gmail]
      exact ⟨"gmail".toList, "com".toList, by decide, by decide, by decide⟩
    · rw [gmail]
      exact visible_append.2 ⟨bare_shown, gmail_visible⟩
    · rw [gmail, List.mem_append, not_or]
      exact ⟨bare_plain, by decide⟩

theorem written_injective {first second : List Char × List Char} (first_plain : '@' ∉ first.2)
    (second_plain : '@' ∉ second.2) (same : written first = written second) : first = second := by
  have split := congrArg (rpartition '@') same
  unfold written at split
  rw [rpartition_append first_plain, rpartition_append second_plain] at split
  exact split

/-- Two accepted addresses have one canonical form exactly when they are aliases. -/
theorem alias_iff_canonical (laws : AsciiLaws platform) {first second canonical other : String}
    (first_ascii : Ascii first.toList) (second_ascii : Ascii second.toList)
    (first_accepted : canonicalize platform first = .ok canonical)
    (second_accepted : canonicalize platform second = .ok other) :
    Alias first.toList second.toList ↔ canonical = other := by
  obtain ⟨_, _, shaped, _, left, form⟩ := (canonicalize_ok_iff laws first_ascii).1 first_accepted
  obtain ⟨_, _, second_shaped, _, second_left, second_form⟩ :=
    (canonicalize_ok_iff laws second_ascii).1 second_accepted
  constructor
  · intro alike
    rw [← String.toList_inj, form, second_form, normal_of_alias alike]
  · intro same
    rw [← String.toList_inj, form, second_form] at same
    have here := alias_normal shaped
    rw [same] at here
    exact here.trans (alias_normal second_shaped).symm

theorem ascii_written {text : List Char} (ascii : Ascii text) {name domain : List Char}
    (shaped : Shaped ((strip text).map Char.toLower) name domain) :
    Ascii (written (normal text)) := by
  have lowered := ascii_map_toLower (ascii_strip ascii)
  rw [normal_of_shaped shaped]
  intro char member
  rcases List.mem_append.1 member with inside | inside
  · apply lowered
    rw [shaped.split]
    exact List.mem_append_left _ (bare_subset inside)
  rcases List.mem_cons.1 inside with rfl | inside
  · decide
  rcases domain_of_mailbox name domain with same | gmail
  · apply lowered
    rw [shaped.split]
    rw [same] at inside
    exact List.mem_append_right _ (List.mem_cons_of_mem _ inside)
  · rw [gmail] at inside
    exact (show Ascii "gmail.com".toList from every_of_all (by decide)) char inside

/-- The canonical form is written in lower case. -/
theorem lower_written {text name domain : List Char}
    (shaped : Shaped ((strip text).map Char.toLower) name domain) :
    (written (normal text)).map Char.toLower = written (normal text) := by
  have lowered : ∀ char ∈ (strip text).map Char.toLower, char.toLower = char := by
    intro char member
    obtain ⟨other, _, rfl⟩ := List.mem_map.1 member
    exact toLower_toLower other
  rw [normal_of_shaped shaped]
  refine (List.map_congr_left ?_).trans (List.map_id _)
  intro char member
  rcases List.mem_append.1 member with inside | inside
  · apply lowered
    rw [shaped.split]
    exact List.mem_append_left _ (bare_subset inside)
  rcases List.mem_cons.1 inside with rfl | inside
  · rfl
  rcases domain_of_mailbox name domain with same | gmail
  · apply lowered
    rw [shaped.split]
    rw [same] at inside
    exact List.mem_append_right _ (List.mem_cons_of_mem _ inside)
  · rw [gmail] at inside
    have fixed : ∀ char ∈ "gmail.com".toList, Char.toLower char = char :=
      every_of_all (by decide)
    exact fixed char inside

/-- The canonical form is its own canonical form. -/
theorem canonicalize_canonical (laws : AsciiLaws platform) {email canonical : String}
    (ascii : Ascii email.toList) (accepted : canonicalize platform email = .ok canonical) :
    canonicalize platform canonical = .ok canonical := by
  obtain ⟨name, domain, shaped, encoded, left, form⟩ := (canonicalize_ok_iff laws ascii).1 accepted
  have again := written_shaped shaped left
  have canonical_ascii : Ascii canonical.toList := by
    rw [form]
    exact ascii_written ascii shaped
  have shown : Visible (written (normal email.toList)) := by
    rw [again.split]
    obtain ⟨name_shown, domain_shown⟩ := visible_append.1 again.shown
    exact visible_append.2 ⟨name_shown, visible_cons.2 ⟨rfl, domain_shown⟩⟩
  have same : (strip canonical.toList).map Char.toLower = written (normal email.toList) := by
    rw [form, strip_eq_self shown]
    exact lower_written shaped
  have fixed : normal canonical.toList = normal email.toList := by
    rw [form]
    exact (normal_of_alias (alias_normal shaped)).symm
  rw [canonicalize_ok_iff laws canonical_ascii, same, fixed]
  refine ⟨_, _, again, ?_, left, form⟩
  rw [normal_of_shaped shaped]
  rcases domain_of_mailbox name domain with kept | gmail
  · rw [kept]
    exact encoded
  · rw [gmail]
    have small : Ascii "gmail.com".toList := by
      exact every_of_all (by decide)
    apply laws.idna_short _ small
    decide

end Canonical

end OpenReachout
