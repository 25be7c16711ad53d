import OpenReachout.Core.DnsCheck
import OpenReachout.Text.Separated

/-!
# Verdicts on the records of a domain

An SPF record is made of terms between spaces, a DMARC record of tags between
semicolons, each a name and a value around a sign with blanks about them. The checks
look for a text in the whole record instead.
-/

namespace OpenReachout

open Text

set_option autoImplicit false

variable (platform : Platform)

section Spf

/-- The terms of a record; its version is the first of them. -/
def spfTerms (record : List Char) : List (List Char) := (platform.lower record).splitOn ' '

/-- An `all` mechanism whose qualifier is `+`, or absent, which means the same. -/
def PassesAll (term : List Char) : Prop := term = "all".toList ∨ term = "+all".toList

/-- There is a single SPF record, and it lets everyone send. -/
def AuthorizesEveryone (txts : List (List Char)) : Prop :=
  ∃ record, spfRecords platform txts = [record] ∧ ∃ term ∈ spfTerms platform record, PassesAll term

/-- What the check looks for stands inside of other terms only. -/
structure SpfMisread (terms : List (List Char)) : Prop where
  inside : ∃ term ∈ terms, "+all".toList <:+: term
  unset : ∀ term ∈ terms, ¬ PassesAll term

/-- An `all` without a qualifier, and nowhere what the check looks for. -/
structure SpfOverlooked (terms : List (List Char)) : Prop where
  bare : "all".toList ∈ terms
  unwritten : ∀ term ∈ terms, ¬ "+all".toList <:+: term

theorem flags_everyone_iff (txts : List (List Char)) :
    evaluateSpf platform txts = everyoneAuthorized ↔
      ∃ record, spfRecords platform txts = [record] ∧
        ∃ term ∈ spfTerms platform record, "+all".toList <:+: term := by
  have pieces : ∀ record, Platform.contains (platform.lower record) "+all".toList = true ↔
      ∃ term ∈ spfTerms platform record, "+all".toList <:+: term := by
    intro record
    rw [Platform.contains_iff]
    exact infix_iff_piece (by decide) (platform.lower record)
  unfold evaluateSpf
  cases spfRecords platform txts with
  | nil =>
      apply iff_of_false
      · change (⟨"spf", .fail, "no v=spf1 TXT record".toList⟩ : DnsFinding) ≠ _
        decide
      · rintro ⟨record, none_there, -⟩
        cases none_there
  | cons first others =>
      cases others with
      | cons second others =>
          apply iff_of_false
          · change (⟨"spf", .fail, "multiple SPF records (receivers reject)".toList⟩ : DnsFinding) ≠ _
            decide
          · rintro ⟨record, several, -⟩
            cases several
      | nil =>
          have only : (∃ record, [first] = [record] ∧
              ∃ term ∈ spfTerms platform record, "+all".toList <:+: term) ↔
                ∃ term ∈ spfTerms platform first, "+all".toList <:+: term := by
            simp
          rw [only, ← pieces first]
          dsimp only
          by_cases written : Platform.contains (platform.lower first) "+all".toList = true
          · rw [if_pos written]
            exact iff_of_true rfl written
          · rw [if_neg written]
            apply iff_of_false _ written
            by_cases neutral : "?all".toList.isSuffixOf (rstrip (platform.lower first)) = true
            · rw [if_pos neutral]
              exact fun same => by cases congrArg DnsFinding.severity same
            · rw [if_neg neutral]
              exact fun same => by cases congrArg DnsFinding.severity same

theorem spf_follows_terms (txts : List (List Char)) :
    (evaluateSpf platform txts = everyoneAuthorized ↔ AuthorizesEveryone platform txts) ↔
      ∀ record, spfRecords platform txts = [record] →
        ¬ SpfMisread (spfTerms platform record) ∧ ¬ SpfOverlooked (spfTerms platform record) := by
  rw [flags_everyone_iff]
  constructor
  · intro follows record single
    constructor
    · rintro ⟨inside, unset⟩
      obtain ⟨other, same, term, member, passes⟩ := follows.1 ⟨record, single, inside⟩
      obtain rfl := List.singleton_injective (single.symm.trans same)
      exact unset term member passes
    · rintro ⟨bare, unwritten⟩
      obtain ⟨other, same, term, member, written⟩ :=
        follows.2 ⟨record, single, "all".toList, bare, Or.inl rfl⟩
      obtain rfl := List.singleton_injective (single.symm.trans same)
      exact unwritten term member written
  · intro plain
    constructor
    · rintro ⟨record, single, inside⟩
      refine ⟨record, single, ?_⟩
      by_contra unset
      push Not at unset
      exact (plain record single).1 ⟨inside, unset⟩
    · rintro ⟨record, single, term, member, passes⟩
      refine ⟨record, single, ?_⟩
      by_contra unwritten
      push Not at unwritten
      rcases passes with rfl | rfl
      · exact (plain record single).2 ⟨member, unwritten⟩
      · exact unwritten _ member List.infix_rfl

end Spf

section Dmarc

/-- The tags of a record. -/
def dmarcTags (record : List Char) : List (List Char) := (platform.lower record).splitOn ';'

def isBlank (char : Char) : Bool := char = ' ' || char = '\t'

def trimBlanks (text : List Char) : List Char := (text.dropWhile isBlank).rdropWhile isBlank

def tagName (tag : List Char) : List Char := trimBlanks (tag.takeWhile (· ≠ '='))

def tagValue (tag : List Char) : List Char := trimBlanks ((tag.dropWhile (· ≠ '=')).drop 1)

def policies : List (List Char) := ["none".toList, "quarantine".toList, "reject".toList]

/-- The tag is named `p` and has one of the three values. -/
def SetsPolicy (tag : List Char) : Prop := tagName tag = "p".toList ∧ tagValue tag ∈ policies

/-- The record that the check reads, the first, has such a tag. -/
def DeclaresPolicy (txts : List (List Char)) : Prop :=
  ∃ record, (dmarcRecords platform txts).head? = some record ∧
    ∃ tag ∈ dmarcTags platform record, SetsPolicy tag

/-- A tag that has the text the check looks for, whatever is before and after it. -/
def ReadsPolicy (tag : List Char) : Prop :=
  ∃ value ∈ policies, "p=".toList ++ value <:+: withoutSpaces tag

/-- What the check looks for stands in tags that set no policy, as no other does. -/
structure DmarcMisread (tags : List (List Char)) : Prop where
  inside : ∃ tag ∈ tags, ReadsPolicy tag
  unset : ∀ tag ∈ tags, ¬ SetsPolicy tag

/-- The policy is set with a tab in its tag, and nowhere is what the check looks for. -/
structure DmarcOverlooked (tags : List (List Char)) : Prop where
  tabbed : ∃ tag ∈ tags, SetsPolicy tag ∧ '\t' ∈ tag
  unwritten : ∀ tag ∈ tags, ¬ ReadsPolicy tag

theorem accepts_policy_iff (txts : List (List Char)) :
    (evaluateDmarc platform txts).severity = .ok ↔
      ∃ record, (dmarcRecords platform txts).head? = some record ∧
        ∃ tag ∈ dmarcTags platform record, ReadsPolicy tag := by
  let reading (record value : List Char) : Bool :=
    Platform.contains (withoutSpaces (platform.lower record)) ("p=".toList ++ value)
  have absent : ∀ value ∈ policies, ';' ∉ "p=".toList ++ value := by
    decide
  have pieces : ∀ record value, ';' ∉ "p=".toList ++ value → (reading record value = true ↔
      ∃ tag ∈ dmarcTags platform record, "p=".toList ++ value <:+: withoutSpaces tag) := by
    intro record value unmarked
    dsimp only [reading]
    rw [Platform.contains_iff, infix_iff_piece unmarked]
    unfold withoutSpaces dmarcTags
    rw [splitOn_filter (by decide)]
    simp
  unfold evaluateDmarc
  cases dmarcRecords platform txts with
  | nil =>
      apply iff_of_false
      · exact nofun
      · rintro ⟨record, none_there, -⟩
        cases none_there
  | cons first others =>
      have only : (∃ record, (first :: others).head? = some record ∧
          ∃ tag ∈ dmarcTags platform record, ReadsPolicy tag) ↔
            ∃ tag ∈ dmarcTags platform first, ReadsPolicy tag := by
        simp
      rw [only]
      have reads : (∃ tag ∈ dmarcTags platform first, ReadsPolicy tag) ↔
          ∃ value ∈ policies, reading first value = true := by
        constructor
        · rintro ⟨tag, member, value, listed, written⟩
          exact ⟨value, listed, (pieces first value (absent value listed)).2 ⟨tag, member, written⟩⟩
        · rintro ⟨value, listed, found⟩
          obtain ⟨tag, member, written⟩ := (pieces first value (absent value listed)).1 found
          exact ⟨tag, member, value, listed, written⟩
      rw [reads]
      change (if reading first "none".toList = true then _ else
        if (reading first "quarantine".toList || reading first "reject".toList) = true then
          (⟨"dmarc", .ok, _⟩ : DnsFinding) else _).severity = .ok ↔ _
      have each : (∃ value ∈ policies, reading first value = true) ↔
          reading first "none".toList = true ∨
            (reading first "quarantine".toList || reading first "reject".toList) = true := by
        simp [policies]
      rw [each]
      by_cases monitored : reading first "none".toList = true
      · rw [if_pos monitored]
        exact iff_of_true rfl (Or.inl monitored)
      · rw [if_neg monitored]
        by_cases enforced :
            (reading first "quarantine".toList || reading first "reject".toList) = true
        · rw [if_pos enforced]
          exact iff_of_true rfl (Or.inr enforced)
        · rw [if_neg enforced]
          apply iff_of_false nofun
          rintro (found | found)
          · exact monitored found
          · exact enforced found

/-- Without tabs, the blanks around a text are spaces. -/
theorem withoutSpaces_trimBlanks {text : List Char} (tabless : '\t' ∉ text) :
    withoutSpaces (trimBlanks text) = withoutSpaces text := by
  have spaces : ∀ char ∈ text, isBlank char = true → (char != ' ') = false := by
    intro char member blank
    have tab : char ≠ '\t' := fun same => tabless (same ▸ member)
    simpa [isBlank, tab] using blank
  have front := filter_dropWhile spaces
  unfold withoutSpaces trimBlanks List.rdropWhile
  rw [List.filter_reverse, filter_dropWhile, List.filter_reverse, List.reverse_reverse, front]
  intro char member
  exact spaces char ((List.dropWhile_suffix _).subset (List.mem_reverse.1 member))

theorem reads_of_sets {tag : List Char} (sets : SetsPolicy tag) (tabless : '\t' ∉ tag) :
    ReadsPolicy tag := by
  obtain ⟨name, value⟩ := sets
  have parts : tag.takeWhile (· ≠ '=') ++ tag.dropWhile (· ≠ '=') = tag :=
    List.takeWhile_append_dropWhile
  have before : withoutSpaces (tag.takeWhile (· ≠ '=')) = "p".toList := by
    have tabless_before : '\t' ∉ tag.takeWhile (· ≠ '=') :=
      fun member => tabless ((List.takeWhile_prefix _).subset member)
    rw [← withoutSpaces_trimBlanks tabless_before]
    change withoutSpaces (tagName tag) = "p".toList
    rw [name]
    decide
  refine ⟨tagValue tag, value, ?_⟩
  cases rest : tag.dropWhile (· ≠ '=') with
  | nil =>
      exfalso
      have empty : tagValue tag = [] := by
        unfold tagValue
        rw [rest]
        rfl
      rw [empty] at value
      exact absurd value (by decide)
  | cons sign late =>
      have equals : sign = '=' := by
        have stopped := List.head?_dropWhile_not (· ≠ '=') tag
        rw [rest] at stopped
        simpa using stopped
      have after : withoutSpaces late = tagValue tag := by
        have tabless_late : '\t' ∉ late := by
          intro member
          apply tabless
          rw [← parts, rest]
          exact List.mem_append_right _ (List.mem_cons_of_mem _ member)
        have trimmed : trimBlanks late = tagValue tag := by
          unfold tagValue
          rw [rest]
          rfl
        have spaceless : ∀ policy ∈ policies, withoutSpaces policy = policy := by
          decide
        rw [← withoutSpaces_trimBlanks tabless_late, trimmed, spaceless _ value]
      have split : withoutSpaces tag =
          withoutSpaces (tag.takeWhile (· ≠ '=')) ++ withoutSpaces (tag.dropWhile (· ≠ '=')) := by
        unfold withoutSpaces
        rw [← List.filter_append, parts]
      have signed : withoutSpaces ('=' :: late) = '=' :: withoutSpaces late := rfl
      rw [split, before, rest, equals, signed, after]
      exact List.infix_rfl

theorem dmarc_follows_tags (txts : List (List Char)) :
    ((evaluateDmarc platform txts).severity = .ok ↔ DeclaresPolicy platform txts) ↔
      ∀ record, (dmarcRecords platform txts).head? = some record →
        ¬ DmarcMisread (dmarcTags platform record) ∧
          ¬ DmarcOverlooked (dmarcTags platform record) := by
  rw [accepts_policy_iff]
  constructor
  · intro follows record first
    constructor
    · rintro ⟨inside, unset⟩
      obtain ⟨other, same, tag, member, sets⟩ := follows.1 ⟨record, first, inside⟩
      obtain rfl := Option.some.inj (first.symm.trans same)
      exact unset tag member sets
    · rintro ⟨⟨tag, member, sets, -⟩, unwritten⟩
      obtain ⟨other, same, late, listed, reads⟩ := follows.2 ⟨record, first, tag, member, sets⟩
      obtain rfl := Option.some.inj (first.symm.trans same)
      exact unwritten late listed reads
  · intro plain
    constructor
    · rintro ⟨record, first, inside⟩
      refine ⟨record, first, ?_⟩
      by_contra unset
      push Not at unset
      exact (plain record first).1 ⟨inside, unset⟩
    · rintro ⟨record, first, tag, member, sets⟩
      refine ⟨record, first, ?_⟩
      by_contra unwritten
      push Not at unwritten
      have tabbed : '\t' ∈ tag := by
        by_contra tabless
        exact unwritten tag member (reads_of_sets sets tabless)
      exact (plain record first).2 ⟨⟨tag, member, sets, tabbed⟩, unwritten⟩

end Dmarc

/-- The verdict on SPF is that of the terms of the record, and the verdict on DMARC that
of its tags, just where nothing is misread or overlooked. -/
theorem dns_verdicts_iff (txts : List (List Char)) :
    ((evaluateSpf platform txts = everyoneAuthorized ↔ AuthorizesEveryone platform txts) ↔
      ∀ record, spfRecords platform txts = [record] →
        ¬ SpfMisread (spfTerms platform record) ∧ ¬ SpfOverlooked (spfTerms platform record)) ∧
    (((evaluateDmarc platform txts).severity = .ok ↔ DeclaresPolicy platform txts) ↔
      ∀ record, (dmarcRecords platform txts).head? = some record →
        ¬ DmarcMisread (dmarcTags platform record) ∧
          ¬ DmarcOverlooked (dmarcTags platform record)) :=
  ⟨spf_follows_terms platform txts, dmarc_follows_tags platform txts⟩

/-- A record that lets everyone send without a sign passes, and so does a policy for
subdomains only. -/
theorem dns_verdicts_fail :
    ¬ (evaluateSpf (.ascii []) ["v=spf1 all".toList] = everyoneAuthorized ↔
      AuthorizesEveryone (.ascii []) ["v=spf1 all".toList]) ∧
    ¬ ((evaluateDmarc (.ascii []) ["v=DMARC1; sp=none".toList]).severity = .ok ↔
      DeclaresPolicy (.ascii []) ["v=DMARC1; sp=none".toList]) := by
  constructor
  · intro follows
    have passed : evaluateSpf (.ascii []) ["v=spf1 all".toList] ≠ everyoneAuthorized := by
      decide
    apply passed
    apply follows.2
    have single : spfRecords (.ascii []) ["v=spf1 all".toList] = ["v=spf1 all".toList] := by
      decide
    have bare : "all".toList ∈ spfTerms (.ascii []) "v=spf1 all".toList := by
      decide
    exact ⟨_, single, "all".toList, bare, Or.inl rfl⟩
  · intro follows
    have accepted : (evaluateDmarc (.ascii []) ["v=DMARC1; sp=none".toList]).severity = .ok := by
      decide
    obtain ⟨record, first, tag, member, sets, -⟩ := follows.1 accepted
    have only : (dmarcRecords (.ascii []) ["v=DMARC1; sp=none".toList]).head? =
        some "v=DMARC1; sp=none".toList := by
      decide
    obtain rfl := Option.some.inj (first.symm.trans only)
    have unset : ∀ other ∈ dmarcTags (.ascii []) "v=DMARC1; sp=none".toList,
        tagName other ≠ "p".toList := by
      decide
    exact unset tag member sets

end OpenReachout
