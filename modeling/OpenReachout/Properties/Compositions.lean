import OpenReachout.Agents.Conversations
import OpenReachout.Core.Dryrun
import OpenReachout.Core.Events
import OpenReachout.Properties.Envelopes
import OpenReachout.Properties.Prompts

/-!
# From a prompt to a draft

Which prompts have a value for each of their slots, and what holds of a draft that is
composed from one.
-/

namespace OpenReachout

open Text Text.Regex Text.Platform Variables Evidence Dryrun

set_option autoImplicit false

section Slots

/-- The class of the value that `build_values` has for a slot. -/
def slotTrust (slot : List Char) : Option TrustClass :=
  if startsWith "sender." slot then some .trusted
  else if startsWith "asset." slot then some .trusted
  else if startsWith "evidence." slot then some .untrusted
  else if slot = "prospect.first_name".toList then some .prospect
  else if slot = "prospect.org_name".toList then some .prospect
  else if slot = "persona.value_prop".toList then some .trusted
  else if slot = "persona.voice_rules".toList then some .trusted
  else if startsWith "tenant.links." slot then some .trusted
  else if slot = "tenant.name".toList then some .trusted
  else none

/-- The slots that the registry knows, and `build_values` does not. -/
def Unfilled (slot : List Char) : Prop :=
  slot = "prospect.city".toList ∨ startsWith "variant." slot = true ∨
    startsWith "signal." slot = true ∨ startsWith "thread." slot = true

theorem mem_of_lookup {Value : Type} {entries : List (List Char × Value)} {key : List Char}
    {value : Value} (found : entries.lookup key = some value) : (key, value) ∈ entries := by
  obtain ⟨front, back, rfl, -⟩ := List.lookup_eq_some_iff.1 found
  simp

theorem intercalate_append (space : List Char) {first second : List (List Char)}
    (some_first : first ≠ []) (some_second : second ≠ []) :
    space.intercalate (first ++ second) =
      space.intercalate first ++ space ++ space.intercalate second := by
  induction first with
  | nil => exact absurd rfl some_first
  | cons piece first induction =>
      cases first with
      | nil => rw [List.singleton_append, List.intercalate_cons_of_ne_nil some_second,
          List.intercalate_singleton]
      | cons other first =>
          have rest := induction (List.cons_ne_nil _ _)
          rw [List.cons_append, List.cons_append, List.intercalate_cons_cons,
            List.intercalate_cons_cons, ← List.cons_append, rest]
          simp only [List.append_assoc]

/-- What the registry knows is one of its names, or goes on after one of its wildcards. -/
theorem lookupSlot_some {slot : List Char} {trust : TrustClass}
    (known : lookupSlot slot = some trust) :
    (slot, trust) ∈ defaultRegistry ∨
      ∃ stem rest, (stem ++ ".*".toList, trust) ∈ defaultRegistry ∧ slot = stem ++ '.' :: rest := by
  unfold lookupSlot at known
  cases exact : defaultRegistry.lookup slot with
  | some found =>
      rw [exact] at known
      cases known
      exact Or.inl (mem_of_lookup exact)
  | none =>
      rw [exact] at known
      obtain ⟨count, inside, found⟩ := List.exists_of_findSome?_eq_some known
      simp only [List.mem_filter, List.mem_reverse, List.mem_range, decide_eq_true_eq] at inside
      have some_front : (slot.splitOn '.').take count ≠ [] := by
        rw [ne_eq, List.take_eq_nil_iff, not_or]
        exact ⟨Nat.pos_iff_ne_zero.1 inside.2, List.splitOn_ne_nil _ _⟩
      have some_back : (slot.splitOn '.').drop count ≠ [] := by
        rw [ne_eq, List.drop_eq_nil_iff]
        omega
      have whole := intercalate_append ['.'] some_front some_back
      rw [List.take_append_drop, List.intercalate_splitOn, List.append_assoc] at whole
      exact Or.inr ⟨_, _, mem_of_lookup found, whole⟩

/-- The wildcards of the registry, each up to its dot. -/
def wildcards : List (List Char × TrustClass) :=
  [("tenant.links".toList, .trusted), ("variant".toList, .trusted), ("asset".toList, .trusted),
    ("sender".toList, .trusted), ("evidence".toList, .untrusted), ("signal".toList, .untrusted),
    ("thread".toList, .untrusted)]

theorem mem_wildcards {stem : List Char} {trust : TrustClass}
    (known : (stem ++ ".*".toList, trust) ∈ defaultRegistry) : (stem, trust) ∈ wildcards := by
  have each : ∀ entry ∈ defaultRegistry, entry.1.getLast? = some '*' →
      (entry.1.dropLast.dropLast, entry.2) ∈ wildcards := by
    decide
  have ends : (stem ++ ".*".toList).getLast? = some '*' := by simp
  have cut : (stem ++ ".*".toList).dropLast.dropLast = stem := by
    have pieces : stem ++ ".*".toList = stem ++ ['.'] ++ ['*'] := by simp
    rw [pieces, List.dropLast_concat, List.dropLast_concat]
  have found := each _ known ends
  rw [cut] at found
  exact found

instance (slot : List Char) : Decidable (Unfilled slot) := inferInstanceAs (Decidable (_ ∨ _))

/-- `build_values` knows a slot that the registry knows, and gives its value the same
class, unless it leaves the slot unfilled. -/
theorem slotTrust_of_lookupSlot {slot : List Char} {trust : TrustClass}
    (known : lookupSlot slot = some trust) : Unfilled slot ∨ slotTrust slot = some trust := by
  rcases lookupSlot_some known with named | ⟨stem, rest, wildcard, rfl⟩
  · have each : ∀ entry ∈ defaultRegistry, Unfilled entry.1 ∨ slotTrust entry.1 = some entry.2 := by
      decide
    exact each _ named
  · have found := mem_wildcards wildcard
    simp only [wildcards, List.mem_cons, Prod.mk.injEq, List.not_mem_nil, or_false] at found
    rcases found with ⟨rfl, rfl⟩ | ⟨rfl, rfl⟩ | ⟨rfl, rfl⟩ | ⟨rfl, rfl⟩ | ⟨rfl, rfl⟩ | ⟨rfl, rfl⟩ |
      ⟨rfl, rfl⟩
    case inl => exact Or.inr rfl
    case inr.inl => exact Or.inl (Or.inr (Or.inl rfl))
    case inr.inr.inl => exact Or.inr rfl
    case inr.inr.inr.inl => exact Or.inr rfl
    case inr.inr.inr.inr.inl => exact Or.inr rfl
    case inr.inr.inr.inr.inr.inl => exact Or.inl (Or.inr (Or.inr (Or.inl rfl)))
    case inr.inr.inr.inr.inr.inr => exact Or.inl (Or.inr (Or.inr (Or.inr rfl)))

theorem rest_of_startsWith {text : String} {slot : List Char} (starts : startsWith text slot = true) :
    ∃ rest, slot = text.toList ++ rest := by
  obtain ⟨rest, whole⟩ := List.isPrefixOf_iff_prefix.1 starts
  exact ⟨rest, whole.symm⟩

/-- No value is built for a slot that is left unfilled. -/
theorem slotTrust_unfilled {slot : List Char} (unfilled : Unfilled slot) :
    slotTrust slot = none := by
  rcases unfilled with rfl | starts | starts | starts
  · decide
  · obtain ⟨rest, rfl⟩ := rest_of_startsWith starts
    rfl
  · obtain ⟨rest, rfl⟩ := rest_of_startsWith starts
    rfl
  · obtain ⟨rest, rfl⟩ := rest_of_startsWith starts
    rfl

end Slots

section Values

variable {runtime : Runtime} {candidate : Candidate} {tenant : TenantConfig runtime}
variable {persona : PersonaSpec} {senderFacts : List (String × String)}

/-- A value that `build_values` has for a slot; one from outside is a fact of the card. -/
structure BuiltFrom (facts : List CardFact) (slot : List Char) (value : ResolvedValue) : Prop where
  trust : slotTrust slot = some value.trust
  slot : value.slot = slot
  fact : value.trust = .untrusted →
    ∃ fact ∈ facts, value.factId = some fact.factId ∧ value.value = fact.content

theorem BuiltFrom.mono {facts more : List CardFact} {slot : List Char} {value : ResolvedValue}
    (built : BuiltFrom facts slot value) (inside : facts ⊆ more) : BuiltFrom more slot value where
  trust := built.trust
  slot := built.slot
  fact outside := by
    obtain ⟨fact, member, same⟩ := built.fact outside
    exact ⟨fact, inside member, same⟩

variable (candidate tenant senderFacts)

/-- What `build_values` can do at a slot. -/
inductive SlotStep (slot : List Char) :
    List CardFact → Except Exc (Option ResolvedValue × List CardFact) → Prop
  | noFact (evidence : startsWith "evidence." slot = true) : SlotStep slot [] (.ok (none, []))
  | fact (fact : CardFact) (others : List CardFact) (evidence : startsWith "evidence." slot = true)
      (value : ResolvedValue) (built : BuiltFrom (fact :: others) slot value) :
      SlotStep slot (fact :: others) (.ok (some value, others))
  | noName (facts : List CardFact) (error : Exc) (first_name : slot = "prospect.first_name".toList)
      (nameless : fields candidate.displayName.toList = []) : SlotStep slot facts (.error error)
  | value (facts : List CardFact) (value : ResolvedValue)
      (other : startsWith "evidence." slot = false)
      (named : slot = "prospect.first_name".toList → fields candidate.displayName.toList ≠ [])
      (built : BuiltFrom facts slot value) : SlotStep slot facts (.ok (some value, facts))
  | noValue (facts : List CardFact) (other : startsWith "evidence." slot = false)
      (named : slot ≠ "prospect.first_name".toList)
      (missing : slotTrust slot = none ∨
        (startsWith "sender." slot = true ∧ senderFacts.lookup (after "sender." slot) = none) ∨
        (startsWith "asset." slot = true ∧
          ∀ asset ∈ tenant.aboutUs.assets, asset.id ≠ after "asset." slot)) :
      SlotStep slot facts (.ok (none, facts))

variable {candidate tenant senderFacts}

theorem slotValue_step (slot : List Char) (facts : List CardFact) :
    SlotStep candidate tenant senderFacts slot facts
      (slotValue candidate tenant persona senderFacts slot facts) := by
  have given : ∀ (value : ResolvedValue), slotTrust slot = some value.trust → value.slot = slot →
      value.trust ≠ .untrusted → startsWith "evidence." slot = false →
      (slot = "prospect.first_name".toList → fields candidate.displayName.toList ≠ []) →
      SlotStep candidate tenant senderFacts slot facts (.ok (some value, facts)) := by
    intro value known own ours other named
    exact .value facts value other named ⟨known, own, fun outside => absurd outside ours⟩
  unfold slotValue
  unfold slotTrust at given
  by_cases sender : startsWith "sender." slot = true
  · rw [if_pos sender] at given ⊢
    have plain : startsWith "evidence." slot = false ∧ slot ≠ "prospect.first_name".toList := by
      obtain ⟨rest, rfl⟩ := rest_of_startsWith sender
      exact ⟨rfl, nofun⟩
    cases found : senderFacts.lookup (after "sender." slot) with
    | none => exact .noValue facts plain.1 plain.2 (Or.inr (Or.inl ⟨sender, found⟩))
    | some fact => exact given _ rfl rfl nofun plain.1 fun same => absurd same plain.2
  rw [if_neg sender] at given ⊢
  by_cases asset : startsWith "asset." slot = true
  · rw [if_pos asset] at given ⊢
    have plain : startsWith "evidence." slot = false ∧ slot ≠ "prospect.first_name".toList := by
      obtain ⟨rest, rfl⟩ := rest_of_startsWith asset
      exact ⟨rfl, nofun⟩
    cases found : tenant.aboutUs.assets.find? fun other => other.id = after "asset." slot with
    | none =>
        refine .noValue facts plain.1 plain.2 (Or.inr (Or.inr ⟨asset, ?_⟩))
        intro other member same
        exact List.find?_eq_none.1 found other member (decide_eq_true same)
    | some other => exact given _ rfl rfl nofun plain.1 fun same => absurd same plain.2
  rw [if_neg asset] at given ⊢
  by_cases evidence : startsWith "evidence." slot = true
  · rw [if_pos evidence] at given ⊢
    cases facts with
    | nil => exact .noFact evidence
    | cons fact others =>
        refine .fact fact others evidence _ ⟨?_, rfl, ?_⟩
        · unfold slotTrust
          rw [if_neg sender, if_neg asset, if_pos evidence]
        · exact fun _ => ⟨fact, List.mem_cons_self, rfl, rfl⟩
  have other : startsWith "evidence." slot = false := Bool.not_eq_true _ ▸ evidence
  rw [if_neg evidence] at given ⊢
  by_cases first_name : slot = "prospect.first_name".toList
  · rw [if_pos first_name] at given ⊢
    cases name : fields candidate.displayName.toList with
    | nil => exact .noName facts _ first_name name
    | cons first rest => exact given _ rfl rfl nofun other fun _ => by rw [name]; exact nofun
  rw [if_neg first_name] at given ⊢
  by_cases org_name : slot = "prospect.org_name".toList
  · rw [if_pos org_name] at given ⊢
    exact given _ rfl rfl nofun other fun same => absurd same first_name
  rw [if_neg org_name] at given ⊢
  by_cases value_prop : slot = "persona.value_prop".toList
  · rw [if_pos value_prop] at given ⊢
    exact given _ rfl rfl nofun other fun same => absurd same first_name
  rw [if_neg value_prop] at given ⊢
  by_cases voice_rules : slot = "persona.voice_rules".toList
  · rw [if_pos voice_rules] at given ⊢
    exact given _ rfl rfl nofun other fun same => absurd same first_name
  rw [if_neg voice_rules] at given ⊢
  by_cases links : startsWith "tenant.links." slot = true
  · rw [if_pos links] at given ⊢
    exact given _ rfl rfl nofun other fun same => absurd same first_name
  rw [if_neg links] at given ⊢
  by_cases name : slot = "tenant.name".toList
  · rw [if_pos name] at given ⊢
    exact given _ rfl rfl nofun other fun same => absurd same first_name
  rw [if_neg name]
  refine .noValue facts other first_name (Or.inl ?_)
  unfold slotTrust
  rw [if_neg sender, if_neg asset, if_neg evidence, if_neg first_name, if_neg org_name,
    if_neg value_prop, if_neg voice_rules, if_neg links, if_neg name]

theorem slotValues_cons {slot : List Char} {slots : List (List Char)} {facts : List CardFact}
    {values : List (List Char × ResolvedValue)}
    (made : slotValues candidate tenant persona senderFacts (slot :: slots) facts = .ok values) :
    ∃ found left others,
      slotValue candidate tenant persona senderFacts slot facts = .ok (found, left) ∧
        slotValues candidate tenant persona senderFacts slots left = .ok others ∧
        values = (found.map fun value => (slot, value)).toList ++ others := by
  rw [slotValues] at made
  cases first : slotValue candidate tenant persona senderFacts slot facts with
  | error error =>
      rw [first] at made
      cases made
  | ok found =>
      cases rest : slotValues candidate tenant persona senderFacts slots found.2 with
      | error error =>
          rw [first] at made
          simp only [bind, Except.bind, rest] at made
          cases made
      | ok others =>
          rw [first] at made
          simp only [bind, Except.bind, rest] at made
          cases made
          exact ⟨found.1, found.2, others, rfl, rest, rfl⟩

theorem slotValues_built {slots : List (List Char)} {facts : List CardFact}
    {values : List (List Char × ResolvedValue)}
    (made : slotValues candidate tenant persona senderFacts slots facts = .ok values)
    (entry : List Char × ResolvedValue) (member : entry ∈ values) :
    entry.1 ∈ slots ∧ BuiltFrom facts entry.1 entry.2 := by
  induction slots generalizing facts values with
  | nil =>
      rw [slotValues] at made
      cases made
      exact absurd member List.not_mem_nil
  | cons slot slots induction =>
      obtain ⟨found, left, others, first, rest, rfl⟩ := slotValues_cons made
      have step : SlotStep candidate tenant senderFacts slot facts (.ok (found, left)) := by
        rw [← first]
        exact slotValue_step slot facts
      have later : left ⊆ facts → entry ∈ others →
          entry.1 ∈ slot :: slots ∧ BuiltFrom facts entry.1 entry.2 := by
        intro inside member
        obtain ⟨among, built⟩ := induction rest member
        exact ⟨List.mem_cons_of_mem _ among, built.mono inside⟩
      have here : ∀ value, BuiltFrom facts slot value → left ⊆ facts → found = some value →
          entry.1 ∈ slot :: slots ∧ BuiltFrom facts entry.1 entry.2 := by
        rintro value built inside rfl
        rcases List.mem_append.1 member with now | after
        · obtain rfl := List.mem_singleton.1 now
          exact ⟨List.mem_cons_self, built⟩
        · exact later inside after
      cases step with
      | noFact evidence => exact later (List.Subset.refl _) member
      | fact fact _ evidence value built =>
          exact here value built (List.subset_cons_self _ _) rfl
      | value _ value other named built => exact here value built (List.Subset.refl _) rfl
      | noValue _ other named missing => exact later (List.Subset.refl _) member

/-- Every slot has a value where the name is not blank, the configuration has what the
slots name, and there is a fact for each slot of evidence. -/
theorem slotValues_filled {slots : List (List Char)} {facts : List CardFact}
    (named : "prospect.first_name".toList ∈ slots → fields candidate.displayName.toList ≠ [])
    (known : ∀ slot ∈ slots, slotTrust slot ≠ none)
    (sender : ∀ slot ∈ slots, startsWith "sender." slot = true →
      senderFacts.lookup (after "sender." slot) ≠ none)
    (assets : ∀ slot ∈ slots, startsWith "asset." slot = true →
      ∃ asset ∈ tenant.aboutUs.assets, asset.id = after "asset." slot)
    (enough : (slots.filter (startsWith "evidence.")).length ≤ facts.length) :
    ∃ values, slotValues candidate tenant persona senderFacts slots facts = .ok values ∧
      ∀ slot ∈ slots, ∃ value, (slot, value) ∈ values := by
  induction slots generalizing facts with
  | nil => exact ⟨[], rfl, fun _ member => absurd member List.not_mem_nil⟩
  | cons slot slots induction =>
      have goes_on : ∀ (value : ResolvedValue) (left : List CardFact),
          slotValue candidate tenant persona senderFacts slot facts = .ok (some value, left) →
          (slots.filter (startsWith "evidence.")).length ≤ left.length →
          ∃ values, slotValues candidate tenant persona senderFacts (slot :: slots) facts =
            .ok values ∧ ∀ slot' ∈ slot :: slots, ∃ value, (slot', value) ∈ values := by
        intro value left first enough_left
        obtain ⟨others, made, each⟩ := induction
          (fun member => named (List.mem_cons_of_mem _ member))
          (fun slot member => known slot (List.mem_cons_of_mem _ member))
          (fun slot member => sender slot (List.mem_cons_of_mem _ member))
          (fun slot member => assets slot (List.mem_cons_of_mem _ member)) enough_left
        refine ⟨(slot, value) :: others, ?_, ?_⟩
        · rw [slotValues, first]
          simp only [bind, Except.bind, made]
          rfl
        · intro slot' member
          rcases List.mem_cons.1 member with rfl | later
          · exact ⟨value, List.mem_cons_self⟩
          · obtain ⟨value', inside⟩ := each slot' later
            exact ⟨value', List.mem_cons_of_mem _ inside⟩
      rw [List.filter_cons] at enough
      have step : SlotStep candidate tenant senderFacts slot facts
        (slotValue candidate tenant persona senderFacts slot facts) := slotValue_step slot facts
      generalize outcome : slotValue candidate tenant persona senderFacts slot facts = made at step
      cases step with
      | noFact evidence =>
          rw [if_pos evidence] at enough
          exact absurd enough (Nat.not_succ_le_zero _)
      | fact fact others evidence value built =>
          rw [if_pos evidence] at enough
          exact goes_on value others outcome (Nat.le_of_succ_le_succ enough)
      | noName _ error first_name nameless =>
          exact absurd nameless (named (by rw [first_name]; exact List.mem_cons_self))
      | value _ value other name built =>
          rw [if_neg (by rw [other]; exact Bool.false_ne_true)] at enough
          exact goes_on value facts outcome enough
      | noValue _ other name missing =>
          rcases missing with unknown | ⟨starts, absent⟩ | ⟨starts, absent⟩
          · exact absurd unknown (known slot List.mem_cons_self)
          · exact absurd absent (sender slot List.mem_cons_self starts)
          · obtain ⟨asset, member, same⟩ := assets slot List.mem_cons_self starts
            exact absurd same (absent asset member)

/-- A blank name has no first word. -/
theorem slotValues_nameless {slots : List (List Char)} {facts : List CardFact}
    {values : List (List Char × ResolvedValue)}
    (made : slotValues candidate tenant persona senderFacts slots facts = .ok values)
    (asked : "prospect.first_name".toList ∈ slots) : fields candidate.displayName.toList ≠ [] := by
  induction slots generalizing facts values with
  | nil => exact absurd asked List.not_mem_nil
  | cons slot slots induction =>
      obtain ⟨found, left, others, first, rest, -⟩ := slotValues_cons made
      rcases List.mem_cons.1 asked with same | later
      · have step : SlotStep candidate tenant senderFacts slot facts (.ok (found, left)) := by
          rw [← first]
          exact slotValue_step slot facts
        rw [← same] at step
        cases step with
        | noFact evidence => exact absurd evidence (by decide)
        | fact _ _ evidence => exact absurd evidence (by decide)
        | value _ _ _ named => exact named rfl
        | noValue _ _ named => exact absurd rfl named
      · exact induction rest later

end Values

section Resolvable

variable {runtime : Runtime} {candidate : Candidate} {tenant : TenantConfig runtime}
variable {persona : PersonaSpec} {senderFacts : List (String × String)}

/-- The configuration and the card have what the slots of a prompt name. -/
structure Supplied (tenant : TenantConfig runtime) (senderFacts : List (String × String))
    (now : Time) (prompt : List Char) (card : EvidenceCard) : Prop where
  assets : ∀ slot ∈ extractSlots runtime.platform prompt, startsWith "asset." slot = true →
    ∃ asset ∈ tenant.aboutUs.assets, asset.id = after "asset." slot
  sender : ∀ slot ∈ extractSlots runtime.platform prompt, startsWith "sender." slot = true →
    senderFacts.lookup (after "sender." slot) ≠ none
  facts : ((extractSlots runtime.platform prompt).filter (startsWith "evidence.")).length ≤
    (freshFacts now card).length

theorem lookupSlot_of_valid {platform : Platform} {prompt slot : List Char}
    (valid : validatePrompt platform prompt = []) (asked : slot ∈ extractSlots platform prompt) :
    ∃ trust, lookupSlot slot = some trust := by
  have known := List.filter_eq_nil_iff.1 valid slot asked
  rw [Option.isNone_iff_eq_none] at known
  exact Option.ne_none_iff_exists'.1 known

/-- A prompt that configuration accepts can be resolved if and only if it names no city, no
variant, no signal and no thread, and no first name of a prospect whose name is blank. -/
theorem resolvable_iff (now : Time) (prompt : List Char) (card : EvidenceCard)
    (valid : validatePrompt runtime.platform prompt = [])
    (supplied : Supplied tenant senderFacts now prompt card) :
    (∃ values resolved,
      buildValues candidate tenant persona senderFacts now prompt card = .ok values ∧
        Variables.resolve runtime.platform prompt values = .ok resolved) ↔
      (∀ slot ∈ extractSlots runtime.platform prompt, ¬ Unfilled slot) ∧
        ("prospect.first_name".toList ∈ extractSlots runtime.platform prompt →
          fields candidate.displayName.toList ≠ []) := by
  constructor
  · rintro ⟨values, resolved, made, done⟩
    refine ⟨fun slot asked unfilled => ?_, slotValues_nameless made⟩
    have fills := resolve_fills runtime.platform defaultRegistry done
    unfold extractSlots at asked
    rw [List.mem_eraseDups] at asked
    obtain ⟨found, inside, rfl⟩ := List.mem_map.1 asked
    obtain ⟨piece, member, rfl⟩ := List.mem_map.1 inside
    obtain ⟨value, there, -⟩ := fills.valued _ (List.mem_map_of_mem member)
    have built := (slotValues_built made _ (mem_of_lookup there)).2
    have none_built := slotTrust_unfilled unfilled
    rw [show slotTrust (slotOf piece.2) = some value.trust from built.trust] at none_built
    cases none_built
  · rintro ⟨filled, named⟩
    have classes : ∀ slot ∈ extractSlots runtime.platform prompt, ∃ trust,
        lookupSlot slot = some trust ∧ slotTrust slot = some trust := by
      intro slot asked
      obtain ⟨trust, known⟩ := lookupSlot_of_valid valid asked
      exact ⟨trust, known, (slotTrust_of_lookupSlot known).resolve_left (filled slot asked)⟩
    have known : ∀ slot ∈ extractSlots runtime.platform prompt, slotTrust slot ≠ none := by
      intro slot asked
      obtain ⟨trust, -, same⟩ := classes slot asked
      rw [same]
      exact Option.some_ne_none trust
    have built : ∃ values, buildValues candidate tenant persona senderFacts now prompt card =
        .ok values ∧ ∀ slot ∈ extractSlots runtime.platform prompt, ∃ value, (slot, value) ∈ values :=
      slotValues_filled named known supplied.sender supplied.assets supplied.facts
    obtain ⟨values, made, each⟩ := built
    have valued : ∀ slot ∈ extractSlots runtime.platform prompt, ∃ value,
        values.lookup slot = some value ∧ lookupSlot slot = some value.trust := by
      intro slot asked
      obtain ⟨value, inside⟩ := each slot asked
      have some_value : (values.lookup slot).isSome = true :=
        List.lookup_isSome_iff.2 ⟨_, inside, beq_self_eq_true slot⟩
      obtain ⟨first, found⟩ := Option.isSome_iff_exists.1 some_value
      have built := (slotValues_built made _ (mem_of_lookup found)).2
      obtain ⟨trust, known, same⟩ := classes slot asked
      refine ⟨first, found, ?_⟩
      rw [known, ← same]
      exact built.trust
    obtain ⟨resolved, done⟩ := resolve_ok runtime.platform defaultRegistry valid valued
    exact ⟨values, resolved, made, done⟩

def plainRuntime : Runtime where
  platform := Platform.ascii []

/-- A configuration with a link, and with nothing else that a prompt could name. -/
def acmeConfig : TenantConfig plainRuntime where
  tenant := "acme"
  aboutUs :=
    { name := "Acme"
      whatWeDo := "quiet rooms for practices"
      links := [("site", "https://acme.com")]
      assets := []
      claimsMode := .denylist
      identity :=
        { sender := "Maya Reyes, Acme"
          physicalAddress := "1 Main St, Austin"
          unsubscribeText := "Reply STOP to opt out" }
      whatWeDo_long := by decide
      links_secure := by decide
      regime_known := by decide
      claims_some := by decide
      claims_long := by decide
      assets_distinct := List.nodup_nil
      assets_linted := fun _ member => absurd member List.not_mem_nil
      assets_registered := fun _ _ member => absurd member List.not_mem_nil }

def quietPersona : PersonaSpec where
  id := "therapist"
  description := "runs a practice of their own"
  valueProp := "quiet rooms"
  sequence :=
    { steps := 1
      gapsDays := []
      steps_pos := by decide
      steps_le := by decide
      gaps_length := by decide
      gaps_ge := by decide
      tasks_inside := by decide }
  cohorts := []
  variants := []

def anaCandidate : Candidate where
  displayName := "Ana Lima"
  sourceAdapter := "db"
  dataBasis := "government_public"

def emptyCard : EvidenceCard where
  prospectRef := "3"
  facts := []

def cityPrompt : List Char := "Write about rooms in \x7b\x7bprospect.city\x7d\x7d".toList

def namePrompt : List Char := "Write a note to \x7b\x7bprospect.first_name\x7d\x7d".toList

theorem supplied_of_plain {prompt : List Char} (plain : ∀ slot ∈ extractSlots (Platform.ascii [])
    prompt, (startsWith "asset." slot || startsWith "sender." slot ||
      startsWith "evidence." slot) = false) :
    Supplied acmeConfig [] 0 prompt emptyCard where
  assets slot asked starts := by
    have none_named := plain slot asked
    rw [starts] at none_named
    cases none_named
  sender slot asked starts := by
    have none_named := plain slot asked
    rw [starts, Bool.or_true] at none_named
    cases none_named
  facts := by
    have none_asked : (extractSlots plainRuntime.platform prompt).filter
        (startsWith "evidence.") = [] := by
      rw [List.filter_eq_nil_iff]
      intro slot asked starts
      have none_named := plain slot asked
      rw [starts, Bool.or_true] at none_named
      cases none_named
    rw [none_asked]
    exact Nat.zero_le _

theorem name_prompt_resolvable :
    ∃ values resolved,
      buildValues anaCandidate acmeConfig quietPersona [] 0 namePrompt emptyCard = .ok values ∧
        Variables.resolve (Platform.ascii []) namePrompt values = .ok resolved :=
  (resolvable_iff 0 namePrompt emptyCard (by decide +kernel)
    (supplied_of_plain (by decide +kernel))).2 (by decide +kernel)

/-- Two prompts that configuration accepts: one names the city, the other the first word of
a blank name. -/
theorem accepted_prompts_fail :
    validatePrompt (Platform.ascii []) cityPrompt = [] ∧
      Supplied acmeConfig [] 0 cityPrompt emptyCard ∧
      (buildValues anaCandidate acmeConfig quietPersona [] 0 cityPrompt emptyCard).bind
        (fun values => Variables.resolve (Platform.ascii []) cityPrompt values) =
          .error ⟨.keyError, "prospect.city"⟩ ∧
    validatePrompt (Platform.ascii []) namePrompt = [] ∧
      Supplied acmeConfig [] 0 namePrompt emptyCard ∧
      buildValues { anaCandidate with displayName := " " } acmeConfig quietPersona [] 0 namePrompt
        emptyCard = .error ⟨.other, "list index out of range"⟩ := by
  refine ⟨by decide +kernel, supplied_of_plain (by decide +kernel), by decide +kernel,
    by decide +kernel, supplied_of_plain (by decide +kernel), by decide +kernel⟩

end Resolvable

section Calls

open Agents

variable {Value Other : Type} {past later : List Exchange}

theorem talk_bind_congr {first other : Talk Value} {rest more : Value → Talk Other}
    (same : first past = other past) (goes_on : ∀ value middle,
      first past = (.ok value, middle) → rest value middle = more value middle) :
    (first >>= rest) past = (other >>= more) past := by
  change Relational.Stateful.bind first rest past = Relational.Stateful.bind other more past
  unfold Relational.Stateful.bind
  rw [← same]
  cases heard : first past with
  | mk outcome middle =>
      cases outcome with
      | error error => rfl
      | ok value => exact goes_on value middle heard

def composeCalls (exchanges : List Exchange) : Nat :=
  exchanges.countP fun exchange => match exchange with
    | .compose _ _ => true
    | _ => false

def auditCalls (exchanges : List Exchange) : Nat :=
  exchanges.countP fun exchange => match exchange with
    | .groundedness _ _ => true
    | _ => false

/-- A model that refuses with `overrun` whatever it is asked beyond the attempts that are
allowed and one audit. -/
def capped (llm : Backend) (overrun : Exc) : Backend where
  compose past prompt :=
    if composeCalls past < maxComposeRetries + 1 then llm.compose past prompt else .error overrun
  groundedness past prompt :=
    if auditCalls past < 1 then llm.groundedness past prompt else .error overrun
  composeReply _ _ := .error overrun

variable {runtime : Runtime} {llm : Backend}

theorem attempts_capped (overrun : Exc) (inputs : Agents.ComposeInputs) (resolved : ResolvedPrompt)
    (blocks : List Char) (known : List (List Char)) (left : Nat) (feedback : List Char)
    (past : List Exchange) (spent : composeCalls past + left ≤ maxComposeRetries + 1)
    (unaudited : auditCalls past = 0) :
    composeAttempts runtime (capped llm overrun) inputs resolved blocks known left feedback past =
      composeAttempts runtime llm inputs resolved blocks known left feedback past := by
  induction left generalizing past feedback with
  | zero => rfl
  | succ left induction =>
      unfold composeAttempts
      apply talk_bind_congr
      · unfold Agents.complete capped
        simp only [if_pos (show composeCalls past < maxComposeRetries + 1 by omega)]
      intro output middle heard
      have asked := talk_complete heard
      have compose_more : composeCalls middle = composeCalls past + 1 := by
        rw [asked]
        unfold composeCalls
        rw [List.countP_append]
        rfl
      have audits_same : auditCalls middle = 0 := by
        rw [asked]
        unfold auditCalls at unaudited ⊢
        rw [List.countP_append, unaudited]
        rfl
      by_cases suspected : output.injectionSuspected = true
      · rw [if_pos suspected, if_pos suspected]
      · rw [if_neg suspected, if_neg suspected]
        apply talk_bind_congr rfl
        intro findings after_checks checked
        obtain ⟨-, rfl⟩ := talk_ofExcept checked
        dsimp only
        by_cases clean : (problems runtime known output findings).isEmpty = true
        · rw [if_pos clean, if_pos clean]
          apply talk_bind_congr
          · unfold Agents.audit
            apply talk_bind_congr
            · unfold Agents.complete capped
              simp only [if_pos (show auditCalls after_checks < 1 by omega)]
            · exact fun _ _ _ => rfl
          · exact fun _ _ _ => rfl
        · rw [if_neg clean, if_neg clean]
          exact induction _ after_checks (by omega) audits_same

/-- `compose` asks for no more than its attempts and one audit. -/
theorem compose_capped (overrun : Exc) (suspects : List Char → Bool)
    (inputs : Agents.ComposeInputs) :
    Agents.compose runtime (capped llm overrun) suspects inputs [] =
      Agents.compose runtime llm suspects inputs [] := by
  unfold Agents.compose
  apply talk_bind_congr rfl
  intro resolved middle heard
  obtain ⟨-, rfl⟩ := talk_ofExcept heard
  by_cases flagged : (resolved.untrusted.any fun value => suspects value.value) = true
  · rw [if_pos flagged, if_pos flagged]
  · rw [if_neg flagged, if_neg flagged]
    apply talk_bind_congr rfl
    intro evidence middle wrapped
    obtain ⟨-, rfl⟩ := talk_ofExcept wrapped
    exact attempts_capped overrun inputs resolved evidence.1 evidence.2 _ [] [] (by decide) rfl

theorem attempts_calls {inputs : Agents.ComposeInputs} {resolved : ResolvedPrompt}
    {blocks : List Char} {known : List (List Char)} {left : Nat} {feedback : List Char}
    {outcome : Except Exc Agents.ComposeResult}
    (talked : composeAttempts runtime llm inputs resolved blocks known left feedback past =
      (outcome, later)) :
    composeCalls later ≤ composeCalls past + left ∧ auditCalls later ≤ auditCalls past + 1 := by
  induction left generalizing past feedback with
  | zero =>
      cases talked
      exact ⟨Nat.le_refl _, Nat.le_succ _⟩
  | succ left induction =>
      unfold composeAttempts at talked
      rcases (talk_bind _ _ _ _ _).1 talked with ⟨output, middle, asked, answered⟩ |
        ⟨error, _, asked⟩
      case inr =>
        obtain rfl := talk_complete_error asked
        omega
      have counted : composeCalls middle = composeCalls past + 1 ∧
          auditCalls middle = auditCalls past := by
        rw [talk_complete asked]
        unfold composeCalls auditCalls
        rw [List.countP_append, List.countP_append]
        exact ⟨rfl, rfl⟩
      by_cases suspected : output.injectionSuspected = true
      · rw [if_pos suspected] at answered
        cases answered
        omega
      · rw [if_neg suspected] at answered
        rcases (talk_bind _ _ _ _ _).1 answered with ⟨findings, found, checked, drafted⟩ |
          ⟨error, _, checked⟩
        case inr =>
          obtain ⟨-, rfl⟩ := talk_ofExcept checked
          omega
        obtain ⟨-, rfl⟩ := talk_ofExcept checked
        dsimp only at drafted
        by_cases clean : (problems runtime known output findings).isEmpty = true
        · rw [if_pos clean] at drafted
          have audit_calls : ∀ {verdict : Except Exc Bool} {after : List Exchange},
              Agents.audit llm ⟨output.subject, output.body, inputs.stepIndex⟩ output blocks found =
                (verdict, after) →
              composeCalls after = composeCalls found ∧ auditCalls after ≤ auditCalls found + 1 := by
            intro verdict after audited
            unfold Agents.audit at audited
            rcases (talk_bind _ _ _ _ _).1 audited with ⟨judgement, heard, asked, judged⟩ |
              ⟨error, _, asked⟩
            · cases judged
              rw [talk_complete asked]
              unfold composeCalls auditCalls
              rw [List.countP_append, List.countP_append]
              exact ⟨rfl, Nat.le_refl _⟩
            · rw [talk_complete_error asked]
              exact ⟨rfl, Nat.le_succ _⟩
          rcases (talk_bind _ _ _ _ _).1 drafted with ⟨grounded, heard, audited, returned⟩ |
            ⟨error, _, audited⟩
          · have same : later = heard := by
              cases grounded with
              | false =>
                  cases returned
                  rfl
              | true =>
                  cases returned
                  rfl
            obtain ⟨compose_same, audit_more⟩ := audit_calls audited
            rw [same]
            omega
          · obtain ⟨compose_same, audit_more⟩ := audit_calls audited
            omega
        · rw [if_neg clean] at drafted
          have more := induction drafted
          omega

theorem compose_calls {suspects : List Char → Bool} {inputs : Agents.ComposeInputs}
    {outcome : Except Exc Agents.ComposeResult}
    (talked : Agents.compose runtime llm suspects inputs [] = (outcome, later)) :
    composeCalls later ≤ maxComposeRetries + 1 ∧ auditCalls later ≤ 1 := by
  have none_asked : ∀ {left : List Exchange}, left = [] →
      composeCalls left ≤ maxComposeRetries + 1 ∧ auditCalls left ≤ 1 := by
    rintro left rfl
    decide
  unfold Agents.compose at talked
  rcases (talk_bind _ _ _ _ _).1 talked with ⟨resolved, middle, found, rest⟩ | ⟨error, _, found⟩
  case inr => exact none_asked (talk_ofExcept found).2
  obtain ⟨-, rfl⟩ := talk_ofExcept found
  by_cases flagged : (resolved.untrusted.any fun value => suspects value.value) = true
  · rw [if_pos flagged] at rest
    cases rest
    decide
  · rw [if_neg flagged] at rest
    rcases (talk_bind _ _ _ _ _).1 rest with ⟨evidence, middle, wrapped, attempts⟩ |
      ⟨error, _, wrapped⟩
    case inr => exact none_asked (talk_ofExcept wrapped).2
    obtain ⟨-, rfl⟩ := talk_ofExcept wrapped
    have counted := attempts_calls attempts
    have start : composeCalls [] = 0 ∧ auditCalls [] = 0 := ⟨rfl, rfl⟩
    omega

end Calls

section Drafts

open Agents

variable {runtime : Runtime} {llm : Backend} {past later : List Exchange}

/-- The draft is the model's last output, which cites what it was shown. -/
structure LastOutput (inputs : Agents.ComposeInputs) (resolved : ResolvedPrompt) (blocks : List Char)
    (known : List (List Char)) (exchanges : List Exchange) (result : Agents.ComposeResult) :
    Prop where
  resolved : result.resolved = resolved
  draft : result.draft = ⟨result.output.subject, result.output.body, inputs.stepIndex⟩
  asked : ∃ prompt, Exchange.compose prompt result.output ∈ exchanges ∧ prompt.evidenceBlocks = blocks
  cited : ∀ claim ∈ result.output.claims, claim.factId ∈ known
  unsuspected : result.output.injectionSuspected = false

theorem lastOutput_of_attempts {inputs : Agents.ComposeInputs} {resolved : ResolvedPrompt}
    {blocks : List Char} {known : List (List Char)} {left : Nat} {feedback : List Char}
    {result : Agents.ComposeResult}
    (talked : composeAttempts runtime llm inputs resolved blocks known left feedback past =
      (.ok result, later)) : LastOutput inputs resolved blocks known later result := by
  induction left generalizing past feedback with
  | zero => cases talked
  | succ left induction =>
      unfold composeAttempts at talked
      obtain ⟨output, middle, asked, answered⟩ := talk_bind_ok talked
      by_cases suspected : output.injectionSuspected = true
      · rw [if_pos suspected] at answered
        cases answered
      · rw [if_neg suspected] at answered
        obtain ⟨findings, found, checked, drafted⟩ := talk_bind_ok answered
        obtain ⟨-, rfl⟩ := talk_ofExcept checked
        dsimp only at drafted
        by_cases clean : (problems runtime known output findings).isEmpty = true
        · rw [if_pos clean] at drafted
          obtain ⟨grounded, audited, judged, returned⟩ := talk_bind_ok drafted
          cases grounded with
          | false => cases returned
          | true =>
              cases returned
              have heard := talk_complete asked
              unfold Agents.audit at judged
              obtain ⟨judgement, after, audit_asked, same⟩ := talk_bind_ok judged
              have audit_heard := talk_complete audit_asked
              have ends : later = after := (congrArg Prod.snd same).symm
              refine ⟨rfl, rfl, ?_, ?_, Bool.not_eq_true _ ▸ suspected⟩
              · rw [ends, audit_heard, heard]
                exact ⟨_, List.mem_append_left _ (List.mem_append_right _
                  (List.mem_singleton_self _)), rfl⟩
              · unfold problems at clean
                dsimp only at clean
                rw [List.isEmpty_iff, List.append_eq_nil_iff] at clean
                intro claim member
                by_contra unknown
                have listed : claim.factId ∈ (output.claims.map Claim.factId).filter
                    fun id => !known.contains id := by
                  rw [List.mem_filter]
                  refine ⟨List.mem_map_of_mem member, ?_⟩
                  rw [Bool.not_eq_true', List.contains_eq_mem, decide_eq_false_iff_not]
                  exact unknown
                by_cases none_unknown : ((output.claims.map Claim.factId).filter
                    fun id => !known.contains id).isEmpty = true
                · rw [List.isEmpty_iff.1 none_unknown] at listed
                  exact absurd listed List.not_mem_nil
                · rw [if_neg none_unknown] at clean
                  cases clean.1
        · rw [if_neg clean] at drafted
          exact induction drafted

theorem infix_intercalate (space : List Char) {piece : List Char} {pieces : List (List Char)}
    (member : piece ∈ pieces) : piece <:+: space.intercalate pieces := by
  induction pieces with
  | nil => exact absurd member List.not_mem_nil
  | cons first pieces induction =>
      by_cases last : pieces = []
      · rw [last, List.mem_singleton] at member
        rw [last, List.intercalate_singleton, member]
      · rw [List.intercalate_cons_of_ne_nil last, List.append_assoc]
        rcases List.mem_cons.1 member with rfl | later
        · exact (List.prefix_append _ _).isInfix
        · exact ((induction later).trans (List.suffix_append space _).isInfix).trans
            (List.suffix_append first _).isInfix

/-- The envelope of a value is in the evidence that the model is shown. -/
theorem envelope_in_blocks {resolved : ResolvedPrompt} {blocks : List Char}
    {known : List (List Char)} {value : ResolvedValue}
    (shown : evidenceBlocks runtime resolved = .ok (blocks, known))
    (member : value ∈ resolved.untrusted) :
    ∃ envelope, wrap runtime.platform value.value "web" (evidenceId value) = .ok envelope ∧
      envelope.text <:+: blocks := by
  have allowed : allowedSource "web" = true := by decide
  obtain ⟨envelope, made, text⟩ := wrap_ok runtime.platform allowed value.value (evidenceId value)
  refine ⟨envelope, made, ?_⟩
  have some_shown : ¬ resolved.untrusted.isEmpty = true := by
    rw [List.isEmpty_iff]
    exact List.ne_nil_of_mem member
  rw [evidenceBlocks_eq, if_neg some_shown] at shown
  obtain ⟨same, -⟩ := Prod.mk.inj (Except.ok.inj shown)
  rw [← same, text]
  have inside : shownFact runtime.platform value ++ closeTag ∈
      resolved.untrusted.map fun value => shownFact runtime.platform value ++ closeTag :=
    List.mem_map_of_mem member
  have ends : wrapped runtime.platform "web" (evidenceId value) value.value ++ closeTag <:+
      shownFact runtime.platform value ++ closeTag := by
    refine ⟨"fact_id=".toList ++ evidenceId value ++ ['\n'], ?_⟩
    unfold shownFact
    simp only [List.append_assoc, List.cons_append, List.nil_append]
  exact ends.isInfix.trans (infix_intercalate _ inside)

variable {candidate : Candidate} {tenant : TenantConfig runtime} {persona : PersonaSpec}
variable {senderFacts : List (String × String)} {now : Time} {prompt : List Char}
variable {card : EvidenceCard}

/-- The values from outside that stand beside a prompt are fresh facts of the card. -/
theorem untrusted_from_card {values : List (List Char × ResolvedValue)}
    {asked : List Char} {resolved : ResolvedPrompt} (named : card.Named)
    (built : buildValues candidate tenant persona senderFacts now prompt card = .ok values)
    (done : Variables.resolve runtime.platform asked values = .ok resolved)
    (value : ResolvedValue) (member : value ∈ resolved.untrusted) :
    ∃ fact ∈ freshFacts now card, evidenceId value = fact.factId ∧ value.value = fact.content := by
  have fills := resolve_fills runtime.platform defaultRegistry done
  have listed : some value ∈ resolved.untrusted.map some := List.mem_map_of_mem member
  rw [fills.untrusted] at listed
  obtain ⟨occurrence, inside, there⟩ := List.mem_map.1 listed
  obtain ⟨among, outside⟩ := List.mem_filter.1 inside
  rw [decide_eq_true_eq] at outside
  obtain ⟨own, found, known⟩ := fills.valued occurrence among
  rw [there, Option.some.injEq] at found
  rw [outside, ← found, Option.some.injEq] at known
  obtain ⟨-, from_card⟩ := slotValues_built built _ (mem_of_lookup there)
  obtain ⟨fact, fresh, id, content⟩ := from_card.fact known.symm
  refine ⟨fact, fresh, ?_, content⟩
  have some_id : fact.factId ≠ [] := named fact (List.mem_filter.1 fresh).1
  change value.factId = some fact.factId at id
  unfold evidenceId
  rw [id]
  cases whole : fact.factId with
  | nil => exact absurd whole some_id
  | cons first rest => rfl

/-- What a draft rests on that `compose` has returned. -/
structure Compliant (runtime : Runtime) (inputs : Agents.ComposeInputs) (card : EvidenceCard)
    (now : Time) (exchanges : List Exchange) (result : Agents.ComposeResult) : Prop where
  valid : validate runtime result.draft inputs.validatorCtx = .ok []
  draft : result.draft = ⟨result.output.subject, result.output.body, inputs.stepIndex⟩
  resolved : Variables.resolve runtime.platform inputs.variantPrompt inputs.values =
    .ok result.resolved
  cited : ∃ shown, Exchange.compose shown result.output ∈ exchanges ∧
    ∀ claim ∈ result.output.claims, ∃ fact ∈ card.facts, fact.factId = claim.factId ∧
      isFresh now fact = true ∧ ∃ envelope,
        wrap runtime.platform fact.content "web" fact.factId = .ok envelope ∧
          envelope.text <:+: shown.evidenceBlocks
  unflagged : ∀ value ∈ result.resolved.untrusted,
    injectionSuspects runtime.platform value.value = false
  unsuspected : result.output.injectionSuspected = false
  grounded : JudgedGrounded exchanges result.draft
  hash : result.contentSha256 = contentHash runtime.platform result.draft
  stamped : result.groundednessPassedHash = some (contentHash runtime.platform result.draft)

theorem compliant_of_compose {inputs : Agents.ComposeInputs} {result : Agents.ComposeResult}
    (named : card.Named)
    (built : buildValues candidate tenant persona senderFacts now prompt card = .ok inputs.values)
    (talked : Agents.compose runtime llm (injectionSuspects runtime.platform) inputs [] =
      (.ok result, later)) : Compliant runtime inputs card now later result := by
  have accepted := accepted_of_compose talked
  unfold Agents.compose at talked
  obtain ⟨resolved, middle, found, rest⟩ := talk_bind_ok talked
  obtain ⟨done, rfl⟩ := talk_ofExcept found
  by_cases flagged : (resolved.untrusted.any fun value =>
      injectionSuspects runtime.platform value.value) = true
  · rw [if_pos flagged] at rest
    cases rest
  · rw [if_neg flagged] at rest
    obtain ⟨evidence, middle, found, attempts⟩ := talk_bind_ok rest
    obtain ⟨shown, rfl⟩ := talk_ofExcept found
    have drafted := lastOutput_of_attempts attempts
    obtain ⟨asked, heard, blocks⟩ := drafted.asked
    constructor
    case valid => exact accepted.valid
    case draft => exact drafted.draft
    case resolved =>
      rw [drafted.resolved]
      exact done
    case cited =>
      refine ⟨asked, heard, fun claim member => ?_⟩
      have known := drafted.cited claim member
      have listed : evidence.2 = resolved.untrusted.map evidenceId := by
        rw [evidenceBlocks_eq] at shown
        exact (congrArg Prod.snd (Except.ok.inj shown)).symm
      rw [listed] at known
      obtain ⟨value, inside, same⟩ := List.mem_map.1 known
      obtain ⟨fact, fresh, id, content⟩ := untrusted_from_card named built done value inside
      obtain ⟨envelope, made, inside⟩ := envelope_in_blocks shown inside
      obtain ⟨among, young⟩ := List.mem_filter.1 fresh
      rw [content, id] at made
      refine ⟨fact, among, id.symm.trans same, young, envelope, made, ?_⟩
      rw [blocks]
      exact inside
    case unflagged =>
      rw [drafted.resolved]
      intro value member
      rw [Bool.not_eq_true, List.any_eq_false] at flagged
      exact Bool.not_eq_true _ ▸ flagged value member
    case unsuspected => exact drafted.unsuspected
    case grounded => exact accepted.grounded
    case hash => exact accepted.hash
    case stamped =>
      rw [accepted.stamped, accepted.hash]

/-- `compose` never returns a draft that does not comply, and never asks the model for more
than its attempts and one audit. -/
theorem compose_compliant (llm : Backend) (overrun : Exc) (inputs : Agents.ComposeInputs)
    (named : card.Named)
    (built : buildValues candidate tenant persona senderFacts now prompt card = .ok inputs.values) :
    (∀ result exchanges, Agents.compose runtime llm (injectionSuspects runtime.platform) inputs [] =
      (.ok result, exchanges) → Compliant runtime inputs card now exchanges result) ∧
    (∀ outcome exchanges, Agents.compose runtime llm (injectionSuspects runtime.platform) inputs [] =
      (outcome, exchanges) →
        composeCalls exchanges ≤ maxComposeRetries + 1 ∧ auditCalls exchanges ≤ 1) ∧
    Agents.compose runtime (capped llm overrun) (injectionSuspects runtime.platform) inputs [] =
      Agents.compose runtime llm (injectionSuspects runtime.platform) inputs [] :=
  ⟨fun _ _ talked => compliant_of_compose named built talked,
    fun _ _ talked => compose_calls talked, compose_capped overrun _ inputs⟩

def bioSlot : List Char := "evidence.bio".toList

def bioPrompt : List Char := "Write about \x7b\x7bevidence.bio\x7d\x7d in two lines".toList

/-- A card as it is loaded, with one fact. -/
def anaCard : EvidenceCard := storedCard 3 [⟨7, "bio", "sees couples in Austin", "ana.example", 0⟩]

def anaInputs : Agents.ComposeInputs where
  variantPrompt := bioPrompt
  values := [(bioSlot, { slot := bioSlot, value := "sees couples in Austin".toList
                         trust := .untrusted, factId := some (uuidText 7)
                         sourceUrl := some "ana.example" })]
  validatorCtx := validatorContext acmeConfig
  trustedContext := trustedContext acmeConfig quietPersona

def citingOutput : ComposeOutput where
  subject := "Rooms in Austin".toList
  body := "You see couples.\n- Maya Reyes, Acme\n1 Main St, Austin\nReply STOP to opt out".toList
  claims := [⟨"sees couples".toList, uuidText 7⟩]

/-- First a draft without an address, then one that complies. -/
def learningModel : Backend where
  compose past _ := .ok (if past.isEmpty then { citingOutput with body := "Hello".toList }
    else citingOutput)
  groundedness _ _ := .ok { grounded := true }
  composeReply _ _ := .error ⟨.other, "not asked"⟩

theorem second_draft_complies : ∃ result exchanges,
    Agents.compose plainRuntime learningModel (injectionSuspects plainRuntime.platform) anaInputs [] =
      (.ok result, exchanges) ∧
    Compliant plainRuntime anaInputs anaCard 0 exchanges result ∧
    composeCalls exchanges = 2 ∧ auditCalls exchanges = 1 := by
  have counted : composeCalls (Agents.compose plainRuntime learningModel
        (injectionSuspects plainRuntime.platform) anaInputs []).2 = 2 ∧
      auditCalls (Agents.compose plainRuntime learningModel
        (injectionSuspects plainRuntime.platform) anaInputs []).2 = 1 := by
    decide +kernel
  have returned : (Agents.compose plainRuntime learningModel
      (injectionSuspects plainRuntime.platform) anaInputs []).1.toOption.isSome = true := by
    decide +kernel
  have built : buildValues anaCandidate acmeConfig quietPersona [] 0 bioPrompt anaCard =
      .ok anaInputs.values := by
    decide +kernel
  have compliant := (compose_compliant learningModel ⟨.other, "overrun"⟩ anaInputs
    (storedCard_named 3 _ : anaCard.Named) built).1
  generalize Agents.compose plainRuntime learningModel
    (injectionSuspects plainRuntime.platform) anaInputs [] = talked at counted returned compliant ⊢
  obtain ⟨outcome, exchanges⟩ := talked
  cases outcome with
  | error error => cases returned
  | ok result => exact ⟨result, exchanges, rfl, compliant result exchanges rfl, counted⟩

end Drafts

end OpenReachout
