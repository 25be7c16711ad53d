import OpenReachout.Agents.Discovery
import OpenReachout.Properties.Compositions
import OpenReachout.Properties.Exchanges
import Mathlib.Tactic.FieldSimp
import Mathlib.Tactic.Positivity
import Mathlib.Tactic.Ring

/-!
# Discovery

The analysis of a tenant has two purposes and gives up on both where it cannot compare two
cohorts. The scan of the floors takes a count of replies for a share of the prospects.
-/

namespace OpenReachout

open Relational Relational.Program

set_option autoImplicit false

variable {oracle : Nat → (call : Call) → call.Answer} {fault : Exc}
variable {moment : Moment Database RowLock} {db middle later : Database} {answered : Nat}
variable {tenant key cohortId : String} {time : Time}

section Filing

/-- A proposal of the kind stands under the key: it is open, or was declined of late. -/
def Database.Stands (db : Database) (tenant : String) (time : Time) (kind : ProposalKind)
    (key : String) : Prop :=
  ∃ id row, db.proposals.lookup id = some row ∧ row.tenant = tenant ∧ row.kind = kind ∧
    row.dedupeKey = some key ∧ row.remembered time = true

/-- A proposal of whatever kind stands under the key. -/
def Database.Remembers (db : Database) (tenant : String) (time : Time) (key : String) : Prop :=
  ∃ kind, db.Stands tenant time kind key

/-- Proposals have been added, each under a key that no proposal stood under. -/
structure Files (tenant : String) (time : Time)
    (new : ProposalKind → ProposalPayload → String → Prop) (db later : Database) : Prop where
  kept : ∀ id row, db.proposals.lookup id = some row → later.proposals.lookup id = some row
  added : ∀ id row, later.proposals.lookup id = some row → db.proposals.lookup id = none →
    ∃ key, row.dedupeKey = some key ∧ ¬ db.Remembers tenant time key ∧
      new row.kind row.payload key

/-- The ids to come are not in use. -/
def Unfiled (oracle : Nat → (call : Call) → call.Answer) (db : Database) (answered : Nat) : Prop :=
  ∀ index, answered ≤ index → db.proposals.lookup (oracle index .uuid) = none

variable {new other : ProposalKind → ProposalPayload → String → Prop} {kind : ProposalKind}
variable {payload : ProposalPayload}

namespace Files

theorem refl : Files tenant time new db db where
  kept _ _ present := present
  added _ row present absent := absurd (present.symm.trans absent) (Option.some_ne_none row)

theorem mono (files : Files tenant time new db later)
    (weaker : ∀ kind payload key, new kind payload key → other kind payload key) :
    Files tenant time other db later where
  kept := files.kept
  added id row present absent := by
    obtain ⟨key, under, unknown, holds⟩ := files.added id row present absent
    exact ⟨key, under, unknown, weaker _ _ _ holds⟩

theorem stands (files : Files tenant time new db later)
    (standing : db.Stands tenant time kind key) : later.Stands tenant time kind key := by
  obtain ⟨id, row, present, rest⟩ := standing
  exact ⟨id, row, files.kept id row present, rest⟩

theorem remembers (files : Files tenant time new db later)
    (known : db.Remembers tenant time key) : later.Remembers tenant time key := by
  obtain ⟨kind, standing⟩ := known
  exact ⟨kind, files.stands standing⟩

theorem trans (first : Files tenant time new db middle)
    (second : Files tenant time new middle later) : Files tenant time new db later where
  kept id row present := second.kept id row (first.kept id row present)
  added id row present absent := by
    cases between : middle.proposals.lookup id with
    | none =>
        obtain ⟨key, under, unknown, holds⟩ := second.added id row present between
        exact ⟨key, under, fun known => unknown (first.remembers known), holds⟩
    | some old =>
        obtain rfl := Option.some.inj ((second.kept id old between).symm.trans present)
        exact first.added id old between absent

/-- What stands afterwards stood before, or has been added. -/
theorem stood (files : Files tenant time new db later) (standing : later.Stands tenant time kind key) :
    db.Stands tenant time kind key ∨
      ¬ db.Remembers tenant time key ∧ ∃ payload, new kind payload key := by
  obtain ⟨id, row, present, ours, same, under, remembered⟩ := standing
  cases before : db.proposals.lookup id with
  | none =>
      obtain ⟨name, named, unknown, holds⟩ := files.added id row present before
      obtain rfl := Option.some.inj (under.symm.trans named)
      rw [same] at holds
      exact Or.inr ⟨unknown, row.payload, holds⟩
  | some old =>
      obtain rfl := Option.some.inj ((files.kept id old before).symm.trans present)
      exact Or.inl ⟨id, old, before, ours, same, under, remembered⟩

end Files

/-- What `propose` looks for under its key. -/
theorem select_nil_iff : (db.proposals.select fun _ row => row.tenant = tenant &&
      row.dedupeKey = some key && row.remembered time) = [] ↔
    ¬ db.Remembers tenant time key := by
  rw [List.eq_nil_iff_forall_not_mem]
  constructor
  · intro unselected known
    obtain ⟨kind, id, row, present, ours, -, under, remembered⟩ := known
    apply unselected (id, row)
    rw [Table.mem_select_iff]
    simp [present, ours, under, remembered]
  · intro unknown entry member
    apply unknown
    rw [Table.mem_select_iff] at member
    obtain ⟨present, chosen⟩ := member
    simp only [Bool.and_eq_true, decide_eq_true_eq] at chosen
    exact ⟨_, entry.1, entry.2, present, chosen.1.1, rfl, chosen.1.2, chosen.2⟩

/-- A proposal is made, unless one stands under its key. -/
theorem completes_propose (distinct : Distinct oracle) (unfiled : Unfiled oracle db answered)
    (some_key : key ≠ "") :
    Completes oracle fault moment (propose tenant kind payload (some key)) db answered
      fun _ later taken => Unfiled oracle later taken ∧
        Files tenant moment.start.clock (fun first second third =>
          first = kind ∧ second = payload ∧ third = key) db later ∧
        (db.Remembers tenant moment.start.clock key ∨
          later.Stands tenant moment.start.clock kind key) := by
  have keyed : (some key).filter (fun key => key != "") = some key := by
    simp [Option.filter, some_key]
  unfold propose
  rw [keyed]
  refine completes_bind (completes_query _ ?_)
  dsimp only
  by_cases known : db.Remembers tenant moment.start.clock key
  · have found : (db.proposals.select fun _ row => row.tenant = tenant &&
        row.dedupeKey = some key && row.remembered moment.start.clock) ≠ [] :=
      fun none_found => select_nil_iff.1 none_found known
    rw [if_pos (by simpa using found)]
    exact completes_pure _ ⟨unfiled, Files.refl, Or.inl known⟩
  · have none_found := select_nil_iff.2 known
    rw [if_neg (by simp [none_found])]
    have fresh := unfiled answered (Nat.le_refl _)
    refine completes_bind (completes_ask _ ?_)
    refine completes_bind (completes_insertRow _ _ _ _ _ _ rfl fresh (completes_pure _ ?_))
    have inserted (id : Uuid) : (db.proposals.insert (oracle answered .uuid)
        { tenant, kind, payload, dedupeKey := some key, createdAt := moment.start.clock }).lookup
          id = if id = oracle answered .uuid then
            some { tenant, kind, payload, dedupeKey := some key, createdAt := moment.start.clock }
          else db.proposals.lookup id := by
      rw [Table.lookup_insert, fresh, Option.getD_none]
    refine ⟨unused_insert distinct.uuid unfiled _, ⟨?_, ?_⟩, Or.inr ?_⟩
    · intro id row present
      have apart : id ≠ oracle answered .uuid := by
        intro same
        rw [same, fresh] at present
        cases present
      exact ((inserted id).trans (if_neg apart)).trans present
    · intro id row present absent
      by_cases same : id = oracle answered .uuid
      · have mine := ((inserted id).symm.trans present)
        rw [if_pos same] at mine
        obtain rfl := Option.some.inj mine
        exact ⟨key, rfl, known, rfl, rfl, rfl⟩
      · have old := (inserted id).symm.trans present
        rw [if_neg same, absent] at old
        cases old
    · exact ⟨_, _, (inserted _).trans (if_pos rfl), rfl, rfl, rfl, rfl⟩

end Filing

section Analysis

/-- The cohorts whose rates are trusted. -/
def Database.comparable (db : Database) (tenant : String) : List CohortOutcome :=
  (db.outcomes tenant).filter fun outcome => minSignal ≤ outcome.contacted

/-- Two of the trusted rates are apart. -/
def Spread (outcomes : List CohortOutcome) : Prop :=
  ∃ first ∈ outcomes, ∃ second ∈ outcomes, first.conversionRate ≠ second.conversionRate

def opportunity : ProposalKind := .other "opportunity"

/-- A shift away from a minimal and towards a maximal rate. -/
def IsShift (outcomes : List CohortOutcome) (payload : ProposalPayload) : Prop :=
  ∃ worst ∈ outcomes, ∃ best ∈ outcomes, ∃ amount,
    payload = .shift worst.cohortId best.cohortId amount ∧ worst.cohortId ≠ best.cohortId ∧
    ∀ outcome ∈ outcomes, worst.conversionRate ≤ outcome.conversionRate ∧
      outcome.conversionRate ≤ best.conversionRate

/-- Every dead cohort has been flagged, and budget is to be shifted for a reason. -/
structure Analyzed (db : Database) (tenant : String) (time : Time) (later : Database) : Prop where
  flags : ∀ outcome ∈ db.outcomes tenant, outcome.isDead = true →
    later.Stands tenant time opportunity (deadKey outcome.cohortId)
  shifts : ∀ id row, later.proposals.lookup id = some row → db.proposals.lookup id = none →
    row.kind = .budgetShift → IsShift (db.comparable tenant) row.payload

theorem deadKey_injective {first second : String} (same : deadKey first = deadKey second) :
    first = second := by
  have lists := congrArg String.toList same
  unfold deadKey at lists
  rw [String.toList_append, String.toList_append] at lists
  exact String.toList_inj.1 (List.append_cancel_left lists)

theorem key_ne_empty (start rest : String) (begins : start ≠ "") : start ++ rest ≠ "" := by
  intro empty
  have lists := congrArg String.toList empty
  rw [String.toList_append] at lists
  exact begins (String.toList_inj.1 (List.append_eq_nil_iff.1 lists).1)

theorem shiftKey_ne_deadKey (worst best cohortId : String) :
    shiftKey worst best ≠ deadKey cohortId := by
  intro same
  have lists := congrArg String.toList same
  unfold shiftKey deadKey at lists
  rw [String.toList_append, String.toList_append, String.toList_append, String.toList_append]
    at lists
  exact absurd (List.cons.inj lists).1 (by decide)

/-- What the second part of the analysis proposes. -/
def flagging (outcomes : List CohortOutcome) (kind : ProposalKind) (_ : ProposalPayload)
    (key : String) : Prop :=
  kind = opportunity ∧ ∃ outcome ∈ outcomes, key = deadKey outcome.cohortId

/-- What stands under the key of a dead cohort once the others have been flagged. -/
theorem completes_flagEach (distinct : Distinct oracle) (outcomes : List CohortOutcome)
    (unfiled : Unfiled oracle db answered) :
    Completes oracle fault moment (flagEach tenant outcomes) db answered fun _ later taken =>
      Unfiled oracle later taken ∧
      Files tenant moment.start.clock (flagging outcomes) db later ∧
      ∀ outcome ∈ outcomes, outcome.isDead = true →
        db.Remembers tenant moment.start.clock (deadKey outcome.cohortId) ∨
          later.Stands tenant moment.start.clock opportunity (deadKey outcome.cohortId) := by
  induction outcomes generalizing db answered with
  | nil => exact completes_pure _ ⟨unfiled, Files.refl, nofun⟩
  | cons first rest induction =>
      unfold flagEach
      have visited : Completes oracle fault moment (flagDead tenant first) db answered
          fun _ middle taken => Unfiled oracle middle taken ∧
            Files tenant moment.start.clock (flagging (first :: rest)) db middle ∧
            (first.isDead = true →
              db.Remembers tenant moment.start.clock (deadKey first.cohortId) ∨
              middle.Stands tenant moment.start.clock opportunity (deadKey first.cohortId)) := by
        unfold flagDead
        by_cases dead : first.isDead = true
        · rw [if_pos dead]
          refine (completes_propose distinct unfiled (key_ne_empty _ _ (by decide))).mono ?_
          rintro _ middle taken - ⟨fresh, files, known⟩
          refine ⟨fresh, files.mono ?_, fun _ => known⟩
          rintro kind payload key ⟨rfl, -, rfl⟩
          exact ⟨rfl, first, List.mem_cons_self, rfl⟩
        · rw [if_neg dead]
          exact completes_pure _ ⟨unfiled, Files.refl, fun holds => absurd holds dead⟩
      refine completes_bind (visited.mono ?_)
      rintro _ middle taken - ⟨fresh, files, known⟩
      refine completes_bind ((induction fresh).mono ?_)
      rintro _ later total - ⟨onward, others, flagged⟩
      have widened : Files tenant moment.start.clock (flagging (first :: rest)) middle later := by
        apply others.mono
        rintro kind payload key ⟨same, outcome, member, under⟩
        exact ⟨same, outcome, List.mem_cons_of_mem _ member, under⟩
      refine completes_pure _ ⟨onward, files.trans widened, ?_⟩
      intro outcome member dead
      rcases List.mem_cons.1 member with rfl | inside
      · exact (known dead).imp_right widened.stands
      · rcases flagged outcome inside dead with ⟨kind, standing⟩ | standing
        · rcases files.stood standing with before | ⟨-, payload, rfl, -⟩
          · exact Or.inl ⟨kind, before⟩
          · exact Or.inr (widened.stands standing)
        · exact Or.inr standing

/-- The outcome of a cohort is a matter of its id. -/
theorem outcome_eq {outcome : CohortOutcome} (member : outcome ∈ db.outcomes tenant) :
    outcomeIn (db.ofTenant tenant) outcome.cohortId = outcome := by
  unfold Database.outcomes at member
  obtain ⟨name, -, rfl⟩ := List.mem_map.1 member
  rfl

/-- What the analysis compares, in the order in which it finds it. -/
def compared (order : GroupOrder) (db : Database) (tenant : String) : List CohortOutcome :=
  (order.arrange (db.outcomes tenant)).filter fun outcome => minSignal ≤ outcome.contacted

variable {order : GroupOrder}

theorem mem_compared {outcome : CohortOutcome} :
    outcome ∈ compared order db tenant ↔ outcome ∈ db.comparable tenant := by
  unfold compared Database.comparable
  rw [List.mem_filter, List.mem_filter, (order.arrange_perm _).mem_iff]

/-- Where all the rates are the same, the first cohort is the best and the worst. -/
theorem extremes_of_level {first : CohortOutcome} {rest : List CohortOutcome}
    (level : ¬ Spread (first :: rest)) :
    (first :: rest).argmax CohortOutcome.conversionRate = some first ∧
      (first :: rest).argmin CohortOutcome.conversionRate = some first := by
  have same : ∀ outcome ∈ first :: rest, outcome.conversionRate = first.conversionRate := by
    intro outcome member
    by_contra apart
    exact level ⟨outcome, member, first, List.mem_cons_self, apart⟩
  have leading {found : CohortOutcome} (before : (first :: rest).idxOf found ≤ 0) :
      found = first := by
    by_contra apart
    rw [List.idxOf_cons_ne _ (Ne.symm apart)] at before
    omega
  constructor
  · have some_best : (first :: rest).argmax CohortOutcome.conversionRate ≠ none :=
      mt List.argmax_eq_none.1 (List.cons_ne_nil first rest)
    obtain ⟨best, found⟩ := Option.ne_none_iff_exists'.1 some_best
    have before := List.index_of_argmax found List.mem_cons_self
      (le_of_eq (same best (List.argmax_mem found)))
    rw [List.idxOf_cons_self] at before
    rw [found, leading before]
  · have some_worst : (first :: rest).argmin CohortOutcome.conversionRate ≠ none :=
      mt List.argmin_eq_none.1 (List.cons_ne_nil first rest)
    obtain ⟨worst, found⟩ := Option.ne_none_iff_exists'.1 some_worst
    have before := List.index_of_argmin found List.mem_cons_self
      (le_of_eq (same worst (List.argmin_mem found)).symm)
    rw [List.idxOf_cons_self] at before
    rw [found, leading before]

/-- With nothing to compare, the analysis proposes nothing. -/
theorem completes_analyze_level (level : ¬ Spread (db.comparable tenant)) :
    Completes oracle fault moment (analyze order tenant) db answered fun _ later _ =>
      later = db := by
  have unspread : ¬ Spread (compared order db tenant) := by
    rintro ⟨first, inside, second, present, apart⟩
    exact level ⟨first, mem_compared.1 inside, second, mem_compared.1 present, apart⟩
  have listed : (order.arrange (db.outcomes tenant)).filter
      (fun outcome => minSignal ≤ outcome.contacted) = compared order db tenant := rfl
  unfold analyze
  refine completes_bind (completes_query _ ?_)
  dsimp only
  rw [listed]
  cases outcomes : compared order db tenant with
  | nil => exact completes_pure _ rfl
  | cons first rest =>
      rw [outcomes] at unspread
      obtain ⟨best, worst⟩ := extremes_of_level unspread
      by_cases few : (first :: rest).length < 2
      · rw [if_pos few]
        exact completes_pure _ rfl
      · rw [if_neg few, best, worst]
        dsimp only
        rw [if_pos rfl]
        exact completes_pure _ rfl

/-- What an analysis that can compare proposes. -/
def proposing (db : Database) (tenant : String) (kind : ProposalKind) (payload : ProposalPayload)
    (key : String) : Prop :=
  (kind = .budgetShift ∧ IsShift (db.comparable tenant) payload ∧
      ∃ worst best, key = shiftKey worst best) ∨
    flagging (db.comparable tenant) kind payload key

theorem completes_cohortCap (name : String) :
    Completes oracle fault moment (Discovery.cohortCap name) db answered fun _ later taken =>
      later = db ∧ taken = answered + 1 :=
  completes_bind (completes_ask _ (completes_query _ ⟨rfl, rfl⟩))

theorem completes_analyze_spread (distinct : Distinct oracle) (unfiled : Unfiled oracle db answered)
    (spread : Spread (db.comparable tenant)) :
    Completes oracle fault moment (analyze order tenant) db answered fun _ later _ =>
      Files tenant moment.start.clock (proposing db tenant) db later ∧
      ∀ outcome ∈ db.comparable tenant, outcome.isDead = true →
        db.Remembers tenant moment.start.clock (deadKey outcome.cohortId) ∨
          later.Stands tenant moment.start.clock opportunity (deadKey outcome.cohortId) := by
  obtain ⟨first, inside, second, present, apart⟩ := spread
  have some_compared : compared order db tenant ≠ [] :=
    List.ne_nil_of_mem (mem_compared.2 inside)
  have some_best : (compared order db tenant).argmax CohortOutcome.conversionRate ≠ none :=
    mt List.argmax_eq_none.1 some_compared
  have some_worst : (compared order db tenant).argmin CohortOutcome.conversionRate ≠ none :=
    mt List.argmin_eq_none.1 some_compared
  obtain ⟨best, best_found⟩ := Option.ne_none_iff_exists'.1 some_best
  obtain ⟨worst, worst_found⟩ := Option.ne_none_iff_exists'.1 some_worst
  have most : ∀ outcome ∈ db.comparable tenant, outcome.conversionRate ≤ best.conversionRate :=
    fun outcome member => List.le_of_mem_argmax (mem_compared.2 member) best_found
  have least : ∀ outcome ∈ db.comparable tenant, worst.conversionRate ≤ outcome.conversionRate :=
    fun outcome member => List.le_of_mem_argmin (mem_compared.2 member) worst_found
  have best_in := mem_compared.1 (List.argmax_mem best_found)
  have worst_in := mem_compared.1 (List.argmin_mem worst_found)
  have differ : worst.cohortId ≠ best.cohortId := by
    intro same
    have equal : worst = best := by
      rw [← outcome_eq (List.mem_filter.1 worst_in).1, same,
        outcome_eq (List.mem_filter.1 best_in).1]
    rw [equal] at least
    apply apart
    exact (le_antisymm (most first inside) (least first inside)).trans
      (le_antisymm (most second present) (least second present)).symm
  have several : ¬ (compared order db tenant).length < 2 := by
    intro few
    have alone : (compared order db tenant).length = 1 := by
      have positive := List.length_pos_iff.2 some_compared
      omega
    obtain ⟨only, single⟩ := List.length_eq_one_iff.1 alone
    have one {outcome : CohortOutcome} (member : outcome ∈ db.comparable tenant) :
        outcome = only := by
      have listed : outcome ∈ compared order db tenant := mem_compared.2 member
      rw [single] at listed
      exact List.mem_singleton.1 listed
    exact differ (by rw [one worst_in, one best_in])
  have shifted : Completes oracle fault moment (proposeShift tenant best worst) db answered
      fun _ middle taken => Unfiled oracle middle taken ∧
        Files tenant moment.start.clock (proposing db tenant) db middle := by
    unfold proposeShift
    split
    · refine completes_bind ((completes_cohortCap _).mono ?_)
      rintro cap next taken - ⟨same, rfl⟩
      rw [same]
      have fresh : Unfiled oracle db (answered + 1) :=
        fun index later => unfiled index (by omega)
      have named : shiftKey worst.cohortId best.cohortId ≠ "" := by
        unfold shiftKey
        rw [String.append_assoc, String.append_assoc]
        exact key_ne_empty _ _ (by decide)
      refine (completes_propose distinct fresh named).mono ?_
      rintro _ middle taken - ⟨onward, files, -⟩
      refine ⟨onward, files.mono ?_⟩
      rintro kind payload key ⟨rfl, rfl, rfl⟩
      refine Or.inl ⟨rfl, ⟨worst, worst_in, best, best_in, _, rfl, differ, ?_⟩, _, _, rfl⟩
      intro outcome member
      exact ⟨least outcome member, most outcome member⟩
    · exact completes_pure _ ⟨unfiled, Files.refl⟩
  have listed : (order.arrange (db.outcomes tenant)).filter
      (fun outcome => minSignal ≤ outcome.contacted) = compared order db tenant := rfl
  unfold analyze
  refine completes_bind (completes_query _ ?_)
  dsimp only
  rw [listed, if_neg several, best_found, worst_found]
  dsimp only
  rw [if_neg (Ne.symm differ)]
  refine completes_bind (shifted.mono ?_)
  rintro _ middle taken - ⟨fresh, files⟩
  refine completes_bind ((completes_flagEach distinct _ fresh).mono ?_)
  rintro _ later total - ⟨-, others, flagged⟩
  have widened : Files tenant moment.start.clock (proposing db tenant) middle later := by
    apply others.mono
    rintro kind payload key ⟨same, outcome, member, under⟩
    exact Or.inr ⟨same, outcome, mem_compared.1 member, under⟩
  refine completes_pure _ ⟨files.trans widened, ?_⟩
  intro outcome member dead
  rcases flagged outcome (mem_compared.2 member) dead with ⟨kind, standing⟩ | standing
  · rcases files.stood standing with before | ⟨-, payload, filed | ⟨rfl, -⟩⟩
    · exact Or.inl ⟨kind, before⟩
    · obtain ⟨-, -, low, high, same⟩ := filed
      exact absurd same.symm (shiftKey_ne_deadKey _ _ _)
    · exact Or.inr (widened.stands standing)
  · exact Or.inr standing

theorem comparable_of_dead {outcome : CohortOutcome} (member : outcome ∈ db.outcomes tenant)
    (dead : outcome.isDead = true) : outcome ∈ db.comparable tenant := by
  unfold CohortOutcome.isDead at dead
  simp only [Bool.and_eq_true, decide_eq_true_eq] at dead
  refine List.mem_filter.2 ⟨member, decide_eq_true ?_⟩
  omega

/-- The analysis flags every dead cohort exactly where each of them is flagged already, or two
cohorts can be told apart and nothing else stands under its key. -/
theorem analyze_flags_iff (order : GroupOrder) (tenant : String) (distinct : Distinct oracle)
    (unfiled : Unfiled oracle db 0) :
    Completes oracle fault moment (analyze order tenant) db 0
        (fun _ later _ => Analyzed db tenant moment.start.clock later) ↔
      ∀ outcome ∈ db.outcomes tenant, outcome.isDead = true →
        db.Stands tenant moment.start.clock opportunity (deadKey outcome.cohortId) ∨
          Spread (db.comparable tenant) ∧
            ¬ db.Remembers tenant moment.start.clock (deadKey outcome.cohortId) := by
  by_cases spread : Spread (db.comparable tenant)
  · have known : Completes oracle fault moment (analyze order tenant) db 0 _ :=
      completes_analyze_spread distinct unfiled spread
    constructor
    · intro analyzed outcome member dead
      obtain ⟨_, later, _, -, -, holds, files, -⟩ := analyzed.and known
      rcases files.stood (holds.flags outcome member dead) with before | ⟨unknown, -⟩
      · exact Or.inl before
      · exact Or.inr ⟨spread, unknown⟩
    · intro condition
      apply known.mono
      rintro _ later _ - ⟨files, flagged⟩
      refine ⟨?_, ?_⟩
      · intro outcome member dead
        rcases condition outcome member dead with before | ⟨-, unknown⟩
        · exact files.stands before
        · exact (flagged outcome (comparable_of_dead member dead) dead).resolve_left unknown
      · intro id row present absent shift
        obtain ⟨key, -, -, ⟨-, holds, -⟩ | ⟨same, -⟩⟩ := files.added id row present absent
        · exact holds
        · rw [shift] at same
          cases same
  · have known : Completes oracle fault moment (analyze order tenant) db 0 _ :=
      completes_analyze_level spread
    constructor
    · intro analyzed outcome member dead
      obtain ⟨_, later, _, -, -, holds, rfl⟩ := analyzed.and known
      exact Or.inl (holds.flags outcome member dead)
    · intro condition
      apply known.mono
      rintro _ later _ - same
      rw [same]
      refine ⟨?_, ?_⟩
      · intro outcome member dead
        exact (condition outcome member dead).resolve_right fun both => spread both.1
      · intro id row present absent
        exact absurd (present.symm.trans absent) (Option.some_ne_none row)

/-- The table with so many more prospects of a cohort, all in one state. -/
def addProspects (prospects : Table Uuid Prospect) (start count : Nat) (cohortId : String)
    (state : ProspectState) : Table Uuid Prospect :=
  (List.range' start count).foldl
    (fun table id => table.insert id { sampleProspect with cohortId := cohortId, state := state })
    prospects

/-- The order in which the groups come out of the model. -/
def groupOrder : GroupOrder := ⟨id, fun _ => List.Perm.refl _⟩

/-- One cohort, with forty prospects contacted and nothing to show for it. -/
def loneDatabase : Database where
  clock := sampleClock
  tenants := Table.empty.insert 1 "acme"
  prospects := addProspects .empty 0 40 "austin" .contacted

/-- Beside it one that converts. -/
def pairedDatabase : Database :=
  { loneDatabase with
    prospects := addProspects loneDatabase.prospects 40 20 "dallas" .converted }

theorem lone_outcomes : loneDatabase.outcomes "acme" = [⟨"austin", 40, 0, 0⟩] := by
  decide +kernel

theorem paired_outcomes :
    pairedDatabase.outcomes "acme" = [⟨"austin", 40, 0, 0⟩, ⟨"dallas", 20, 20, 20⟩] := by
  decide +kernel

theorem unremembered_of_empty (empty : db.proposals = .empty) :
    ¬ db.Remembers tenant time key := by
  rintro ⟨kind, id, row, present, -⟩
  rw [empty, Table.lookup_empty] at present
  cases present

theorem paired_dead_cohort_flagged :
    Completes sampleOracle integrityError ⟨pairedDatabase, fun _ => false⟩
      (analyze groupOrder "acme") pairedDatabase 0
      fun _ later _ => Analyzed pairedDatabase "acme" pairedDatabase.clock later := by
  refine (analyze_flags_iff groupOrder "acme" sample_distinct fun _ _ => rfl).2 ?_
  intro outcome _ _
  refine Or.inr ⟨?_, unremembered_of_empty rfl⟩
  unfold Spread Database.comparable
  rw [paired_outcomes]
  exact ⟨⟨"austin", 40, 0, 0⟩, by decide, ⟨"dallas", 20, 20, 20⟩, by decide, by decide +kernel⟩

/-- With nothing to compare it to, the dead cohort is not flagged. -/
theorem lone_dead_cohort_unflagged :
    (⟨"austin", 40, 0, 0⟩ : CohortOutcome) ∈ loneDatabase.outcomes "acme" ∧
    Completes sampleOracle integrityError ⟨loneDatabase, fun _ => false⟩
      (analyze groupOrder "acme") loneDatabase 0 (fun _ later _ => later = loneDatabase) ∧
    ¬ Completes sampleOracle integrityError ⟨loneDatabase, fun _ => false⟩
      (analyze groupOrder "acme") loneDatabase 0
      fun _ later _ => Analyzed loneDatabase "acme" loneDatabase.clock later := by
  have listed : (⟨"austin", 40, 0, 0⟩ : CohortOutcome) ∈ loneDatabase.outcomes "acme" := by
    rw [lone_outcomes]
    exact List.mem_cons_self
  have level : ¬ Spread (loneDatabase.comparable "acme") := by
    unfold Spread Database.comparable
    rw [lone_outcomes]
    decide +kernel
  have idle : Completes sampleOracle integrityError ⟨loneDatabase, fun _ => false⟩
      (analyze groupOrder "acme") loneDatabase 0 fun _ later _ => later = loneDatabase :=
    completes_analyze_level level
  refine ⟨listed, idle, ?_⟩
  intro analyzed
  obtain ⟨_, later, _, -, -, holds, rfl⟩ := analyzed.and idle
  exact unremembered_of_empty rfl ⟨_, holds.flags _ listed rfl⟩

end Analysis

section Rebalancing

/-- The calls of `wilson_upper` that a scan makes for the cohort. -/
def wilsonCalls (outcomes : List CohortOutcome) (replies : String → Nat) (cohort : CohortSpec) :
    List (Nat × Nat) :=
  match cohort.floors, outcomes.find? fun outcome => outcome.cohortId = cohort.id with
  | some floors, some outcome =>
      if outcome.contacted < floors.minTrials then []
      else (floors.conversionRate.map fun _ => (outcome.converted, outcome.contacted)).toList ++
        (floors.replyRate.map fun _ => (replies cohort.id, outcome.contacted)).toList
  | _, _ => []

/-- The square root is taken of no negative number. -/
def HasRoots (calls : List (Nat × Nat)) : Prop :=
  ∀ call ∈ calls, 0 < call.2 → 0 ≤ radicand call.1 call.2

/-- So many replies and no more: the bound on `successes` that the formula can take. -/
def Bounded (successes trials : Nat) : Prop :=
  4 * (successes : Rat) * (successes - trials) ≤ wilsonZ * wilsonZ * trials

theorem radicand_nonneg_iff {successes trials : Nat} (positive : 0 < trials) :
    0 ≤ radicand successes trials ↔ Bounded successes trials := by
  have some_trials : (0 : Rat) < trials := Nat.cast_pos.2 positive
  have whole : radicand successes trials =
      (wilsonZ * wilsonZ * trials - 4 * (successes : Rat) * (successes - trials)) /
        (4 * (trials : Rat) ^ 3) := by
    unfold radicand
    field_simp
    ring
  unfold Bounded
  rw [whole, le_div_iff₀ (by positivity), zero_mul, sub_nonneg]

theorem bounded_of_le {successes trials : Nat} (few : successes ≤ trials) :
    Bounded successes trials := by
  have within : (successes : Rat) ≤ trials := Nat.cast_le.2 few
  have left : 4 * (successes : Rat) * (successes - trials) ≤ 0 :=
    mul_nonpos_of_nonneg_of_nonpos (by positivity) (sub_nonpos.2 within)
  have right : 0 ≤ wilsonZ * wilsonZ * (trials : Rat) :=
    mul_nonneg (mul_self_nonneg _) (Nat.cast_nonneg _)
  exact left.trans right

variable {root : Rat → Rat} {order : GroupOrder}

theorem breaches_ok_iff (floor : Option Rat) (successes trials : Nat) :
    (∃ found, breaches root floor successes trials = .ok found) ↔
      (floor ≠ none → 0 < trials → 0 ≤ radicand successes trials) := by
  cases floor with
  | none => exact iff_of_true ⟨false, rfl⟩ fun absurdity => absurd rfl absurdity
  | some rate =>
      unfold breaches wilsonUpper sqrt
      by_cases empty : trials = 0
      · subst empty
        exact iff_of_true ⟨_, rfl⟩ fun _ positive => absurd positive (Nat.lt_irrefl 0)
      · have positive : 0 < trials := Nat.pos_of_ne_zero empty
        simp only [if_neg empty]
        by_cases negative : radicand successes trials < 0
        · simp only [if_pos negative]
          refine iff_of_false ?_ ?_
          · rintro ⟨found, raised⟩
            cases raised
          · intro rooted
            exact absurd (rooted (Option.some_ne_none _) positive) (not_le.2 negative)
        · simp only [if_neg negative]
          exact iff_of_true ⟨_, rfl⟩ fun _ _ => not_lt.1 negative

variable {outcomes : List CohortOutcome} {replies : String → Nat}

/-- A pass of the loop returns where every square root can be taken, and raises elsewhere. -/
theorem completes_rebalance (distinct : Distinct oracle) (unfiled : Unfiled oracle db answered)
    {cohort : CohortSpec} (rooted : HasRoots (wilsonCalls outcomes replies cohort)) :
    Completes oracle fault moment (rebalance root tenant outcomes replies cohort) db answered
      fun _ later taken => Unfiled oracle later taken := by
  unfold rebalance
  unfold wilsonCalls HasRoots at rooted
  split
  case h_2 => exact completes_pure _ unfiled
  case h_1 floors outcome floored found =>
    simp only [floored, found] at rooted
    by_cases few : outcome.contacted < floors.minTrials
    · rw [if_pos few]
      exact completes_pure _ unfiled
    · rw [if_neg few] at rooted ⊢
      have converted : ∃ found, breaches root floors.conversionRate outcome.converted
          outcome.contacted = .ok found := by
        apply (breaches_ok_iff _ _ _).2
        intro asked positive
        obtain ⟨rate, some_rate⟩ := Option.ne_none_iff_exists'.1 asked
        exact rooted (outcome.converted, outcome.contacted) (by simp [some_rate]) positive
      have answered : ∃ found, breaches root floors.replyRate (replies cohort.id)
          outcome.contacted = .ok found := by
        apply (breaches_ok_iff _ _ _).2
        intro asked positive
        obtain ⟨rate, some_rate⟩ := Option.ne_none_iff_exists'.1 asked
        exact rooted (replies cohort.id, outcome.contacted) (by simp [some_rate]) positive
      obtain ⟨converting, converts⟩ := converted
      obtain ⟨replying, answers⟩ := answered
      rw [converts, answers]
      refine completes_bind (completes_ofExcept _ (completes_bind (completes_ofExcept _ ?_)))
      split
      · exact completes_pure _ unfiled
      · refine completes_bind ((completes_cohortCap _).mono ?_)
        rintro cap next taken - ⟨same, rfl⟩
        rw [same]
        have fresh : Unfiled oracle db (answered + 1) :=
          fun index later => unfiled index (by omega)
        refine (completes_propose distinct fresh (key_ne_empty _ _ (by decide))).mono ?_
        rintro _ later total - ⟨onward, -⟩
        exact onward

/-- What the rates of a cohort are taken of. -/
theorem of_mem_wilsonCalls {cohort : CohortSpec} {call : Nat × Nat}
    (asked : call ∈ wilsonCalls outcomes replies cohort) :
    ∃ floors outcome, cohort.floors = some floors ∧
      (outcomes.find? fun outcome => outcome.cohortId = cohort.id) = some outcome ∧
      ¬ outcome.contacted < floors.minTrials ∧
      ((∃ rate, floors.conversionRate = some rate ∧ call = (outcome.converted, outcome.contacted)) ∨
        ∃ rate, floors.replyRate = some rate ∧ call = (replies cohort.id, outcome.contacted)) := by
  unfold wilsonCalls at asked
  split at asked
  case h_2 => exact absurd asked List.not_mem_nil
  case h_1 floors outcome floored found =>
    by_cases few : outcome.contacted < floors.minTrials
    · rw [if_pos few] at asked
      exact absurd asked List.not_mem_nil
    · rw [if_neg few, List.mem_append, Option.mem_toList, Option.mem_toList,
        Option.map_eq_some_iff, Option.map_eq_some_iff] at asked
      refine ⟨floors, outcome, floored, found, few, ?_⟩
      rcases asked with ⟨rate, same, rfl⟩ | ⟨rate, same, rfl⟩
      · exact Or.inl ⟨rate, same, rfl⟩
      · exact Or.inr ⟨rate, same, rfl⟩

theorem rebalance_raises {cohort : CohortSpec} {alone : Alone Database}
    (rootless : ¬ HasRoots (wilsonCalls outcomes replies cohort)) :
    ∃ error, solo oracle fault moment (rebalance root tenant outcomes replies cohort) alone =
      (.error error, alone) := by
  unfold HasRoots at rootless
  simp only [not_forall, not_le, exists_prop] at rootless
  obtain ⟨call, asked, positive, negative⟩ := rootless
  obtain ⟨floors, outcome, floored, found, few, taken⟩ := of_mem_wilsonCalls asked
  unfold rebalance
  simp only [floored, found]
  rw [if_neg few, solo_bind, solo_ofExcept]
  cases converts : breaches root floors.conversionRate outcome.converted outcome.contacted with
  | error error => exact ⟨error, rfl⟩
  | ok converting =>
      have sound := (breaches_ok_iff _ _ _).1 ⟨converting, converts⟩
      rcases taken with ⟨rate, some_rate, rfl⟩ | ⟨rate, some_rate, rfl⟩
      · have nonneg := sound (Option.ne_none_iff_exists'.2 ⟨rate, some_rate⟩) positive
        exact absurd nonneg (not_le.2 negative)
      · dsimp only
        rw [solo_bind, solo_ofExcept]
        cases answers : breaches root floors.replyRate (replies cohort.id) outcome.contacted with
        | error error => exact ⟨error, rfl⟩
        | ok replying =>
            have nonneg := (breaches_ok_iff _ _ _).1 ⟨replying, answers⟩
              (Option.ne_none_iff_exists'.2 ⟨rate, some_rate⟩) positive
            exact absurd nonneg (not_le.2 negative)

theorem completes_rebalanceEach (distinct : Distinct oracle) (unfiled : Unfiled oracle db answered)
    (cohorts : List CohortSpec)
    (rooted : ∀ cohort ∈ cohorts, HasRoots (wilsonCalls outcomes replies cohort)) :
    Completes oracle fault moment (rebalanceEach root tenant outcomes replies cohorts) db answered
      fun _ _ _ => True := by
  induction cohorts generalizing db answered with
  | nil => exact completes_pure _ trivial
  | cons first rest induction =>
      have visited : Completes oracle fault moment (rebalance root tenant outcomes replies first)
          db answered fun _ later taken => Unfiled oracle later taken :=
        completes_rebalance distinct unfiled (rooted first List.mem_cons_self)
      refine completes_bind (visited.mono ?_)
      intro _ middle taken _ fresh
      refine completes_bind ((induction fresh ?_).mono fun _ _ _ _ _ => completes_pure _ trivial)
      exact fun cohort member => rooted cohort (List.mem_cons_of_mem _ member)

theorem rebalanceEach_raises (distinct : Distinct oracle) (unfiled : Unfiled oracle db answered)
    (cohorts : List CohortSpec)
    (rootless : ¬ ∀ cohort ∈ cohorts, HasRoots (wilsonCalls outcomes replies cohort)) :
    ∃ error later, solo oracle fault moment (rebalanceEach root tenant outcomes replies cohorts)
      ⟨db, answered, false⟩ = (.error error, later) := by
  induction cohorts generalizing db answered with
  | nil => exact absurd nofun rootless
  | cons first rest induction =>
      unfold rebalanceEach
      rw [solo_bind]
      by_cases rooted : HasRoots (wilsonCalls outcomes replies first)
      · have visited : Completes oracle fault moment
            (rebalance root tenant outcomes replies first) db answered
            fun _ later taken => Unfiled oracle later taken :=
          completes_rebalance distinct unfiled rooted
        obtain ⟨proposed, middle, taken, ended, -, fresh⟩ := visited
        have others : ¬ ∀ cohort ∈ rest, HasRoots (wilsonCalls outcomes replies cohort) :=
          fun every => rootless (List.forall_mem_cons.2 ⟨rooted, every⟩)
        obtain ⟨error, later, raised⟩ := induction fresh others
        refine ⟨error, later, ?_⟩
        rw [ended]
        dsimp only
        rw [solo_bind, raised]
      · have raises : ∃ error, solo oracle fault moment
            (rebalance root tenant outcomes replies first) ⟨db, answered, false⟩ =
              (.error error, ⟨db, answered, false⟩) := rebalance_raises rooted
        obtain ⟨error, raised⟩ := raises
        rw [raised]
        exact ⟨error, _, rfl⟩

theorem converted_le_contacted (rows : List Prospect) (name : String) :
    (outcomeIn rows name).converted ≤ (outcomeIn rows name).contacted := by
  apply List.countP_mono_left
  intro row _ among
  simp only [Bool.and_eq_true, decide_eq_true_eq] at among ⊢
  refine ⟨among.1, ?_⟩
  rw [among.2]
  rfl

/-- The prospects of a cohort that have been contacted. -/
def Database.contactedIn (db : Database) (tenant cohortId : String) : Nat :=
  countIn (db.ofTenant tenant) cohortId ProspectState.wasContacted

/-- A cohort is found among the outcomes with its own, in whatever order. -/
theorem find_outcome {outcome : CohortOutcome}
    (found : (order.arrange (db.outcomes tenant)).find? (fun outcome =>
      outcome.cohortId = cohortId) = some outcome) :
    outcome = outcomeIn (db.ofTenant tenant) cohortId := by
  have named := List.find?_some found
  rw [decide_eq_true_eq] at named
  have member := (order.arrange_perm _).mem_iff.1 (List.mem_of_find?_eq_some found)
  rw [← named, outcome_eq member]

theorem found_of_contacted (some_contacted : 0 < db.contactedIn tenant cohortId) :
    (order.arrange (db.outcomes tenant)).find? (fun outcome => outcome.cohortId = cohortId) =
      some (outcomeIn (db.ofTenant tenant) cohortId) := by
  obtain ⟨row, member, among⟩ := List.countP_pos_iff.1 some_contacted
  rw [Bool.and_eq_true, decide_eq_true_eq] at among
  have listed : outcomeIn (db.ofTenant tenant) cohortId ∈ order.arrange (db.outcomes tenant) := by
    rw [(order.arrange_perm _).mem_iff]
    apply List.mem_map_of_mem
    rw [List.mem_dedup, ← among.1]
    exact List.mem_map_of_mem member
  cases found : (order.arrange (db.outcomes tenant)).find? fun outcome =>
      outcome.cohortId = cohortId with
  | none =>
      have missed := List.find?_eq_none.1 found _ listed
      exact absurd (decide_eq_true rfl) missed
  | some outcome => rw [find_outcome found]

/-- The calls for a cohort have their roots as long as its replies keep within the bound. -/
theorem hasRoots_iff (cohort : CohortSpec) :
    HasRoots (wilsonCalls (order.arrange (db.outcomes tenant)) (db.repliesOf tenant) cohort) ↔
      ∀ floors, cohort.floors = some floors → floors.replyRate ≠ none →
        floors.minTrials ≤ db.contactedIn tenant cohort.id →
        Bounded (db.repliesOf tenant cohort.id) (db.contactedIn tenant cohort.id) := by
  constructor
  · intro rooted floors floored asked enough
    have positive : 0 < db.contactedIn tenant cohort.id := by
      have least := floors.trials_ge
      omega
    obtain ⟨rate, some_rate⟩ := Option.ne_none_iff_exists'.1 asked
    have called : (db.repliesOf tenant cohort.id, db.contactedIn tenant cohort.id) ∈
        wilsonCalls (order.arrange (db.outcomes tenant)) (db.repliesOf tenant) cohort := by
      have short : ¬ (outcomeIn (db.ofTenant tenant) cohort.id).contacted < floors.minTrials :=
        Nat.not_lt.2 enough
      unfold wilsonCalls
      rw [floored, found_of_contacted positive]
      dsimp only
      rw [if_neg short, some_rate]
      exact List.mem_append_right _ List.mem_cons_self
    have nonneg := rooted _ called positive
    exact (radicand_nonneg_iff positive).1 nonneg
  · intro within call asked positive
    obtain ⟨floors, outcome, floored, found, few, taken⟩ := of_mem_wilsonCalls asked
    obtain rfl := find_outcome found
    rcases taken with ⟨rate, -, rfl⟩ | ⟨rate, some_rate, rfl⟩
    · exact (radicand_nonneg_iff positive).2 (bounded_of_le (converted_le_contacted _ _))
    · exact (radicand_nonneg_iff positive).2 (within floors floored
        (Option.ne_none_iff_exists'.2 ⟨rate, some_rate⟩) (Nat.not_lt.1 few))

/-- No cohort with a floor under its reply rate has more replies to the prospects it contacted
than the formula allows for. -/
def RepliesBounded {runtime : Runtime} (db : Database) (config : TenantConfig runtime) : Prop :=
  ∀ cohort ∈ config.cohorts, ∀ floors, cohort.floors = some floors → floors.replyRate ≠ none →
    floors.minTrials ≤ db.contactedIn config.tenant cohort.id →
    Bounded (db.repliesOf config.tenant cohort.id) (db.contactedIn config.tenant cohort.id)

/-- Every call of the scan has its root, and the scan returns, exactly where the replies are
bounded. -/
theorem rebalance_scan_completes_iff {runtime : Runtime} (root : Rat → Rat) (order : GroupOrder)
    (config : TenantConfig runtime) (distinct : Distinct oracle) (unfiled : Unfiled oracle db 0) :
    ((∀ cohort ∈ config.cohorts, HasRoots (wilsonCalls
        (order.arrange (db.outcomes config.tenant)) (db.repliesOf config.tenant) cohort)) ↔
      RepliesBounded db config) ∧
    (Completes oracle fault moment (rebalanceScan root order config) db 0 (fun _ _ _ => True) ↔
      RepliesBounded db config) := by
  have rooted_iff : (∀ cohort ∈ config.cohorts, HasRoots (wilsonCalls
        (order.arrange (db.outcomes config.tenant)) (db.repliesOf config.tenant) cohort)) ↔
      RepliesBounded db config :=
    forall₂_congr fun cohort _ => hasRoots_iff cohort
  refine ⟨rooted_iff, ?_, ?_⟩
  · intro completes
    by_contra unbounded
    have rootless := mt rooted_iff.1 unbounded
    have raises : ∃ error later, solo oracle fault moment
        (rebalanceEach root config.tenant (order.arrange (db.outcomes config.tenant))
          (db.repliesOf config.tenant) config.cohorts) ⟨db, 0, false⟩ = (.error error, later) :=
      rebalanceEach_raises distinct unfiled config.cohorts rootless
    obtain ⟨error, later, raised⟩ := raises
    obtain ⟨ids, last, taken, ended, -⟩ := completes
    unfold rebalanceScan cohortOutcomes replyCounts at ended
    rw [solo_bind, solo_query] at ended
    dsimp only at ended
    rw [solo_bind, solo_query] at ended
    dsimp only at ended
    rw [raised] at ended
    cases ended
  · intro bounded
    unfold rebalanceScan
    refine completes_bind (completes_query _ (completes_bind (completes_query _ ?_)))
    exact completes_rebalanceEach distinct unfiled _ (rooted_iff.2 bounded)

/-- A floor under the reply rate of the sample cohort. -/
def flooredConfig : TenantConfig plainRuntime :=
  { acmeConfig with
    personas := [{ quietPersona with
      cohorts := [{
        id := "austin"
        sources := []
        floors := some { replyRate := some (1 / 20), minTrials := 5 } }] }] }

/-- The sample prospect and four others have been contacted. -/
def contactedWorld : World where
  committed :=
    { dispatchedDatabase with
      prospects := addProspects dispatchedDatabase.prospects 40 4 "austin" .contacted }

/-- The sample prospect answers once and again. -/
def sixReplies : List Move :=
  [begin (.ingestEvents [sampleEvent "event-1" .reply]), go 0 11 401,
    begin (.ingestEvents [sampleEvent "event-2" .reply]), go 1 10 402,
    begin (.ingestEvents [sampleEvent "event-3" .reply]), go 2 10 403,
    begin (.ingestEvents [sampleEvent "event-4" .reply]), go 3 10 404,
    begin (.ingestEvents [sampleEvent "event-5" .reply]), go 4 10 405,
    begin (.ingestEvents [sampleEvent "event-6" .reply]), go 5 10 406]

/-- What a scan of the sample configuration fails with, if it does. -/
def scanError (db : Database) : Option Exc :=
  match (solo sampleOracle integrityError ⟨db, fun _ => false⟩
      (rebalanceScan id groupOrder flooredConfig) ⟨db, 0, false⟩).1 with
  | .ok _ => none
  | .error error => some error

theorem answered_scan_completes :
    Completes sampleOracle integrityError ⟨contactedWorld.committed, fun _ => false⟩
      (rebalanceScan id groupOrder flooredConfig) contactedWorld.committed 0 fun _ _ _ => True := by
  refine (rebalance_scan_completes_iff id groupOrder flooredConfig sample_distinct
    fun _ _ => rfl).2.2 ?_
  intro cohort _ _ _ _ _
  have unanswered : contactedWorld.committed.repliesOf "acme" cohort.id = 0 := rfl
  change Bounded (contactedWorld.committed.repliesOf "acme" cohort.id) _
  rw [unanswered]
  exact bounded_of_le (Nat.zero_le _)

/-- One prospect of five that answers six times is enough to stop the scan. -/
theorem many_replies_stop_scan : ∃ world,
    Run sampleDeployment unrestricted contactedWorld world ∧
    world.committed.contactedIn "acme" "austin" = 5 ∧
    world.committed.repliesOf "acme" "austin" = 6 ∧
    radicand 6 5 < 0 ∧ scanError world.committed = some ⟨.valueError, "math domain error"⟩ ∧
    ¬ Completes sampleOracle integrityError ⟨world.committed, fun _ => false⟩
      (rebalanceScan id groupOrder flooredConfig) world.committed 0 fun _ _ _ => True := by
  have tried : ((service sampleDeployment).script sixReplies contactedWorld).any (fun world =>
      world.committed.contactedIn "acme" "austin" = 5 &&
        world.committed.repliesOf "acme" "austin" = 6 &&
        scanError world.committed = some ⟨.valueError, "math domain error"⟩) = true := by
    decide +kernel
  obtain ⟨world, played, seen⟩ := (Option.any_eq_true _ _).1 tried
  simp only [Bool.and_eq_true, decide_eq_true_eq] at seen
  obtain ⟨⟨contacted, replied⟩, failed⟩ := seen
  refine ⟨world, run_of_further played, contacted, replied, by decide +kernel, failed, ?_⟩
  rintro ⟨ids, later, taken, ended, -⟩
  unfold scanError at failed
  rw [ended] at failed
  cases failed


end Rebalancing

end OpenReachout
