import OpenReachout.Core.Metrics
import OpenReachout.Properties.Runs
import Mathlib.Algebra.BigOperators.Group.List.Lemmas

/-!
# The reported numbers

The contacted, the replies and the converted of a cohort as the four reports count them.
A cohort without a row in a report counts for nothing there.
-/

namespace OpenReachout

open Relational

set_option autoImplicit false

section Counting

theorem countP_eq_iff_of_imp {Item : Type} {narrow wide : Item → Bool} {items : List Item}
    (sub : ∀ item ∈ items, narrow item = true → wide item = true) :
    items.countP narrow = items.countP wide ↔
      ∀ item ∈ items, wide item = true → narrow item = true := by
  induction items with
  | nil => exact iff_of_true rfl (fun item member => absurd member List.not_mem_nil)
  | cons first rest induction =>
      have sub_rest : ∀ item ∈ rest, narrow item = true → wide item = true :=
        fun item member => sub item (List.mem_cons_of_mem _ member)
      have bound : rest.countP narrow ≤ rest.countP wide := List.countP_mono_left sub_rest
      rw [List.countP_cons, List.countP_cons, List.forall_mem_cons, ← induction sub_rest]
      cases inside : narrow first with
      | true => simp [sub first List.mem_cons_self inside]
      | false =>
          cases outside : wide first with
          | true =>
              simp
              omega
          | false => simp

/-- The counts of the states, added up over some of them. -/
theorem sum_byState (rows : List Prospect) (chosen : ProspectState → Bool) :
    (((byState rows).filter fun count => chosen count.1).map Prod.snd).sum =
      rows.countP fun row => chosen row.state := by
  have counted : ∀ state, (rows.countP fun row => row.state = state) =
      (rows.map Prospect.state).count state := by
    intro state
    rw [List.count_eq_countP, List.countP_map]
    apply List.countP_congr
    intro row _
    simp
  have states := List.sum_map_count_dedup_filter_eq_countP chosen (rows.map Prospect.state)
  rw [List.countP_map] at states
  unfold byState
  rw [List.filter_map, List.map_map]
  simp only [Function.comp_def, counted]
  exact states

theorem lookup_byState (rows : List Prospect) (state : ProspectState) :
    ((byState rows).lookup state).getD 0 = rows.countP fun row => row.state = state := by
  have listed : ∀ states : List ProspectState,
      (states.map fun state => (state, rows.countP fun row => row.state = state)).lookup state =
        if state ∈ states then some (rows.countP fun row => row.state = state) else none := by
    intro states
    induction states with
    | nil => rfl
    | cons first rest induction =>
        rw [List.map_cons, List.lookup_cons, induction]
        by_cases here : state = first
        · simp [here]
        · have apart : (state == first) = false := by
            simpa using here
          rw [apart]
          simp [here]
  unfold byState
  rw [listed]
  by_cases present : state ∈ (rows.map Prospect.state).dedup
  · rw [if_pos present]
    rfl
  · rw [if_neg present]
    symm
    apply List.countP_eq_zero.2
    intro row member same
    exact present (List.mem_dedup.2 (List.mem_map.2 ⟨row, member, of_decide_eq_true same⟩))

/-- A row that is found by its key is made from it. -/
theorem find_row {Row : Type} {rows : List Row} {key : Row → String} {make : String → Row}
    (made : ∀ row ∈ rows, make (key row) = row) (id : String) :
    (rows.find? fun row => key row = id) = if id ∈ rows.map key then some (make id) else none := by
  induction rows with
  | nil => rfl
  | cons first rest induction =>
      rw [List.find?_cons, List.map_cons]
      by_cases here : key first = id
      · have same : make id = first := by
          rw [← here]
          exact made first List.mem_cons_self
        simp [here, same]
      · rw [induction fun row member => made row (List.mem_cons_of_mem _ member)]
        have apart : id ≠ key first := fun equal => here equal.symm
        simp [here, apart]

theorem lookup_map {Row Value : Type} (key : Row → String) (value : Row → Value) (id : String)
    (rows : List Row) : (rows.map fun row => (key row, value row)).lookup id =
      (rows.find? fun row => key row = id).map value := by
  induction rows with
  | nil => rfl
  | cons first rest induction =>
      rw [List.map_cons, List.lookup_cons, List.find?_cons, induction]
      by_cases here : key first = id
      · simp [here]
      · have apart : (id == key first) = false := by
          simpa using fun equal : id = key first => here equal.symm
        rw [apart]
        simp [here]

end Counting

section Reports

variable (collation : Collation) (order : GroupOrder) (groups : RowOrder CampaignRow)
  (intents : RowOrder (String × Nat)) (llm : Option (CampaignFindings → ResearchNarrative))
  (directive : String) (db : Database) (tenant cohortId : String)

/-- The row of a cohort in `cohorts`. -/
def summaryOf : Option CohortSummary :=
  (cohorts collation db tenant).find? fun row => row.cohortId = cohortId

/-- The row of a cohort in `cohort_outcomes`. -/
def outcomeOf : Option CohortOutcome :=
  (order.arrange (db.outcomes tenant)).find? fun row => row.cohortId = cohortId

/-- What the campaign note finds of a cohort: how many were reached, and how many converted. -/
def notedOf : Option (Nat × Nat) :=
  (refreshCampaignNote groups intents db tenant llm directive).findings.cohorts.lookup cohortId

structure NumbersAgree : Prop where
  contacted_cohorts : (funnel db tenant (some cohortId)).contacted =
    ((summaryOf collation db tenant cohortId).map CohortSummary.contacted).getD 0
  contacted_outcomes : (funnel db tenant (some cohortId)).contacted =
    ((outcomeOf order db tenant cohortId).map CohortOutcome.contacted).getD 0
  contacted_note : (funnel db tenant (some cohortId)).contacted =
    ((notedOf groups intents llm directive db tenant cohortId).map Prod.fst).getD 0
  replies_cohorts : (funnel db tenant (some cohortId)).replies =
    ((summaryOf collation db tenant cohortId).map CohortSummary.replies).getD 0
  converted_cohorts : (funnel db tenant (some cohortId)).converted =
    ((summaryOf collation db tenant cohortId).map CohortSummary.converted).getD 0
  converted_outcomes : (funnel db tenant (some cohortId)).converted =
    ((outcomeOf order db tenant cohortId).map CohortOutcome.converted).getD 0
  converted_note : (funnel db tenant (some cohortId)).converted =
    ((notedOf groups intents llm directive db tenant cohortId).map Prod.snd).getD 0

/-- No prospect of the cohort is lost before it is contacted, or forgotten, and no other
tenant has a cohort of that name with replies. -/
structure Apart : Prop where
  unlost : ∀ row ∈ db.ofTenant tenant, row.cohortId = cohortId →
    row.state ≠ .disqualified ∧ row.state ≠ .unenrichable ∧ row.state ≠ .forgotten
  own : (∃ row ∈ db.ofTenant tenant, row.cohortId = cohortId) →
    ∀ id reply row, db.replies.lookup id = some reply →
      db.prospects.lookup reply.prospectId = some row → row.cohortId = cohortId →
        db.tenants.lookup row.tenantId = some tenant

variable {collation order groups intents llm directive db tenant cohortId}

theorem funnel_contacted : (funnel db tenant (some cohortId)).contacted =
    countIn (db.ofTenant tenant) cohortId ProspectState.wasContacted := by
  have fourth : (funnel db tenant (some cohortId)).contacted =
      (((byState ((db.ofTenant tenant).filter fun row =>
        row.state ≠ .forgotten && inCohort (some cohortId) row)).filter fun count =>
          decide (4 ≤ count.1.stage)).map Prod.snd).sum := rfl
  have total := sum_byState ((db.ofTenant tenant).filter fun row =>
    row.state ≠ .forgotten && inCohort (some cohortId) row) fun state => decide (4 ≤ state.stage)
  rw [fourth, total, List.countP_filter]
  apply List.countP_congr
  intro row _
  cases row.state <;> simp [ProspectState.stage, ProspectState.wasContacted, inCohort]

theorem funnel_converted : (funnel db tenant (some cohortId)).converted =
    countIn (db.ofTenant tenant) cohortId fun state => state = .converted := by
  unfold funnel
  dsimp only
  rw [lookup_byState, List.countP_filter]
  apply List.countP_congr
  intro row _
  cases row.state <;> simp [inCohort]

/-- A cohort without prospects counts for nothing. -/
theorem countIn_of_absent {rows : List Prospect} (absent : cohortId ∉ rows.map Prospect.cohortId)
    (holds : ProspectState → Bool) : countIn rows cohortId holds = 0 := by
  apply List.countP_eq_zero.2
  intro row member inside
  rw [Bool.and_eq_true, decide_eq_true_eq] at inside
  exact absent (List.mem_map.2 ⟨row, member, inside.1⟩)

/-- The prospects of the tenant that are not forgotten. -/
def livingRows (db : Database) (tenant : String) : List Prospect :=
  (db.ofTenant tenant).filter fun row => row.state ≠ .forgotten

theorem summaryOf_eq : summaryOf collation db tenant cohortId =
    if cohortId ∈ (livingRows db tenant).map Prospect.cohortId then
      some (summaryIn collation db (livingRows db tenant) cohortId)
    else none := by
  have made : ∀ row ∈ cohorts collation db tenant,
      summaryIn collation db (livingRows db tenant) row.cohortId = row := by
    intro row member
    obtain ⟨id, _, rfl⟩ := List.mem_map.1 member
    rfl
  have present : cohortId ∈ (cohorts collation db tenant).map CohortSummary.cohortId ↔
      cohortId ∈ (livingRows db tenant).map Prospect.cohortId := by
    unfold cohorts
    rw [List.map_map, ← List.mem_dedup (l := (livingRows db tenant).map Prospect.cohortId)]
    change cohortId ∈ List.map id _ ↔ _
    rw [List.map_id]
    exact (List.mergeSort_perm _ _).mem_iff
  unfold summaryOf
  rw [find_row made]
  by_cases there : cohortId ∈ (livingRows db tenant).map Prospect.cohortId
  · rw [if_pos there, if_pos (present.2 there)]
  · rw [if_neg there, if_neg fun inside => there (present.1 inside)]

theorem summary_count {count : CohortSummary → Nat} {holds : ProspectState → Bool}
    (counts : ∀ rows, count (summaryIn collation db rows cohortId) = countIn rows cohortId holds) :
    ((summaryOf collation db tenant cohortId).map count).getD 0 =
      countIn (livingRows db tenant) cohortId holds := by
  rw [summaryOf_eq]
  by_cases there : cohortId ∈ (livingRows db tenant).map Prospect.cohortId
  · rw [if_pos there]
    exact counts _
  · rw [if_neg there, countIn_of_absent there]
    rfl

theorem outcome_count {count : CohortOutcome → Nat} {holds : ProspectState → Bool}
    (counts : ∀ rows, count (outcomeIn rows cohortId) = countIn rows cohortId holds) :
    ((outcomeOf order db tenant cohortId).map count).getD 0 =
      countIn (db.ofTenant tenant) cohortId holds := by
  have made : ∀ row ∈ order.arrange (db.outcomes tenant),
      outcomeIn (db.ofTenant tenant) row.cohortId = row := by
    intro row member
    rw [(order.arrange_perm _).mem_iff] at member
    obtain ⟨id, _, rfl⟩ := List.mem_map.1 member
    rfl
  have present : cohortId ∈ (order.arrange (db.outcomes tenant)).map CohortOutcome.cohortId ↔
      cohortId ∈ (db.ofTenant tenant).map Prospect.cohortId := by
    rw [((order.arrange_perm _).map _).mem_iff]
    unfold Database.outcomes
    rw [List.map_map]
    change cohortId ∈ List.map id _ ↔ _
    rw [List.map_id, List.mem_dedup]
  unfold outcomeOf
  rw [find_row made]
  by_cases there : cohortId ∈ (db.ofTenant tenant).map Prospect.cohortId
  · rw [if_pos (present.2 there)]
    exact counts _
  · rw [if_neg fun inside => there (present.1 inside), countIn_of_absent there]
    rfl

theorem note_count {count : Nat × Nat → Nat} {holds : ProspectState → Bool}
    (counts : ∀ rows, count ((campaignRow rows cohortId).reached, (campaignRow rows cohortId).converted) =
      countIn rows cohortId holds) :
    ((notedOf groups intents llm directive db tenant cohortId).map count).getD 0 =
      countIn (db.ofTenant tenant) cohortId holds := by
  have found : (refreshCampaignNote groups intents db tenant llm directive).findings.cohorts =
      (campaignRows groups db tenant).map fun row => (row.cohortId, row.reached, row.converted) := by
    unfold refreshCampaignNote
    cases llm with
    | none => rfl
    | some complete =>
        dsimp only [Option.map_some]
        split_ifs
        · rfl
        · rfl
  have rows_perm : (campaignRows groups db tenant).Perm
      (((db.ofTenant tenant).map Prospect.cohortId).dedup.map (campaignRow (db.ofTenant tenant))) :=
    (List.mergeSort_perm _ _).trans (groups.arrange_perm _)
  have made : ∀ row ∈ campaignRows groups db tenant,
      campaignRow (db.ofTenant tenant) row.cohortId = row := by
    intro row member
    rw [rows_perm.mem_iff] at member
    obtain ⟨id, _, rfl⟩ := List.mem_map.1 member
    rfl
  have present : cohortId ∈ (campaignRows groups db tenant).map CampaignRow.cohortId ↔
      cohortId ∈ (db.ofTenant tenant).map Prospect.cohortId := by
    rw [(rows_perm.map _).mem_iff, List.map_map]
    change cohortId ∈ List.map id _ ↔ _
    rw [List.map_id, List.mem_dedup]
  unfold notedOf
  rw [found, lookup_map, find_row made]
  by_cases there : cohortId ∈ (db.ofTenant tenant).map Prospect.cohortId
  · rw [if_pos (present.2 there)]
    exact counts _
  · rw [if_neg fun inside => there (present.1 inside), countIn_of_absent there]
    rfl

/-- Among the prospects that are not forgotten, the cohorts count as the funnel does. -/
theorem countIn_living {narrow wide : ProspectState → Bool}
    (same : ∀ state, (state ≠ .forgotten ∧ narrow state = true) ↔ wide state = true) :
    countIn (livingRows db tenant) cohortId narrow = countIn (db.ofTenant tenant) cohortId wide := by
  unfold countIn livingRows
  rw [List.countP_filter]
  apply List.countP_congr
  intro row _
  have state := same row.state
  simp only [Bool.and_eq_true, decide_eq_true_eq]
  tauto

theorem repliesWhere_length (holds : Prospect → Bool) : (db.repliesWhere holds).length =
    db.replies.rows.countP fun entry => (db.prospects.lookup entry.2.prospectId).any holds := by
  unfold Database.repliesWhere Table.select
  rw [List.length_map, List.countP_eq_length_filter]

/-- A reply is counted for a cohort of the tenant or for any cohort of its name: the two
counts are the same if no other tenant has such replies. -/
theorem replies_agree_iff :
    (db.repliesWhere fun row => db.tenants.lookup row.tenantId = some tenant &&
      inCohort (some cohortId) row).length =
        (db.repliesWhere fun row => row.cohortId = cohortId).length ↔
      ∀ id reply row, db.replies.lookup id = some reply →
        db.prospects.lookup reply.prospectId = some row → row.cohortId = cohortId →
          db.tenants.lookup row.tenantId = some tenant := by
  rw [repliesWhere_length, repliesWhere_length, countP_eq_iff_of_imp]
  · constructor
    · intro own id reply row found of_row inside
      have entry := own (id, reply) ((Table.lookup_eq_some_iff _ _ _).1 found)
      rw [of_row] at entry
      simpa [inside, inCohort] using entry
    · intro own entry member named
      obtain ⟨row, of_row, inside⟩ := (Option.any_eq_true _ _).1 named
      have cohort : row.cohortId = cohortId := of_decide_eq_true inside
      have tenant_row := own entry.1 entry.2 row ((Table.lookup_eq_some_iff _ _ _).2 member) of_row cohort
      rw [of_row]
      simp [inCohort, cohort, tenant_row]
  · intro entry _ named
    obtain ⟨row, of_row, inside⟩ := (Option.any_eq_true _ _).1 named
    rw [Bool.and_eq_true] at inside
    rw [of_row]
    exact inside.2

theorem contacted_note_iff : countIn (db.ofTenant tenant) cohortId ProspectState.wasContacted =
    countIn (db.ofTenant tenant) cohortId ProspectState.leftQueue ↔
      ∀ row ∈ db.ofTenant tenant, row.cohortId = cohortId →
        row.state ≠ .disqualified ∧ row.state ≠ .unenrichable ∧ row.state ≠ .forgotten := by
  unfold countIn
  rw [countP_eq_iff_of_imp]
  · constructor
    · intro lost row member inside
      have counted := lost row member
      cases state : row.state <;>
        simp [inside, state, ProspectState.wasContacted, ProspectState.leftQueue] at counted ⊢
    · intro unlost row member counted
      rw [Bool.and_eq_true, decide_eq_true_eq] at counted
      have kept := unlost row member counted.1
      cases state : row.state <;>
        simp [counted.1, state, ProspectState.wasContacted, ProspectState.leftQueue] at counted kept ⊢
  · intro row _ counted
    cases state : row.state <;>
      simp [state, ProspectState.wasContacted, ProspectState.leftQueue] at counted ⊢ <;> exact counted

theorem listed_of_living {row : Prospect} (member : row ∈ db.ofTenant tenant)
    (inside : row.cohortId = cohortId) (living : row.state ≠ .forgotten) :
    cohortId ∈ (livingRows db tenant).map Prospect.cohortId := by
  have kept : row ∈ livingRows db tenant := List.mem_filter.2 ⟨member, decide_eq_true living⟩
  exact List.mem_map.2 ⟨row, kept, inside⟩

theorem unlost_of_agree
    (agree : NumbersAgree collation order groups intents llm directive db tenant cohortId) :
    ∀ row ∈ db.ofTenant tenant, row.cohortId = cohortId →
      row.state ≠ .disqualified ∧ row.state ≠ .unenrichable ∧ row.state ≠ .forgotten := by
  have of_note : ((notedOf groups intents llm directive db tenant cohortId).map Prod.fst).getD 0 =
      countIn (db.ofTenant tenant) cohortId ProspectState.leftQueue := note_count fun _ => rfl
  exact contacted_note_iff.1 (funnel_contacted.symm.trans (agree.contacted_note.trans of_note))

theorem own_of_agree
    (agree : NumbersAgree collation order groups intents llm directive db tenant cohortId)
    (listed : cohortId ∈ (livingRows db tenant).map Prospect.cohortId) :
    ∀ id reply row, db.replies.lookup id = some reply →
      db.prospects.lookup reply.prospectId = some row → row.cohortId = cohortId →
        db.tenants.lookup row.tenantId = some tenant := by
  have replies := agree.replies_cohorts
  rw [summaryOf_eq, if_pos listed] at replies
  exact replies_agree_iff.1 replies

/-- Without a prospect in the cohort, the funnel has no replies of it. -/
theorem no_replies_of_unlisted
    (none_living : ∀ row ∈ db.ofTenant tenant, row.cohortId ≠ cohortId) :
    (funnel db tenant (some cohortId)).replies = 0 := by
  change (db.repliesWhere _).length = 0
  rw [repliesWhere_length]
  apply List.countP_eq_zero.2
  intro entry _ named
  obtain ⟨row, of_row, holds⟩ := (Option.any_eq_true _ _).1 named
  rw [Bool.and_eq_true, decide_eq_true_eq] at holds
  have inside : row.cohortId = cohortId := by
    simpa [inCohort] using holds.2
  have member : row ∈ db.ofTenant tenant := by
    apply List.mem_map.2
    exact ⟨(entry.2.prospectId, row),
      (Table.mem_select_iff _ _ _ _).2 ⟨of_row, decide_eq_true holds.1⟩, rfl⟩
  exact none_living row member inside

/-- The reports agree on a cohort just where it has lost no prospect before the contact,
none is forgotten, and no other tenant has replies in a cohort of its name. -/
theorem numbers_agree_iff (collation : Collation) (order : GroupOrder)
    (groups : RowOrder CampaignRow) (intents : RowOrder (String × Nat))
    (llm : Option (CampaignFindings → ResearchNarrative)) (directive : String) (db : Database)
    (tenant cohortId : String) :
    NumbersAgree collation order groups intents llm directive db tenant cohortId ↔
      Apart db tenant cohortId := by
  have of_cohorts : ((summaryOf collation db tenant cohortId).map CohortSummary.contacted).getD 0 =
      countIn (db.ofTenant tenant) cohortId ProspectState.wasContacted := by
    have living : ((summaryOf collation db tenant cohortId).map CohortSummary.contacted).getD 0 =
        countIn (livingRows db tenant) cohortId ProspectState.pastQueue := summary_count fun _ => rfl
    rw [living]
    apply countIn_living
    intro state
    cases state <;> decide
  have of_outcomes : ((outcomeOf order db tenant cohortId).map CohortOutcome.contacted).getD 0 =
      countIn (db.ofTenant tenant) cohortId ProspectState.wasContacted := outcome_count fun _ => rfl
  have of_note : ((notedOf groups intents llm directive db tenant cohortId).map Prod.fst).getD 0 =
      countIn (db.ofTenant tenant) cohortId ProspectState.leftQueue := note_count fun _ => rfl
  constructor
  · intro agree
    have unlost := unlost_of_agree agree
    refine ⟨unlost, ?_⟩
    rintro ⟨row, member, inside⟩
    exact own_of_agree agree (listed_of_living member inside (unlost row member inside).2.2)
  · rintro ⟨unlost, own⟩
    refine ⟨funnel_contacted.trans of_cohorts.symm, funnel_contacted.trans of_outcomes.symm,
      funnel_contacted.trans ((contacted_note_iff.2 unlost).trans of_note.symm), ?_, ?_, ?_, ?_⟩
    · by_cases listed : cohortId ∈ (livingRows db tenant).map Prospect.cohortId
      · obtain ⟨row, member, inside⟩ := List.mem_map.1 listed
        rw [summaryOf_eq, if_pos listed]
        exact replies_agree_iff.2 (own ⟨row, (List.mem_filter.1 member).1, inside⟩)
      · rw [summaryOf_eq, if_neg listed]
        apply no_replies_of_unlisted
        intro row member inside
        exact listed (listed_of_living member inside (unlost row member inside).2.2)
    · have living : ((summaryOf collation db tenant cohortId).map CohortSummary.converted).getD 0 =
          countIn (livingRows db tenant) cohortId fun state => state = .converted :=
        summary_count fun _ => rfl
      rw [funnel_converted, living]
      symm
      apply countIn_living
      intro state
      cases state <;> decide
    · have counted : ((outcomeOf order db tenant cohortId).map CohortOutcome.converted).getD 0 =
          countIn (db.ofTenant tenant) cohortId fun state => state = .converted :=
        outcome_count fun _ => rfl
      rw [funnel_converted, counted]
    · have counted :
          ((notedOf groups intents llm directive db tenant cohortId).map Prod.snd).getD 0 =
            countIn (db.ofTenant tenant) cohortId fun state => state = .converted :=
        note_count fun _ => rfl
      rw [funnel_converted, counted]

/-- A prospect that was disqualified. -/
def lostDatabase : Database :=
  { sampleDatabase with
    prospects := Table.empty.insert 3 { sampleProspect with state := .disqualified } }

/-- Two tenants with a cohort of one name, and a reply to the other tenant. -/
def sharedDatabase : Database :=
  { sampleDatabase with
    tenants := (Table.empty.insert 1 "acme").insert 7 "globex"
    prospects := (Table.empty.insert 3 { sampleProspect with state := .contacted }).insert 13
      { sampleProspect with tenantId := 7, state := .engaged }
    replies := Table.empty.insert 8
      { prospectId := 13, touchId := 14, body := none, receivedAt := sampleClock } }

def plainCollation : Collation := ⟨fun _ _ => true⟩
def plainGroups : GroupOrder := ⟨fun rows => rows, fun _ => .refl _⟩
def plainRows : RowOrder CampaignRow := ⟨fun rows => rows, fun _ => .refl _⟩
def plainIntents : RowOrder (String × Nat) := ⟨fun rows => rows, fun _ => .refl _⟩

/-- The note counts what was disqualified as reached, and the cohorts count the replies
of the other tenant. -/
theorem numbers_disagree :
    ¬ NumbersAgree plainCollation plainGroups plainRows plainIntents none "" lostDatabase "acme"
      "austin" ∧
    ¬ NumbersAgree plainCollation plainGroups plainRows plainIntents none "" sharedDatabase "acme"
      "austin" := by
  constructor
  · intro agree
    have member : { sampleProspect with state := .disqualified } ∈ lostDatabase.ofTenant "acme" := by
      decide
    exact (unlost_of_agree agree _ member rfl).1 rfl
  · intro agree
    have member : { sampleProspect with state := .contacted } ∈ sharedDatabase.ofTenant "acme" := by
      decide
    have listed := listed_of_living member rfl nofun
    have own := own_of_agree agree listed 8 _ { sampleProspect with tenantId := 7, state := .engaged }
      rfl rfl rfl
    exact absurd own (by decide)

end Reports

end OpenReachout
