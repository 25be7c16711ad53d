import OpenReachout.Outreach.Discipline
import OpenReachout.Outreach.Steps

/-!
# Tallies

The statistics of the variants: which programs leave them alone, and what the programs do
that count. A touch counts for its variant under the tenant of its prospect.
-/

namespace OpenReachout

open Relational Relational.Abstraction Relational.Program Relational.Discipline Text

set_option autoImplicit false

section Unscored

/-- The statistics of the variants are as they were. -/
def Unscored (before after : Database) : Prop := after.variantStats = before.variantStats

theorem unscored_timeline : Timeline Unscored :=
  ⟨fun _ => rfl, fun first second => second.trans first⟩

def unscored : Allowed := following unscored_timeline

/-- A relation that holds where the statistics are as they were lets everything else change. -/
theorem permissive_following {along : Database → Database → Prop} (order : Timeline along)
    (idle : ∀ before after, Unscored before after → along before after) :
    Permissive (following order) where
  marks _ _ := trivial
  entities _ _ _ _ _ := idle _ _ rfl
  prospectIndex _ _ _ _ _ := idle _ _ rfl
  evidenceFacts _ _ _ _ _ := idle _ _ rfl
  touches _ _ _ _ := idle _ _ rfl
  decisionTraces _ _ _ _ _ := idle _ _ rfl
  received _ _ _ := idle _ _ rfl
  exchanged _ _ _ := idle _ _ rfl
  suppressions _ _ _ _ _ := idle _ _ rfl
  forgetTombstones _ _ _ _ _ := idle _ _ rfl
  controlFlags _ _ _ _ _ := idle _ _ rfl
  counters _ _ _ _ _ := idle _ _ rfl
  mailboxCounters _ _ _ _ := idle _ _ rfl
  providerEvents _ _ _ := idle _ _ rfl
  jobs _ _ _ _ _ := idle _ _ rfl
  jobIndex _ _ _ _ _ := idle _ _ rfl
  mailboxes _ _ _ _ _ := idle _ _ rfl
  humanTasks _ _ _ _ _ := idle _ _ rfl
  operatorEvents _ _ _ _ _ := idle _ _ rfl
  operatorEventIndex _ _ _ _ _ := idle _ _ rfl
  escalations _ _ _ _ _ := idle _ _ rfl
  proposals _ _ _ _ _ := idle _ _ rfl
  audited _ _ _ := idle _ _ rfl
  objections _ _ := idle _ _ rfl
  capped _ _ _ _ _ := idle _ _ rfl
  braked _ _ _ := idle _ _ rfl
  prospects _ _ _ _ _ := idle _ _ rfl
  moved _ _ _ := idle _ _ rfl

theorem permissive_unscored : Permissive unscored :=
  permissive_following unscored_timeline fun _ _ => id

theorem ordinary_unscored : Ordinary unscored := permissive_unscored.toOrdinary

theorem inserting_unscored : Inserting unscored := ⟨fun _ _ _ => rfl⟩

theorem unscored_moves (actor : String) : Moves unscored.discipline actor :=
  (show Permissive (unscored.discipline : Conduct).allowed from permissive_unscored).moves
    fun _ _ => trivial

/-- Only what counts changes the statistics. -/
theorem within_unscored {site : Deployment} {op : Op} (untried : ¬ op.tries)
    (uncredited : ¬ op.credits) (unguarded : ¬ op.guards) :
    Within unscored (op.program site) := by
  have permissive : Permissive (unscored.discipline : Conduct).allowed := permissive_unscored
  have replies : unscored.Changes Tables.replies := fun _ _ _ _ _ => rfl
  have serves : Serves site unscored.discipline op :=
    permissive.serves unscored.catching (fun _ => ⟨fun _ _ _ _ _ => rfl⟩)
      (fun _ => ⟨fun _ _ _ => rfl⟩) (fun _ => inserting_unscored) (fun _ _ _ _ => trivial)
      (fun tries => absurd tries untried) (fun credits => absurd credits uncredited)
      (fun guards => absurd guards unguarded) (fun _ => judges_of_changes replies) fun _ => replies
  exact keeps_program serves

variable {site : Deployment} {vouch : Mark → Ledger → Prop} {op : Op} {held : List RowLock}
variable {Value : Type} {post : Database → Value → Database → Database → Prop}

/-- What is ensured of a program that keeps to a relation holds beside the relation. -/
theorem ensures_following {along : Database → Database → Prop} (order : Timeline along)
    {program : Prog Value} (inside : ((following order).discipline : Conduct).keeps program)
    (ensures : (outreach site vouch op).Ensures held program post) :
    (outreach site vouch op).Ensures held program fun start value before after =>
      post start value before after ∧ along before after :=
  fun a b value standing exec clean db later stable =>
    ⟨ensures a b value standing exec clean db later stable,
      view_of_following order inside exec db⟩

theorem Unscored.ensures {program : Prog Value}
    (inside : (unscored.discipline : Conduct).keeps program)
    (ensures : (outreach site vouch op).Ensures held program post) :
    (outreach site vouch op).Ensures held program fun start value before after =>
      post start value before after ∧ Unscored before after :=
  ensures_following unscored_timeline inside ensures

end Unscored

section Counting

def VariantStats.tried (row : VariantStats) : VariantStats := { row with trials := row.trials + 1 }

def VariantStats.credited (row : VariantStats) : VariantStats :=
  { row with successes := row.successes + 1 }

/-- The statistics where one row has been counted up. -/
def counted (change : VariantStats → VariantStats) (key : Option (String × String))
    (stats : Table (String × String) VariantStats) : Table (String × String) VariantStats :=
  match key with
  | some key => stats.upsert key (change {}) change
  | none => stats

/-- The row of a variant; a variant that has none yet stands at zero. -/
def Database.standing (db : Database) (key : String × String) : VariantStats :=
  (db.variantStats.lookup key).getD {}

theorem standing_counted {change : VariantStats → VariantStats} {before after : Database}
    {key : Option (String × String)}
    (stats : after.variantStats = counted change key before.variantStats)
    (other : String × String) :
    after.standing other =
      if key = some other then change (before.standing other) else before.standing other := by
  unfold Database.standing
  rw [stats]
  cases key with
  | none => rfl
  | some key =>
      unfold counted
      dsimp only
      rw [Table.lookup_upsert]
      by_cases same : other = key
      · subst same
        rw [if_pos rfl, if_pos rfl]
        cases before.variantStats.lookup other with
        | none => rfl
        | some row => rfl
      · have apart : some key ≠ some other := fun equal => same (Option.some.inj equal).symm
        rw [if_neg same, if_neg apart]

theorem lookup_counted (change : VariantStats → VariantStats) (key : String × String)
    (db : Database) : (counted change (some key) db.variantStats).lookup key =
      some (change (db.standing key)) := by
  unfold counted Database.standing
  dsimp only
  rw [Table.lookup_upsert, if_pos rfl]
  cases db.variantStats.lookup key with
  | none => rfl
  | some row => rfl

variable {site : Deployment} {vouch : Mark → Ledger → Prop} {op : Op} {held : List RowLock}

theorem ensures_countUp {model : Abstraction Database RowLock Mark} (tenant variantId : String)
    (change : VariantStats → VariantStats) :
    model.Ensures held (countUp tenant variantId change) fun _ _ before after =>
      after = { before with
        variantStats := counted change (some (tenant, variantId)) before.variantStats } := by
  refine (ensures_perform none _).mono ?_
  rintro start value before after ⟨seen, busy, effect, stated⟩
  obtain rfl := Except.ok.inj stated.success
  exact stated.wrote

/-- The variant that a touch counts for. -/
def Ledger.counts (l : Ledger) (touchId : Uuid) : Option (String × String) :=
  (l.touches touchId).bind fun item => (l.prospects item.prospectId).bind fun lead =>
    (l.tenants lead.tenantId).bind fun slug =>
      (nonEmpty item.variantId).map fun variantId => (slug, variantId)

theorem counts_of_touch {l : Ledger} {touchId : Uuid} {item : Touch} {lead : Prospect}
    {slug : String} (touch : l.touches touchId = some item)
    (prospect : l.prospects item.prospectId = some lead)
    (tenant : l.tenants lead.tenantId = some slug) :
    l.counts touchId = (nonEmpty item.variantId).map fun variantId => (slug, variantId) := by
  unfold Ledger.counts
  rw [touch, Option.bind_some, prospect, Option.bind_some, tenant, Option.bind_some]

/-- What a touch counts for is settled when it is drafted. -/
theorem counts_later {old new : Ledger} {touchId : Uuid} (linked : Linked old)
    (later : Later old new) (there : old.touches touchId ≠ none) :
    new.counts touchId = old.counts touchId := by
  obtain ⟨item, touch⟩ := Option.ne_none_iff_exists'.1 there
  obtain ⟨next, found, step⟩ := later.touches touchId item touch
  obtain ⟨lead, prospect⟩ := Option.isSome_iff_exists.1 (linked.prospectOf touchId item touch)
  obtain ⟨person, present, kept⟩ := later.prospects _ lead prospect
  unfold Ledger.counts
  rw [touch, found, Option.bind_some, Option.bind_some, step.prospectId, prospect, present,
    Option.bind_some, Option.bind_some, later.tenants, kept.tenantId, step.variantId]

/-- The touch has gone out: the claim that a delivery leaves is committed with its dispatch. -/
def Touch.Out (item : Touch) : Prop := item.claimedAt.isSome = true

/-- A touch that is out was out before. -/
def Unsent (touchId : Uuid) (before after : Ledger) : Prop :=
  ∀ item, after.touches touchId = some item → item.Out →
    ∃ old, before.touches touchId = some old ∧ old.Out

/-- What a delivery does to its touch and to the statistics: a touch that goes out counts as
one trial of its variant. -/
inductive Delivered (touchId : Uuid) (before after : Database) : Prop where
  | unsent (stats : Unscored before after) (kept : Unsent touchId before.ledger after.ledger)
  | sent (item next : Touch) (touch : before.ledger.touches touchId = some item)
      (drafted : item.status = .drafted) (found : after.ledger.touches touchId = some next)
      (status : next.status = .dispatched) (out : next.Out)
      (stats : after.variantStats =
        counted VariantStats.tried (before.ledger.counts touchId) before.variantStats)

end Counting

section Selection

/-- The sum of a count over the variants of a tenant. -/
def Database.total (db : Database) (tenant : String) (read : VariantStats → Nat) : Nat :=
  db.variantStats.total (fun key => key.1 = tenant) read

/-- What a selection asks of the sampler: the arms and then the totals, as it finds them. -/
theorem selection_asks {rely : Database → Database → Prop} {tenant : String}
    {pool : List VariantSpec} {arms : List (String × VariantStats)} {successes trials : Nat}
    {a b : Point Database RowLock Mark Call}
    (asks : Asks rely (selectVariant tenant pool) a (.thompson arms successes trials) b) :
    ∃ first second, rely a.committed first ∧ rely first second ∧
      arms = pool.map (fun variant =>
        (variant.id, (a.txn.view first).standing (tenant, variant.id))) ∧
      successes = (a.txn.view second).total tenant VariantStats.successes ∧
      trials = (a.txn.view second).total tenant VariantStats.trials := by
  have silent : ∀ {Value : Type} (read : Moment Database RowLock → Database → Value),
      (Program.query read : Prog Value).Every (fun _ _ => True) fun _ => False :=
    fun _ => every_perform trivial
  unfold selectVariant at asks
  rw [asks_bind] at asks
  rcases asks with asks | ⟨read, middle, queried, asks⟩
  · exact (asks_every (silent _) asks).elim
  rw [asks_bind] at asks
  rcases asks with asks | ⟨rows, last, counted, asks⟩
  · exact (asks_every (silent _) asks).elim
  obtain ⟨early, ⟨_, rfl⟩, same⟩ := exec_query queried
  obtain ⟨late, ⟨_, rfl⟩, _⟩ := exec_query counted
  rw [asks_bind] at asks
  rcases asks with asks | ⟨chosen, later, _, asks⟩
  · simp only [attempt, asks_bind] at asks
    rcases asks with asks | ⟨answer, _, _, asks⟩
    · simp only [ask, Asks, exists_false, or_false, Call.thompson.injEq] at asks
      obtain ⟨⟨rfl, rfl, rfl⟩, rfl⟩ := asks
      refine ⟨middle.committed, b.committed, early, late, rfl, ?_⟩
      rw [← same]
      exact ⟨rfl, rfl⟩
    · have idle : Program.Every (fun _ _ => True) (fun _ => False)
          (MonadExcept.ofExcept answer : Prog String) := every_ofExcept _
      exact (asks_every idle asks).elim
  · split at asks
    · exact asks.elim
    · exact asks.elim

end Selection

end OpenReachout
