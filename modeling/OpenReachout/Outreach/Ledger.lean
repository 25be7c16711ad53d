import OpenReachout.Core.Worker
import Mathlib.Logic.Function.Basic

/-!
# The outreach ledger

What the laws of the service are about: the rows of people, of what was said to
them, of jobs and tasks, and of everything that stops an outreach, as functions of
their keys. `Later` is what every commit keeps: rows stay, their fixed fields stay,
touches and prospects only move on, and what is new refers to what exists.
-/

namespace OpenReachout

open Relational Text

set_option autoImplicit false

structure Ledger where
  clock : Time
  tenants : Uuid → Option String
  entities : Uuid → Option Entity
  prospects : Uuid → Option Prospect
  facts : Uuid → Option EvidenceFact
  touches : Uuid → Option Touch
  replies : Uuid → Option Reply
  tasks : Uuid → Option HumanTask
  jobs : Nat → Option JobRow
  jobIndex : JobKey → Option Nat
  suppressions : String × String → Option Suppression
  tombstones : String → Option Tombstone
  flags : String → Option ControlFlag
  proposals : Uuid → Option ProposalRow

def Database.ledger (db : Database) : Ledger where
  clock := db.clock
  tenants := db.tenants.lookup
  entities := db.entities.lookup
  prospects := db.prospects.lookup
  facts := db.evidenceFacts.lookup
  touches := db.touches.lookup
  replies := db.replies.lookup
  tasks := db.humanTasks.lookup
  jobs := db.jobs.lookup
  jobIndex := db.jobIndex.lookup
  suppressions := db.suppressions.lookup
  tombstones := db.forgetTombstones.lookup
  flags := db.controlFlags.lookup
  proposals := db.proposals.lookup

section Rows

/-- A text that was stored is the same or erased. -/
def Fading {Text : Type} (old new : Option Text) : Prop := new = old ∨ new = none

/-- A touch waits for review, then for its delivery, and then is past both. -/
def TouchStatus.stage : TouchStatus → Nat
  | .pendingReview => 0
  | .drafted => 1
  | .claimed | .dispatched | .sent | .released | .pendingHuman => 2

theorem TouchStatus.stage_le (status : TouchStatus) : status.stage ≤ 2 := by
  cases status <;> decide

structure Touch.Later (old new : Touch) : Prop where
  prospectId : new.prospectId = old.prospectId
  campaignId : new.campaignId = old.campaignId
  variantId : new.variantId = old.variantId
  stepIndex : new.stepIndex = old.stepIndex
  kind : new.kind = old.kind
  stage : old.status.stage ≤ new.status.stage
  subject : Fading old.subject new.subject
  body : Fading old.body new.body

/-- One transition of a prospect. -/
def ProspectState.Edge (old new : ProspectState) : Prop := new ∈ transitions old

instance (old new : ProspectState) : Decidable (old.Edge new) :=
  inferInstanceAs (Decidable (new ∈ transitions old))

structure Prospect.Later (old new : Prospect) : Prop where
  tenantId : new.tenantId = old.tenantId
  entityId : new.entityId = old.entityId
  cohortId : new.cohortId = old.cohortId
  personaId : new.personaId = old.personaId
  path : Relation.ReflTransGen ProspectState.Edge old.state new.state

structure Entity.Later (old new : Entity) : Prop where
  tenantId : new.tenantId = old.tenantId
  touches12mo : old.touches12mo ≤ new.touches12mo
  forgotten : old.forgotten = true → new.forgotten = true
  referralAsked : old.referralAsked = true → new.referralAsked = true

structure JobRow.Later (old new : JobRow) : Prop where
  queue : new.queue = old.queue
  payload : new.payload = old.payload
  key : new.idempotencyKey = old.idempotencyKey
  maxAttempts : new.maxAttempts = old.maxAttempts
  attempts : old.attempts ≤ new.attempts

structure HumanTask.Later (old new : HumanTask) : Prop where
  prospectId : new.prospectId = old.prospectId
  touchId : new.touchId = old.touchId
  settled : old.status ≠ .pending → new.status = old.status

structure Reply.Later (old new : Reply) : Prop where
  prospectId : new.prospectId = old.prospectId
  touchId : new.touchId = old.touchId
  body : Fading old.body new.body
  intent : old.intent.isSome = true → new.intent.isSome = true

structure ProposalRow.Later (old new : ProposalRow) : Prop where
  tenant : new.tenant = old.tenant
  kind : new.kind = old.kind
  payload : new.payload = old.payload
  dedupeKey : new.dedupeKey = old.dedupeKey
  resolved : old.status ≠ .opened → new.status ≠ .opened
  decided : old.status ≠ .opened → new.status = .approved ∨ new = old

/-- What is forgotten stays so. -/
theorem forgotten_of_path {old new : ProspectState}
    (path : Relation.ReflTransGen ProspectState.Edge old new) (gone : old = .forgotten) :
    new = .forgotten := by
  induction path with
  | refl => exact gone
  | tail _ edge induction =>
      rw [induction] at edge
      cases edge

theorem fading_refl {Text : Type} (text : Option Text) : Fading text text := Or.inl rfl

theorem fading_trans {Text : Type} {first second third : Option Text} (one : Fading first second)
    (two : Fading second third) : Fading first third := by
  rcases two with rfl | rfl
  · exact one
  · exact Or.inr rfl

theorem Touch.later_refl (row : Touch) : row.Later row :=
  ⟨rfl, rfl, rfl, rfl, rfl, le_rfl, fading_refl _, fading_refl _⟩

theorem Prospect.later_refl (row : Prospect) : row.Later row :=
  ⟨rfl, rfl, rfl, rfl, .refl⟩

theorem Entity.later_refl (row : Entity) : row.Later row := ⟨rfl, le_rfl, id, id⟩

theorem JobRow.later_refl (row : JobRow) : row.Later row := ⟨rfl, rfl, rfl, rfl, le_rfl⟩

theorem HumanTask.later_refl (row : HumanTask) : row.Later row := ⟨rfl, rfl, fun _ => rfl⟩

theorem Reply.later_refl (row : Reply) : row.Later row := ⟨rfl, rfl, fading_refl _, id⟩

theorem ProposalRow.later_refl (row : ProposalRow) : row.Later row :=
  ⟨rfl, rfl, rfl, rfl, id, fun _ => Or.inr rfl⟩

theorem Touch.later_trans {first second third : Touch} (one : first.Later second)
    (two : second.Later third) : first.Later third where
  prospectId := two.prospectId.trans one.prospectId
  campaignId := two.campaignId.trans one.campaignId
  variantId := two.variantId.trans one.variantId
  stepIndex := two.stepIndex.trans one.stepIndex
  kind := two.kind.trans one.kind
  stage := one.stage.trans two.stage
  subject := fading_trans one.subject two.subject
  body := fading_trans one.body two.body

theorem Prospect.later_trans {first second third : Prospect} (one : first.Later second)
    (two : second.Later third) : first.Later third where
  tenantId := two.tenantId.trans one.tenantId
  entityId := two.entityId.trans one.entityId
  cohortId := two.cohortId.trans one.cohortId
  personaId := two.personaId.trans one.personaId
  path := one.path.trans two.path

theorem Entity.later_trans {first second third : Entity} (one : first.Later second)
    (two : second.Later third) : first.Later third :=
  ⟨two.tenantId.trans one.tenantId, one.touches12mo.trans two.touches12mo,
    two.forgotten ∘ one.forgotten, two.referralAsked ∘ one.referralAsked⟩

theorem JobRow.later_trans {first second third : JobRow} (one : first.Later second)
    (two : second.Later third) : first.Later third :=
  ⟨two.queue.trans one.queue, two.payload.trans one.payload, two.key.trans one.key,
    two.maxAttempts.trans one.maxAttempts, one.attempts.trans two.attempts⟩

theorem HumanTask.later_trans {first second third : HumanTask} (one : first.Later second)
    (two : second.Later third) : first.Later third where
  prospectId := two.prospectId.trans one.prospectId
  touchId := two.touchId.trans one.touchId
  settled := by
    intro ended
    have middle := one.settled ended
    rw [two.settled (by rw [middle]; exact ended), middle]

theorem Reply.later_trans {first second third : Reply} (one : first.Later second)
    (two : second.Later third) : first.Later third :=
  ⟨two.prospectId.trans one.prospectId, two.touchId.trans one.touchId,
    fading_trans one.body two.body, two.intent ∘ one.intent⟩

theorem ProposalRow.later_trans {first second third : ProposalRow} (one : first.Later second)
    (two : second.Later third) : first.Later third where
  tenant := two.tenant.trans one.tenant
  kind := two.kind.trans one.kind
  payload := two.payload.trans one.payload
  dedupeKey := two.dedupeKey.trans one.dedupeKey
  resolved := two.resolved ∘ one.resolved
  decided := by
    intro closed
    rcases one.decided closed with approved | rfl
    · have closed_too : second.status ≠ .opened := by
        rw [approved]
        exact nofun
      rcases two.decided closed_too with later | rfl
      · exact Or.inl later
      · exact Or.inl approved
    · exact two.decided closed

end Rows

section Tables

variable {Key Row : Type} {related : Row → Row → Prop}

/-- A row that exists stays, and its successor is related to it. -/
def Kept (related : Row → Row → Prop) (old new : Option Row) : Prop :=
  ∀ row, old = some row → ∃ next, new = some next ∧ related row next

theorem kept_refl (reflexive : ∀ row, related row row) (row : Option Row) : Kept related row row :=
  fun value present => ⟨value, present, reflexive value⟩

theorem kept_trans {first second third : Option Row} (one : Kept related first second)
    (two : Kept related second third)
    (transitive : ∀ {early middle late}, related early middle → related middle late →
      related early late) : Kept related first third := by
  intro row present
  obtain ⟨middle, found, early⟩ := one row present
  obtain ⟨last, found, late⟩ := two middle found
  exact ⟨last, found, transitive early late⟩

theorem kept_isSome {old new : Option Row} (kept : Kept related old new) (there : old.isSome = true) :
    new.isSome = true := by
  obtain ⟨row, present⟩ := Option.isSome_iff_exists.1 there
  obtain ⟨next, found, _⟩ := kept row present
  rw [found]
  rfl

theorem kept_none (new : Option Row) : Kept related none new := fun _ present => by cases present

theorem kept_some {old : Option Row} {row new : Row} (found : old = some row)
    (step : related row new) : Kept related old (some new) := by
  intro other present
  obtain rfl := Option.some.inj (found.symm.trans present)
  exact ⟨new, rfl, step⟩

theorem kept_map {old : Option Row} {change : Row → Row}
    (step : ∀ row, old = some row → related row (change row)) :
    Kept related old (old.map change) := by
  intro row present
  exact ⟨change row, by rw [present]; rfl, step row present⟩

/-- A row that is rewritten to a related one; the others are not touched. -/
theorem kept_update [DecidableEq Key] (reflexive : ∀ row, related row row)
    {table : Key → Option Row} {key : Key} {new : Option Row}
    (kept : Kept related (table key) new) (other : Key) :
    Kept related (table other) (Function.update table key new other) := by
  by_cases same : other = key
  · subst same
    rw [Function.update_self]
    exact kept
  · rw [Function.update_of_ne same]
    exact kept_refl reflexive _

/-- A row that a transaction sees at two times, by who can have changed it. -/
theorem kept_rowwise (reflexive : ∀ row, related row row) {early late old new : Option Row}
    (kept : Kept related early late)
    (rows : old = new ∧ early = late ∨ old = early ∧ new = late) : Kept related old new := by
  rcases rows with ⟨rfl, _⟩ | ⟨rfl, rfl⟩
  · exact kept_refl reflexive _
  · exact kept

variable {Other Target : Type} {named : Row → Other} {old new : Key → Option Row}

/-- The rows that are new refer to rows that exist. -/
def Anchored (named : Row → Other) (old new : Key → Option Row) (targets : Other → Option Target) :
    Prop :=
  ∀ key row, old key = none → new key = some row → (targets (named row)).isSome = true

theorem anchored_refl (targets : Other → Option Target) : Anchored named old old targets := by
  intro key row absent present
  rw [absent] at present
  cases present

theorem anchored_trans {middle : Key → Option Row} {early late : Other → Option Target}
    {linked : Target → Target → Prop} (one : Anchored named old middle early)
    (two : Anchored named middle new late) (kept : ∀ key, Kept related (middle key) (new key))
    (same : ∀ {row next}, related row next → named next = named row)
    (targets : ∀ other, Kept linked (early other) (late other)) : Anchored named old new late := by
  intro key row absent present
  cases between : middle key with
  | none => exact two key row between present
  | some other =>
      obtain ⟨next, found, step⟩ := kept key other between
      obtain rfl := Option.some.inj (found.symm.trans present)
      rw [same step]
      exact kept_isSome (targets _) (one key other absent between)

theorem anchored_rowwise {early late : Key → Option Row} {linked : Target → Target → Prop}
    {targets shown : Other → Option Target} (anchored : Anchored named early late targets)
    (rows : ∀ key, old key = new key ∧ early key = late key ∨
      old key = early key ∧ new key = late key)
    (kept : ∀ other, Kept linked (targets other) (shown other)) : Anchored named old new shown := by
  intro key row absent present
  rcases rows key with ⟨same, _⟩ | ⟨first, second⟩
  · rw [same, present] at absent
    cases absent
  · exact kept_isSome (kept _) (anchored key row (first.symm.trans absent)
      (second.symm.trans present))

theorem anchored_update [DecidableEq Key] {key : Key} {row : Row} {targets : Other → Option Target}
    (there : old key = none → (targets (named row)).isSome = true) :
    Anchored named old (Function.update old key (some row)) targets := by
  intro other next absent present
  by_cases same : other = key
  · subst same
    rw [Function.update_self] at present
    obtain rfl := Option.some.inj present
    exact there absent
  · rw [Function.update_of_ne same, absent] at present
    cases present

/-- No row is added. -/
theorem anchored_of_none {targets : Other → Option Target}
    (rows : ∀ key, old key = none → new key = none) : Anchored named old new targets := by
  intro key row absent present
  rw [rows key absent] at present
  cases present

end Tables

section Progress

structure Later (old new : Ledger) : Prop where
  tenants : new.tenants = old.tenants
  entities : ∀ id, Kept Entity.Later (old.entities id) (new.entities id)
  prospects : ∀ id, Kept Prospect.Later (old.prospects id) (new.prospects id)
  touches : ∀ id, Kept Touch.Later (old.touches id) (new.touches id)
  replies : ∀ id, Kept Reply.Later (old.replies id) (new.replies id)
  tasks : ∀ id, Kept HumanTask.Later (old.tasks id) (new.tasks id)
  jobs : ∀ id, Kept JobRow.Later (old.jobs id) (new.jobs id)
  jobIndex : ∀ key, Kept Eq (old.jobIndex key) (new.jobIndex key)
  tombstones : ∀ hash, Kept (fun _ _ => True) (old.tombstones hash) (new.tombstones hash)
  proposals : ∀ id, Kept ProposalRow.Later (old.proposals id) (new.proposals id)
  entityOf : Anchored Prospect.entityId old.prospects new.prospects new.entities
  prospectOf : Anchored Touch.prospectId old.touches new.touches new.prospects
  taskProspect : Anchored HumanTask.prospectId old.tasks new.tasks new.prospects
  taskTouch : Anchored HumanTask.touchId old.tasks new.tasks new.touches

theorem later_refl (ledger : Ledger) : Later ledger ledger where
  tenants := rfl
  entities _ := kept_refl Entity.later_refl _
  prospects _ := kept_refl Prospect.later_refl _
  touches _ := kept_refl Touch.later_refl _
  replies _ := kept_refl Reply.later_refl _
  tasks _ := kept_refl HumanTask.later_refl _
  jobs _ := kept_refl JobRow.later_refl _
  jobIndex _ := kept_refl (fun _ => rfl) _
  tombstones _ := kept_refl (fun _ => trivial) _
  proposals _ := kept_refl ProposalRow.later_refl _
  entityOf := anchored_refl _
  prospectOf := anchored_refl _
  taskProspect := anchored_refl _
  taskTouch := anchored_refl _

theorem later_trans {first second third : Ledger} (one : Later first second)
    (two : Later second third) : Later first third where
  tenants := two.tenants.trans one.tenants
  entities id := kept_trans (one.entities id) (two.entities id) Entity.later_trans
  prospects id := kept_trans (one.prospects id) (two.prospects id) Prospect.later_trans
  touches id := kept_trans (one.touches id) (two.touches id) Touch.later_trans
  replies id := kept_trans (one.replies id) (two.replies id) Reply.later_trans
  tasks id := kept_trans (one.tasks id) (two.tasks id) HumanTask.later_trans
  jobs id := kept_trans (one.jobs id) (two.jobs id) JobRow.later_trans
  jobIndex key := kept_trans (one.jobIndex key) (two.jobIndex key) Eq.trans
  tombstones hash := kept_trans (one.tombstones hash) (two.tombstones hash) fun _ _ => trivial
  proposals id := kept_trans (one.proposals id) (two.proposals id) ProposalRow.later_trans
  entityOf := anchored_trans one.entityOf two.entityOf two.prospects Prospect.Later.entityId
    two.entities
  prospectOf := anchored_trans one.prospectOf two.prospectOf two.touches Touch.Later.prospectId
    two.prospects
  taskProspect := anchored_trans one.taskProspect two.taskProspect two.tasks
    HumanTask.Later.prospectId two.prospects
  taskTouch := anchored_trans one.taskTouch two.taskTouch two.tasks HumanTask.Later.touchId
    two.touches

theorem later_order : Timeline Later := ⟨later_refl, later_trans⟩

/-- `Later` between two views of a transaction is a matter of each row. -/
theorem later_rowwise {early late old new : Database} (later : Later early.ledger late.ledger)
    (ahead : Later late.ledger new.ledger)
    (rows : ∀ lock : RowLock,
      lock.content old = lock.content new ∧ lock.content early = lock.content late ∨
        lock.content old = lock.content early ∧ lock.content new = lock.content late) :
    Later old.ledger new.ledger where
  tenants := by
    funext id
    rcases rows (.tenant id) with ⟨same, _⟩ | ⟨first, second⟩
    · exact same.symm
    · have kept := congrFun later.tenants id
      exact second.trans (kept.trans first.symm)
  entities id := kept_rowwise Entity.later_refl (later.entities id) (rows (.entity id))
  prospects id := kept_rowwise Prospect.later_refl (later.prospects id) (rows (.prospect id))
  touches id := kept_rowwise Touch.later_refl (later.touches id) (rows (.touch id))
  replies id := kept_rowwise Reply.later_refl (later.replies id) (rows (.reply id))
  tasks id := kept_rowwise HumanTask.later_refl (later.tasks id) (rows (.humanTask id))
  jobs id := kept_rowwise JobRow.later_refl (later.jobs id) (rows (.job id))
  jobIndex key := kept_rowwise (fun _ => rfl) (later.jobIndex key) (rows (.jobIndex key))
  tombstones hash := kept_rowwise (fun _ => trivial) (later.tombstones hash)
    (rows (.forgetTombstone hash))
  proposals id := kept_rowwise ProposalRow.later_refl (later.proposals id) (rows (.proposal id))
  entityOf := anchored_rowwise later.entityOf (fun id => rows (.prospect id)) ahead.entities
  prospectOf := anchored_rowwise later.prospectOf (fun id => rows (.touch id)) ahead.prospects
  taskProspect := anchored_rowwise later.taskProspect (fun id => rows (.humanTask id))
    ahead.prospects
  taskTouch := anchored_rowwise later.taskTouch (fun id => rows (.humanTask id)) ahead.touches

/-- The foreign keys of the schema hold. -/
structure Linked (l : Ledger) : Prop where
  entityOf : ∀ id lead, l.prospects id = some lead → (l.entities lead.entityId).isSome = true
  prospectOf : ∀ id item, l.touches id = some item → (l.prospects item.prospectId).isSome = true
  taskProspect : ∀ id task, l.tasks id = some task →
    (l.prospects task.prospectId).isSome = true
  taskTouch : ∀ id task, l.tasks id = some task → (l.touches task.touchId).isSome = true

theorem linked_row {Key Row Other Target : Type} {named : Row → Other}
    {related : Row → Row → Prop} {linked : Target → Target → Prop} {old new : Key → Option Row}
    {early late : Other → Option Target}
    (before : ∀ key row, old key = some row → (early (named row)).isSome = true)
    (anchored : Anchored named old new late) (kept : ∀ key, Kept related (old key) (new key))
    (same : ∀ {row next}, related row next → named next = named row)
    (targets : ∀ other, Kept linked (early other) (late other)) (key : Key) (row : Row)
    (present : new key = some row) : (late (named row)).isSome = true := by
  cases there : old key with
  | none => exact anchored key row there present
  | some earlier =>
      obtain ⟨next, found, step⟩ := kept key earlier there
      obtain rfl := Option.some.inj (found.symm.trans present)
      rw [same step]
      exact kept_isSome (targets _) (before key earlier there)

theorem linked_later {old new : Ledger} (linked : Linked old) (later : Later old new) :
    Linked new where
  entityOf := linked_row linked.entityOf later.entityOf later.prospects Prospect.Later.entityId
    later.entities
  prospectOf := linked_row linked.prospectOf later.prospectOf later.touches
    Touch.Later.prospectId later.prospects
  taskProspect := linked_row linked.taskProspect later.taskProspect later.tasks
    HumanTask.Later.prospectId later.prospects
  taskTouch := linked_row linked.taskTouch later.taskTouch later.tasks HumanTask.Later.touchId
    later.touches

end Progress

end OpenReachout
