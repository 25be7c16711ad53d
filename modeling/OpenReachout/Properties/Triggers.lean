import OpenReachout.Outreach.Laws
import OpenReachout.Outreach.Ordinary
import OpenReachout.Outreach.Rows
import OpenReachout.Properties.Addresses
import OpenReachout.Relational.Seeing

/-!
# Operator events

An event is to start the sequences of the prospects that wait for it. The pipeline moves a
prospect through `qualified` in one transaction: no trigger ever finds one there.
-/

namespace OpenReachout

open Relational Relational.Program Text

set_option autoImplicit false

variable {site : Deployment} {vouch : Mark → Ledger → Prop} {rule : Condition} {op : Op}
variable {start l after : Ledger}

section Ledgers

/-- No prospect is qualified and not yet queued. -/
def Ledger.unqualified (l : Ledger) : Prop :=
  ∀ id lead, l.prospects id = some lead → lead.state ≠ .qualified

theorem unqualified_deed (deed : Deed site vouch op start l after) (unqualified : l.unqualified) :
    after.unqualified := by
  intro id lead present
  rcases prospect_of_deed deed present with same | ⟨_, runtime, taken⟩ | ⟨old, found, step⟩
  · exact unqualified id lead same
  · rw [taken.state]
    nofun
  · cases step with
    | move target alive stable edges => exact stable
    | address address bucket which fresh vouched =>
        change (if bucket = .verified then ProspectState.enriched else .unenrichable) ≠ .qualified
        split_ifs <;> nofun
    | erase ref which => nofun

theorem unqualified_path (path : Relation.ReflTransGen (Deed site vouch op start) l after)
    (unqualified : l.unqualified) : after.unqualified := by
  induction path with
  | refl => exact unqualified
  | tail _ deed induction => exact unqualified_deed deed induction

/-- The key under which an event has a prospect composed. -/
def JobKey.starts : JobKey → Bool
  | .triggerCompose _ _ => true
  | _ => false

/-- No prospect has been composed for an event. -/
structure Ledger.Untriggered (l : Ledger) : Prop where
  unqualified : l.unqualified
  unindexed : ∀ key, key.starts = true → l.jobIndex key = none
  unordered : ∀ id work, l.jobs id = some work → work.idempotencyKey.starts = false

theorem JobStep.key {time : Time} {id : Nat} {old new : JobRow} (step : JobStep op time id old new) :
    new.idempotencyKey = old.idempotencyKey := by
  cases step <;> rfl

theorem key_of_steps {time : Time} {id : Nat} {old new : JobRow}
    (steps : Relation.ReflTransGen (JobStep op time id) old new) :
    new.idempotencyKey = old.idempotencyKey := by
  induction steps with
  | refl => rfl
  | tail _ step induction => exact step.key.trans induction

/-- Jobs have been made for no other keys than the index has. -/
theorem unordered_path (path : Relation.ReflTransGen (Deed site vouch op start) l after)
    (unordered : ∀ id work, l.jobs id = some work → work.idempotencyKey.starts = false)
    (unindexed : ∀ key, key.starts = true → after.jobIndex key = none) :
    ∀ id work, after.jobs id = some work → work.idempotencyKey.starts = false := by
  intro id work present
  obtain ⟨old, steps, there⟩ := job_of_path path present
  rw [key_of_steps steps]
  rcases there with found | ⟨_, fresh⟩
  · exact unordered id old found
  · cases starts : old.idempotencyKey.starts with
    | false => rfl
    | true =>
        have none := unindexed _ starts
        rw [fresh.keyed] at none
        cases none

/-- Only the job of an event has its prospects composed. -/
theorem unindexed_deed (deed : Deed site vouch op start l after)
    (idle : ∀ eventId, ¬ op.triggers eventId)
    (unindexed : ∀ key, key.starts = true → l.jobIndex key = none) :
    ∀ key, key.starts = true → after.jobIndex key = none := by
  intro key starts
  have kept : ∀ {time : Time} {queue : QueueName} {payload : JobPayload} {other : JobKey}
      {delay : Nat} {middle : Ledger}, Enqueued time queue payload other delay middle after →
      other.starts = false → middle.jobIndex = l.jobIndex → after.jobIndex key = none := by
    intro time queue payload other delay middle enqueued plain same
    cases enqueued with
    | known present =>
        rw [same]
        exact unindexed key starts
    | fresh id unknown unused =>
        change Function.update middle.jobIndex other (some id) key = none
        rw [Function.update_of_ne, same]
        · exact unindexed key starts
        · rintro rfl
          rw [starts] at plain
          cases plain
  cases deed with
  | enqueue queue payload other delay plain orders enqueued =>
      refine kept enqueued ?_ rfl
      cases other <;> first | rfl | cases plain
  | trigger eventId prospectId which seen since lead found state enqueued =>
      exact absurd which (idle eventId)
  | draft touchId item new drafting met enqueued => exact kept enqueued rfl rfl
  | approve touchId actor item which found held enqueued => exact kept enqueued rfl rfl
  | send touchId item lead owner met mailbox ref sendable queued vouched planned =>
      cases planned with
      | idle none => exact unindexed key starts
      | last spec budgeted found ended owner entity => exact unindexed key starts
      | next spec budgeted found more enqueued => exact kept enqueued rfl rfl
  | settle taskId actor finished note task item which found pending touch counted =>
      obtain ⟨_, rfl⟩ := counted_frame counted
      exact unindexed key starts
  | suppress address scope reason idle enqueued => exact kept enqueued rfl rfl
  | halt scope actor flag which enqueued => exact kept enqueued rfl rfl
  | notify address hash receiptId hashed buried enqueued => exact kept enqueued rfl rfl
  | _ => exact unindexed key starts

theorem unindexed_path (path : Relation.ReflTransGen (Deed site vouch op start) l after)
    (idle : ∀ eventId, ¬ op.triggers eventId)
    (unindexed : ∀ key, key.starts = true → l.jobIndex key = none) :
    ∀ key, key.starts = true → after.jobIndex key = none := by
  induction path with
  | refl => exact unindexed
  | tail _ deed induction => exact unindexed_deed deed idle induction

end Ledgers

section Programs

/-- What makes nobody qualified, and has nobody composed for an event. -/
def untriggering : Allowed where
  mark _ := True
  write write := ∀ db : Database, (db.ledger.unqualified → (write.apply db).ledger.unqualified) ∧
    ∀ key : JobKey, key.starts = true →
      (write.apply db).jobIndex.lookup key = db.jobIndex.lookup key
  idle _ := ⟨id, fun _ _ => rfl⟩

theorem within_untriggering_audit (subjectType subjectId event : String) (payload : Payload)
    (actor : String) : Within untriggering (audit subjectType subjectId event payload actor) :=
  within_appendRow fun _ _ => ⟨id, fun _ _ => rfl⟩

theorem within_untriggering_enqueue (queue : QueueName) (payload : JobPayload) {key : JobKey}
    (delay attempts : Nat) (plain : key.starts = false) :
    Within untriggering (enqueue queue payload key delay attempts) := by
  have jobs : untriggering.Changes Tables.jobs := fun _ _ _ _ _ => ⟨id, fun _ _ => rfl⟩
  have index : ∀ id, untriggering.write (Write.insert Tables.jobIndex key id) := by
    intro id db
    refine ⟨fun same => same, fun other starts => ?_⟩
    change (db.jobIndex.insert key id).lookup other = db.jobIndex.lookup other
    rw [Table.lookup_insert, if_neg]
    rintro ⟨rfl, _⟩
    rw [starts] at plain
    cases plain
  unfold enqueue
  refine within_bind (within_ask _) fun id => ?_
  refine within_bind (within_insertFresh index _) fun fresh => ?_
  cases fresh with
  | false => exact within_pure _
  | true =>
      exact within_bind (within_insertRow untriggering.marks_none jobs _ _ _ _) fun _ => within_pure _

theorem within_untriggering_escalate (tenant : Option String)
    (subjectType subjectId reason : String) (payload : Payload) :
    Within untriggering (escalate tenant subjectType subjectId reason payload) := by
  have escalations : untriggering.Changes Tables.escalations :=
    fun _ _ _ _ _ => ⟨id, fun _ _ => rfl⟩
  unfold escalate freshUuid
  refine within_bind (within_ask _) fun id => ?_
  exact within_insertRow untriggering.marks_none escalations _ _ _ _

theorem within_untriggering_transition (prospectId : Uuid) {target : ProspectState}
    (actor reason : String) (stable : target ≠ .qualified) :
    Within untriggering (transition prospectId target actor reason) := by
  have moves : ∀ keys chosen, untriggering.write (Write.modify Tables.prospects keys chosen
      fun row => { row with state := target }) := by
    intro keys chosen db
    refine ⟨fun unqualified id lead present => ?_, fun _ _ => rfl⟩
    change (db.prospects.modify _ _).lookup id = some lead at present
    rw [Table.lookup_modify] at present
    obtain ⟨old, found, rfl⟩ := Option.map_eq_some_iff.1 present
    split_ifs
    · exact stable
    · exact unqualified id old found
  have moved : Within untriggering (Program.update Tables.prospects
      (fun _ _ id _ => id = prospectId) (fun _ row => { row with state := target }) :
      Prog (List (Uuid × Prospect))) :=
    within_changing untriggering.marks_none (fun _ => moves) _ _
  have marks : untriggering.Marks (some (Mark.transition prospectId target actor)) :=
    fun _ _ => trivial
  have audits := within_untriggering_audit
  unfold transition
  grind

theorem within_untriggering_cooldown (email reason : String) (months : Nat) :
    Within untriggering (cooldown email reason months) := by
  have suppressions : untriggering.Changes Tables.suppressions :=
    fun _ _ _ _ _ => ⟨id, fun _ _ => rfl⟩
  exact within_upsertRow (fun _ _ => trivial) suppressions _ _ _

theorem within_untriggering_processNoShow (prospectId : Uuid) :
    Within untriggering (processNoShow prospectId) := by
  have decline : Within untriggering (tryCatch
      (transition prospectId .declined "system:noshow" "second no-show (FR-4.5)") fun error =>
        if error.kind = .transitionError then pure () else throw error : Prog Unit) := by
    refine within_handle (within_untriggering_transition _ _ _ nofun) fun error => ?_
    split_ifs
    · exact within_pure _
    · exact within_throw _
  unfold processNoShow
  refine within_bind (within_query _) fun prior => ?_
  refine within_bind (within_untriggering_audit _ _ _ _ _) fun _ => ?_
  split_ifs
  · exact within_bind (within_untriggering_enqueue _ _ _ _ rfl) fun _ => within_pure _
  · refine within_bind (within_query _) fun email => ?_
    split
    · exact within_bind (within_untriggering_cooldown _ _ _) fun _ => decline
    · exact decline

theorem within_untriggering_handleNoShowEvent (tenantId : Uuid) (selector : Payload) :
    Within untriggering (handleNoShowEvent site tenantId selector) := by
  unfold handleNoShowEvent
  split
  · exact within_pure _
  · split
    · exact within_pure _
    · exact within_bind (within_query _) fun rows =>
        within_forM (fun entry => within_untriggering_processNoShow _) rows

/-- Where nobody is qualified a trigger finds nobody to compose for. -/
theorem sees_fireTrigger (runtime : TenantRuntime) (persona : PersonaSpec) (cohort : CohortSpec)
    (eventId : Uuid) (selector : Payload) :
    Sees (fun db => db.ledger.unqualified) untriggering.write
      (fireTrigger site runtime persona cohort eventId selector) := by
  have nobody : ∀ (db : Database) (keep : Uuid → Prospect → Bool), db.ledger.unqualified →
      (∀ id row, keep id row = true → row.state = .qualified) → db.prospects.select keep = [] := by
    intro db keep unqualified picks
    apply List.eq_nil_iff_forall_not_mem.2
    rintro ⟨id, row⟩ member
    obtain ⟨found, picked⟩ := (Table.mem_select_iff _ _ _ _).1 member
    exact unqualified id row found (picks id row picked)
  unfold fireTrigger
  refine sees_ite (sees_of_within (within_untriggering_escalate _ _ _ _ _) fun _ good => good) ?_
  refine sees_ite (sees_pure _) ?_
  refine sees_query untriggering.idle fun moment db unqualified => ?_
  rw [nobody db _ unqualified]
  · refine sees_bind (sees_pure _) fun _ => ?_
    refine sees_of_within ?_ fun _ good => good
    exact within_bind (within_untriggering_enqueue _ _ _ _ rfl) fun _ => within_pure _
  · intro id row picked
    simp only [Bool.and_eq_true, decide_eq_true_eq] at picked
    exact picked.1.2

theorem sees_trigger (eventId : Uuid) :
    Sees (fun db => db.ledger.unqualified) untriggering.write (trigger site eventId) := by
  unfold trigger
  refine sees_bind (sees_of_within (within_query _) fun _ good => good) fun row => ?_
  split
  · exact sees_throw _
  · split_ifs
    · refine sees_forM (fun entry => ?_) _
      exact sees_of_within (within_untriggering_handleNoShowEvent _ _) fun _ good => good
    · refine sees_forM (fun entry => sees_forM (fun persona => sees_forM (fun cohort => ?_) _) _) _
      split_ifs
      · exact sees_fireTrigger _ _ _ _ _
      · exact sees_pure _

def Op.trigger (op : Op) : Prop := ∃ eventId, op.triggers eventId

/-- What the statements of a trigger see, and what they then write. -/
def triggerSees (op : Op) (db : Database) : Prop := op.trigger → db.ledger.unqualified

def triggerWrites (op : Op) (write : Write Database RowLock) : Prop :=
  op.trigger → untriggering.write write

theorem sees_program (op : Op) : Sees (triggerSees op) (triggerWrites op) (op.program site) := by
  by_cases triggers : op.trigger
  · have weaker : ∀ {Value : Type} {program : Prog Value},
        Sees (fun db => db.ledger.unqualified) untriggering.write program →
        Sees (triggerSees op) (triggerWrites op) program := by
      intro Value program sees
      induction program with
      | done value => trivial
      | raise error => trivial
      | statement mark body next induction =>
          refine ⟨fun moment db effect seen success => ?_, fun error => induction _ (sees.2 error)⟩
          obtain ⟨good, rest⟩ := sees.1 moment db effect (seen triggers) success
          exact ⟨fun _ => good, induction _ rest⟩
      | call query next induction => exact fun answer => induction answer (sees answer)
    obtain ⟨eventId, job, rfl, queue, payload⟩ := triggers
    have same : handler site job = trigger site eventId := by
      unfold handler
      rw [queue, payload]
    apply weaker
    change Sees _ _ (unitOut (handler site job))
    rw [same]
    exact sees_bind (sees_trigger eventId) fun _ => sees_pure _
  · exact sees_trivial (fun _ some => absurd some triggers) _

end Programs

section Runs

variable {allowed : World → Act → Prop} {begun world : World}

/-- No event has had anybody composed, and no transaction under way is about to. -/
structure Watching (world : World) : Prop where
  untriggered : world.committed.ledger.Untriggered
  each : ∀ index session, world.session index = some session →
    Seeing triggerSees triggerWrites session

/-- What a transaction that triggers has written. -/
theorem writes_of_trigger {op : Op} (triggers : op.trigger) {txn : Txn Database RowLock Mark Call}
    (good : ∀ write ∈ txn.writes, triggerWrites op write) (db : Database) :
    (db.ledger.unqualified → (txn.view db).ledger.unqualified) ∧
      ∀ key : JobKey, key.starts = true →
        (txn.view db).jobIndex.lookup key = db.jobIndex.lookup key := by
  refine ⟨fun unqualified => ?_, fun key starts => ?_⟩
  · have kept : ∀ (write : Write Database RowLock) db, untriggering.write write →
        db.ledger.unqualified → (write.apply db).ledger.unqualified :=
      fun write db wrote => (wrote db).1
    exact view_induction (fun write member => good write member triggers) kept unqualified
  · have kept : ∀ (write : Write Database RowLock) (other : Database), untriggering.write write →
        other.jobIndex.lookup key = db.jobIndex.lookup key →
          (write.apply other).jobIndex.lookup key = db.jobIndex.lookup key :=
      fun write other wrote same => ((wrote other).2 key starts).trans same
    exact view_induction (fun write member => good write member triggers) kept rfl

theorem watching_step {action : Act} {later : World} (watching : Watching world)
    (step : (service site).act action world = some later)
    (advance : Advance site rule world later action) : Watching later where
  untriggered := by
    obtain ⟨unqualified, unindexed, unordered⟩ := watching.untriggered
    cases advance with
    | idle same =>
        rw [same]
        exact watching.untriggered
    | clock ticks moved =>
        rw [moved]
        exact ⟨unqualified, unindexed, unordered⟩
    | commit index session out found commits since wrote path =>
        have still : ∀ key : JobKey, key.starts = true → later.committed.ledger.jobIndex key = none := by
          by_cases triggers : session.op.trigger
          · intro key starts
            change later.committed.jobIndex.lookup key = none
            rw [wrote, (writes_of_trigger triggers (watching.each index session found).2 _).2 key
              starts]
            exact unindexed key starts
          · exact unindexed_path path (fun eventId which => triggers ⟨eventId, which⟩) unindexed
        exact ⟨unqualified_path path unqualified, still, unordered_path path unordered still⟩
  each := by
    refine seeing_step sees_program (fun op txn good triggers => ?_) step watching.each
    exact (writes_of_trigger triggers good _).1 watching.untriggered.unqualified

theorem watching_run (quiet : begun.sessions = []) (linked : Linked begun.committed.ledger)
    (untriggered : begun.committed.ledger.Untriggered) (run : Run site allowed begun world) :
    Watching world := by
  have free : ∀ world action, allowed world action →
      Vouched (fun _ _ _ _ => True) world action := vouched_free
  refine (invariant_of_advances Watching free ?_ quiet linked ⟨untriggered, ?_⟩ run).2
  · exact fun _ _ _ _ watching _ step advance => watching_step watching step advance
  · intro index session found
    rw [System.session_of_quiet quiet] at found
    cases found

end Runs

section Events

variable {begun world : World}

/-- The prospects of a cohort that an event is for. Its selector may name an address. -/
def CohortSpec.reaches (cohort : CohortSpec) (runtime : TenantRuntime) (email : Option String)
    (lead : Prospect) : Bool :=
  lead.tenantId = runtime.tenantId && lead.cohortId = cohort.id &&
    (email.isNone || lead.emailCanonical = email)

/-- The pipeline has qualified the prospect, and nobody has contacted it. -/
def Prospect.waits (lead : Prospect) : Prop := lead.state = .qualified ∨ lead.state = .queued

/-- The event starts the sequences of those who wait, and nothing else does: whom it
selects the compose handler takes. -/
structure Triggered (runtime : TenantRuntime) (cohort : CohortSpec) (email : Option String)
    (eventId : Uuid) (l after : Ledger) : Prop where
  started : ∀ id lead, l.prospects id = some lead → cohort.reaches runtime email lead = true →
    lead.waits → after.jobIndex (.triggerCompose eventId id) ≠ none ∧
      ∃ next, after.prospects id = some next ∧ next.state = .queued
  only : ∀ number work id lead, l.jobs number = some work → work.payload = .compose id 0 →
    l.prospects id = some lead → cohort.reaches runtime none lead = true →
      ∃ event, work.idempotencyKey = .triggerCompose event id
  same : ∀ id lead, l.prospects id = some lead → cohort.reaches runtime email lead = true →
    (lead.state = .qualified ↔ lead.state = .queued)

/-- Nobody waits for the event, and nobody of its cohort has been composed. -/
structure Unawaited (runtime : TenantRuntime) (cohort : CohortSpec) (email : Option String)
    (l : Ledger) : Prop where
  nobody : ∀ id lead, l.prospects id = some lead → cohort.reaches runtime email lead = true →
    lead.state ≠ .queued
  uncomposed : ∀ number work id lead, l.jobs number = some work → work.payload = .compose id 0 →
    l.prospects id = some lead → cohort.reaches runtime none lead = false

/-- An event does what it is for where there is nothing for it to do, and nowhere else. -/
theorem event_starts_waiting (quiet : begun.sessions = []) (linked : Linked begun.committed.ledger)
    (untriggered : begun.committed.ledger.Untriggered) (run : Run site unrestricted begun world)
    {index : Nat} {session : Session Database RowLock Exc Mark Call Call.Answer Op Out}
    {eventId : Uuid} (found : world.session index = some session)
    (which : session.op.triggers eventId) (runtime : TenantRuntime) (cohort : CohortSpec)
    (email : Option String) :
    Triggered runtime cohort email eventId world.committed.ledger
        (session.txn.view world.committed).ledger ↔
      Unawaited runtime cohort email world.committed.ledger := by
  obtain ⟨⟨unqualified, unindexed, unordered⟩, each⟩ :=
    watching_run quiet linked untriggered run
  have wrote := writes_of_trigger ⟨eventId, which⟩ (each index session found).2 world.committed
  constructor
  · intro triggered
    refine ⟨?_, ?_⟩
    · intro id lead present reached queued
      obtain ⟨indexed, _⟩ := triggered.started id lead present reached (Or.inr queued)
      apply indexed
      exact (wrote.2 (.triggerCompose eventId id) rfl).trans (unindexed _ rfl)
    · intro number work id lead ordered payload present
      by_contra reached
      obtain ⟨event, key⟩ := triggered.only number work id lead ordered payload present
        (Bool.not_eq_false _ ▸ reached)
      have plain := unordered number work ordered
      rw [key] at plain
      cases plain
  · intro unawaited
    refine ⟨?_, ?_, ?_⟩
    · intro id lead present reached waits
      rcases waits with qualified | queued
      · exact absurd qualified (unqualified id lead present)
      · exact absurd queued (unawaited.nobody id lead present reached)
    · intro number work id lead ordered payload present reached
      rw [unawaited.uncomposed number work id lead ordered payload present] at reached
      cases reached
    · intro id lead present reached
      have first := unqualified id lead present
      have second := unawaited.nobody id lead present reached
      exact ⟨fun qualified => absurd qualified first, fun queued => absurd queued second⟩

end Events

section Sample

def eventCohort : CohortSpec := { id := "austin", sources := [], trigger := some "license.issued" }

def eventRuntime : TenantRuntime :=
  { sampleRuntime with personas := [{ samplePersona with cohorts := [eventCohort] }] }

/-- The cohort of the sample waits for an event. -/
def eventDeployment : Deployment :=
  { sampleDeployment with
    runtimes := [("acme", eventRuntime)]
    handlers := [.enrich, .qualify, .trigger] }

/-- A prospect of the cohort is qualified, the event comes in, and its job is worked off. -/
def missedEvent : List Move :=
  [begin (.lease .enrich), go 0 16 100, begin (.lease .qualify), go 1 17 200,
    begin (.operatorEvent "license.issued" [] none), go 2 6 700, begin (.lease .trigger), go 3 7 800]

/-- The event of the session matches the cohort, the prospect waits, and it has been
composed, but not for the event. -/
def misses (world : World) : Bool :=
  match world.session 3 with
  | some ⟨.handle ⟨_, .trigger, .event 700, _, _⟩, .done _, txn⟩ =>
      (world.committed.operatorEvents.lookup 700).any (fun row =>
        some row.eventType = eventCohort.trigger) &&
      (world.committed.prospects.lookup 3).any (fun lead =>
        lead.state = .queued && eventCohort.reaches eventRuntime none lead) &&
      ((txn.view world.committed).jobIndex.lookup (.triggerCompose 700 3)).isNone
  | _ => false

theorem event_missed : ∃ (world : World) (session : Session Database RowLock Exc Mark Call Call.Answer Op Out),
    Run eventDeployment unrestricted discoveredWorld world ∧
    world.session 3 = some session ∧ session.op.triggers 700 ∧ session.program.outcome.isSome = true ∧
    (∃ row, world.committed.operatorEvents.lookup 700 = some row ∧
      some row.eventType = eventCohort.trigger) ∧
    (∃ lead, world.committed.prospects.lookup 3 = some lead ∧ lead.state = .queued ∧
      eventCohort.reaches eventRuntime none lead = true) ∧
    (session.txn.view world.committed).jobIndex.lookup (.triggerCompose 700 3) = none := by
  have tried : ((service eventDeployment).script missedEvent discoveredWorld).any misses = true := by
    decide +kernel
  obtain ⟨world, played, missed⟩ := (Option.any_eq_true _ _).1 tried
  unfold misses at missed
  split at missed
  · next id attempts limit out txn found =>
      simp only [Bool.and_eq_true, Option.isNone_iff_eq_none] at missed
      obtain ⟨⟨event, waiting⟩, unindexed⟩ := missed
      obtain ⟨row, known, type⟩ := (Option.any_eq_true _ _).1 event
      obtain ⟨lead, present, holds⟩ := (Option.any_eq_true _ _).1 waiting
      simp only [Bool.and_eq_true, decide_eq_true_eq] at holds
      exact ⟨world, _, run_of_further played, found, ⟨_, rfl, rfl, rfl⟩, rfl,
        ⟨row, known, of_decide_eq_true type⟩, ⟨lead, present, holds⟩, unindexed⟩
  · cases missed

theorem discovered_untriggered : discoveredWorld.committed.ledger.Untriggered := by
  refine ⟨?_, ?_, ?_⟩
  · intro id lead present
    simp [Database.ledger, discoveredWorld, discoveredProspect] at present
    obtain ⟨rfl, rfl⟩ := present
    intro qualified
    cases qualified
  · intro key starts
    cases key with
    | triggerCompose eventId prospectId => rfl
    | _ => cases starts
  · intro id work present
    simp [Database.ledger, discoveredWorld] at present
    obtain ⟨rfl, rfl⟩ := present
    rfl

/-- At that event the cohort has somebody who waits. -/
theorem event_starts_austin : ∃ (world : World)
    (session : Session Database RowLock Exc Mark Call Call.Answer Op Out),
    Run eventDeployment unrestricted discoveredWorld world ∧ world.session 3 = some session ∧
    session.op.triggers 700 ∧ (Triggered eventRuntime eventCohort none 700 world.committed.ledger
        (session.txn.view world.committed).ledger ↔
      Unawaited eventRuntime eventCohort none world.committed.ledger) := by
  obtain ⟨world, session, run, found, which, _⟩ := event_missed
  exact ⟨world, session, run, found, which, event_starts_waiting rfl discovered_linked
    discovered_untriggered run found which eventRuntime eventCohort none⟩

theorem event_starts_nobody : ∃ (world : World)
    (session : Session Database RowLock Exc Mark Call Call.Answer Op Out),
    Run eventDeployment unrestricted discoveredWorld world ∧ world.session 3 = some session ∧
    session.op.triggers 700 ∧ session.program.outcome.isSome = true ∧
    (∃ row, world.committed.operatorEvents.lookup 700 = some row ∧
      some row.eventType = eventCohort.trigger) ∧
    ¬ Triggered eventRuntime eventCohort none 700 world.committed.ledger
      (session.txn.view world.committed).ledger := by
  obtain ⟨world, session, run, found, which, ended, event, ⟨lead, present, queued, reached⟩,
    unindexed⟩ := event_missed
  refine ⟨world, session, run, found, which, ended, event, fun triggered => ?_⟩
  exact (triggered.started 3 lead present reached (Or.inr queued)).1 unindexed

end Sample

end OpenReachout
