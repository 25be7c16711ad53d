import OpenReachout.Properties.Jobs
import OpenReachout.Properties.Stops

/-!
# Drafts and their jobs

A draft has a job that will deliver it, from the insertion of both to the delivery or
the refusal. The queue gives a job up after its last attempt, and nothing else does.
-/

namespace OpenReachout

open Relational Text

set_option autoImplicit false

variable {site : Deployment} {vouch : Mark → Ledger → Prop} {op : Op} {start l after : Ledger}

section Drafts

/-- A job of the touch that will be executed. -/
def Ledger.awaited (l : Ledger) (touchId : Uuid) : Prop :=
  ∃ id work, l.jobIndex (.deliver touchId) = some id ∧ l.jobs id = some work ∧
    (work.status = .ready ∨ work.status = .leased)

def Ledger.delivery (l : Ledger) (id : Nat) (touchId : Uuid) : Prop :=
  ∃ work, l.jobs id = some work ∧ work.queue = .deliver ∧ work.payload = .touch touchId

/-- Touches and their deliver jobs belong together. -/
structure Served (l : Ledger) : Prop where
  indexed : ∀ touchId id, l.jobIndex (.deliver touchId) = some id → l.delivery id touchId
  keyed : ∀ touchId id, l.delivery id touchId → l.jobIndex (.deliver touchId) = some id
  reviewed : ∀ touchId id, l.jobIndex (.deliver touchId) = some id →
    ∃ item, l.touches touchId = some item ∧ item.status ≠ .pendingReview
  waiting : ∀ touchId item, l.touches touchId = some item → item.status = .drafted →
    l.awaited touchId

/-- The operation takes a job out of the queue for good. -/
inductive Op.ends (op : Op) (id : Nat) : Prop where
  | complete (job : Job) (which : op = .complete job) (mine : job.id = id)
  | bury (job : Job) (text : String)
      (which : (∃ permanent, op = .fail job text permanent ∧ job.exhausted permanent = true) ∨
        ∃ error, op = .complianceAlert job error ∧ text = "compliance: " ++ error)
      (mine : job.id = id)

theorem delivery_later {id : Nat} {touchId : Uuid} (delivery : l.delivery id touchId)
    (later : Later l after) : after.delivery id touchId := by
  obtain ⟨work, found, queue, payload⟩ := delivery
  obtain ⟨next, kept, same⟩ := later.jobs id work found
  exact ⟨next, kept, same.queue.trans queue, same.payload.trans payload⟩

theorem delivery_key {key : JobKey} {queue : QueueName} {payload : JobPayload} {touchId : Uuid}
    (orders : key.orders queue payload) (delivers : queue = .deliver)
    (mine : payload = .touch touchId) : key = .deliver touchId := by
  rw [delivers, mine] at orders
  cases key with
  | deliver other =>
      obtain ⟨_, same⟩ := orders
      rw [JobPayload.touch.inj same]
  | compose prospectId => cases orders.1
  | followup prospectId stepIndex => cases orders.1
  | triggerCompose eventId prospectId => cases orders.1
  | pause email scope reason => cases orders.1
  | halt scope flag => cases orders.1
  | forget hash => cases orders.1
  | _ => exact absurd rfl orders.1

theorem reviewed_later {touchId : Uuid} {item : Touch} (found : l.touches touchId = some item)
    (held : item.status ≠ .pendingReview) (later : Later l after) :
    ∃ item, after.touches touchId = some item ∧ item.status ≠ .pendingReview := by
  obtain ⟨next, kept, moved⟩ := later.touches touchId item found
  refine ⟨next, kept, fun review => held ?_⟩
  have stage := moved.stage
  rw [review] at stage
  cases status : item.status with
  | pendingReview => rfl
  | _ =>
      rw [status] at stage
      exact absurd stage (by decide)

/-- A touch that a deed makes a draft has its job from then on. -/
theorem drafted_of_deed (deed : Deed site vouch op start l after) {touchId : Uuid} {new : Touch}
    (present : after.touches touchId = some new) (draft : new.status = .drafted) :
    (∃ old, l.touches touchId = some old ∧ old.status = .drafted) ∨
      (∀ old, l.touches touchId = some old → old.status = .pendingReview) ∧
        after.jobIndex (.deliver touchId) ≠ none := by
  rcases touch_of_deed deed present with same | ⟨absent, inserted⟩ | ⟨old, found, step⟩
  · exact Or.inl ⟨new, same, draft⟩
  · cases inserted with
    | held status drafting met =>
        rw [draft] at status
        cases status
    | drafted status drafting queued met =>
        refine Or.inr ⟨fun old found => ?_, queued⟩
        rw [absent] at found
        cases found
    | parked status kind met =>
        rw [draft] at status
        cases status
  · cases step with
    | approve actor which held queued =>
        refine Or.inr ⟨fun other there => ?_, queued⟩
        obtain rfl := Option.some.inj (found.symm.trans there)
        exact held
    | settle taskId actor note finished task which there pending mine closed =>
        cases finished <;> cases draft
    | erase ref which => exact Or.inl ⟨old, found, draft⟩
    | _ => cases draft

/-- A key for a delivery is taken together with its touch. -/
theorem touch_of_indexed (deed : Deed site vouch op start l after) {touchId : Uuid} {id : Nat}
    (known : after.jobIndex (.deliver touchId) = some id) :
    l.jobIndex (.deliver touchId) = some id ∨
      ∃ item, after.touches touchId = some item ∧ item.status ≠ .pendingReview := by
  have made : ∀ {middle : Ledger} {time : Time} {queue : QueueName} {payload : JobPayload}
      {key : JobKey} {delay : Nat}, Enqueued time queue payload key delay middle after →
      middle.jobIndex = l.jobIndex → key ≠ .deliver touchId →
      l.jobIndex (.deliver touchId) = some id := by
    intro middle time queue payload key delay enqueued same other
    rw [← same]
    cases enqueued with
    | known present => exact known
    | fresh new unknown unused =>
        change Function.update middle.jobIndex key (some new) (.deliver touchId) = some id at known
        rw [Function.update_of_ne (Ne.symm other)] at known
        exact known
  cases deed with
  | enqueue queue payload key delay plain orders enqueued =>
      refine Or.inl (made enqueued rfl ?_)
      rintro rfl
      cases plain
  | trigger eventId prospectId which seen since lead found state enqueued =>
      exact Or.inl (made enqueued rfl nofun)
  | draft other item new drafting met enqueued =>
      by_cases same : other = touchId
      · subst same
        obtain ⟨_, _, rfl⟩ := enqueued_frame enqueued
        have there : (l.setTouch other item).touches other = some item := Function.update_self _ _ _
        refine Or.inr ⟨item, there, ?_⟩
        rw [new.status]
        decide
      · exact Or.inl (made enqueued rfl fun key => same (JobKey.deliver.inj key))
  | approve other actor item which found held enqueued =>
      by_cases same : other = touchId
      · subst same
        obtain ⟨_, _, rfl⟩ := enqueued_frame enqueued
        have there : (l.setTouch other { item with status := .drafted }).touches other =
            some { item with status := .drafted } := Function.update_self _ _ _
        exact Or.inr ⟨_, there, nofun⟩
      · exact Or.inl (made enqueued rfl fun key => same (JobKey.deliver.inj key))
  | send other item lead owner met mailbox ref sendable queued vouched planned =>
      cases planned with
      | idle none => exact Or.inl known
      | last spec budgeted found ended owner present => exact Or.inl known
      | next spec budgeted found more enqueued => exact Or.inl (made enqueued rfl nofun)
  | settle taskId actor finished note task item which found pending touch counted =>
      obtain ⟨_, rfl⟩ := counted_frame counted
      exact Or.inl known
  | suppress address scope reason idle enqueued => exact Or.inl (made enqueued rfl nofun)
  | halt scope actor flag which enqueued => exact Or.inl (made enqueued rfl nofun)
  | notify address hash receiptId hashed buried enqueued =>
      exact Or.inl (made enqueued rfl nofun)
  | _ => exact Or.inl known

theorem served_deed (deed : Deed site vouch op start l after) (served : Served l)
    (past : ∀ id touchId, op.ends id → l.delivery id touchId → after.past touchId) :
    Served after := by
  have onward : Later l after := deed_later _ _ _ _ deed
  have fresh : ∀ touchId id, l.jobIndex (.deliver touchId) = none →
      after.jobIndex (.deliver touchId) = some id → l.jobs id = none ∧
        ∃ work, after.jobs id = some work ∧ work.idempotencyKey = .deliver touchId ∧
          work.Fresh after id := by
    intro touchId id unknown known
    rcases indexed_of_deed deed known with old | ⟨_, unused, work, found, key⟩
    · rw [unknown] at old
      cases old
    · refine ⟨unused, work, found, key, ?_⟩
      rcases job_of_deed deed found with old | ⟨_, fresh⟩ | ⟨old, there, _⟩
      · rw [unused] at old
        cases old
      · exact fresh
      · rw [unused] at there
        cases there
  constructor
  · intro touchId id known
    cases before : l.jobIndex (.deliver touchId) with
    | some other =>
        obtain ⟨_, kept, rfl⟩ := onward.jobIndex _ other before
        obtain rfl := Option.some.inj (kept.symm.trans known)
        exact delivery_later (served.indexed touchId _ before) onward
    | none =>
        obtain ⟨_, work, found, key, fresh⟩ := fresh touchId id before known
        have orders := fresh.orders
        rw [key] at orders
        exact ⟨work, found, orders.1, orders.2⟩
  · rintro touchId id ⟨work, found, queue, payload⟩
    have kept : ∀ old, l.jobs id = some old → old.queue = work.queue →
        old.payload = work.payload → after.jobIndex (.deliver touchId) = some id := by
      intro old there sameQueue samePayload
      have known := served.keyed touchId id
        ⟨old, there, sameQueue.trans queue, samePayload.trans payload⟩
      obtain ⟨_, kept, rfl⟩ := onward.jobIndex _ id known
      exact kept
    rcases job_of_deed deed found with same | ⟨_, fresh⟩ | ⟨old, there, step⟩
    · exact kept work same rfl rfl
    · rw [← delivery_key fresh.orders queue payload]
      exact fresh.keyed
    · obtain ⟨next, found', same⟩ := onward.jobs id old there
      obtain rfl := Option.some.inj (found.symm.trans found')
      exact kept old there same.queue.symm same.payload.symm
  · intro touchId id known
    rcases touch_of_indexed deed known with old | made
    · obtain ⟨item, found, held⟩ := served.reviewed touchId id old
      exact reviewed_later found held onward
    · exact made
  · intro touchId item present draft
    rcases drafted_of_deed deed present draft with ⟨old, found, status⟩ | ⟨review, queued⟩
    · obtain ⟨id, work, known, there, live⟩ := served.waiting touchId old found status
      obtain ⟨_, kept, rfl⟩ := onward.jobIndex _ id known
      obtain ⟨next, shown, _⟩ := onward.jobs id work there
      refine ⟨id, next, kept, shown, ?_⟩
      have ended : ¬ op.ends id := by
        intro ends
        obtain ⟨passed, other, stage⟩ := past id touchId ends (served.indexed touchId id known)
        obtain rfl := Option.some.inj (present.symm.trans other)
        rw [draft] at stage
        cases stage
      rcases job_of_deed deed shown with same | ⟨absent, _⟩ | ⟨before, found, step⟩
      · obtain rfl := Option.some.inj (there.symm.trans same)
        exact live
      · rw [there] at absent
        cases absent
      · obtain rfl := Option.some.inj (there.symm.trans found)
        cases step with
        | lease queue which ready => exact Or.inr rfl
        | complete job which mine => exact absurd (.complete job which mine) ended
        | retry job error permanent which left mine => exact Or.inl rfl
        | bury job text which mine => exact absurd (.bury job text which mine) ended
        | reap which leased expired => exact Or.inl rfl
    · obtain ⟨id, known⟩ := Option.ne_none_iff_exists'.1 queued
      have unknown : l.jobIndex (.deliver touchId) = none := by
        cases before : l.jobIndex (.deliver touchId) with
        | none => rfl
        | some other =>
            obtain ⟨old, found, held⟩ := served.reviewed touchId other before
            exact absurd (review old found) held
      obtain ⟨_, work, found, _, fresh⟩ := fresh touchId id unknown known
      exact ⟨id, work, known, found, Or.inl fresh.status⟩

theorem served_path (path : Relation.ReflTransGen (Deed site vouch op start) l after)
    (served : Served l) (known : ∀ id, op.ends id → (l.jobs id).isSome = true)
    (past : ∀ id touchId, op.ends id → l.delivery id touchId → l.past touchId) : Served after := by
  induction path with
  | refl => exact served
  | tail path deed induction =>
      refine served_deed deed induction fun id touchId ends ⟨work, found, queue, payload⟩ => ?_
      obtain ⟨first, there⟩ := Option.isSome_iff_exists.1 (known id ends)
      obtain ⟨next, kept, same⟩ := (path_later path).jobs id first there
      obtain rfl := Option.some.inj (found.symm.trans kept)
      have delivery : l.delivery id touchId :=
        ⟨first, there, same.queue.symm.trans queue, same.payload.symm.trans payload⟩
      exact past_later (past id touchId ends delivery)
        (later_trans (path_later path) (deed_later _ _ _ _ deed))

end Drafts

section Completion

variable {rely : Database → Database → Prop}

theorem careful_enqueue (queue : QueueName) (payload : JobPayload) (key : JobKey) (delay : Nat) :
    Program.Careful rely (enqueue queue payload key delay) := by
  unfold enqueue
  refine Program.careful_bind (Program.careful_ask _) fun id => ?_
  refine Program.careful_bind (Program.intact_perform _ _).careful fun new => ?_
  split_ifs
  · refine Program.careful_bind ?_ fun _ => Program.careful_pure _
    exact (Program.intact_perform _ _).careful
  · exact Program.careful_pure _

theorem careful_planNextStep (prospectId : Uuid) (draft : DraftTouch) :
    Program.Careful rely (planNextStep site prospectId draft) := by
  unfold planNextStep
  split_ifs
  · exact Program.careful_pure _
  · refine Program.careful_bind (Program.intact_perform _ _).careful fun persona => ?_
    dsimp only
    split
    · exact Program.careful_pure _
    · split_ifs
      · refine Program.careful_bind ?_ fun _ => Program.careful_pure _
        exact Program.careful_bind (Program.intact_perform _ _).careful
          fun _ => Program.careful_pure _
      · exact Program.careful_bind (careful_enqueue _ _ _ _) fun _ => Program.careful_pure _

theorem careful_transition (prospectId : Uuid) (target : ProspectState) (actor reason : String) :
    Program.Careful rely (transition prospectId target actor reason) := by
  unfold transition
  refine Program.careful_bind (Program.intact_perform _ _).careful fun rows => ?_
  split
  · exact (Program.intact_throw _).careful
  · dsimp only
    split_ifs
    · refine Program.careful_bind (Program.intact_perform _ _).careful fun _ => ?_
      exact (Program.intact_perform _ _).careful
    · exact (Program.intact_throw _).careful

theorem intact_dispatch (touchId : Uuid) (draft : DraftTouch) (ref : Payload) :
    Program.Intact rely (dispatch site touchId draft ref) := by
  have marked : ∀ prospectId, Program.Careful rely (do
      let current ← Program.query fun _ db => (db.prospects.lookup prospectId).map Prospect.state
      if current = some .queued then
        transition prospectId .contacted "system:deliver"
      let _ ← setTouchStatus .dispatched none (fun _ _ id _ => id = touchId)
        fun moment row => { row with sentAt := some moment.start.clock, providerRef := some ref }
      planNextStep site prospectId draft) := by
    intro prospectId
    refine Program.careful_bind (Program.intact_perform _ _).careful fun current => ?_
    dsimp only
    split_ifs
    · refine Program.careful_bind (careful_transition _ _ _ _) fun _ => ?_
      exact Program.careful_bind (Program.intact_perform _ _).careful
        fun _ => careful_planNextStep _ _
    · exact Program.careful_bind (Program.intact_perform _ _).careful
        fun _ => careful_planNextStep _ _
  have row : Program.Careful rely (dispatchRow site touchId draft ref) := by
    unfold dispatchRow
    refine Program.careful_bind (Program.intact_perform _ _).careful fun row => ?_
    cases row with
    | none => exact Program.careful_pure _
    | some row => exact marked row.prospectId
  unfold dispatch
  refine Program.intact_bind (Program.intact_perform _ _) fun touch => ?_
  dsimp only
  split
  · split_ifs
    · exact Program.careful_bind (Program.intact_perform _ _).careful fun _ => row
    · exact row
  · exact row

/-- A delivery that returns has not gone past a statement that failed: what a claim
catches it refuses, and a refusal that is not terminal is raised. -/
theorem careful_deliver (touchId : Uuid) : Program.Careful rely (deliver site touchId) := by
  unfold deliver
  refine Program.careful_bind (Program.intact_perform _ _).careful fun status => ?_
  split_ifs
  · exact Program.careful_pure _
  · exact (Program.intact_throw _).careful
  · refine Program.careful_bind (Program.intact_perform _ _).careful fun tenant => ?_
    split
    · exact (Program.intact_throw _).careful
    · next ctx _ =>
        have load : Program.Careful rely (loadGateDraft touchId ctx) := by
          unfold loadGateDraft
          refine Program.careful_bind (Program.intact_perform _ _).careful fun row => ?_
          split
          · exact Program.careful_pure _
          · split_ifs
            · exact Program.careful_pure _
            · split
              · exact (Program.intact_throw _).careful
              · exact Program.careful_pure _
        refine Program.careful_bind load fun loaded => ?_
        cases loaded with
        | none => exact (Program.intact_throw _).careful
        | some draft =>
            refine (Program.intact_of_rest fun result => ?_).careful
            cases result with
            | refused refusal =>
                dsimp only
                split_ifs
                · unfold releaseRefused
                  exact Program.intact_bind (Program.intact_perform _ _)
                    fun _ => (Program.intact_perform _ _).careful
                · exact Program.intact_throw _
            | claimed claimed => exact Program.intact_of_rest fun ref => intact_dispatch _ _ _

variable {world next : World}

theorem past_of_delivered {index : Nat} {job : Job} {touchId : Uuid} {out : Out}
    {session : Session Database RowLock Exc Mark Call Call.Answer Op Out} (sane : Sane site world)
    (found : world.session index = some session) (which : session.op = .handle job)
    (queue : job.queue = .deliver) (payload : job.payload = .touch touchId)
    (there : session.txn.start.ledger.touches touchId ≠ none)
    (ended : session.program.outcome = some (.ok out))
    (step : (service site).act (.finish index) world = some next) :
    next.committed.ledger.past touchId := by
  have program : session.op.program site = unitOut (deliver site touchId) := by
    obtain ⟨id, name, text, attempts, limit⟩ := job
    cases queue
    cases payload
    rw [which]
    rfl
  have careful : Program.Careful Progress (session.op.program site) := by
    rw [program]
    exact Program.careful_bind (careful_deliver touchId) fun _ => Program.careful_pure _
  have commits := committing_of_outcome sane.sound found careful ended
  have delivers : session.op.delivers touchId := ⟨job, which, queue, payload⟩
  have brings : (outreach site (fun _ _ => True) session.op).Brings [] (session.op.program site)
      fun start _ before after => Handled site (fun _ _ => True) session.op touchId start before
        after := by
    rw [program]
    exact (Abstraction.brings_map (brings_deliver delivers) fun _ => Out.unit).mono
      fun _ _ _ _ ⟨_, _, handled⟩ => handled
  obtain ⟨_, _, past⟩ := brings_commit sane.sound sane.begun found commits
    (fun _ _ => trivial) brings
  obtain ⟨op, body, txn⟩ := session
  obtain ⟨rfl, intact⟩ := commits
  rw [committed_of_finish found intact step]
  exact past there

end Completion

section Backlogs

variable {world later : World}

/-- The operation gives the job up. -/
def Op.buries (op : Op) (job : Job) : Prop :=
  (∃ error permanent, op = .fail job error permanent ∧ job.exhausted permanent = true) ∨
    ∃ error, op = .complianceAlert job error

/-- A deliver job is not given up while its touch is a draft. -/
def GivesUpPast (world : World) (action : Act) : Prop :=
  ∀ index session out, action = .finish index → world.session index = some session →
    Committing session out → ∀ job touchId, session.op.buries job → job.queue = .deliver →
      job.payload = .touch touchId → ∀ item, world.committed.touches.lookup touchId = some item →
        item.status ≠ .drafted

/-- The jobs in hand are those of the queue, and a delivery that is to be completed
has taken place. -/
structure InDelivery (world : World) : Prop where
  served : Served world.committed.ledger
  hands : ∀ index session job, world.session index = some session → session.op.job = some job →
    ∃ work, world.committed.ledger.jobs job.id = some work ∧ work.queue = job.queue ∧
      work.payload = job.payload
  begun : ∀ index session job touchId, world.session index = some session →
    session.op.job = some job → job.queue = .deliver → job.payload = .touch touchId →
      session.txn.start.ledger.touches touchId ≠ none
  completed : ∀ index session job touchId, world.session index = some session →
    session.op = .complete job → job.queue = .deliver → job.payload = .touch touchId →
      world.committed.ledger.past touchId

theorem InDelivery.there (delivering : InDelivery world) {index : Nat} {job : Job}
    {touchId : Uuid} {session : Session Database RowLock Exc Mark Call Call.Answer Op Out}
    (found : world.session index = some session) (hand : session.op.job = some job)
    (queue : job.queue = .deliver) (payload : job.payload = .touch touchId) :
    ∃ item, world.committed.ledger.touches touchId = some item ∧ item.status ≠ .pendingReview := by
  obtain ⟨work, present, sameQueue, samePayload⟩ := delivering.hands index session job found hand
  have known := delivering.served.keyed touchId job.id
    ⟨work, present, sameQueue.trans queue, samePayload.trans payload⟩
  exact delivering.served.reviewed touchId job.id known

theorem served_advance {action : Act} (delivering : InDelivery world)
    (past : GivesUpPast world action)
    (advance : Advance site (fun _ _ _ _ => True) world later action) :
    Served later.committed.ledger := by
  cases advance with
  | idle same =>
      rw [same]
      exact delivering.served
  | clock ticks moved =>
      rw [moved]
      exact ⟨delivering.served.indexed, delivering.served.keyed, delivering.served.reviewed,
        delivering.served.waiting⟩
  | commit index session out found commits since wrote path =>
      refine served_path path delivering.served ?_ ?_
      · intro id ends
        have hand : ∃ job, session.op.job = some job ∧ job.id = id := by
          cases ends with
          | complete job which mine => exact ⟨job, by rw [which]; rfl, mine⟩
          | bury job text which mine =>
              rcases which with ⟨permanent, which, _⟩ | ⟨error, which, _⟩
              · exact ⟨job, by rw [which]; rfl, mine⟩
              · exact ⟨job, by rw [which]; rfl, mine⟩
        obtain ⟨job, hand, rfl⟩ := hand
        obtain ⟨work, present, _⟩ := delivering.hands index session job found hand
        rw [present]
        rfl
      · rintro id touchId ends ⟨work, present, queue, payload⟩
        have mine : ∀ job : Job, session.op.job = some job → job.id = id →
            job.queue = .deliver ∧ job.payload = .touch touchId := by
          rintro job hand rfl
          obtain ⟨row, there, sameQueue, samePayload⟩ :=
            delivering.hands index session job found hand
          obtain rfl := Option.some.inj (present.symm.trans there)
          exact ⟨sameQueue.symm.trans queue, samePayload.symm.trans payload⟩
        cases ends with
        | complete job which same =>
            obtain ⟨queue, payload⟩ := mine job (by rw [which]; rfl) same
            exact delivering.completed index session job touchId found which queue payload
        | bury job text which same =>
            have hand : session.op.job = some job := by
              rcases which with ⟨permanent, which, _⟩ | ⟨error, which, _⟩
              · rw [which]
                rfl
              · rw [which]
                rfl
            have buries : session.op.buries job := by
              rcases which with ⟨permanent, which, spent⟩ | ⟨error, which, _⟩
              · exact Or.inl ⟨text, permanent, which, spent⟩
              · exact Or.inr ⟨error, which⟩
            obtain ⟨queue, payload⟩ := mine job hand same
            obtain ⟨item, shown, held⟩ := delivering.there found hand queue payload
            have undrafted := past index session out rfl found commits job touchId buries queue
              payload item shown
            refine ⟨item, shown, ?_⟩
            cases status : item.status with
            | pendingReview => exact absurd status held
            | drafted => exact absurd status undrafted
            | _ => rfl

theorem delivering_step {action : Act} (sane : Sane site world) (delivering : InDelivery world)
    (past : GivesUpPast world action) (step : (service site).act action world = some later)
    (advance : Advance site (fun _ _ _ _ => True) world later action) : InDelivery later := by
  have served := served_advance delivering past advance
  have onward := later_advance advance
  have vouched := vouched_free world action past
  have hands : ∀ index session job, later.session index = some session →
      session.op.job = some job → ∃ work, later.committed.ledger.jobs job.id = some work ∧
        work.queue = job.queue ∧ work.payload = job.payload := by
    intro index session job found hand
    rcases job_of_origin sane vouched step found hand with ⟨old, there, same, _⟩ |
      ⟨_, queue, time, work, handed⟩
    · obtain ⟨work, present, queue, payload⟩ := delivering.hands index old job there same
      obtain ⟨next, kept, same⟩ := onward.jobs job.id work present
      exact ⟨next, kept, same.queue.trans queue, same.payload.trans payload⟩
    · refine ⟨work.leased time, handed.leased, ?_, ?_⟩
      · rw [handed.same]
        rfl
      · rw [handed.same]
        rfl
  have there : ∀ index session job touchId, later.session index = some session →
      session.op.job = some job → job.queue = .deliver → job.payload = .touch touchId →
        later.committed.ledger.touches touchId ≠ none := by
    intro index session job touchId found hand queue payload
    obtain ⟨work, present, sameQueue, samePayload⟩ := hands index session job found hand
    have known := served.keyed touchId job.id
      ⟨work, present, sameQueue.trans queue, samePayload.trans payload⟩
    obtain ⟨item, shown, _⟩ := served.reviewed touchId job.id known
    rw [shown]
    nofun
  refine ⟨served, hands, ?_, ?_⟩
  · intro index session job touchId found hand queue payload
    cases act_origin step found with
    | same old present op start other =>
        rw [start]
        exact delivering.begun index old job touchId present (by rw [← op]; exact hand) queue payload
    | entered entry start =>
        rw [start]
        exact there index session job touchId found hand queue payload
    | followed old outcome which present ended next start =>
        rw [start]
        exact there index session job touchId found hand queue payload
  · intro index session job touchId found which queue payload
    cases act_origin step found with
    | same old present op start other =>
        exact past_later (delivering.completed index old job touchId present (by rw [← op, which])
          queue payload) onward
    | entered entry start =>
        change session.op.entry site = true at entry
        rw [which] at entry
        cases entry
    | followed old outcome finished present ended next start =>
        subst finished
        change Op.next old.op outcome = some session.op at next
        rw [which] at next
        cases former : old.op with
        | handle handled =>
            rw [former] at next
            cases outcome with
            | ok out =>
                obtain rfl := Op.complete.inj (Option.some.inj next)
                have begun := delivering.begun index old handled touchId present
                  (by rw [former]; rfl) queue payload
                exact past_of_delivered sane present former queue payload begun ended step
            | error error =>
                simp only [Op.next] at next
                split at next <;> cases next
        | lease name =>
            rw [former] at next
            cases outcome with
            | error error => cases next
            | ok out =>
                cases out with
                | leased given => cases given <;> cases next
                | _ => cases next
        | _ =>
            rw [former] at next
            cases outcome <;> cases next

theorem sample_served : Served sampleWorld.committed.ledger := by
  have job : ∀ id work, sampleWorld.committed.ledger.jobs id = some work →
      id = 5 ∧ work = sampleJob := by
    intro id work found
    simp [Database.ledger, sampleWorld, sampleDatabase] at found
    exact ⟨found.1, found.2.symm⟩
  have index : ∀ touchId id, sampleWorld.committed.ledger.jobIndex (.deliver touchId) = some id →
      touchId = 4 ∧ id = 5 := by
    intro touchId id known
    simp [Database.ledger, sampleWorld, sampleDatabase] at known
    exact ⟨known.1, known.2.symm⟩
  constructor
  · intro touchId id known
    obtain ⟨rfl, rfl⟩ := index touchId id known
    exact ⟨sampleJob, rfl, rfl, rfl⟩
  · rintro touchId id ⟨work, found, _, payload⟩
    obtain ⟨rfl, rfl⟩ := job id work found
    obtain rfl := JobPayload.touch.inj payload
    rfl
  · intro touchId id known
    obtain ⟨rfl, rfl⟩ := index touchId id known
    exact ⟨sampleTouch, rfl, by decide⟩
  · intro touchId item found draft
    simp [Database.ledger, sampleWorld, sampleDatabase] at found
    obtain ⟨rfl, rfl⟩ := found
    exact ⟨5, sampleJob, rfl, rfl, Or.inl rfl⟩

/-- One attempt that is refused while everything is halted, and the wait after it. -/
def refusedAttempt (index : Nat) : List Move :=
  [begin (.lease .deliver), go index 9, .inl (.advance (seconds 1000))]

/-- A halt that outlasts the attempts of the deliver job. -/
def longHalt : List Move :=
  halted ++ [go 0 1] ++ refusedAttempt 1 ++ refusedAttempt 2 ++ refusedAttempt 3 ++
    refusedAttempt 4 ++ refusedAttempt 5

end Backlogs

end OpenReachout
