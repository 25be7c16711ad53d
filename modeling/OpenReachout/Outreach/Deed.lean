import OpenReachout.Outreach.Ledger
import OpenReachout.Relational.Commit

/-!
# Deeds

Everything a transaction of the service can do to the ledger, one constructor for
each deed. Rows a deed changes are as they are when the transaction commits; what
it has only read it read at some ledger `seen` since its start. A run condition
vouches for the statements that carry a mark.
-/

namespace OpenReachout

open Relational Text

set_option autoImplicit false

def Op.delivers (op : Op) (touchId : Uuid) : Prop :=
  ∃ job : Job, op = .handle job ∧ job.queue = .deliver ∧ job.payload = .touch touchId

def Op.composes (op : Op) (prospectId : Uuid) (stepIndex : Nat) : Prop :=
  ∃ job : Job, op = .handle job ∧ job.queue = .compose ∧
    job.payload = .compose prospectId stepIndex

def Op.triggers (op : Op) (eventId : Uuid) : Prop :=
  ∃ job : Job, op = .handle job ∧ job.queue = .trigger ∧ job.payload = .event eventId

def Op.works (op : Op) (queue : QueueName) (prospectId : Uuid) : Prop :=
  ∃ job : Job, op = .handle job ∧ job.queue = queue ∧ job.payload = .prospect prospectId

/-- The queue and the payload of the job that has a key. -/
def JobKey.orders (key : JobKey) (queue : QueueName) (payload : JobPayload) : Prop :=
  match key with
  | .deliver touchId => queue = .deliver ∧ payload = .touch touchId
  | .compose prospectId => queue = .compose ∧ payload = .compose prospectId 0
  | .followup prospectId stepIndex =>
      queue = .compose ∧ payload = .compose prospectId stepIndex ∧ 1 ≤ stepIndex
  | .triggerCompose _ prospectId => queue = .compose ∧ payload = .compose prospectId 0
  | .pause email scope _ => queue = .control ∧ payload = .pauseLead email scope
  | .halt scope _ => queue = .control ∧ payload = .pauseAllCampaigns scope
  | .forget _ => queue = .control ∧ ∃ email receiptId, payload = .deleteLead email receiptId
  | _ => queue ≠ .deliver ∧ queue ≠ .compose ∧ queue ≠ .control

/-- Keys of jobs that no other row depends on. -/
def JobKey.plain : JobKey → Bool
  | .deliver _ | .followup _ _ | .triggerCompose _ _ | .pause _ _ _ | .halt _ _ | .forget _ => false
  | _ => true

/-- The operations that move jobs. -/
def Op.settles : Op → Bool
  | .lease _ | .reapExpired | .complete _ | .fail _ _ _ | .complianceAlert _ _ => true
  | _ => false

def Op.approves (op : Op) : Prop :=
  (∃ proposalId actor, op = .approveProposal proposalId actor) ∨
    ∃ tenant cohortLaunch, op = .autoReview tenant cohortLaunch

/-- The operation proposes what the row says. -/
def Op.files (op : Op) (time : Time) (row : ProposalRow) : Prop :=
  op = .propose row.tenant row.kind row.payload row.dedupeKey ∧ row.createdAt = time

theorem Op.files.idle {op : Op} {time : Time} {row : ProposalRow} (files : op.files time row) :
    ¬ op.approves := by
  obtain ⟨rfl, _⟩ := files
  rintro (⟨_, _, which⟩ | ⟨_, _, which⟩) <;> cases which

def Op.discovers (op : Op) : Prop := ∃ job : Job, op = .handle job ∧ job.queue = .discover

def Op.handles (op : Op) : Prop := ∃ job : Job, op = .handle job

theorem Op.handles.idle {op : Op} (handles : op.handles) : op.settles = false := by
  obtain ⟨job, rfl⟩ := handles
  rfl

/-- States that a prospect enters by a plain transition. -/
def ProspectState.plain : ProspectState → Bool
  | .discovered | .enriched | .qualified | .queued | .contacted | .noResponse | .forgotten => false
  | _ => true

def TouchKind.budgeted (kind : TouchKind) : Bool := (profileOf kind).budgeted

section Rows

variable (l : Ledger)

abbrev Ledger.setTouch (touchId : Uuid) (item : Touch) : Ledger :=
  { l with touches := Function.update l.touches touchId (some item) }

abbrev Ledger.setProspect (prospectId : Uuid) (lead : Prospect) : Ledger :=
  { l with prospects := Function.update l.prospects prospectId (some lead) }

abbrev Ledger.setEntity (entityId : Uuid) (owner : Entity) : Ledger :=
  { l with entities := Function.update l.entities entityId (some owner) }

abbrev Ledger.setJob (id : Nat) (work : JobRow) : Ledger :=
  { l with jobs := Function.update l.jobs id (some work) }

abbrev Ledger.setTask (taskId : Uuid) (task : HumanTask) : Ledger :=
  { l with tasks := Function.update l.tasks taskId (some task) }

abbrev Ledger.setReply (replyId : Uuid) (reply : Reply) : Ledger :=
  { l with replies := Function.update l.replies replyId (some reply) }

abbrev Ledger.setSuppression (key : String × String) (row : Suppression) : Ledger :=
  { l with suppressions := Function.update l.suppressions key (some row) }

abbrev Ledger.setTombstone (hash : String) (row : Tombstone) : Ledger :=
  { l with tombstones := Function.update l.tombstones hash (some row) }

abbrev Ledger.setFlag (scope : String) (flag : Option ControlFlag) : Ledger :=
  { l with flags := Function.update l.flags scope flag }

abbrev Ledger.setProposal (proposalId : Uuid) (proposal : ProposalRow) : Ledger :=
  { l with proposals := Function.update l.proposals proposalId (some proposal) }

def ProposalRow.settled (proposal : ProposalRow) (status : ProposalStatus) (time : Time)
    (actor : String) : ProposalRow :=
  { proposal with status, resolvedAt := some time, resolvedBy := some actor }

def HumanTask.settled (task : HumanTask) (time : Time) (actor note : String) (finished : Bool) :
    HumanTask :=
  { task with
    status := if finished then .done else .skipped
    resolvedAt := some time
    resolvedBy := some actor
    outcomeNote := some note }

def HumanTask.lapsed (task : HumanTask) (time : Time) : HumanTask :=
  { task with
    status := .expired, resolvedAt := some time, resolvedBy := some "system:expiry" }

/-- The touch of a task is sent or released, whatever it was. -/
def Touch.settled (item : Touch) (time : Time) (finished : Bool) : Touch :=
  if finished then { item with status := .sent, sentAt := some time }
  else { item with status := .released }

/-- A claim counts as a contact and takes the sequence. -/
def Entity.claimed (owner : Entity) (time : Time) (touchId : Uuid) : Entity :=
  { owner with
    activeSequenceTouchId := some touchId
    lastCampaignContactAt := some time
    touches12mo := owner.touches12mo + 1 }

/-- So does a task that is done, without the sequence. -/
def Entity.contacted (owner : Entity) (time : Time) : Entity :=
  { owner with lastCampaignContactAt := some time, touches12mo := owner.touches12mo + 1 }

def Prospect.addressed (lead : Prospect) (platform : Platform) (address : String)
    (bucket : ConfidenceBucket) : Prospect :=
  { lead with
    emailRaw := some address
    emailCanonical := canon platform address
    emailConfidence := some bucket
    state := if bucket = .verified then .enriched else .unenrichable }

def Touch.erased (item : Touch) : Touch :=
  { item with subject := none, body := none, scrubbed := true }

def Reply.erased (reply : Reply) : Reply := { reply with body := none, scrubbed := true }

def Prospect.erased (lead : Prospect) : Prospect :=
  { lead with emailRaw := none, emailCanonical := none, sourceRef := [], state := .forgotten }

def Entity.erased (owner : Entity) : Entity := { owner with displayName := none, forgotten := true }

/-- Some rows of a table are changed. -/
def changed {Key Row : Type} (table : Key → Option Row) (chosen : Key → Bool)
    (change : Row → Row) (key : Key) : Option Row :=
  if chosen key then (table key).map change else table key

def cleared {Key Row : Type} (table : Key → Option Row) (chosen : Key → Bool) (key : Key) :
    Option Row :=
  if chosen key then none else table key

abbrev Ledger.reaped (chosen : Nat → Bool) : Ledger :=
  { l with jobs := changed l.jobs chosen fun work =>
      { work with status := .ready, leaseUntil := none } }

abbrev Ledger.lapsed (overdue : Uuid → Bool) : Ledger :=
  { l with touches := changed l.touches overdue fun item => { item with status := .released } }

abbrev Ledger.closed (time : Time) (chosen : Uuid → Bool) : Ledger :=
  { l with tasks := changed l.tasks chosen fun task => task.lapsed time }

end Rows

/-- Whether `is_suppressed` finds an address barred. -/
def Ledger.suppressed (l : Ledger) (time : Time) (address tenant hash : String) : Prop :=
  (∃ scope row, (scope = globalScope ∨ scope = tenant) ∧
    l.suppressions (address, scope) = some row ∧ row.active time = true) ∨
  (l.tombstones hash).isSome = true

/-- A job is enqueued at `time`, or its key exists. -/
inductive Enqueued (time : Time) (queue : QueueName) (payload : JobPayload) (key : JobKey)
    (delay : Nat) (l : Ledger) : Ledger → Prop where
  | fresh (id : Nat) (unknown : l.jobIndex key = none) (unused : l.jobs id = none) :
      Enqueued time queue payload key delay l
        { l.setJob id { queue, payload, idempotencyKey := key
                        runAfter := time + seconds delay } with
          jobIndex := Function.update l.jobIndex key (some id) }
  | known (present : l.jobIndex key ≠ none) : Enqueued time queue payload key delay l l

/-- What `_queue_agentic_reply` queues. -/
def Touch.exchange (item : Touch) : Bool :=
  item.kind = .agenticReply && ":agentic_reply".toList.isSuffixOf item.campaignId.toList

def Op.classifies (op : Op) (replyId : Uuid) : Prop :=
  ∃ job : Job, op = .handle job ∧ job.queue = .classify ∧ job.payload = .reply replyId

/-- Which drafts an operation makes: a compose job the one of its step, for a
prospect it has seen in the state of that step; any other operation replies, and
in an agentic exchange the one that classifies. -/
inductive Drafting (op : Op) (start : Ledger) (item : Touch) : Prop where
  | step (composes : op.composes item.prospectId item.stepIndex)
      (kind : item.kind = if item.stepIndex = 0 then .cold else .followup)
      (seen : Ledger) (since : Later start seen) (lead : Prospect)
      (found : seen.prospects item.prospectId = some lead)
      (state : lead.state = if item.stepIndex = 0 then .queued else .contacted)
  | reply (kind : item.kind = .agenticReply) (step : item.stepIndex = 0)
      (turn : item.exchange = true → ∃ replyId, op.classifies replyId)

/-- A touch that is inserted. -/
structure NewTouch (l : Ledger) (touchId : Uuid) (item : Touch) (status : TouchStatus) : Prop where
  absent : l.touches touchId = none
  status : item.status = status
  unclaimed : item.claimedAt = none
  unsent : item.sentAt = none
  known : (l.prospects item.prospectId).isSome = true

section Sending

variable (deployment : Deployment)

/-- The entity admits a touch: a first contact where no sequence is active, a
follow-up where its prospect's is, both below the cap. -/
def Ledger.admits (l : Ledger) (item : Touch) (lead : Prospect) (owner : Entity) : Prop :=
  match profileOf item.kind with
  | .cold => l.entities lead.entityId = some owner ∧ owner.activeSequenceTouchId = none ∧
      owner.touches12mo < defaultAnnualTouchCap
  | .followup => l.entities lead.entityId = some owner ∧
      (∃ active touch, owner.activeSequenceTouchId = some active ∧
        l.touches active = some touch ∧ touch.prospectId = item.prospectId) ∧
      owner.touches12mo < defaultAnnualTouchCap
  | .reply => True

/-- A drafted touch that has passed the gates. -/
structure Sendable (op : Op) (l : Ledger) (touchId : Uuid) (item : Touch) (lead : Prospect)
    (owner : Entity) : Prop where
  delivers : op.delivers touchId
  touch : l.touches touchId = some item
  drafted : item.status = .drafted
  prospect : l.prospects item.prospectId = some lead
  admits : l.admits item lead owner

/-- The sequence that the prospect of a touch is in. -/
def Ledger.sequence (l : Ledger) (lead : Prospect) : Option SequenceSpec :=
  (l.tenants lead.tenantId).bind fun slug => sequenceFor deployment slug lead.personaId

/-- The touch is dispatched, a budgeted one takes the sequence, and a queued
prospect counts as contacted. -/
def Ledger.dispatched (l : Ledger) (time : Time) (touchId : Uuid) (item : Touch) (lead : Prospect)
    (owner : Entity) (met : Bool) (mailbox : String) (ref : Payload) : Ledger :=
  { l with
    touches := Function.update l.touches touchId (some { item with
      status := .dispatched, claimedAt := some time, mailbox := some mailbox
      sentAt := some time, providerRef := some ref })
    entities := if item.kind.budgeted then
      Function.update l.entities lead.entityId (some (owner.claimed time touchId)) else l.entities
    prospects := if met then
      Function.update l.prospects item.prospectId (some { lead with state := .contacted })
      else l.prospects }

/-- What becomes of the sequence after a step: nothing without one, its end, or
the next step. -/
inductive Planned (time : Time) (item : Touch) (lead : Prospect) (l : Ledger) : Ledger → Prop where
  | idle (none : item.kind = .agenticReply ∨ l.sequence deployment lead = none) :
      Planned time item lead l l
  | last (spec : SequenceSpec) (budgeted : item.kind ≠ .agenticReply)
      (found : l.sequence deployment lead = some spec) (ended : spec.steps ≤ item.stepIndex + 1)
      (owner : Entity) (present : l.entities lead.entityId = some owner) :
      Planned time item lead l
        (l.setEntity lead.entityId { owner with activeSequenceTouchId := .none })
  | next (spec : SequenceSpec) (budgeted : item.kind ≠ .agenticReply)
      (found : l.sequence deployment lead = some spec) (more : item.stepIndex + 1 < spec.steps)
      {after : Ledger}
      (enqueued : Enqueued time .compose (.compose item.prospectId (item.stepIndex + 1))
        (.followup item.prospectId (item.stepIndex + 1))
        (spec.gapsDays.getD item.stepIndex 0 * 86400) l after) :
      Planned time item lead l after

end Sending

/-- A task that is done counts for the entity of its prospect. -/
inductive Counted (time : Time) (task : HumanTask) (finished : Bool) (l : Ledger) :
    Ledger → Prop where
  | skipped (unfinished : finished = false) : Counted time task finished l l
  | contact (lead : Prospect) (owner : Entity) (ended : finished = true)
      (prospect : l.prospects task.prospectId = some lead)
      (entity : l.entities lead.entityId = some owner) :
      Counted time task finished l (l.setEntity lead.entityId (owner.contacted time))

/-- States that a prospect reaches through its enrichment and qualification. -/
def ProspectState.met : ProspectState → Bool
  | .discovered | .enriched | .qualified | .unenrichable => false
  | _ => true

/-- The prospect has been qualified, or has replied. -/
inductive Ledger.Met (l : Ledger) (prospectId : Uuid) : Prop where
  | qualified (lead : Prospect) (found : l.prospects prospectId = some lead)
      (state : lead.state.met = true)
  | replied (replyId : Uuid) (reply : Reply) (found : l.replies replyId = some reply)
      (theirs : reply.prospectId = prospectId)

theorem Ledger.Met.keep {l after : Ledger} {prospectId : Uuid} (met : l.Met prospectId)
    (people : after.prospects = l.prospects) (said : after.replies = l.replies) :
    after.Met prospectId := by
  cases met with
  | qualified lead found state =>
      rw [← people] at found
      exact .qualified lead found state
  | replied replyId reply found theirs =>
      rw [← said] at found
      exact .replied replyId reply found theirs

theorem ProspectState.met_path {old new : ProspectState}
    (path : Relation.ReflTransGen ProspectState.Edge old new) (met : old.met = true) :
    new.met = true := by
  induction path with
  | refl => exact met
  | @tail middle last _ edge induction =>
      revert induction edge
      cases middle <;> cases last <;> decide

theorem Ledger.met_later {l after : Ledger} {prospectId : Uuid} (later : Later l after)
    (met : l.Met prospectId) : after.Met prospectId := by
  cases met with
  | qualified lead found state =>
      obtain ⟨next, there, kept⟩ := later.prospects prospectId lead found
      exact .qualified next there (ProspectState.met_path kept.path state)
  | replied replyId reply found theirs =>
      obtain ⟨next, there, kept⟩ := later.replies replyId reply found
      exact .replied replyId next there (kept.prospectId.trans theirs)

/-- A prospect of one of the entities. -/
def Ledger.concerns (l : Ledger) (ids : List Uuid) (prospectId : Uuid) : Prop :=
  ∃ lead, l.prospects prospectId = some lead ∧ lead.entityId ∈ ids

/-- What an erasure leaves: every row of the person that was there when its
transaction began is erased, and of the facts every one it has seen. -/
structure Erased (start : Ledger) (ids : List Uuid) (l : Ledger)
    (leads owners touches replies facts : Uuid → Bool) : Prop where
  people : ∀ id, start.concerns ids id → leads id = true
  owned : ∀ id ∈ ids, (start.entities id).isSome = true → owners id = true
  said : ∀ id item, start.touches id = some item → start.concerns ids item.prospectId →
    touches id = true
  answered : ∀ id reply, start.replies id = some reply → start.concerns ids reply.prospectId →
    replies id = true
  known : ∃ seen, Later start seen ∧ ∀ id fact, seen.facts id = some fact →
    start.concerns ids fact.prospectId → facts id = true
  inside : ∀ id, leads id = true → l.concerns ids id

def Ledger.erased (l : Ledger) (leads owners touches replies facts : Uuid → Bool) : Ledger :=
  { l with
    prospects := changed l.prospects leads Prospect.erased
    entities := changed l.entities owners Entity.erased
    touches := changed l.touches touches Touch.erased
    replies := changed l.replies replies Reply.erased
    facts := cleared l.facts facts }

variable (deployment : Deployment) (vouch : Mark → Ledger → Prop) (op : Op) (start : Ledger)

/-- What the transaction of `op` that began at `start` does to a ledger. -/
inductive Deed : Ledger → Ledger → Prop where
  | enqueue {l after : Ledger} (queue : QueueName) (payload : JobPayload) (key : JobKey)
      (delay : Nat) (plain : key.plain = true) (orders : key.orders queue payload)
      (enqueued : Enqueued start.clock queue payload key delay l after) : Deed l after
  | trigger {l after : Ledger} (eventId prospectId : Uuid) (which : op.triggers eventId)
      (seen : Ledger) (since : Later start seen) (lead : Prospect) (found : seen.prospects prospectId = some lead)
      (state : lead.state = .qualified)
      (enqueued : Enqueued start.clock .compose (.compose prospectId 0)
        (.triggerCompose eventId prospectId) 0 l after) : Deed l after
  | lease {l : Ledger} (id : Nat) (work : JobRow) (queue : QueueName) (which : op = .lease queue)
      (found : l.jobs id = some work) (ready : due queue start.clock work = true) :
      Deed l (l.setJob id (work.leased start.clock))
  | complete {l : Ledger} (job : Job) (work : JobRow) (which : op = .complete job)
      (found : l.jobs job.id = some work) :
      Deed l (l.setJob job.id { work with status := .done, leaseUntil := none })
  | retry {l : Ledger} (job : Job) (error : String) (permanent : Bool) (work : JobRow)
      (which : op = .fail job error permanent) (left : job.exhausted permanent = false)
      (found : l.jobs job.id = some work) :
      Deed l (l.setJob job.id { work with
        status := .ready, lastError := some error, leaseUntil := none
        runAfter := start.clock + seconds (backoffBaseSeconds * 2 ^ job.attempts) })
  | bury {l : Ledger} (job : Job) (text : String) (work : JobRow)
      (which : (∃ permanent, op = .fail job text permanent ∧ job.exhausted permanent = true) ∨
        ∃ error, op = .complianceAlert job error ∧ text = "compliance: " ++ error)
      (found : l.jobs job.id = some work) :
      Deed l (l.setJob job.id { work with
        status := .dead, lastError := some text, leaseUntil := none })
  | reap {l : Ledger} (chosen : Nat → Bool) (which : op = .reapExpired)
      (expired : ∀ id work, chosen id = true → l.jobs id = some work →
        work.status = .leased ∧ work.leaseUntil.any (· < start.clock) = true) :
      Deed l (l.reaped chosen)
  | hold {l : Ledger} (touchId : Uuid) (item : Touch) (new : NewTouch l touchId item .pendingReview)
      (drafting : Drafting op start item) (step : item.kind ≠ .agenticReply)
      (met : l.Met item.prospectId) : Deed l (l.setTouch touchId item)
  | draft {l after : Ledger} (touchId : Uuid) (item : Touch) (new : NewTouch l touchId item .drafted)
      (drafting : Drafting op start item) (met : l.Met item.prospectId)
      (enqueued : Enqueued start.clock .deliver (.touch touchId) (.deliver touchId) 0
        (l.setTouch touchId item) after) : Deed l after
  | park {l : Ledger} (touchId taskId : Uuid) (item : Touch) (task : HumanTask)
      (new : NewTouch l touchId item .pendingHuman) (kind : item.kind = .humanTask)
      (untasked : l.tasks taskId = none) (pending : task.status = .pending)
      (mine : task.touchId = touchId) (theirs : task.prospectId = item.prospectId)
      (met : l.Met item.prospectId) : Deed l ((l.setTouch touchId item).setTask taskId task)
  | approve {l after : Ledger} (touchId : Uuid) (actor : String) (item : Touch)
      (which : op = .approvePending touchId actor) (found : l.touches touchId = some item)
      (held : item.status = .pendingReview)
      (enqueued : Enqueued start.clock .deliver (.touch touchId) (.deliver touchId) 0
        (l.setTouch touchId { item with status := .drafted }) after) : Deed l after
  | reject {l : Ledger} (touchId : Uuid) (actor note : String) (item : Touch)
      (which : op = .rejectPending touchId actor note) (found : l.touches touchId = some item)
      (held : item.status = .pendingReview) :
      Deed l (l.setTouch touchId { item with status := .released })
  | refuse {l : Ledger} (touchId : Uuid) (item : Touch) (which : op.delivers touchId)
      (found : l.touches touchId = some item)
      (vouched : ∃ seen : Ledger, vouch (.terminalRefusal touchId) seen ∧
        seen.touches touchId = l.touches touchId) :
      Deed l (l.setTouch touchId { item with status := .released })
  | send {l after : Ledger} (touchId : Uuid) (item : Touch) (lead : Prospect) (owner : Entity)
      (met : Bool) (mailbox : String) (ref : Payload)
      (sendable : Sendable op l touchId item lead owner)
      (queued : met = true → lead.state = .queued)
      (vouched : ∃ seen : Ledger, vouch (.persistClaim touchId) seen)
      (planned : Planned deployment start.clock item lead
        (l.dispatched start.clock touchId item lead owner met mailbox ref) after) : Deed l after
  | webhook {l : Ledger} (touchId : Uuid) (item : Touch) (found : l.touches touchId = some item)
      (out : item.status = .dispatched) :
      Deed l (l.setTouch touchId { item with status := .sent })
  | settle {l after : Ledger} (taskId : Uuid) (actor : String) (finished : Bool)
      (note : String) (task : HumanTask) (item : Touch)
      (which : op = .resolveTask taskId actor finished note)
      (found : l.tasks taskId = some task) (pending : task.status = .pending)
      (touch : l.touches task.touchId = some item)
      (counted : Counted start.clock task finished
        ((l.setTask taskId (task.settled start.clock actor note finished)).setTouch task.touchId
          (item.settled start.clock finished)) after) : Deed l after
  | expire {l : Ledger} (chosen : Uuid → Bool) (overdue : Uuid → Bool) (which : op = .expireTasks)
      (pending : ∀ id task, chosen id = true → l.tasks id = some task → task.status = .pending)
      (theirs : ∀ touchId, overdue touchId = true →
        ∃ id task, chosen id = true ∧ l.tasks id = some task ∧ task.touchId = touchId) :
      Deed l ((l.closed start.clock chosen).lapsed overdue)
  | release {l : Ledger} (prospectId : Uuid) (lead : Prospect) (owner : Entity) (active : Uuid)
      (item : Touch) (prospect : l.prospects prospectId = some lead)
      (entity : l.entities lead.entityId = some owner)
      (held : owner.activeSequenceTouchId = some active) (touch : l.touches active = some item)
      (owned : item.prospectId = prospectId) :
      Deed l (l.setEntity lead.entityId { owner with activeSequenceTouchId := none })
  | transition {l : Ledger} (prospectId : Uuid) (target : ProspectState) (lead : Prospect)
      (found : l.prospects prospectId = some lead) (edge : lead.state.Edge target)
      (plain : target.plain = true) :
      Deed l (l.setProspect prospectId { lead with state := target })
  | enrich {l : Ledger} (prospectId : Uuid) (lead row : Prospect)
      (facts : Uuid → Option EvidenceFact) (which : op.works .enrich prospectId)
      (found : l.prospects prospectId = some lead) (fresh : lead.state = .discovered)
      (outcome : row = { lead with state := .unenrichable } ∨
        (∃ address bucket, row = lead.addressed deployment.platform address bucket ∧
          ∃ seen : Ledger, vouch (.attach prospectId address) seen ∧
            seen.prospects prospectId = l.prospects prospectId) ∨
        ∃ seen, Later start seen ∧ seen.prospects prospectId = none ∧
          row = { lead with state := .enriched })
      (theirs : ∀ id, facts id = l.facts id ∨
        (∀ fact, facts id = some fact → fact.prospectId = prospectId) ∧
          ∀ fact, l.facts id = some fact → fact.prospectId = prospectId) :
      Deed l { l.setProspect prospectId row with facts }
  | qualify {l : Ledger} (prospectId : Uuid) (lead : Prospect)
      (which : op.works .qualify prospectId)
      (found : l.prospects prospectId = some lead) (ready : lead.state = .enriched) :
      Deed l (l.setProspect prospectId { lead with state := .queued })
  | forget {l : Ledger} (ref : ForgetRef) (ids : List Uuid)
      (leads owners touches replies facts : Uuid → Bool) (which : op = .forget ref)
      (erased : Erased start ids l leads owners touches replies facts) :
      Deed l (l.erased leads owners touches replies facts)
  | prospect {l : Ledger} (prospectId : Uuid) (lead : Prospect) (runtime : TenantRuntime)
      (discovers : op.discovers) (known : ∃ name, (name, runtime) ∈ deployment.runtimes)
      (tenant : lead.tenantId = runtime.tenantId)
      (absent : l.prospects prospectId = none) (state : lead.state = .discovered)
      (unresolved : lead.emailCanonical = none) (owner : (l.entities lead.entityId).isSome = true)
      (screened : ∀ raw, nonEmpty lead.emailRaw = some raw → ∃ canonical hash seen,
        canonicalize deployment.platform raw = .ok canonical ∧
        tombstoneHash deployment.platform canonical = .ok hash ∧ Later start seen ∧
        vouch (.isSuppressed canonical runtime.tenant) seen ∧
        ¬ seen.suppressed start.clock canonical runtime.tenant hash) :
      Deed l (l.setProspect prospectId lead)
  | entity {l : Ledger} (entityId : Uuid) (owner : Entity) (absent : l.entities entityId = none)
      (free : owner.activeSequenceTouchId = none) (fresh : owner.touches12mo = 0)
      (known : owner.forgotten = false) :
      Deed l (l.setEntity entityId owner)
  | refer {l : Ledger} (entityId : Uuid) (owner : Entity) (found : l.entities entityId = some owner)
      (unasked : owner.referralAsked = false) (known : owner.forgotten = false) :
      Deed l (l.setEntity entityId { owner with referralAsked := true })
  | answer {l : Ledger} (replyId : Uuid) (reply : Reply) (events : List ProviderEvent)
      (which : op = .ingestEvents events) (absent : l.replies replyId = none)
      (item : Touch) (touch : l.touches reply.touchId = some item)
      (theirs : reply.prospectId = item.prospectId) (unread : reply.intent = none) :
      Deed l (l.setReply replyId reply)
  | judge {l : Ledger} (replyId : Uuid) (reply : Reply) (intent : Intent) (confidence : Rat)
      (turn : op.classifies replyId) (found : l.replies replyId = some reply) :
      Deed l (l.setReply replyId
        { reply with intent := some intent, confidence := some confidence })
  | exchange {l : Ledger} (replyId : Uuid) (reply : Reply) (found : l.replies replyId = some reply)
      (first : reply.agenticExchanges = 0) :
      Deed l (l.setReply replyId { reply with agenticExchanges := reply.agenticExchanges + 1 })
  | suppress {l after : Ledger} (address scope reason : String) (idle : op.settles = false)
      (enqueued : Enqueued start.clock .control (.pauseLead address scope)
        (.pause address scope reason) 0
        (l.setSuppression (address, scope) ⟨reason, none, start.clock⟩) after) : Deed l after
  | cooldown {l : Ledger} (address reason : String) (months : Nat) (handles : op.handles)
      (vouched : ∃ seen : Ledger, vouch (.cooldown address months) seen ∧
        seen.suppressions (address, globalScope) = l.suppressions (address, globalScope)) :
      Deed l (l.setSuppression (address, globalScope)
        (((l.suppressions (address, globalScope)).map fun row =>
          { row with expiresAt := some (addMonths months start.clock), reason := reason }).getD
            ⟨reason, some (addMonths months start.clock), start.clock⟩))
  | tombstone {l : Ledger} (hash : String) (row : Tombstone) (which : ∃ ref, op = .forget ref)
      (absent : l.tombstones hash = none) (unsent : row.providerPropagatedAt = none) :
      Deed l (l.setTombstone hash row)
  | notify {l after : Ledger} (address hash : String) (receiptId : Uuid)
      (hashed : tombstoneHash deployment.platform address = .ok hash)
      (buried : (l.tombstones hash).isSome = true)
      (enqueued : Enqueued start.clock .control (.deleteLead address receiptId) (.forget hash) 0
        l after) : Deed l after
  | propagate {l : Ledger} (email : String) (receiptId : Uuid) (chosen : String → Bool)
      (which : ∃ job : Job, op = .handle job ∧ job.queue = .control ∧
        job.payload = .deleteLead email receiptId)
      (theirs : ∀ hash row, chosen hash = true → l.tombstones hash = some row →
        row.receiptId = receiptId) :
      Deed l { l with tombstones := changed l.tombstones chosen fun row =>
        { row with providerPropagatedAt := some start.clock } }
  | unsuppress {l : Ledger} (ref : ForgetRef) (address hash : String)
      (chosen : String × String → Bool) (which : op = .forget ref)
      (theirs : ∀ key, chosen key = true → key.1 = address)
      (hashed : tombstoneHash deployment.platform address = .ok hash)
      (buried : (l.tombstones hash).isSome = true) :
      Deed l { l with suppressions := cleared l.suppressions chosen }
  | halt {l after : Ledger} (scope actor flag : String) (which : op = .halt scope actor flag)
      (enqueued : Enqueued start.clock .control (.pauseAllCampaigns scope) (.halt scope flag) 0
        (l.setFlag scope (some ⟨flag, actor, start.clock⟩)) after) : Deed l after
  | resume {l : Ledger} (scope actor : String) (which : op = .resume scope actor)
      (human : humanActorPrefix.toList.isPrefixOf actor.toList = true) :
      Deed l (l.setFlag scope none)
  | file {l : Ledger} (proposalId : Uuid) (proposal : ProposalRow)
      (which : op.files start.clock proposal) (absent : l.proposals proposalId = none) (opened : proposal.status = .opened) :
      Deed l (l.setProposal proposalId proposal)
  | grant {l : Ledger} (proposalId : Uuid) (proposal : ProposalRow) (actor : String)
      (which : op.approves) (found : l.proposals proposalId = some proposal)
      (vouched : ∃ seen : Ledger, vouch (.approve proposalId) seen ∧
        seen.proposals proposalId = l.proposals proposalId) :
      Deed l (l.setProposal proposalId (proposal.settled .approved start.clock actor))
  | decline {l : Ledger} (proposalId : Uuid) (proposal : ProposalRow) (actor note : String)
      (which : op = .declineProposal proposalId actor note)
      (found : l.proposals proposalId = some proposal) (opened : proposal.status = .opened) :
      Deed l (l.setProposal proposalId (proposal.settled .declined start.clock actor))

section Progress

variable {l after : Ledger}

theorem later_set_touch {touchId : Uuid} {item : Touch}
    (kept : Kept Touch.Later (l.touches touchId) (some item))
    (known : l.touches touchId = none → (l.prospects item.prospectId).isSome = true) :
    Later l (l.setTouch touchId item) :=
  { later_refl l with
    touches := kept_update Touch.later_refl kept
    prospectOf := anchored_update known
    taskTouch := anchored_refl _ }

theorem later_set_prospect {prospectId : Uuid} {lead : Prospect}
    (kept : Kept Prospect.Later (l.prospects prospectId) (some lead))
    (known : l.prospects prospectId = none → (l.entities lead.entityId).isSome = true) :
    Later l (l.setProspect prospectId lead) :=
  { later_refl l with
    prospects := kept_update Prospect.later_refl kept
    entityOf := anchored_update known
    prospectOf := anchored_refl _
    taskProspect := anchored_refl _ }

theorem later_set_entity {entityId : Uuid} {owner : Entity}
    (kept : Kept Entity.Later (l.entities entityId) (some owner)) :
    Later l (l.setEntity entityId owner) :=
  { later_refl l with
    entities := kept_update Entity.later_refl kept
    entityOf := anchored_refl _ }

theorem later_set_job {id : Nat} {work : JobRow}
    (kept : Kept JobRow.Later (l.jobs id) (some work)) : Later l (l.setJob id work) :=
  { later_refl l with jobs := kept_update JobRow.later_refl kept }

theorem later_set_reply {replyId : Uuid} {reply : Reply}
    (kept : Kept Reply.Later (l.replies replyId) (some reply)) : Later l (l.setReply replyId reply) :=
  { later_refl l with replies := kept_update Reply.later_refl kept }

theorem later_set_task {taskId : Uuid} {task next : HumanTask}
    (found : l.tasks taskId = some task) (step : task.Later next) :
    Later l (l.setTask taskId next) :=
  { later_refl l with
    tasks := kept_update HumanTask.later_refl (kept_some found step)
    taskProspect := anchored_update fun absent => absurd (absent.symm.trans found) (by simp)
    taskTouch := anchored_update fun absent => absurd (absent.symm.trans found) (by simp) }

/-- A touch that exists moves on. -/
theorem later_move_touch {touchId : Uuid} {item next : Touch}
    (found : l.touches touchId = some item) (step : item.Later next) :
    Later l (l.setTouch touchId next) :=
  later_set_touch (kept_some found step) fun absent => absurd (absent.symm.trans found) (by simp)

theorem later_move_prospect {prospectId : Uuid} {lead next : Prospect}
    (found : l.prospects prospectId = some lead) (step : lead.Later next) :
    Later l (l.setProspect prospectId next) :=
  later_set_prospect (kept_some found step) fun absent => absurd (absent.symm.trans found) (by simp)

theorem later_new_touch {touchId : Uuid} {item : Touch} {status : TouchStatus}
    (new : NewTouch l touchId item status) : Later l (l.setTouch touchId item) := by
  apply later_set_touch
  · rw [new.absent]
    exact kept_none _
  · exact fun _ => new.known

theorem later_settle_proposal {proposalId : Uuid} {proposal : ProposalRow}
    {status : ProposalStatus} {time : Time} {actor : String}
    (found : l.proposals proposalId = some proposal) (resolved : status ≠ .opened)
    (decides : proposal.status ≠ .opened → status = .approved) :
    Later l (l.setProposal proposalId (proposal.settled status time actor)) :=
  { later_refl l with
    proposals := kept_update ProposalRow.later_refl
      (kept_some found ⟨rfl, rfl, rfl, rfl, fun _ => resolved, fun closed => Or.inl (decides closed)⟩) }

theorem kept_changed {Key Row : Type} {related : Row → Row → Prop}
    (reflexive : ∀ row, related row row) {table : Key → Option Row} {chosen : Key → Bool}
    {change : Row → Row} {key : Key}
    (step : ∀ row, chosen key = true → table key = some row → related row (change row)) :
    Kept related (table key) (changed table chosen change key) := by
  unfold changed
  by_cases picked : chosen key = true
  · rw [if_pos picked]
    exact kept_map fun row => step row picked
  · rw [if_neg picked]
    exact kept_refl reflexive _

theorem changed_none {Key Row : Type} {table : Key → Option Row} {chosen : Key → Bool}
    {change : Row → Row} {key : Key} (absent : table key = none) :
    changed table chosen change key = none := by
  unfold changed
  rw [absent]
  split_ifs <;> rfl

theorem enqueued_later {time : Time} {queue : QueueName} {payload : JobPayload} {key : JobKey}
    {delay : Nat} (enqueued : Enqueued time queue payload key delay l after) : Later l after := by
  cases enqueued with
  | known present => exact later_refl l
  | fresh id unknown unused =>
      have job : ∀ work, Kept JobRow.Later (l.jobs id) (some work) := by
        intro work
        rw [unused]
        exact kept_none _
      have index : Kept Eq (l.jobIndex key) (some id) := by
        rw [unknown]
        exact kept_none _
      exact { later_set_job (job _) with jobIndex := kept_update (fun _ => rfl) index }

theorem Touch.later_status {item : Touch} {status : TouchStatus}
    (stage : item.status.stage ≤ status.stage) : item.Later { item with status := status } :=
  ⟨rfl, rfl, rfl, rfl, rfl, stage, fading_refl _, fading_refl _⟩

theorem Touch.later_settled (item : Touch) (time : Time) (finished : Bool) :
    item.Later (item.settled time finished) := by
  cases finished <;>
    exact ⟨rfl, rfl, rfl, rfl, rfl, item.status.stage_le, fading_refl _, fading_refl _⟩

theorem Prospect.later_edge {lead : Prospect} {target : ProspectState}
    (edge : lead.state.Edge target) : lead.Later { lead with state := target } :=
  ⟨rfl, rfl, rfl, rfl, .single edge⟩

theorem Prospect.later_erased (lead : Prospect) : lead.Later lead.erased := by
  refine ⟨rfl, rfl, rfl, rfl, ?_⟩
  change Relation.ReflTransGen _ lead.state .forgotten
  cases lead.state <;> first | exact .refl | exact .single (by decide)

theorem later_changed_touches (chosen : Uuid → Bool) {change : Touch → Touch}
    (step : ∀ item : Touch, item.Later (change item)) :
    Later l { l with touches := changed l.touches chosen change } :=
  { later_refl l with
    touches := fun _ => kept_changed Touch.later_refl fun item _ _ => step item
    prospectOf := anchored_of_none fun _ => changed_none
    taskTouch := anchored_refl _ }

theorem later_changed_replies (chosen : Uuid → Bool) {change : Reply → Reply}
    (step : ∀ reply : Reply, reply.Later (change reply)) :
    Later l { l with replies := changed l.replies chosen change } :=
  { later_refl l with
    replies := fun _ => kept_changed Reply.later_refl fun reply _ _ => step reply }

theorem later_changed_prospects (chosen : Uuid → Bool) {change : Prospect → Prospect}
    (step : ∀ lead : Prospect, lead.Later (change lead)) :
    Later l { l with prospects := changed l.prospects chosen change } :=
  { later_refl l with
    prospects := fun _ => kept_changed Prospect.later_refl fun lead _ _ => step lead
    entityOf := anchored_of_none fun _ => changed_none
    prospectOf := anchored_refl _
    taskProspect := anchored_refl _ }

theorem later_changed_entities (chosen : Uuid → Bool) {change : Entity → Entity}
    (step : ∀ owner : Entity, owner.Later (change owner)) :
    Later l { l with entities := changed l.entities chosen change } :=
  { later_refl l with
    entities := fun _ => kept_changed Entity.later_refl fun owner _ _ => step owner
    entityOf := anchored_refl _ }

theorem lapsed_later (overdue : Uuid → Bool) : Later l (l.lapsed overdue) :=
  later_changed_touches overdue fun item => Touch.later_status item.status.stage_le

theorem closed_later {time : Time} {chosen : Uuid → Bool}
    (pending : ∀ id task, chosen id = true → l.tasks id = some task → task.status = .pending) :
    Later l (l.closed time chosen) :=
  { later_refl l with
    tasks := fun id => kept_changed HumanTask.later_refl fun task picked present =>
      ⟨rfl, rfl, fun ended => absurd (pending id task picked present) ended⟩
    taskProspect := anchored_of_none fun _ => changed_none
    taskTouch := anchored_of_none fun _ => changed_none }

theorem dispatched_later {touchId : Uuid} {item : Touch} {lead : Prospect} {owner : Entity}
    {time : Time} {met : Bool} {mailbox : String} {ref : Payload}
    (sendable : Sendable op l touchId item lead owner) (queued : met = true → lead.state = .queued) :
    Later l (l.dispatched time touchId item lead owner met mailbox ref) := by
  have claimed : item.kind.budgeted = true → l.entities lead.entityId = some owner := by
    intro budgeted
    have admits := sendable.admits
    unfold Ledger.admits at admits
    cases profile : profileOf item.kind with
    | cold =>
        rw [profile] at admits
        exact admits.1
    | followup =>
        rw [profile] at admits
        exact admits.1
    | reply =>
        unfold TouchKind.budgeted at budgeted
        rw [profile] at budgeted
        cases budgeted
  have entity : Later l { l with
      entities := if item.kind.budgeted then
          Function.update l.entities lead.entityId (some (owner.claimed time touchId))
        else l.entities } := by
    by_cases budgeted : item.kind.budgeted = true
    · rw [if_pos budgeted]
      exact later_set_entity (kept_some (claimed budgeted) ⟨rfl, Nat.le_succ _, id, id⟩)
    · rw [if_neg budgeted]
      exact later_refl l
  have sent : item.Later { item with
      status := .dispatched, claimedAt := some time, mailbox := some mailbox
      sentAt := some time, providerRef := some ref } :=
    ⟨rfl, rfl, rfl, rfl, rfl, item.status.stage_le, fading_refl _, fading_refl _⟩
  refine later_trans entity (later_trans (later_move_touch sendable.touch sent) ?_)
  · unfold Ledger.dispatched
    cases met with
    | false => exact later_refl _
    | true =>
        refine later_move_prospect sendable.prospect (Prospect.later_edge ?_)
        rw [queued rfl]
        decide

theorem planned_later {time : Time} {item : Touch} {lead : Prospect}
    (planned : Planned deployment time item lead l after) : Later l after := by
  cases planned with
  | idle none => exact later_refl l
  | last spec budgeted found ended owner present =>
      exact later_set_entity (kept_some present ⟨rfl, le_rfl, id, id⟩)
  | next spec budgeted found more enqueued => exact enqueued_later enqueued

theorem counted_later {time : Time} {task : HumanTask} {finished : Bool}
    (counted : Counted time task finished l after) : Later l after := by
  cases counted with
  | skipped unfinished => exact later_refl l
  | contact lead owner ended prospect entity =>
      exact later_set_entity (kept_some entity ⟨rfl, Nat.le_succ _, id, id⟩)

theorem HumanTask.later_settled {task : HumanTask} (time : Time) (actor note : String)
    (finished : Bool) (pending : task.status = .pending) :
    task.Later (task.settled time actor note finished) :=
  ⟨rfl, rfl, fun ended => absurd pending ended⟩

theorem Touch.later_erased (item : Touch) : item.Later item.erased :=
  ⟨rfl, rfl, rfl, rfl, rfl, le_rfl, Or.inr rfl, Or.inr rfl⟩

theorem Reply.later_erased (reply : Reply) : reply.Later reply.erased :=
  ⟨rfl, rfl, Or.inr rfl, id⟩

theorem Entity.later_erased (owner : Entity) : owner.Later owner.erased :=
  ⟨rfl, le_rfl, fun _ => rfl, id⟩

theorem erased_later (leads owners touches replies facts : Uuid → Bool) :
    Later l (l.erased leads owners touches replies facts) := by
  have said := later_changed_touches (l := l) touches Touch.later_erased
  have answered := later_trans said (later_changed_replies replies Reply.later_erased)
  have people := later_trans answered (later_changed_prospects leads Prospect.later_erased)
  have owned := later_trans people (later_changed_entities owners Entity.later_erased)
  exact { owned with }

/-- Whatever a deed does, rows stay and move on. -/
theorem deed_later (deed : Deed deployment vouch op start l after) : Later l after := by
  cases deed with
  | enqueue queue payload key delay plain orders enqueued => exact enqueued_later enqueued
  | trigger eventId prospectId which seen since lead found state enqueued =>
      exact enqueued_later enqueued
  | lease id work queue which found ready =>
      exact later_set_job (kept_some found ⟨rfl, rfl, rfl, rfl, Nat.le_succ _⟩)
  | complete job work which found =>
      exact later_set_job (kept_some found ⟨rfl, rfl, rfl, rfl, le_rfl⟩)
  | retry job error permanent work which left found =>
      exact later_set_job (kept_some found ⟨rfl, rfl, rfl, rfl, le_rfl⟩)
  | bury job text work which found =>
      exact later_set_job (kept_some found ⟨rfl, rfl, rfl, rfl, le_rfl⟩)
  | reap chosen which expired =>
      exact { later_refl l with
        jobs := fun _ => kept_changed JobRow.later_refl fun _ _ _ => ⟨rfl, rfl, rfl, rfl, le_rfl⟩ }
  | hold touchId item new drafting step met => exact later_new_touch new
  | draft touchId item new drafting met enqueued =>
      exact later_trans (later_new_touch new) (enqueued_later enqueued)
  | park touchId taskId item task new kind untasked pending mine theirs met =>
      have touch := later_new_touch new
      refine later_trans touch { later_refl _ with
        tasks := kept_update HumanTask.later_refl ?_
        taskProspect := anchored_update fun _ => ?_
        taskTouch := anchored_update fun _ => ?_ }
      · rw [untasked]
        exact kept_none _
      · rw [theirs]
        exact new.known
      · rw [mine]
        simp
  | approve touchId actor item which found held enqueued =>
      refine later_trans (later_move_touch found (Touch.later_status ?_)) (enqueued_later enqueued)
      rw [held]
      exact Nat.le_succ 0
  | reject touchId actor note item which found held =>
      exact later_move_touch found (Touch.later_status item.status.stage_le)
  | refuse touchId item which found vouched =>
      exact later_move_touch found (Touch.later_status item.status.stage_le)
  | send touchId item lead owner met mailbox ref sendable queued vouched planned =>
      exact later_trans (dispatched_later op sendable queued) (planned_later deployment planned)
  | webhook touchId item found out =>
      exact later_move_touch found (Touch.later_status item.status.stage_le)
  | settle taskId actor finished note task item which found pending touch counted =>
      have first := later_set_task found (HumanTask.later_settled start.clock actor note finished
        pending)
      refine later_trans first (later_trans (later_move_touch ?_ (item.later_settled _ _))
        (counted_later counted))
      exact touch
  | expire chosen overdue which pending theirs =>
      exact later_trans (closed_later pending) (lapsed_later _)
  | release prospectId lead owner active item prospect entity held touch owned =>
      exact later_set_entity (kept_some entity ⟨rfl, le_rfl, id, id⟩)
  | transition prospectId target lead found edge plain =>
      exact later_move_prospect found (Prospect.later_edge edge)
  | enrich prospectId lead row facts which found fresh outcome theirs =>
      have step : lead.Later row := by
        rcases outcome with rfl | ⟨address, bucket, rfl, _⟩ | ⟨seen, since, absent, rfl⟩
        · apply Prospect.later_edge
          rw [fresh]
          decide
        · refine ⟨rfl, rfl, rfl, rfl, .single ?_⟩
          rw [fresh]
          change ProspectState.Edge _ (if bucket = .verified then .enriched else .unenrichable)
          split_ifs <;> decide
        · apply Prospect.later_edge
          rw [fresh]
          decide
      exact { later_move_prospect found step with }
  | qualify prospectId lead which found ready =>
      refine later_move_prospect found ⟨rfl, rfl, rfl, rfl, ?_⟩
      rw [ready]
      exact .tail (.single (show ProspectState.Edge .enriched .qualified by decide))
        (show ProspectState.Edge .qualified .queued by decide)
  | forget ref ids leads owners touches replies facts which erased => exact erased_later _ _ _ _ _
  | prospect prospectId lead runtime discovers known tenant absent state unresolved owner screened =>
      apply later_set_prospect
      · rw [absent]
        exact kept_none _
      · exact fun _ => owner
  | entity entityId owner absent free fresh known =>
      apply later_set_entity
      rw [absent]
      exact kept_none _
  | refer entityId owner found unasked known =>
      exact later_set_entity (kept_some found ⟨rfl, le_rfl, id, fun _ => rfl⟩)
  | answer replyId reply events which absent item touch theirs unread =>
      apply later_set_reply
      rw [absent]
      exact kept_none _
  | judge replyId reply intent confidence turn found =>
      exact later_set_reply (kept_some found ⟨rfl, rfl, fading_refl _, fun _ => rfl⟩)
  | exchange replyId reply found first =>
      exact later_set_reply (kept_some found ⟨rfl, rfl, fading_refl _, id⟩)
  | suppress address scope reason idle enqueued =>
      have set : Later l (l.setSuppression (address, scope) ⟨reason, none, start.clock⟩) :=
        { later_refl l with }
      exact later_trans set (enqueued_later enqueued)
  | cooldown address reason months handles vouched => exact { later_refl l with }
  | tombstone hash row which absent unsent =>
      refine { later_refl l with tombstones := kept_update (fun _ => trivial) ?_ }
      rw [absent]
      exact kept_none _
  | notify address hash receiptId hashed buried enqueued => exact enqueued_later enqueued
  | propagate email receiptId chosen which theirs =>
      exact { later_refl l with
        tombstones := fun _ => kept_changed (fun _ => trivial) fun _ _ _ => trivial }
  | unsuppress ref address hash chosen which theirs hashed buried => exact { later_refl l with }
  | halt scope actor flag which enqueued =>
      have set : Later l (l.setFlag scope (some ⟨flag, actor, start.clock⟩)) := { later_refl l with }
      exact later_trans set (enqueued_later enqueued)
  | resume scope actor which human => exact { later_refl l with }
  | file proposalId proposal which absent opened =>
      refine { later_refl l with proposals := kept_update ProposalRow.later_refl ?_ }
      rw [absent]
      exact kept_none _
  | grant proposalId proposal actor which found vouched =>
      exact later_settle_proposal found nofun fun _ => rfl
  | decline proposalId proposal actor note which found opened =>
      exact later_settle_proposal found nofun fun closed => absurd opened closed

/-- The ledger as what commits are measured by. -/
@[reducible] def outreach : Abstraction Database RowLock Mark where
  Abs := Ledger
  of := Database.ledger
  later := Later
  order := later_order
  rowwise later _ ahead rows := later_rowwise later ahead rows
  sound := Linked
  vouch := vouch
  rule := Deed deployment vouch op
  rule_later := deed_later deployment vouch op _

end Progress

section Frames

variable {l after : Ledger}

/-- Everything else is unchanged. -/
theorem enqueued_frame {time : Time} {queue : QueueName} {payload : JobPayload} {key : JobKey}
    {delay : Nat} (enqueued : Enqueued time queue payload key delay l after) :
    ∃ jobs jobIndex, after = { l with jobs, jobIndex } := by
  cases enqueued with
  | known _ => exact ⟨l.jobs, l.jobIndex, rfl⟩
  | fresh id unknown unused => exact ⟨_, _, rfl⟩

theorem planned_frame {site : Deployment} {time : Time} {item : Touch} {lead : Prospect}
    (planned : Planned site time item lead l after) :
    ∃ entities jobs jobIndex, after = { l with entities, jobs, jobIndex } := by
  cases planned with
  | idle none => exact ⟨l.entities, l.jobs, l.jobIndex, rfl⟩
  | last spec budgeted found ended owner entity => exact ⟨_, l.jobs, l.jobIndex, rfl⟩
  | next spec budgeted found more enqueued =>
      obtain ⟨jobs, jobIndex, rfl⟩ := enqueued_frame enqueued
      exact ⟨l.entities, jobs, jobIndex, rfl⟩

theorem counted_frame {time : Time} {task : HumanTask} {finished : Bool}
    (counted : Counted time task finished l after) : ∃ entities, after = { l with entities } := by
  cases counted with
  | skipped unfinished => exact ⟨l.entities, rfl⟩
  | contact lead owner ended prospect entity => exact ⟨_, rfl⟩

end Frames

end OpenReachout
