import OpenReachout.Core.Events
import OpenReachout.Core.Proposals
import OpenReachout.Relational.System

/-!
# The service

`core/worker.py`, and the service as a whole: what may start from outside, what a
worker does next, and the program of every transaction.
-/

namespace OpenReachout

open Relational Text

set_option autoImplicit false

/-- The transactions of the service. The last four are what a worker goes on to. -/
inductive Op where
  | lease (queue : QueueName)
  | reapExpired
  | ingestEvents (events : List ProviderEvent)
  | operatorEvent (eventType : String) (selector : Payload) (dedupeKey : Option String)
  | recordConversion (touchId : Uuid)
  | approvePending (touchId : Uuid) (actor : String)
  | rejectPending (touchId : Uuid) (actor note : String)
  | resolveTask (taskId : Uuid) (actor : String) (finished : Bool) (note : String)
  | expireTasks
  | halt (scope actor flag : String)
  | resume (scope actor : String)
  | suppress (email reason : String)
  | forget (ref : ForgetRef)
  | seedDiscovery (runtime : TenantRuntime)
  | propose (tenant : String) (kind : ProposalKind) (payload : ProposalPayload)
      (dedupeKey : Option String)
  | approveProposal (proposalId : Uuid) (actor : String)
  | declineProposal (proposalId : Uuid) (actor note : String)
  | autoReview (tenant cohortLaunch : String)
  | handle (job : Job)
  | complete (job : Job)
  | fail (job : Job) (error : String) (permanent : Bool)
  | complianceAlert (job : Job) (error : String)

inductive Out where
  | unit
  | leased (job : Option Job)
  | decided (success : Bool)
  | reviewed (approved : List Uuid)

section Worker

variable (deployment : Deployment)

def seedDiscovery (runtime : TenantRuntime) : Prog Unit :=
  runtime.personas.forM fun persona =>
    persona.cohorts.forM fun cohort =>
      if cohort.trigger.isSome then pure ()
      else do
        let _ ← enqueue .discover (.discover runtime.tenant persona.id cohort.id [] none)
          (.discover runtime.tenant cohort.id)

/-- `self.handlers[job.queue]` -/
def handler (job : Job) : Prog Unit :=
  match job.queue, job.payload with
  | .control, payload => controlOp deployment payload
  | .trigger, .event eventId => trigger deployment eventId
  | .classify, .reply replyId => classify deployment replyId
  | .deliver, .touch touchId => deliver deployment touchId
  | .compose, .compose prospectId stepIndex => composeHandler deployment prospectId stepIndex
  | .referral, .prospect prospectId => processPositiveEvent deployment prospectId
  | .reengage, .prospect prospectId => reengage deployment prospectId
  | .qualify, .prospect prospectId => qualify deployment prospectId
  | .enrich, .prospect prospectId => enrich deployment prospectId
  | .discover, .discover tenant persona cohort filters cursor =>
      discover deployment tenant persona cohort filters cursor
  | .synthesize, .brief tenant digest => attempt (.synthesize tenant digest) rfl
  | _, _ => raise .keyError "payload"

/-- The payload of a compliance alert, as the text that is cast. -/
def alertText (error : String) : String := "\x7b\"error\": \"" ++ error ++ "\"\x7d"

def complianceAlert (job : Job) (error : String) : Prog Unit := do
  fail job ("compliance: " ++ error) true
  match deployment.castObject (alertText error) with
  | none => raise .databaseError "invalid input syntax for type json"
  | some payload =>
      audit "job" (toString job.id) "compliance_alert" payload "system:worker"

def unitOut {Value : Type} (program : Prog Value) : Prog Out := do
  let _ ← program
  pure .unit

def Op.program : Op → Prog Out
  | .lease queue => do
      let job ← OpenReachout.lease queue
      pure (.leased job)
  | .reapExpired => unitOut OpenReachout.reapExpired
  | .ingestEvents events => unitOut (OpenReachout.ingestEvents deployment events)
  | .operatorEvent eventType selector dedupeKey =>
      unitOut (OpenReachout.operatorEvent eventType selector dedupeKey)
  | .recordConversion touchId => do
      let success ← OpenReachout.recordConversion touchId
      pure (.decided success)
  | .approvePending touchId actor => unitOut (OpenReachout.approvePending touchId actor)
  | .rejectPending touchId actor note => unitOut (OpenReachout.rejectPending touchId actor note)
  | .resolveTask taskId actor finished note => unitOut (resolve taskId actor finished note)
  | .expireTasks => unitOut expire
  | .halt scope actor flag => unitOut (OpenReachout.halt scope actor flag)
  | .resume scope actor => unitOut (OpenReachout.resume scope actor)
  | .suppress email reason => unitOut (OpenReachout.suppress deployment.platform email reason)
  | .forget ref => unitOut (OpenReachout.forget deployment.platform ref)
  | .seedDiscovery runtime => unitOut (OpenReachout.seedDiscovery runtime)
  | .propose tenant kind payload dedupeKey =>
      unitOut (OpenReachout.propose tenant kind payload dedupeKey)
  | .approveProposal proposalId actor => do
      let success ← approve proposalId actor false
      pure (.decided success)
  | .declineProposal proposalId actor note => do
      let success ← decline proposalId actor note
      pure (.decided success)
  | .autoReview tenant cohortLaunch => do
      let approved ← OpenReachout.autoReview tenant cohortLaunch
      pure (.reviewed approved)
  | .handle job => unitOut (handler deployment job)
  | .complete job => unitOut (OpenReachout.complete job.id)
  | .fail job error permanent => unitOut (OpenReachout.fail job error permanent)
  | .complianceAlert job error => unitOut (OpenReachout.complianceAlert deployment job error)

/-- `_handle`: the outcome of the handler decides the third transaction. -/
def Op.next : Op → Except Exc Out → Option Op
  | .lease _, .ok (.leased (some job)) => some (.handle job)
  | .handle job, .ok _ => some (.complete job)
  | .handle job, .error error =>
      match error.kind with
      | .complianceJobError => some (.complianceAlert job error.text)
      | .permanentJobError => some (.fail job error.text true)
      | _ => some (.fail job error.text false)
  | _, _ => none

/-- A worker only leases from queues it has a handler for. -/
def Op.entry : Op → Bool
  | .lease queue => deployment.handlers.contains queue
  | .handle _ | .complete _ | .fail _ _ _ | .complianceAlert _ _ => false
  | _ => true

def advanceClock (ticks : Nat) (db : Database) : Database := { db with clock := db.clock + ticks }

def service : Service Database RowLock Exc Mark Call Call.Answer Op Out where
  program := Op.program deployment
  next := Op.next
  entry := Op.entry deployment
  fault := ⟨.databaseError, "statement failed"⟩
  advance := advanceClock
  advance_cell _ _ lock := by cases lock <;> rfl

abbrev World := System Database RowLock Exc Mark Call Call.Answer Op Out
abbrev Act := Action Call Call.Answer Op

end Worker

end OpenReachout
