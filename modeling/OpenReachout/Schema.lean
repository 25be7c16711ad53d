import OpenReachout.Relational.Statement

/-!
# The database

The tables of `db/schema.sql`. Primary keys are the keys of the tables; a
further unique column has its index as a table of its own. Identifiers are
opaque, timestamps are microseconds, and a `jsonb` payload is the list of its
fields.
-/

namespace OpenReachout

open Relational

set_option autoImplicit false

abbrev Uuid := Nat
abbrev Time := Nat

def seconds (count : Nat) : Time := count * 1000000
def days (count : Nat) : Time := seconds (count * 86400)

inductive Field where
  | text (value : String)
  | number (value : Int)
  | decimal (value : Rat)
  | flag (value : Bool)
  | null
  deriving DecidableEq

abbrev Payload := List (String × Field)

/-- No column holds a NUL character. -/
def storable (text : List Char) : Bool := !text.contains (Char.ofNat 0)

/-- The exception classes that some handler or caller tells apart. -/
inductive ExcKind where
  | permanentJobError | complianceJobError | transitionError | invalidEmailError
  | composeEscalation | replyComposeError | permissionError | lookupError | keyError
  | valueError | runtimeError | unknownSubjectError | databaseError | other
  deriving DecidableEq

structure Exc where
  kind : ExcKind
  text : String
  deriving DecidableEq

inductive ProspectState where
  | discovered | enriched | qualified | queued | contacted | engaged | converted
  | disqualified | unenrichable | bounced | declined | unsubscribed | noResponse | forgotten
  deriving DecidableEq

inductive TouchStatus where
  | pendingReview | drafted | claimed | dispatched | sent | released | pendingHuman
  deriving DecidableEq

inductive TouchKind where
  | cold | followup | agenticReply | humanTask
  deriving DecidableEq

inductive TaskStatus where
  | pending | done | skipped | expired
  deriving DecidableEq

inductive JobStatus where
  | ready | leased | done | dead
  deriving DecidableEq

inductive QueueName where
  | control | trigger | classify | deliver | compose | referral | reengage
  | qualify | enrich | discover | synthesize
  deriving DecidableEq

inductive ConfidenceBucket where
  | verified | risky | undeliverable | unknown
  deriving DecidableEq

/-- `counters.scope_type`. -/
inductive ScopeType where
  | tenantMonth | cohortMonth | mailboxDay
  deriving DecidableEq

/-- `counters.period`: `%Y-%m` or `%Y-%m-%d`. -/
inductive Period where
  | month (year month : Nat)
  | day (year month day : Nat)
  deriving DecidableEq

/-- `replies.intent` -/
inductive Intent where
  | interested | question | objection | notInterested | unsubscribe | outOfOffice
  | wrongPerson | hostile | other
  deriving DecidableEq

/-- `proposals.status` -/
inductive ProposalStatus where
  | opened | approved | declined
  deriving DecidableEq

/-- `proposals.kind`: what `_apply` tells apart. -/
inductive ProposalKind where
  | budgetShift | rebalance | other (name : String)
  deriving DecidableEq

structure Counter where
  used : Nat
  cap : Nat
  deriving DecidableEq

structure Entity where
  tenantId : Uuid
  displayName : Option String
  lastCampaignContactAt : Option Time := none
  activeSequenceTouchId : Option Uuid := none
  touches12mo : Nat := 0
  forgotten : Bool := false
  referralAsked : Bool := false
  deriving DecidableEq

structure Prospect where
  tenantId : Uuid
  entityId : Uuid
  cohortId : String
  personaId : String
  state : ProspectState
  emailRaw : Option String
  emailCanonical : Option String := none
  emailConfidence : Option ConfidenceBucket := none
  sourceAdapter : String
  sourceRef : Payload
  dataBasis : String
  deriving DecidableEq

structure EvidenceFact where
  prospectId : Uuid
  factType : String
  content : String
  sourceUrl : String
  observedAt : Time
  deriving DecidableEq

structure Touch where
  prospectId : Uuid
  campaignId : String
  variantId : Option String
  stepIndex : Nat
  kind : TouchKind
  status : TouchStatus
  subject : Option (List Char)
  body : Option (List Char)
  scrubbed : Bool := false
  contentHash : String
  claimedAt : Option Time := none
  sentAt : Option Time := none
  providerRef : Option Payload := none
  mailbox : Option String := none
  deriving DecidableEq

structure DecisionTrace where
  gateResults : Payload
  claimRegistryVersion : Option String
  deriving DecidableEq

structure Reply where
  prospectId : Uuid
  touchId : Uuid
  body : Option (List Char)
  scrubbed : Bool := false
  intent : Option Intent := none
  confidence : Option Rat := none
  agenticExchanges : Nat := 0
  receivedAt : Time
  deriving DecidableEq

structure Suppression where
  reason : String
  expiresAt : Option Time
  createdAt : Time
  deriving DecidableEq

structure Tombstone where
  receiptId : Uuid
  createdAt : Time
  providerPropagatedAt : Option Time := none
  deriving DecidableEq

structure ControlFlag where
  flag : String
  setBy : String
  setAt : Time
  deriving DecidableEq

structure ProviderEventRow where
  kind : String
  payload : Payload
  deriving DecidableEq

structure AuditEvent where
  subjectType : String
  subjectId : String
  event : String
  payload : Payload := []
  actor : String
  deriving DecidableEq

/-- `jobs.payload`, one constructor for each shape that is enqueued. -/
inductive JobPayload where
  | pauseLead (email scope : String)
  | deleteLead (email : String) (receiptId : Uuid)
  | pauseAllCampaigns (scope : String)
  | event (eventId : Uuid)
  | reply (replyId : Uuid)
  | touch (touchId : Uuid)
  | compose (prospectId : Uuid) (stepIndex : Nat)
  | prospect (prospectId : Uuid)
  | discover (tenant persona cohort : String) (extraFilters : Payload) (cursor : Option String)
  | brief (tenant digest : String)
  deriving DecidableEq

/-- `jobs.idempotency_key`, one constructor for each format string. -/
inductive JobKey where
  | deliver (touchId : Uuid)
  | compose (prospectId : Uuid)
  | followup (prospectId : Uuid) (stepIndex : Nat)
  | trigger (eventId : Uuid)
  | triggerCompose (eventId prospectId : Uuid)
  | triggerDiscover (eventId : Uuid) (cohort : String)
  | discover (first second : String)
  | enrich (prospectId : Uuid)
  | qualify (prospectId : Uuid)
  | classify (replyId : Uuid)
  | referral (prospectId : Uuid)
  | reengage (prospectId : Uuid)
  | pause (email scope reason : String)
  | halt (scope flag : String)
  | forget (hash : String)
  | synthesize (tenant digest : String)
  deriving DecidableEq

structure JobRow where
  queue : QueueName
  payload : JobPayload
  idempotencyKey : JobKey
  status : JobStatus := .ready
  attempts : Nat := 0
  maxAttempts : Nat := 5
  leaseUntil : Option Time := none
  runAfter : Time
  lastError : Option String := none
  deriving DecidableEq

structure Mailbox where
  tenant : String
  warmupComplete : Bool
  dailyCap : Nat
  deriving DecidableEq

structure VariantStats where
  trials : Nat := 0
  successes : Nat := 0
  complaints : Nat := 0
  unsubs : Nat := 0
  bounces : Nat := 0
  paused : Bool := false
  deriving DecidableEq

structure Escalation where
  tenant : Option String
  subjectType : String
  subjectId : String
  reason : String
  payload : Payload := []
  resolvedBy : Option String := none
  deriving DecidableEq

structure Objection where
  tenant : String
  objectionClass : String
  replyId : Uuid
  cohortId : String
  deriving DecidableEq

structure HumanTask where
  tenant : String
  prospectId : Uuid
  touchId : Uuid
  instruction : String
  brief : String
  status : TaskStatus := .pending
  outcomeNote : Option String := none
  createdAt : Time
  resolvedAt : Option Time := none
  resolvedBy : Option String := none
  deriving DecidableEq

structure OperatorEvent where
  eventType : String
  selector : Payload
  dedupeKey : Option String
  deriving DecidableEq

/-- `proposals.payload`, one constructor for each shape that is applied. -/
inductive ProposalPayload where
  | shift (fromCohort toCohort : String) (amount : Int)
  | pause (cohort : String)
  | other
  deriving DecidableEq

structure ProposalRow where
  tenant : String
  kind : ProposalKind
  payload : ProposalPayload
  status : ProposalStatus := .opened
  dedupeKey : Option String := none
  createdAt : Time
  resolvedAt : Option Time := none
  resolvedBy : Option String := none
  deriving DecidableEq

/-- `clock` is the database server's clock. -/
structure Database where
  clock : Time
  tenants : Table Uuid String := .empty
  entities : Table Uuid Entity := .empty
  entityKeys : Table (String × String) Uuid := .empty
  prospects : Table Uuid Prospect := .empty
  /-- the index of `UNIQUE (cohort_id, entity_id)` -/
  prospectIndex : Table (String × Uuid) Uuid := .empty
  evidenceFacts : Table Uuid EvidenceFact := .empty
  touches : Table Uuid Touch := .empty
  decisionTraces : Table Uuid DecisionTrace := .empty
  replies : Table Uuid Reply := .empty
  suppressions : Table (String × String) Suppression := .empty
  forgetTombstones : Table String Tombstone := .empty
  controlFlags : Table String ControlFlag := .empty
  counters : Table (ScopeType × String × Period) Counter := .empty
  providerEvents : Table (String × String) ProviderEventRow := .empty
  jobs : Table Nat JobRow := .empty
  /-- the index of `idempotency_key text UNIQUE` -/
  jobIndex : Table JobKey Nat := .empty
  mailboxes : Table String Mailbox := .empty
  variantStats : Table (String × String) VariantStats := .empty
  humanTasks : Table Uuid HumanTask := .empty
  operatorEvents : Table Uuid OperatorEvent := .empty
  /-- the index of `dedupe_key text UNIQUE` -/
  operatorEventIndex : Table String Uuid := .empty
  escalations : Table Uuid Escalation := .empty
  proposals : Table Uuid ProposalRow := .empty
  objections : List Objection := []
  auditEvents : List AuditEvent := []

/-- Row locks, index-entry locks, and the advisory lock of the review ramp. -/
inductive RowLock where
  | tenant (id : Uuid)
  | entity (id : Uuid)
  | entityKey (key : String × String)
  | prospect (id : Uuid)
  | prospectIndex (key : String × Uuid)
  | evidenceFact (id : Uuid)
  | touch (id : Uuid)
  | decisionTrace (id : Uuid)
  | reply (id : Uuid)
  | suppression (key : String × String)
  | forgetTombstone (hash : String)
  | controlFlag (scope : String)
  | counter (key : ScopeType × String × Period)
  | providerEvent (key : String × String)
  | job (id : Nat)
  | jobIndex (key : JobKey)
  | mailbox (address : String)
  | variantStats (key : String × String)
  | humanTask (id : Uuid)
  | operatorEvent (id : Uuid)
  | operatorEventIndex (key : String)
  | escalation (id : Uuid)
  | proposal (id : Uuid)
  | ramp (campaignId variantId : String)
  deriving DecidableEq

@[reducible] def RowLock.Content : RowLock → Type
  | .tenant _ => Option String
  | .entity _ => Option Entity
  | .entityKey _ => Option Uuid
  | .prospect _ => Option Prospect
  | .prospectIndex _ => Option Uuid
  | .evidenceFact _ => Option EvidenceFact
  | .touch _ => Option Touch
  | .decisionTrace _ => Option DecisionTrace
  | .reply _ => Option Reply
  | .suppression _ => Option Suppression
  | .forgetTombstone _ => Option Tombstone
  | .controlFlag _ => Option ControlFlag
  | .counter _ => Option Counter
  | .providerEvent _ => Option ProviderEventRow
  | .job _ => Option JobRow
  | .jobIndex _ => Option Nat
  | .mailbox _ => Option Mailbox
  | .variantStats _ => Option VariantStats
  | .humanTask _ => Option HumanTask
  | .operatorEvent _ => Option OperatorEvent
  | .operatorEventIndex _ => Option Uuid
  | .escalation _ => Option Escalation
  | .proposal _ => Option ProposalRow
  | .ramp _ _ => Unit

def RowLock.content : (lock : RowLock) → Database → lock.Content
  | .tenant id, db => db.tenants.lookup id
  | .entity id, db => db.entities.lookup id
  | .entityKey key, db => db.entityKeys.lookup key
  | .prospect id, db => db.prospects.lookup id
  | .prospectIndex key, db => db.prospectIndex.lookup key
  | .evidenceFact id, db => db.evidenceFacts.lookup id
  | .touch id, db => db.touches.lookup id
  | .decisionTrace id, db => db.decisionTraces.lookup id
  | .reply id, db => db.replies.lookup id
  | .suppression key, db => db.suppressions.lookup key
  | .forgetTombstone hash, db => db.forgetTombstones.lookup hash
  | .controlFlag scope, db => db.controlFlags.lookup scope
  | .counter key, db => db.counters.lookup key
  | .providerEvent key, db => db.providerEvents.lookup key
  | .job id, db => db.jobs.lookup id
  | .jobIndex key, db => db.jobIndex.lookup key
  | .mailbox address, db => db.mailboxes.lookup address
  | .variantStats key, db => db.variantStats.lookup key
  | .humanTask id, db => db.humanTasks.lookup id
  | .operatorEvent id, db => db.operatorEvents.lookup id
  | .operatorEventIndex key, db => db.operatorEventIndex.lookup key
  | .escalation id, db => db.escalations.lookup id
  | .proposal id, db => db.proposals.lookup id
  | .ramp _ _, _ => ()

instance : Lockable Database RowLock where
  Cell := RowLock.Content
  cell := RowLock.content

end OpenReachout
