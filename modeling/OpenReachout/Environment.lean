import OpenReachout.Core.Gatekeeper

/-!
# What the code runs against

The tables as they are addressed in statements, the calls that leave the
process, and the marks by which a run condition names a statement.
-/

namespace OpenReachout

open Relational

set_option autoImplicit false

namespace Tables

@[reducible] def tenants : TableRef Database RowLock Uuid String where
  get := Database.tenants
  set table db := { db with tenants := table }
  lock := RowLock.tenant
  ofRow _ row := row
  ofRow_injective _ _ _ same := same
  get_set _ _ := rfl
  set_get _ := rfl
  cell_eq _ _ := rfl
  cell_set other _ _ apart := by cases other <;> first | rfl | exact absurd rfl (apart _)

@[reducible] def entities : TableRef Database RowLock Uuid Entity where
  get := Database.entities
  set table db := { db with entities := table }
  lock := RowLock.entity
  ofRow _ row := row
  ofRow_injective _ _ _ same := same
  get_set _ _ := rfl
  set_get _ := rfl
  cell_eq _ _ := rfl
  cell_set other _ _ apart := by cases other <;> first | rfl | exact absurd rfl (apart _)

@[reducible] def entityKeys : TableRef Database RowLock (String × String) Uuid where
  get := Database.entityKeys
  set table db := { db with entityKeys := table }
  lock := RowLock.entityKey
  ofRow _ row := row
  ofRow_injective _ _ _ same := same
  get_set _ _ := rfl
  set_get _ := rfl
  cell_eq _ _ := rfl
  cell_set other _ _ apart := by cases other <;> first | rfl | exact absurd rfl (apart _)

@[reducible] def prospects : TableRef Database RowLock Uuid Prospect where
  get := Database.prospects
  set table db := { db with prospects := table }
  lock := RowLock.prospect
  ofRow _ row := row
  ofRow_injective _ _ _ same := same
  get_set _ _ := rfl
  set_get _ := rfl
  cell_eq _ _ := rfl
  cell_set other _ _ apart := by cases other <;> first | rfl | exact absurd rfl (apart _)

@[reducible] def prospectIndex : TableRef Database RowLock (String × Uuid) Uuid where
  get := Database.prospectIndex
  set table db := { db with prospectIndex := table }
  lock := RowLock.prospectIndex
  ofRow _ row := row
  ofRow_injective _ _ _ same := same
  get_set _ _ := rfl
  set_get _ := rfl
  cell_eq _ _ := rfl
  cell_set other _ _ apart := by cases other <;> first | rfl | exact absurd rfl (apart _)

@[reducible] def evidenceFacts : TableRef Database RowLock Uuid EvidenceFact where
  get := Database.evidenceFacts
  set table db := { db with evidenceFacts := table }
  lock := RowLock.evidenceFact
  ofRow _ row := row
  ofRow_injective _ _ _ same := same
  get_set _ _ := rfl
  set_get _ := rfl
  cell_eq _ _ := rfl
  cell_set other _ _ apart := by cases other <;> first | rfl | exact absurd rfl (apart _)

@[reducible] def touches : TableRef Database RowLock Uuid Touch where
  get := Database.touches
  set table db := { db with touches := table }
  lock := RowLock.touch
  ofRow _ row := row
  ofRow_injective _ _ _ same := same
  get_set _ _ := rfl
  set_get _ := rfl
  cell_eq _ _ := rfl
  cell_set other _ _ apart := by cases other <;> first | rfl | exact absurd rfl (apart _)

@[reducible] def decisionTraces : TableRef Database RowLock Uuid DecisionTrace where
  get := Database.decisionTraces
  set table db := { db with decisionTraces := table }
  lock := RowLock.decisionTrace
  ofRow _ row := row
  ofRow_injective _ _ _ same := same
  get_set _ _ := rfl
  set_get _ := rfl
  cell_eq _ _ := rfl
  cell_set other _ _ apart := by cases other <;> first | rfl | exact absurd rfl (apart _)

@[reducible] def replies : TableRef Database RowLock Uuid Reply where
  get := Database.replies
  set table db := { db with replies := table }
  lock := RowLock.reply
  ofRow _ row := row
  ofRow_injective _ _ _ same := same
  get_set _ _ := rfl
  set_get _ := rfl
  cell_eq _ _ := rfl
  cell_set other _ _ apart := by cases other <;> first | rfl | exact absurd rfl (apart _)

@[reducible] def suppressions : TableRef Database RowLock (String × String) Suppression where
  get := Database.suppressions
  set table db := { db with suppressions := table }
  lock := RowLock.suppression
  ofRow _ row := row
  ofRow_injective _ _ _ same := same
  get_set _ _ := rfl
  set_get _ := rfl
  cell_eq _ _ := rfl
  cell_set other _ _ apart := by cases other <;> first | rfl | exact absurd rfl (apart _)

@[reducible] def forgetTombstones : TableRef Database RowLock String Tombstone where
  get := Database.forgetTombstones
  set table db := { db with forgetTombstones := table }
  lock := RowLock.forgetTombstone
  ofRow _ row := row
  ofRow_injective _ _ _ same := same
  get_set _ _ := rfl
  set_get _ := rfl
  cell_eq _ _ := rfl
  cell_set other _ _ apart := by cases other <;> first | rfl | exact absurd rfl (apart _)

@[reducible] def controlFlags : TableRef Database RowLock String ControlFlag where
  get := Database.controlFlags
  set table db := { db with controlFlags := table }
  lock := RowLock.controlFlag
  ofRow _ row := row
  ofRow_injective _ _ _ same := same
  get_set _ _ := rfl
  set_get _ := rfl
  cell_eq _ _ := rfl
  cell_set other _ _ apart := by cases other <;> first | rfl | exact absurd rfl (apart _)

@[reducible] def counters : TableRef Database RowLock (ScopeType × String × Period) Counter where
  get := Database.counters
  set table db := { db with counters := table }
  lock := RowLock.counter
  ofRow _ row := row
  ofRow_injective _ _ _ same := same
  get_set _ _ := rfl
  set_get _ := rfl
  cell_eq _ _ := rfl
  cell_set other _ _ apart := by cases other <;> first | rfl | exact absurd rfl (apart _)

@[reducible] def providerEvents : TableRef Database RowLock (String × String) ProviderEventRow where
  get := Database.providerEvents
  set table db := { db with providerEvents := table }
  lock := RowLock.providerEvent
  ofRow _ row := row
  ofRow_injective _ _ _ same := same
  get_set _ _ := rfl
  set_get _ := rfl
  cell_eq _ _ := rfl
  cell_set other _ _ apart := by cases other <;> first | rfl | exact absurd rfl (apart _)

@[reducible] def jobs : TableRef Database RowLock Nat JobRow where
  get := Database.jobs
  set table db := { db with jobs := table }
  lock := RowLock.job
  ofRow _ row := row
  ofRow_injective _ _ _ same := same
  get_set _ _ := rfl
  set_get _ := rfl
  cell_eq _ _ := rfl
  cell_set other _ _ apart := by cases other <;> first | rfl | exact absurd rfl (apart _)

@[reducible] def jobIndex : TableRef Database RowLock JobKey Nat where
  get := Database.jobIndex
  set table db := { db with jobIndex := table }
  lock := RowLock.jobIndex
  ofRow _ row := row
  ofRow_injective _ _ _ same := same
  get_set _ _ := rfl
  set_get _ := rfl
  cell_eq _ _ := rfl
  cell_set other _ _ apart := by cases other <;> first | rfl | exact absurd rfl (apart _)

@[reducible] def mailboxes : TableRef Database RowLock String Mailbox where
  get := Database.mailboxes
  set table db := { db with mailboxes := table }
  lock := RowLock.mailbox
  ofRow _ row := row
  ofRow_injective _ _ _ same := same
  get_set _ _ := rfl
  set_get _ := rfl
  cell_eq _ _ := rfl
  cell_set other _ _ apart := by cases other <;> first | rfl | exact absurd rfl (apart _)

@[reducible] def variantStats : TableRef Database RowLock (String × String) VariantStats where
  get := Database.variantStats
  set table db := { db with variantStats := table }
  lock := RowLock.variantStats
  ofRow _ row := row
  ofRow_injective _ _ _ same := same
  get_set _ _ := rfl
  set_get _ := rfl
  cell_eq _ _ := rfl
  cell_set other _ _ apart := by cases other <;> first | rfl | exact absurd rfl (apart _)

@[reducible] def humanTasks : TableRef Database RowLock Uuid HumanTask where
  get := Database.humanTasks
  set table db := { db with humanTasks := table }
  lock := RowLock.humanTask
  ofRow _ row := row
  ofRow_injective _ _ _ same := same
  get_set _ _ := rfl
  set_get _ := rfl
  cell_eq _ _ := rfl
  cell_set other _ _ apart := by cases other <;> first | rfl | exact absurd rfl (apart _)

@[reducible] def operatorEvents : TableRef Database RowLock Uuid OperatorEvent where
  get := Database.operatorEvents
  set table db := { db with operatorEvents := table }
  lock := RowLock.operatorEvent
  ofRow _ row := row
  ofRow_injective _ _ _ same := same
  get_set _ _ := rfl
  set_get _ := rfl
  cell_eq _ _ := rfl
  cell_set other _ _ apart := by cases other <;> first | rfl | exact absurd rfl (apart _)

@[reducible] def operatorEventIndex : TableRef Database RowLock String Uuid where
  get := Database.operatorEventIndex
  set table db := { db with operatorEventIndex := table }
  lock := RowLock.operatorEventIndex
  ofRow _ row := row
  ofRow_injective _ _ _ same := same
  get_set _ _ := rfl
  set_get _ := rfl
  cell_eq _ _ := rfl
  cell_set other _ _ apart := by cases other <;> first | rfl | exact absurd rfl (apart _)

@[reducible] def escalations : TableRef Database RowLock Uuid Escalation where
  get := Database.escalations
  set table db := { db with escalations := table }
  lock := RowLock.escalation
  ofRow _ row := row
  ofRow_injective _ _ _ same := same
  get_set _ _ := rfl
  set_get _ := rfl
  cell_eq _ _ := rfl
  cell_set other _ _ apart := by cases other <;> first | rfl | exact absurd rfl (apart _)

@[reducible] def proposals : TableRef Database RowLock Uuid ProposalRow where
  get := Database.proposals
  set table db := { db with proposals := table }
  lock := RowLock.proposal
  ofRow _ row := row
  ofRow_injective _ _ _ same := same
  get_set _ _ := rfl
  set_get _ := rfl
  cell_eq _ _ := rfl
  cell_set other _ _ apart := by cases other <;> first | rfl | exact absurd rfl (apart _)

def auditEvents : LogRef Database RowLock AuditEvent where
  get := Database.auditEvents
  set rows db := { db with auditEvents := rows }
  cell_set lock _ _ := by cases lock <;> rfl

def objections : LogRef Database RowLock Objection where
  get := Database.objections
  set rows db := { db with objections := rows }
  cell_set lock _ _ := by cases lock <;> rfl

end Tables

/-- Statements that the properties of runs refer to. -/
inductive Mark where
  | haltedScopes (tenant : String)
  | isSuppressed (emailCanonical tenant : String)
  | persistClaim (touchId : Uuid)
  | terminalRefusal (touchId : Uuid)
  | settleTask (touchId : Uuid)
  | cooldown (emailCanonical : String) (months : Nat)
  | attach (prospectId : Uuid) (address : String)
  | approve (proposalId : Uuid)
  | transition (prospectId : Uuid) (target : ProspectState) (actor : String)
  | countReplies (tenant cohortId : String)
  | evaluateCohort (tenant cohortId : String)
  deriving DecidableEq

structure Candidate where
  displayName : String
  orgName : Option String := none
  website : Option String := none
  emailRaw : Option String := none
  phone : Option String := none
  sourceAdapter : String
  sourceRef : Payload := []
  dataBasis : String
  deriving DecidableEq

structure Fact where
  factId : Uuid
  factType : String
  content : String
  sourceUrl : String
  observedAt : Time
  deriving DecidableEq

structure ComposeResult where
  draft : Draft
  contentSha256 : String
  deriving DecidableEq

structure ComposeInputs where
  variantId : String
  variantPrompt : String
  candidate : Candidate
  card : List Fact
  persona : String
  senderFacts : Payload := []
  stepIndex : Nat := 0
  deriving DecidableEq

structure ClassifyReplyOutput where
  injectionSuspected : Bool := false
  intent : Intent
  confidence : Rat
  objectionClass : Option String := none
  deriving DecidableEq

structure QualifyResult where
  qualified : Bool
  rationale : String
  escalate : Bool
  deriving DecidableEq

structure DiscoverResult where
  candidates : List Candidate
  cursor : Option String := none
  deriving DecidableEq

/-- The headers and the content `build_message` sets. -/
structure EmailMessage where
  sender : String
  mailbox : String
  recipient : String
  subject : List Char
  messageId : Uuid × String
  listUnsubscribe : List String
  oneClick : Bool
  content : List Char
  deriving DecidableEq

/-- Every call out of the process. `now`, `uuid` and `serial` are the clock and
the identifier sources. -/
inductive Call where
  | now
  | uuid
  | serial
  | send (touch : ClaimedTouch) (subject body : List Char)
  | transport (mailbox : String) (message : EmailMessage)
  | pauseLead (emailCanonical : String)
  | pauseAllCampaigns (tenant : String)
  | compose (inputs : ComposeInputs)
  | composeReply (body : List Char) (objectionCounter signupLink : Option String)
  | classifyReply (body : List Char)
  | qualify (card : List Fact) (description : String)
  | enrich (candidate : Candidate)
  | findEmail (candidate : Candidate)
  | verify (address : String)
  | discover (source : String) (filters : Payload) (cursor : Option String)
  | thompson (arms : List (String × VariantStats)) (successes trials : Nat)
  | sentiment (intents : List Intent)
  | synthesize (tenant digest : String)
  deriving DecidableEq

@[reducible] def Call.Answer : Call → Type
  | .now => Time
  | .uuid => Uuid
  | .serial => Nat
  | .send _ _ _ => Except Exc Payload
  | .transport _ _ => Except Exc Unit
  | .pauseLead _ => Except Exc Unit
  | .pauseAllCampaigns _ => Except Exc Unit
  | .compose _ => Except Exc ComposeResult
  | .composeReply _ _ _ => Except Exc ComposeResult
  | .classifyReply _ => Except Exc ClassifyReplyOutput
  | .qualify _ _ => Except Exc QualifyResult
  | .enrich _ => Except Exc (List Fact)
  | .findEmail _ => Except Exc (Option String)
  | .verify _ => Except Exc ConfidenceBucket
  | .discover _ _ _ => Except Exc DiscoverResult
  | .thompson _ _ _ => Except Exc String
  | .sentiment _ => Rat
  | .synthesize _ _ => Except Exc Unit

abbrev Prog := Program Database RowLock Exc Mark Call Call.Answer

def now : Prog Time := Program.ask Call.now

def freshUuid : Prog Uuid := Program.ask Call.uuid

/-- A call whose failure is an exception at the caller's. -/
def attempt {Value : Type} (call : Call) (same : call.Answer = Except Exc Value) : Prog Value := do
  let answer ← Program.ask call
  MonadExcept.ofExcept (cast same answer)

def raise {Value : Type} (kind : ExcKind) (text : String) : Prog Value := throw ⟨kind, text⟩

/-- What a violated constraint of the schema raises. -/
def integrityError : Exc := ⟨.databaseError, "integrity error"⟩

def audit (subjectType subjectId event : String) (payload : Payload) (actor : String) :
    Prog Unit :=
  Program.appendRow Tables.auditEvents fun _ => { subjectType, subjectId, event, payload, actor }

end OpenReachout
