import OpenReachout.Core.Attribution
import OpenReachout.Core.Lifecycle

/-!
# The send path

`core/sendpath.py`. The deliver handler claims, sends and dispatches in one
transaction.
-/

namespace OpenReachout

open Relational Text

set_option autoImplicit false

section Drafts

variable (deployment : Deployment)

/-- The draft and its hash as they are stored: links carry the touch's token. -/
def boundDraft (touchId : Uuid) (kind : TouchKind) (draft : Draft) (hash : String) :
    Draft × String :=
  match deployment.attributionKey with
  | none => (draft, hash)
  | some key =>
      if kind = .humanTask then (draft, hash)
      else
        let tokenized := tokenizeLinks deployment.platform draft.body touchId key
        if tokenized = draft.body then (draft, hash)
        else
          let draft := { draft with body := tokenized }
          (draft, contentHash deployment.platform draft)

/-- Whether the review ramp still holds drafts of this campaign and variant. -/
def holdForReview (campaignId : String) (variantId : Option String) (approveFirst : Nat) :
    Prog Bool :=
  if approveFirst = 0 then pure false
  else do
    Program.perform none fun _ _ =>
      .ok (Effect.locking () [RowLock.ramp campaignId (variantId.getD "")])
    Program.query fun _ db =>
      decide ((db.touches.select fun _ row =>
        row.campaignId = campaignId && row.variantId = variantId).length < approveFirst)

def queueDraft (prospectId : Uuid) (campaignId : String) (variantId : Option String)
    (stepIndex : Nat) (kind : TouchKind) (draft : Draft) (hash : String)
    (approveFirst : Nat := 0) : Prog Uuid := do
  let touchId ← freshUuid
  let (draft, hash) := boundDraft deployment touchId kind draft hash
  let hold ← holdForReview campaignId variantId approveFirst
  insertTouch touchId
    { prospectId, campaignId, variantId, stepIndex, kind
      status := if hold then .pendingReview else .drafted
      subject := some draft.subject, body := some draft.body, contentHash := hash }
  if !hold then
    let _ ← enqueue .deliver (.touch touchId) (.deliver touchId)
  pure touchId

def auditReview (touchId : Uuid) (event actor : String) (note : String := "") : Prog Unit :=
  audit "touch" (toString touchId) event [("note", .text note)] actor

def approvePending (touchId : Uuid) (actor : String) : Prog Bool := do
  if !humanActorPrefix.toList.isPrefixOf actor.toList then
    raise .permissionError "ramp approval requires a human actor"
  let rows ← setTouchStatus .drafted none
    fun _ _ id row => id = touchId && row.status = .pendingReview
  if rows.isEmpty then
    pure false
  else
    let _ ← enqueue .deliver (.touch touchId) (.deliver touchId)
    auditReview touchId "ramp_approved" actor
    pure true

def rejectPending (touchId : Uuid) (actor note : String) : Prog Bool := do
  if !humanActorPrefix.toList.isPrefixOf actor.toList then
    raise .permissionError "ramp rejection requires a human actor"
  let rows ← setTouchStatus .released none
    fun _ _ id row => id = touchId && row.status = .pendingReview
  if !rows.isEmpty then
    auditReview touchId "ramp_rejected" actor note
  pure !rows.isEmpty

end Drafts

section Deliver

variable (deployment : Deployment)

def profileOf : TouchKind → GateProfile
  | .agenticReply => .reply
  | .followup => .followup
  | .cold | .humanTask => .cold

/-- The rows of the three-way join that `_load_gate_draft` and `deliver` read. -/
def joinedTouch (db : Database) (touchId : Uuid) : Option (Touch × Prospect × String) :=
  (db.touches.lookup touchId).bind fun touch =>
    (db.prospects.lookup touch.prospectId).bind fun prospect =>
      (db.tenants.lookup prospect.tenantId).map fun slug => (touch, prospect, slug)

def loadGateDraft (touchId : Uuid) (ctx : ValidatorContext) : Prog (Option DraftTouch) := do
  match ← Program.query fun _ db => joinedTouch db touchId with
  | none => pure none
  | some (touch, prospect, slug) =>
      if touch.status ≠ .drafted then pure none
      else match prospect.emailCanonical with
        | none => raise .permanentJobError "prospect has no contactable address"
        | some email => pure (some {
            touchId, tenant := slug, entityId := prospect.entityId, emailCanonical := email
            draft := ⟨touch.subject.getD [], touch.body.getD [], touch.stepIndex⟩
            storedContentHash := touch.contentHash
            groundednessPassedHash := some touch.contentHash
            profile := profileOf touch.kind, validatorCtx := ctx
            cohortId := prospect.cohortId, prospectId := touch.prospectId })

/-- Whether the entity's active sequence is the prospect's. -/
def ownsSequence (db : Database) (prospectId : Uuid) (entityId : Uuid) (row : Entity) : Bool :=
  ((db.prospects.lookup prospectId).any fun prospect => prospect.entityId = entityId) &&
    (activeProspect db row = some prospectId)

def releaseSequence (prospectId : Uuid) : Prog Bool := do
  let rows ← Program.update Tables.entities (fun _ db id row => ownsSequence db prospectId id row)
    fun _ row => { row with activeSequenceTouchId := none }
  pure !rows.isEmpty

/-- `sequences.get(tenant, {}).get(persona)` -/
def sequenceFor (tenant persona : String) : Option SequenceSpec :=
  (deployment.sequences.bind (List.lookup tenant)).bind (List.lookup persona)

def planNextStep (prospectId : Uuid) (gateDraft : DraftTouch) : Prog Unit :=
  if deployment.sequences.isNone || gateDraft.profile = .reply then pure ()
  else do
    let persona ← Program.query fun _ db =>
      (db.prospects.lookup prospectId).map Prospect.personaId
    match sequenceFor deployment gateDraft.tenant (persona.getD "None") with
    | none => pure ()
    | some spec =>
        let nextStep := gateDraft.draft.stepIndex + 1
        if spec.steps ≤ nextStep then
          let _ ← releaseSequence prospectId
        else
          let _ ← enqueue .compose (.compose prospectId nextStep) (.followup prospectId nextStep)
            ((spec.gapsDays.getD gateDraft.draft.stepIndex 0) * 86400)

/-- A terminal refusal ends the job: the touch is released whatever its status. -/
def releaseRefused (touchId : Uuid) (refusal : Refusal) : Prog Unit := do
  let _ ← setTouchStatus .released (some (.terminalRefusal touchId)) fun _ _ id _ => id = touchId
  audit "touch" (toString touchId) "released"
    [("reason", .text refusal.reason.text), ("detail", .text refusal.detail)] "system:deliver"

def dispatch (touchId : Uuid) (gateDraft : DraftTouch) (providerRef : Payload) : Prog Unit := do
  let touch ← Program.query fun _ db => db.touches.lookup touchId
  match touch.bind Touch.variantId with
  | some variantId =>
      if variantId ≠ "" then
        recordTrial gateDraft.tenant variantId
  | none => pure ()
  let row ← Program.query fun _ db => db.touches.lookup touchId
  match row with
  | none => pure ()
  | some row =>
      let prospectId := row.prospectId
      let current ← Program.query fun _ db => (db.prospects.lookup prospectId).map Prospect.state
      if current = some .queued then
        transition prospectId .contacted "system:deliver"
      let _ ← setTouchStatus .dispatched none (fun _ _ id _ => id = touchId)
        fun moment row => { row with
          sentAt := some moment.start.clock, providerRef := some providerRef }
      planNextStep deployment prospectId gateDraft

def deliver (touchId : Uuid) : Prog Unit := do
  let status ← Program.query fun _ db => (db.touches.lookup touchId).map Touch.status
  if status = some .dispatched ∨ status = some .sent then
    pure ()
  else if status ≠ some .drafted then
    raise .permanentJobError "touch not in 'drafted' state"
  else
    let tenant ← Program.query fun _ db => (joinedTouch db touchId).map fun row => row.2.2
    match deployment.contexts.lookup (tenant.getD "None") with
    | none => raise .keyError (tenant.getD "None")
    | some ctx =>
        match ← loadGateDraft touchId ctx with
        | none => raise .permanentJobError "touch not loadable as drafted"
        | some gateDraft =>
            match ← claim deployment.runtime (pgGateStore deployment.platform) gateDraft with
            | .refused refusal =>
                if refusal.terminal then
                  releaseRefused touchId refusal
                else
                  raise .runtimeError ("retryable refusal: " ++ refusal.reason.text)
            | .claimed touch =>
                let providerRef ← deployment.provider.send touch gateDraft.draft.subject
                  gateDraft.draft.body
                dispatch deployment touchId gateDraft providerRef

end Deliver

end OpenReachout
