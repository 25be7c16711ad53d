import OpenReachout.Core.Queue

/-!
# The claim transaction

`core/store_pg.py`: the gates on the tables, and the two triggers on
`touches.status`.
-/

namespace OpenReachout

open Relational Text

set_option autoImplicit false

def defaultMinCampaignGapDays : Nat := 90
def defaultAnnualTouchCap : Nat := 8

section Triggers

/-- `reject_suppressed_touch`: here any scope counts. -/
def rejectSuppressedTouch (status : TouchStatus) (time : Time) (db : Database) (row : Touch) :
    Option Exc :=
  let address := (db.prospects.lookup row.prospectId).bind Prospect.emailCanonical
  let hit := address.any fun email =>
    !(db.suppressions.select fun key row => key.1 = email && row.active time).isEmpty
  if status = .claimed && hit then some ⟨.databaseError, "suppressed address (invariant I-3)"⟩
  else none

def enforceClaimLineage (status : TouchStatus) (row : Touch) : Option Exc :=
  if status = .dispatched && row.status != .claimed then
    some ⟨.databaseError, "dispatch without claim (invariant I-1)"⟩
  else none

/-- `UPDATE touches SET status = ..., ... WHERE`, with both triggers. -/
def setTouchStatus (status : TouchStatus) (mark : Option Mark)
    (chosen : Moment Database RowLock → Database → Uuid → Touch → Bool)
    (also : Moment Database RowLock → Touch → Touch := fun _ row => row) :
    Prog (List (Uuid × Touch)) :=
  Program.updateChecked Tables.touches mark
    (fun moment db _ row =>
      rejectSuppressedTouch status moment.start.clock db row <|> enforceClaimLineage status row)
    chosen fun moment row => { also moment row with status }

/-- `INSERT INTO touches`; the schema checks `step_index <= 3`. -/
def insertTouch (id : Uuid) (row : Touch) : Prog Unit :=
  Program.insertRow Tables.touches none integrityError
    (fun moment db row =>
      if 3 < row.stepIndex || (db.prospects.lookup row.prospectId).isNone then some integrityError
      else rejectSuppressedTouch row.status moment.start.clock db row)
    id fun _ => row

end Triggers

section Gates

variable (platform : Platform)

def frequencyOk (entityId : Uuid) : Prog Bool := do
  match ← Program.lockRows Tables.entities fun _ _ id _ => id = entityId with
  | [] => pure false
  | (_, row) :: _ =>
      if row.activeSequenceTouchId.isSome then pure false
      else if defaultAnnualTouchCap ≤ row.touches12mo then pure false
      else match row.lastCampaignContactAt with
        | none => pure true
        | some contact => do
            let time ← now
            pure (decide (defaultMinCampaignGapDays ≤ (time - contact) / days 1))

/-- The prospect whose sequence is active, read in the statement that locks the
entity. -/
def activeProspect (db : Database) (row : Entity) : Option Uuid :=
  (row.activeSequenceTouchId.bind db.touches.lookup).map Touch.prospectId

def sequenceContinuationOk (entityId prospectId : Uuid) : Prog Bool := do
  let rows ← Program.perform none fun _ db =>
    let rows := db.entities.select fun id _ => id = entityId
    .ok (Effect.locking (rows.map fun entry => (entry.2.touches12mo, activeProspect db entry.2))
      (rows.map fun entry => RowLock.entity entry.1))
  match rows with
  | [] => pure false
  | (touches12mo, active) :: _ =>
      pure (active = some prospectId && touches12mo < defaultAnnualTouchCap)

def counterScope (scope : ScopeType) (id : String) (period : Period) :
    ScopeType × String × Period := (scope, id, period)

/-- Whether a row was under its cap, and was counted up. -/
def consume (scope : ScopeType) (id : String) : Prog Bool := do
  let time ← now
  let rows ← Program.update Tables.counters
    (fun _ _ key row => key = (scope, id, monthOf time) && row.used < row.cap)
    fun _ row => { row with used := row.used + 1 }
  pure !rows.isEmpty

def scopeName : ScopeType → String
  | .tenantMonth => "tenant_month"
  | .cohortMonth => "cohort_month"
  | .mailboxDay => "mailbox_day"

def adjust (scope : ScopeType) (id : String) (delta : Int) (why : String) : Prog Unit := do
  let time ← now
  let _ ← Program.update Tables.counters (fun _ _ key _ => key = (scope, id, monthOf time))
    fun _ row => { row with used := ((row.used : Int) + delta).toNat }
  audit "counter" (scopeName scope ++ ":" ++ id) "adjustment"
    [("delta", .number delta), ("why", .text why)] "system:gatekeeper"

def tryConsumeBudget (tenant : String) (touch : DraftTouch) : Prog Bool := do
  if ← consume .tenantMonth tenant then
    if ← consume .cohortMonth touch.cohortId then pure true
    else
      adjust .tenantMonth tenant (-1) "cohort cap refusal"
      pure false
  else pure false

def releaseBudget (tenant : String) (touch : DraftTouch) : Prog Unit := do
  adjust .tenantMonth tenant (-1) "downstream refusal"
  adjust .cohortMonth touch.cohortId (-1) "downstream refusal"

def leastUsed : List (String × Counter) → Option (String × Counter)
  | [] => none
  | entry :: rest =>
      match leastUsed rest with
      | some other => if other.2.used < entry.2.used then some other else some entry
      | none => some entry

/-- The counters a mailbox may be picked from, with the mailboxes they count. -/
def openMailboxes (db : Database) (busy : RowLock → Bool) (tenant : String) (period : Period) :
    List (String × Counter) :=
  (db.mailboxes.select fun _ mailbox =>
    mailbox.tenant = tenant && mailbox.warmupComplete).filterMap fun entry =>
      let key := counterScope .mailboxDay entry.1 period
      match db.counters.lookup key with
      | some row =>
          if row.used < row.cap && !busy (.counter key) then some (entry.1, row) else none
      | none => none

def pickMailbox (tenant : String) : Prog (Option String) := do
  let first ← now
  let mailboxes ← Program.query fun _ db =>
    db.mailboxes.select fun _ mailbox => mailbox.tenant = tenant
  mailboxes.forM fun entry => do
    let _ ← Program.insertNew Tables.counters (counterScope .mailboxDay entry.1 (dayOf first))
      fun _ => ⟨0, entry.2.dailyCap⟩
  let second ← now
  let picked ← Program.perform none fun moment db =>
    match leastUsed (openMailboxes db moment.busy tenant (dayOf second)) with
    | none => .ok (Effect.reading none)
    | some (mailbox, _) => .ok (Effect.locking (some mailbox)
        [.counter (counterScope .mailboxDay mailbox (dayOf second))])
  match picked with
  | none => pure none
  | some mailbox =>
      let third ← now
      let _ ← Program.update Tables.counters
        (fun _ _ key _ => key = counterScope .mailboxDay mailbox (dayOf third))
        fun _ row => { row with used := row.used + 1 }
      pure (some mailbox)

def confidenceSendable (emailCanonical tenant : String) : Prog Bool :=
  Program.query fun _ db =>
    !(db.prospects.select fun _ row =>
      row.emailCanonical = some emailCanonical && db.tenants.lookup row.tenantId = some tenant &&
        row.emailConfidence = some .verified).isEmpty

def persistClaim (touch : DraftTouch) (mailbox : String) (gateResults : Payload) :
    Prog Unit := do
  let claimed ← setTouchStatus .claimed (some (.persistClaim touch.touchId))
    (fun _ _ id row => id = touch.touchId && row.status = .drafted)
    fun moment row => { row with claimedAt := some moment.start.clock, mailbox := some mailbox }
  if claimed.isEmpty then
    raise .runtimeError "touch not in 'drafted' state"
  if touch.profile.budgeted then
    let _ ← Program.update Tables.entities (fun _ _ id _ => id = touch.entityId)
      fun moment row =>
        { row with
          activeSequenceTouchId := some touch.touchId
          lastCampaignContactAt := some moment.start.clock
          touches12mo := row.touches12mo + 1 }
  Program.upsertRow Tables.decisionTraces none touch.touchId
    (fun _ => ⟨gateResults, some touch.validatorCtx.claimRegistryVersion⟩)
    (fun _ _ => ⟨gateResults, some touch.validatorCtx.claimRegistryVersion⟩)
  audit "touch" (toString touch.touchId) "claimed" [] "system:gatekeeper"

def pgGateStore : GateStore Prog where
  haltedScopes := haltedScopes
  isSuppressed := isSuppressed platform
  frequencyOk entityId _ := frequencyOk entityId
  sequenceContinuationOk := sequenceContinuationOk
  tryConsumeBudget := tryConsumeBudget
  releaseBudget := releaseBudget
  pickMailbox := pickMailbox
  confidenceSendable := confidenceSendable
  persistClaim := persistClaim

end Gates

section Dispatch

variable (platform : Platform)

/-- The rows that `load_claimed` joins. -/
def claimedRow (db : Database) (touchId : Uuid) :
    Option (String × String × String × Option String) :=
  (db.touches.lookup touchId).bind fun touch =>
    (db.prospects.lookup touch.prospectId).bind fun prospect =>
      (db.tenants.lookup prospect.tenantId).bind fun slug =>
        if touch.status = .claimed then
          touch.mailbox.map fun mailbox =>
            (slug, mailbox, touch.contentHash, prospect.emailCanonical)
        else none

/-- Halts and suppressions are looked up again. -/
def loadClaimed (touchId : Uuid) : Prog (Option ClaimedSnapshot) := do
  match ← Program.query fun _ db => claimedRow db touchId with
  | none => pure none
  | some (tenant, mailbox, contentHash, email) =>
      let halted ← haltedScopes tenant
      if halted ≠ [] then
        pure none
      else
        match email with
        | none => pure none
        | some email =>
            if ← isSuppressed platform email tenant then
              pure none
            else
              pure (some ⟨touchId, tenant, mailbox, contentHash, email⟩)

def pgDispatchStore : DispatchStore Prog where
  loadClaimed := loadClaimed platform

end Dispatch

end OpenReachout
