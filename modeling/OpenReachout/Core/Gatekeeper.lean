import OpenReachout.Compliance.Validators

/-!
# The gatekeeper

`core/gatekeeper.py`: the gates a touch passes before it is sent, in their order,
over any store and any monad with exceptions. An exception of the store becomes
a refusal.
-/

namespace OpenReachout

set_option autoImplicit false

universe u

inductive RefusalReason where
  | halted | validation | suppressed | frequency | budget | noCapacity | confidence | internal
  deriving DecidableEq

def RefusalReason.text : RefusalReason → String
  | .halted => "halted"
  | .validation => "validation"
  | .suppressed => "suppressed"
  | .frequency => "frequency"
  | .budget => "budget"
  | .noCapacity => "no_capacity"
  | .confidence => "confidence"
  | .internal => "internal"

inductive GateProfile where
  | cold | reply | followup
  deriving DecidableEq

structure Refusal where
  reason : RefusalReason
  detail : String := ""
  terminal : Bool := false
  deriving DecidableEq

structure ClaimedTouch where
  touchId : Uuid
  tenant : String
  mailbox : String
  contentSha256 : String
  recipient : String
  deriving DecidableEq

structure DraftTouch where
  touchId : Uuid
  tenant : String
  entityId : Uuid
  emailCanonical : String
  draft : Draft
  storedContentHash : String
  groundednessPassedHash : Option String
  profile : GateProfile
  validatorCtx : ValidatorContext
  cohortId : String
  prospectId : Uuid
  deriving DecidableEq

/-- `(COLD, FOLLOWUP)`: the profiles whose volume is budgeted. -/
def GateProfile.budgeted : GateProfile → Bool
  | .cold | .followup => true
  | .reply => false

structure GateStore (m : Type → Type u) where
  haltedScopes : String → m (List String)
  isSuppressed : String → String → m Bool
  frequencyOk : Uuid → String → m Bool
  sequenceContinuationOk : Uuid → Uuid → m Bool
  tryConsumeBudget : String → DraftTouch → m Bool
  releaseBudget : String → DraftTouch → m Unit
  pickMailbox : String → m (Option String)
  confidenceSendable : String → String → m Bool
  persistClaim : DraftTouch → String → Payload → m Unit

inductive ClaimResult where
  | claimed (touch : ClaimedTouch)
  | refused (refusal : Refusal)
  deriving DecidableEq

def refuse (gate : String) (reason : RefusalReason) (terminal : Bool) (detail : String := "") :
    ClaimResult :=
  .refused ⟨reason, if detail = "" then gate else detail, terminal⟩

def Finding.line (finding : Finding) : String :=
  finding.code.text ++ ":" ++ String.ofList finding.detail

section Claim

variable {m : Type → Type u} [Monad m] [MonadExceptOf Exc m]

/-- Gates 6 to 8; what was consumed is given back by hand on a refusal. -/
def capacityGates (store : GateStore m) (touch : DraftTouch) (results : Payload) :
    m ClaimResult := do
  match ← store.pickMailbox touch.tenant with
  | none =>
      if touch.profile.budgeted then
        store.releaseBudget touch.tenant touch
      pure (refuse "mailbox" .noCapacity false)
  | some mailbox =>
      if ← store.confidenceSendable touch.emailCanonical touch.tenant then
        store.persistClaim touch mailbox
          (results ++ [("mailbox", .text mailbox), ("confidence", .text "pass")])
        pure (.claimed ⟨touch.touchId, touch.tenant, mailbox, touch.storedContentHash,
          touch.emailCanonical⟩)
      else
        if touch.profile.budgeted then
          store.releaseBudget touch.tenant touch
        pure (refuse "confidence" .confidence true)

/-- Gate 5. -/
def budgetGate (store : GateStore m) (touch : DraftTouch) (results : Payload) :
    m ClaimResult := do
  if ← store.tryConsumeBudget touch.tenant touch then
    capacityGates store touch (results ++ [("budget", .text "pass")])
  else
    pure (refuse "budget" .budget false)

/-- Gates 3 and 4. -/
def contactGates (store : GateStore m) (touch : DraftTouch) (results : Payload) :
    m ClaimResult := do
  if ← store.isSuppressed touch.emailCanonical touch.tenant then
    pure (refuse "suppression" .suppressed true)
  else
    let results := results ++ [("suppression", .text "pass")]
    match touch.profile with
    | .cold =>
        if ← store.frequencyOk touch.entityId touch.tenant then
          budgetGate store touch (results ++ [("frequency", .text "pass")])
        else
          pure (refuse "frequency" .frequency true)
    | .followup =>
        if ← store.sequenceContinuationOk touch.entityId touch.prospectId then
          budgetGate store touch (results ++ [("frequency", .text "pass(continuation)")])
        else
          pure (refuse "frequency" .frequency true)
    | .reply => capacityGates store touch results

/-- Gates 1 and 2. -/
def gates (runtime : Runtime) (store : GateStore m) (touch : DraftTouch) : m ClaimResult := do
  let halted ← store.haltedScopes touch.tenant
  if halted ≠ [] then
    pure (refuse "halt" .halted false)
  else if contentHash runtime.platform touch.draft ≠ touch.storedContentHash then
    pure (refuse "content_hash" .validation true)
  else
    match validate runtime touch.draft touch.validatorCtx with
    | .error error => throw error
    | .ok findings =>
        if findings ≠ [] then
          pure (refuse "validators" .validation true
            ("; ".intercalate (findings.map Finding.line)))
        else if touch.groundednessPassedHash ≠ some touch.storedContentHash then
          pure (refuse "groundedness" .validation true)
        else
          contactGates store touch [("halt", .text "pass"), ("validators", .text "pass")]

def claim (runtime : Runtime) (store : GateStore m) (touch : DraftTouch) : m ClaimResult :=
  tryCatch (gates runtime store touch) fun error =>
    pure (.refused ⟨.internal, error.text, false⟩)

end Claim

section Reissue

/-- A touch that is claimed and was still sendable when it was loaded. -/
structure ClaimedSnapshot where
  touchId : Uuid
  tenant : String
  mailbox : String
  contentSha256 : String
  recipient : String := ""
  deriving DecidableEq

structure DispatchStore (m : Type → Type u) where
  loadClaimed : Uuid → m (Option ClaimedSnapshot)

variable {m : Type → Type u} [Monad m] [MonadExceptOf Exc m]

def reissue (store : DispatchStore m) (touchId : Uuid) : m ClaimResult := do
  let loaded ← tryCatch (do
      let snapshot ← store.loadClaimed touchId
      pure (Except.ok snapshot))
    fun error => pure (Except.error error)
  match loaded with
  | .error error => pure (.refused ⟨.internal, error.text, false⟩)
  | .ok none => pure (.refused ⟨.validation, "not claimed/sendable", true⟩)
  | .ok (some snapshot) =>
      pure (.claimed ⟨snapshot.touchId, snapshot.tenant, snapshot.mailbox,
        snapshot.contentSha256, snapshot.recipient⟩)

end Reissue

end OpenReachout
