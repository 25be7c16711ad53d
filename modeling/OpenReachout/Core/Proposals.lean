import OpenReachout.Core.Config

/-!
# Proposals

`core/proposals.py`: what the agents propose, and how it is approved or declined. Their
summaries and their evidence are read by nobody but the operator.
-/

namespace OpenReachout

open Relational Text

set_option autoImplicit false

def declineMemoryDays : Nat := 90

/-- `AUTO_APPLICABLE` -/
def ProposalKind.autoApplicable : ProposalKind → Bool
  | .budgetShift | .rebalance => true
  | .other _ => false

def ProposalKind.text : ProposalKind → String
  | .budgetShift => "budget_shift"
  | .rebalance => "rebalance"
  | .other name => name

/-- An open duplicate, or one that was declined of late. -/
def ProposalRow.remembered (row : ProposalRow) (time : Time) : Bool :=
  row.status = .opened ||
    (row.status = .declined && row.resolvedAt.any fun resolved =>
      time < resolved + days declineMemoryDays)

def propose (tenant : String) (kind : ProposalKind) (payload : ProposalPayload)
    (dedupeKey : Option String) : Prog (Option Uuid) := do
  let existing ← match dedupeKey.filter fun key => key != "" with
    | some key => Program.query fun moment db => db.proposals.select fun _ row =>
        row.tenant = tenant && row.dedupeKey = some key && row.remembered moment.start.clock
    | none => pure []
  if !existing.isEmpty then
    pure none
  else
    let id ← freshUuid
    Program.insertRow Tables.proposals none integrityError (fun _ _ _ => none) id fun moment =>
      { tenant, kind, payload, dedupeKey, createdAt := moment.start.clock }
    pure (some id)

def listOpen (tenant : String) : Prog (List (Uuid × ProposalRow)) :=
  Program.query fun _ db =>
    (db.proposals.select fun _ row => row.status = .opened && row.tenant = tenant).mergeSort
      fun first second => first.2.createdAt ≤ second.2.createdAt

/-- `_get_open` -/
def getOpen (proposalId : Uuid) : Prog (Option ProposalRow) :=
  Program.query fun _ db => (db.proposals.lookup proposalId).filter fun row => row.status = .opened

def decline (proposalId : Uuid) (actor note : String) : Prog Bool := do
  if !humanActorPrefix.toList.isPrefixOf actor.toList then
    raise .permissionError "declining a proposal requires a human actor"
  let updated ← Program.update Tables.proposals
    (fun _ _ id row => id = proposalId && row.status = .opened)
    fun moment row =>
      { row with
        status := .declined, resolvedAt := some moment.start.clock, resolvedBy := some actor }
  if !updated.isEmpty then
    audit "proposal" (toString proposalId) "declined" [("note", .text note)] actor
  pure !updated.isEmpty

/-- One side of a shift: `GREATEST(cap + delta, 0)`. -/
def shiftCap (cohortId : String) (period : Period) (delta : Int) : Prog Unit := do
  let _ ← Program.update Tables.counters
    (fun _ _ key _ => key = (ScopeType.cohortMonth, cohortId, period))
    fun _ row => { row with cap := ((row.cap : Int) + delta).toNat }

/-- `_apply`; whatever else is proposed, the operator edits the configuration. -/
def applyProposal (proposal : ProposalRow) : Prog Unit := do
  let time ← now
  let period := monthOf time
  match proposal.kind, proposal.payload with
  | .rebalance, .pause cohort =>
      let _ ← Program.update Tables.counters
        (fun _ _ key _ => key = (ScopeType.cohortMonth, cohort, period))
        fun _ row => { row with cap := 0 }
  | .other _, _ => pure ()
  | _, .shift fromCohort toCohort amount =>
      shiftCap fromCohort period (-amount)
      shiftCap toCohort period amount
  | _, _ => raise .keyError "amount"

def approve (proposalId : Uuid) (actor : String) (auto : Bool) : Prog Bool := do
  if !auto && !humanActorPrefix.toList.isPrefixOf actor.toList then
    raise .permissionError "approving a proposal requires a human actor"
  match ← getOpen proposalId with
  | none => pure false
  | some proposal =>
      if auto && !proposal.kind.autoApplicable then
        raise .permissionError "proposal kind is always-human; cannot auto-apply (FR-0.3)"
      applyProposal proposal
      let _ ← Program.updateChecked Tables.proposals (some (.approve proposalId))
        (fun _ _ _ _ => none) (fun _ _ id _ => id = proposalId)
        fun moment row =>
          { row with
            status := .approved, resolvedAt := some moment.start.clock, resolvedBy := some actor }
      audit "proposal" (toString proposalId) "approved"
        [("kind", .text proposal.kind.text), ("auto", .flag auto)] actor
      pure true

/-- The open proposals that are approved on the way, in their order. -/
def reviewEach : List (Uuid × ProposalRow) → Prog (List Uuid)
  | [] => pure []
  | (id, proposal) :: rest => do
      let taken ← if proposal.kind.autoApplicable then approve id "system:autonomy" true
        else pure false
      let others ← reviewEach rest
      pure (if taken then id :: others else others)

def autoReview (tenant cohortLaunch : String) : Prog (List Uuid) := do
  if cohortLaunch ≠ "auto_within_budget" then
    pure []
  else
    reviewEach (← listOpen tenant)

end OpenReachout
