import OpenReachout.Core.Gatekeeper
import OpenReachout.Relational.Observation

/-!
# What a claim has passed

Over any store and any observation of it: a claim never raises, and one that
returns a claimed touch has come through every gate, in order.
-/

namespace OpenReachout

open Relational

set_option autoImplicit false

universe u

section Gates

variable {m : Type → Type u} [Monad m] [MonadExceptOf Exc m] {Spot : Type}
variable (seen : Observation m Exc Spot) (runtime : Runtime) (store : GateStore m)
variable (touch : DraftTouch)

/-- The gate of the profile: a first contact, or a continuation. -/
def FrequencyPassed (a b : Spot) : Prop :=
  match touch.profile with
  | .cold => seen.runs (store.frequencyOk touch.entityId touch.tenant) a (.ok true) b
  | .followup =>
      seen.runs (store.sequenceContinuationOk touch.entityId touch.prospectId) a (.ok true) b
  | .reply => b = a

def BudgetPassed (a b : Spot) : Prop :=
  if touch.profile.budgeted then
    seen.runs (store.tryConsumeBudget touch.tenant touch) a (.ok true) b
  else b = a

/-- The content checks, which no store takes part in. -/
structure Vetted : Prop where
  hash : contentHash runtime.platform touch.draft = touch.storedContentHash
  grounded : touch.groundednessPassedHash = some touch.storedContentHash
  valid : validate runtime touch.draft touch.validatorCtx = .ok []

def claimedAs (mailbox : String) : ClaimedTouch :=
  ⟨touch.touchId, touch.tenant, mailbox, touch.storedContentHash, touch.emailCanonical⟩

/-- The gates after the budget, from `a` to `b`. -/
inductive CapacityPassed (a b : Spot) (claimed : ClaimedTouch) : Prop where
  | intro (mailbox : String) (results : Payload) (picked confident : Spot)
      (capacity : seen.runs (store.pickMailbox touch.tenant) a (.ok (some mailbox)) picked)
      (confidence : seen.runs (store.confidenceSendable touch.emailCanonical touch.tenant) picked
        (.ok true) confident)
      (persisted : seen.runs (store.persistClaim touch mailbox results) confident (.ok ()) b)
      (result : claimed = claimedAs touch mailbox)

inductive Passed (a b : Spot) (claimed : ClaimedTouch) : Prop where
  | intro (unhalted unsuppressed contactable funded : Spot)
      (vetted : Vetted runtime touch)
      (halt : seen.runs (store.haltedScopes touch.tenant) a (.ok []) unhalted)
      (suppression : seen.runs (store.isSuppressed touch.emailCanonical touch.tenant) unhalted
        (.ok false) unsuppressed)
      (frequency : FrequencyPassed seen store touch unsuppressed contactable)
      (budget : BudgetPassed seen store touch contactable funded)
      (capacity : CapacityPassed seen store touch funded b claimed)

variable {seen runtime store touch}
variable {a b : Spot} {claimed : ClaimedTouch}

theorem not_claimed_of_refused {gate : String} {reason : RefusalReason} {terminal : Bool}
    {detail : String} {middle : Spot}
    (run : seen.runs (pure (refuse gate reason terminal detail) : m ClaimResult) middle
      (.ok (.claimed claimed)) b) : False := by
  rw [seen.runs_pure] at run
  exact absurd run.1 (by simp [refuse])

theorem capacity_passed {results : Payload}
    (run : seen.runs (capacityGates store touch results) a (.ok (.claimed claimed)) b) :
    CapacityPassed seen store touch a b claimed := by
  unfold capacityGates at run
  rw [seen.runs_bind_ok] at run
  obtain ⟨picked, middle, capacity, run⟩ := run
  cases picked with
  | none =>
      simp only at run
      split_ifs at run with budgeted
      · rw [seen.runs_bind_ok] at run
        obtain ⟨_, _, _, run⟩ := run
        exact (not_claimed_of_refused run).elim
      · exact (not_claimed_of_refused run).elim
  | some mailbox =>
      simp only at run
      rw [seen.runs_bind_ok] at run
      obtain ⟨sendable, confident, confidence, run⟩ := run
      cases sendable with
      | true =>
          simp only [if_true] at run
          rw [seen.runs_bind_ok] at run
          obtain ⟨_, last, persisted, run⟩ := run
          rw [seen.runs_pure] at run
          obtain ⟨result, rfl⟩ := run
          exact .intro mailbox _ middle confident capacity confidence persisted
            (by simpa [claimedAs] using result)
      | false =>
          simp only [Bool.false_eq_true, if_false] at run
          split_ifs at run with budgeted
          · rw [seen.runs_bind_ok] at run
            obtain ⟨_, _, _, run⟩ := run
            exact (not_claimed_of_refused run).elim
          · exact (not_claimed_of_refused run).elim

theorem budget_passed {results : Payload} (budgeted : touch.profile.budgeted = true)
    (run : seen.runs (budgetGate store touch results) a (.ok (.claimed claimed)) b) :
    ∃ funded, BudgetPassed seen store touch a funded ∧
      CapacityPassed seen store touch funded b claimed := by
  unfold budgetGate at run
  rw [seen.runs_bind_ok] at run
  obtain ⟨consumed, middle, budget, run⟩ := run
  cases consumed with
  | true =>
      refine ⟨middle, ?_, capacity_passed run⟩
      unfold BudgetPassed
      rw [if_pos budgeted]
      exact budget
  | false => exact (not_claimed_of_refused run).elim

theorem contact_passed {results : Payload}
    (run : seen.runs (contactGates store touch results) a (.ok (.claimed claimed)) b) :
    ∃ unsuppressed contactable funded,
      seen.runs (store.isSuppressed touch.emailCanonical touch.tenant) a (.ok false)
        unsuppressed ∧
      FrequencyPassed seen store touch unsuppressed contactable ∧
      BudgetPassed seen store touch contactable funded ∧
      CapacityPassed seen store touch funded b claimed := by
  unfold contactGates at run
  rw [seen.runs_bind_ok] at run
  obtain ⟨suppressed, unsuppressed, suppression, run⟩ := run
  cases suppressed with
  | true => exact (not_claimed_of_refused run).elim
  | false =>
      simp only [Bool.false_eq_true, if_false] at run
      cases profile : touch.profile with
      | cold =>
          simp only [profile, seen.runs_bind_ok] at run
          obtain ⟨allowed, contactable, frequency, run⟩ := run
          cases allowed with
          | true =>
              obtain ⟨funded, budget, capacity⟩ := budget_passed (by simp [profile,
                GateProfile.budgeted]) run
              exact ⟨unsuppressed, contactable, funded, suppression,
                by simpa [FrequencyPassed, profile] using frequency, budget, capacity⟩
          | false => exact (not_claimed_of_refused run).elim
      | followup =>
          simp only [profile, seen.runs_bind_ok] at run
          obtain ⟨allowed, contactable, frequency, run⟩ := run
          cases allowed with
          | true =>
              obtain ⟨funded, budget, capacity⟩ := budget_passed (by simp [profile,
                GateProfile.budgeted]) run
              exact ⟨unsuppressed, contactable, funded, suppression,
                by simpa [FrequencyPassed, profile] using frequency, budget, capacity⟩
          | false => exact (not_claimed_of_refused run).elim
      | reply =>
          simp only [profile] at run
          exact ⟨unsuppressed, unsuppressed, unsuppressed, suppression,
            by simp [FrequencyPassed, profile],
            by simp [BudgetPassed, profile, GateProfile.budgeted], capacity_passed run⟩

theorem gates_passed
    (run : seen.runs (gates runtime store touch) a (.ok (.claimed claimed)) b) :
    Passed seen runtime store touch a b claimed := by
  unfold gates at run
  rw [seen.runs_bind_ok] at run
  obtain ⟨halted, unhalted, halt, run⟩ := run
  by_cases stopped : halted ≠ []
  · rw [if_pos stopped] at run
    exact (not_claimed_of_refused run).elim
  · rw [if_neg stopped] at run
    by_cases changed : contentHash runtime.platform touch.draft ≠ touch.storedContentHash
    · rw [if_pos changed] at run
      exact (not_claimed_of_refused run).elim
    · rw [if_neg changed] at run
      cases checked : validate runtime touch.draft touch.validatorCtx with
      | error error =>
          rw [checked] at run
          simp only [seen.runs_throw] at run
          exact absurd run.1 (by simp)
      | ok findings =>
          rw [checked] at run
          simp only at run
          split_ifs at run with found ungrounded
          · exact (not_claimed_of_refused run).elim
          · exact (not_claimed_of_refused run).elim
          · have clean : findings = [] := not_not.1 found
            have empty : halted = [] := not_not.1 stopped
            subst clean empty
            obtain ⟨unsuppressed, contactable, funded, suppression, frequency, budget,
              capacity⟩ := contact_passed run
            exact .intro unhalted unsuppressed contactable funded
              ⟨not_not.1 changed, not_not.1 ungrounded, checked⟩ halt suppression frequency
              budget capacity

/-- A claimed touch has passed the gates: the refusal that stands for an exception
is no claimed touch. -/
theorem claim_passed
    (run : seen.runs (claim runtime store touch) a (.ok (.claimed claimed)) b) :
    Passed seen runtime store touch a b claimed := by
  unfold claim at run
  rw [seen.runs_handle] at run
  rcases run with ⟨value, same, run⟩ | ⟨error, middle, _, run⟩
  · obtain rfl := Except.ok.inj same
    exact gates_passed run
  · rw [seen.runs_pure] at run
    exact absurd run.1 (by simp)

theorem claim_never_raises {error : Exc} : ¬ seen.runs (claim runtime store touch) a (.error error) b := by
  unfold claim
  rw [seen.runs_handle]
  rintro (⟨_, same, _⟩ | ⟨_, _, _, run⟩)
  · exact absurd same (by simp)
  · rw [seen.runs_pure] at run
    exact absurd run.1 (by simp)

end Gates

end OpenReachout
