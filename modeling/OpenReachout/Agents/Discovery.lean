import OpenReachout.Core.Proposals
import Mathlib.Algebra.Order.Field.Rat
import Mathlib.Data.List.Dedup
import Mathlib.Data.List.MinMax

/-!
# Discovery

`agents/discovery.py`: what is proposed from the outcomes of the cohorts, with its rates
over the rationals. What a model is asked for is left out.
-/

namespace OpenReachout

open Relational

set_option autoImplicit false

def minSignal : Nat := 20
def shiftRatio : Rat := 2
def shiftFraction : Rat := 1 / 4

structure CohortOutcome where
  cohortId : String
  contacted : Nat
  engaged : Nat
  converted : Nat
  deriving DecidableEq

def CohortOutcome.conversionRate (outcome : CohortOutcome) : Rat :=
  if outcome.contacted = 0 then 0 else outcome.converted / outcome.contacted

section Outcomes

def ProspectState.wasContacted : ProspectState → Bool
  | .contacted | .engaged | .converted | .declined | .unsubscribed | .bounced | .noResponse => true
  | _ => false

/-- The prospects of a tenant. -/
def Database.ofTenant (db : Database) (tenant : String) : List Prospect :=
  (db.prospects.select fun _ row => db.tenants.lookup row.tenantId = some tenant).map Prod.snd

/-- How many of the rows are in the cohort, in such a state. -/
def countIn (rows : List Prospect) (cohortId : String) (holds : ProspectState → Bool) : Nat :=
  rows.countP fun row => row.cohortId = cohortId && holds row.state

def outcomeIn (rows : List Prospect) (cohortId : String) : CohortOutcome where
  cohortId := cohortId
  contacted := countIn rows cohortId ProspectState.wasContacted
  engaged := countIn rows cohortId fun state => state = .engaged || state = .converted
  converted := countIn rows cohortId fun state => state = .converted

/-- The groups of `cohort_outcomes`. -/
def Database.outcomes (db : Database) (tenant : String) : List CohortOutcome :=
  let rows := db.ofTenant tenant
  (rows.map Prospect.cohortId).dedup.map (outcomeIn rows)

/-- `GROUP BY` gives its groups in whatever order the database has them. -/
structure GroupOrder where
  arrange : List CohortOutcome → List CohortOutcome
  arrange_perm : ∀ outcomes, (arrange outcomes).Perm outcomes

def cohortOutcomes (order : GroupOrder) (tenant : String) : Prog (List CohortOutcome) :=
  Program.query fun _ db => order.arrange (db.outcomes tenant)

/-- `_cohort_cap` -/
def Discovery.cohortCap (cohortId : String) : Prog Nat := do
  let time ← now
  Program.query fun _ db =>
    ((db.counters.lookup (.cohortMonth, cohortId, monthOf time)).map Counter.cap).getD 0

end Outcomes

section Analysis

variable (order : GroupOrder)

def shiftKey (worst best : String) : String := "budget_shift:" ++ worst ++ ":" ++ best
def deadKey (cohortId : String) : String := "zero_conv:" ++ cohortId

/-- Zero conversions where there should have been some. -/
def CohortOutcome.isDead (outcome : CohortOutcome) : Bool :=
  outcome.converted = 0 && 2 * minSignal ≤ outcome.contacted

def proposeShift (tenant : String) (best worst : CohortOutcome) : Prog (Option Uuid) :=
  if worst.conversionRate = 0 || shiftRatio * worst.conversionRate ≤ best.conversionRate then do
    let worstCap ← Discovery.cohortCap worst.cohortId
    let amount := max ((worstCap : Rat) * shiftFraction).floor 1
    propose tenant .budgetShift (.shift worst.cohortId best.cohortId amount)
      (some (shiftKey worst.cohortId best.cohortId))
  else
    pure none

def flagDead (tenant : String) (outcome : CohortOutcome) : Prog (Option Uuid) :=
  if outcome.isDead then
    propose tenant (.other "opportunity") .other (some (deadKey outcome.cohortId))
  else
    pure none

def flagEach (tenant : String) : List CohortOutcome → Prog (List Uuid)
  | [] => pure []
  | outcome :: rest => do
      let proposed ← flagDead tenant outcome
      let others ← flagEach tenant rest
      pure (proposed.toList ++ others)

def analyze (tenant : String) : Prog (List Uuid) := do
  let all ← cohortOutcomes order tenant
  let outcomes := all.filter fun outcome => minSignal ≤ outcome.contacted
  if outcomes.length < 2 then
    pure []
  else
    match outcomes.argmax CohortOutcome.conversionRate,
        outcomes.argmin CohortOutcome.conversionRate with
    | some best, some worst =>
        if best.cohortId = worst.cohortId then
          pure []
        else do
          let shifted ← proposeShift tenant best worst
          let flagged ← flagEach tenant outcomes
          pure (shifted.toList ++ flagged)
    | _, _ => pure []

end Analysis

section Rebalancing

/-- `_WILSON_Z` -/
def wilsonZ : Rat := 12816 / 10000

/-- What the square root of `wilson_upper` is taken of. -/
def radicand (successes trials : Nat) : Rat :=
  let p : Rat := successes / trials
  p * (1 - p) / trials + wilsonZ * wilsonZ / (4 * trials * trials)

-- the platform's square root of what has one
variable (root : Rat → Rat)

/-- `math.sqrt` -/
def sqrt (value : Rat) : Except Exc Rat :=
  if value < 0 then .error ⟨.valueError, "math domain error"⟩ else .ok (root value)

def wilsonUpper (successes trials : Nat) : Except Exc Rat :=
  if trials = 0 then
    pure 1
  else do
    let p : Rat := successes / trials
    let denom := 1 + wilsonZ * wilsonZ / trials
    let centre := p + wilsonZ * wilsonZ / (2 * trials)
    let margin := wilsonZ * (← sqrt root (radicand successes trials))
    pure (min 1 ((centre + margin) / denom))

/-- Whether the upper bound of a rate is below its floor, where it has one. -/
def breaches (floor : Option Rat) (successes trials : Nat) : Except Exc Bool :=
  match floor with
  | none => pure false
  | some rate => do
      let upper ← wilsonUpper root successes trials
      pure (decide (upper < rate))

/-- The replies of the prospects of a cohort. -/
def Database.repliesOf (db : Database) (tenant cohortId : String) : Nat :=
  (db.replies.select fun _ reply => (db.prospects.lookup reply.prospectId).any fun row =>
    db.tenants.lookup row.tenantId = some tenant && row.cohortId = cohortId).length

/-- `_reply_counts`, where a cohort that is no key counts for nothing. -/
def replyCounts (tenant : String) : Prog (String → Nat) :=
  Program.query fun _ db => db.repliesOf tenant

/-- The strongest cohort, where the budget of a weaker one can go. -/
def shiftTarget (outcomes : List CohortOutcome) (outcome : CohortOutcome) : Option String :=
  ((outcomes.argmax CohortOutcome.conversionRate).filter fun best =>
    best.cohortId != outcome.cohortId && outcome.conversionRate < best.conversionRate &&
      best.cohortId != "").map CohortOutcome.cohortId

/-- One pass of the loop of `rebalance_scan`. -/
def rebalance (tenant : String) (outcomes : List CohortOutcome) (replies : String → Nat)
    (cohort : CohortSpec) : Prog (Option Uuid) :=
  match cohort.floors, outcomes.find? fun outcome => outcome.cohortId = cohort.id with
  | some floors, some outcome =>
      if outcome.contacted < floors.minTrials then
        pure none
      else do
        let converting ← MonadExcept.ofExcept
          (breaches root floors.conversionRate outcome.converted outcome.contacted)
        let replying ← MonadExcept.ofExcept
          (breaches root floors.replyRate (replies cohort.id) outcome.contacted)
        if !converting && !replying then
          pure none
        else
          let cap ← Discovery.cohortCap cohort.id
          propose tenant .rebalance
            (match shiftTarget outcomes outcome with
            | some target => .shift cohort.id target (max (cap / 2) 1 : Nat)
            | none => .pause cohort.id)
            (some ("rebalance:" ++ cohort.id))
  | _, _ => pure none

def rebalanceEach (tenant : String) (outcomes : List CohortOutcome) (replies : String → Nat) :
    List CohortSpec → Prog (List Uuid)
  | [] => pure []
  | cohort :: rest => do
      let proposed ← rebalance root tenant outcomes replies cohort
      let others ← rebalanceEach tenant outcomes replies rest
      pure (proposed.toList ++ others)

variable {runtime : Runtime}

def TenantConfig.cohorts (config : TenantConfig runtime) : List CohortSpec :=
  config.personas.flatMap PersonaSpec.cohorts

def rebalanceScan (order : GroupOrder) (config : TenantConfig runtime) : Prog (List Uuid) := do
  let outcomes ← cohortOutcomes order config.tenant
  let replies ← replyCounts config.tenant
  rebalanceEach root config.tenant outcomes replies config.cohorts

end Rebalancing

end OpenReachout
