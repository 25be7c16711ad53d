import OpenReachout.Properties.Delivery
import OpenReachout.Properties.Runs

/-!
# Claim soundness

Over an arbitrary store, which may fail at any call, a claim always returns, and
a claimed touch comes with the exact list of calls that were made. What the
deliver handler hands to its provider is the content and the address of a claim
that has passed every gate.
-/

namespace OpenReachout

open Relational Text

set_option autoImplicit false

section ArbitraryStore

/-- A call of the gatekeeper to its store, with the store's answer. -/
inductive GateCall where
  | haltedScopes (tenant : String) (answer : Except Exc (List String))
  | isSuppressed (email tenant : String) (answer : Except Exc Bool)
  | frequencyOk (entityId : Uuid) (tenant : String) (answer : Except Exc Bool)
  | sequenceContinuationOk (entityId prospectId : Uuid) (answer : Except Exc Bool)
  | tryConsumeBudget (tenant : String) (touch : DraftTouch) (answer : Except Exc Bool)
  | releaseBudget (tenant : String) (touch : DraftTouch) (answer : Except Exc Unit)
  | pickMailbox (tenant : String) (answer : Except Exc (Option String))
  | confidenceSendable (email tenant : String) (answer : Except Exc Bool)
  | persistClaim (touch : DraftTouch) (mailbox : String) (results : Payload)
      (answer : Except Exc Unit)

variable {State : Type}

def recorded {Value : Type} (entry : Except Exc Value → GateCall)
    (call : Stateful State Exc Value) : Stateful (State × List GateCall) Exc Value := fun state =>
  let answered := call state.1
  (answered.1, answered.2, state.2 ++ [entry answered.1])

/-- The store, with every call to it written down. -/
def recording (store : GateStore (Stateful State Exc)) :
    GateStore (Stateful (State × List GateCall) Exc) where
  haltedScopes tenant := recorded (.haltedScopes tenant) (store.haltedScopes tenant)
  isSuppressed email tenant :=
    recorded (.isSuppressed email tenant) (store.isSuppressed email tenant)
  frequencyOk entityId tenant :=
    recorded (.frequencyOk entityId tenant) (store.frequencyOk entityId tenant)
  sequenceContinuationOk entityId prospectId :=
    recorded (.sequenceContinuationOk entityId prospectId)
      (store.sequenceContinuationOk entityId prospectId)
  tryConsumeBudget tenant touch :=
    recorded (.tryConsumeBudget tenant touch) (store.tryConsumeBudget tenant touch)
  releaseBudget tenant touch :=
    recorded (.releaseBudget tenant touch) (store.releaseBudget tenant touch)
  pickMailbox tenant := recorded (.pickMailbox tenant) (store.pickMailbox tenant)
  confidenceSendable email tenant :=
    recorded (.confidenceSendable email tenant) (store.confidenceSendable email tenant)
  persistClaim touch mailbox results :=
    recorded (.persistClaim touch mailbox results) (store.persistClaim touch mailbox results)

def frequencyCalls (touch : DraftTouch) : List GateCall :=
  match touch.profile with
  | .cold => [.frequencyOk touch.entityId touch.tenant (.ok true)]
  | .followup => [.sequenceContinuationOk touch.entityId touch.prospectId (.ok true)]
  | .reply => []

def budgetCalls (touch : DraftTouch) : List GateCall :=
  if touch.profile.budgeted then [.tryConsumeBudget touch.tenant touch (.ok true)] else []

/-- All calls of a claim that succeeds: the budget is consumed once where the
profile has one and never released, and the claim is persisted once. -/
def passingCalls (touch : DraftTouch) (mailbox : String) (results : Payload) : List GateCall :=
  [.haltedScopes touch.tenant (.ok []),
    .isSuppressed touch.emailCanonical touch.tenant (.ok false)] ++
  frequencyCalls touch ++ budgetCalls touch ++
  [.pickMailbox touch.tenant (.ok (some mailbox)),
    .confidenceSendable touch.emailCanonical touch.tenant (.ok true),
    .persistClaim touch mailbox results (.ok ())]

theorem recorded_log {Value : Type} {entry : Except Exc Value → GateCall}
    {call : Stateful State Exc Value} {a b : State × List GateCall} {answer : Except Exc Value}
    (run : (Stateful.observation (State × List GateCall) Exc).runs (recorded entry call) a
      answer b) : b.2 = a.2 ++ [entry answer] := by
  change recorded entry call a = (answer, b) at run
  unfold recorded at run
  obtain ⟨same, rest⟩ := Prod.mk.inj run
  rw [← rest, ← same]

variable {runtime : Runtime} {store : GateStore (Stateful State Exc)} {touch : DraftTouch}
variable {a b : State × List GateCall}

theorem frequency_log
    (passed : FrequencyPassed (Stateful.observation _ Exc) (recording store) touch a b) :
    b.2 = a.2 ++ frequencyCalls touch := by
  unfold FrequencyPassed at passed
  unfold frequencyCalls
  cases profile : touch.profile with
  | cold =>
      rw [profile] at passed
      exact recorded_log passed
  | followup =>
      rw [profile] at passed
      exact recorded_log passed
  | reply =>
      rw [profile] at passed
      rw [passed, List.append_nil]

theorem budget_log
    (passed : BudgetPassed (Stateful.observation _ Exc) (recording store) touch a b) :
    b.2 = a.2 ++ budgetCalls touch := by
  unfold BudgetPassed at passed
  unfold budgetCalls
  by_cases budgeted : touch.profile.budgeted = true
  · rw [if_pos budgeted] at passed ⊢
    exact recorded_log passed
  · rw [if_neg budgeted] at passed ⊢
    rw [passed, List.append_nil]

theorem passed_log {claimed : ClaimedTouch}
    (passed : Passed (Stateful.observation _ Exc) runtime (recording store) touch a b claimed) :
    ∃ mailbox results, claimed = claimedAs touch mailbox ∧
      b.2 = a.2 ++ passingCalls touch mailbox results := by
  obtain ⟨unhalted, unsuppressed, contactable, funded, _, halt, suppression, frequency, budget,
    capacity⟩ := passed
  obtain ⟨mailbox, results, picked, confident, capacity, confidence, persisted, result⟩ := capacity
  refine ⟨mailbox, results, result, ?_⟩
  rw [recorded_log persisted, recorded_log confidence, recorded_log capacity, budget_log budget,
    frequency_log frequency, recorded_log suppression, recorded_log halt]
  simp [passingCalls]

/-- Writing the calls down changes neither the outcome nor the state. -/
def Transcribes {Value : Type} (written : Stateful (State × List GateCall) Exc Value)
    (plain : Stateful State Exc Value) : Prop :=
  ∀ state log, ∃ more, written (state, log) = ((plain state).1, (plain state).2, log ++ more)

theorem transcribes_pure {Value : Type} (value : Value) :
    Transcribes (pure value) (pure value : Stateful State Exc Value) :=
  fun _ log => ⟨[], by rw [List.append_nil]; rfl⟩

theorem transcribes_throw {Value : Type} (error : Exc) :
    Transcribes (throw error : Stateful _ Exc Value) (throw error : Stateful State Exc Value) :=
  fun _ log => ⟨[], by rw [List.append_nil]; rfl⟩

theorem transcribes_recorded {Value : Type} (entry : Except Exc Value → GateCall)
    (call : Stateful State Exc Value) : Transcribes (recorded entry call) call :=
  fun state _ => ⟨[entry (call state).1], rfl⟩

theorem transcribes_bind {Value Other : Type} {written : Stateful (State × List GateCall) Exc Value}
    {plain : Stateful State Exc Value} {rest : Value → Stateful (State × List GateCall) Exc Other}
    {next : Value → Stateful State Exc Other} (first : Transcribes written plain)
    (second : ∀ value, Transcribes (rest value) (next value)) :
    Transcribes (written >>= rest) (plain >>= next) := by
  intro state log
  obtain ⟨more, same⟩ := first state log
  change ∃ all, Stateful.bind written rest (state, log) =
    ((Stateful.bind plain next state).1, (Stateful.bind plain next state).2, log ++ all)
  unfold Stateful.bind
  rw [same]
  rcases plain state with ⟨error | value, middle⟩
  · exact ⟨more, rfl⟩
  · obtain ⟨last, same⟩ := second value middle (log ++ more)
    exact ⟨more ++ last, by rw [← List.append_assoc]; exact same⟩

theorem transcribes_handle {Value : Type} {written : Stateful (State × List GateCall) Exc Value}
    {plain : Stateful State Exc Value} {rest : Exc → Stateful (State × List GateCall) Exc Value}
    {next : Exc → Stateful State Exc Value} (first : Transcribes written plain)
    (second : ∀ error, Transcribes (rest error) (next error)) :
    Transcribes (tryCatch written rest) (tryCatch plain next) := by
  intro state log
  obtain ⟨more, same⟩ := first state log
  change ∃ all, Stateful.handle written rest (state, log) =
    ((Stateful.handle plain next state).1, (Stateful.handle plain next state).2, log ++ all)
  unfold Stateful.handle
  rw [same]
  rcases plain state with ⟨error | value, middle⟩
  · obtain ⟨last, same⟩ := second error middle (log ++ more)
    exact ⟨more ++ last, by rw [← List.append_assoc]; exact same⟩
  · exact ⟨more, rfl⟩

theorem transcribes_claim (runtime : Runtime) (store : GateStore (Stateful State Exc))
    (touch : DraftTouch) :
    Transcribes (claim runtime (recording store) touch) (claim runtime store touch) := by
  have capacity (results : Payload) : Transcribes
      (capacityGates (recording store) touch results) (capacityGates store touch results) := by
    unfold capacityGates
    apply transcribes_bind (transcribes_recorded _ _)
    intro picked
    cases picked with
    | none =>
        dsimp only
        split_ifs
        · exact transcribes_bind (transcribes_recorded _ _) fun _ => transcribes_pure _
        · exact transcribes_pure _
    | some mailbox =>
        apply transcribes_bind (transcribes_recorded _ _)
        intro sendable
        split_ifs
        · exact transcribes_bind (transcribes_recorded _ _) fun _ => transcribes_pure _
        · exact transcribes_bind (transcribes_recorded _ _) fun _ => transcribes_pure _
        · exact transcribes_pure _
  have budget (results : Payload) : Transcribes
      (budgetGate (recording store) touch results) (budgetGate store touch results) := by
    apply transcribes_bind (transcribes_recorded _ _)
    intro consumed
    split_ifs
    · exact capacity _
    · exact transcribes_pure _
  have contact (results : Payload) : Transcribes
      (contactGates (recording store) touch results) (contactGates store touch results) := by
    apply transcribes_bind (transcribes_recorded _ _)
    intro suppressed
    split_ifs
    · exact transcribes_pure _
    · dsimp only
      cases touch.profile with
      | cold =>
          apply transcribes_bind (transcribes_recorded _ _)
          intro allowed
          split_ifs
          · exact budget _
          · exact transcribes_pure _
      | followup =>
          apply transcribes_bind (transcribes_recorded _ _)
          intro allowed
          split_ifs
          · exact budget _
          · exact transcribes_pure _
      | reply => exact capacity _
  apply transcribes_handle
  · apply transcribes_bind (transcribes_recorded _ _)
    intro halted
    by_cases stopped : halted ≠ []
    · rw [if_pos stopped, if_pos stopped]
      exact transcribes_pure _
    · rw [if_neg stopped, if_neg stopped]
      by_cases changed : contentHash runtime.platform touch.draft ≠ touch.storedContentHash
      · rw [if_pos changed, if_pos changed]
        exact transcribes_pure _
      · rw [if_neg changed, if_neg changed]
        cases validate runtime touch.draft touch.validatorCtx with
        | error error => exact transcribes_throw error
        | ok findings =>
            dsimp only
            split_ifs
            · exact transcribes_pure _
            · exact transcribes_pure _
            · exact contact _
  · exact fun error => transcribes_pure _

/-- A function on states always returns, and a claim returns no exception. -/
theorem claim_returns (runtime : Runtime) (store : GateStore (Stateful State Exc))
    (touch : DraftTouch) (state : State) :
    ∃ result final, claim runtime store touch state = (.ok result, final) := by
  rcases same : claim runtime store touch state with ⟨error | result, final⟩
  · have run : (Stateful.observation State Exc).runs (claim runtime store touch) state
        (.error error) final := same
    exact (claim_never_raises run).elim
  · exact ⟨result, final, rfl⟩

end ArbitraryStore

/-- Over any store, a claim returns, and where it claims it has made exactly the
calls of a claim that passes. In the deliver handler, among any other sessions,
what goes out is the content and the address of such a claim. -/
theorem claim_sound_and_fail_closed :
    (∀ (State : Type) (runtime : Runtime) (store : GateStore (Stateful State Exc))
        (touch : DraftTouch) (state : State),
      ∃ result final log,
        claim runtime store touch state = (.ok result, final) ∧
        claim runtime (recording store) touch (state, []) = (.ok result, final, log) ∧
        ∀ claimed, result = .claimed claimed →
          Vetted runtime touch ∧ ∃ mailbox results, claimed = claimedAs touch mailbox ∧
            log = passingCalls touch mailbox results) ∧
    ∀ (deployment : Deployment) (rely : Database → Database → Prop) (touchId : Uuid)
        (a b : Spot) (call : Call) (recipient : String) (subject body : List Char),
      Program.Asks rely (deliver deployment touchId) a call b →
      call.outgoing = some (recipient, subject, body) →
      ∃ gateDraft claimed before,
        Passed (Program.observation rely) deployment.runtime (pgGateStore deployment.platform)
          gateDraft before b claimed ∧
        contentHash deployment.platform ⟨subject, body, gateDraft.draft.stepIndex⟩ =
          claimed.contentSha256 ∧
        recipient = gateDraft.emailCanonical ∧ claimed.recipient = gateDraft.emailCanonical := by
  constructor
  · intro State runtime store touch state
    obtain ⟨result, final, same⟩ := claim_returns runtime store touch state
    obtain ⟨log, written⟩ := transcribes_claim runtime store touch state []
    rw [same, List.nil_append] at written
    refine ⟨result, final, log, same, written, ?_⟩
    rintro claimed rfl
    have run : (Stateful.observation (State × List GateCall) Exc).runs
        (claim runtime (recording store) touch) (state, []) (.ok (.claimed claimed))
        (final, log) := written
    have passed := claim_passed run
    obtain ⟨mailbox, results, result, calls⟩ := passed_log passed
    obtain ⟨_, _, _, _, vetted, _⟩ := passed
    exact ⟨vetted, mailbox, results, result, by simpa using calls⟩
  · intro deployment rely touchId a b call recipient subject body asks out
    obtain ⟨gateDraft, claimed, delivering, message⟩ := deliver_asks asks out
    obtain ⟨ctx, tenant, first, second, loaded, _, _, _, claim⟩ := delivering
    have run : (Program.observation rely).runs (OpenReachout.claim deployment.runtime
        (pgGateStore deployment.platform) gateDraft) loaded (.ok (.claimed claimed)) b := claim
    have passed := claim_passed run
    have result : ∃ mailbox, claimed = claimedAs gateDraft mailbox := by
      obtain ⟨_, _, _, _, _, _, _, _, _, capacity⟩ := passed
      obtain ⟨mailbox, _, _, _, _, _, _, result⟩ := capacity
      exact ⟨mailbox, result⟩
    obtain ⟨mailbox, rfl⟩ := result
    obtain ⟨same_recipient, same_subject, same_body⟩ := by simpa using message
    have vetted : Vetted deployment.runtime gateDraft := by
      obtain ⟨_, _, _, _, vetted, _⟩ := passed
      exact vetted
    refine ⟨gateDraft, _, loaded, passed, ?_, same_recipient, rfl⟩
    rw [same_subject, same_body]
    exact vetted.hash

/-- A store that lets everything pass. -/
def openStore : GateStore (Stateful Unit Exc) where
  haltedScopes _ := pure []
  isSuppressed _ _ := pure false
  frequencyOk _ _ := pure true
  sequenceContinuationOk _ _ := pure true
  tryConsumeBudget _ _ := pure true
  releaseBudget _ _ := pure ()
  pickMailbox _ := pure (some "m@acme.example")
  confidenceSendable _ _ := pure true
  persistClaim _ _ _ := pure ()

/-- The job that the session handles, and the call it is about to make. -/
def System.asking (world : World) (index : Nat) : Option (Job × Call) :=
  match world.session index with
  | some ⟨.handle job, .call call _, _⟩ => some (job, call)
  | _ => none

def sampleDelivery : Option (Job × Call) :=
  (play [begin (.lease .deliver), go 0 24]).bind fun world => System.asking world 0

/-- The sample touch claims over the open store, and in the sample run its
message leaves the deliver handler. -/
theorem sample_claim_sound_and_fail_closed :
    (∃ log mailbox results,
      claim sampleDeployment.runtime (recording openStore) sampleDraftTouch ((), []) =
        (.ok (.claimed (claimedAs sampleDraftTouch mailbox)), (), log) ∧
      log = passingCalls sampleDraftTouch mailbox results) ∧
    ∃ job call gateDraft claimed before after, sampleDelivery = some (job, call) ∧
      job.payload = .touch 4 ∧ call.outgoing = some (sampleAddress, sampleSubject, sampleBody) ∧
      Passed (Program.observation anything) sampleDeployment.runtime (pgGateStore samplePlatform)
        gateDraft before after claimed ∧
      claimed.recipient = sampleAddress := by
  constructor
  · obtain ⟨result, final, log, plain, written, claims⟩ :=
      claim_sound_and_fail_closed.1 Unit sampleDeployment.runtime openStore sampleDraftTouch ()
    have passes : (claim sampleDeployment.runtime openStore sampleDraftTouch ()).1 =
        .ok (.claimed (claimedAs sampleDraftTouch "m@acme.example")) := by decide +kernel
    rw [plain] at passes
    obtain ⟨_, mailbox, results, same, calls⟩ := claims _ (Except.ok.inj passes)
    rw [Except.ok.inj passes, same] at written
    exact ⟨log, mailbox, results, written, calls⟩
  · have queue : sampleDelivery.map (fun entry => entry.1.queue) = some .deliver := by
      decide +kernel
    have payload : sampleDelivery.map (fun entry => entry.1.payload) = some (.touch 4) := by
      decide +kernel
    have out : sampleDelivery.bind (fun entry => entry.2.outgoing) =
        some (sampleAddress, sampleSubject, sampleBody) := by decide +kernel
    obtain ⟨⟨job, call⟩, found, out⟩ := Option.bind_eq_some_iff.1 out
    rw [found] at queue payload
    replace queue : job.queue = .deliver := Option.some.inj queue
    replace payload : job.payload = .touch 4 := Option.some.inj payload
    obtain ⟨world, played, at_call⟩ := Option.bind_eq_some_iff.1 found
    have sound := sound_of_run rfl (run_of_play played)
    unfold System.asking at at_call
    split at at_call
    case h_2 => exact absurd at_call (by simp)
    case h_1 handled asked next txn present =>
      obtain ⟨rfl, rfl⟩ := Prod.mk.inj (Option.some.inj at_call)
      obtain ⟨last, _, asks⟩ := asks_of_call sound present
      change Program.Asks anything (unitOut (handler sampleDeployment handled)) _ _ _ at asks
      have delivering : handler sampleDeployment handled = deliver sampleDeployment 4 := by
        unfold handler
        rw [queue, payload]
      rw [delivering, unitOut, Program.asks_bind] at asks
      rcases asks with asks | ⟨_, _, _, asks⟩
      · obtain ⟨gateDraft, claimed, before, passed, _, recipient, same⟩ :=
          claim_sound_and_fail_closed.2 sampleDeployment anything 4 _ _ asked sampleAddress
            sampleSubject sampleBody asks out
        exact ⟨handled, asked, gateDraft, claimed, before, _, found, payload, out, passed,
          same.trans recipient.symm⟩
      · exact asks.elim

end OpenReachout
