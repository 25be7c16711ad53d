import OpenReachout.Outreach.Deed
import OpenReachout.Relational.Triple

/-!
# What the ledger does not show

Counters, statistics, decision traces, escalations and the audit log are no part of
the ledger. The functions that only read, or that write nothing else, leave it as
it is.
-/

namespace OpenReachout

open Relational Relational.Abstraction Text

set_option autoImplicit false

variable {site : Deployment} {vouch : Mark → Ledger → Prop} {op : Op}

section Statements

theorem quiet_attempt {Value : Type} (call : Call) (same : call.Answer = Except Exc Value) :
    (outreach site vouch op).Quiet (attempt call same) :=
  quiet_bind (quiet_ask call) fun _ => quiet_ofExcept _

theorem quiet_raise {Value : Type} (kind : ExcKind) (text : String) :
    (outreach site vouch op).Quiet (raise kind text : Prog Value) := quiet_throw _

theorem quiet_audit (subjectType subjectId event : String) (payload : Payload) (actor : String) :
    (outreach site vouch op).Quiet (audit subjectType subjectId event payload actor) :=
  quiet_appendRow Tables.auditEvents _ fun _ _ => rfl

theorem quiet_escalate (tenant : Option String) (subjectType subjectId reason : String)
    (payload : Payload) :
    (outreach site vouch op).Quiet (escalate tenant subjectType subjectId reason payload) :=
  quiet_bind (quiet_ask _) fun _ =>
    quiet_insertRow Tables.escalations (fun _ _ => rfl) _ _ _ _ _

theorem quiet_counters
    (chosen : Moment Database RowLock → Database → ScopeType × String × Period → Counter → Bool)
    (change : Moment Database RowLock → Counter → Counter) :
    (outreach site vouch op).Quiet (Program.update Tables.counters chosen change :
      Prog (List ((ScopeType × String × Period) × Counter))) :=
  quiet_update_hidden Tables.counters (fun _ _ => rfl) _ _

end Statements

section Reading

theorem quiet_frequencyOk (entityId : Uuid) :
    (outreach site vouch op).Quiet (frequencyOk entityId) := by
  unfold frequencyOk
  apply quiet_bind (quiet_lockRows _ _)
  intro rows
  split
  · exact quiet_pure _
  · split_ifs
    · exact quiet_pure _
    · exact quiet_pure _
    · split
      · exact quiet_pure _
      · exact quiet_bind (quiet_ask _) fun _ => quiet_pure _

theorem quiet_sequenceContinuationOk (entityId prospectId : Uuid) :
    (outreach site vouch op).Quiet (sequenceContinuationOk entityId prospectId) := by
  unfold sequenceContinuationOk
  apply quiet_bind
  · apply quiet_perform
    rintro moment seen effect success db
    obtain rfl := Except.ok.inj success
    rfl
  · intro rows
    split <;> exact quiet_pure _

theorem quiet_confidenceSendable (emailCanonical tenant : String) :
    (outreach site vouch op).Quiet (confidenceSendable emailCanonical tenant) := quiet_query _

theorem quiet_isSuppressed (platform : Platform) (emailCanonical tenant : String) :
    (outreach site vouch op).Quiet (isSuppressed platform emailCanonical tenant) :=
  quiet_bind (quiet_ofExcept _) fun _ => quiet_markedQuery _ _

theorem quiet_haltedScopes (tenant : String) :
    (outreach site vouch op).Quiet (haltedScopes tenant) := quiet_markedQuery _ _

theorem quiet_screenAtIngest (platform : Platform) (emailRaw tenant : String) :
    (outreach site vouch op).Quiet (screenAtIngest platform emailRaw tenant) := by
  unfold screenAtIngest
  split
  · exact quiet_pure _
  · exact quiet_bind (quiet_isSuppressed _ _ _) fun _ => quiet_pure _

theorem quiet_loadCard (prospectId : Uuid) :
    (outreach site vouch op).Quiet (loadCard prospectId) :=
  quiet_bind (quiet_query _) fun _ => quiet_pure _

theorem quiet_personaAndCandidate (runtimes : List (String × TenantRuntime)) (prospectId : Uuid)
    (states : List ProspectState) :
    (outreach site vouch op).Quiet (personaAndCandidate runtimes prospectId states) := by
  unfold personaAndCandidate
  apply quiet_bind (quiet_query _)
  intro row
  split
  · exact quiet_pure _
  · split
    · exact quiet_raise _ _
    · exact quiet_pure _

theorem quiet_loadGateDraft (touchId : Uuid) (ctx : ValidatorContext) :
    (outreach site vouch op).Quiet (loadGateDraft touchId ctx) := by
  unfold loadGateDraft
  apply quiet_bind (quiet_query _)
  intro row
  split
  · exact quiet_pure _
  · split_ifs
    · exact quiet_pure _
    · split
      · exact quiet_raise _ _
      · exact quiet_pure _

theorem quiet_subjects (platform : Platform) (ref : ForgetRef) :
    (outreach site vouch op).Quiet (subjects platform ref) := by
  unfold subjects
  cases ref with
  | entity id => exact quiet_pure _
  | address text =>
      exact quiet_bind (quiet_ofExcept _) fun _ => quiet_bind (quiet_query _) fun _ => quiet_pure _

theorem quiet_assembleBrief (platform : Platform) (prospectId : Uuid)
    (instruction valueProp : String) :
    (outreach site vouch op).Quiet (assembleBrief platform prospectId instruction valueProp) :=
  quiet_bind (quiet_query _) fun _ => quiet_bind (quiet_query _) fun _ =>
    quiet_bind (quiet_query _) fun _ => quiet_pure _

theorem quiet_route (platform : Platform) (body : List Char) (agenticExchanges : Nat) :
    (outreach site vouch op).Quiet (route platform body agenticExchanges) := by
  unfold route
  split_ifs
  · exact quiet_pure _
  · exact quiet_bind (quiet_attempt _ _) fun _ => quiet_pure _

end Reading

section Counting

theorem quiet_consume (scope : ScopeType) (id : String) :
    (outreach site vouch op).Quiet (consume scope id) :=
  quiet_bind (quiet_ask _) fun _ => quiet_bind (quiet_counters _ _) fun _ => quiet_pure _

theorem quiet_adjust (scope : ScopeType) (id : String) (delta : Int) (why : String) :
    (outreach site vouch op).Quiet (adjust scope id delta why) :=
  quiet_bind (quiet_ask _) fun _ => quiet_bind (quiet_counters _ _) fun _ =>
    quiet_audit _ _ _ _ _

theorem quiet_tryConsumeBudget (tenant : String) (touch : DraftTouch) :
    (outreach site vouch op).Quiet (tryConsumeBudget tenant touch) := by
  unfold tryConsumeBudget
  apply quiet_bind (quiet_consume _ _)
  intro first
  split_ifs
  · apply quiet_bind (quiet_consume _ _)
    intro second
    split_ifs
    · exact quiet_pure _
    · exact quiet_bind (quiet_adjust _ _ _ _) fun _ => quiet_pure _
  · exact quiet_pure _

theorem quiet_releaseBudget (tenant : String) (touch : DraftTouch) :
    (outreach site vouch op).Quiet (releaseBudget tenant touch) :=
  quiet_bind (quiet_adjust _ _ _ _) fun _ => quiet_adjust _ _ _ _

theorem quiet_pickMailbox (tenant : String) :
    (outreach site vouch op).Quiet (pickMailbox tenant) := by
  unfold pickMailbox
  apply quiet_bind (quiet_ask _)
  intro first
  apply quiet_bind (quiet_query _)
  intro mailboxes
  apply quiet_bind
  · apply quiet_forM
    intro entry
    exact quiet_bind (quiet_insertNew Tables.counters (fun _ _ => rfl) _ _) fun _ => quiet_pure _
  intro _
  apply quiet_bind (quiet_ask _)
  intro second
  apply quiet_bind
  · apply quiet_perform
    rintro moment seen effect success db
    split at success
    · obtain rfl := Except.ok.inj success
      rfl
    · obtain rfl := Except.ok.inj success
      rfl
  intro picked
  split
  · exact quiet_pure _
  · exact quiet_bind (quiet_ask _) fun _ => quiet_bind (quiet_counters _ _) fun _ => quiet_pure _

theorem quiet_countUp (tenant variantId : String) (change : VariantStats → VariantStats) :
    (outreach site vouch op).Quiet (countUp tenant variantId change) :=
  quiet_upsertRow Tables.variantStats (fun _ _ => rfl) _ _ _ _

theorem quiet_recordTrial (tenant variantId : String) :
    (outreach site vouch op).Quiet (recordTrial tenant variantId) := quiet_countUp _ _ _

theorem quiet_recordSuccess (tenant variantId : String) :
    (outreach site vouch op).Quiet (recordSuccess tenant variantId) := quiet_countUp _ _ _

theorem quiet_recordGuardrail (tenant variantId : String) (kind : Guardrail) :
    (outreach site vouch op).Quiet (recordGuardrail tenant variantId kind) := by
  unfold recordGuardrail
  apply quiet_bind (quiet_countUp _ _ _)
  intro _
  apply quiet_bind (quiet_query _)
  intro row
  split
  · exact quiet_pure _
  · dsimp only
    split_ifs
    · exact quiet_bind (quiet_update_hidden Tables.variantStats (fun _ _ => rfl) _ _) fun _ =>
        quiet_audit _ _ _ _ _
    · exact quiet_pure _

theorem quiet_selectVariant (tenant : String) (pool : List VariantSpec) :
    (outreach site vouch op).Quiet (selectVariant tenant pool) := by
  unfold selectVariant
  apply quiet_bind (quiet_query _)
  intro arms
  apply quiet_bind (quiet_query _)
  intro rows
  apply quiet_bind (quiet_attempt _ _)
  intro chosen
  split
  · exact quiet_pure _
  · exact quiet_raise _ _

theorem quiet_evaluateCohort (tenant cohortId : String) :
    (outreach site vouch op).Quiet (evaluateCohort tenant cohortId) := by
  have cap : ∀ (period : Period) (change : Nat → Nat),
      (outreach site vouch op).Quiet (setCohortCap cohortId period change) := fun _ _ =>
    quiet_bind (quiet_counters _ _) fun _ => quiet_pure _
  unfold evaluateCohort
  apply quiet_bind (quiet_markedQuery _ _)
  intro intents
  apply quiet_bind (quiet_ask _)
  intro score
  split
  · exact quiet_pure _
  apply quiet_bind (quiet_ask _)
  intro time
  dsimp only
  split
  · apply quiet_bind (quiet_query _)
    intro acted
    split
    · exact quiet_pure _
    · exact quiet_bind (cap _ _) fun _ => quiet_bind (quiet_audit _ _ _ _ _) fun _ =>
        quiet_escalate _ _ _ _ _
  · split
    · apply quiet_bind (quiet_query _)
      intro acted
      split
      · exact quiet_pure _
      · exact quiet_bind (cap _ _) fun _ => quiet_audit _ _ _ _ _
    · exact quiet_pure _

theorem quiet_maybeEvaluate (tenant cohortId : String) :
    (outreach site vouch op).Quiet (maybeEvaluate tenant cohortId) := by
  unfold maybeEvaluate
  apply quiet_bind (quiet_markedQuery _ _)
  intro count
  split_ifs
  · exact quiet_evaluateCohort _ _
  · exact quiet_pure _

end Counting

section Outside

theorem quiet_composeOrEscalate (tenant : String) (prospectId : Uuid) (what : String)
    (inputs : ComposeInputs) :
    (outreach site vouch op).Quiet (composeOrEscalate tenant prospectId what inputs) := by
  unfold composeOrEscalate
  apply quiet_bind (quiet_ask _)
  intro answer
  split
  · exact quiet_pure _
  · split_ifs
    · exact quiet_bind (quiet_escalate _ _ _ _ _) fun _ => quiet_pure _
    · exact quiet_throw _

theorem quiet_send (provider : Provider) (touch : ClaimedTouch) (subject body : List Char) :
    (outreach site vouch op).Quiet (provider.send touch subject body) := by
  cases provider with
  | remote => exact quiet_attempt _ _
  | smtp provider =>
      unfold Provider.send SmtpSendingProvider.send
      dsimp only
      split
      · exact quiet_raise _ _
      · exact quiet_bind (quiet_ofExcept _) fun _ => quiet_bind (quiet_attempt _ _) fun _ =>
          quiet_pure _

theorem quiet_pauseLead (provider : Provider) (emailCanonical : String) :
    (outreach site vouch op).Quiet (provider.pauseLead emailCanonical) := by
  cases provider with
  | remote => exact quiet_attempt _ _
  | smtp provider => exact quiet_pure _

theorem quiet_pauseAllCampaigns (provider : Provider) (tenant : String) :
    (outreach site vouch op).Quiet (provider.pauseAllCampaigns tenant) := by
  cases provider with
  | remote => exact quiet_attempt _ _
  | smtp provider => exact quiet_pure _

end Outside

end OpenReachout
