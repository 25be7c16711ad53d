import OpenReachout.Core.Worker
import OpenReachout.Relational.Within

/-!
# Ordinary statements

Most programs neither write a prospect, nor judge a reply, nor count for or against a
variant, nor change a cap, nor touch the keys of entities, nor leave a row in the audit log
that is read again. Whatever else an allowance permits, they keep within it.
-/

namespace OpenReachout

open Relational Relational.Program Text

set_option autoImplicit false

abbrev Allowed := Allowance Database RowLock Mark

@[grind] def Mark.moves : Mark → Bool
  | .transition _ _ _ => true
  | _ => false

/-- Rows of the audit log that nothing depends on. -/
@[grind] def idleEvent (event : String) : Prop :=
  event ≠ "transition" ∧ event ≠ "no_show" ∧ event ≠ "sentiment_pause" ∧
    event ≠ "sentiment_throttle"

/-- The counter is used, and its cap stays. -/
@[grind] def Uncapped (change : Counter → Counter) : Prop := ∀ row, (change row).cap = row.cap

/-- Prospects, the verdicts on replies, the statistics of variants, caps, the keys of
entities and the rows of the audit log that are read again are left to be permitted. -/
structure Ordinary (allowed : Allowed) : Prop where
  marks : ∀ mark, mark.moves = false → allowed.mark mark
  entities : allowed.Changes Tables.entities
  prospectIndex : allowed.Changes Tables.prospectIndex
  evidenceFacts : allowed.Changes Tables.evidenceFacts
  touches : allowed.Updates Tables.touches
  decisionTraces : allowed.Changes Tables.decisionTraces
  received : allowed.Inserts Tables.replies
  exchanged : ∀ keys chosen, allowed.write (Write.modify Tables.replies keys chosen
    fun row => { row with agenticExchanges := row.agenticExchanges + 1 })
  suppressions : allowed.Changes Tables.suppressions
  forgetTombstones : allowed.Changes Tables.forgetTombstones
  controlFlags : allowed.Changes Tables.controlFlags
  counters : ∀ keys chosen change, Uncapped change →
    allowed.write (Write.modify Tables.counters keys chosen change)
  mailboxCounters : ∀ mailbox period row,
    allowed.write (Write.insert Tables.counters (.mailboxDay, mailbox, period) row)
  providerEvents : allowed.Inserts Tables.providerEvents
  jobs : allowed.Changes Tables.jobs
  jobIndex : allowed.Changes Tables.jobIndex
  mailboxes : allowed.Changes Tables.mailboxes
  humanTasks : allowed.Changes Tables.humanTasks
  operatorEvents : allowed.Changes Tables.operatorEvents
  operatorEventIndex : allowed.Changes Tables.operatorEventIndex
  escalations : allowed.Changes Tables.escalations
  proposals : allowed.Changes Tables.proposals
  audited : ∀ row : AuditEvent, idleEvent row.event → allowed.Appends Tables.auditEvents row
  objections : ∀ row, allowed.Appends Tables.objections row

attribute [grind →] Ordinary.entities Ordinary.prospectIndex
  Ordinary.evidenceFacts Ordinary.decisionTraces
  Ordinary.suppressions Ordinary.forgetTombstones Ordinary.controlFlags
  Ordinary.jobs Ordinary.jobIndex Ordinary.mailboxes
  Ordinary.humanTasks Ordinary.operatorEvents Ordinary.operatorEventIndex
  Ordinary.escalations Ordinary.proposals

attribute [grind ←] Ordinary.marks Ordinary.audited Ordinary.objections

/-- The keys of entities are permitted. -/
structure Keyed (allowed : Allowed) : Prop where
  entityKeys : allowed.Changes Tables.entityKeys

attribute [grind →] Keyed.entityKeys

/-- So are the rows that count missed bookings. -/
structure Counting (allowed : Allowed) : Prop where
  missed : ∀ row : AuditEvent, row.event = "no_show" → allowed.Appends Tables.auditEvents row

attribute [grind ←] Counting.missed

/-- So are new touches. -/
structure Inserting (allowed : Allowed) : Prop where
  touches : allowed.Inserts Tables.touches

attribute [grind →] Inserting.touches

variable {allowed : Allowed} {site : Deployment}

namespace Ordinary

@[grind .] theorem within_now : Within allowed now := by
  unfold now
  grind

@[grind .] theorem within_freshUuid : Within allowed freshUuid := by
  unfold freshUuid
  grind

@[grind ←] theorem within_raise {Value : Type} (kind : ExcKind) (text : String) :
    Within allowed (raise kind text : Prog Value) := by
  unfold raise
  grind

@[grind .] theorem within_raise_bind {Value Other : Type} (kind : ExcKind) (text : String)
    (rest : Value → Prog Other) : Within allowed (raise kind text >>= rest) :=
  trivial

@[grind ←] theorem within_attempt {Value : Type} (call : Call)
    (same : call.Answer = Except Exc Value) : Within allowed (attempt call same) := by
  unfold attempt
  grind

@[grind ←] theorem within_audit (ordinary : Ordinary allowed) (subjectType subjectId : String)
    {event : String} (payload : Payload) (actor : String) (other : idleEvent event) :
    Within allowed (audit subjectType subjectId event payload actor) := by
  unfold audit
  grind

@[grind ←] theorem within_setTouchStatus (ordinary : Ordinary allowed) (status : TouchStatus)
    {mark : Option Mark} (chosen : Moment Database RowLock → Database → Uuid → Touch → Bool)
    (also : Moment Database RowLock → Touch → Touch) (marks : allowed.Marks mark) :
    Within allowed (setTouchStatus status mark chosen also) :=
  within_updating marks ordinary.touches _ _ _

@[grind ←] theorem within_insertTouch (inserting : Inserting allowed) (id : Uuid) (row : Touch) :
    Within allowed (insertTouch id row) :=
  within_inserting allowed.marks_none inserting.touches _ _ _ _

@[grind ←] theorem within_haltedScopes (ordinary : Ordinary allowed) (tenant : String) :
    Within allowed (haltedScopes tenant) := by
  unfold haltedScopes
  grind

@[grind ←] theorem within_isSuppressed (ordinary : Ordinary allowed) (platform : Platform)
    (emailCanonical tenant : String) :
    Within allowed (isSuppressed platform emailCanonical tenant) := by
  unfold isSuppressed
  grind

@[grind ←] theorem within_screenAtIngest (ordinary : Ordinary allowed) (platform : Platform)
    (emailRaw tenant : String) : Within allowed (screenAtIngest platform emailRaw tenant) := by
  unfold screenAtIngest
  grind

@[grind ←] theorem within_cooldown (ordinary : Ordinary allowed) (emailCanonical reason : String)
    (months : Nat) : Within allowed (cooldown emailCanonical reason months) := by
  unfold cooldown
  grind

@[grind ←] theorem within_enqueue (ordinary : Ordinary allowed) (queue : QueueName)
    (payload : JobPayload) (key : JobKey) (delay attempts : Nat) :
    Within allowed (enqueue queue payload key delay attempts) := by
  unfold enqueue
  grind

@[grind ←] theorem within_lease (ordinary : Ordinary allowed) (queue : QueueName) :
    Within allowed (lease queue) := by
  unfold lease
  refine within_perform allowed.marks_none fun moment db effect success => ?_
  dsimp only at success
  split at success
  · obtain rfl := Except.ok.inj success
    exact allowed.idle
  · obtain rfl := Except.ok.inj success
    exact ordinary.jobs.modify _ _ _

@[grind ←] theorem within_updateJob (ordinary : Ordinary allowed) (id : Nat)
    (change : Moment Database RowLock → JobRow → JobRow) :
    Within allowed (updateJob id change) := by
  unfold updateJob
  grind

@[grind ←] theorem within_complete (ordinary : Ordinary allowed) (id : Nat) :
    Within allowed (complete id) := by
  unfold complete
  grind

@[grind ←] theorem within_fail (ordinary : Ordinary allowed) (job : Job) (error : String)
    (permanent : Bool) : Within allowed (fail job error permanent) := by
  unfold fail
  grind

@[grind ←] theorem within_reapExpired (ordinary : Ordinary allowed) :
    Within allowed reapExpired := by
  unfold reapExpired
  grind

@[grind ←] theorem within_halt (ordinary : Ordinary allowed) (scope actor : String)
    (flag : String) : Within allowed (halt scope actor flag) := by
  unfold halt
  grind

@[grind ←] theorem within_resume (ordinary : Ordinary allowed) (scope actor : String) :
    Within allowed (resume scope actor) := by
  unfold resume
  grind

@[grind ←] theorem within_suppress (ordinary : Ordinary allowed) (platform : Platform)
    (email reason : String) (scope : String) :
    Within allowed (suppress platform email reason scope) := by
  unfold suppress
  grind

@[grind ←] theorem within_frequencyOk (entityId : Uuid) :
    Within allowed (frequencyOk entityId) := by
  unfold frequencyOk
  grind

@[grind ←] theorem within_sequenceContinuationOk (entityId prospectId : Uuid) :
    Within allowed (sequenceContinuationOk entityId prospectId) := by
  unfold sequenceContinuationOk
  refine within_bind (within_perform allowed.marks_none fun moment db effect success => ?_)
    fun rows => ?_
  · obtain rfl := Except.ok.inj success
    exact allowed.idle
  · grind

theorem within_useCounters (ordinary : Ordinary allowed)
    {change : Moment Database RowLock → Counter → Counter}
    (uncapped : ∀ moment, Uncapped (change moment))
    (chosen : Moment Database RowLock → Database → ScopeType × String × Period → Counter → Bool) :
    Within allowed (Program.update Tables.counters chosen change :
      Prog (List ((ScopeType × String × Period) × Counter))) :=
  within_changing allowed.marks_none
    (fun moment keys chosen => ordinary.counters keys chosen _ (uncapped moment)) _ chosen

@[grind ←] theorem within_consume (ordinary : Ordinary allowed) (scope : ScopeType) (id : String) :
    Within allowed (consume scope id) := by
  unfold consume
  refine within_bind within_now fun time => ?_
  refine within_bind (ordinary.within_useCounters ?_ _) fun _ => within_pure _
  exact fun _ _ => rfl

@[grind ←] theorem within_adjust (ordinary : Ordinary allowed) (scope : ScopeType) (id : String)
    (delta : Int) (why : String) : Within allowed (adjust scope id delta why) := by
  unfold adjust
  refine within_bind within_now fun time => ?_
  refine within_bind (ordinary.within_useCounters ?_ _) fun _ => ?_
  · exact fun _ _ => rfl
  · grind

@[grind ←] theorem within_tryConsumeBudget (ordinary : Ordinary allowed) (tenant : String)
    (touch : DraftTouch) : Within allowed (tryConsumeBudget tenant touch) := by
  unfold tryConsumeBudget
  grind

@[grind ←] theorem within_releaseBudget (ordinary : Ordinary allowed) (tenant : String)
    (touch : DraftTouch) : Within allowed (releaseBudget tenant touch) := by
  unfold releaseBudget
  grind

@[grind ←] theorem within_pickMailbox (ordinary : Ordinary allowed) (tenant : String) :
    Within allowed (pickMailbox tenant) := by
  unfold pickMailbox
  refine within_bind within_now fun first => ?_
  refine within_bind (within_query _) fun mailboxes => ?_
  refine within_bind (within_forM (fun entry => ?_) _) fun _ => ?_
  · refine within_bind (within_insertFresh (fun row => ?_) _) fun _ => within_pure _
    exact ordinary.mailboxCounters _ _ _
  · refine within_bind within_now fun second => ?_
    refine within_bind (within_perform allowed.marks_none ?_) fun picked => ?_
    · intro moment db effect success
      split at success
      · obtain rfl := Except.ok.inj success
        exact allowed.idle
      · obtain rfl := Except.ok.inj success
        exact allowed.idle
    · split
      · exact within_pure _
      · refine within_bind within_now fun third => ?_
        refine within_bind (ordinary.within_useCounters ?_ _) fun _ => within_pure _
        exact fun _ _ => rfl

@[grind ←] theorem within_confidenceSendable (emailCanonical tenant : String) :
    Within allowed (confidenceSendable emailCanonical tenant) := by
  unfold confidenceSendable
  grind

@[grind ←] theorem within_persistClaim (ordinary : Ordinary allowed) (touch : DraftTouch)
    (mailbox : String) (gateResults : Payload) :
    Within allowed (persistClaim touch mailbox gateResults) := by
  unfold persistClaim
  grind

/-- The store of the gates. -/
structure Gated (allowed : Allowed) (store : GateStore Prog) : Prop where
  haltedScopes : ∀ tenant, Within allowed (store.haltedScopes tenant)
  isSuppressed : ∀ email tenant, Within allowed (store.isSuppressed email tenant)
  frequencyOk : ∀ entityId tenant, Within allowed (store.frequencyOk entityId tenant)
  sequenceContinuationOk : ∀ entityId prospectId,
    Within allowed (store.sequenceContinuationOk entityId prospectId)
  tryConsumeBudget : ∀ tenant touch, Within allowed (store.tryConsumeBudget tenant touch)
  releaseBudget : ∀ tenant touch, Within allowed (store.releaseBudget tenant touch)
  pickMailbox : ∀ tenant, Within allowed (store.pickMailbox tenant)
  confidenceSendable : ∀ email tenant, Within allowed (store.confidenceSendable email tenant)
  persistClaim : ∀ touch mailbox results, Within allowed (store.persistClaim touch mailbox results)

attribute [grind ←] Gated.haltedScopes Gated.isSuppressed Gated.frequencyOk
  Gated.sequenceContinuationOk Gated.tryConsumeBudget Gated.releaseBudget Gated.pickMailbox
  Gated.confidenceSendable Gated.persistClaim

@[grind ←] theorem gated (ordinary : Ordinary allowed) (platform : Platform) :
    Gated allowed (pgGateStore platform) where
  haltedScopes := within_haltedScopes ordinary
  isSuppressed := within_isSuppressed ordinary platform
  frequencyOk entityId _ := within_frequencyOk entityId
  sequenceContinuationOk := within_sequenceContinuationOk
  tryConsumeBudget := within_tryConsumeBudget ordinary
  releaseBudget := within_releaseBudget ordinary
  pickMailbox := within_pickMailbox ordinary
  confidenceSendable := within_confidenceSendable
  persistClaim := within_persistClaim ordinary

section Claim

variable {store : GateStore Prog}

@[grind ←] theorem within_capacityGates (gated : Gated allowed store) (touch : DraftTouch)
    (results : Payload) : Within allowed (capacityGates store touch results) := by
  unfold capacityGates
  grind

@[grind ←] theorem within_budgetGate (gated : Gated allowed store) (touch : DraftTouch)
    (results : Payload) : Within allowed (budgetGate store touch results) := by
  unfold budgetGate
  grind

@[grind ←] theorem within_contactGates (gated : Gated allowed store) (touch : DraftTouch)
    (results : Payload) : Within allowed (contactGates store touch results) := by
  unfold contactGates
  grind

@[grind ←] theorem within_gates (gated : Gated allowed store) (runtime : Runtime)
    (touch : DraftTouch) : Within allowed (gates runtime store touch) := by
  unfold gates
  grind

@[grind ←] theorem within_claim (gated : Gated allowed store) (runtime : Runtime)
    (touch : DraftTouch) : Within allowed (claim runtime store touch) := by
  unfold claim
  grind

end Claim

@[grind ←] theorem within_selectVariant (tenant : String) (pool : List VariantSpec) :
    Within allowed (selectVariant tenant pool) := by
  unfold selectVariant
  grind

@[grind ←] theorem within_escalate (ordinary : Ordinary allowed) (tenant : Option String)
    (subjectType subjectId reason : String) (payload : Payload) :
    Within allowed (escalate tenant subjectType subjectId reason payload) := by
  unfold escalate
  grind

@[grind ←] theorem within_assembleBrief (platform : Platform) (prospectId : Uuid)
    (instruction valueProp : String) :
    Within allowed (assembleBrief platform prospectId instruction valueProp) := by
  unfold assembleBrief
  grind

@[grind ←] theorem within_auditTask (ordinary : Ordinary allowed) (taskId : Uuid) {event : String}
    (actor : String) (payload : Payload) (other : idleEvent event) :
    Within allowed (auditTask taskId event actor payload) := by
  unfold auditTask
  grind

@[grind ←] theorem within_createForStep (ordinary : Ordinary allowed)
    (inserting : Inserting allowed) (platform : Platform)
    (tenant : String) (prospectId : Uuid) (campaignId : String) (stepIndex : Nat)
    (instruction valueProp : String) :
    Within allowed (createForStep platform tenant prospectId campaignId stepIndex
      instruction valueProp) := by
  unfold createForStep
  grind

@[grind ←] theorem within_resolve (ordinary : Ordinary allowed) (taskId : Uuid) (actor : String)
    (finished : Bool) (note : String) : Within allowed (resolve taskId actor finished note) := by
  unfold resolve
  dsimp only
  split
  · exact within_raise_bind _ _ _
  · refine within_bind (by grind) fun rows => ?_
    split
    · exact within_pure _
    · split
      · refine within_bind (by grind) fun _ => ?_
        grind
      · grind

@[grind ←] theorem within_expire (ordinary : Ordinary allowed) (maxAgeDays : Nat) :
    Within allowed (expire maxAgeDays) := by
  unfold expire
  refine within_bind (by grind) fun rows => ?_
  refine within_bind (within_forM (fun entry => ?_) rows) fun _ => by grind
  grind

@[grind ←] theorem within_holdForReview (campaignId : String) (variantId : Option String)
    (approveFirst : Nat) : Within allowed (holdForReview campaignId variantId approveFirst) := by
  have locks : Within allowed (Program.perform none fun _ _ =>
      .ok (Effect.locking () [RowLock.ramp campaignId (variantId.getD "")]) : Prog Unit) := by
    refine within_perform allowed.marks_none fun moment db effect success => ?_
    obtain rfl := Except.ok.inj success
    exact allowed.idle
  unfold holdForReview
  grind

@[grind ←] theorem within_queueDraft (ordinary : Ordinary allowed)
    (inserting : Inserting allowed) (prospectId : Uuid)
    (campaignId : String) (variantId : Option String) (stepIndex : Nat) (kind : TouchKind)
    (draft : Draft) (hash : String) (approveFirst : Nat) :
    Within allowed (queueDraft site prospectId campaignId variantId stepIndex kind draft
      hash approveFirst) := by
  unfold queueDraft
  grind

@[grind ←] theorem within_auditReview (ordinary : Ordinary allowed) (touchId : Uuid)
    {event : String} (actor note : String) (other : idleEvent event) :
    Within allowed (auditReview touchId event actor note) := by
  unfold auditReview
  grind

@[grind ←] theorem within_approvePending (ordinary : Ordinary allowed) (touchId : Uuid)
    (actor : String) : Within allowed (approvePending touchId actor) := by
  unfold approvePending
  grind

@[grind ←] theorem within_rejectPending (ordinary : Ordinary allowed) (touchId : Uuid)
    (actor note : String) : Within allowed (rejectPending touchId actor note) := by
  unfold rejectPending
  grind

@[grind ←] theorem within_loadGateDraft (touchId : Uuid) (ctx : ValidatorContext) :
    Within allowed (loadGateDraft touchId ctx) := by
  unfold loadGateDraft
  grind

@[grind ←] theorem within_releaseSequence (ordinary : Ordinary allowed) (prospectId : Uuid) :
    Within allowed (releaseSequence prospectId) := by
  unfold releaseSequence
  grind

@[grind ←] theorem within_planNextStep (ordinary : Ordinary allowed) (prospectId : Uuid)
    (draft : DraftTouch) : Within allowed (planNextStep site prospectId draft) := by
  unfold planNextStep
  grind

@[grind ←] theorem within_releaseRefused (ordinary : Ordinary allowed) (touchId : Uuid)
    (refusal : Refusal) : Within allowed (releaseRefused touchId refusal) := by
  unfold releaseRefused
  grind

@[grind ←] theorem within_smtp_send (provider : SmtpSendingProvider) (touch : ClaimedTouch)
    (subject body : List Char) : Within allowed (provider.send touch subject body) := by
  unfold SmtpSendingProvider.send
  grind

@[grind ←] theorem within_send (provider : Provider) (touch : ClaimedTouch)
    (subject body : List Char) : Within allowed (provider.send touch subject body) := by
  unfold Provider.send
  grind

@[grind ←] theorem within_pauseLead (provider : Provider) (emailCanonical : String) :
    Within allowed (provider.pauseLead emailCanonical) := by
  unfold Provider.pauseLead
  grind

@[grind ←] theorem within_pauseAllCampaigns (provider : Provider) (tenant : String) :
    Within allowed (provider.pauseAllCampaigns tenant) := by
  unfold Provider.pauseAllCampaigns
  grind

@[grind ←] theorem within_resolveEntity (ordinary : Ordinary allowed) (platform : Platform)
    (tenantId : Uuid) (candidate : Candidate) (keyed : Keyed allowed) :
    Within allowed (resolveEntity platform tenantId candidate) := by
  unfold resolveEntity
  refine within_bind (within_query _) fun found => ?_
  dsimp only
  split
  · grind
  · refine within_bind (by grind) fun fresh => ?_
    grind

@[grind ←] theorem within_loadCard (prospectId : Uuid) : Within allowed (loadCard prospectId) := by
  unfold loadCard
  grind

@[grind ←] theorem within_personaAndCandidate (runtimes : List (String × TenantRuntime))
    (prospectId : Uuid) (states : List ProspectState) :
    Within allowed (personaAndCandidate runtimes prospectId states) := by
  unfold personaAndCandidate
  grind

@[grind ←] theorem within_composeOrEscalate (ordinary : Ordinary allowed) (tenant : String)
    (prospectId : Uuid) (what : String) (inputs : ComposeInputs) :
    Within allowed (composeOrEscalate tenant prospectId what inputs) := by
  unfold composeOrEscalate
  grind

@[grind ←] theorem within_storeEvidence (ordinary : Ordinary allowed) (prospectId : Uuid)
    (card : List Fact) : Within allowed (storeEvidence prospectId card) := by
  unfold storeEvidence
  grind

@[grind ←] theorem within_loadCandidate (prospectId : Uuid) :
    Within allowed (loadCandidate prospectId) := by
  unfold loadCandidate
  grind

@[grind ←] theorem within_composeStep (ordinary : Ordinary allowed)
    (inserting : Inserting allowed) (prospectId : Uuid)
    (stepIndex : Nat) (runtime : TenantRuntime) (persona : PersonaSpec) (candidate : Candidate)
    (card : List Fact) :
    Within allowed (composeStep site prospectId stepIndex runtime persona candidate card) := by
  unfold composeStep
  grind

@[grind ←] theorem within_composeHandler (ordinary : Ordinary allowed)
    (inserting : Inserting allowed) (prospectId : Uuid)
    (stepIndex : Nat) : Within allowed (composeHandler site prospectId stepIndex) := by
  unfold composeHandler
  grind

@[grind ←] theorem within_processPositiveEvent (ordinary : Ordinary allowed)
    (inserting : Inserting allowed) (prospectId : Uuid) :
    Within allowed (processPositiveEvent site prospectId) := by
  unfold processPositiveEvent
  refine within_bind (within_personaAndCandidate _ _ _) fun loaded => ?_
  refine within_bind (within_loadCard _) fun card => ?_
  split
  · split
    · exact within_pure _
    · refine within_bind (by grind) fun claimed => ?_
      split
      · exact within_pure _
      · refine within_bind (by grind) fun result => ?_
        grind
  · exact within_pure _

@[grind ←] theorem within_route (platform : Platform) (body : List Char) (agenticExchanges : Nat) :
    Within allowed (route platform body agenticExchanges) := by
  unfold route
  grind

@[grind ←] theorem within_queueAgenticReply (ordinary : Ordinary allowed)
    (inserting : Inserting allowed)
    (decision : RouteDecision) (replyId prospectId : Uuid) (tenant : String) :
    Within allowed (queueAgenticReply site decision replyId prospectId tenant) := by
  unfold queueAgenticReply
  split
  · exact within_pure _
  · refine within_bind (within_changing allowed.marks_none (fun _ => ordinary.exchanged) _ _)
      fun rows => ?_
    split
    · exact within_pure _
    · refine within_bind (within_query _) fun personaId => ?_
      refine within_bind (within_ask _) fun result => ?_
      split
      · grind
      · grind

@[grind ←] theorem within_controlOp (ordinary : Ordinary allowed) (payload : JobPayload) :
    Within allowed (controlOp site payload) := by
  unfold controlOp
  split
  · exact within_pauseLead _ _
  · refine within_bind (within_pauseLead _ _) fun _ => ?_
    grind
  · exact within_pauseAllCampaigns _ _
  · exact within_raise _ _

@[grind ←] theorem within_reengage (ordinary : Ordinary allowed)
    (inserting : Inserting allowed) (prospectId : Uuid) :
    Within allowed (reengage site prospectId) := by
  unfold reengage
  refine within_bind (within_personaAndCandidate _ _ _) fun loaded => ?_
  split
  · split
    · grind
    · refine within_bind (within_loadCard _) fun card => ?_
      refine within_bind (by grind) fun result => ?_
      grind
  · exact within_pure _

@[grind ←] theorem within_fireTrigger (ordinary : Ordinary allowed) (runtime : TenantRuntime)
    (persona : PersonaSpec) (cohort : CohortSpec) (eventId : Uuid) (selector : Payload) :
    Within allowed (fireTrigger site runtime persona cohort eventId selector) := by
  unfold fireTrigger
  grind

@[grind ←] theorem within_operatorEvent (ordinary : Ordinary allowed) (eventType : String)
    (selector : Payload) (dedupeKey : Option String) :
    Within allowed (operatorEvent eventType selector dedupeKey) := by
  unfold operatorEvent
  grind

@[grind ←] theorem within_subjects (platform : Platform) (ref : ForgetRef) :
    Within allowed (subjects platform ref) := by
  unfold subjects
  grind

@[grind ←] theorem within_propose (ordinary : Ordinary allowed) (tenant : String)
    (kind : ProposalKind) (payload : ProposalPayload) (dedupeKey : Option String) :
    Within allowed (propose tenant kind payload dedupeKey) := by
  unfold propose
  grind

@[grind ←] theorem within_listOpen (tenant : String) : Within allowed (listOpen tenant) := by
  unfold listOpen
  grind

@[grind ←] theorem within_getOpen (proposalId : Uuid) : Within allowed (getOpen proposalId) := by
  unfold getOpen
  grind

@[grind ←] theorem within_decline (ordinary : Ordinary allowed) (proposalId : Uuid)
    (actor note : String) : Within allowed (decline proposalId actor note) := by
  unfold decline
  grind

@[grind ←] theorem within_seedDiscovery (ordinary : Ordinary allowed) (runtime : TenantRuntime) :
    Within allowed (seedDiscovery runtime) := by
  unfold seedDiscovery
  grind

@[grind ←] theorem within_complianceAlert (ordinary : Ordinary allowed) (job : Job)
    (error : String) : Within allowed (complianceAlert site job error) := by
  unfold complianceAlert
  grind

end Ordinary

section Parts

variable (site : Deployment)

/-- The end of `classify`. -/
def evaluateReply (decision : RouteDecision) (replyId : Uuid) (tenant cohortId : String) :
    Prog Unit := do
  if decision.intent = .objection then
    Program.appendRow Tables.objections fun _ =>
      ⟨tenant, (nonEmpty decision.objectionClass).getD "other", replyId, cohortId⟩
  maybeEvaluate tenant cohortId

/-- What `classify` does from the update of the reply on. -/
def concludeReply (decision : RouteDecision) (replyId prospectId : Uuid)
    (emailCanonical : Option String) (tenant cohortId : String) : Prog Unit := do
  let _ ← Program.update Tables.replies (fun _ _ id _ => id = replyId)
    fun _ row => { row with intent := some decision.intent, confidence := some decision.confidence }
  applyDecision site decision replyId prospectId emailCanonical tenant
  if decision.action = .answerFaq ∨ decision.action = .sendSignupLink then
    queueAgenticReply site decision replyId prospectId tenant
  evaluateReply decision replyId tenant cohortId

/-- What `classify` does once the decision is there. -/
def judgeReply (decision : RouteDecision) (replyId : Uuid) (reply : Reply) (prospect : Prospect)
    (tenant : String) : Prog Unit := do
  if decision.intent = .interested then
    let variantId ← Program.query fun _ db =>
      (db.touches.lookup reply.touchId).bind Touch.variantId
    match nonEmpty variantId with
    | some variantId => recordSuccess tenant variantId
    | none => pure ()
    let _ ← enqueue .referral (.prospect reply.prospectId) (.referral reply.prospectId)
  concludeReply site decision replyId reply.prospectId prospect.emailCanonical tenant
    prospect.cohortId

end Parts

section Operations

/-- The operations that touch the keys of entities. -/
def Op.keys : Op → Prop
  | .forget _ => True
  | .handle job => job.queue = .discover
  | _ => False

/-- The operations that count a missed booking. -/
def Op.countsNoShow : Op → Prop
  | .handle job => job.queue = .trigger
  | _ => False

/-- The operations that write new touches. -/
def Op.inserts : Op → Prop
  | .handle job =>
      job.queue = .compose ∨ job.queue = .classify ∨ job.queue = .referral ∨ job.queue = .reengage
  | _ => False

/-- As whom an operation moves prospects. -/
def Op.mover : Op → Option String
  | .ingestEvents _ => some "system:events"
  | .recordConversion _ => some "system:attribution"
  | .handle job =>
      match job.queue with
      | .deliver => some "system:deliver"
      | .enrich => some "system:enrich"
      | .qualify => some "system:qualify"
      | .classify => some "system:events"
      | .trigger => some "system:noshow"
      | _ => none
  | _ => none

end Operations

end OpenReachout
