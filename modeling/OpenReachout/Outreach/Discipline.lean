import OpenReachout.Outreach.Ordinary
import OpenReachout.Relational.Discipline

/-!
# Disciplines of the service

What moves prospects, counts for or against variants, changes caps, or enrols and erases
people is made of few programs. A discipline that these keep, and that allows whatever is
ordinary, is kept by every transaction of the service.
-/

namespace OpenReachout

open Relational Relational.Program Relational.Discipline Text

set_option autoImplicit false

abbrev Conduct := Discipline Database RowLock Exc Mark Call Call.Answer

/-- What a discipline permits beyond what is ordinary. -/
@[grind =] def Moves (conduct : Conduct) (actor : String) : Prop :=
  ∀ prospectId target reason, target ≠ .forgotten →
    conduct.keeps (transition prospectId target actor reason)

@[grind =] def Tries (conduct : Conduct) : Prop :=
  ∀ tenant variantId, conduct.keeps (recordTrial tenant variantId)

@[grind =] def Credits (conduct : Conduct) : Prop :=
  ∀ tenant variantId, conduct.keeps (recordSuccess tenant variantId)

@[grind =] def Guards (conduct : Conduct) : Prop :=
  ∀ tenant variantId kind, conduct.keeps (recordGuardrail tenant variantId kind)

def Judges (conduct : Conduct) : Prop :=
  ∀ replyId intent confidence, conduct.keeps
    (Program.update Tables.replies (fun _ _ id _ => id = replyId) fun _ row =>
      { row with intent := some intent, confidence := some confidence } :
      Prog (List (Uuid × Reply)))

def Brakes (conduct : Conduct) : Prop :=
  ∀ tenant cohortId, conduct.keeps (evaluateCohort tenant cohortId)

def Applies (conduct : Conduct) : Prop := ∀ proposal, conduct.keeps (applyProposal proposal)

def Enrols (conduct : Conduct) : Prop :=
  ∀ prospectId (row : Prospect), row.state = .discovered →
    conduct.keeps (insertRow Tables.prospects none integrityError
      (fun _ db row =>
        if (db.entities.lookup row.entityId).isNone then some integrityError else none)
      prospectId fun _ => row)

def Attaches (site : Deployment) (conduct : Conduct) : Prop :=
  ∀ prospectId address bucket, conduct.keeps (attachAddress site prospectId address bucket)

def Scrubs (conduct : Conduct) : Prop := ∀ ids, conduct.keeps (scrub ids)

variable {conduct : Conduct} {site : Deployment}

section Programs

variable (ordinary : Ordinary conduct.allowed)

include ordinary

theorem keeps_dispatch (moves : Moves conduct "system:deliver") (tries : Tries conduct)
    (touchId : Uuid) (draft : DraftTouch) (providerRef : Payload) :
    conduct.keeps (dispatch site touchId draft providerRef) := by
  unfold dispatch
  refine keeps_bind (keeps_within (within_query _)) fun touch => ?_
  dsimp only
  split
  · split
    · refine keeps_bind (tries _ _) fun _ => ?_
      refine keeps_bind (keeps_within (within_query _)) fun row => ?_
      grind
    · refine keeps_bind (keeps_within (within_query _)) fun row => ?_
      grind
  · refine keeps_bind (keeps_within (within_query _)) fun row => ?_
    grind

theorem keeps_deliver (moves : Moves conduct "system:deliver") (tries : Tries conduct)
    (touchId : Uuid) : conduct.keeps (deliver site touchId) := by
  unfold deliver
  refine keeps_bind (keeps_within (within_query _)) fun status => ?_
  split
  · exact keeps_pure _
  · split
    · exact keeps_within (Ordinary.within_raise _ _)
    · refine keeps_bind (keeps_within (within_query _)) fun tenant => ?_
      split
      · exact keeps_within (Ordinary.within_raise _ _)
      · refine keeps_bind (keeps_within (Ordinary.within_loadGateDraft _ _)) fun draft => ?_
        split
        · exact keeps_within (Ordinary.within_raise _ _)
        · refine keeps_bind (keeps_within (Ordinary.within_claim (ordinary.gated _) _ _))
            fun result => ?_
          split
          · split
            · exact keeps_within (ordinary.within_releaseRefused _ _)
            · exact keeps_within (Ordinary.within_raise _ _)
          · refine keeps_bind (keeps_within (Ordinary.within_send _ _ _ _)) fun ref => ?_
            exact keeps_dispatch ordinary moves tries _ _ _

theorem keeps_ingestCandidate (enrols : Enrols conduct) (keyed : Keyed conduct.allowed)
    (runtime : TenantRuntime) (persona : PersonaSpec) (cohortId : String) (candidate : Candidate) :
    conduct.keeps (ingestCandidate site runtime persona cohortId candidate) := by
  have taken : ∀ resolution : Resolution, conduct.keeps (do
      let existing ← Program.query fun _ db =>
        db.prospectIndex.lookup (cohortId, resolution.entityId)
      if existing.isSome then
        pure none
      else
        let prospectId ← freshUuid
        if !(← Program.insertNew Tables.prospectIndex (cohortId, resolution.entityId)
            fun _ => prospectId) then
          throw integrityError
        Program.insertRow Tables.prospects none integrityError
          (fun _ db row =>
            if (db.entities.lookup row.entityId).isNone then some integrityError else none)
          prospectId fun _ =>
            { tenantId := runtime.tenantId, entityId := resolution.entityId, cohortId
              personaId := persona.id, state := .discovered, emailRaw := candidate.emailRaw
              sourceAdapter := candidate.sourceAdapter, sourceRef := candidate.sourceRef
              dataBasis := candidate.dataBasis }
        let _ ← enqueue .enrich (.prospect prospectId) (.enrich prospectId)
        pure (some prospectId) : Prog (Option Uuid)) := by
    intro resolution
    have queued : ∀ prospectId, conduct.keeps (do
        let _ ← enqueue .enrich (.prospect prospectId) (.enrich prospectId)
        pure (some prospectId) : Prog (Option Uuid)) := fun prospectId =>
      keeps_within (within_bind (ordinary.within_enqueue _ _ _ _ _) fun _ => within_pure _)
    refine keeps_bind (keeps_within (within_query _)) fun existing => ?_
    split
    · exact keeps_pure _
    · refine keeps_bind (keeps_within Ordinary.within_freshUuid) fun prospectId => ?_
      refine keeps_bind (keeps_within (within_insertNew ordinary.prospectIndex _ _)) fun fresh => ?_
      dsimp only
      split
      · exact keeps_within trivial
      · exact keeps_bind (enrols _ _ rfl) fun _ => queued prospectId
  unfold ingestCandidate
  dsimp only
  split
  · exact keeps_pure _
  · split
    all_goals
      refine keeps_bind (by grind) fun screened => ?_
      split
      · exact keeps_pure _
      · refine keeps_bind (keeps_within (ordinary.within_resolveEntity _ _ _ keyed))
          fun resolution => ?_
        split
        · exact keeps_bind (keeps_within (ordinary.within_escalate _ _ _ _ _)) fun _ =>
            taken resolution
        · exact taken resolution

theorem keeps_discover (enrols : Enrols conduct) (keyed : Keyed conduct.allowed)
    (tenant personaId cohortId : String) (extraFilters : Payload) (cursor : Option String) :
    conduct.keeps (discover site tenant personaId cohortId extraFilters cursor) := by
  unfold discover
  split
  · exact keeps_within (Ordinary.within_raise _ _)
  · split
    · exact keeps_within (Ordinary.within_raise _ _)
    · split
      · exact keeps_within (Ordinary.within_raise _ _)
      · split
        · exact keeps_within (Ordinary.within_raise _ _)
        · refine keeps_bind (keeps_within (Ordinary.within_attempt _ _)) fun result => ?_
          refine keeps_bind (keeps_forM (fun candidate => ?_) _) fun _ => ?_
          · exact keeps_bind (keeps_ingestCandidate ordinary enrols keyed _ _ _ _) fun _ =>
              keeps_pure _
          · grind

theorem keeps_enrich (moves : Moves conduct "system:enrich") (attaches : Attaches site conduct)
    (prospectId : Uuid) : conduct.keeps (enrich site prospectId) := by
  have queues : conduct.keeps (do
      transition prospectId .enriched "system:enrich"
      let _ ← enqueue .qualify (.prospect prospectId) (.qualify prospectId) : Prog Unit) :=
    keeps_bind (moves _ _ _ fun target => by cases target) fun _ => keeps_within
      (within_bind (ordinary.within_enqueue _ _ _ _ _) fun _ => within_pure _)
  have gives_up : conduct.keeps
      (transition prospectId .unenrichable "system:enrich") :=
    moves _ _ _ fun target => by cases target
  have verifies : ∀ address : String, conduct.keeps (do
      let bucket ← attempt (.verify address) rfl
      attachAddress site prospectId address bucket
      if bucket ≠ .verified then
        transition prospectId .unenrichable "system:enrich"
      else
        transition prospectId .enriched "system:enrich"
        let _ ← enqueue .qualify (.prospect prospectId) (.qualify prospectId) : Prog Unit) := by
    intro address
    refine keeps_bind (keeps_within (Ordinary.within_attempt _ _)) fun bucket => ?_
    refine keeps_bind (attaches _ _ _) fun _ => ?_
    split
    · exact gives_up
    · exact queues
  unfold enrich
  refine keeps_bind (keeps_within (Ordinary.within_loadCandidate _)) fun candidate => ?_
  cases candidate with
  | none => exact keeps_pure _
  | some candidate =>
      refine keeps_bind (keeps_within (Ordinary.within_attempt _ _)) fun card => ?_
      refine keeps_bind (keeps_within (ordinary.within_storeEvidence _ _)) fun _ => ?_
      dsimp only
      split
      · refine keeps_bind (keeps_pure _) fun address => ?_
        cases address with
        | none => exact gives_up
        | some address => exact verifies address
      · refine keeps_bind (keeps_within (Ordinary.within_attempt _ _)) fun address => ?_
        cases address with
        | none => exact gives_up
        | some address => exact verifies address

theorem keeps_qualify (moves : Moves conduct "system:qualify") (prospectId : Uuid) :
    conduct.keeps (qualify site prospectId) := by
  unfold qualify
  refine keeps_bind (keeps_within (Ordinary.within_personaAndCandidate _ _ _)) fun loaded => ?_
  refine keeps_bind (keeps_within (Ordinary.within_loadCard _)) fun card => ?_
  split
  · refine keeps_bind (keeps_within (Ordinary.within_attempt _ _)) fun verdict => ?_
    dsimp only
    split_ifs
    · exact keeps_bind (keeps_within (ordinary.within_escalate _ _ _ _ _)) fun _ => moves _ _ _ nofun
    · exact moves _ _ _ nofun
    · refine keeps_bind (moves _ _ _ nofun) fun _ => keeps_bind (moves _ _ _ nofun) fun _ => ?_
      exact keeps_within (within_bind (ordinary.within_enqueue _ _ _ _ _) fun _ => within_pure _)
  · exact keeps_pure _

theorem keeps_safeTransition (moves : Moves conduct "system:events") (catching : conduct.Catching)
    (prospectId : Uuid) {target : ProspectState} (alive : target ≠ .forgotten) :
    conduct.keeps (safeTransition prospectId target) := by
  unfold safeTransition
  refine catching (moves _ _ _ alive) fun error => keeps_within ?_
  grind

theorem keeps_safetyEvent (moves : Moves conduct "system:events") (catching : conduct.Catching)
    (guards : Guards conduct) (row : Touch × Prospect × String) (reason : String)
    (kind : Guardrail) {target : ProspectState} (alive : target ≠ .forgotten) :
    conduct.keeps (safetyEvent site row reason kind target) := by
  have closes := fun prospectId => keeps_safeTransition ordinary moves catching prospectId alive
  unfold safetyEvent
  grind

theorem keeps_actReply (moves : Moves conduct "system:events") (catching : conduct.Catching)
    (row : Touch × Prospect × String) (touchId : Uuid) (payload : Payload) :
    conduct.keeps (actReply row touchId payload) := by
  have closes : ∀ prospectId, conduct.keeps (safeTransition prospectId .engaged) :=
    fun prospectId => keeps_safeTransition ordinary moves catching prospectId nofun
  unfold actReply
  refine keeps_bind (keeps_within Ordinary.within_freshUuid) fun replyId => ?_
  refine keeps_bind (keeps_within ?_) fun _ => ?_
  · exact within_inserting conduct.allowed.marks_none ordinary.received _ _ _ _
  · grind

theorem keeps_actOn (moves : Moves conduct "system:events") (catching : conduct.Catching)
    (guards : Guards conduct) (event : ProviderEvent) : conduct.keeps (actOn site event) := by
  have safety : ∀ row reason kind target, target ≠ .forgotten →
      conduct.keeps (safetyEvent site row reason kind target) :=
    fun row reason kind target alive =>
      keeps_safetyEvent ordinary moves catching guards row reason kind alive
  have reply := keeps_actReply ordinary moves catching
  unfold actOn
  grind

theorem keeps_ingestEvent (moves : Moves conduct "system:events") (catching : conduct.Catching)
    (guards : Guards conduct) (event : ProviderEvent) :
    conduct.keeps (ingestEvent site event) := by
  unfold ingestEvent
  refine keeps_bind (keeps_within (within_insertFresh (ordinary.providerEvents _) _))
    fun fresh => ?_
  split
  · exact keeps_actOn ordinary moves catching guards event
  · exact keeps_pure _

theorem keeps_ingestEvents (moves : Moves conduct "system:events") (catching : conduct.Catching)
    (guards : Guards conduct) (events : List ProviderEvent) :
    conduct.keeps (ingestEvents site events) :=
  keeps_forM (fun event => keeps_ingestEvent ordinary moves catching guards event) events

theorem keeps_maybeEvaluate (brakes : Brakes conduct) (tenant cohortId : String) :
    conduct.keeps (maybeEvaluate tenant cohortId) := by
  unfold maybeEvaluate
  refine keeps_bind (keeps_within (within_markedQuery (ordinary.marks _ rfl) _)) fun count => ?_
  split
  · exact brakes _ _
  · exact keeps_pure _

theorem keeps_applyDecision (moves : Moves conduct "system:events") (catching : conduct.Catching)
    (decision : RouteDecision) (replyId prospectId : Uuid) (emailCanonical : Option String)
    (tenant : String) :
    conduct.keeps (applyDecision site decision replyId prospectId emailCanonical tenant) := by
  have closes : ∀ target, target ≠ .forgotten → conduct.keeps (safeTransition prospectId target) :=
    fun target alive => keeps_safeTransition ordinary moves catching prospectId alive
  unfold applyDecision
  split
  · exact keeps_bind (keeps_within (ordinary.within_suppress _ _ _ _)) fun _ => closes _ nofun
  · exact keeps_bind (keeps_within (ordinary.within_cooldown _ _ _)) fun _ => closes _ nofun
  · exact keeps_within (ordinary.within_escalate _ _ _ _ _)
  · exact keeps_pure _

theorem keeps_classify (moves : Moves conduct "system:events") (catching : conduct.Catching)
    (credits : Credits conduct) (judges : Judges conduct) (brakes : Brakes conduct)
    (inserting : Inserting conduct.allowed) (replyId : Uuid) : conduct.keeps (classify site replyId) := by
  unfold classify
  refine keeps_bind (keeps_within (within_query _)) fun row => ?_
  split
  · exact keeps_within (Ordinary.within_raise _ _)
  · dsimp only
    split
    · exact keeps_pure _
    · refine keeps_bind (keeps_within (ordinary.within_releaseSequence _)) fun _ => ?_
      refine keeps_bind (keeps_within (Ordinary.within_route _ _ _)) fun decision => ?_
      have evaluated : ∀ tenant cohortId,
          conduct.keeps (evaluateReply decision replyId tenant cohortId) := by
        intro tenant cohortId
        unfold evaluateReply
        dsimp only
        split
        · exact keeps_bind (keeps_within (within_appendRow fun _ => ordinary.objections _))
            fun _ => keeps_maybeEvaluate ordinary brakes _ _
        · exact keeps_maybeEvaluate ordinary brakes _ _
      have settled : ∀ prospectId email tenant cohortId, conduct.keeps
          (concludeReply site decision replyId prospectId email tenant cohortId) := by
        intro prospectId email tenant cohortId
        unfold concludeReply
        refine keeps_bind (judges _ _ _) fun _ => ?_
        refine keeps_bind (keeps_applyDecision ordinary moves catching _ _ _ _ _) fun _ => ?_
        dsimp only
        split
        · refine keeps_bind (keeps_within (ordinary.within_queueAgenticReply inserting _ _ _ _))
            fun _ => ?_
          exact evaluated tenant cohortId
        · exact evaluated tenant cohortId
      have referred : ∀ prospectId, Within conduct.allowed
          (enqueue .referral (.prospect prospectId) (.referral prospectId)) :=
        fun prospectId => ordinary.within_enqueue _ _ _ _ _
      split
      · refine keeps_bind (keeps_within (within_query _)) fun variantId => ?_
        split
        · refine keeps_bind (credits _ _) fun _ => ?_
          exact keeps_bind (keeps_within (referred _)) fun _ => settled _ _ _ _
        · exact keeps_bind (keeps_within (referred _)) fun _ => settled _ _ _ _
      · exact settled _ _ _ _

theorem keeps_processNoShow (moves : Moves conduct "system:noshow") (catching : conduct.Catching)
    (counting : Counting conduct.allowed) (prospectId : Uuid) :
    conduct.keeps (processNoShow prospectId) := by
  have declines : conduct.keeps (tryCatch
      (transition prospectId .declined "system:noshow" "second no-show (FR-4.5)") fun error =>
        if error.kind = .transitionError then pure () else throw error : Prog Unit) := by
    refine catching (moves _ _ _ nofun) fun error => keeps_within ?_
    grind
  unfold processNoShow
  refine keeps_bind (keeps_within (within_query _)) fun prior => ?_
  refine keeps_bind (keeps_within (by unfold audit; grind)) fun _ => ?_
  split
  · grind
  · refine keeps_bind (keeps_within (within_query _)) fun email => ?_
    dsimp only
    split
    · exact keeps_bind (keeps_within (ordinary.within_cooldown _ _ _)) fun _ => declines
    · exact declines

theorem keeps_handleNoShowEvent (moves : Moves conduct "system:noshow")
    (catching : conduct.Catching) (counting : Counting conduct.allowed) (tenantId : Uuid)
    (selector : Payload) : conduct.keeps (handleNoShowEvent site tenantId selector) := by
  have each := keeps_processNoShow ordinary moves catching counting
  unfold handleNoShowEvent
  grind

theorem keeps_trigger (moves : Moves conduct "system:noshow") (catching : conduct.Catching)
    (counting : Counting conduct.allowed) (eventId : Uuid) :
    conduct.keeps (trigger site eventId) := by
  have missed : ∀ tenantId selector, conduct.keeps (handleNoShowEvent site tenantId selector) :=
    keeps_handleNoShowEvent ordinary moves catching counting
  unfold trigger
  grind

theorem keeps_forget (scrubs : Scrubs conduct) (platform : Platform) (ref : ForgetRef) :
    conduct.keeps (forget platform ref) := by
  unfold forget
  refine keeps_bind (keeps_within (Ordinary.within_subjects _ _)) fun found => ?_
  dsimp only
  split
  · exact keeps_within (Ordinary.within_raise_bind _ _ _)
  · refine keeps_bind (keeps_within Ordinary.within_freshUuid) fun receiptId => ?_
    refine keeps_bind (keeps_within (within_query _)) fun known => ?_
    refine keeps_bind (by grind) fun _ => ?_
    split
    · refine keeps_bind (scrubs _) fun _ => ?_
      refine keeps_bind (by grind) fun _ => ?_
      refine keeps_bind (by grind) fun _ => ?_
      grind
    · refine keeps_bind (by grind) fun _ => ?_
      refine keeps_bind (by grind) fun _ => ?_
      grind

theorem keeps_recordConversion (moves : Moves conduct "system:attribution")
    (catching : conduct.Catching) (credits : Credits conduct) (touchId : Uuid) :
    conduct.keeps (recordConversion touchId) := by
  have converts : ∀ touch : Touch, conduct.keeps (tryCatch
      (do
        transition touch.prospectId .converted "system:attribution" s!"touch {touchId}"
        pure true)
      fun error => if error.kind = .transitionError then pure false else throw error :
        Prog Bool) := by
    intro touch
    refine catching (keeps_bind (moves _ _ _ nofun) fun _ => keeps_pure _) fun error => keeps_within ?_
    split <;> grind
  unfold recordConversion
  refine keeps_bind (keeps_within (within_query _)) fun row => ?_
  split
  · exact keeps_pure _
  · split
    · exact keeps_pure _
    · refine keeps_bind (converts _) fun converted => ?_
      split
      · split
        · refine keeps_bind (credits _ _) fun _ => ?_
          grind
        · grind
      · exact keeps_pure _

theorem keeps_approve (applies : Applies conduct) (proposalId : Uuid) (actor : String)
    (auto : Bool) : conduct.keeps (approve proposalId actor auto) := by
  unfold approve
  dsimp only
  split
  · exact keeps_within (Ordinary.within_raise_bind _ _ _)
  · refine keeps_bind (keeps_within (Ordinary.within_getOpen _)) fun proposal => ?_
    split
    · exact keeps_pure _
    · split
      · exact keeps_within (Ordinary.within_raise_bind _ _ _)
      · have marks : conduct.allowed.mark (.approve proposalId) := ordinary.marks _ rfl
        refine keeps_bind (applies _) fun _ => keeps_within ?_
        grind

theorem keeps_reviewEach (applies : Applies conduct) (rows : List (Uuid × ProposalRow)) :
    conduct.keeps (reviewEach rows) := by
  induction rows with
  | nil => exact keeps_pure _
  | cons entry rows induction =>
      have approves := keeps_approve ordinary applies
      unfold reviewEach
      grind

theorem keeps_autoReview (applies : Applies conduct) (tenant cohortLaunch : String) :
    conduct.keeps (autoReview tenant cohortLaunch) := by
  unfold autoReview
  split
  · exact keeps_pure _
  · exact keeps_bind (keeps_within (Ordinary.within_listOpen _)) fun rows =>
      keeps_reviewEach ordinary applies rows

end Programs

section Operations

/-- The operations that count a trial of a variant. -/
def Op.tries : Op → Prop
  | .handle job => job.queue = .deliver
  | _ => False

/-- Those that count a success. -/
def Op.credits : Op → Prop
  | .recordConversion _ => True
  | .handle job => job.queue = .classify
  | _ => False

/-- Those that count against one. -/
def Op.guards : Op → Prop
  | .ingestEvents _ => True
  | _ => False

def Op.judges : Op → Prop
  | .handle job => job.queue = .classify
  | _ => False

/-- The operations that may change a cap. -/
def Op.caps : Op → Prop
  | .approveProposal _ _ | .autoReview _ _ => True
  | .handle job => job.queue = .classify
  | _ => False

def Op.erases : Op → Prop
  | .forget _ => True
  | _ => False

/-- What an operation needs a discipline to permit. -/
structure Serves (site : Deployment) (conduct : Conduct) (op : Op) : Prop where
  ordinary : Ordinary conduct.allowed
  catching : conduct.Catching
  keyed : op.keys → Keyed conduct.allowed
  counting : op.countsNoShow → Counting conduct.allowed
  inserting : op.inserts → Inserting conduct.allowed
  moves : ∀ actor, op.mover = some actor → Moves conduct actor
  tries : op.tries → Tries conduct
  credits : op.credits → Credits conduct
  guards : op.guards → Guards conduct
  judges : op.judges → Judges conduct
  brakes : op.caps → Brakes conduct
  applies : op.caps → Applies conduct
  enrols : op.keys → Enrols conduct
  scrubs : op.erases → Scrubs conduct
  attaches : Attaches site conduct

theorem keeps_handler {job : Job} (serves : Serves site conduct (.handle job)) :
    conduct.keeps (handler site job) := by
  obtain ⟨ordinary, catching, keyed, counting, inserting, moves, tries, credits, guards, judges,
    brakes, applies, enrols, scrubs, attaches⟩ := serves
  obtain ⟨id, queue, payload, attempts, limit⟩ := job
  unfold handler
  unfold Op.inserts at inserting
  dsimp only at inserting ⊢
  split
  · exact keeps_within (ordinary.within_controlOp _)
  · exact keeps_trigger ordinary (moves _ rfl) catching (counting rfl) _
  · exact keeps_classify ordinary (moves _ rfl) catching (credits rfl) (judges rfl) (brakes rfl)
      (inserting (by simp)) _
  · exact keeps_deliver ordinary (moves _ rfl) (tries rfl) _
  · exact keeps_within (ordinary.within_composeHandler (inserting (by simp)) _ _)
  · exact keeps_within (ordinary.within_processPositiveEvent (inserting (by simp)) _)
  · exact keeps_within (ordinary.within_reengage (inserting (by simp)) _)
  · exact keeps_qualify ordinary (moves _ rfl) _
  · exact keeps_enrich ordinary (moves _ rfl) attaches _
  · exact keeps_discover ordinary (enrols rfl) (keyed rfl) _ _ _ _ _
  · exact keeps_within (Ordinary.within_attempt _ _)
  · exact keeps_within (Ordinary.within_raise _ _)

/-- Every transaction keeps a discipline that permits what it needs. -/
theorem keeps_program {op : Op} (serves : Serves site conduct op) :
    conduct.keeps (op.program site) := by
  have ordinary := serves.ordinary
  cases op with
  | handle job => exact keeps_bind (keeps_handler serves) fun _ => keeps_pure _
  | ingestEvents events =>
      exact keeps_bind (keeps_ingestEvents ordinary (serves.moves _ rfl) serves.catching
        (serves.guards trivial) events) fun _ => keeps_pure _
  | recordConversion touchId =>
      exact keeps_bind (keeps_recordConversion ordinary (serves.moves _ rfl) serves.catching
        (serves.credits trivial) touchId) fun _ => keeps_pure _
  | forget ref =>
      exact keeps_bind (keeps_forget ordinary (serves.scrubs trivial) _ ref) fun _ => keeps_pure _
  | approveProposal proposalId actor =>
      exact keeps_bind (keeps_approve ordinary (serves.applies trivial) _ _ _) fun _ =>
        keeps_pure _
  | autoReview tenant cohortLaunch =>
      exact keeps_bind (keeps_autoReview ordinary (serves.applies trivial) _ _) fun _ =>
        keeps_pure _
  | _ =>
      refine keeps_within ?_
      unfold Op.program unitOut
      grind

end Operations

section Allowances

section Tallies

variable (stats : conduct.allowed.Changes Tables.variantStats)

include stats

theorem keeps_countUp (tenant variantId : String) (change : VariantStats → VariantStats) :
    conduct.keeps (countUp tenant variantId change) :=
  keeps_within (within_upsertRow conduct.allowed.marks_none stats _ _ _)

theorem tries_of_changes : Tries conduct := fun _ _ => keeps_countUp stats _ _ _

theorem credits_of_changes : Credits conduct := fun _ _ => keeps_countUp stats _ _ _

theorem guards_of_changes (ordinary : Ordinary conduct.allowed) : Guards conduct := by
  intro tenant variantId kind
  refine keeps_bind (keeps_countUp stats _ _ _) fun _ => keeps_within ?_
  grind

end Tallies

theorem judges_of_changes (replies : conduct.allowed.Changes Tables.replies) : Judges conduct :=
  fun _ _ _ => keeps_within (within_update replies _ _)

/-- The cap of a cohort may be changed. -/
def Caps (allowed : Allowed) : Prop :=
  ∀ (cohortId : String) (period : Period) (change : Nat → Nat), Within allowed
    (Program.update Tables.counters
      (fun _ _ key _ => key = (ScopeType.cohortMonth, cohortId, period))
      fun _ row => { row with cap := change row.cap } :
      Prog (List ((ScopeType × String × Period) × Counter)))

/-- The brake may leave its rows. -/
def Braking (allowed : Allowed) : Prop :=
  ∀ row : AuditEvent, row.event = "sentiment_pause" ∨ row.event = "sentiment_throttle" →
    allowed.Appends Tables.auditEvents row

/-- Caps may be changed, and the brake may leave its rows. -/
structure Capping (allowed : Allowed) : Prop where
  capped : allowed.Changes Tables.counters
  braked : ∀ row : AuditEvent, row.event = "sentiment_pause" ∨ row.event = "sentiment_throttle" →
    allowed.Appends Tables.auditEvents row

attribute [grind →] Capping.capped

theorem caps_of_changes {allowed : Allowed} (counters : allowed.Changes Tables.counters) :
    Caps allowed :=
  fun _ _ _ => within_update counters _ _

theorem brakes_of_caps (ordinary : Ordinary conduct.allowed) (capped : Caps conduct.allowed)
    (braked : Braking conduct.allowed) : Brakes conduct := by
  intro tenant cohortId
  have caps : ∀ period change, Within conduct.allowed (setCohortCap cohortId period change) :=
    fun period change => within_bind (capped cohortId period change) fun _ => within_pure _
  have records : ∀ event payload, event = "sentiment_pause" ∨ event = "sentiment_throttle" →
      Within conduct.allowed (audit "cohort" cohortId event payload "system:sentiment") :=
    fun event payload which => within_appendRow fun _ => braked _ which
  refine keeps_within ?_
  unfold evaluateCohort
  refine within_bind (within_markedQuery (ordinary.marks _ rfl) _) fun intents => ?_
  refine within_bind (within_ask _) fun score => ?_
  split
  · exact within_pure _
  · refine within_bind Ordinary.within_now fun time => ?_
    dsimp only
    split
    · refine within_bind (within_query _) fun acted => ?_
      split
      · exact within_pure _
      · refine within_bind (caps _ _) fun prior => ?_
        refine within_bind (records _ _ (Or.inl rfl)) fun _ => ?_
        exact ordinary.within_escalate _ _ _ _ _
    · split
      · refine within_bind (within_query _) fun acted => ?_
        split
        · exact within_pure _
        · exact within_bind (caps _ _) fun _ => records _ _ (Or.inr rfl)
      · exact within_pure _

theorem brakes_of_changes (ordinary : Ordinary conduct.allowed)
    (capping : Capping conduct.allowed) : Brakes conduct :=
  brakes_of_caps ordinary (caps_of_changes capping.capped) capping.braked

theorem applies_of_caps (capped : Caps conduct.allowed) : Applies conduct := by
  intro proposal
  have shifts : ∀ cohortId period delta,
      Within conduct.allowed (shiftCap cohortId period delta) := by
    intro cohortId period delta
    exact within_bind (capped cohortId period fun cap => ((cap : Int) + delta).toNat) fun _ =>
      within_pure _
  refine keeps_within ?_
  unfold applyProposal
  refine within_bind Ordinary.within_now fun time => ?_
  dsimp only
  split
  · exact within_bind (capped _ _ fun _ => 0) fun _ => within_pure _
  · exact within_pure _
  · exact within_bind (shifts _ _ _) fun _ => shifts _ _ _
  · exact Ordinary.within_raise _ _

theorem applies_of_changes (counters : conduct.allowed.Changes Tables.counters) :
    Applies conduct := applies_of_caps (caps_of_changes counters)

theorem scrubs_of_changes (ordinary : Ordinary conduct.allowed) (keyed : Keyed conduct.allowed)
    (replies : conduct.allowed.Changes Tables.replies) (ids : List Uuid) (erases : Within conduct.allowed (Program.update Tables.prospects
      (fun _ _ _ row => ids.contains row.entityId)
      fun _ row => { row with
        emailRaw := none, emailCanonical := none, sourceRef := [], state := .forgotten } :
      Prog (List (Uuid × Prospect)))) : conduct.keeps (scrub ids) := by
  refine keeps_within ?_
  unfold scrub
  refine within_bind (within_updating conduct.allowed.marks_none ordinary.touches _ _ _) fun _ => ?_
  refine within_bind (within_update replies _ _) fun _ => ?_
  refine within_bind (within_deleteRows ordinary.evidenceFacts _) fun _ => ?_
  refine within_bind erases fun _ => ?_
  refine within_bind (within_deleteRows keyed.entityKeys _) fun _ => ?_
  exact within_bind (within_update ordinary.entities _ _) fun _ => within_pure _

variable {allowed : Allowed}

/-- An allowance that permits every row of prospects and of caps. -/
structure Permissive (allowed : Allowed) : Prop extends Ordinary allowed, Capping allowed where
  prospects : allowed.Changes Tables.prospects
  moved : ∀ row : AuditEvent, row.event = "transition" → allowed.Appends Tables.auditEvents row

/-- So are the transitions of an actor. -/
def Moving (allowed : Allowed) (actor : String) : Prop :=
  ∀ id target, allowed.mark (.transition id target actor)

theorem Op.keys_of_erases {op : Op} (erases : op.erases) : op.keys := by
  cases op with
  | forget ref => trivial
  | _ => exact absurd erases id

namespace Permissive

variable (permissive : Permissive conduct.allowed)

include permissive

theorem moves {actor : String} (moving : Moving conduct.allowed actor) : Moves conduct actor := by
  intro prospectId target reason _
  have marks : conduct.allowed.Marks (some (.transition prospectId target actor)) :=
    conduct.allowed.marks_some (moving prospectId target)
  have recorded : ∀ payload, Within conduct.allowed
      (audit "prospect" (toString prospectId) "transition" payload actor) :=
    fun payload => within_appendRow fun _ => permissive.moved _ rfl
  refine keeps_within ?_
  unfold transition
  refine within_bind (within_lockRowsMarked marks _ _) fun rows => ?_
  split
  · exact Ordinary.within_raise _ _
  · dsimp only
    split
    · exact Ordinary.within_raise_bind _ _ _
    · exact within_bind (within_update permissive.prospects _ _) fun _ => recorded _

theorem enrols : Enrols conduct := by
  intro prospectId row _
  have inside : Within conduct.allowed (insertRow Tables.prospects none integrityError
      (fun _ db row =>
        if (db.entities.lookup row.entityId).isNone then some integrityError else none)
      prospectId fun _ => row : Prog Unit) :=
    within_insertRow conduct.allowed.marks_none permissive.prospects _ _ _ _
  exact keeps_within inside

theorem attaches : Attaches site conduct := by
  intro prospectId address bucket
  have marks : conduct.allowed.Marks (some (.attach prospectId address)) :=
    conduct.allowed.marks_some (permissive.marks _ rfl)
  refine keeps_within ?_
  exact within_bind (within_updateChecked marks permissive.prospects _ _ _) fun _ => within_pure _

/-- What is left to be permitted are verdicts on replies and the statistics of variants. -/
theorem serves {op : Op} (catching : conduct.Catching)
    (keyed : op.keys → Keyed conduct.allowed)
    (counting : op.countsNoShow → Counting conduct.allowed)
    (inserting : op.inserts → Inserting conduct.allowed)
    (moving : ∀ actor, op.mover = some actor → Moving conduct.allowed actor)
    (tries : op.tries → Tries conduct) (credits : op.credits → Credits conduct)
    (guards : op.guards → Guards conduct) (judges : op.judges → Judges conduct)
    (effaces : op.erases → conduct.allowed.Changes Tables.replies) : Serves site conduct op :=
  { ordinary := permissive.toOrdinary
    catching
    keyed
    counting
    inserting
    moves := fun actor which => permissive.moves (moving actor which)
    tries
    credits
    guards
    judges
    brakes := fun _ => brakes_of_changes permissive.toOrdinary permissive.toCapping
    applies := fun _ => applies_of_changes permissive.capped
    enrols := fun _ => permissive.enrols
    scrubs := fun erases ids => scrubs_of_changes permissive.toOrdinary
      (keyed (Op.keys_of_erases erases)) (effaces erases) ids
      (within_update permissive.prospects _ _)
    attaches := permissive.attaches }

end Permissive

/-- An allowance that permits every row of replies and of statistics as well. -/
structure Liberal (allowed : Allowed) : Prop extends Permissive allowed where
  replies : allowed.Changes Tables.replies
  variantStats : allowed.Changes Tables.variantStats

namespace Liberal

variable (liberal : Liberal allowed)

include liberal

theorem within_moves {actor : String} (moving : Moving allowed actor) :
    Moves allowed.discipline actor :=
  (show Permissive (allowed.discipline : Conduct).allowed from liberal.toPermissive).moves moving

theorem within_tries : Tries allowed.discipline := tries_of_changes liberal.variantStats

theorem within_credits : Credits allowed.discipline := credits_of_changes liberal.variantStats

theorem within_guards : Guards allowed.discipline :=
  guards_of_changes liberal.variantStats liberal.toOrdinary

theorem within_attaches : Attaches site allowed.discipline :=
  (show Permissive (allowed.discipline : Conduct).allowed from liberal.toPermissive).attaches

end Liberal

/-- What an operation keeps within. -/
theorem within_program (liberal : Liberal allowed) (op : Op) (keyed : op.keys → Keyed allowed)
    (counting : op.countsNoShow → Counting allowed) (inserting : op.inserts → Inserting allowed)
    (moving : ∀ actor, op.mover = some actor → Moving allowed actor) :
    Within allowed (Op.program site op) := by
  have permissive : Permissive (allowed.discipline : Conduct).allowed := liberal.toPermissive
  have serves : Serves site allowed.discipline op :=
    permissive.serves allowed.catching keyed counting inserting moving
      (fun _ => liberal.within_tries) (fun _ => liberal.within_credits)
      (fun _ => liberal.within_guards) (fun _ => judges_of_changes liberal.replies)
      fun _ => liberal.replies
  exact keeps_program serves

/-- Any write, and these marks. -/
def marking (mark : Mark → Prop) : Allowed := ⟨mark, fun _ => True, trivial⟩

theorem liberal_marking {mark : Mark → Prop} (idle : ∀ named, named.moves = false → mark named) :
    Liberal (marking mark) := by
  have ordinary : Ordinary (marking mark) := by
    constructor
    · exact idle
    all_goals
      first
      | exact fun _ _ _ _ => trivial
      | exact fun _ _ _ => trivial
      | exact fun _ _ => trivial
      | exact fun _ => trivial
  exact { ordinary with
    capped := fun _ _ _ _ => trivial
    braked := fun _ _ => trivial
    prospects := fun _ _ _ _ => trivial
    moved := fun _ _ => trivial
    replies := fun _ _ _ _ => trivial
    variantStats := fun _ _ _ _ => trivial }

theorem keyed_marking (mark : Mark → Prop) : Keyed (marking mark) := ⟨fun _ _ _ _ => trivial⟩

theorem counting_marking (mark : Mark → Prop) : Counting (marking mark) := ⟨fun _ _ => trivial⟩

theorem inserting_marking (mark : Mark → Prop) : Inserting (marking mark) := ⟨fun _ _ => trivial⟩

end Allowances

end OpenReachout
