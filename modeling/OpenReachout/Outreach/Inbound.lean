import OpenReachout.Outreach.Erasure
import OpenReachout.Outreach.Ordinary

/-!
# Inbound

What reaches the service from outside: provider events, replies and their
classification, operator events, and conversions.
-/

namespace OpenReachout

open Relational Relational.Abstraction Text

set_option autoImplicit false

variable {site : Deployment} {vouch : Mark → Ledger → Prop} {op : Op} {held : List RowLock}

section Events

theorem follows_safetyEvent (row : Touch × Prospect × String) (reason : String) (kind : Guardrail)
    (target : ProspectState) (plain : target.plain = true) (idle : op.settles = false) :
    (outreach site vouch op).Follows held (safetyEvent site row reason kind target) := by
  obtain ⟨touch, prospect, tenant⟩ := row
  unfold safetyEvent
  dsimp only
  split
  · refine follows_bind (follows_suppress _ _ _ _ idle) fun _ => ?_
    split
    · exact follows_bind (follows_quiet (quiet_recordGuardrail _ _ _)) fun _ =>
        follows_safeTransition plain
    · exact follows_safeTransition plain
  · split
    · exact follows_bind (follows_quiet (quiet_recordGuardrail _ _ _)) fun _ =>
        follows_safeTransition plain
    · exact follows_safeTransition plain

/-- The touch and the prospect that a joined read has found. -/
def Joined (touchId : Uuid) (row : Option (Touch × Prospect × String)) (l : Ledger) : Prop :=
  ∀ found, row = some found →
    ∃ item, l.touches touchId = some item ∧ found.1.prospectId = item.prospectId

theorem brings_joinedTouch (touchId : Uuid) :
    (outreach site vouch op).Brings held
      (Program.query fun _ db => joinedTouch db touchId : Prog (Option (Touch × Prospect × String)))
      fun _ row before after => Joined touchId row before ∧ after = before := by
  refine (ensures_query _).mono ?_
  rintro start row before after ⟨seen, busy, glimpse, rfl, rfl⟩
  refine ⟨fun found same => ?_, rfl⟩
  unfold joinedTouch at same
  obtain ⟨touch, there, rest⟩ := Option.bind_eq_some_iff.1 same
  obtain ⟨prospect, _, rest⟩ := Option.bind_eq_some_iff.1 rest
  obtain ⟨slug, _, rfl⟩ := Option.map_eq_some_iff.1 rest
  obtain ⟨item, present, step⟩ := glimpse.until_.touches touchId touch there
  exact ⟨item, present, step.prospectId.symm⟩

/-- A reply is recorded for the touch it answers. -/
theorem brings_actReply (row : Touch × Prospect × String) (touchId : Uuid) (payload : Payload)
    (events : List ProviderEvent) (which : op = .ingestEvents events) :
    (outreach site vouch op).Brings held (actReply row touchId payload)
      fun start _ before after => Joined touchId (some row) before →
        Relation.ReflTransGen (Deed site vouch op start) before after := by
  unfold actReply
  refine brings_after (quiet_ask _) fun replyId => ?_
  have record : (outreach site vouch op).Brings held
      (Program.insertRow Tables.replies none integrityError (fun _ _ _ => none) replyId
        fun moment =>
          { prospectId := row.1.prospectId, touchId, body := some (actReply.bodyOf payload)
            receivedAt := moment.start.clock } : Prog Unit)
      fun start _ before after => ∃ reply : Reply, before.replies replyId = none ∧
        reply.touchId = touchId ∧ reply.prospectId = row.1.prospectId ∧ reply.intent = none ∧
        after = before.setReply replyId reply := by
    refine (ensures_insertRow Tables.replies none _ _ replyId _).mono ?_
    rintro start _ before after ⟨_, _, _, _, absent, replaced⟩
    exact ⟨_, absent, rfl, rfl, rfl, ledger_replaced_reply replaced⟩
  have rest : (outreach site vouch op).Follows held (do
      let _ ← enqueue .classify (.reply replyId) (.classify replyId)
      safeTransition row.1.prospectId .engaged) :=
    follows_bind (follows_enqueue _ _ _ _ rfl ⟨by simp, by simp, by simp⟩) fun _ =>
      follows_safeTransition rfl
  refine brings_bind record ?_ fun _ => rest.mono ?_
  · rintro start _ before _ ⟨reply, absent, _, _, _, rfl⟩
    apply later_set_reply
    rw [absent]
    exact kept_none _
  · rintro start _ middle after late before ⟨reply, absent, rfl, theirs, unread, rfl⟩ joined
    obtain ⟨item, touch, same⟩ := joined row rfl
    exact .head (.answer replyId reply events which absent item touch (theirs.trans same) unread)
      late

theorem follows_actOn (event : ProviderEvent) (events : List ProviderEvent)
    (which : op = .ingestEvents events) :
    (outreach site vouch op).Follows held (actOn site event) := by
  unfold actOn
  split
  · exact follows_pure _
  · next touchId _ =>
      refine brings_seen (brings_joinedTouch touchId) fun row => ?_
      dsimp only
      split
      · exact (follows_safetyEvent _ _ _ _ rfl (by rw [which]; rfl)).mono fun _ _ _ _ path _ => path
      · exact (follows_safetyEvent _ _ _ _ rfl (by rw [which]; rfl)).mono fun _ _ _ _ path _ => path
      · exact (follows_safetyEvent _ _ _ _ rfl (by rw [which]; rfl)).mono fun _ _ _ _ path _ => path
      · exact brings_actReply _ touchId _ events which
      · refine (brings_map (brings_moveTouch .dispatched .sent touchId) fun _ => ()).mono ?_
        rintro start _ before after ⟨_, _, ⟨_, rfl⟩ | ⟨item, _, found, out, rfl⟩⟩ _
        · exact Relation.ReflTransGen.refl
        · exact .single (.webhook touchId item found out)
      · exact (follows_pure _).mono fun _ _ _ _ path _ => path

theorem follows_ingestEvents (events : List ProviderEvent) (which : op = .ingestEvents events) :
    (outreach site vouch op).Follows held (ingestEvents site events) := by
  refine follows_forM (fun event => ?_) events
  refine follows_bind (follows_quiet (quiet_insertNew Tables.providerEvents (fun _ _ => rfl) _ _))
    fun fresh => ?_
  split_ifs
  · exact follows_actOn event events which
  · exact follows_pure _

end Events

section Classification

/-- The verdict on a reply is stored with it. -/
theorem follows_judge (replyId : Uuid) (intent : Intent) (confidence : Rat)
    (turn : op.classifies replyId) :
    (outreach site vouch op).Follows held
      (Program.update Tables.replies (fun _ _ id _ => id = replyId) fun _ row =>
        { row with intent := some intent, confidence := some confidence } :
        Prog (List (Uuid × Reply))) := by
  refine follows_deeds (ensures_update Tables.replies _ _) ?_
  rintro start rows before after ⟨seen, busy, updated⟩
  rcases updated.single one_key with ⟨_, rfl⟩ | ⟨key, row, _, present, _, picked, replaced⟩
  · exact Relation.ReflTransGen.refl
  · obtain rfl := of_decide_eq_true picked
    rw [ledger_replaced_reply replaced]
    exact .single (.judge key row intent confidence turn present)

theorem follows_applyDecision (decision : RouteDecision) (replyId prospectId : Uuid)
    (emailCanonical : Option String) (tenant : String) (handles : op.handles) :
    (outreach site vouch op).Follows held
      (applyDecision site decision replyId prospectId emailCanonical tenant) := by
  unfold applyDecision
  split
  · exact follows_bind (follows_suppress _ _ _ _ handles.idle) fun _ => follows_safeTransition rfl
  · exact follows_bind (follows_cooldown _ _ _ handles) fun _ => follows_safeTransition rfl
  · exact follows_quiet (quiet_escalate _ _ _ _ _)
  · exact follows_pure _

theorem quiet_evaluateReply (decision : RouteDecision) (replyId : Uuid)
    (tenant cohortId : String) :
    (outreach site vouch op).Quiet (evaluateReply decision replyId tenant cohortId) := by
  unfold evaluateReply
  by_cases objection : decision.intent = .objection
  · rw [if_pos objection]
    exact quiet_bind (quiet_appendRow _ _ fun _ _ => rfl) fun _ => quiet_maybeEvaluate _ _
  · rw [if_neg objection]
    exact quiet_maybeEvaluate _ _

/-- What follows the verdict. -/
theorem given_concluded (decision : RouteDecision) (replyId prospectId : Uuid)
    (emailCanonical : Option String) (tenant cohortId : String) (turn : op.classifies replyId) :
    (outreach site vouch op).FollowsGiven held (fun l => l.Met prospectId)
      (concludeReply site decision replyId prospectId emailCanonical tenant cohortId) := by
  have evaluate : (outreach site vouch op).Quiet (evaluateReply decision replyId tenant cohortId) :=
    quiet_evaluateReply decision replyId tenant cohortId
  unfold concludeReply
  refine given_bind Ledger.met_later (follows_judge _ _ _ turn) fun _ => ?_
  obtain ⟨job, which, queue, payload⟩ := turn
  refine given_bind Ledger.met_later (follows_applyDecision _ _ _ _ _ ⟨job, which⟩) fun _ => ?_
  refine given_ite ?_ (follows_quiet evaluate).given
  exact given_before (given_queueAgenticReply _ _ _ _ _ ⟨job, which, queue, payload⟩) fun _ => evaluate

/-- What the classification of a reply has read. -/
theorem brings_loadReply (replyId : Uuid) :
    (outreach site vouch op).Brings held
      (Program.query fun _ db =>
        (db.replies.lookup replyId).bind fun reply =>
          (db.prospects.lookup reply.prospectId).bind fun prospect =>
            (db.tenants.lookup prospect.tenantId).map fun slug => (reply, prospect, slug) :
        Prog (Option (Reply × Prospect × String)))
      fun start row before after =>
        (∀ reply prospect slug, row = some (reply, prospect, slug) → before.Met reply.prospectId) ∧
          after = before := by
  refine (ensures_query _).mono ?_
  rintro start row before _ ⟨seen, busy, glimpse, read, rfl⟩
  refine ⟨?_, rfl⟩
  rintro reply prospect slug rfl
  obtain ⟨found_reply, found, read⟩ := Option.bind_eq_some_iff.1 read.symm
  obtain ⟨lead, _, read⟩ := Option.bind_eq_some_iff.1 read
  obtain ⟨slug, _, same⟩ := Option.map_eq_some_iff.1 read
  obtain ⟨rfl, _⟩ := Prod.mk.inj same
  obtain ⟨next, there, kept⟩ := glimpse.until_.replies replyId found_reply found
  exact .replied replyId next there kept.prospectId

theorem follows_classify (replyId : Uuid) (turn : op.classifies replyId) :
    (outreach site vouch op).Follows held (classify site replyId) := by
  unfold classify
  refine brings_seen (brings_loadReply replyId) fun row => ?_
  dsimp only
  cases row with
  | none => exact (follows_throw _).given
  | some loaded =>
      obtain ⟨reply, prospect, slug⟩ := loaded
      have met : ∀ _start l : Ledger, (∀ one lead tenant,
          some (reply, prospect, slug) = some (one, lead, tenant) → l.Met one.prospectId) →
          l.Met reply.prospectId := fun _ _ met => met reply prospect slug rfl
      refine FollowsGiven.weaken met ?_
      dsimp only
      split
      · exact (follows_pure _).given
      · refine given_bind Ledger.met_later (follows_releaseSequence _) fun _ => ?_
        refine given_bind Ledger.met_later (follows_quiet (quiet_route _ _ _)) fun decision => ?_
        refine given_ite ?_ (given_concluded _ _ _ _ _ _ turn)
        refine given_bind Ledger.met_later (follows_quiet (quiet_query _)) fun variantId => ?_
        split
        · refine given_bind Ledger.met_later (follows_quiet (quiet_recordSuccess _ _)) fun _ => ?_
          exact given_bind Ledger.met_later (follows_enqueue _ _ _ _ rfl ⟨by simp, by simp, by simp⟩) fun _ =>
            given_concluded _ _ _ _ _ _ turn
        · exact given_bind Ledger.met_later (follows_enqueue _ _ _ _ rfl ⟨by simp, by simp, by simp⟩) fun _ =>
            given_concluded _ _ _ _ _ _ turn

end Classification

section NoShows

theorem follows_processNoShow (prospectId : Uuid) (handles : op.handles) :
    (outreach site vouch op).Follows held (processNoShow prospectId) := by
  unfold processNoShow
  refine follows_bind (follows_quiet (quiet_query _)) fun prior => ?_
  refine follows_bind (follows_quiet (quiet_audit _ _ _ _ _)) fun _ => ?_
  by_cases first : prior = 0
  · rw [if_pos first]
    exact follows_bind (follows_enqueue _ _ _ _ rfl ⟨by simp, by simp, by simp⟩) fun _ => follows_pure _
  · rw [if_neg first]
    have decline : (outreach site vouch op).Follows held (tryCatch
        (transition prospectId .declined "system:noshow" "second no-show (FR-4.5)") fun error =>
          if error.kind = .transitionError then pure () else throw error) := by
      refine follows_handle (follows_transition _ _ rfl) (raises_transition _ _) fun error => ?_
      split_ifs
      · exact follows_pure _
      · exact follows_throw _
    refine follows_bind (follows_quiet (quiet_query _)) fun email => ?_
    dsimp only
    split
    · exact follows_bind (follows_cooldown _ _ _ handles) fun _ => decline
    · exact decline

theorem follows_handleNoShowEvent (tenantId : Uuid) (selector : Payload)
    (handles : op.handles) :
    (outreach site vouch op).Follows held (handleNoShowEvent site tenantId selector) := by
  unfold handleNoShowEvent
  split
  · exact follows_pure _
  · split
    · exact follows_pure _
    · refine follows_bind (follows_quiet (quiet_query _)) fun rows => ?_
      refine follows_forM (fun entry => ?_) rows
      exact follows_processNoShow _ handles

/-- A trigger reaches the prospects it has seen qualified. -/
theorem follows_fireTrigger (runtime : TenantRuntime) (persona : PersonaSpec)
    (cohort : CohortSpec) (eventId : Uuid) (selector : Payload) (which : op.triggers eventId) :
    (outreach site vouch op).Follows held
      (fireTrigger site runtime persona cohort eventId selector) := by
  unfold fireTrigger
  refine follows_ite (follows_quiet (quiet_escalate _ _ _ _ _)) ?_
  refine follows_ite (follows_pure _) ?_
  have seen : (outreach site vouch op).Brings held
      (Program.query fun _ db => db.prospects.select fun _ row =>
        row.tenantId = runtime.tenantId && row.cohortId = cohort.id && row.state = .qualified &&
          ((((selector.lookup "entity_email").filter Field.truthy).bind fun field =>
            canon site.platform field.str).isNone ||
          row.emailCanonical = ((selector.lookup "entity_email").filter Field.truthy).bind
            fun field => canon site.platform field.str) : Prog (List (Uuid × Prospect)))
      fun start rows before after =>
        (∀ entry ∈ rows, Sighted entry.1 [.qualified] start) ∧ after = before := by
    refine (ensures_query _).mono ?_
    rintro start rows before after ⟨seen, busy, glimpse, rfl, rfl⟩
    refine ⟨fun entry member => ?_, rfl⟩
    obtain ⟨found, picked⟩ := (Table.mem_select_iff _ _ _ _).1 member
    simp only [Bool.and_eq_true, decide_eq_true_eq] at picked
    exact ⟨seen.ledger, entry.2, glimpse.since, found, by simp [picked.1.2]⟩
  have compose : ∀ entry : Uuid × Prospect, (outreach site vouch op).Brings held (do
      let _ ← enqueue .compose (.compose entry.1 0) (.triggerCompose eventId entry.1) : Prog PUnit)
      fun start _ before after => Later before after ∧ (Sighted entry.1 [.qualified] start →
        Relation.ReflTransGen (Deed site vouch op start) before after) := by
    intro entry
    refine (brings_map (brings_enqueue .compose (.compose entry.1 0)
      (.triggerCompose eventId entry.1) 0) fun _ => PUnit.unit).mono ?_
    rintro start _ before after ⟨_, _, enqueued⟩
    refine ⟨enqueued_later enqueued, ?_⟩
    rintro ⟨seen, lead, since, found, state⟩
    exact .single (.trigger eventId entry.1 which seen since lead found
      (List.mem_singleton.1 state) enqueued)
  refine brings_seen seen fun rows => ?_
  have composes := brings_forM_given (fun _ _ _ _ _ given => given) compose rows
  refine brings_bind composes (fun _ _ _ _ done => done.1) fun _ => ?_
  have discover : (outreach site vouch op).Follows held (do
      let _ ← enqueue .discover
        (.discover runtime.tenant persona.id cohort.id
          (selector.filter fun entry => entry.1 != "entity_email") none)
        (.triggerDiscover eventId cohort.id)) :=
    follows_bind (follows_enqueue _ _ _ _ rfl ⟨by simp, by simp, by simp⟩) fun _ => follows_pure _
  refine discover.mono ?_
  rintro start _ middle after late before ⟨_, early⟩ sighted
  exact (early sighted).trans late

theorem follows_trigger (eventId : Uuid) (which : op.triggers eventId) :
    (outreach site vouch op).Follows held (trigger site eventId) := by
  have handles : op.handles := by
    obtain ⟨job, same, _⟩ := which
    exact ⟨job, same⟩
  unfold trigger
  refine follows_bind (follows_quiet (quiet_query _)) fun row => ?_
  split
  · exact follows_throw _
  · split_ifs
    · exact follows_forM (fun entry => follows_handleNoShowEvent _ _ handles) _
    · refine follows_forM (fun entry => follows_forM (fun persona =>
        follows_forM (fun cohort => ?_) _) _) _
      split_ifs
      · exact follows_fireTrigger _ _ _ _ _ which
      · exact follows_pure _

theorem follows_operatorEvent (eventType : String) (selector : Payload)
    (dedupeKey : Option String) :
    (outreach site vouch op).Follows held (operatorEvent eventType selector dedupeKey) := by
  unfold operatorEvent
  refine follows_bind (follows_quiet (quiet_ask _)) fun eventId => ?_
  have record : ∀ fresh : Bool, (outreach site vouch op).Follows held (do
      if fresh then
        Program.insertRow Tables.operatorEvents none integrityError (fun _ _ _ => none) eventId
          fun _ => ⟨eventType, selector, dedupeKey⟩
        let _ ← enqueue .trigger (.event eventId) (.trigger eventId)) := by
    intro fresh
    refine follows_ite ?_ (follows_pure _)
    refine follows_bind (follows_quiet
      (quiet_insertRow Tables.operatorEvents (fun _ _ => rfl) _ _ _ _ _)) fun _ => ?_
    exact follows_bind (follows_enqueue _ _ _ _ rfl ⟨by simp, by simp, by simp⟩) fun _ => follows_pure _
  dsimp only
  split
  · exact follows_bind (follows_quiet
      (quiet_insertNew Tables.operatorEventIndex (fun _ _ => rfl) _ _)) record
  · exact follows_bind (follows_pure _) record

end NoShows

section Conversions

/-- A conversion that the table forbids is not one. -/
theorem follows_converted (prospectId : Uuid) (reason : String) :
    (outreach site vouch op).Follows held (tryCatch
      (do
        transition prospectId .converted "system:attribution" reason
        pure true)
      fun error => if error.kind = .transitionError then pure false else throw error :
      Prog Bool) := by
  have moved : (outreach site vouch op).Brings held
      (transition prospectId .converted "system:attribution" reason)
      fun _ _ before after => Moved prospectId .converted before after := brings_transition _ _
  refine follows_handle (follows_bind (follows_transition _ _ rfl) fun _ => follows_pure _) ?_
    fun error => follows_ite (follows_pure _) (follows_throw _)
  exact raises_bind moved.ensures (fun _ _ _ _ => later_moved) (raises_transition _ _)
    fun _ => raises_pure _

theorem follows_recordConversion (touchId : Uuid) :
    (outreach site vouch op).Follows held (recordConversion touchId) := by
  unfold recordConversion
  refine follows_bind (follows_quiet (quiet_query _)) fun row => ?_
  dsimp only
  split
  · exact follows_pure _
  · split_ifs
    · exact follows_pure _
    · refine follows_bind (follows_converted _ _) fun converted => follows_ite ?_ (follows_pure _)
      split
      · refine follows_bind (follows_quiet (quiet_recordSuccess _ _)) fun _ => ?_
        exact follows_bind (follows_enqueue _ _ _ _ rfl ⟨by simp, by simp, by simp⟩) fun _ =>
          follows_bind (follows_quiet (quiet_audit _ _ _ _ _)) fun _ => follows_pure _
      · exact follows_bind (follows_enqueue _ _ _ _ rfl ⟨by simp, by simp, by simp⟩) fun _ =>
          follows_bind (follows_quiet (quiet_audit _ _ _ _ _)) fun _ => follows_pure _

end Conversions

end OpenReachout
