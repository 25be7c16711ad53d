import OpenReachout.Properties.Correlation
import OpenReachout.Properties.Recipients
import OpenReachout.Properties.Suppressions

/-!
# Exchanges

The counter of a reply allows one answer to that reply. A conversation has as many
answers as it has replies that call for one.
-/

namespace OpenReachout

open Relational Relational.Program Relational.Abstraction Text

set_option autoImplicit false

variable {site : Deployment} {vouch : Mark → Ledger → Prop} {op : Op} {held : List RowLock}

section Writes

/-- What leaves the touches alone. -/
def untouching : Allowed where
  mark _ := True
  write write := ∀ db, (write.apply db).touches = db.touches
  idle _ := rfl

def SameTouches (before after : Database) : Prop := after.touches = before.touches

theorem untouching_marks (mark : Option Mark) : untouching.Marks mark := fun _ _ => trivial

theorem within_untouching_enqueue (queue : QueueName) (payload : JobPayload) (key : JobKey)
    (delay attempts : Nat) : Within untouching (enqueue queue payload key delay attempts) := by
  have jobs : untouching.Changes Tables.jobs := fun _ _ _ _ _ => rfl
  have index : untouching.Changes Tables.jobIndex := fun _ _ _ _ _ => rfl
  unfold enqueue
  grind

theorem within_untouching_audit (subjectType subjectId event : String) (payload : Payload)
    (actor : String) : Within untouching (audit subjectType subjectId event payload actor) :=
  within_appendRow fun _ _ => rfl

theorem within_untouching_escalate (tenant : Option String) (subjectType subjectId reason : String)
    (payload : Payload) :
    Within untouching (escalate tenant subjectType subjectId reason payload) := by
  have escalations : untouching.Changes Tables.escalations := fun _ _ _ _ _ => rfl
  unfold escalate
  grind

theorem within_untouching_transition (prospectId : Uuid) (target : ProspectState)
    (actor reason : String) : Within untouching (transition prospectId target actor reason) := by
  have prospects : untouching.Changes Tables.prospects := fun _ _ _ _ _ => rfl
  have marks := untouching_marks
  have audits := within_untouching_audit
  unfold transition
  grind

theorem within_untouching_safeTransition (prospectId : Uuid) (target : ProspectState) :
    Within untouching (safeTransition prospectId target) := by
  have transitions := within_untouching_transition
  have audits := within_untouching_audit
  unfold safeTransition
  grind

theorem within_untouching_suppress (platform : Platform) (email reason : String) :
    Within untouching (suppress platform email reason) := by
  have suppressions : untouching.Changes Tables.suppressions := fun _ _ _ _ _ => rfl
  have marks := untouching_marks
  have enqueues := within_untouching_enqueue
  unfold suppress
  grind

theorem within_untouching_cooldown (email reason : String) (months : Nat) :
    Within untouching (cooldown email reason months) := by
  have suppressions : untouching.Changes Tables.suppressions := fun _ _ _ _ _ => rfl
  have marks := untouching_marks
  unfold cooldown
  grind

theorem within_untouching_releaseSequence (prospectId : Uuid) :
    Within untouching (releaseSequence prospectId) := by
  have entities : untouching.Changes Tables.entities := fun _ _ _ _ _ => rfl
  unfold releaseSequence
  grind

theorem within_untouching_recordSuccess (tenant variantId : String) :
    Within untouching (recordSuccess tenant variantId) := by
  have stats : untouching.Changes Tables.variantStats := fun _ _ _ _ _ => rfl
  unfold recordSuccess countUp
  grind

theorem within_untouching_judge (replyId : Uuid) (intent : Intent) (confidence : Rat) :
    Within untouching (Program.update Tables.replies (fun _ _ id _ => id = replyId) fun _ row =>
      { row with intent := some intent, confidence := some confidence } :
      Prog (List (Uuid × Reply))) := by
  have replies : untouching.Changes Tables.replies := fun _ _ _ _ _ => rfl
  exact within_update replies _ _

theorem within_untouching_applyDecision (decision : RouteDecision) (replyId prospectId : Uuid)
    (emailCanonical : Option String) (tenant : String) :
    Within untouching (applyDecision site decision replyId prospectId emailCanonical tenant) := by
  have suppresses := within_untouching_suppress
  have cooldowns := within_untouching_cooldown
  have closes := within_untouching_safeTransition
  have escalates := within_untouching_escalate
  unfold applyDecision
  grind

theorem within_untouching_evaluate (tenant cohortId : String) :
    Within untouching (maybeEvaluate tenant cohortId) := by
  have counters : untouching.Changes Tables.counters := fun _ _ _ _ _ => rfl
  have audits := within_untouching_audit
  have escalates := within_untouching_escalate
  have caps : ∀ cohortId period change, Within untouching (setCohortCap cohortId period change) := by
    intro cohortId period change
    unfold setCohortCap
    grind
  have every : ∀ mark, untouching.mark mark := fun _ => trivial
  have evaluates : Within untouching (evaluateCohort tenant cohortId) := by
    unfold evaluateCohort
    grind
  unfold maybeEvaluate
  grind

theorem within_untouching_evaluateReply (decision : RouteDecision) (replyId : Uuid)
    (tenant cohortId : String) :
    Within untouching (evaluateReply decision replyId tenant cohortId) := by
  unfold evaluateReply
  dsimp only
  split
  · exact within_bind (within_appendRow fun _ _ => rfl) fun _ => within_untouching_evaluate _ _
  · exact within_untouching_evaluate _ _

end Writes

section Calling

variable {heard : (call : Call) → call.Answer → Prop} {good : Write Database RowLock → Prop}

/-- A classification whose answer `route` turns into an outbound action, as long as the
reply has not been answered. -/
def Outbound (platform : Platform) (heard : (call : Call) → call.Answer → Prop) : Prop :=
  ∃ body output, heard (.classifyReply body) (.ok output) ∧
    (routeClassified (injectionSuspects platform body) 0 output).action.outbound = true

theorem outbound_unanswered {suspicious : Bool} {agenticExchanges : Nat}
    {output : ClassifyReplyOutput}
    (out : (routeClassified suspicious agenticExchanges output).action.outbound = true) :
    (routeClassified suspicious 0 output).action.outbound = true := by
  unfold routeClassified at out ⊢
  dsimp only at out ⊢
  split_ifs at out ⊢ <;> first | exact out | simp_all [maxAgenticExchanges]

theorem told_route {Value : Type} {body : List Char} {agenticExchanges : Nat}
    {rest : RouteDecision → Prog Value}
    (deterministic : Told heard good
      (rest ⟨.suppressUnsubscribe, .unsubscribe, 1, "deterministic pre-pass", none⟩))
    (classified : ∀ output, heard (.classifyReply body) (.ok output) → Told heard good
      (rest (routeClassified (injectionSuspects site.platform body) agenticExchanges output))) :
    Told heard good (route site.platform body agenticExchanges >>= rest) := by
  unfold route
  by_cases plain : (site.platform.search unsubscribeRe body).isSome = true
  · rw [if_pos plain]
    exact deterministic
  · rw [if_neg plain]
    intro answer given
    cases answer with
    | error error => exact trivial
    | ok output => exact classified output given

theorem told_untouching {Value : Type} {program : Prog Value} {claim : Prop}
    (within_ : Within untouching program) :
    Told heard (fun write => claim ∨ untouching.write write) program :=
  told_of_within within_ fun _ apart => Or.inr apart

/-- What follows the verdict writes a touch only where the verdict calls for one. -/
theorem told_concluded {claim : Prop} (decision : RouteDecision) (replyId prospectId : Uuid)
    (emailCanonical : Option String) (tenant cohortId : String)
    (calls : decision.action.outbound = true → claim) :
    Told heard (fun write => claim ∨ untouching.write write)
      (concludeReply site decision replyId prospectId emailCanonical tenant cohortId) := by
  have evaluated := within_untouching_evaluateReply decision replyId tenant cohortId
  unfold concludeReply
  refine told_bind (told_untouching (within_untouching_judge _ _ _)) fun _ => ?_
  refine told_bind (told_untouching (within_untouching_applyDecision _ _ _ _ _)) fun _ => ?_
  by_cases answers : decision.action = .answerFaq ∨ decision.action = .sendSignupLink
  · have out : decision.action.outbound = true := by
      rcases answers with action | action <;> rw [action] <;> rfl
    exact told_trivial (fun _ => Or.inl (calls out)) _
  · rw [if_neg answers]
    exact told_untouching evaluated

theorem told_classify (replyId : Uuid) :
    Told heard (fun write => Outbound site.platform heard ∨ untouching.write write)
      (classify site replyId) := by
  unfold classify
  refine told_bind (told_untouching (within_query _)) fun row => ?_
  cases row with
  | none => exact told_throw _
  | some loaded =>
      obtain ⟨reply, prospect, tenant⟩ := loaded
      dsimp only
      split
      · exact told_pure _
      · next body _ =>
          refine told_bind (told_untouching (within_untouching_releaseSequence _)) fun _ => ?_
          have concluded : ∀ decision : RouteDecision,
              (decision.action.outbound = true → Outbound site.platform heard) →
              Told heard (fun write => Outbound site.platform heard ∨ untouching.write write)
                (judgeReply site decision replyId reply prospect tenant) := by
            intro decision calls
            unfold judgeReply
            dsimp only
            split
            · refine told_bind (told_untouching (within_query _)) fun variantId => ?_
              split
              · refine told_bind (told_untouching (within_untouching_recordSuccess _ _)) fun _ => ?_
                refine told_bind (told_untouching (within_untouching_enqueue _ _ _ _ _)) fun _ => ?_
                exact told_concluded decision replyId _ _ _ _ calls
              · refine told_bind (told_untouching (within_untouching_enqueue _ _ _ _ _)) fun _ => ?_
                exact told_concluded decision replyId _ _ _ _ calls
            · exact told_concluded decision replyId _ _ _ _ calls
          refine told_route ?_ fun output given => ?_
          · apply concluded ⟨.suppressUnsubscribe, .unsubscribe, 1, "deterministic pre-pass", none⟩
            intro out
            cases out
          · apply concluded
            exact fun out => ⟨body, output, given, outbound_unanswered out⟩

end Calling

section Counting

variable {start before middle after : Ledger} {replyId prospectId : Uuid}

/-- The counters of the replies only go up. -/
theorem exchanges_deed (deed : Deed site vouch op start before after) {old : Reply}
    (found : before.replies replyId = some old) :
    ∃ new, after.replies replyId = some new ∧ new.prospectId = old.prospectId ∧
      old.agenticExchanges ≤ new.agenticExchanges := by
  obtain ⟨new, there, kept⟩ := (deed_later _ _ _ _ deed).replies replyId old found
  refine ⟨new, there, kept.prospectId, ?_⟩
  rcases reply_of_deed deed there with same | ⟨absent, _⟩ | ⟨previous, present, step⟩
  · obtain rfl := Option.some.inj (found.symm.trans same)
    exact le_rfl
  · rw [found] at absent
    cases absent
  · obtain rfl := Option.some.inj (found.symm.trans present)
    cases step with
    | judge intent confidence turn => exact le_rfl
    | exchange first => exact Nat.le_succ _
    | erase ref which => exact le_rfl

theorem exchanges_path (path : Relation.ReflTransGen (Deed site vouch op start) before after)
    {old : Reply} (found : before.replies replyId = some old) :
    ∃ new, after.replies replyId = some new ∧ new.prospectId = old.prospectId ∧
      old.agenticExchanges ≤ new.agenticExchanges := by
  induction path with
  | refl => exact ⟨old, found, rfl, le_rfl⟩
  | tail _ deed induction =>
      obtain ⟨next, there, theirs, early⟩ := induction
      obtain ⟨new, present, same, late⟩ := exchanges_deed deed there
      exact ⟨new, present, same.trans theirs, early.trans late⟩

/-- What a classification adds to the conversation of the reply: nothing, or one touch
for the counter that it has taken from zero. -/
inductive Conversing (replyId : Uuid) (before after : Ledger) : Prop where
  | silent (same : after.touches = before.touches)
  | turn (touchId : Uuid) (item : Touch) (reply : Reply)
      (unanswered : ∀ old, before.replies replyId = some old → old.agenticExchanges = 0)
      (found : after.replies replyId = some reply) (answered : reply.agenticExchanges ≠ 0)
      (theirs : item.prospectId = reply.prospectId) (absent : before.touches touchId = none)
      (wrote : after.touches = Function.update before.touches touchId (some item))

theorem conversing_after (path : Relation.ReflTransGen (Deed site vouch op start) before middle)
    (same : middle.touches = before.touches) (turn : Conversing replyId middle after) :
    Conversing replyId before after := by
  cases turn with
  | silent kept => exact .silent (kept.trans same)
  | turn touchId item reply unanswered found answered theirs absent wrote =>
      rw [same] at absent wrote
      refine .turn touchId item reply (fun old there => ?_) found answered theirs absent wrote
      obtain ⟨new, present, _, more⟩ := exchanges_path path there
      have zero := unanswered new present
      omega

/-- The reply of a conversation with a prospect. -/
def Ledger.Said (l : Ledger) (replyId prospectId : Uuid) : Prop :=
  ∃ reply, l.replies replyId = some reply ∧ reply.prospectId = prospectId

theorem said_later (later : Later before after) (said : before.Said replyId prospectId) :
    after.Said replyId prospectId := by
  obtain ⟨reply, found, theirs⟩ := said
  obtain ⟨next, there, kept⟩ := later.replies replyId reply found
  exact ⟨next, there, kept.prospectId.trans theirs⟩

/-- The counter of the reply is taken from zero, or found taken. -/
theorem brings_exchange (replyId : Uuid) :
    (outreach site vouch op).Brings held
      (Program.update Tables.replies (fun _ _ id row => id = replyId && row.agenticExchanges = 0)
        fun _ row => { row with agenticExchanges := row.agenticExchanges + 1 } :
        Prog (List (Uuid × Reply)))
      fun _ rows before after => (rows = [] ∧ after = before) ∨
        ∃ old, before.replies replyId = some old ∧ old.agenticExchanges = 0 ∧
          after = before.setReply replyId
            { old with agenticExchanges := old.agenticExchanges + 1 } := by
  refine (ensures_update Tables.replies _ _).mono ?_
  rintro start rows before after ⟨seen, busy, updated⟩
  have one : ∀ (key other : Uuid) (row next : Reply),
      (decide (key = replyId) && decide (row.agenticExchanges = 0)) = true →
      (decide (other = replyId) && decide (next.agenticExchanges = 0)) = true → key = other := by
    intro key other row next first second
    simp only [Bool.and_eq_true, decide_eq_true_eq] at first second
    exact first.1.trans second.1.symm
  rcases updated.single one with ⟨rfl, rfl⟩ | ⟨key, row, _, present, _, picked, replaced⟩
  · exact Or.inl ⟨rfl, rfl⟩
  · simp only [Bool.and_eq_true, decide_eq_true_eq] at picked
    obtain ⟨rfl, first⟩ := picked
    exact Or.inr ⟨row, present, first, ledger_replaced_reply replaced⟩

theorem brings_queueAgenticReply (decision : RouteDecision) (replyId prospectId : Uuid)
    (tenant : String) :
    (outreach site vouch op).Brings held
      (queueAgenticReply site decision replyId prospectId tenant)
      fun _ _ before after => before.Said replyId prospectId →
        Conversing replyId before after := by
  unfold queueAgenticReply
  split
  · exact brings_pure _ fun _ _ _ => .silent rfl
  · refine brings_bind (brings_exchange replyId) ?_ fun rows => ?_
    · rintro start rows before after (⟨_, rfl⟩ | ⟨old, found, _, rfl⟩)
      · exact later_refl _
      · exact later_set_reply (kept_some found ⟨rfl, rfl, fading_refl _, id⟩)
    · have silent : ∀ {none : Prop} {middle before : Ledger}, (none ∧ middle = before) ∨
          (∃ old, before.replies replyId = some old ∧ old.agenticExchanges = 0 ∧
            middle = before.setReply replyId
              { old with agenticExchanges := old.agenticExchanges + 1 }) →
          Conversing replyId before middle := by
        rintro none middle before (⟨_, rfl⟩ | ⟨old, _, _, rfl⟩)
        · exact .silent rfl
        · exact .silent rfl
      match rows with
      | [] => exact brings_pure _ fun _ middle before counted _ => silent counted
      | (_, reply) :: _ =>
          refine brings_after (quiet_query _) fun personaId => ?_
          refine brings_after (quiet_ask _) fun answer => ?_
          match answer with
          | .error error =>
              dsimp only
              split_ifs
              · exact brings_quiet (quiet_escalate _ _ _ _ _) fun _ _ middle before counted _ =>
                  silent counted
              · exact brings_throw _
          | .ok result =>
              refine (brings_map (brings_queueDraft site prospectId _ none 0 .agenticReply
                result.draft result.contentSha256 0) fun _ => PUnit.unit).mono ?_
              rintro start _ middle after ⟨_, _, queued⟩ before
                (⟨impossible, _⟩ | ⟨old, found, first, rfl⟩) ⟨said, known, theirs⟩
              · cases impossible
              · obtain rfl := Option.some.inj (found.symm.trans known)
                have counted : (before.setReply replyId
                    { old with agenticExchanges := old.agenticExchanges + 1 }).replies replyId =
                    some { old with agenticExchanges := old.agenticExchanges + 1 } :=
                  Function.update_self replyId _ _
                have unanswered : ∀ other, before.replies replyId = some other →
                    other.agenticExchanges = 0 := by
                  intro other there
                  obtain rfl := Option.some.inj (found.symm.trans there)
                  exact first
                cases queued with
                | held touchId item new mine ramp => exact absurd rfl ramp
                | due touchId item new mine enqueued =>
                    obtain ⟨_, _, rfl⟩ := enqueued_frame enqueued
                    exact .turn touchId item _ unanswered counted (Nat.succ_ne_zero _)
                      (mine.prospectId.trans theirs.symm) new.absent rfl

/-- A program that adds at most one touch to the conversation. -/
def Converses (site : Deployment) (vouch : Mark → Ledger → Prop) (op : Op) (held : List RowLock)
    (replyId prospectId : Uuid) {Value : Type} (program : Prog Value) : Prop :=
  (outreach site vouch op).Brings held program fun _ _ before after =>
    before.Said replyId prospectId → Conversing replyId before after

theorem converses_quiet {Value : Type} {program : Prog Value}
    (quiet : (outreach site vouch op).Quiet program) :
    Converses site vouch op held replyId prospectId program :=
  brings_quiet quiet fun _ _ _ _ => .silent rfl

/-- A first part that leaves the touches alone. -/
theorem converses_bind {Value Other : Type} {program : Prog Value} {rest : Value → Prog Other}
    (follows : (outreach site vouch op).Follows held program) (within_ : Within untouching program)
    (second : ∀ value, Converses site vouch op held replyId prospectId (rest value)) :
    Converses site vouch op held replyId prospectId (program >>= rest) := by
  have first : (outreach site vouch op).Brings held program fun start _ before after =>
      Relation.ReflTransGen (Deed site vouch op start) before after ∧
        after.touches = before.touches := by
    intro a b value standing exec clean db later stable
    refine ⟨follows a b value standing exec clean db later stable, ?_⟩
    have kept : ∀ write, untouching.write write → ∀ db : Database,
        Database.touches (write.apply db) = Database.touches db := fun _ apart => apart
    have same := view_of_within kept within_ exec db
    change (b.txn.view db).touches.lookup = (a.txn.view db).touches.lookup
    rw [same]
  refine brings_bind first (fun _ _ _ _ done => path_later done.1) fun value => ?_
  refine (second value).mono ?_
  rintro start _ middle after turn before ⟨path, same⟩ said
  exact conversing_after path same (turn (said_later (path_later path) said))

theorem converses_concluded (decision : RouteDecision) (emailCanonical : Option String)
    (tenant cohortId : String) (turn : op.classifies replyId) :
    Converses site vouch op held replyId prospectId
      (concludeReply site decision replyId prospectId emailCanonical tenant cohortId) := by
  have evaluate : (outreach site vouch op).Quiet (evaluateReply decision replyId tenant cohortId) :=
    quiet_evaluateReply decision replyId tenant cohortId
  unfold concludeReply
  refine converses_bind (follows_judge _ _ _ turn) (within_untouching_judge _ _ _) fun _ => ?_
  have handles : op.handles := turn.imp fun _ turn => turn.1
  refine converses_bind (follows_applyDecision _ _ _ _ _ handles)
    (within_untouching_applyDecision _ _ _ _ _) fun _ => ?_
  by_cases answers : decision.action = .answerFaq ∨ decision.action = .sendSignupLink
  · rw [if_pos answers]
    exact brings_before (brings_queueAgenticReply _ _ _ _) fun _ => evaluate
  · rw [if_neg answers]
    exact converses_quiet evaluate

theorem brings_classify (replyId : Uuid) (turn : op.classifies replyId) :
    (outreach site vouch op).Brings held (classify site replyId)
      fun _ _ before after => Conversing replyId before after := by
  unfold classify
  have read : (outreach site vouch op).Brings held
      (Program.query fun _ db =>
        (db.replies.lookup replyId).bind fun reply =>
          (db.prospects.lookup reply.prospectId).bind fun prospect =>
            (db.tenants.lookup prospect.tenantId).map fun slug => (reply, prospect, slug) :
        Prog (Option (Reply × Prospect × String)))
      fun start row before after =>
        (∀ reply prospect slug, row = some (reply, prospect, slug) →
          before.Said replyId reply.prospectId) ∧ after = before := by
    refine (ensures_query _).mono ?_
    rintro start row before _ ⟨seen, busy, glimpse, read, rfl⟩
    refine ⟨?_, rfl⟩
    rintro reply prospect slug rfl
    obtain ⟨found_reply, found, read⟩ := Option.bind_eq_some_iff.1 read.symm
    obtain ⟨lead, _, read⟩ := Option.bind_eq_some_iff.1 read
    obtain ⟨slug, _, same⟩ := Option.map_eq_some_iff.1 read
    obtain ⟨rfl, _⟩ := Prod.mk.inj same
    obtain ⟨next, there, kept⟩ := glimpse.until_.replies replyId found_reply found
    exact ⟨next, there, kept.prospectId⟩
  refine brings_seen read fun row => ?_
  match row with
  | none => exact brings_throw _
  | some (reply, prospect, slug) =>
      have talk : ∀ {program : Prog Unit},
          Converses site vouch op held replyId reply.prospectId program →
          (outreach site vouch op).Brings held program fun _ _ before after =>
            (∀ one lead tenant, some (reply, prospect, slug) = some (one, lead, tenant) →
              before.Said replyId one.prospectId) → Conversing replyId before after := by
        intro program converses
        refine Brings.mono converses ?_
        exact fun _ _ _ _ turn said => turn (said reply prospect slug rfl)
      dsimp only
      split
      · exact talk (converses_quiet (quiet_pure _))
      · refine talk ?_
        refine converses_bind (follows_releaseSequence _) (within_untouching_releaseSequence _)
          fun _ => ?_
        refine converses_bind (follows_quiet (quiet_route _ _ _)) (Ordinary.within_route _ _ _)
          fun decision => ?_
        by_cases interested : decision.intent = .interested
        · rw [if_pos interested]
          refine converses_bind (follows_quiet (quiet_query _)) (within_query _) fun variantId => ?_
          have referred : Converses site vouch op held replyId reply.prospectId (do
              let _ ← enqueue .referral (.prospect reply.prospectId) (.referral reply.prospectId)
              concludeReply site decision replyId reply.prospectId prospect.emailCanonical slug
                prospect.cohortId : Prog Unit) :=
            converses_bind (follows_enqueue _ _ _ _ rfl ⟨by simp, by simp, by simp⟩)
              (within_untouching_enqueue _ _ _ _ _) fun _ =>
                converses_concluded decision _ _ _ turn
          split
          · exact converses_bind (follows_quiet (quiet_recordSuccess _ _))
              (within_untouching_recordSuccess _ _) fun _ => referred
          · exact referred
        · rw [if_neg interested]
          exact converses_concluded decision _ _ _ turn

end Counting

section Runs

variable {past whole : History} {start world later : World} {prospectId : Uuid} {l after : Ledger}

/-- The model has answered the classification of the reply so that it calls for an
outbound action. -/
def Calls (site : Deployment) (past : History) (replyId : Uuid) : Prop :=
  ∃ op : Op, op.classifies replyId ∧ Outbound site.platform (Heard past op)

theorem calls_mono (more : past ⊆ whole) {replyId : Uuid} (calls : Calls site past replyId) :
    Calls site whole replyId := by
  obtain ⟨op, classifies, body, output, heard, out⟩ := calls
  exact ⟨op, classifies, body, output, heard_mono more heard, out⟩

/-- The touch is an agentic answer in the conversation with the prospect. -/
def Ledger.Answers (l : Ledger) (prospectId touchId : Uuid) : Prop :=
  ∃ item, l.touches touchId = some item ∧ item.prospectId = prospectId ∧ item.exchange = true

/-- At most one reply of the conversation calls for an outbound action. -/
def CalledOnce (site : Deployment) (past : History) (l : Ledger) (prospectId : Uuid) : Prop :=
  ∀ first second, l.Said first prospectId → l.Said second prospectId →
    Calls site past first → Calls site past second → first = second

theorem answers_before (onward : Later l after) {touchId : Uuid}
    (answers : after.Answers prospectId touchId) :
    l.touches touchId = none ∨ l.Answers prospectId touchId := by
  cases found : l.touches touchId with
  | none => exact Or.inl rfl
  | some old =>
      obtain ⟨item, present, theirs, exchange⟩ := answers
      obtain ⟨new, there, kept⟩ := onward.touches touchId old found
      obtain rfl := Option.some.inj (present.symm.trans there)
      refine Or.inr ⟨old, found, kept.prospectId.symm.trans theirs, ?_⟩
      unfold Touch.exchange at exchange ⊢
      rw [← kept.kind, ← kept.campaignId]
      exact exchange

/-- Only a classification answers in a conversation. -/
theorem exchange_of_path {begin_ : Ledger}
    (path : Relation.ReflTransGen (Deed site vouch op begin_) l after) {touchId : Uuid}
    (absent : l.touches touchId = none) (answers : after.Answers prospectId touchId) :
    ∃ replyId, op.classifies replyId := by
  induction path with
  | refl =>
      obtain ⟨item, present, _⟩ := answers
      rw [absent] at present
      cases present
  | tail path deed induction =>
      rcases answers_before (deed_later _ _ _ _ deed) answers with new | earlier
      · obtain ⟨item, present, _, exchange⟩ := answers
        have drafted : Drafting op begin_ item := by
          rcases touch_of_deed deed present with same | ⟨_, inserted⟩ | ⟨old, found, _⟩
          · rw [new] at same
            cases same
          · cases inserted with
            | held status drafting met => exact drafting
            | drafted status drafting queued met => exact drafting
            | parked status kind met =>
                unfold Touch.exchange at exchange
                rw [kind] at exchange
                cases exchange
          · rw [new] at found
            cases found
        cases drafted with
        | step composes kind seen since lead found state =>
            unfold Touch.exchange at exchange
            rw [kind] at exchange
            split_ifs at exchange <;> cases exchange
        | reply kind step turn => exact turn exchange
      · exact induction earlier

/-- What an operation writes of touches, if it classifies. -/
def exchanging (site : Deployment) (whole : History) (op : Op) (write : Write Database RowLock) :
    Prop :=
  (∃ replyId, op.classifies replyId) →
    Outbound site.platform (Heard whole op) ∨ untouching.write write

theorem told_exchanging (op : Op) :
    Told (Heard whole op) (exchanging site whole op) (op.program site) := by
  by_cases classifies : ∃ replyId, op.classifies replyId
  · obtain ⟨replyId, job, rfl, queue, payload⟩ := classifies
    have same : handler site job = classify site replyId := by
      unfold handler
      rw [queue, payload]
    refine told_mono (fun write good _ => good) ?_
    change Told _ _ (unitOut (handler site job))
    rw [same]
    exact told_bind (told_classify replyId) fun _ => told_pure _
  · exact told_trivial (fun _ some_ => absurd some_ classifies) _

/-- What holds of the answers in a conversation. -/
structure Answered (site : Deployment) (past : History) (prospectId : Uuid) (l : Ledger) :
    Prop where
  single : ∀ first second, l.Answers prospectId first → l.Answers prospectId second →
    first = second
  called : ∀ touchId, l.Answers prospectId touchId → ∃ replyId reply,
    l.replies replyId = some reply ∧ reply.prospectId = prospectId ∧
      reply.agenticExchanges ≠ 0 ∧ Calls site past replyId

theorem answered_of_old {begin_ : Ledger} (answered : Answered site past prospectId l)
    (path : Relation.ReflTransGen (Deed site vouch op begin_) l after)
    (old : ∀ touchId, after.Answers prospectId touchId → l.Answers prospectId touchId) :
    Answered site past prospectId after := by
  refine ⟨fun first second one two => answered.single _ _ (old _ one) (old _ two), ?_⟩
  intro touchId answers
  obtain ⟨replyId, reply, found, theirs, taken, calls⟩ := answered.called touchId (old _ answers)
  obtain ⟨new, present, same, more⟩ := exchanges_path path found
  exact ⟨replyId, new, present, same.trans theirs, by omega, calls⟩

/-- The classification of a reply of its own. -/
theorem handler_of_classifies {replyId : Uuid} (classifies : op.classifies replyId) :
    op.program site = unitOut (classify site replyId) := by
  obtain ⟨job, rfl, queue, payload⟩ := classifies
  change unitOut (handler site job) = _
  unfold handler
  rw [queue, payload]

theorem answered_commit {index : Nat} {out : Out}
    {session : Session Database RowLock Exc Mark Call Call.Answer Op Out} (sane : Sane site world)
    (answered : Answered site past prospectId world.committed.ledger)
    (once : CalledOnce site past later.committed.ledger prospectId)
    (informed : Informed past (exchanging site past) session)
    (found : world.session index = some session) (commits : Committing session out)
    (wrote : later.committed = session.txn.view world.committed)
    (path : Relation.ReflTransGen
      (Deed site (fun _ _ => True) session.op session.txn.start.ledger)
      world.committed.ledger later.committed.ledger) :
    Answered site past prospectId later.committed.ledger := by
  have onward := path_later path
  by_cases classifies : ∃ replyId, session.op.classifies replyId
  case neg =>
    refine answered_of_old answered path fun touchId answers => ?_
    rcases answers_before onward answers with absent | earlier
    · exact absurd (exchange_of_path path absent answers) classifies
    · exact earlier
  obtain ⟨replyId, mine⟩ := classifies
  have brings : (outreach site (fun _ _ => True) session.op).Brings []
      (session.op.program site) fun _ _ before after => Conversing replyId before after := by
    rw [handler_of_classifies mine]
    exact brings_before (brings_classify replyId mine) fun _ => quiet_pure _
  obtain ⟨_, turn⟩ := brings_commit sane.sound sane.begun found commits (fun _ _ => trivial) brings
  rw [← wrote] at turn
  cases turn with
  | silent same =>
      refine answered_of_old answered path fun touchId answers => ?_
      unfold Ledger.Answers at answers ⊢
      rw [same] at answers
      exact answers
  | turn newId item reply unanswered present taken theirs absent made =>
      have calls : Calls site past replyId := by
        by_contra quiet
        have apart : ∀ write ∈ session.txn.writes, untouching.write write := by
          intro write member
          rcases informed.2 write member ⟨replyId, mine⟩ with out | apart
          · exact absurd ⟨session.op, mine, out⟩ quiet
          · exact apart
        have step : ∀ write db, untouching.write write → SameTouches world.committed db →
            SameTouches world.committed (write.apply db) :=
          fun write db good same => (good db).trans same
        have same : SameTouches world.committed (session.txn.view world.committed) :=
          view_induction apart step rfl
        unfold SameTouches at same
        rw [← wrote] at same
        have new : later.committed.ledger.touches newId = some item := by
          rw [made, Function.update_self]
        change later.committed.touches.lookup newId = some item at new
        rw [same] at new
        change world.committed.touches.lookup newId = none at absent
        rw [absent] at new
        cases new
      have old : ∀ touchId, later.committed.ledger.Answers prospectId touchId →
          touchId = newId ∨ world.committed.ledger.Answers prospectId touchId := by
        intro touchId answers
        by_cases same : touchId = newId
        · exact Or.inl same
        · obtain ⟨found, there, rest⟩ := answers
          rw [made, Function.update_of_ne same] at there
          exact Or.inr ⟨found, there, rest⟩
      by_cases other : reply.prospectId = prospectId
      case neg =>
        refine answered_of_old answered path fun touchId answers => ?_
        rcases old touchId answers with rfl | earlier
        · obtain ⟨found, there, prospect, _⟩ := answers
          rw [made, Function.update_self] at there
          obtain rfl := Option.some.inj there
          exact absurd (theirs.symm.trans prospect) other
        · exact earlier
      -- an answer that was there answers this reply, whose counter was still at zero
      have none_before : ∀ touchId, ¬ world.committed.ledger.Answers prospectId touchId := by
        intro touchId answers
        obtain ⟨first, answeredReply, there, whose, counted, called⟩ := answered.called touchId answers
        obtain ⟨next, kept, same, _⟩ := exchanges_path path there
        obtain rfl := once first replyId ⟨next, kept, same.trans whose⟩ ⟨reply, present, other⟩
          called calls
        exact counted (unanswered answeredReply there)
      have only : ∀ touchId, later.committed.ledger.Answers prospectId touchId →
          touchId = newId := fun touchId answers =>
        (old touchId answers).resolve_right (none_before touchId)
      refine ⟨fun first second one two => (only first one).trans (only second two).symm, ?_⟩
      exact fun touchId _ => ⟨replyId, reply, present, other, taken, calls⟩

theorem answered_mono (more : past ⊆ whole) (answered : Answered site past prospectId l) :
    Answered site whole prospectId l := by
  refine ⟨answered.single, fun touchId answers => ?_⟩
  obtain ⟨replyId, reply, found, theirs, taken, calls⟩ := answered.called touchId answers
  exact ⟨replyId, reply, found, theirs, taken, calls_mono more calls⟩

theorem called_once_before (more : past ⊆ whole) (onward : Later l after)
    (once : CalledOnce site whole after prospectId) : CalledOnce site past l prospectId :=
  fun first second one two calls also =>
    once first second (said_later onward one) (said_later onward two) (calls_mono more calls)
      (calls_mono more also)

/-- A conversation in which at most one reply calls for an outbound action has at most
one agentic answer, and that answers this reply. -/
theorem conversation_answered_once {allowed : World → Act → Prop} (quiet : start.sessions = [])
    (linked : Linked start.committed.ledger)
    (unanswered : ∀ touchId, ¬ start.committed.ledger.Answers prospectId touchId)
    (trace : Trace (service site) allowed start past world)
    (once : CalledOnce site past world.committed.ledger prospectId) :
    Answered site past prospectId world.committed.ledger := by
  have holds : Sane site world ∧ Answered site past prospectId world.committed.ledger := by
    induction trace with
    | nil =>
        refine ⟨sane_start quiet linked, ⟨?_, ?_⟩⟩
        · exact fun first second answers _ => absurd answers (unanswered first)
        · exact fun touchId answers => absurd answers (unanswered touchId)
    | @snoc past middle later action before permitted step induction =>
        have more : past ⊆ past ++ [(middle, action)] := List.subset_append_left _ _
        have sane : Sane site middle := by
          have free : ∀ world action, allowed world action →
              Vouched (fun _ _ _ _ => True) world action :=
            fun _ _ _ _ _ _ _ _ _ _ _ => trivial
          exact (invariant_onward (fun _ => True) free (fun _ _ _ _ _ _ _ _ => trivial)
            (sane_start quiet linked) trivial (run_of_trace before)).1
        have free : Vouched (fun _ _ _ _ => True) middle action := fun _ _ _ _ _ _ _ _ => trivial
        have advance := advance_of_step sane.sound sane.begun free step
        have onward := later_advance advance
        have answered := answered_mono more
          (induction (called_once_before more onward once)).2
        refine ⟨sane_step sane step onward, ?_⟩
        cases advance with
        | idle same =>
            rw [same]
            exact answered
        | clock ticks moved =>
            rw [moved]
            exact { answered with }
        | commit index session out found commits since wrote path =>
            have informed := told_of_trace told_exchanging quiet before more
            exact answered_commit sane answered once (informed index session found) found commits
              wrote path
  exact holds.2

end Runs

section Sample

/-- The sample world after its touch has been sent. -/
def dispatchedWorld : World := { committed := dispatchedDatabase }

theorem dispatched_linked : Linked dispatchedWorld.committed.ledger := by
  refine ⟨?_, ?_, ?_, ?_⟩
  all_goals
    intro id row found
    simp [Database.ledger, dispatchedWorld, dispatchedDatabase, sampleDatabase, sampleProspect,
      sampleTouch] at found ⊢
  all_goals
    obtain ⟨rfl, rfl⟩ := found
    rfl

theorem dispatched_unanswered (touchId : Uuid) :
    ¬ dispatchedWorld.committed.ledger.Answers 3 touchId := by
  rintro ⟨item, found, _, exchange⟩
  change (Table.empty.insert 4 { sampleTouch with status := .dispatched }).lookup touchId =
    some item at found
  rw [Table.lookup_insert] at found
  split_ifs at found
  · obtain rfl := Option.some.inj found
    cases exchange
  · cases found

/-- The services answer that a reply is a question. -/
def questions (index count id : Nat) : Move :=
  .inr (fun
    | .classifyReply _ => .ok { intent := .question, confidence := 1 }
    | query => sampleReply sampleClock id query, index, count)

/-- A question comes in and is classified. -/
def oneQuestion : List Move :=
  [begin (.ingestEvents [sampleEvent "event-1" .reply]), go 0 11 400, begin (.lease .classify),
    questions 1 16 600]

/-- Two questions come in, and two workers classify them. -/
def twoQuestions : List Move :=
  [begin (.ingestEvents [sampleEvent "event-1" .reply]), go 0 11 400,
    begin (.ingestEvents [sampleEvent "event-2" .reply]), go 1 10 500, begin (.lease .classify),
    questions 2 15 600, begin (.lease .classify), questions 3 16 700, questions 2 1 600]

/-- The touch answers in the conversation with the sample prospect. -/
def answersSample (world : World) (touchId : Uuid) : Bool :=
  (world.committed.touches.lookup touchId).any fun item => item.prospectId = 3 && item.exchange

theorem answers_sample {world : World} {touchId : Uuid}
    (answers : answersSample world touchId = true) :
    world.committed.ledger.Answers 3 touchId := by
  obtain ⟨item, found, holds⟩ := (Option.any_eq_true _ _).1 answers
  simp only [Bool.and_eq_true, decide_eq_true_eq] at holds
  exact ⟨item, found, holds.1, holds.2⟩

theorem question_answered_once : ∃ past world,
    Trace (service sampleDeployment) unrestricted dispatchedWorld past world ∧
    world.committed.ledger.Answers 3 600 ∧
    Answered sampleDeployment past 3 world.committed.ledger := by
  have tried : ((service sampleDeployment).script oneQuestion dispatchedWorld).any (fun world =>
      answersSample world 600 &&
        (world.committed.replies.select fun _ _ => true).all fun entry => entry.1 = 400) = true := by
    decide +kernel
  obtain ⟨world, played, seen⟩ := (Option.any_eq_true _ _).1 tried
  obtain ⟨answers, single⟩ := (Bool.and_eq_true _ _).mp seen
  have run : Run sampleDeployment unrestricted dispatchedWorld world := run_of_further played
  obtain ⟨past, trace⟩ := trace_of_run run
  have only : ∀ replyId, world.committed.ledger.Said replyId 3 → replyId = 400 := by
    rintro replyId ⟨reply, found, _⟩
    have member : (replyId, reply) ∈ world.committed.replies.select fun _ _ => true :=
      (Table.mem_select_iff _ _ _ _).2 ⟨found, rfl⟩
    exact of_decide_eq_true (List.all_eq_true.1 single _ member)
  refine ⟨past, world, trace, answers_sample answers, ?_⟩
  refine conversation_answered_once rfl dispatched_linked dispatched_unanswered trace ?_
  exact fun first second one two _ _ => (only first one).trans (only second two).symm

theorem questions_answered_twice : ∃ world,
    Run sampleDeployment unrestricted dispatchedWorld world ∧
    world.committed.ledger.Answers 3 600 ∧ world.committed.ledger.Answers 3 700 ∧
    world.committed.escalations.select (fun _ _ => true) = [] := by
  have tried : ((service sampleDeployment).script twoQuestions dispatchedWorld).any (fun world =>
      answersSample world 600 && answersSample world 700 &&
        (world.committed.escalations.select fun _ _ => true).isEmpty) = true := by
    decide +kernel
  obtain ⟨world, played, seen⟩ := (Option.any_eq_true _ _).1 tried
  simp only [Bool.and_eq_true] at seen
  obtain ⟨⟨first, second⟩, quiet⟩ := seen
  exact ⟨world, run_of_further played, answers_sample first, answers_sample second,
    List.isEmpty_iff.1 quiet⟩

end Sample

end OpenReachout
