import OpenReachout.Properties.Reruns

/-!
# Opt-outs without a model, and escalated replies

An opt-out that the pre-pass recognises goes through whatever a model would do. A reply
that is escalated has no outward effect exactly when the model does not report interest.
-/

namespace OpenReachout

open Relational Relational.Program Text

set_option autoImplicit false

/-- The calls that go to a language model. -/
def Call.consultsModel : Call → Bool
  | .compose _ | .composeReply _ _ _ | .classifyReply _ | .qualify _ _ | .synthesize _ _ => true
  | _ => false

/-- No language model is asked. -/
def Unassisted {Value : Type} (program : Prog Value) : Prop :=
  program.Every (fun _ _ => True) fun call => call.consultsModel = false

section Unassisted

theorem unassisted_enqueue (queue : QueueName) (payload : JobPayload) (key : JobKey)
    (delay attempts : Nat) : Unassisted (enqueue queue payload key delay attempts) := by
  unfold Unassisted enqueue
  repeat' first
    | exact every_pure _
    | apply every_bind
    | (apply every_perform; trivial)
    | (apply every_ask; rfl)
    | intro _
    | split

theorem unassisted_suppress (platform : Platform) (email reason : String) :
    Unassisted (suppress platform email reason) := by
  unfold Unassisted suppress
  repeat' first
    | exact every_pure _
    | exact every_ofExcept _
    | exact unassisted_enqueue _ _ _ _ _
    | apply every_bind
    | (apply every_perform; trivial)
    | intro _

theorem unassisted_safeTransition (prospectId : Uuid) (target : ProspectState) :
    Unassisted (safeTransition prospectId target) := by
  unfold Unassisted safeTransition transition audit raise
  apply every_handle
  all_goals
    repeat' first
      | exact every_pure _
      | exact every_throw _
      | apply every_bind
      | (apply every_perform; trivial)
      | intro _
      | split

theorem unassisted_maybeEvaluate (tenant cohortId : String) :
    Unassisted (maybeEvaluate tenant cohortId) := by
  unfold Unassisted maybeEvaluate evaluateCohort setCohortCap escalate audit freshUuid now
  repeat' first
    | exact every_pure _
    | apply every_bind
    | (apply every_perform; trivial)
    | (apply every_ask; rfl)
    | intro _
    | dsimp only
    | split

theorem unassisted_applyOptOut (deployment : Deployment) (replyId prospectId : Uuid)
    (email : Option String) (tenant : String) :
    Unassisted (applyDecision deployment optOutDecision replyId prospectId email tenant) := by
  unfold Unassisted applyDecision optOutDecision
  cases nonEmpty email with
  | none => exact every_pure _
  | some address =>
      apply every_bind (unassisted_suppress _ _ _)
      exact fun _ => unassisted_safeTransition _ _

theorem unassisted_recordOptOut (deployment : Deployment) (replyId prospectId : Uuid)
    (prospect : Prospect) (tenant : String) :
    Unassisted (recordReply deployment optOutDecision replyId prospectId prospect tenant) := by
  unfold Unassisted recordReply finishReply
  apply every_bind (every_perform trivial)
  intro _
  apply every_bind (unassisted_applyOptOut deployment replyId prospectId _ tenant)
  intro _
  rw [if_neg nofun, if_neg nofun]
  exact unassisted_maybeEvaluate _ _

end Unassisted

section OptOut

variable {oracle : Nat → (call : Call) → call.Answer} {fault : Exc}
variable {moment : Moment Database RowLock} {deployment : Deployment}
variable {db : Database} {answered : Nat}

/-- What is left of the handler once the pre-pass has decided asks no model. -/
theorem unassisted_classify {replyId : Uuid} {reply : Reply}
    (replied : db.replies.lookup replyId = some reply) {body : List Char}
    (text : reply.body = some body) (asking : asks deployment.platform body = true)
    {prospect : Prospect} (found : db.prospects.lookup reply.prospectId = some prospect)
    {tenant : String} (named : db.tenants.lookup prospect.tenantId = some tenant) :
    ∀ call ∈ soloCalls oracle fault moment (classify deployment replyId) ⟨db, answered, false⟩,
      call.consultsModel = false := by
  unfold classify
  rw [solo_calls_query, replied, Option.bind_some, found, Option.bind_some, named, Option.map_some]
  dsimp only
  rw [text]
  dsimp only
  intro call member
  refine calls_of_every (?_ : Unassisted _) _ call member
  unfold Unassisted releaseSequence route
  rw [if_pos (show (deployment.platform.search unsubscribeRe body).isSome = true from asking)]
  apply every_bind (every_bind (every_perform trivial) fun _ => every_pure _)
  intro _
  -- the decision has been made, so the branches on it are known
  exact unassisted_recordOptOut deployment replyId reply.prospectId prospect tenant

/-- What one execution of the handler has made of an opt-out. -/
structure OptedOut (replyId : Uuid) (reply : Reply) (address : String) (db later : Database) :
    Prop where
  suppressed : Suppressed address later
  intent : later.replies.lookup replyId =
    some { reply with intent := some .unsubscribe, confidence := some 1 }
  released : ∀ id row, later.entities.lookup id = some row →
    ownsSequence later reply.prospectId id row = false
  touches : later.touches = db.touches
  jobs : ∀ id row, later.jobs.lookup id = some row → db.jobs.lookup id = none →
    row.idempotencyKey = .pause address globalScope "unsubscribe"

/-- The sequence is the prospect's no longer. -/
theorem released_of_settled {later : Database} {prospectId : Uuid}
    (touches : later.touches = db.touches)
    (prospects : SameProspects db.prospects later.prospects)
    (entities : later.entities = releasedFor prospectId db) (id : Uuid) (row : Entity)
    (found : later.entities.lookup id = some row) :
    ownsSequence later prospectId id row = false := by
  have owners : (later.prospects.lookup prospectId).any (fun prospect => prospect.entityId = id) =
      (db.prospects.lookup prospectId).any (fun prospect => prospect.entityId = id) := by
    have equal := prospects prospectId
    cases after : later.prospects.lookup prospectId with
    | none =>
        rw [after] at equal
        rw [Option.map_eq_none_iff.1 equal.symm]
    | some owner =>
        rw [after, Option.map_some] at equal
        obtain ⟨old, present, alike⟩ := Option.map_eq_some_iff.1 equal.symm
        have entity := congrArg Prospect.entityId alike
        rw [present, Option.any_some, Option.any_some,
          show old.entityId = owner.entityId from entity]
  rw [entities, releasedFor, Table.lookup_modify] at found
  obtain ⟨old, present, changed⟩ := Option.map_eq_some_iff.1 found
  unfold ownsSequence activeProspect
  rw [owners, touches]
  by_cases owned : ownsSequence db prospectId id old = true
  · rw [if_pos owned] at changed
    rw [← changed]
    simp
  · rw [if_neg owned] at changed
    rw [← changed]
    rw [Bool.not_eq_true] at owned
    exact owned

/-- An opt-out that the pre-pass recognises commits with everything it asks for done, for
whatever a model would answer, and no model is asked. -/
theorem opt_out_needs_no_model (distinct : Distinct oracle)
    (ready : Ready deployment.platform oracle db answered) {replyId : Uuid} {reply : Reply}
    (replied : db.replies.lookup replyId = some reply) {body : List Char}
    (text : reply.body = some body) (asking : asks deployment.platform body = true)
    {prospect : Prospect} (found : db.prospects.lookup reply.prospectId = some prospect)
    {tenant : String} (named : db.tenants.lookup prospect.tenantId = some tenant)
    {address : String} (stored : nonEmpty prospect.emailCanonical = some address) :
    (∃ later taken, solo oracle fault moment (classify deployment replyId) ⟨db, answered, false⟩ =
      (.ok (), ⟨later, taken, false⟩) ∧ OptedOut replyId reply address db later) ∧
    ∀ call ∈ soloCalls oracle fault moment (classify deployment replyId) ⟨db, answered, false⟩,
      call.consultsModel = false := by
  refine ⟨?_, unassisted_classify replied text asking found named⟩
  have routed : decided deployment.platform body reply.agenticExchanges
      (.error ⟨.other, "no answer"⟩) = .ok optOutDecision := if_pos asking
  have heeded : Heeded deployment.platform (.error ⟨.other, "no answer"⟩) db replyId reply body
      prospect tenant optOutDecision := ⟨replied, text, found, named, routed⟩
  have routes : ∀ db, Completes oracle fault moment
      (route deployment.platform body reply.agenticExchanges) db answered
      fun value later _ => value = optOutDecision ∧ later = db := by
    intro db
    unfold route
    rw [if_pos (show (deployment.platform.search unsubscribeRe body).isSome = true from asking)]
    exact completes_pure _ ⟨rfl, rfl⟩
  have idle : ¬ Answers deployment optOutDecision tenant := by
    rintro ⟨faq | signup, _⟩
    · cases faq
    · cases signup
  have run : Completes oracle fault moment (classify deployment replyId) db answered _ :=
    (ends_classify distinct ready heeded routes).completes idle
  obtain ⟨_, later, taken, ended, _, renewed, settled⟩ := run
  obtain ⟨tables, _⟩ := settled idle
  refine ⟨later, taken, ended, ?_⟩
  have outcome : addressOutcome optOutDecision prospect.emailCanonical = .suppressed address := by
    unfold addressOutcome
    rw [stored]
    rfl
  refine ⟨?_, ?_, ?_, tables.touches, ?_⟩
  · have written : later.suppressions =
        suppressing db.suppressions (some address) "unsubscribe" moment.start.clock := by
      rw [tables.suppressions]
      unfold suppressedBy
      rw [outcome]
    exact (suppressed_suppressing written).2 (Or.inl rfl)
  · rw [tables.replies, Table.lookup_modify, replied]
    simp [optOutDecision]
  · intro id row present
    refine released_of_settled tables.touches renewed.prospects tables.entities id row present
  · intro id row present absent
    have member := tables.jobs.only id row present absent
    have keys : jobKeys optOutDecision reply.prospectId prospect.emailCanonical =
        [.pause address globalScope "unsubscribe"] := by
      unfold jobKeys referralKeys pauseKeys
      rw [if_neg nofun, outcome]
      rfl
    rw [keys] at member
    exact List.mem_singleton.1 member

end OptOut

section Escalated

variable {oracle : Nat → (call : Call) → call.Answer} {fault : Exc}
variable {moment : Moment Database RowLock} {deployment : Deployment}
variable {db : Database} {answered : Nat}

/-- All that the handler has done is to record intent and confidence, to release the
sequence, to open an escalation, to record an objection and to evaluate the cohort. -/
structure OnlyRecorded (decision : RouteDecision) (replyId prospectId : Uuid)
    (db later : Database) : Prop where
  tables : ∃ objections counters audits escalations, later = { db with
    entities := releasedFor prospectId db
    replies := (notedIn db decision replyId).replies
    objections := objections, counters := counters, auditEvents := audits
    escalations := escalations }
  opened : ∃ id, db.escalations.lookup id = none ∧ (later.escalations.lookup id).isSome = true
  objections : if decision.intent = .objection then
      ∃ row, later.objections = db.objections ++ [row]
    else later.objections = db.objections

/-- Interest leaves no mark where its success counts for no variant and the prospect has
been asked for referrals before. -/
def Unmarked (db : Database) (reply : Reply) : Prop :=
  nonEmpty ((db.touches.lookup reply.touchId).bind Touch.variantId) = none ∧
    (db.jobIndex.lookup (.referral reply.prospectId)).isSome = true

theorem untouched_of_escalate {decision : RouteDecision} (escalates : decision.action = .escalate)
    (email : Option String) : addressOutcome decision email = .untouched := by
  unfold addressOutcome
  rw [escalates]

theorem onlyRecorded_of_settled {decision : RouteDecision} {replyId : Uuid} {reply : Reply}
    {email : Option String} {tenant : String} {time : Time} {later : Database}
    (escalates : decision.action = .escalate)
    (tables : Settled decision replyId reply.prospectId email tenant
      (releasedFor reply.prospectId db) (successOf decision db reply)
      (jobKeys decision reply.prospectId email) time db later) :
    OnlyRecorded decision replyId reply.prospectId db later ↔
      (decision.intent = .interested → Unmarked db reply) := by
  have outcome := untouched_of_escalate escalates email
  have keys : jobKeys decision reply.prospectId email = referralKeys decision reply.prospectId := by
    unfold jobKeys pauseKeys
    rw [outcome, List.append_nil]
  constructor
  · intro only interested
    obtain ⟨objections, counters, audits, escalations, same⟩ := only.tables
    constructor
    · cases named : nonEmpty ((db.touches.lookup reply.touchId).bind Touch.variantId) with
      | none => rfl
      | some variantId =>
          have success : successOf decision db reply = some variantId :=
            (if_pos interested).trans named
          have stats := tables.variantStats
          rw [success, same] at stats
          exact absurd stats.symm (countedSuccess_ne _ _ _)
    · have known := tables.jobs.indexed (.referral reply.prospectId) (by
        rw [keys]
        unfold referralKeys
        rw [if_pos interested]
        exact List.mem_cons_self)
      rw [same] at known
      exact known
  · intro unmarked
    have success : successOf decision db reply = none := by
      by_cases interested : decision.intent = .interested
      · exact (if_pos interested).trans (unmarked interested).1
      · exact if_neg interested
    have jobs := tables.jobs.again (by
      intro key member
      rw [keys] at member
      unfold referralKeys at member
      by_cases interested : decision.intent = .interested
      · rw [if_pos interested, List.mem_singleton] at member
        rw [member]
        exact (unmarked interested).2
      · rw [if_neg interested] at member
        exact absurd member List.not_mem_nil)
    have stats := tables.variantStats
    have prospects := tables.prospects
    have suppressions := tables.suppressions
    unfold movedBy at prospects
    unfold suppressedBy at suppressions
    rw [outcome] at prospects suppressions
    rw [success] at stats
    refine ⟨?_, tables.opened escalates, ?_⟩
    · have entities := tables.entities
      have replies := tables.replies
      obtain ⟨_, _, objections, _, _, _, _, _, counters, audits, escalations, rfl⟩ :=
        tables.untouched
      refine ⟨objections, counters, audits, escalations, ?_⟩
      dsimp only at entities replies stats prospects suppressions jobs
      rw [entities, replies, stats, prospects, suppressions, jobs.1, jobs.2]
      rfl
    · by_cases objects : decision.intent = .objection
      · rw [if_pos objects]
        exact tables.objection objects
      · rw [if_neg objects]
        exact tables.unchanged objects

/-- A reply that is escalated is dealt with in one execution, and this has no effect but
recording exactly when the model does not report interest, or its interest leaves no
mark. -/
theorem escalated_reply_frame (distinct : Distinct oracle)
    (ready : Ready deployment.platform oracle db answered) {replyId : Uuid} {reply : Reply}
    {body : List Char} {prospect : Prospect} {tenant : String} {decision : RouteDecision}
    (heeded : Heeded deployment.platform (oracle answered (.classifyReply body)) db replyId reply
      body prospect tenant decision)
    (escalates : decision.action = .escalate) :
    ∃ later taken, solo oracle fault moment (classify deployment replyId) ⟨db, answered, false⟩ =
      (.ok (), ⟨later, taken, false⟩) ∧
      (OnlyRecorded decision replyId reply.prospectId db later ↔
        (decision.intent = .interested → Unmarked db reply)) := by
  have idle : ¬ Answers deployment decision tenant := by
    rintro ⟨faq | signup, _⟩
    · rw [escalates] at faq
      cases faq
    · rw [escalates] at signup
      cases signup
  have run : Completes oracle fault moment (classify deployment replyId) db answered _ :=
    (ends_classify distinct ready heeded fun _ => completes_route rfl heeded.routed).completes idle
  obtain ⟨_, later, taken, ended, _, _, settled⟩ := run
  obtain ⟨tables, _⟩ := settled idle
  exact ⟨later, taken, ended, onlyRecorded_of_settled escalates tables⟩

end Escalated

section Sample

/-- The reply in the sample world. -/
def sampleReplyRow (body : String) : Reply where
  prospectId := 3
  touchId := 4
  body := some body.toList
  receivedAt := sampleClock

/-- The opt-out of the sample prospect, while every call of a model fails. -/
theorem sample_needs_no_model :
    (∃ later taken, solo (answering sampleOracle (.error ⟨.other, "no answer"⟩)) integrityError
      sampleMoment (classify sampleDeployment 8) ⟨repliedDatabase "Unsubscribe me.", 0, false⟩ =
        (.ok (), ⟨later, taken, false⟩) ∧
      OptedOut 8 (sampleReplyRow "Unsubscribe me.") sampleAddress
        (repliedDatabase "Unsubscribe me.") later) ∧
    ∀ call ∈ soloCalls (answering sampleOracle (.error ⟨.other, "no answer"⟩)) integrityError
      sampleMoment (classify sampleDeployment 8) ⟨repliedDatabase "Unsubscribe me.", 0, false⟩,
      call.consultsModel = false := by
  have asking : asks samplePlatform "Unsubscribe me.".toList = true := by decide +kernel
  exact @opt_out_needs_no_model (answering sampleOracle (.error ⟨.other, "no answer"⟩))
    integrityError sampleMoment sampleDeployment (repliedDatabase "Unsubscribe me.") 0
    (distinct_answering sample_distinct _) (replied_ready "Unsubscribe me." _) 8
    (sampleReplyRow "Unsubscribe me.") rfl _ rfl asking
    { sampleProspect with state := .contacted } rfl "acme" rfl sampleAddress (by decide)

/-- A model that reports hostility. -/
def hostileVerdict : Except Exc ClassifyReplyOutput :=
  .ok { intent := .hostile, confidence := 1 }

/-- What an uncertain or a hostile answer to a harmless text becomes. -/
theorem decided_harmless (output : ClassifyReplyOutput) :
    decided samplePlatform "Sounds nice.".toList 0 (.ok output) =
      .ok (routeClassified false 0 output) := by
  have silent : (samplePlatform.search unsubscribeRe "Sounds nice.".toList).isSome = false := by
    decide +kernel
  have trusted : injectionSuspects samplePlatform "Sounds nice.".toList = false := by
    decide +kernel
  unfold decided
  rw [silent, trusted, if_neg Bool.false_ne_true]
  rfl

def hostileDecision : RouteDecision := ⟨.escalate, .hostile, 1, "hostile always escalates", none⟩

def unsureDecision : RouteDecision :=
  ⟨.escalate, .interested, 1 / 2, "below confidence floor", none⟩

theorem unsure_decided :
    decided samplePlatform "Sounds nice.".toList 0 unsureInterest = .ok unsureDecision := by
  have unsure : (1 / 2 : Rat) < confidenceFloor := by decide +kernel
  refine (decided_harmless _).trans (congrArg Except.ok ?_)
  unfold routeClassified unsureDecision
  dsimp only
  rw [if_neg (by decide), if_neg (by decide), if_pos unsure]

/-- A hostile reply is only recorded. -/
theorem hostile_reply_frame :
    ∃ later taken, solo (answering sampleOracle hostileVerdict) integrityError sampleMoment
      (classify sampleDeployment 8) ⟨repliedDatabase "Sounds nice.", 0, false⟩ =
        (.ok (), ⟨later, taken, false⟩) ∧
      (OnlyRecorded hostileDecision 8 3 (repliedDatabase "Sounds nice.") later ↔
        (hostileDecision.intent = .interested →
          Unmarked (repliedDatabase "Sounds nice.") (sampleReplyRow "Sounds nice."))) := by
  have routed : decided samplePlatform "Sounds nice.".toList 0 hostileVerdict =
      .ok hostileDecision := decided_harmless _
  exact @escalated_reply_frame (answering sampleOracle hostileVerdict) integrityError sampleMoment
    sampleDeployment (repliedDatabase "Sounds nice.") 0 (distinct_answering sample_distinct _)
    (replied_ready "Sounds nice." _) 8 (sampleReplyRow "Sounds nice.") _ _ _ _
    (heeded_sample routed) rfl

/-- The model reports interest and is not sure of it. The reply is escalated, and all the
same a success is counted and a referral asked for. -/
theorem escalated_interest_counts :
    ∃ later taken, solo (answering sampleOracle unsureInterest) integrityError sampleMoment
      (classify sampleDeployment 8) ⟨repliedDatabase "Sounds nice.", 0, false⟩ =
        (.ok (), ⟨later, taken, false⟩) ∧
      unsureDecision.action = .escalate ∧
      ¬ OnlyRecorded unsureDecision 8 3 (repliedDatabase "Sounds nice.") later := by
  have heeded := heeded_sample unsure_decided
  have idle : ¬ Answers sampleDeployment unsureDecision "acme" := by
    rintro ⟨faq | signup, _⟩
    · cases faq
    · cases signup
  have run : Completes (answering sampleOracle unsureInterest) integrityError sampleMoment
      (classify sampleDeployment 8) (repliedDatabase "Sounds nice.") 0 _ :=
    (ends_classify (distinct_answering sample_distinct _) (replied_ready "Sounds nice." _) heeded
      fun _ => completes_route rfl heeded.routed).completes idle
  obtain ⟨_, later, taken, ended, _, _, settled⟩ := run
  refine ⟨later, taken, ended, rfl, fun only => ?_⟩
  have unmarked := (onlyRecorded_of_settled rfl (settled idle).1).1 only rfl
  -- the touch of the sample has a variant
  exact absurd unmarked.1 (by decide)

end Sample

end OpenReachout
