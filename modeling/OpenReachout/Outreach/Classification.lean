import OpenReachout.Outreach.Completions

/-!
# What a classification does

The classify handler on its own, table by table. Where the reply is answered, which it
is at most once, only what is read again later is said.
-/

namespace OpenReachout

open Relational Relational.Program Text

set_option autoImplicit false

variable {oracle : Nat → (call : Call) → call.Answer} {fault : Exc}
variable {moment : Moment Database RowLock} {deployment : Deployment}
variable {db : Database} {answered : Nat}

/-- What `route` decides when this is the model's answer. -/
def decided (platform : Platform) (body : List Char) (exchanges : Nat)
    (verdict : Except Exc ClassifyReplyOutput) : Except Exc RouteDecision :=
  if (platform.search unsubscribeRe body).isSome then .ok optOutDecision
  else verdict.map (routeClassified (injectionSuspects platform body) exchanges)

theorem completes_route {platform : Platform} {body : List Char} {exchanges : Nat}
    {verdict : Except Exc ClassifyReplyOutput} {decision : RouteDecision}
    (answers : oracle answered (.classifyReply body) = verdict)
    (routed : decided platform body exchanges verdict = .ok decision) :
    Completes oracle fault moment (route platform body exchanges) db answered
      fun value later _ => value = decision ∧ later = db := by
  unfold decided at routed
  unfold route
  by_cases asked : (platform.search unsubscribeRe body).isSome = true
  · rw [if_pos asked] at routed ⊢
    exact completes_pure _ ⟨Except.ok.inj routed, rfl⟩
  · rw [if_neg asked] at routed ⊢
    cases verdict with
    | error error => cases routed
    | ok output =>
        unfold attempt
        refine completes_bind (completes_bind (completes_ask _ ?_))
        rw [answers]
        exact completes_ofExcept _ (completes_pure _ ⟨Except.ok.inj routed, rfl⟩)

/-- Jobs are asked for under these keys: known ones leave the tables as they are. -/
structure JobsKeyed (keys : List JobKey) (old : Table Nat JobRow) (known : Table JobKey Nat)
    (jobs : Table Nat JobRow) (index : Table JobKey Nat) : Prop where
  indexed : ∀ key ∈ keys, (index.lookup key).isSome = true
  again : (∀ key ∈ keys, (known.lookup key).isSome = true) → jobs = old ∧ index = known
  keeps : ∀ other, (known.lookup other).isSome = true → (index.lookup other).isSome = true
  others : ∀ other, other ∉ keys → index.lookup other = known.lookup other
  only : ∀ id row, jobs.lookup id = some row → old.lookup id = none → row.idempotencyKey ∈ keys
  rows : ∀ id row, old.lookup id = some row → jobs.lookup id = some row

theorem jobs_keyed_nil (jobs : Table Nat JobRow) (index : Table JobKey Nat) :
    JobsKeyed [] jobs index jobs index :=
  ⟨nofun, fun _ => ⟨rfl, rfl⟩, fun _ known => known, fun _ _ => rfl,
    fun _ _ present absent => absurd (present.symm.trans absent) nofun, fun _ _ present => present⟩

theorem JobAsked.keyed {queue : QueueName} {payload : JobPayload} {key : JobKey}
    {old jobs : Table Nat JobRow} {known index : Table JobKey Nat}
    (asked : JobAsked queue payload key old known jobs index) :
    JobsKeyed [key] old known jobs index := by
  refine ⟨?_, ?_, asked.keys, ?_, ?_, asked.rows⟩
  · intro other member
    rw [List.mem_singleton.1 member]
    exact asked.indexed
  · intro all
    exact asked.again (all key List.mem_cons_self)
  · intro other apart
    exact asked.others other fun same => apart (List.mem_singleton.2 same)
  · intro id row present absent
    exact List.mem_singleton.2 (asked.mine id row present absent)

theorem JobsKeyed.append {first second : List JobKey} {old middle jobs : Table Nat JobRow}
    {known between index : Table JobKey Nat} (early : JobsKeyed first old known middle between)
    (late : JobsKeyed second middle between jobs index) :
    JobsKeyed (first ++ second) old known jobs index where
  indexed key member := by
    rcases List.mem_append.1 member with here | there
    · exact late.keeps key (early.indexed key here)
    · exact late.indexed key there
  again all := by
    have same := early.again fun key member => all key (List.mem_append_left _ member)
    have late_same := late.again fun key member =>
      early.keeps key (all key (List.mem_append_right _ member))
    exact ⟨late_same.1.trans same.1, late_same.2.trans same.2⟩
  keeps other before := late.keeps other (early.keeps other before)
  others other apart := by
    rw [List.mem_append, not_or] at apart
    exact (late.others other apart.2).trans (early.others other apart.1)
  only id row present absent := by
    rw [List.mem_append]
    cases found : middle.lookup id with
    | none => exact Or.inr (late.only id row present found)
    | some other =>
        have same := present.symm.trans (late.rows id other found)
        rw [Option.some.inj same]
        exact Or.inl (early.only id other found absent)
  rows id row present := late.rows id row (early.rows id row present)

/-- What a decision means for the address of the prospect. -/
inductive AddressOutcome where
  | suppressed (address : String)
  | closed (address : String)
  | untouched

def addressOutcome (decision : RouteDecision) (email : Option String) : AddressOutcome :=
  match decision.action, nonEmpty email with
  | .suppressUnsubscribe, some address => .suppressed address
  | .closePoliteSuppress, some address => .closed address
  | _, _ => .untouched

/-- The prospects once a decision has been applied. -/
def movedBy (decision : RouteDecision) (email : Option String) (prospectId : Uuid)
    (table : Table Uuid Prospect) : Table Uuid Prospect :=
  match addressOutcome decision email with
  | .suppressed _ => safelyMoved table prospectId .unsubscribed
  | .closed _ => safelyMoved table prospectId .declined
  | .untouched => table

/-- And the suppressions. -/
def suppressedBy (decision : RouteDecision) (email : Option String) (time : Time)
    (table : Table (String × String) Suppression) : Table (String × String) Suppression :=
  match addressOutcome decision email with
  | .suppressed address => suppressing table (some address) "unsubscribe" time
  | .closed address =>
      table.upsert (address, globalScope) ⟨"declined", some (addMonths 12 time), time⟩ fun row =>
        { row with expiresAt := some (addMonths 12 time), reason := "declined" }
  | .untouched => table

def pauseKeys (decision : RouteDecision) (email : Option String) : List JobKey :=
  match addressOutcome decision email with
  | .suppressed address => [.pause address globalScope "unsubscribe"]
  | _ => []

theorem same_prospects_movedBy (decision : RouteDecision) (email : Option String)
    (prospectId : Uuid) (table : Table Uuid Prospect) :
    SameProspects table (movedBy decision email prospectId table) := by
  unfold movedBy
  split
  · exact same_prospects_safelyMoved _ _ _
  · exact same_prospects_safelyMoved _ _ _
  · exact same_prospects_refl _

/-- What applying a decision leaves, but for what is not read again. -/
structure Applied (platform : Platform) (oracle : Nat → (call : Call) → call.Answer)
    (decision : RouteDecision) (email : Option String) (prospectId : Uuid) (time : Time)
    (db later : Database) (taken : Nat) : Prop where
  ready : Ready platform oracle later taken
  frame : ∃ jobs index escalations entries,
    (∀ entry ∈ entries, entry.subjectType = "prospect") ∧ later = { db with
      prospects := movedBy decision email prospectId db.prospects
      suppressions := suppressedBy decision email time db.suppressions
      jobs := jobs, jobIndex := index, escalations := escalations
      auditEvents := db.auditEvents ++ entries }
  jobs : JobsKeyed (pauseKeys decision email) db.jobs db.jobIndex later.jobs later.jobIndex
  raised : decision.action = .escalate →
    ∃ id, db.escalations.lookup id = none ∧ (later.escalations.lookup id).isSome = true
  calm : decision.action ≠ .escalate → later.escalations = db.escalations

theorem completes_applyDecision (distinct : Distinct oracle)
    (ready : Ready deployment.platform oracle db answered) (decision : RouteDecision)
    (replyId : Uuid) {prospectId : Uuid} {prospect : Prospect}
    (found : db.prospects.lookup prospectId = some prospect) (tenant : String) :
    Completes oracle fault moment
      (applyDecision deployment decision replyId prospectId prospect.emailCanonical tenant) db
      answered fun _ later taken => Applied deployment.platform oracle decision
        prospect.emailCanonical prospectId moment.start.clock db later taken := by
  unfold applyDecision
  split
  next email asks named =>
    have outcome : addressOutcome decision prospect.emailCanonical = .suppressed email := by
      unfold addressOutcome
      rw [asks, named]
    have readable := ready.canonical _ _ _ found (nonEmpty_eq_some named)
    refine completes_bind ((completes_suppress distinct ready readable "unsubscribe").mono ?_)
    rintro _ middle taken - ⟨kept, jobs, index, rfl, asked⟩
    refine Completes.mono (completes_safeTransition ?_ .unsubscribed) ?_
    · exact ⟨prospect, found⟩
    rintro _ later total - ⟨rfl, entry, subject, rfl⟩
    refine ⟨kept.of_tables (same_prospects_safelyMoved _ _ _) rfl rfl rfl rfl,
      ⟨jobs, index, db.escalations, [entry], by simpa using subject, ?_⟩, ?_, ?_, fun _ => rfl⟩
    · unfold movedBy suppressedBy
      rw [outcome]
      rfl
    · unfold pauseKeys
      rw [outcome]
      exact asked.keyed
    · rw [asks]
      exact nofun
  next email closes named =>
    have outcome : addressOutcome decision prospect.emailCanonical = .closed email := by
      unfold addressOutcome
      rw [closes, named]
    unfold cooldown
    refine completes_bind (completes_upsertRow _ _ _ _ _ ?_)
    refine Completes.mono (completes_safeTransition ?_ .declined) ?_
    · exact ⟨prospect, found⟩
    rintro _ later total - ⟨rfl, entry, subject, rfl⟩
    refine ⟨ready.of_tables (same_prospects_safelyMoved _ _ _) rfl rfl rfl rfl,
      ⟨db.jobs, db.jobIndex, db.escalations, [entry], by simpa using subject, ?_⟩, ?_, ?_,
      fun _ => rfl⟩
    · unfold movedBy suppressedBy
      rw [outcome]
    · unfold pauseKeys
      rw [outcome]
      exact jobs_keyed_nil _ _
    · rw [closes]
      exact nofun
  next escalates =>
    have outcome : addressOutcome decision prospect.emailCanonical = .untouched := by
      unfold addressOutcome
      rw [escalates]
    have fresh := ready.escalations answered (Nat.le_refl _)
    refine (completes_escalate distinct ready _ _ _ _ _).mono ?_
    rintro _ later taken - ⟨kept, rfl⟩
    refine ⟨kept, ⟨db.jobs, db.jobIndex, db.escalations.insert (oracle answered .uuid)
      ⟨some tenant, "reply", toString replyId, decision.reason,
        [("intent", .text decision.intent.text), ("confidence", .decimal decision.confidence)],
        none⟩, [], nofun, ?_⟩, ?_, ?_, fun other => absurd escalates other⟩
    · unfold movedBy suppressedBy
      rw [outcome, List.append_nil]
    · unfold pauseKeys
      rw [outcome]
      exact jobs_keyed_nil _ _
    · intro _
      refine ⟨oracle answered .uuid, fresh, ?_⟩
      exact (congrArg Option.isSome (Table.lookup_insert ..)).trans
        ((congrArg Option.isSome (if_pos rfl)).trans rfl)
  next calm asks closes =>
    have outcome : addressOutcome decision prospect.emailCanonical = .untouched := by
      unfold addressOutcome
      split
      next action named => exact (asks _ action named).elim
      next action named => exact (closes _ action named).elim
      next => rfl
    refine completes_pure _ ⟨ready, ⟨db.jobs, db.jobIndex, db.escalations, [], nofun, ?_⟩, ?_,
      fun raised => absurd raised calm, fun _ => rfl⟩
    · unfold movedBy suppressedBy
      rw [outcome, List.append_nil]
    · unfold pauseKeys
      rw [outcome]
      exact jobs_keyed_nil _ _

/-- The reply is answered, which takes its one exchange. -/
def Answers (deployment : Deployment) (decision : RouteDecision) (tenant : String) : Prop :=
  (decision.action = .answerFaq ∨ decision.action = .sendSignupLink) ∧
    (deployment.runtimes.lookup tenant).isSome = true

/-- The end of the handler. -/
def finishReply (decision : RouteDecision) (replyId : Uuid) (prospect : Prospect)
    (tenant : String) : Prog Unit := do
  if decision.intent = .objection then
    Program.appendRow Tables.objections fun _ =>
      ⟨tenant, (nonEmpty decision.objectionClass).getD "other", replyId, prospect.cohortId⟩
  maybeEvaluate tenant prospect.cohortId

theorem completes_finishReply (distinct : Distinct oracle)
    (ready : Ready deployment.platform oracle db answered) (decision : RouteDecision)
    (replyId : Uuid) (prospect : Prospect) (tenant : String) :
    Completes oracle fault moment (finishReply decision replyId prospect tenant) db answered
      fun _ later taken => Ready deployment.platform oracle later taken ∧
        (∃ counters audits escalations objections, StillThere db.escalations escalations ∧
          later = { db with
            counters := counters, auditEvents := audits, escalations := escalations
            objections := objections }) ∧
        (decision.intent ≠ .objection → later.objections = db.objections) ∧
        (decision.intent = .objection → ∃ row, later.objections = db.objections ++ [row]) ∧
        ∀ score time, (∀ index intents, oracle index (.sentiment intents) = score intents) →
          ClockReads oracle answered taken time →
          Evaluated score tenant prospect.cohortId time db later := by
  unfold finishReply
  by_cases objects : decision.intent = .objection
  · rw [if_pos objects]
    refine completes_bind (completes_appendRow _ _ ?_)
    have still : ∀ objections, Ready deployment.platform oracle
        { db with objections := objections } answered :=
      fun _ => ready.of_tables (same_prospects_refl _) rfl rfl rfl rfl
    refine (completes_maybeEvaluate distinct (still _) tenant prospect.cohortId).mono ?_
    rintro _ later taken - ⟨kept, ⟨counters, audits, escalations, there, rfl⟩, evaluated⟩
    refine ⟨kept, ⟨_, _, _, _, there, rfl⟩, fun other => absurd objects other, fun _ => ⟨_, rfl⟩, ?_⟩
    intro score time scored reads
    have all := evaluated score time scored reads
    exact ⟨all.paused, all.calm, all.noted⟩
  · rw [if_neg objects]
    refine (completes_maybeEvaluate distinct ready tenant prospect.cohortId).mono ?_
    rintro _ later taken - ⟨kept, ⟨counters, audits, escalations, there, rfl⟩, evaluated⟩
    exact ⟨kept, ⟨_, _, _, _, there, rfl⟩, fun _ => rfl, fun other => absurd other objects, evaluated⟩

/-- What an answered reply leaves for the next classification. -/
structure AnswerQueued (platform : Platform) (oracle : Nat → (call : Call) → call.Answer)
    (replyId : Uuid) (reply : Reply) (db later : Database) (taken : Nat) : Prop where
  ready : Ready platform oracle later taken
  tenants : later.tenants = db.tenants
  prospects : later.prospects = db.prospects
  reply : later.replies.lookup replyId =
    some { reply with agenticExchanges := reply.agenticExchanges + 1 }

theorem ends_queueAgenticReply {must : Prop} (spared : ¬ must) (distinct : Distinct oracle)
    (ready : Ready deployment.platform oracle db answered) (decision : RouteDecision)
    {replyId : Uuid} {reply : Reply} (replied : db.replies.lookup replyId = some reply)
    (first : reply.agenticExchanges = 0) (prospectId : Uuid) {tenant : String}
    (configured : (deployment.runtimes.lookup tenant).isSome = true) :
    Ends oracle fault moment must
      (queueAgenticReply deployment decision replyId prospectId tenant) db answered
      fun _ later taken => AnswerQueued deployment.platform oracle replyId reply db later taken := by
  obtain ⟨runtime, found⟩ := Option.isSome_iff_exists.1 configured
  unfold queueAgenticReply
  rw [found]
  dsimp only
  have chosen : (db.replies.select fun id row => id = replyId && row.agenticExchanges = 0) =
      [(replyId, reply)] := by
    rw [Table.select_key, replied]
    simp [Option.filter, first]
  refine ends_bind (ends_of_completes (completes_update _ _ _ ?_))
  have marked : ∀ touches jobs index escalations taken,
      Ready deployment.platform oracle { db with
        replies := db.replies.modify (fun id row => id = replyId && row.agenticExchanges = 0)
          fun row => { row with agenticExchanges := row.agenticExchanges + 1 }
        touches := touches, jobs := jobs, jobIndex := index, escalations := escalations } taken →
      AnswerQueued deployment.platform oracle replyId reply db { db with
        replies := db.replies.modify (fun id row => id = replyId && row.agenticExchanges = 0)
          fun row => { row with agenticExchanges := row.agenticExchanges + 1 }
        touches := touches, jobs := jobs, jobIndex := index, escalations := escalations } taken := by
    intro touches jobs index escalations taken kept
    refine ⟨kept, rfl, rfl, (Table.lookup_modify ..).trans ?_⟩
    rw [replied]
    simp [first]
  have still : ∀ touches, Ready deployment.platform oracle { db with
      replies := db.replies.modify (fun id row => id = replyId && row.agenticExchanges = 0)
        fun row => { row with agenticExchanges := row.agenticExchanges + 1 }
      touches := touches } answered := by
    intro touches
    refine ⟨ready.canonical, ?_, ready.escalations, ready.jobs, ready.classify⟩
    intro index later
    exact (Table.lookup_modify ..).trans (by rw [ready.replies index later]; rfl)
  rw [show (Tables.replies.get db).select _ = [(replyId, reply)] from chosen]
  dsimp only
  refine ends_bind (ends_of_completes (completes_query _ ?_))
  refine ends_bind (ends_of_completes (completes_ask _ ?_))
  have onward := (still db.touches).advance (Nat.le_succ answered)
  split
  next error composed =>
    split
    next refused =>
      refine ends_of_completes ((completes_escalate distinct onward _ _ _ _ _).mono ?_)
      rintro _ later taken - ⟨kept, rfl⟩
      exact marked db.touches db.jobs db.jobIndex _ taken kept
    next other => exact ends_throw spared error
  next result composed =>
    unfold queueDraft
    refine ends_bind (ends_bind (ends_of_completes (completes_ask _ ?_)))
    dsimp only
    unfold holdForReview
    refine ends_bind (ends_of_completes (completes_pure _ ?_))
    unfold insertTouch
    refine ends_bind (ends_insertRow spared _ _ _ _ _ _ fun absent => ?_)
    have further : ∀ touches, Ready deployment.platform oracle { db with
        replies := db.replies.modify (fun id row => id = replyId && row.agenticExchanges = 0)
          fun row => { row with agenticExchanges := row.agenticExchanges + 1 }
        touches := touches } (answered + 1 + 1) :=
      fun touches => (still touches).advance (Nat.le_succ_of_le (Nat.le_succ answered))
    rw [if_pos (Bool.not_false)]
    refine ends_bind (ends_of_completes ((completes_enqueue distinct (further _) _ _ _ _ _ ?_).mono ?_))
    · intro _ _
      exact nofun
    rintro _ later taken - ⟨-, kept, jobs, index, rfl, -⟩
    refine ends_of_completes (completes_pure _ (ends_of_completes (completes_pure _ ?_)))
    exact marked _ jobs index db.escalations taken kept

/-- The replies of a cohort are the same where replies, prospects and tenants are, whatever
states the prospects are in. -/
theorem classified_congr {later : Database} (replies : later.replies = db.replies)
    (prospects : SameProspects db.prospects later.prospects)
    (tenants : later.tenants = db.tenants) (tenant cohortId : String) :
    classified later tenant cohortId = classified db tenant cohortId := by
  have same : ∀ id, (later.prospects.lookup id).any (fun prospect =>
        prospect.cohortId = cohortId && db.tenants.lookup prospect.tenantId = some tenant) =
      (db.prospects.lookup id).any (fun prospect =>
        prospect.cohortId = cohortId && db.tenants.lookup prospect.tenantId = some tenant) := by
    intro id
    have equal := prospects id
    cases after : later.prospects.lookup id with
    | none =>
        rw [after] at equal
        rw [Option.map_eq_none_iff.1 equal.symm]
    | some row =>
        rw [after, Option.map_some] at equal
        obtain ⟨old, found, alike⟩ := Option.map_eq_some_iff.1 equal.symm
        have cohort := congrArg Prospect.cohortId alike
        have owner := congrArg Prospect.tenantId alike
        rw [found, Option.any_some, Option.any_some,
          show old.cohortId = row.cohortId from cohort, show old.tenantId = row.tenantId from owner]
  unfold classified
  rw [replies, tenants]
  simp only [same]

theorem sours_congr {later : Database} (replies : later.replies = db.replies)
    (prospects : SameProspects db.prospects later.prospects)
    (tenants : later.tenants = db.tenants) (score : List Intent → Rat) (tenant cohortId : String) :
    Sours score later tenant cohortId ↔ Sours score db tenant cohortId := by
  unfold Sours recentIntents
  rw [classified_congr replies prospects tenants]

/-- What the sentiment check and an escalation leave, going by the replies as they are
afterwards. -/
structure Judged (score : List Intent → Rat) (decision : RouteDecision) (tenant cohortId : String)
    (time : Time) (db later : Database) : Prop where
  raised : decision.action = .escalate ∨
      Sours score later tenant cohortId ∧ pausedIn db cohortId (monthOf time) = false →
    ∃ id, db.escalations.lookup id = none ∧ (later.escalations.lookup id).isSome = true
  calm : decision.action ≠ .escalate →
    ¬ (Sours score later tenant cohortId ∧ pausedIn db cohortId (monthOf time) = false) →
    later.escalations = db.escalations
  noted : ∀ period, pausedIn later cohortId period = true ↔
    pausedIn db cohortId period = true ∨ Sours score later tenant cohortId ∧
      alreadyActed.periodField period = alreadyActed.periodField (monthOf time)

theorem pausedIn_entries (db later : Database) (cohortId : String) (entries : List AuditEvent)
    (subjects : ∀ entry ∈ entries, entry.subjectType = "prospect")
    (audits : later.auditEvents = db.auditEvents ++ entries) (period : Period) :
    pausedIn later cohortId period = pausedIn db cohortId period := by
  have others : (entries.any fun row => row.subjectType = "cohort" && row.subjectId = cohortId &&
      row.event = "sentiment_pause" &&
      row.payload.lookup "period" = some (alreadyActed.periodField period)) = false := by
    rw [List.any_eq_false]
    intro entry member
    simp [subjects entry member]
  unfold pausedIn alreadyActed
  rw [audits, List.any_append, others, Bool.or_false]

/-- The check comes after the decision has been applied. -/
theorem judged_of_evaluated {score : List Intent → Rat} {decision : RouteDecision}
    {tenant cohortId : String} {time : Time} {middle later : Database}
    (evaluated : Evaluated score tenant cohortId time middle later)
    (replies : later.replies = middle.replies)
    (prospects : SameProspects middle.prospects later.prospects)
    (tenants : later.tenants = middle.tenants)
    (noted : ∀ period, pausedIn middle cohortId period = pausedIn db cohortId period)
    (raised : decision.action = .escalate →
      ∃ id, db.escalations.lookup id = none ∧ (middle.escalations.lookup id).isSome = true)
    (calm : decision.action ≠ .escalate → middle.escalations = db.escalations)
    (there : StillThere middle.escalations later.escalations) :
    Judged score decision tenant cohortId time db later := by
  have sours := sours_congr replies prospects tenants score tenant cohortId
  refine ⟨?_, ?_, ?_⟩
  · intro cause
    by_cases escalates : decision.action = .escalate
    · obtain ⟨id, absent, present⟩ := raised escalates
      exact ⟨id, absent, there id present⟩
    · rcases cause with escalated | ⟨sour, open_⟩
      · exact absurd escalated escalates
      · rw [← calm escalates]
        exact evaluated.paused (sours.1 sour) ((noted _).trans open_)
  · intro quiet well
    rw [← calm quiet]
    apply evaluated.calm
    rintro ⟨sour, open_⟩
    exact well ⟨sours.2 sour, (noted _).symm.trans open_⟩
  · intro period
    rw [evaluated.noted, noted, sours]

def countedSuccess (stats : Table (String × String) VariantStats) (tenant : String)
    (variant : Option String) : Table (String × String) VariantStats :=
  match variant with
  | some variantId => stats.upsert (tenant, variantId) { successes := 1 }
      fun row => { row with successes := row.successes + 1 }
  | none => stats

/-- The tables that a classification leaves alone, where the reply is not answered. -/
def Untouched (db later : Database) : Prop :=
  ∃ entities variantStats objections replies prospects suppressions jobs index counters audits
    escalations, later = { db with
      entities := entities, variantStats := variantStats, objections := objections
      replies := replies, prospects := prospects, suppressions := suppressions, jobs := jobs
      jobIndex := index, counters := counters, auditEvents := audits, escalations := escalations }

theorem Untouched.of_interest {db later : Database} {entities : Table Uuid Entity}
    {stats : Table (String × String) VariantStats} {jobs : Table Nat JobRow}
    {index : Table JobKey Nat}
    (untouched : Untouched { db with
      entities := entities, variantStats := stats, jobs := jobs, jobIndex := index } later) :
    Untouched db later := by
  obtain ⟨_, _, _, _, _, _, _, _, _, _, _, rfl⟩ := untouched
  exact ⟨_, _, _, _, _, _, _, _, _, _, _, rfl⟩

/-- The tables as a classification leaves them, where the reply is not answered. -/
structure Settled (decision : RouteDecision) (replyId prospectId : Uuid) (email : Option String)
    (tenant : String) (entities : Table Uuid Entity) (variant : Option String)
    (keys : List JobKey) (time : Time) (db later : Database) : Prop where
  untouched : Untouched db later
  entities : later.entities = entities
  touches : later.touches = db.touches
  variantStats : later.variantStats = countedSuccess db.variantStats tenant variant
  unchanged : decision.intent ≠ .objection → later.objections = db.objections
  objection : decision.intent = .objection → ∃ row, later.objections = db.objections ++ [row]
  replies : later.replies = db.replies.modify (fun id _ => id = replyId) fun row =>
    { row with intent := some decision.intent, confidence := some decision.confidence }
  prospects : later.prospects = movedBy decision email prospectId db.prospects
  suppressions : later.suppressions = suppressedBy decision email time db.suppressions
  opened : decision.action = .escalate →
    ∃ id, db.escalations.lookup id = none ∧ (later.escalations.lookup id).isSome = true
  jobs : JobsKeyed keys db.jobs db.jobIndex later.jobs later.jobIndex

/-- What every classification leaves for the next one. -/
structure Renewed (deployment : Deployment) (oracle : Nat → (call : Call) → call.Answer)
    (decision : RouteDecision) (replyId : Uuid) (reply : Reply) (tenant : String)
    (db later : Database) (taken : Nat) : Prop where
  ready : Ready deployment.platform oracle later taken
  tenants : later.tenants = db.tenants
  prospects : SameProspects db.prospects later.prospects
  reply : ∃ count, later.replies.lookup replyId = some { reply with
      intent := some decision.intent, confidence := some decision.confidence
      agenticExchanges := count } ∧
    (Answers deployment decision tenant → count = reply.agenticExchanges + 1) ∧
    (¬ Answers deployment decision tenant → count = reply.agenticExchanges)

/-- The handler once the decision has been made and interest been noted. -/
def recordReply (deployment : Deployment) (decision : RouteDecision) (replyId : Uuid)
    (prospectId : Uuid) (prospect : Prospect) (tenant : String) : Prog Unit := do
  let _ ← Program.update Tables.replies (fun _ _ id _ => id = replyId) fun _ row =>
    { row with intent := some decision.intent, confidence := some decision.confidence }
  applyDecision deployment decision replyId prospectId prospect.emailCanonical tenant
  if decision.action = .answerFaq ∨ decision.action = .sendSignupLink then
    queueAgenticReply deployment decision replyId prospectId tenant
  finishReply decision replyId prospect tenant

theorem completes_agentic_idle {decision : RouteDecision} {tenant : String}
    (idle : ¬ Answers deployment decision tenant) {replyId prospectId : Uuid}
    (rest : Prog Unit) {post : Unit → Database → Nat → Prop}
    (onward : Completes oracle fault moment rest db answered post) :
    Completes oracle fault moment
      (if decision.action = .answerFaq ∨ decision.action = .sendSignupLink then do
        queueAgenticReply deployment decision replyId prospectId tenant
        rest
      else rest) db answered post := by
  by_cases outbound : decision.action = .answerFaq ∨ decision.action = .sendSignupLink
  · rw [if_pos outbound]
    have unknown : deployment.runtimes.lookup tenant = none := by
      rw [← Option.not_isSome_iff_eq_none]
      exact fun configured => idle ⟨outbound, configured⟩
    unfold queueAgenticReply
    rw [unknown]
    exact completes_bind (completes_pure _ onward)
  · rw [if_neg outbound]
    exact onward

theorem ends_recordReply {tenant : String} (distinct : Distinct oracle)
    (ready : Ready deployment.platform oracle db answered) {decision : RouteDecision}
    {replyId : Uuid} {reply : Reply} (replied : db.replies.lookup replyId = some reply)
    (first : Answers deployment decision tenant → reply.agenticExchanges = 0)
    {prospectId : Uuid} {prospect : Prospect}
    (found : db.prospects.lookup prospectId = some prospect) :
    Ends oracle fault moment (¬ Answers deployment decision tenant)
      (recordReply deployment decision replyId prospectId prospect tenant) db answered
      fun _ later taken => Renewed deployment oracle decision replyId reply tenant db later taken ∧
        (¬ Answers deployment decision tenant →
          Settled decision replyId prospectId prospect.emailCanonical tenant db.entities none
            (pauseKeys decision prospect.emailCanonical) moment.start.clock db later ∧
          ∀ score time, (∀ index intents, oracle index (.sentiment intents) = score intents) →
            ClockReads oracle answered taken time →
            Judged score decision tenant prospect.cohortId time db later) := by
  unfold recordReply
  refine ends_bind (ends_of_completes (completes_update _ _ _ ?_))
  have still : Ready deployment.platform oracle { db with
      replies := db.replies.modify (fun id _ => id = replyId) fun row =>
        { row with intent := some decision.intent, confidence := some decision.confidence } }
      answered := by
    refine ⟨ready.canonical, ?_, ready.escalations, ready.jobs, ready.classify⟩
    intro index later
    exact (Table.lookup_modify ..).trans (by rw [ready.replies index later]; rfl)
  have marked : (db.replies.modify (fun id _ => id = replyId) fun row =>
      { row with intent := some decision.intent, confidence := some decision.confidence }).lookup
        replyId = some { reply with
          intent := some decision.intent, confidence := some decision.confidence } := by
    rw [Table.lookup_modify, replied]
    simp
  refine ends_bind (ends_of_completes
    ((completes_applyDecision distinct still decision replyId ?_ tenant).mono ?_))
  · exact found
  rintro _ middle taken counted ⟨kept, ⟨jobs, index, escalations, entries, subjects, rfl⟩, keyed,
    raised, calm⟩
  by_cases answers : Answers deployment decision tenant
  · rw [if_pos answers.1]
    refine ends_bind ((ends_queueAgenticReply (not_not_intro answers) distinct kept decision marked
      (first answers) prospectId answers.2).mono ?_)
    rintro _ next total _ queued
    refine ends_of_completes ((completes_finishReply distinct queued.ready decision replyId prospect
      tenant).mono ?_)
    rintro _ later last - ⟨ready, ⟨_, _, _, _, _, rfl⟩, _⟩
    refine ⟨⟨ready, queued.tenants, ?_, _, queued.reply, fun _ => rfl,
      fun other => absurd answers other⟩, fun other => absurd answers other⟩
    rw [queued.prospects]
    exact same_prospects_movedBy _ _ _ _
  · refine ends_of_completes (completes_agentic_idle answers _ ?_)
    refine (completes_finishReply distinct kept decision replyId prospect tenant).mono ?_
    rintro _ later last further ⟨ready, ⟨counters, audits, escalated, objections, there, rfl⟩, unchanged,
      objection, evaluated⟩
    refine ⟨⟨ready, rfl, same_prospects_movedBy _ _ _ _, _, marked, fun other => absurd other answers,
      fun _ => rfl⟩, fun _ => ⟨⟨⟨_, _, _, _, _, _, _, _, _, _, _, rfl⟩, rfl, rfl, rfl, unchanged, objection, rfl, rfl, rfl, fun escalates => ?_, keyed⟩, ?_⟩⟩
    · obtain ⟨id, absent, present⟩ := raised escalates
      exact ⟨id, absent, there id present⟩
    intro score time scored reads
    exact judged_of_evaluated (evaluated score time scored (reads.within counted (Nat.le_refl _)))
      rfl (same_prospects_refl _) rfl (pausedIn_entries _ _ _ _ subjects rfl) raised calm there

/-- An exchange is only left where none has been had. -/
theorem exchange_left {platform : Platform} {body : List Char} {exchanges : Nat}
    {verdict : Except Exc ClassifyReplyOutput} {decision : RouteDecision}
    (routed : decided platform body exchanges verdict = .ok decision)
    (outbound : decision.action.outbound = true) : exchanges = 0 := by
  unfold decided at routed
  split at routed
  · obtain rfl := Except.ok.inj routed
    cases outbound
  · cases verdict with
    | error error => cases routed
    | ok output =>
        obtain rfl := Except.ok.inj routed
        unfold routeClassified at outbound
        dsimp only at outbound
        split_ifs at outbound with suspected hostile unsure capped refused
        · cases outbound
        · cases outbound
        · cases outbound
        · cases outbound
        · cases outbound
        · rw [Bool.and_eq_true, not_and] at capped
          have open_ := capped outbound
          rw [decide_eq_true_eq] at open_
          unfold maxAgenticExchanges at open_
          omega

theorem outbound_of_answers {decision : RouteDecision} {tenant : String}
    (answers : Answers deployment decision tenant) : decision.action.outbound = true := by
  rcases answers.1 with faq | signup
  · rw [faq]
    rfl
  · rw [signup]
    rfl

/-- The variant whose success the reply is. -/
def successOf (decision : RouteDecision) (db : Database) (reply : Reply) : Option String :=
  if decision.intent = .interested then
    nonEmpty ((db.touches.lookup reply.touchId).bind Touch.variantId)
  else none

def referralKeys (decision : RouteDecision) (prospectId : Uuid) : List JobKey :=
  if decision.intent = .interested then [.referral prospectId] else []

/-- The keys of the jobs that a decision asks for, whatever it answers. -/
def jobKeys (decision : RouteDecision) (prospectId : Uuid) (email : Option String) : List JobKey :=
  referralKeys decision prospectId ++ pauseKeys decision email

/-- The reply is there to be classified, and this is what will be decided. -/
structure Heeded (platform : Platform) (verdict : Except Exc ClassifyReplyOutput) (db : Database)
    (replyId : Uuid) (reply : Reply) (body : List Char) (prospect : Prospect) (tenant : String)
    (decision : RouteDecision) : Prop where
  replied : db.replies.lookup replyId = some reply
  text : reply.body = some body
  found : db.prospects.lookup reply.prospectId = some prospect
  named : db.tenants.lookup prospect.tenantId = some tenant
  routed : decided platform body reply.agenticExchanges verdict = .ok decision

/-- The entities once the sequence of the prospect has been released. -/
def releasedFor (prospectId : Uuid) (db : Database) : Table Uuid Entity :=
  db.entities.modify (fun id row => ownsSequence db prospectId id row)
    fun row => { row with activeSequenceTouchId := none }

theorem ends_classify (distinct : Distinct oracle)
    (ready : Ready deployment.platform oracle db answered)
    {verdict : Except Exc ClassifyReplyOutput} {replyId : Uuid} {reply : Reply} {body : List Char}
    {prospect : Prospect} {tenant : String} {decision : RouteDecision}
    (heeded : Heeded deployment.platform verdict db replyId reply body prospect tenant decision)
    (routes : ∀ db, Completes oracle fault moment
      (route deployment.platform body reply.agenticExchanges) db answered
      fun value later _ => value = decision ∧ later = db) :
    Ends oracle fault moment (¬ Answers deployment decision tenant) (classify deployment replyId) db
      answered fun _ later taken =>
        Renewed deployment oracle decision replyId reply tenant db later taken ∧
        (¬ Answers deployment decision tenant →
          Settled decision replyId reply.prospectId prospect.emailCanonical tenant
            (releasedFor reply.prospectId db) (successOf decision db reply)
            (jobKeys decision reply.prospectId prospect.emailCanonical) moment.start.clock db later ∧
          ∀ score time, (∀ index intents, oracle index (.sentiment intents) = score intents) →
            ClockReads oracle answered taken time →
            Judged score decision tenant prospect.cohortId time db later) := by
  have first : Answers deployment decision tenant → reply.agenticExchanges = 0 :=
    fun answered => exchange_left heeded.routed (outbound_of_answers answered)
  unfold classify
  refine ends_bind (ends_of_completes (completes_query _ ?_))
  rw [heeded.replied, Option.bind_some, heeded.found, Option.bind_some, heeded.named,
    Option.map_some]
  dsimp only
  rw [heeded.text]
  dsimp only
  unfold releaseSequence
  refine ends_bind (ends_bind (ends_of_completes (completes_update _ _ _
    (ends_of_completes (completes_pure _ ?_)))))
  refine ends_bind (ends_of_completes ((routes _).mono ?_))
  rintro chosen current taken counted ⟨made, unmoved⟩
  rw [made, unmoved]
  -- what is left to do, from any state that interest may have led to
  have record : ∀ stats jobs index taken, answered ≤ taken →
      Ready deployment.platform oracle { db with
        entities := releasedFor reply.prospectId db, variantStats := stats, jobs := jobs
        jobIndex := index } taken →
      stats = countedSuccess db.variantStats tenant (successOf decision db reply) →
      JobsKeyed (referralKeys decision reply.prospectId) db.jobs db.jobIndex jobs index →
      Ends oracle fault moment (¬ Answers deployment decision tenant)
        (recordReply deployment decision replyId reply.prospectId prospect tenant) { db with
          entities := releasedFor reply.prospectId db, variantStats := stats, jobs := jobs
          jobIndex := index } taken
        fun _ later total => Renewed deployment oracle decision replyId reply tenant db later total ∧
          (¬ Answers deployment decision tenant →
            Settled decision replyId reply.prospectId prospect.emailCanonical tenant
              (releasedFor reply.prospectId db) (successOf decision db reply)
              (jobKeys decision reply.prospectId prospect.emailCanonical) moment.start.clock db
              later ∧
            ∀ score time, (∀ index intents, oracle index (.sentiment intents) = score intents) →
              ClockReads oracle answered total time →
              Judged score decision tenant prospect.cohortId time db later) := by
    intro stats jobs index taken counted kept success keyed
    refine (ends_recordReply distinct kept heeded.replied first heeded.found).mono ?_
    rintro _ later total _ ⟨renewed, settled⟩
    refine ⟨⟨renewed.ready, renewed.tenants, renewed.prospects, renewed.reply⟩, ?_⟩
    intro idle
    obtain ⟨tables, judged⟩ := settled idle
    refine ⟨⟨tables.untouched.of_interest, tables.entities, tables.touches, ?_, tables.unchanged, tables.objection, tables.replies,
      tables.prospects, tables.suppressions, tables.opened, keyed.append tables.jobs⟩, ?_⟩
    · rw [tables.variantStats, ← success]
      rfl
    · intro score time scored reads
      have verdict := judged score time scored (reads.within counted (Nat.le_refl _))
      exact ⟨verdict.raised, verdict.calm, verdict.noted⟩
  by_cases interested : decision.intent = .interested
  · rw [if_pos interested]
    have success : successOf decision db reply =
        nonEmpty ((db.touches.lookup reply.touchId).bind Touch.variantId) := if_pos interested
    have keys : referralKeys decision reply.prospectId = [.referral reply.prospectId] :=
      if_pos interested
    have refer : ∀ stats, stats = countedSuccess db.variantStats tenant
          (successOf decision db reply) →
        Ends oracle fault moment (¬ Answers deployment decision tenant)
          (do
            let _ ← enqueue .referral (.prospect reply.prospectId) (.referral reply.prospectId)
            recordReply deployment decision replyId reply.prospectId prospect tenant)
          { db with entities := releasedFor reply.prospectId db, variantStats := stats } taken
          fun _ later total =>
            Renewed deployment oracle decision replyId reply tenant db later total ∧
            (¬ Answers deployment decision tenant →
              Settled decision replyId reply.prospectId prospect.emailCanonical tenant
                (releasedFor reply.prospectId db) (successOf decision db reply)
                (jobKeys decision reply.prospectId prospect.emailCanonical) moment.start.clock db
                later ∧
              ∀ score time, (∀ index intents, oracle index (.sentiment intents) = score intents) →
                ClockReads oracle answered total time →
                Judged score decision tenant prospect.cohortId time db later) := by
      intro stats counts
      have still : Ready deployment.platform oracle
          { db with entities := releasedFor reply.prospectId db, variantStats := stats } taken :=
        (ready.advance counted).of_tables (same_prospects_refl _) rfl rfl rfl rfl
      have apart : ∀ index, taken ≤ index →
          JobKey.referral reply.prospectId ≠ .classify (oracle index .uuid) :=
        fun _ _ => nofun
      refine ends_bind (ends_of_completes
        ((completes_enqueue distinct still _ _ _ _ _ apart).mono ?_))
      rintro _ middle total further ⟨-, kept, jobs, index, rfl, asked⟩
      refine record stats jobs index total (Nat.le_trans counted further) kept counts ?_
      rw [keys]
      exact asked.keyed
    refine ends_bind (ends_of_completes (completes_query _ ?_))
    cases named : nonEmpty ((db.touches.lookup reply.touchId).bind Touch.variantId) with
    | some variantId =>
        unfold recordSuccess countUp
        refine ends_bind (ends_of_completes (completes_upsertRow _ _ _ _ _ ?_))
        apply refer
        rw [success, named]
        rfl
    | none =>
        apply refer
        rw [success, named]
        rfl
  · rw [if_neg interested]
    have success : successOf decision db reply = none := if_neg interested
    have keys : referralKeys decision reply.prospectId = [] := if_neg interested
    refine record db.variantStats db.jobs db.jobIndex taken counted ?_ ?_ ?_
    · exact (ready.advance counted).of_tables (same_prospects_refl _) rfl rfl rfl rfl
    · rw [success]
      rfl
    · rw [keys]
      exact jobs_keyed_nil _ _

end OpenReachout
