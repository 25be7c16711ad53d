import OpenReachout.Outreach.Classification
import OpenReachout.Properties.OptOuts

/-!
# A classification that is executed again

A worker that dies between the commit of its handler and `queue.complete` leaves a job
that is leased once more. The second execution of a classify job leaves the tables as
they are exactly when the first one counted, recorded, raised and answered nothing.
-/

namespace OpenReachout

open Relational Relational.Program Text

set_option autoImplicit false

/-- A suppression without the times at which it was written and runs out. -/
def Suppression.undated (row : Suppression) : String × Bool := (row.reason, row.expiresAt.isSome)

/-- The second execution has left these tables as the first one did. -/
structure SameEffects (once twice : Database) : Prop where
  variantStats : twice.variantStats = once.variantStats
  objections : twice.objections = once.objections
  escalations : twice.escalations = once.escalations
  suppressions : ∀ key, (twice.suppressions.lookup key).map Suppression.undated =
    (once.suppressions.lookup key).map Suppression.undated
  touches : twice.touches = once.touches
  jobs : twice.jobs = once.jobs
  prospects : twice.prospects = once.prospects

/-- The times of the suppressions included. -/
def SameToTheDate (once twice : Database) : Prop :=
  SameEffects once twice ∧
    ∀ key, twice.suppressions.lookup key = once.suppressions.lookup key

/-- The second execution writes another time into a suppression. -/
def Restamps (decision : RouteDecision) (email : Option String) (first second : Time) : Prop :=
  match addressOutcome decision email with
  | .suppressed _ => second ≠ first
  | .closed _ => addMonths 12 second ≠ addMonths 12 first
  | .untouched => False

theorem not_mem_transitions_self (state : ProspectState) : state ∉ transitions state := by
  cases state <;> decide

/-- A second attempt at the same transition comes to nothing. -/
theorem safelyMoved_again (table : Table Uuid Prospect) (prospectId : Uuid)
    (target : ProspectState) :
    safelyMoved (safelyMoved table prospectId target) prospectId target =
      safelyMoved table prospectId target := by
  cases found : table.lookup prospectId with
  | none =>
      have unmoved : safelyMoved table prospectId target = table := by
        unfold safelyMoved
        rw [found]
      rw [unmoved, unmoved]
  | some row =>
      by_cases legal : target ∈ transitions row.state
      · rw [safelyMoved_of_legal found legal]
        have present : (table.modify (fun id _ => id = prospectId) fun row =>
            { row with state := target }).lookup prospectId = some { row with state := target } := by
          rw [Table.lookup_modify, found]
          simp
        exact safelyMoved_of_illegal present (not_mem_transitions_self target)
      · rw [safelyMoved_of_illegal found legal, safelyMoved_of_illegal found legal]

theorem movedBy_again (decision : RouteDecision) (email : Option String) (prospectId : Uuid)
    (table : Table Uuid Prospect) :
    movedBy decision email prospectId (movedBy decision email prospectId table) =
      movedBy decision email prospectId table := by
  unfold movedBy
  cases addressOutcome decision email with
  | suppressed address => exact safelyMoved_again _ _ _
  | closed address => exact safelyMoved_again _ _ _
  | untouched => rfl

theorem suppressedBy_undated (decision : RouteDecision) (email : Option String)
    (first second : Time) (table : Table (String × String) Suppression) (key : String × String) :
    ((suppressedBy decision email second (suppressedBy decision email first table)).lookup key).map
        Suppression.undated =
      ((suppressedBy decision email first table).lookup key).map Suppression.undated := by
  unfold suppressedBy
  cases addressOutcome decision email with
  | suppressed address =>
      simp only [suppressing, Table.lookup_upsert]
      by_cases same : key = (address, globalScope)
      · subst same
        cases table.lookup (address, globalScope) <;> simp [Suppression.undated]
      · simp [same]
  | closed address =>
      simp only [Table.lookup_upsert]
      by_cases same : key = (address, globalScope)
      · subst same
        cases table.lookup (address, globalScope) <;> simp [Suppression.undated]
      · simp [same]
  | untouched => rfl

theorem suppressedBy_dated (decision : RouteDecision) (email : Option String)
    (first second : Time) (table : Table (String × String) Suppression) :
    (∀ key, (suppressedBy decision email second (suppressedBy decision email first table)).lookup
        key = (suppressedBy decision email first table).lookup key) ↔
      ¬ Restamps decision email first second := by
  unfold suppressedBy Restamps
  cases addressOutcome decision email with
  | suppressed address =>
      simp only [suppressing, Table.lookup_upsert, not_not]
      constructor
      · intro same
        have here := same (address, globalScope)
        cases found : table.lookup (address, globalScope) with
        | none => simpa [found] using here
        | some row => simpa [found] using here
      · rintro rfl key
        by_cases same : key = (address, globalScope)
        · subst same
          cases table.lookup (address, globalScope) <;> simp
        · simp [same]
  | closed address =>
      simp only [Table.lookup_upsert, not_not]
      constructor
      · intro same
        have here := same (address, globalScope)
        cases found : table.lookup (address, globalScope) with
        | none => simpa [found] using here
        | some row => simpa [found] using here
      · intro equal key
        by_cases same : key = (address, globalScope)
        · subst same
          cases table.lookup (address, globalScope) <;> simp [equal]
        · simp [same]
  | untouched => simp

/-- A variant whose success is counted has one more of them. -/
theorem countedSuccess_ne (stats : Table (String × String) VariantStats)
    (tenant variantId : String) :
    countedSuccess stats tenant (some variantId) ≠ stats := by
  intro same
  have counts := congrArg (fun table => (table.lookup (tenant, variantId)).map
    VariantStats.successes) same
  simp only [countedSuccess, Table.lookup_upsert] at counts
  cases found : stats.lookup (tenant, variantId) with
  | none => simp [found] at counts
  | some row => simp [found] at counts

theorem modify_again {Key Row : Type} (table : Table Key Row) (chosen : Key → Row → Bool)
    (change : Row → Row) (settles : ∀ row, change (change row) = change row)
    (stays : ∀ key row, chosen key (change row) = chosen key row) :
    (table.modify chosen change).modify chosen change = table.modify chosen change := by
  apply Table.ext_rows
  simp only [Table.modify, List.map_map]
  apply List.map_congr_left
  intro entry _
  by_cases picked : chosen entry.1 entry.2 = true
  · simp [picked, stays, settles]
  · simp [picked]

section Rerun

variable {oracle : Nat → (call : Call) → call.Answer} {fault : Exc}
variable {first second : Moment Database RowLock} {deployment : Deployment}

/-- The state with the decision on the reply. -/
def notedIn (db : Database) (decision : RouteDecision) (replyId : Uuid) : Database :=
  { db with replies := db.replies.modify (fun id _ => id = replyId) fun row =>
      { row with intent := some decision.intent, confidence := some decision.confidence } }

/-- The first execution has counted no success, recorded no objection, escalated nothing
and answered nothing, and the sentiment check pauses the cohort no second time. -/
structure Repeatable (deployment : Deployment) (score : List Intent → Rat) (early late : Time)
    (db : Database) (replyId : Uuid) (reply : Reply) (prospect : Prospect) (tenant : String)
    (decision : RouteDecision) : Prop where
  success : successOf decision db reply = none
  objection : decision.intent ≠ .objection
  escalation : decision.action ≠ .escalate
  answer : ¬ Answers deployment decision tenant
  pause : ¬ (Sours score (notedIn db decision replyId) tenant prospect.cohortId ∧
    pausedIn db prospect.cohortId (monthOf late) = false ∧
    alreadyActed.periodField (monthOf late) ≠ alreadyActed.periodField (monthOf early))

/-- The handler is executed again, and the tables are as it left them before. -/
def Repeats (oracle : Nat → (call : Call) → call.Answer) (fault : Exc)
    (second : Moment Database RowLock) (deployment : Deployment) (replyId : Uuid)
    (same : Database → Database → Prop) (once : Database) (taken : Nat) : Prop :=
  ∃ twice total, solo oracle fault second (classify deployment replyId) ⟨once, taken, false⟩ =
    (.ok (), ⟨twice, total, false⟩) ∧ same once twice

/-- A reply that is there is classified again in the light of the first time. -/
theorem heeded_again {platform : Platform} {verdict : Except Exc ClassifyReplyOutput}
    {db once : Database} {replyId : Uuid} {reply : Reply} {body : List Char} {prospect : Prospect}
    {tenant : String} {decision : RouteDecision} {taken : Nat}
    (heeded : Heeded platform verdict db replyId reply body prospect tenant decision)
    (renewed : Renewed deployment oracle decision replyId reply tenant db once taken)
    {again : RouteDecision} {count : Nat}
    (found : once.replies.lookup replyId = some { reply with
      intent := some decision.intent, confidence := some decision.confidence
      agenticExchanges := count })
    (routed : decided platform body count verdict = .ok again) :
    ∃ row, row.stateless = prospect.stateless ∧ Heeded platform verdict once replyId
      { reply with
        intent := some decision.intent, confidence := some decision.confidence
        agenticExchanges := count } body row tenant again := by
  obtain ⟨row, present, alike⟩ := renewed.prospects.found heeded.found
  have owner := congrArg Prospect.tenantId alike
  refine ⟨row, alike, found, heeded.text, present, ?_, routed⟩
  rw [renewed.tenants, show row.tenantId = prospect.tenantId from owner]
  exact heeded.named

/-- Once the exchange has been had, the same verdict escalates. -/
theorem capped_again {platform : Platform} {body : List Char} {verdict : Except Exc ClassifyReplyOutput}
    {decision : RouteDecision} (routed : decided platform body 0 verdict = .ok decision)
    (outbound : decision.action.outbound = true) :
    ∃ again, decided platform body 1 verdict = .ok again ∧ again.action = .escalate := by
  unfold decided at routed ⊢
  split at routed
  · obtain rfl := Except.ok.inj routed
    cases outbound
  next silent =>
    rw [if_neg silent]
    cases verdict with
    | error error => cases routed
    | ok output =>
        refine ⟨_, rfl, ?_⟩
        obtain rfl := Except.ok.inj routed
        unfold routeClassified at outbound ⊢
        dsimp only at outbound ⊢
        split_ifs at outbound ⊢ with suspected hostile unsure capped refused
        all_goals first
          | rfl
          | cases outbound
          | simp_all [maxAgenticExchanges]

/-- What the tables say once both executions have gone the same way. -/
theorem same_effects_iff {decision : RouteDecision} {replyId prospectId : Uuid}
    {email : Option String} {tenant : String} {first second : Table Uuid Entity} {variant : Option String} {keys : List JobKey}
    {early late : Time} {db once twice : Database}
    (before : Settled decision replyId prospectId email tenant first variant keys early db once)
    (after : Settled decision replyId prospectId email tenant second variant keys late once twice) :
    (SameEffects once twice ↔ variant = none ∧ decision.intent ≠ .objection ∧
      twice.escalations = once.escalations) ∧
    ((∀ key, twice.suppressions.lookup key = once.suppressions.lookup key) ↔
      ¬ Restamps decision email early late) := by
  refine ⟨⟨?_, ?_⟩, ?_⟩
  · intro same
    refine ⟨?_, ?_, same.escalations⟩
    · cases counted : variant with
      | none => rfl
      | some variantId =>
          subst counted
          have stats := same.variantStats
          rw [after.variantStats, before.variantStats] at stats
          exact absurd stats (countedSuccess_ne _ _ _)
    · intro objects
      obtain ⟨row, appended⟩ := after.objection objects
      have lengths := congrArg List.length (appended.symm.trans same.objections)
      simp at lengths
  · rintro ⟨uncounted, quiet, escalations⟩
    refine ⟨?_, after.unchanged quiet, escalations, ?_, after.touches, ?_, ?_⟩
    · rw [after.variantStats, uncounted]
      rfl
    · intro key
      rw [after.suppressions, before.suppressions]
      exact suppressedBy_undated _ _ _ _ _ _
    · exact (after.jobs.again before.jobs.indexed).1
    · rw [after.prospects, before.prospects]
      exact movedBy_again _ _ _ _
  · rw [after.suppressions, before.suppressions]
    exact suppressedBy_dated _ _ _ _ _

/-- Both executions look at the same replies of the cohort. -/
theorem sours_of_settled {decision : RouteDecision} {replyId prospectId : Uuid}
    {email : Option String} {tenant : String} {first second : Table Uuid Entity} {variant : Option String} {keys : List JobKey}
    {early late : Time} {db once twice : Database}
    (before : Settled decision replyId prospectId email tenant first variant keys early db once)
    (after : Settled decision replyId prospectId email tenant second variant keys late once twice)
    (tenants : once.tenants = db.tenants) (tenants_again : twice.tenants = once.tenants)
    (score : List Intent → Rat) (cohortId : String) :
    (Sours score once tenant cohortId ↔ Sours score (notedIn db decision replyId) tenant cohortId) ∧
    (Sours score twice tenant cohortId ↔ Sours score once tenant cohortId) := by
  constructor
  · have prospects : SameProspects (notedIn db decision replyId).prospects once.prospects := by
      rw [before.prospects]
      exact same_prospects_movedBy _ _ _ _
    have replies : once.replies = (notedIn db decision replyId).replies := before.replies
    exact sours_congr replies prospects tenants score tenant cohortId
  · refine sours_congr ?_ ?_ tenants_again score tenant cohortId
    · rw [after.replies, before.replies]
      exact modify_again _ _ _ (fun _ => rfl) fun _ _ => rfl
    · rw [after.prospects]
      exact same_prospects_movedBy _ _ _ _

/-- The second execution escalates or pauses exactly when the first one escalated, or the
pause of the first one is not that of the second one's month. -/
theorem escalations_iff {decision : RouteDecision} {tenant cohortId : String}
    {score : List Intent → Rat} {early late : Time} {db once twice noted : Database}
    (before : Judged score decision tenant cohortId early db once)
    (after : Judged score decision tenant cohortId late once twice)
    (sours : Sours score once tenant cohortId ↔ Sours score noted tenant cohortId)
    (sours_again : Sours score twice tenant cohortId ↔ Sours score once tenant cohortId) :
    twice.escalations = once.escalations ↔ decision.action ≠ .escalate ∧
      ¬ (Sours score noted tenant cohortId ∧ pausedIn db cohortId (monthOf late) = false ∧
        alreadyActed.periodField (monthOf late) ≠ alreadyActed.periodField (monthOf early)) := by
  have again : Sours score twice tenant cohortId ∧ pausedIn once cohortId (monthOf late) = false ↔
      Sours score noted tenant cohortId ∧ pausedIn db cohortId (monthOf late) = false ∧
        alreadyActed.periodField (monthOf late) ≠ alreadyActed.periodField (monthOf early) := by
    rw [sours_again, sours, ← Bool.not_eq_true, before.noted, sours, ← Bool.not_eq_true]
    constructor
    · rintro ⟨sour, open_⟩
      exact ⟨sour, fun acted => open_ (Or.inl acted), fun same => open_ (Or.inr ⟨sour, same⟩)⟩
    · rintro ⟨sour, open_, apart⟩
      refine ⟨sour, ?_⟩
      rintro (acted | ⟨_, same⟩)
      · exact open_ acted
      · exact apart same
  constructor
  · intro same
    have unraised : ¬ (decision.action = .escalate ∨ Sours score twice tenant cohortId ∧
        pausedIn once cohortId (monthOf late) = false) := by
      intro cause
      obtain ⟨id, absent, present⟩ := after.raised cause
      rw [same, absent] at present
      cases present
    exact ⟨fun escalates => unraised (Or.inl escalates),
      fun paused => unraised (Or.inr (again.2 paused))⟩
  · rintro ⟨quiet, well⟩
    exact after.calm quiet fun paused => well (again.1 paused)

/-- A reply without a body has been scrubbed: there is nothing to classify, twice. -/
theorem heeded_or_scrubbed {db once : Database} {replyId : Uuid} {taken : Nat}
    {verdict : List Char → Except Exc ClassifyReplyOutput}
    (model : ∀ index body, oracle index (.classifyReply body) = verdict body)
    (ended : solo oracle fault first (classify deployment replyId) ⟨db, 0, false⟩ =
      (.ok (), ⟨once, taken, false⟩)) :
    (∃ reply body prospect tenant decision, Heeded deployment.platform (verdict body) db replyId
      reply body prospect tenant decision) ∨
    once = db ∧ (∀ reply, db.replies.lookup replyId = some reply → reply.body = none) ∧
      ∀ answered, solo oracle fault second (classify deployment replyId) ⟨db, answered, false⟩ =
        (.ok (), ⟨db, answered, false⟩) := by
  cases replied : db.replies.lookup replyId with
  | none =>
      unfold classify at ended
      rw [solo_bind, solo_query, replied] at ended
      cases (congrArg Prod.fst ended : Except.error _ = Except.ok _)
  | some reply =>
      cases found : db.prospects.lookup reply.prospectId with
      | none =>
          unfold classify at ended
          rw [solo_bind, solo_query, replied, Option.bind_some, found] at ended
          cases (congrArg Prod.fst ended : Except.error _ = Except.ok _)
      | some prospect =>
          cases named : db.tenants.lookup prospect.tenantId with
          | none =>
              unfold classify at ended
              rw [solo_bind, solo_query, replied, Option.bind_some, found, Option.bind_some,
                named] at ended
              cases (congrArg Prod.fst ended : Except.error _ = Except.ok _)
          | some tenant =>
              cases text : reply.body with
              | none =>
                  right
                  have idle : ∀ moment answered,
                      solo oracle fault moment (classify deployment replyId) ⟨db, answered, false⟩ =
                        (.ok (), ⟨db, answered, false⟩) := by
                    intro moment answered
                    unfold classify
                    rw [solo_bind, solo_query, replied, Option.bind_some, found, Option.bind_some,
                      named, Option.map_some]
                    dsimp only
                    rw [text]
                    rfl
                  rw [idle] at ended
                  simp only [Prod.mk.injEq, Alone.mk.injEq] at ended
                  refine ⟨ended.2.1.symm, ?_, idle second⟩
                  intro other same
                  rw [← Option.some.inj same]
                  exact text
              | some body =>
                  left
                  cases routed : decided deployment.platform body reply.agenticExchanges
                      (verdict body) with
                  | ok decision =>
                      exact ⟨reply, body, prospect, tenant, decision, replied, text, found, named,
                        routed⟩
                  | error error =>
                      exfalso
                      have unanswered : (deployment.platform.search unsubscribeRe body).isSome =
                          false ∧ verdict body = .error error := by
                        unfold decided at routed
                        split at routed
                        · cases routed
                        next silent =>
                          refine ⟨by simpa using silent, ?_⟩
                          cases answer : verdict body with
                          | ok output =>
                              rw [answer] at routed
                              cases routed
                          | error other =>
                              rw [answer] at routed
                              rw [show other = error from Except.error.inj routed]
                      obtain ⟨later, raised⟩ : ∃ later, solo oracle fault first
                          (classify deployment replyId) ⟨db, 0, false⟩ = (.error error, later) :=
                        solo_classify_unanswered replied text found named unanswered.1
                          fun index => (model index body).trans unanswered.2
                      rw [raised] at ended
                      cases (congrArg Prod.fst ended : Except.error _ = Except.ok _)

/-- There is one way in which the second execution can end. -/
theorem repeats_of_ended {db twice : Database} {replyId : Uuid} {taken total : Nat}
    {same : Database → Database → Prop}
    (ended : solo oracle fault second (classify deployment replyId) ⟨db, taken, false⟩ =
      (.ok (), ⟨twice, total, false⟩)) :
    Repeats oracle fault second deployment replyId same db taken ↔ same db twice := by
  constructor
  · rintro ⟨other, count, ended', holds⟩
    have equal := ended'.symm.trans ended
    simp only [Prod.mk.injEq, Alone.mk.injEq] at equal
    rw [← equal.2.1]
    exact holds
  · exact fun holds => ⟨twice, total, ended, holds⟩

/-- What holds of both readings of the claim at once, for a reply that is heeded. -/
theorem repeats_of_heeded (distinct : Distinct oracle) {db once : Database} {taken : Nat}
    (ready : Ready deployment.platform oracle db 0) {replyId : Uuid} {reply : Reply}
    {body : List Char} {prospect : Prospect} {tenant : String} {decision : RouteDecision}
    {verdict : Except Exc ClassifyReplyOutput} {score : List Intent → Rat} {early late : Time}
    (heeded : Heeded deployment.platform verdict db replyId reply body prospect tenant decision)
    (model : ∀ index, oracle index (.classifyReply body) = verdict)
    (scored : ∀ index intents, oracle index (.sentiment intents) = score intents)
    (before : ClockReads oracle 0 taken early)
    (after : ∀ index, taken ≤ index → oracle index .now = late)
    (ended : solo oracle fault first (classify deployment replyId) ⟨db, 0, false⟩ =
      (.ok (), ⟨once, taken, false⟩)) :
    (Repeats oracle fault second deployment replyId SameEffects once taken ↔
      Repeatable deployment score early late db replyId reply prospect tenant decision) ∧
    (Repeats oracle fault second deployment replyId SameToTheDate once taken ↔
      Repeatable deployment score early late db replyId reply prospect tenant decision ∧
        ¬ Restamps decision prospect.emailCanonical first.start.clock second.start.clock) := by
  obtain ⟨_, renewed, settled⟩ := (ends_classify distinct ready heeded
    fun _ => completes_route (model 0) heeded.routed).post_of_ok ended
  obtain ⟨count, found, spent, unspent⟩ := renewed.reply
  by_cases answers : Answers deployment decision tenant
  · have outbound := outbound_of_answers answers
    have none_before := exchange_left heeded.routed outbound
    have counted := spent answers
    rw [none_before] at counted
    have routed := heeded.routed
    rw [none_before] at routed
    obtain ⟨again, routed_again, escalates⟩ := capped_again routed outbound
    rw [counted] at found
    obtain ⟨row, alike, heeded_after⟩ := heeded_again heeded renewed found routed_again
    have idle : ¬ Answers deployment again tenant := by
      rintro ⟨faq | signup, _⟩
      · rw [escalates] at faq
        cases faq
      · rw [escalates] at signup
        cases signup
    have run : Completes oracle fault second (classify deployment replyId) once taken _ :=
      (ends_classify distinct renewed.ready heeded_after
        fun _ => completes_route (model taken) heeded_after.routed).completes idle
    obtain ⟨_, twice, total, ended_again, _, _, settled_again⟩ := run
    have judged := (settled_again idle).2 score late scored fun index lower _ => after index lower
    obtain ⟨id, absent, present⟩ := judged.raised (Or.inl escalates)
    have apart : ¬ SameEffects once twice := by
      intro same
      rw [same.escalations, absent] at present
      cases present
    have not_repeatable :
        ¬ Repeatable deployment score early late db replyId reply prospect tenant decision :=
      fun repeatable => repeatable.answer answers
    rw [repeats_of_ended ended_again, repeats_of_ended ended_again]
    exact ⟨⟨fun same => absurd same apart, fun other => absurd other not_repeatable⟩,
      fun same => absurd same.1 apart, fun other => absurd other.1 not_repeatable⟩
  · have counted := unspent answers
    rw [counted] at found
    obtain ⟨row, alike, heeded_after⟩ := heeded_again heeded renewed found heeded.routed
    have run : Completes oracle fault second (classify deployment replyId) once taken _ :=
      (ends_classify distinct renewed.ready heeded_after
        fun _ => completes_route (model taken) heeded_after.routed).completes answers
    obtain ⟨_, twice, total, ended_again, _, renewed_again, settled_again⟩ := run
    obtain ⟨tables, judged⟩ := settled answers
    obtain ⟨tables_again, judged_again⟩ := settled_again answers
    have email := congrArg Prospect.emailCanonical alike
    have cohort := congrArg Prospect.cohortId alike
    have variant : successOf decision once { reply with
        intent := some decision.intent, confidence := some decision.confidence
        agenticExchanges := reply.agenticExchanges } = successOf decision db reply := by
      unfold successOf
      rw [tables.touches]
    rw [show row.emailCanonical = prospect.emailCanonical from email, variant] at tables_again
    rw [show row.cohortId = prospect.cohortId from cohort] at judged_again
    obtain ⟨effects, dates⟩ := same_effects_iff tables tables_again
    obtain ⟨sours, sours_again⟩ := sours_of_settled tables tables_again renewed.tenants
      renewed_again.tenants score prospect.cohortId
    have escalations := escalations_iff (judged score early scored before)
      (judged_again score late scored fun index lower _ => after index lower) sours sours_again
    have repeatable : SameEffects once twice ↔
        Repeatable deployment score early late db replyId reply prospect tenant decision := by
      rw [effects, escalations]
      constructor
      · rintro ⟨uncounted, quiet, calm, well⟩
        exact ⟨uncounted, quiet, calm, answers, well⟩
      · intro holds
        exact ⟨holds.success, holds.objection, holds.escalation, holds.pause⟩
    rw [repeats_of_ended ended_again, repeats_of_ended ended_again]
    refine ⟨repeatable, ?_⟩
    unfold SameToTheDate
    rw [repeatable, dates]

/-- A classify job that is executed once more after its first execution has committed
leaves the tables as they are exactly when that execution was repeatable; the times of the
suppressions it leaves exactly when it also writes no other time into one. -/
theorem classify_rerun (distinct : Distinct oracle) {db once : Database} {taken : Nat}
    (ready : Ready deployment.platform oracle db 0) {replyId : Uuid}
    {verdict : List Char → Except Exc ClassifyReplyOutput} {score : List Intent → Rat}
    {early late : Time} (model : ∀ index body, oracle index (.classifyReply body) = verdict body)
    (scored : ∀ index intents, oracle index (.sentiment intents) = score intents)
    (before : ClockReads oracle 0 taken early)
    (after : ∀ index, taken ≤ index → oracle index .now = late)
    (ended : solo oracle fault first (classify deployment replyId) ⟨db, 0, false⟩ =
      (.ok (), ⟨once, taken, false⟩)) :
    (Repeats oracle fault second deployment replyId SameEffects once taken ↔
      ∀ reply body prospect tenant decision, Heeded deployment.platform (verdict body) db replyId
        reply body prospect tenant decision →
        Repeatable deployment score early late db replyId reply prospect tenant decision) ∧
    (Repeats oracle fault second deployment replyId SameToTheDate once taken ↔
      ∀ reply body prospect tenant decision, Heeded deployment.platform (verdict body) db replyId
        reply body prospect tenant decision →
        Repeatable deployment score early late db replyId reply prospect tenant decision ∧
          ¬ Restamps decision prospect.emailCanonical first.start.clock second.start.clock) := by
  rcases heeded_or_scrubbed model ended with
    ⟨reply, body, prospect, tenant, decision, heeded⟩ | ⟨rfl, scrubbed, idle⟩
  · obtain ⟨effects, dates⟩ := repeats_of_heeded distinct ready heeded
      (fun index => model index body) scored before after ended
    rw [effects, dates]
    have only : ∀ other text row slug made, Heeded deployment.platform (verdict text) db replyId
        other text row slug made →
        other = reply ∧ row = prospect ∧ slug = tenant ∧ made = decision := by
      intro other text row slug made also
      have same_reply : other = reply := Option.some.inj (also.replied.symm.trans heeded.replied)
      subst same_reply
      have same_text : text = body := Option.some.inj (also.text.symm.trans heeded.text)
      subst same_text
      have same_row : row = prospect := Option.some.inj (also.found.symm.trans heeded.found)
      subst same_row
      exact ⟨rfl, rfl, Option.some.inj (also.named.symm.trans heeded.named),
        Except.ok.inj (also.routed.symm.trans heeded.routed)⟩
    constructor
    · constructor
      · intro holds other text row slug made also
        obtain ⟨rfl, rfl, rfl, rfl⟩ := only other text row slug made also
        exact holds
      · exact fun all => all _ _ _ _ _ heeded
    · constructor
      · intro holds other text row slug made also
        obtain ⟨rfl, rfl, rfl, rfl⟩ := only other text row slug made also
        exact holds
      · exact fun all => all _ _ _ _ _ heeded
  · have vacuous : ∀ reply body prospect tenant decision, ¬ Heeded deployment.platform
        (verdict body) once replyId reply body prospect tenant decision := by
      intro reply body prospect tenant decision heeded
      have missing := scrubbed reply heeded.replied
      rw [heeded.text] at missing
      cases missing
    have same : SameEffects once once := ⟨rfl, rfl, rfl, fun _ => rfl, rfl, rfl, rfl⟩
    rw [repeats_of_ended (idle taken), repeats_of_ended (idle taken)]
    exact ⟨⟨fun _ _ _ _ _ _ heeded => absurd heeded (vacuous _ _ _ _ _), fun _ => same⟩,
      fun _ _ _ _ _ _ heeded => absurd heeded (vacuous _ _ _ _ _),
      fun _ => ⟨same, fun _ => rfl⟩⟩

end Rerun

section Sample

/-- The sample world with a reply to its touch. -/
def repliedDatabase (body : String) : Database :=
  { dispatchedDatabase with
    replies := Table.empty.insert 8
      { prospectId := 3, touchId := 4, body := some body.toList, receivedAt := sampleClock } }

theorem replied_ready (body : String) (verdict : Except Exc ClassifyReplyOutput) :
    Ready sampleDeployment.platform (answering sampleOracle verdict) (repliedDatabase body) 0 := by
  have ready := ready_answering sample_ready verdict
  refine ⟨ready.canonical, ?_, ready.escalations, ready.jobs, ready.classify⟩
  intro index _
  have apart : 100 + index ≠ 8 := by omega
  exact (Table.lookup_insert ..).trans (if_neg apart)

theorem heeded_sample {body : String} {verdict : Except Exc ClassifyReplyOutput}
    {decision : RouteDecision}
    (routed : decided samplePlatform body.toList 0 verdict = .ok decision) :
    Heeded sampleDeployment.platform verdict (repliedDatabase body) 8
      { prospectId := 3, touchId := 4, body := some body.toList, receivedAt := sampleClock }
      body.toList { sampleProspect with state := .contacted } "acme" decision :=
  ⟨rfl, rfl, rfl, rfl, routed⟩

theorem opt_out_repeats : ∃ once taken,
    solo (answering sampleOracle (.error ⟨.other, "no answer"⟩)) integrityError sampleMoment
      (classify sampleDeployment 8) ⟨repliedDatabase "Unsubscribe me.", 0, false⟩ =
        (.ok (), ⟨once, taken, false⟩) ∧
    Repeats (answering sampleOracle (.error ⟨.other, "no answer"⟩)) integrityError sampleMoment
      sampleDeployment 8 SameEffects once taken := by
  have asking : (samplePlatform.search unsubscribeRe "Unsubscribe me.".toList).isSome = true := by
    decide +kernel
  have routed : decided samplePlatform "Unsubscribe me.".toList 0 (.error ⟨.other, "no answer"⟩) =
      .ok optOutDecision := if_pos asking
  have heeded := heeded_sample routed
  have idle : ¬ Answers sampleDeployment optOutDecision "acme" := by
    rintro ⟨faq | signup, _⟩
    · cases faq
    · cases signup
  have distinct := distinct_answering sample_distinct (.error ⟨.other, "no answer"⟩)
  have ready := replied_ready "Unsubscribe me." (.error ⟨.other, "no answer"⟩)
  have run : Completes (answering sampleOracle (.error ⟨.other, "no answer"⟩)) integrityError
      sampleMoment (classify sampleDeployment 8) (repliedDatabase "Unsubscribe me.") 0 _ :=
    (ends_classify distinct ready heeded
      fun _ => completes_route rfl heeded.routed).completes idle
  obtain ⟨_, once, taken, ended, _, _⟩ := run
  refine ⟨once, taken, ended, (classify_rerun distinct ready (fun _ _ => rfl) (fun _ _ => rfl)
    (fun _ _ _ => rfl) (fun _ _ => rfl) ended).1.2 ?_⟩
  intro reply body prospect tenant decision also
  obtain rfl := Option.some.inj (also.replied.symm.trans heeded.replied)
  obtain rfl := Option.some.inj (also.text.symm.trans heeded.text)
  obtain rfl := Option.some.inj (also.found.symm.trans heeded.found)
  obtain rfl := Option.some.inj (also.named.symm.trans heeded.named)
  obtain rfl := Except.ok.inj (also.routed.symm.trans heeded.routed)
  exact ⟨rfl, nofun, nofun, idle, fun paused => paused.2.2 rfl⟩

/-- A model that takes the reply for interest, but is not sure of it. -/
def unsureInterest : Except Exc ClassifyReplyOutput :=
  .ok { intent := .interested, confidence := 1 / 2 }

/-- The success is counted twice, and the reply is escalated twice. -/
theorem interest_counted_twice : ∃ once taken,
    solo (answering sampleOracle unsureInterest) integrityError sampleMoment
      (classify sampleDeployment 8) ⟨repliedDatabase "Sounds nice.", 0, false⟩ =
        (.ok (), ⟨once, taken, false⟩) ∧
    ¬ Repeats (answering sampleOracle unsureInterest) integrityError sampleMoment
      sampleDeployment 8 SameEffects once taken := by
  have silent : (samplePlatform.search unsubscribeRe "Sounds nice.".toList).isSome = false := by
    decide +kernel
  have trusted : injectionSuspects samplePlatform "Sounds nice.".toList = false := by
    decide +kernel
  have routed : decided samplePlatform "Sounds nice.".toList 0 unsureInterest =
      .ok ⟨.escalate, .interested, 1 / 2, "below confidence floor", none⟩ := by
    unfold decided
    rw [silent, trusted, if_neg Bool.false_ne_true]
    have unsure : (1 / 2 : Rat) < confidenceFloor := by decide +kernel
    have made : routeClassified false 0 { intent := .interested, confidence := 1 / 2 } =
        ⟨.escalate, .interested, 1 / 2, "below confidence floor", none⟩ := by
      unfold routeClassified
      dsimp only
      rw [if_neg (by decide), if_neg (by decide), if_pos unsure]
    exact congrArg Except.ok made
  have heeded := heeded_sample routed
  have idle : ¬ Answers sampleDeployment
      ⟨.escalate, .interested, 1 / 2, "below confidence floor", none⟩ "acme" := by
    rintro ⟨faq | signup, _⟩
    · cases faq
    · cases signup
  have distinct := distinct_answering sample_distinct unsureInterest
  have ready := replied_ready "Sounds nice." unsureInterest
  have run : Completes (answering sampleOracle unsureInterest) integrityError
      sampleMoment (classify sampleDeployment 8) (repliedDatabase "Sounds nice.") 0 _ :=
    (ends_classify distinct ready heeded
      fun _ => completes_route rfl heeded.routed).completes idle
  obtain ⟨_, once, taken, ended, _, _⟩ := run
  refine ⟨once, taken, ended, ?_⟩
  rw [(repeats_of_heeded distinct ready heeded (fun _ => rfl) (fun _ _ => rfl) (fun _ _ _ => rfl)
    (fun _ _ => rfl) ended).1]
  intro repeatable
  have success := repeatable.success
  cases success

end Sample

end OpenReachout
