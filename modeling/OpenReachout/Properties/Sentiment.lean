import OpenReachout.Properties.Exchanges
import OpenReachout.Relational.Lasting

/-!
# The sentiment brake

Every tenth classified reply of a cohort has its sentiment evaluated, by the transaction
that counts a multiple of ten. It counts what it sees. As long as it sees every classified
reply that is committed by the time it commits itself, no multiple is stepped over.
-/

namespace OpenReachout

open Relational Relational.Abstraction Text

set_option autoImplicit false

variable {site : Deployment} {vouch : Mark → Ledger → Prop} {op : Op} {held : List RowLock}
variable {start l before after : Ledger} {tenant cohortId : String} {id replyId : Uuid}

section Counting

/-- A classified reply of a prospect of the cohort. -/
def Ledger.Classified (l : Ledger) (tenant cohortId : String) (id : Uuid) : Prop :=
  ∃ reply lead, l.replies id = some reply ∧ reply.intent.isSome = true ∧
    l.prospects reply.prospectId = some lead ∧ lead.cohortId = cohortId ∧
    l.tenants lead.tenantId = some tenant

def classifiedIds (db : Database) (tenant cohortId : String) : List Uuid :=
  (db.replies.select fun _ row => row.intent.isSome &&
    (db.prospects.lookup row.prospectId).any fun prospect =>
      prospect.cohortId = cohortId && db.tenants.lookup prospect.tenantId = some tenant).map
    Prod.fst

theorem mem_classifiedIds (db : Database) :
    id ∈ classifiedIds db tenant cohortId ↔ db.ledger.Classified tenant cohortId id := by
  unfold classifiedIds Ledger.Classified
  simp only [List.mem_map, Prod.exists, Table.mem_select_iff, Bool.and_eq_true,
    Option.any_eq_true, decide_eq_true_eq]
  constructor
  · rintro ⟨_, reply, ⟨found, judged, lead, there, cohort, slug⟩, rfl⟩
    exact ⟨reply, lead, found, judged, there, cohort, slug⟩
  · rintro ⟨reply, lead, found, judged, there, cohort, slug⟩
    exact ⟨id, reply, ⟨found, judged, lead, there, cohort, slug⟩, rfl⟩

theorem length_filterMap_isSome {Item Result : Type} (read : Item → Option Result)
    (items : List Item) (all : ∀ item ∈ items, (read item).isSome = true) :
    (items.filterMap read).length = items.length := by
  induction items with
  | nil => rfl
  | cons item items induction =>
      obtain ⟨result, found⟩ := Option.isSome_iff_exists.1 (all item List.mem_cons_self)
      have rest := induction fun other member => all other (List.mem_cons_of_mem _ member)
      rw [List.filterMap_cons_some found, List.length_cons, List.length_cons, rest]

theorem length_classified (db : Database) :
    (classified db tenant cohortId).length = (classifiedIds db tenant cohortId).length := by
  unfold classified classifiedIds
  dsimp only
  rw [length_filterMap_isSome, List.length_mergeSort, List.length_map, List.length_map]
  intro reply member
  rw [List.mem_mergeSort] at member
  obtain ⟨⟨key, row⟩, selected, rfl⟩ := List.mem_map.1 member
  have picked := ((Table.mem_select_iff _ _ _ _).1 selected).2
  rw [Bool.and_eq_true] at picked
  exact picked.1

theorem classifiedIds_nodup (db : Database) : (classifiedIds db tenant cohortId).Nodup :=
  Table.select_keys_nodup _ _

/-- Where every classified reply is one as well, there are at least as many. -/
theorem classified_le {early late : Database}
    (more : ∀ id, early.ledger.Classified tenant cohortId id →
      late.ledger.Classified tenant cohortId id) :
    (classified early tenant cohortId).length ≤ (classified late tenant cohortId).length := by
  rw [length_classified, length_classified]
  have inside : classifiedIds early tenant cohortId ⊆ classifiedIds late tenant cohortId :=
    fun id member => (mem_classifiedIds late).2 (more id ((mem_classifiedIds early).1 member))
  exact (classifiedIds_nodup early).length_le_of_subset inside

/-- Where one may be new, there is at most one more. -/
theorem classified_le_succ {early late : Database} (replyId : Uuid)
    (most : ∀ id, late.ledger.Classified tenant cohortId id →
      early.ledger.Classified tenant cohortId id ∨ id = replyId) :
    (classified late tenant cohortId).length ≤ (classified early tenant cohortId).length + 1 := by
  rw [length_classified, length_classified]
  have inside : classifiedIds late tenant cohortId ⊆
      replyId :: classifiedIds early tenant cohortId := by
    intro id member
    rcases most id ((mem_classifiedIds late).1 member) with old | rfl
    · exact List.mem_cons_of_mem _ ((mem_classifiedIds early).2 old)
    · exact List.mem_cons_self
  exact (classifiedIds_nodup late).length_le_of_subset inside

end Counting

section Deeds

/-- A reply is to a prospect that exists. -/
def Threaded (l : Ledger) : Prop :=
  ∀ id reply, l.replies id = some reply → (l.prospects reply.prospectId).isSome = true

theorem classified_later (later : Later before after)
    (classified : before.Classified tenant cohortId id) :
    after.Classified tenant cohortId id := by
  obtain ⟨reply, lead, found, judged, there, cohort, slug⟩ := classified
  obtain ⟨next, present, kept⟩ := later.replies id reply found
  obtain ⟨person, present_lead, kept_lead⟩ := later.prospects reply.prospectId lead there
  refine ⟨next, person, present, kept.intent judged, ?_, ?_, ?_⟩
  · rw [kept.prospectId]
    exact present_lead
  · exact kept_lead.cohortId.trans cohort
  · rw [later.tenants, kept_lead.tenantId]
    exact slug

theorem threaded_deed (linked : Linked l) (threaded : Threaded l)
    (deed : Deed site vouch op start l after) : Threaded after := by
  have later := deed_later _ _ _ _ deed
  intro id reply present
  have stays : ∀ prospectId, (l.prospects prospectId).isSome = true →
      (after.prospects prospectId).isSome = true :=
    fun prospectId there => kept_isSome (later.prospects prospectId) there
  rcases reply_of_deed deed present with same | ⟨_, _, item, touch, theirs⟩ | ⟨old, found, step⟩
  · exact stays _ (threaded id reply same)
  · rw [theirs]
    exact stays _ (linked.prospectOf _ item touch)
  · have same : reply.prospectId = old.prospectId := by cases step <;> rfl
    rw [same]
    exact stays _ (threaded id old found)

/-- A deed classifies the reply of its operation only. -/
theorem classified_of_deed (threaded : Threaded l) (deed : Deed site vouch op start l after)
    (classified : after.Classified tenant cohortId id) :
    l.Classified tenant cohortId id ∨ op.classifies id := by
  have later := deed_later _ _ _ _ deed
  obtain ⟨reply, lead, present, judged, there, cohort, slug⟩ := classified
  have before : ∀ old, l.replies id = some old → old.intent.isSome = true →
      reply.prospectId = old.prospectId → l.Classified tenant cohortId id := by
    intro old found known theirs
    obtain ⟨person, early⟩ := Option.isSome_iff_exists.1 (threaded id old found)
    obtain ⟨next, late, kept⟩ := later.prospects old.prospectId person early
    rw [theirs, late] at there
    obtain rfl := Option.some.inj there
    rw [later.tenants, kept.tenantId] at slug
    exact ⟨old, person, found, known, early, kept.cohortId.symm.trans cohort, slug⟩
  rcases reply_of_deed deed present with same | ⟨_, unread, _⟩ | ⟨old, found, step⟩
  · exact Or.inl (before reply same judged rfl)
  · rw [unread] at judged
    cases judged
  · cases step with
    | judge intent confidence turn => exact Or.inr turn
    | exchange first => exact Or.inl (before old found judged rfl)
    | erase ref which => exact Or.inl (before old found judged rfl)

theorem classified_of_path (linked : Linked l) (threaded : Threaded l)
    (path : Relation.ReflTransGen (Deed site vouch op start) l after) :
    Threaded after ∧ ∀ tenant cohortId id, after.Classified tenant cohortId id →
      l.Classified tenant cohortId id ∨ op.classifies id := by
  induction path with
  | refl => exact ⟨threaded, fun _ _ _ => Or.inl⟩
  | tail path deed induction =>
      obtain ⟨middle, early⟩ := induction
      have linked_middle := linked_later linked (path_later path)
      refine ⟨threaded_deed linked_middle middle deed, fun tenant cohortId id classified => ?_⟩
      rcases classified_of_deed middle deed classified with old | turn
      · exact early tenant cohortId id old
      · exact Or.inr turn

end Deeds

section Programs

variable {floor : Database}

/-- The reply has its verdict. -/
def Ledger.Verdict (l : Ledger) (replyId : Uuid) : Prop :=
  ∃ reply, l.replies replyId = some reply ∧ reply.intent.isSome = true

theorem verdict_later (later : Later before after) (verdict : before.Verdict replyId) :
    after.Verdict replyId := by
  obtain ⟨reply, found, judged⟩ := verdict
  obtain ⟨next, present, kept⟩ := later.replies replyId reply found
  exact ⟨next, present, kept.intent judged⟩

/-- A marked statement has seen the verdict, and what had been committed by `floor`. -/
structure Weighed (vouch : Mark → Ledger → Prop) (mark : Mark) (replyId : Uuid)
    (floor : Database) (after : Ledger) (seen : Database) : Prop where
  vouched : vouch mark seen.ledger
  since : Later floor.ledger seen.ledger
  until_ : Later seen.ledger after
  verdict : seen.ledger.Verdict replyId

/-- A count has been taken, and where it is a multiple the cohort has been evaluated. -/
def Braked (vouch : Mark → Ledger → Prop) (tenant cohortId : String) (replyId : Uuid)
    (floor : Database) (after : Ledger) : Prop :=
  ∃ seen, Weighed vouch (.countReplies tenant cohortId) replyId floor after seen ∧
    ((classified seen tenant cohortId).length ≠ 0 ∧
        (classified seen tenant cohortId).length % evaluateEvery = 0 →
      ∃ view, Weighed vouch (.evaluateCohort tenant cohortId) replyId floor after view)

theorem past_weighing {Value : Type} (mark : Mark)
    (read : Moment Database RowLock → Database → Value) (locked : .reply replyId ∈ held) :
    (outreach site vouch op).EnsuresPast floor held (Program.markedQuery mark read : Prog Value)
      fun _ value before after => after = before ∧ (before.ledger.Verdict replyId →
        ∃ moment seen, value = read moment seen ∧
          Weighed vouch mark replyId floor before.ledger seen) := by
  refine (past_markedQuery mark read).mono ?_
  rintro start value before after ⟨seen, busy, glimpse, onward, shown, vouched, wrote⟩
  refine ⟨wrote, fun verdict => ⟨⟨start, busy⟩, seen, shown, vouched, onward, glimpse.until_, ?_⟩⟩
  have row : before.replies.lookup replyId = seen.replies.lookup replyId :=
    glimpse.row Tables.replies locked
  obtain ⟨reply, found, judged⟩ := verdict
  exact ⟨reply, row.symm.trans found, judged⟩

theorem past_evaluateCohort (locked : .reply replyId ∈ held) :
    (outreach site vouch op).EnsuresPast floor held (evaluateCohort tenant cohortId)
      fun _ _ before after => after.ledger = before.ledger ∧ (before.ledger.Verdict replyId →
        ∃ view, Weighed vouch (.evaluateCohort tenant cohortId) replyId floor before.ledger view) := by
  have quiet : (outreach site vouch op).Quiet (evaluateCohort tenant cohortId) :=
    quiet_evaluateCohort tenant cohortId
  unfold evaluateCohort at quiet ⊢
  refine past_bind (past_weighing _ _ locked) ?_ fun intents => ?_
  · rintro start value before _ ⟨rfl, _⟩
    exact (outreach site vouch op).order.refl _
  · refine (ensures_quiet (quiet_after_read quiet intents)).past.mono ?_
    rintro start _ middle after same before ⟨rfl, weighed⟩
    refine ⟨same, fun verdict => ?_⟩
    obtain ⟨_, view, _, seen⟩ := weighed verdict
    exact ⟨view, seen⟩

theorem past_maybeEvaluate (locked : .reply replyId ∈ held) :
    (outreach site vouch op).EnsuresPast floor held (maybeEvaluate tenant cohortId)
      fun _ _ before after => after.ledger = before.ledger ∧ (before.ledger.Verdict replyId →
        Braked vouch tenant cohortId replyId floor after.ledger) := by
  unfold maybeEvaluate
  refine past_bind (past_weighing _ _ locked) ?_ fun count => ?_
  · rintro start value before _ ⟨rfl, _⟩
    exact (outreach site vouch op).order.refl _
  · by_cases multiple : count ≠ 0 ∧ count % evaluateEvery = 0
    · rw [if_pos multiple]
      refine (past_evaluateCohort locked).mono ?_
      rintro start _ middle after ⟨same, evaluated⟩ before ⟨rfl, counted⟩
      refine ⟨same, fun verdict => ?_⟩
      obtain ⟨_, seen, _, weighed⟩ := counted verdict
      rw [same]
      exact ⟨seen, weighed, fun _ => evaluated verdict⟩
    · rw [if_neg multiple]
      refine past_pure _ ?_
      rintro start db before ⟨rfl, counted⟩
      refine ⟨rfl, fun verdict => ?_⟩
      obtain ⟨_, seen, shown, weighed⟩ := counted verdict
      refine ⟨seen, weighed, fun again => absurd ?_ multiple⟩
      rw [shown]
      exact again

/-- The verdict is there once the reply has been updated, and its row stays locked. -/
theorem past_judge (intent : Intent) (confidence : Rat)
    (there : (floor.ledger.replies replyId).isSome = true) :
    (outreach site vouch op).EnsuresPast floor held
      (Program.update Tables.replies (fun _ _ id _ => id = replyId) fun _ row =>
        { row with intent := some intent, confidence := some confidence } :
        Prog (List (Uuid × Reply)))
      fun _ rows before after => replyId ∈ rows.map Prod.fst ∧ Progress before after ∧
        after.ledger.Verdict replyId := by
  have found : ∀ seen : Database, (outreach site vouch op).rely floor seen →
      (seen.replies.lookup replyId).isSome = true :=
    fun seen later => kept_isSome (later.replies replyId) there
  refine (EnsuresPast.and (past_update_found Tables.replies replyId _ found)
    (ensures_update Tables.replies _ _).past).mono ?_
  rintro start rows before after ⟨member, seen, busy, updated⟩
  rcases updated.single one_key with ⟨rfl, _⟩ | ⟨key, row, rfl, present, _, picked, replaced⟩
  · cases member
  · obtain rfl := of_decide_eq_true picked
    have wrote := ledger_replaced_reply replaced
    have later : Later before.ledger after.ledger := by
      rw [wrote]
      apply later_set_reply
      exact kept_some present ⟨rfl, rfl, fading_refl _, fun _ => rfl⟩
    refine ⟨member, later, ?_⟩
    rw [wrote]
    exact ⟨_, Function.update_self _ _ _, rfl⟩

theorem past_follows {Value : Type} {program : Prog Value}
    (follows : (outreach site vouch op).Follows held program) :
    (outreach site vouch op).EnsuresPast floor held program fun _ _ before after =>
      Progress before after :=
  (follows.brings.ensures.mono fun _ _ _ _ path => path_later path).past

theorem past_evaluateReply (decision : RouteDecision) (locked : .reply replyId ∈ held) :
    (outreach site vouch op).EnsuresPast floor held
      (evaluateReply decision replyId tenant cohortId)
      fun _ _ before after => before.ledger.Verdict replyId →
        Braked vouch tenant cohortId replyId floor after.ledger := by
  have evaluate : (outreach site vouch op).EnsuresPast floor held (maybeEvaluate tenant cohortId)
      fun _ _ before after => before.ledger.Verdict replyId →
        Braked vouch tenant cohortId replyId floor after.ledger :=
    (past_maybeEvaluate locked).mono fun _ _ _ _ done => done.2
  unfold evaluateReply
  by_cases objection : decision.intent = .objection
  · rw [if_pos objection]
    refine past_bind (past_follows (follows_quiet (quiet_appendRow _ _ fun _ _ => rfl)))
      (fun _ _ _ _ => id) fun _ => ?_
    exact evaluate.mono fun _ _ _ _ done before onward verdict =>
      done (verdict_later onward verdict)
  · rw [if_neg objection]
    exact evaluate

theorem past_concludeReply (decision : RouteDecision) {prospectId : Uuid}
    (emailCanonical : Option String) (turn : op.classifies replyId) {reply : Reply}
    (there : floor.ledger.replies replyId = some reply) (theirs : reply.prospectId = prospectId) :
    (outreach site vouch op).EnsuresPast floor held
      (concludeReply site decision replyId prospectId emailCanonical tenant cohortId)
      fun _ _ _ after => Braked vouch tenant cohortId replyId floor after.ledger := by
  have handles : op.handles := by
    obtain ⟨job, which, _⟩ := turn
    exact ⟨job, which⟩
  have met : ∀ view, Later floor.ledger view → view.Met prospectId := fun view later =>
    Ledger.met_later later (.replied replyId reply there theirs)
  unfold concludeReply
  refine past_bind_taking (past_judge _ _ (by rw [there]; rfl)) (fun _ _ _ _ done => done.2.1)
    (takes_updateChecked Tables.replies none _ _ _) fun rows => ?_
  by_cases locked : .reply replyId ∈ held ++ rows.map fun entry => Tables.replies.lock entry.1
  case neg =>
    -- the update returns the rows that it has locked
    intro a b value _ _ _ _ db _ _ before done
    obtain ⟨entry, member, same⟩ := List.mem_map.1 done.1
    refine absurd (List.mem_append_right held (List.mem_map.2 ⟨entry, member, ?_⟩)) locked
    rw [same]
  case pos =>
    have evaluates : (outreach site vouch op).EnsuresPast floor _
        (evaluateReply decision replyId tenant cohortId) _ := past_evaluateReply decision locked
    refine past_bind (past_follows (follows_applyDecision _ _ _ _ _ handles))
      (fun _ _ _ _ => id) fun _ => ?_
    dsimp only
    by_cases answers : decision.action = .answerFaq ∨ decision.action = .sendSignupLink
    · rw [if_pos answers]
      refine past_bind (FollowsGiven.past (given_queueAgenticReply _ _ _ _ _ turn) met) ?_
        fun _ => ?_
      · exact fun _ _ _ _ path => path_later path
      · refine evaluates.mono fun _ _ _ _ braked _ path _ early _ judged => ?_
        exact braked (verdict_later (path_later path) (verdict_later early judged.2.2))
    · rw [if_neg answers]
      exact evaluates.mono fun _ _ _ _ braked _ early _ judged =>
        braked (verdict_later early judged.2.2)

theorem past_judgeReply (decision : RouteDecision) (turn : op.classifies replyId) {reply : Reply}
    (prospect : Prospect) (there : floor.ledger.replies replyId = some reply) :
    (outreach site vouch op).EnsuresPast floor held
      (judgeReply site decision replyId reply prospect tenant)
      fun _ _ _ after => Braked vouch tenant prospect.cohortId replyId floor after.ledger := by
  have concludes : (outreach site vouch op).EnsuresPast floor held
      (concludeReply site decision replyId reply.prospectId prospect.emailCanonical tenant
        prospect.cohortId) _ := past_concludeReply decision prospect.emailCanonical turn there rfl
  have refers : (outreach site vouch op).EnsuresPast floor held
      (enqueue .referral (.prospect reply.prospectId) (.referral reply.prospectId)) _ :=
    past_follows (follows_enqueue _ _ _ _ rfl ⟨by simp, by simp, by simp⟩)
  unfold judgeReply
  by_cases interested : decision.intent = .interested
  · rw [if_pos interested]
    refine past_skip (past_follows (follows_quiet (quiet_query _))) (fun _ _ _ _ => id)
      fun variantId => ?_
    dsimp only
    split
    · refine past_skip (past_follows (follows_quiet (quiet_recordSuccess _ _)))
        (fun _ _ _ _ => id) fun _ => ?_
      exact past_skip refers (fun _ _ _ _ => id) fun _ => concludes
    · exact past_skip refers (fun _ _ _ _ => id) fun _ => concludes
  · rw [if_neg interested]
    exact concludes

/-- What the classification of a reply has come to when it commits: it has written nothing,
or the brake has been applied for the cohort of the reply. -/
inductive Weighing (vouch : Mark → Ledger → Prop) (replyId : Uuid)
    (floor before after : Database) : Prop where
  | idle (same : after.ledger = before.ledger)
  | braked (reply : Reply) (lead : Prospect) (tenant : String)
      (there : floor.ledger.replies replyId = some reply)
      (theirs : floor.ledger.prospects reply.prospectId = some lead)
      (slug : floor.ledger.tenants lead.tenantId = some tenant)
      (braked : Braked vouch tenant lead.cohortId replyId floor after.ledger)

theorem weighing_of_exec {start db : Database} {b : Spot} (turn : op.classifies replyId)
    (sound : Linked start.ledger)
    (exec : Program.Exec (outreach site vouch op).rely (classify site replyId)
      (Point.begin start) (.ok ()) b)
    (clean : (outreach site vouch op).Clean b.txn)
    (later : (outreach site vouch op).rely b.committed db) (stable : b.txn.Stable db) :
    ∃ floor, (outreach site vouch op).rely floor db ∧
      Weighing vouch replyId floor db (b.txn.view db) := by
  unfold classify at exec
  refine holds_after_read sound exec clean later stable fun floor busy since => ?_
  dsimp only
  generalize shown : ((floor.replies.lookup replyId).bind fun reply =>
    (floor.prospects.lookup reply.prospectId).bind fun prospect =>
      (floor.tenants.lookup prospect.tenantId).map fun slug => (reply, prospect, slug)) = row
  cases row with
  | none => exact (ensures_throw _).past
  | some loaded =>
      obtain ⟨reply, there, shown⟩ := Option.bind_eq_some_iff.1 shown
      obtain ⟨lead, theirs, shown⟩ := Option.bind_eq_some_iff.1 shown
      obtain ⟨tenant, slug, rfl⟩ := Option.map_eq_some_iff.1 shown
      dsimp only
      split
      · exact past_pure _ fun _ _ => .idle rfl
      · refine EnsuresPast.mono ?_ fun _ _ _ _ braked =>
          .braked reply lead tenant there theirs slug braked
        refine past_skip (past_follows (follows_releaseSequence _)) (fun _ _ _ _ => id)
          fun _ => ?_
        refine past_skip (past_follows (follows_quiet (quiet_route _ _ _))) (fun _ _ _ _ => id)
          fun decision => ?_
        exact past_judgeReply decision turn lead there

/-- What a session that classifies a reply commits. -/
theorem weighing_of_commit {world : World} {index : Nat} {out : Out}
    {session : Session Database RowLock Exc Mark Call Call.Answer Op Out} (sane : Sane site world)
    (found : world.session index = some session) (commits : Committing session out)
    (turn : session.op.classifies replyId)
    (vouched : ∀ entry ∈ session.txn.seen, vouch entry.1 entry.2.ledger) :
    ∃ floor, Progress floor world.committed ∧
      Weighing vouch replyId floor world.committed (session.txn.view world.committed) := by
  obtain ⟨op, program, txn⟩ := session
  obtain ⟨rfl, intact⟩ := commits
  have done := commits_of_done sane.sound found intact
  obtain ⟨last, later, exec⟩ := done.exec
  change Program.Exec Progress (op.program site) _ _ _ at exec
  rw [handler_of_classifies turn] at exec
  unfold unitOut at exec
  rw [Program.exec_bind_ok] at exec
  obtain ⟨_, middle, exec, _, same⟩ := exec
  subst same
  have clean : (outreach site vouch op).Clean txn := ⟨intact, vouched⟩
  exact weighing_of_exec turn (sane.begun index _ found) exec clean later done.stable

end Programs

section Commits

variable {world : World} {index : Nat} {out : Out}
  {session : Session Database RowLock Exc Mark Call Call.Answer Op Out}

theorem classifies_unique {op : Op} {one other : Uuid} (first : op.classifies one)
    (second : op.classifies other) : one = other := by
  obtain ⟨job, rfl, _, payload⟩ := first
  obtain ⟨_, same, _, further⟩ := second
  obtain rfl := Op.handle.inj same
  exact JobPayload.reply.inj (payload.symm.trans further)

/-- The reply of a classification is classified in what a marked statement has seen, for
the cohort that it belonged to at `floor`. -/
theorem classified_of_verdict {floor seen : Ledger} {reply : Reply} {lead : Prospect}
    (there : floor.replies replyId = some reply)
    (theirs : floor.prospects reply.prospectId = some lead)
    (slug : floor.tenants lead.tenantId = some tenant) (since : Later floor seen)
    (verdict : seen.Verdict replyId) : seen.Classified tenant lead.cohortId replyId := by
  obtain ⟨row, found, judged⟩ := verdict
  obtain ⟨next, present, kept⟩ := since.replies replyId reply there
  obtain rfl := Option.some.inj (found.symm.trans present)
  obtain ⟨person, late, same⟩ := since.prospects reply.prospectId lead theirs
  refine ⟨row, person, found, judged, ?_, same.cohortId, ?_⟩
  · rw [kept.prospectId]
    exact late
  · rw [since.tenants, same.tenantId]
    exact slug

/-- The cohort of a reply does not change. -/
theorem cohort_of_classified {floor seen : Ledger} {reply : Reply} {lead : Prospect}
    {otherTenant otherCohort : String} (there : floor.replies replyId = some reply)
    (theirs : floor.prospects reply.prospectId = some lead)
    (slug : floor.tenants lead.tenantId = some tenant) (since : Later floor seen)
    (classified : seen.Classified otherTenant otherCohort replyId) :
    otherTenant = tenant ∧ otherCohort = lead.cohortId := by
  obtain ⟨row, person, found, _, present, cohort, named⟩ := classified
  obtain ⟨next, late, kept⟩ := since.replies replyId reply there
  obtain rfl := Option.some.inj (found.symm.trans late)
  obtain ⟨same, early, steady⟩ := since.prospects reply.prospectId lead theirs
  rw [kept.prospectId] at present
  obtain rfl := Option.some.inj (present.symm.trans early)
  rw [since.tenants, steady.tenantId] at named
  exact ⟨Option.some.inj (named.symm.trans slug), cohort.symm.trans steady.cohortId⟩

/-- Every reply of the cohort that is classified by now had been when the statement ran. -/
def UpToDate (committed : Database) (entry : Mark × Database) : Prop :=
  match entry.1 with
  | .countReplies tenant cohortId | .evaluateCohort tenant cohortId =>
      ((classified committed tenant cohortId).length + 1) % evaluateEvery = 0 →
        ∀ id, committed.ledger.Classified tenant cohortId id →
          entry.2.ledger.Classified tenant cohortId id
  | _ => True

/-- The states that the marked statements of a transaction have seen. -/
def seenBy (txn : Txn Database RowLock Mark Call) (mark : Mark) (l : Ledger) : Prop :=
  ∃ db, (mark, db) ∈ txn.seen ∧ db.ledger = l

/-- A statement that has missed no committed reply has seen all that are classified once
the reply of its transaction is. -/
theorem covered_of_weighed {txn : Txn Database RowLock Mark Call} {mark : Mark}
    {floor committed after view : Database} {reply : Reply} {lead : Prospect}
    (there : floor.ledger.replies replyId = some reply)
    (theirs : floor.ledger.prospects reply.prospectId = some lead)
    (slug : floor.ledger.tenants lead.tenantId = some tenant)
    (weighed : Weighed (seenBy txn) mark replyId floor after.ledger view)
    (most : ∀ id, after.ledger.Classified tenant lead.cohortId id →
      committed.ledger.Classified tenant lead.cohortId id ∨ id = replyId)
    (current : ∀ db, (mark, db) ∈ txn.seen → ∀ id,
      committed.ledger.Classified tenant lead.cohortId id →
        db.ledger.Classified tenant lead.cohortId id) :
    ∃ db, (mark, db) ∈ txn.seen ∧ db.ledger = view.ledger ∧
      (classified after tenant lead.cohortId).length ≤
        (classified db tenant lead.cohortId).length := by
  obtain ⟨db, member, same⟩ := weighed.vouched
  refine ⟨db, member, same, classified_le fun id late => ?_⟩
  rcases most id late with old | rfl
  · exact current db member id old
  · rw [same]
    exact classified_of_verdict there theirs slug weighed.since weighed.verdict

/-- A commit with which a cohort comes to a multiple of ten has evaluated it. -/
theorem evaluated_of_crossing {rule : Mark → Ledger → Prop} (sane : Sane site world)
    (threaded : Threaded world.committed.ledger)
    (found : world.session index = some session) (commits : Committing session out)
    (fresh : ∀ entry ∈ session.txn.seen, UpToDate world.committed entry)
    (path : Relation.ReflTransGen (Deed site rule session.op session.txn.start.ledger)
      world.committed.ledger (session.txn.view world.committed).ledger) {number : Nat}
    (below : (classified world.committed tenant cohortId).length < evaluateEvery * number)
    (above : evaluateEvery * number ≤
      (classified (session.txn.view world.committed) tenant cohortId).length) :
    (∃ replyId, session.op.classifies replyId) ∧
      ∃ view, (.evaluateCohort tenant cohortId, view) ∈ session.txn.seen ∧
        evaluateEvery * number ≤ (classified view tenant cohortId).length := by
  obtain ⟨_, fewer⟩ := classified_of_path sane.linked threaded path
  have later := path_later path
  -- a commit that classifies no further reply of the cohort does not cross
  have newly : ∃ replyId, session.op.classifies replyId ∧
      (session.txn.view world.committed).ledger.Classified tenant cohortId replyId := by
    by_contra none_
    have most : (classified (session.txn.view world.committed) tenant cohortId).length ≤
        (classified world.committed tenant cohortId).length := by
      refine classified_le fun id there => ?_
      rcases fewer tenant cohortId id there with old | turn
      · exact old
      · exact absurd ⟨id, turn, there⟩ none_
    omega
  obtain ⟨replyId, turn, there⟩ := newly
  refine ⟨⟨replyId, turn⟩, ?_⟩
  have most : ∀ id, (session.txn.view world.committed).ledger.Classified tenant cohortId id →
      world.committed.ledger.Classified tenant cohortId id ∨ id = replyId := by
    intro id classified
    rcases fewer tenant cohortId id classified with old | other
    · exact Or.inl old
    · exact Or.inr (classifies_unique other turn)
  have atMost := classified_le_succ replyId most
  have exact_ : (classified world.committed tenant cohortId).length + 1 =
      evaluateEvery * number := by omega
  have multiple : ((classified world.committed tenant cohortId).length + 1) %
      evaluateEvery = 0 := by
    rw [exact_]
    exact Nat.mul_mod_right _ _
  have shown : ∀ entry ∈ session.txn.seen, seenBy session.txn entry.1 entry.2.ledger :=
    fun entry member => ⟨entry.2, member, rfl⟩
  obtain ⟨floor, since, weighing⟩ := weighing_of_commit sane found commits turn shown
  cases weighing with
  | idle same =>
      have equal : (classified (session.txn.view world.committed) tenant cohortId).length ≤
          (classified world.committed tenant cohortId).length := by
        refine classified_le fun id there => ?_
        rw [same] at there
        exact there
      omega
  | braked reply lead slug stored theirs named braked =>
      obtain ⟨rfl, rfl⟩ := cohort_of_classified stored theirs named (later_trans since later) there
      obtain ⟨seen, counted, evaluates⟩ := braked
      obtain ⟨db, _, same, enough⟩ := covered_of_weighed stored theirs named counted most
        fun db member => fresh _ member multiple
      have few : (classified seen tenant lead.cohortId).length ≤
          (classified (session.txn.view world.committed) tenant lead.cohortId).length :=
        classified_le fun id there => classified_later counted.until_ there
      have many : (classified db tenant lead.cohortId).length ≤
          (classified seen tenant lead.cohortId).length := by
        refine classified_le fun id there => ?_
        rw [same] at there
        exact there
      have reached : (classified seen tenant lead.cohortId).length = evaluateEvery * number := by
        omega
      have positive : (classified seen tenant lead.cohortId).length ≠ 0 := by omega
      obtain ⟨view, weighed⟩ := evaluates ⟨positive, by
        rw [reached]
        exact Nat.mul_mod_right _ _⟩
      obtain ⟨last, member, _, enough⟩ := covered_of_weighed stored theirs named weighed most
        fun db member => fresh _ member multiple
      exact ⟨last, member, above.trans enough⟩

end Commits

section Runs

variable {start world : World} {past : Past Database RowLock Exc Mark Call Call.Answer Op Out}

/-- Where a commit brings a cohort to a multiple of ten, its transaction has counted every
classified reply of the cohort that is committed by then. -/
def CountsAll (world : World) (action : Act) : Prop :=
  ∀ index session out, action = .finish index → world.session index = some session →
    Committing session out → ∀ entry ∈ session.txn.seen, UpToDate world.committed entry

/-- A session of the world has had the cohort evaluated on that many classified replies. -/
def Evaluating (world : World) (tenant cohortId : String) (count : Nat) : Prop :=
  ∃ index session view, world.session index = some session ∧
    (∃ replyId, session.op.classifies replyId) ∧
    (.evaluateCohort tenant cohortId, view) ∈ session.txn.seen ∧
    count ≤ (classified view tenant cohortId).length

/-- Before the cohort came to `number + 1` times ten classified replies, a classification
had it evaluated on a view with `number` times ten of them. -/
def Overseen (past : Past Database RowLock Exc Mark Call Call.Answer Op Out)
    (tenant cohortId : String) (number : Nat) : Prop :=
  ∃ step ∈ past,
    (classified step.1.committed tenant cohortId).length < evaluateEvery * (number + 1) ∧
      Evaluating step.1 tenant cohortId (evaluateEvery * number)

theorem crossing_of_advance {world after : World} {action : Act} (sane : Sane site world)
    (threaded : Threaded world.committed.ledger) (fresh : CountsAll world action)
    (advance : Advance site (fun _ _ _ _ => True) world after action) :
    Threaded after.committed.ledger ∧ ∀ tenant cohortId number,
      (classified world.committed tenant cohortId).length < evaluateEvery * number →
      evaluateEvery * number ≤ (classified after.committed tenant cohortId).length →
        Evaluating world tenant cohortId (evaluateEvery * number) := by
  cases advance with
  | idle same =>
      rw [same]
      exact ⟨threaded, fun _ _ _ below above => absurd above (Nat.not_le.2 below)⟩
  | clock ticks moved =>
      rw [moved]
      exact ⟨threaded, fun _ _ _ below above => absurd above (Nat.not_le.2 below)⟩
  | commit index session out found commits since wrote path =>
      refine ⟨(classified_of_path sane.linked threaded path).1, ?_⟩
      intro tenant cohortId number below above
      rw [wrote] at path above
      obtain ⟨turn, view, member, enough⟩ := evaluated_of_crossing sane threaded found commits
        (fresh index session out rfl found commits) path below above
      exact ⟨index, session, view, found, turn, member, enough⟩

/-- The brake is not skipped as long as no transaction that brings a cohort to a multiple
of ten has missed a reply at its count. -/
theorem crossings_overseen (quiet : start.sessions = []) (linked : Linked start.committed.ledger)
    (threaded : Threaded start.committed.ledger)
    (trace : Trace (service site) CountsAll start past world) (tenant cohortId : String)
    (number : Nat)
    (below : ∃ step ∈ past,
      (classified step.1.committed tenant cohortId).length < evaluateEvery * number)
    (above : evaluateEvery * number ≤ (classified world.committed tenant cohortId).length) :
    Overseen past tenant cohortId number := by
  have free : ∀ world action, CountsAll world action →
      Vouched (fun _ _ _ _ => True) world action := vouched_free
  have holds := invariant_of_trace (fun past world => Threaded world.committed.ledger ∧
    ((∃ step ∈ past, (classified step.1.committed tenant cohortId).length <
        evaluateEvery * number) →
      evaluateEvery * number ≤ (classified world.committed tenant cohortId).length →
        Overseen past tenant cohortId number)) free ?_ quiet linked ⟨threaded, ?_⟩ trace
  · exact holds.2.2 below above
  · intro past world action after _ sane ⟨threaded, overseen⟩ fresh step advance
    obtain ⟨stays, crosses⟩ := crossing_of_advance sane threaded fresh advance
    refine ⟨stays, fun below above => ?_⟩
    by_cases early : (classified world.committed tenant cohortId).length < evaluateEvery * number
    · have more : evaluateEvery * number < evaluateEvery * (number + 1) := by
        unfold evaluateEvery
        omega
      refine ⟨(world, action), List.mem_append_right _ List.mem_cons_self, early.trans more, ?_⟩
      exact crosses tenant cohortId number early above
    · have before : ∃ step ∈ past, (classified step.1.committed tenant cohortId).length <
          evaluateEvery * number := by
        obtain ⟨step, member, below⟩ := below
        rcases List.mem_append.1 member with earlier | last
        · exact ⟨step, earlier, below⟩
        · rw [List.mem_singleton.1 last] at below
          exact absurd below early
      obtain ⟨step, member, evaluated⟩ := overseen before (Nat.not_lt.1 early)
      exact ⟨step, List.mem_append_left _ member, evaluated⟩
  · rintro ⟨_, member, _⟩
    cases member

end Runs

section Sample

/-- Replies in order are sorted as they stand. -/
def classifiedQuick (db : Database) (tenant cohortId : String) : List Intent :=
  let rows := (db.replies.select fun _ row => row.intent.isSome &&
    (db.prospects.lookup row.prospectId).any fun prospect =>
      prospect.cohortId = cohortId && db.tenants.lookup prospect.tenantId = some tenant)
  if (rows.map Prod.snd).Pairwise fun first second =>
      decide (second.receivedAt ≤ first.receivedAt) = true then
    (rows.map Prod.snd).filterMap Reply.intent
  else classified db tenant cohortId

theorem classified_quick : classified = classifiedQuick := by
  funext db tenant cohortId
  unfold classifiedQuick
  dsimp only
  split_ifs with ordered
  · unfold classified
    dsimp only
    rw [List.mergeSort_of_pairwise ordered]
  · rfl

/-- `classify`, with a sort that can be evaluated. -/
def quickClassify : { program : Deployment → Uuid → Prog Unit // classify = program } :=
  ⟨_, by
    delta classify maybeEvaluate evaluateCohort
    rw [classified_quick]⟩

def quickHandler : { program : Deployment → Job → Prog Unit // handler = program } :=
  ⟨_, by
    delta handler
    rw [quickClassify.2]⟩

def sortedService (site : Deployment) :
    Service Database RowLock Exc Mark Call Call.Answer Op Out :=
  { service site with
    program := fun op => match op with
      | .handle job => unitOut (quickHandler.1 site job)
      | other => other.program site }

theorem service_sorted (site : Deployment) : service site = sortedService site := by
  have same : Op.program site = (sortedService site).program := by
    funext op
    cases op with
    | handle job =>
        change unitOut (handler site job) = unitOut (quickHandler.1 site job)
        rw [← quickHandler.2]
    | _ => rfl
  unfold service
  rw [same]
  rfl

def sourReply (intent : Option Intent) : Reply where
  prospectId := 3
  touchId := 4
  body := some "No".toList
  intent := intent
  receivedAt := sampleClock

def classifyJob (number : Nat) : JobRow where
  queue := .classify
  payload := .reply (100 + number)
  idempotencyKey := .classify (100 + number)
  runAfter := sampleClock + number

/-- Some hostile replies are classified, and further ones wait for it. -/
def sourWorld (judged waiting : Nat) : World where
  committed := { sampleDatabase with
    replies := (List.range waiting).foldl (fun table number =>
        table.insert (100 + number) (sourReply none))
      ((List.range judged).foldl (fun table number =>
        table.insert (150 + number) (sourReply (some .hostile))) Table.empty)
    jobs := (List.range waiting).foldl (fun table number =>
      table.insert (200 + number) (classifyJob number)) Table.empty
    jobIndex := (List.range waiting).foldl (fun table number =>
      table.insert (.classify (100 + number)) (200 + number)) Table.empty }

/-- The services answer that a reply is hostile. -/
def hostile (index count id : Nat) : Move :=
  .inr (fun
    | .classifyReply _ => .ok { intent := .hostile, confidence := 1 }
    | query => sampleReply sampleClock id query, index, count)

/-- A worker takes one of the replies and is about to commit its classification. -/
def takes (index : Nat) : List Move :=
  [begin (.lease .classify), go index 2, hostile index 7 (300 + index), .inl (.advance 1)]

/-- So many workers do so at once. -/
def takeTogether (workers : Nat) : List Move :=
  (List.range workers).flatMap takes ++ (List.range workers).map fun index => .inl (.finish index)

/-- `UpToDate`, tried on one statement. -/
def upToDateHere (committed : Database) (entry : Mark × Database) : Bool :=
  match entry.1 with
  | .countReplies tenant cohortId | .evaluateCohort tenant cohortId =>
      (classifiedIds committed tenant cohortId).all fun id =>
        (classifiedIds entry.2 tenant cohortId).contains id
  | _ => true

theorem upToDateHere_sound {committed : Database} {entry : Mark × Database}
    (checked : upToDateHere committed entry = true) : UpToDate committed entry := by
  have current : ∀ tenant cohortId, ((classifiedIds committed tenant cohortId).all fun id =>
      (classifiedIds entry.2 tenant cohortId).contains id) = true →
      ∀ id, committed.ledger.Classified tenant cohortId id →
        entry.2.ledger.Classified tenant cohortId id := by
    intro tenant cohortId all id classified
    have inside := List.all_eq_true.1 all id ((mem_classifiedIds committed).2 classified)
    exact (mem_classifiedIds entry.2).1 (List.contains_iff_mem.1 inside)
  obtain ⟨mark, view⟩ := entry
  cases mark with
  | countReplies tenant cohortId => exact fun _ => current tenant cohortId checked
  | evaluateCohort tenant cohortId => exact fun _ => current tenant cohortId checked
  | _ => trivial

def countsAllHere (world : World) : Act → Bool
  | .finish index => (world.session index).all fun session =>
      session.txn.seen.all (upToDateHere world.committed)
  | _ => true

theorem countsAllHere_sound (world : World) (action : Act)
    (checked : countsAllHere world action = true) : CountsAll world action := by
  rintro index session out rfl found _ entry member
  have each := (Option.all_eq_true _ _).1 checked session found
  exact upToDateHere_sound (List.all_eq_true.1 each entry member)

/-- One worker classifies the tenth reply. -/
theorem tenth_reply_evaluated : ∃ past world,
    Trace (service sampleDeployment) CountsAll (sourWorld 9 1) past world ∧
    Overseen past "acme" "austin" 1 := by
  have tried : ((sortedService sampleDeployment).scriptChecked countsAllHere
      ([begin (.lease .classify), go 0 2, hostile 0 12 300]) (sourWorld 9 1)).any (fun world =>
        decide (10 ≤ (classifiedIds world.committed "acme" "austin").length)) = true := by
    decide +kernel
  rw [← service_sorted] at tried
  obtain ⟨world, played, seen⟩ := (Option.any_eq_true _ _).1 tried
  obtain ⟨past, trace⟩ := trace_of_run (run_of_scriptChecked (service sampleDeployment)
    countsAllHere_sound played)
  have linked : Linked (sourWorld 9 1).committed.ledger :=
    ⟨sample_linked.entityOf, sample_linked.prospectOf, sample_linked.taskProspect,
      sample_linked.taskTouch⟩
  have threaded : Threaded (sourWorld 9 1).committed.ledger := by
    intro id reply found
    have stored : (id, reply) ∈ (sourWorld 9 1).committed.replies.rows :=
      (Table.lookup_eq_some_iff _ _ _).1 found
    have sour : ∀ entry ∈ (sourWorld 9 1).committed.replies.rows, entry.2.prospectId = 3 := by
      decide +kernel
    rw [sour _ stored]
    rfl
  have many : 10 ≤ (classified world.committed "acme" "austin").length := by
    rw [length_classified]
    exact of_decide_eq_true seen
  have few : (classified (sourWorld 9 1).committed "acme" "austin").length < 10 := by
    rw [length_classified]
    decide +kernel
  refine ⟨past, world, trace, crossings_overseen rfl linked threaded trace _ _ 1 ?_ many⟩
  rcases start_of_trace trace with ⟨_, rfl⟩ | ⟨action, member⟩
  · omega
  · exact ⟨_, member, few⟩

/-- No session has had the cohort evaluated. -/
def Unevaluated (world : World) (_ : Act) : Prop :=
  ∀ tenant cohortId count, ¬ Evaluating world tenant cohortId count

def unevaluatedHere (world : World) (_ : Act) : Bool :=
  world.sessions.all fun entry => entry.all fun session => session.txn.seen.all fun shown =>
    match shown.1 with
    | .evaluateCohort _ _ => false
    | _ => true

theorem unevaluatedHere_sound (world : World) (action : Act)
    (checked : unevaluatedHere world action = true) : Unevaluated world action := by
  rintro tenant cohortId count ⟨index, session, view, found, _, member, _⟩
  have inside : some session ∈ world.sessions :=
    List.mem_of_getElem? (Option.join_eq_some_iff.1 found)
  have none_ := List.all_eq_true.1 ((Option.all_eq_true _ _).1
    (List.all_eq_true.1 checked _ inside) session rfl) _ member
  cases none_

/-- Twelve workers each classify one more reply where eight are classified: all count nine,
and the cohort comes to twenty. -/
theorem classifications_step_over : ∃ past world,
    Trace (service sampleDeployment) unrestricted (sourWorld 8 12) past world ∧
    (∃ step ∈ past, (classified step.1.committed "acme" "austin").length < evaluateEvery * 1) ∧
    evaluateEvery * 2 ≤ (classified world.committed "acme" "austin").length ∧
    ¬ Overseen past "acme" "austin" 1 := by
  have tried : ((sortedService sampleDeployment).scriptChecked unevaluatedHere
      (takeTogether 12) (sourWorld 8 12)).any (fun world =>
        decide (20 ≤ (classifiedIds world.committed "acme" "austin").length)) = true := by
    decide +kernel
  rw [← service_sorted] at tried
  obtain ⟨world, played, seen⟩ := (Option.any_eq_true _ _).1 tried
  obtain ⟨past, trace⟩ := trace_of_run (run_of_scriptChecked (service sampleDeployment)
    unevaluatedHere_sound played)
  have many : 20 ≤ (classified world.committed "acme" "austin").length := by
    rw [length_classified]
    exact of_decide_eq_true seen
  have few : (classified (sourWorld 8 12).committed "acme" "austin").length < 10 := by
    rw [length_classified]
    decide +kernel
  refine ⟨past, world, trace.weaken fun _ _ _ => trivial, ?_, many, ?_⟩
  · rcases start_of_trace trace with ⟨_, rfl⟩ | ⟨action, member⟩
    · omega
    · exact ⟨_, member, few⟩
  · rintro ⟨step, member, _, evaluating⟩
    exact allowed_of_mem trace member _ _ _ evaluating

end Sample

end OpenReachout
