import OpenReachout.Agents.Conversations
import OpenReachout.Outreach.Discipline
import OpenReachout.Properties.Exchanges

/-!
# Groundedness

Which drafts a model has been asked to judge before they were queued. The gate compares
a hash with itself; that a message has been judged rests on the composer it comes from.
-/

namespace OpenReachout

open Relational Relational.Program Text

set_option autoImplicit false

variable {site : Deployment} {heard : (call : Call) → call.Answer → Prop}

section Sources

/-- A body, or the body with the tokens of a touch in its links. -/
def LinkedTo (site : Deployment) (id : Uuid) (body text : List Char) : Prop :=
  text = body ∨ ∃ key, text = tokenizeLinks site.platform body id key

/-- The touch carries the draft, but for the tokens of its links and for what has been
erased. -/
structure Carries (site : Deployment) (id : Uuid) (item : Touch) (draft : Draft) : Prop where
  subject : Fading (some draft.subject) item.subject
  body : ∃ text, LinkedTo site id draft.body text ∧ Fading (some text) item.body

theorem bound_linked (site : Deployment) (id : Uuid) (kind : TouchKind) (draft : Draft)
    (hash : String) :
    (boundDraft site id kind draft hash).1.subject = draft.subject ∧
      LinkedTo site id draft.body (boundDraft site id kind draft hash).1.body := by
  unfold boundDraft
  split
  · exact ⟨rfl, Or.inl rfl⟩
  · next key _ =>
      dsimp only
      split_ifs
      · exact ⟨rfl, Or.inl rfl⟩
      · exact ⟨rfl, Or.inl rfl⟩
      · exact ⟨rfl, Or.inr ⟨key, rfl⟩⟩

/-- Where a touch comes from: an instruction to a human, or a composer that has been
heard. -/
inductive Sourced (site : Deployment) (heard : (call : Call) → call.Answer → Prop) (id : Uuid)
    (item : Touch) : Prop where
  | instruction (kind : item.kind = .humanTask)
  | composed (ordinary : item.exchange = false) (inputs : ComposeInputs) (result : ComposeResult)
      (answered : heard (.compose inputs) (.ok result))
      (carries : Carries site id item result.draft)
  | replied (exchange : item.exchange = true) (body : List Char) (counter signup : Option String)
      (result : ComposeResult) (answered : heard (.composeReply body counter signup) (.ok result))
      (carries : Carries site id item result.draft)

/-- A write leaves the touches alone, or adds one whose source has been heard. -/
inductive Sources (site : Deployment) (heard : (call : Call) → call.Answer → Prop)
    (write : Write Database RowLock) : Prop where
  | apart (same : untouching.write write)
  | adds (id : Uuid) (item : Touch) (sourced : Sourced site heard id item)
      (wrote : write = Write.insert Tables.touches id item)

theorem told_apart {Value : Type} {program : Prog Value} (within_ : Within untouching program) :
    Told heard (Sources site heard) program :=
  told_of_within within_ fun _ same => Sources.apart same

theorem told_insertTouch {id : Uuid} {item : Touch} (sourced : Sourced site heard id item) :
    Told heard (Sources site heard) (insertTouch id item) := by
  unfold insertTouch
  apply told_perform
  intro moment db effect success
  dsimp only at success
  split at success
  · cases success
  · cases success
  · obtain rfl := Except.ok.inj success
    exact .adds id item sourced rfl

theorem told_queueDraft (prospectId : Uuid) (campaignId : String) (variantId : Option String)
    (stepIndex : Nat) (kind : TouchKind) (draft : Draft) (hash : String) (approveFirst : Nat)
    (sourced : ∀ id item, item.kind = kind → item.campaignId = campaignId →
      Carries site id item draft → Sourced site heard id item) :
    Told heard (Sources site heard)
      (queueDraft site prospectId campaignId variantId stepIndex kind draft hash approveFirst) := by
  unfold queueDraft
  refine told_bind (told_apart Ordinary.within_freshUuid) fun touchId => ?_
  dsimp only
  refine told_bind (told_apart (Ordinary.within_holdForReview _ _ _)) fun hold => ?_
  refine told_bind (told_insertTouch ?_) fun _ => ?_
  · obtain ⟨subject, body⟩ := bound_linked site touchId kind draft hash
    refine sourced touchId _ rfl rfl ⟨Or.inl ?_, _, body, Or.inl rfl⟩
    rw [subject]
  · split
    · refine told_bind (told_apart (within_untouching_enqueue _ _ _ _ _)) fun _ => ?_
      exact told_pure _
    · exact told_pure _

theorem told_createForStep (platform : Platform) (tenant : String) (prospectId : Uuid)
    (campaignId : String) (stepIndex : Nat) (instruction valueProp : String) :
    Told heard (Sources site heard)
      (createForStep platform tenant prospectId campaignId stepIndex instruction valueProp) := by
  have tasks : untouching.Changes Tables.humanTasks := fun _ _ _ _ _ => rfl
  unfold createForStep
  refine told_bind (told_apart Ordinary.within_freshUuid) fun touchId => ?_
  refine told_bind (told_insertTouch (.instruction rfl)) fun _ => ?_
  refine told_bind (told_apart (Ordinary.within_assembleBrief _ _ _ _)) fun brief => ?_
  refine told_bind (told_apart Ordinary.within_freshUuid) fun taskId => ?_
  refine told_bind (told_apart
    (within_insertRow untouching.marks_none tasks _ _ _ _)) fun _ => ?_
  refine told_bind (told_apart (within_untouching_audit _ _ _ _ _)) fun _ => ?_
  exact told_pure _

/-- A message of the composer. -/
theorem told_composed {campaignId : String} {inputs : ComposeInputs} {result : ComposeResult}
    (prospectId : Uuid) (variantId : Option String) (stepIndex : Nat) (kind : TouchKind)
    (approveFirst : Nat)
    (ordinary : kind ≠ .agenticReply ∨
      ":agentic_reply".toList.isSuffixOf campaignId.toList ≠ true)
    (answered : heard (.compose inputs) (.ok result)) :
    Told heard (Sources site heard)
      (queueDraft site prospectId campaignId variantId stepIndex kind result.draft
        result.contentSha256 approveFirst) := by
  apply told_queueDraft
  intro id item which campaign carries
  refine .composed ?_ inputs result answered carries
  unfold Touch.exchange
  rw [which, campaign, Bool.and_eq_false_iff, decide_eq_false_iff_not]
  exact ordinary.imp_right fun apart => Bool.eq_false_iff.2 apart

theorem told_composeOrEscalate {Value : Type} (tenant : String) (prospectId : Uuid) (what : String)
    (inputs : ComposeInputs) {rest : Option ComposeResult → Prog Value}
    (composed : ∀ result, heard (.compose inputs) (.ok result) →
      Told heard (Sources site heard) (rest (some result)))
    (escalated : Told heard (Sources site heard) (rest none)) :
    Told heard (Sources site heard)
      (composeOrEscalate tenant prospectId what inputs >>= rest) := by
  unfold composeOrEscalate
  intro answer given
  match answer with
  | .ok result => exact composed result given
  | .error error =>
      change Told heard (Sources site heard) (Program.bind (ite _ _ _) rest)
      split
      · exact told_into (told_apart (within_untouching_escalate _ _ _ _ _)) escalated
      · exact told_throw _

theorem told_composeStep (prospectId : Uuid) (stepIndex : Nat) (runtime : TenantRuntime)
    (persona : PersonaSpec) (candidate : Candidate) (card : List Fact) :
    Told heard (Sources site heard)
      (composeStep site prospectId stepIndex runtime persona candidate card) := by
  unfold composeStep
  split
  · exact told_bind (told_createForStep _ _ _ _ _ _ _) fun _ => told_pure _
  · dsimp only
    split
    · exact told_bind (told_apart (within_untouching_releaseSequence _)) fun _ => told_pure _
    · refine told_bind (told_apart (Ordinary.within_selectVariant _ _)) fun variant => ?_
      refine told_composeOrEscalate _ _ _ _ (fun result answered => ?_) (told_pure _)
      refine told_bind (told_composed _ _ _ _ _ (Or.inl ?_) answered) fun _ => told_pure _
      split_ifs <;> decide

theorem told_composeHandler (prospectId : Uuid) (stepIndex : Nat) :
    Told heard (Sources site heard) (composeHandler site prospectId stepIndex) := by
  unfold composeHandler
  refine told_bind (told_apart (Ordinary.within_personaAndCandidate _ _ _)) fun loaded => ?_
  refine told_bind (told_apart (Ordinary.within_loadCard _)) fun card => ?_
  split
  · exact told_composeStep _ _ _ _ _ _
  · split
    · exact told_bind (told_apart (within_untouching_releaseSequence _)) fun _ => told_pure _
    · exact told_pure _

theorem told_processPositiveEvent (prospectId : Uuid) :
    Told heard (Sources site heard) (processPositiveEvent site prospectId) := by
  have entities : untouching.Changes Tables.entities := fun _ _ _ _ _ => rfl
  unfold processPositiveEvent
  refine told_bind (told_apart (Ordinary.within_personaAndCandidate _ _ _)) fun loaded => ?_
  refine told_bind (told_apart (Ordinary.within_loadCard _)) fun card => ?_
  split
  · split
    · exact told_pure _
    · refine told_bind (told_apart (within_update entities _ _)) fun claimed => ?_
      split
      · exact told_pure _
      · refine told_composeOrEscalate _ _ _ _ (fun result answered => ?_) (told_pure _)
        dsimp only
        split
        · exact told_bind (told_createForStep _ _ _ _ _ _ _) fun _ => told_pure _
        · refine told_bind (told_composed _ _ _ _ _ (Or.inr ?_) answered) fun _ => told_pure _
          exact not_exchange _ (by decide) (by decide)
  · exact told_pure _

theorem told_reengage (prospectId : Uuid) :
    Told heard (Sources site heard) (reengage site prospectId) := by
  unfold reengage
  refine told_bind (told_apart (Ordinary.within_personaAndCandidate _ _ _)) fun loaded => ?_
  split
  · split
    · exact told_apart (within_untouching_escalate _ _ _ _ _)
    · refine told_bind (told_apart (Ordinary.within_loadCard _)) fun card => ?_
      refine told_composeOrEscalate _ _ _ _ (fun result answered => ?_) (told_pure _)
      refine told_bind (told_composed _ _ _ _ _ (Or.inr ?_) answered) fun _ => told_pure _
      exact not_exchange _ (by decide) (by decide)
  · exact told_pure _

/-- An answer in a conversation. -/
theorem told_queueAgenticReply (decision : RouteDecision) (replyId prospectId : Uuid)
    (tenant : String) :
    Told heard (Sources site heard)
      (queueAgenticReply site decision replyId prospectId tenant) := by
  have replies : untouching.Changes Tables.replies := fun _ _ _ _ _ => rfl
  unfold queueAgenticReply
  split
  · exact told_pure _
  · refine told_bind (told_apart (within_update replies _ _)) fun rows => ?_
    split
    · exact told_pure _
    · refine told_bind (told_apart (within_query _)) fun personaId => ?_
      apply told_ask
      intro answer given
      match answer with
      | .error error =>
          dsimp only
          split
          · exact told_apart (within_untouching_escalate _ _ _ _ _)
          · exact told_throw _
      | .ok result =>
          refine told_bind (told_queueDraft _ _ _ _ _ _ _ _ ?_) fun _ => told_pure _
          intro id item kind campaign carries
          refine .replied ?_ _ _ _ result given carries
          unfold Touch.exchange
          rw [kind, campaign, Bool.and_eq_true, String.toList_append, List.isSuffixOf_iff_suffix]
          exact ⟨rfl, List.suffix_append _ _⟩

theorem told_judged (decision : RouteDecision) (replyId prospectId : Uuid)
    (emailCanonical : Option String) (tenant cohortId : String) :
    Told heard (Sources site heard)
      (concludeReply site decision replyId prospectId emailCanonical tenant cohortId) := by
  have evaluated : Told heard (Sources site heard)
      (evaluateReply decision replyId tenant cohortId) :=
    told_apart (within_untouching_evaluateReply _ _ _ _)
  unfold concludeReply
  refine told_bind (told_apart (within_untouching_judge _ _ _)) fun _ => ?_
  refine told_bind (told_apart (within_untouching_applyDecision _ _ _ _ _)) fun _ => ?_
  dsimp only
  split
  · exact told_bind (told_queueAgenticReply _ _ _ _) fun _ => evaluated
  · exact evaluated

theorem told_classified (replyId : Uuid) :
    Told heard (Sources site heard) (classify site replyId) := by
  unfold classify
  refine told_bind (told_apart (within_query _)) fun row => ?_
  cases row with
  | none => exact told_throw _
  | some loaded =>
      obtain ⟨reply, prospect, tenant⟩ := loaded
      dsimp only
      split
      · exact told_pure _
      · refine told_bind (told_apart (within_untouching_releaseSequence _)) fun _ => ?_
        refine told_bind (told_apart (Ordinary.within_route _ _ _)) fun decision => ?_
        split
        · refine told_bind (told_apart (within_query _)) fun variantId => ?_
          split
          · refine told_bind (told_apart (within_untouching_recordSuccess _ _)) fun _ => ?_
            refine told_bind (told_apart (within_untouching_enqueue _ _ _ _ _)) fun _ => ?_
            exact told_judged decision replyId _ _ _ _
          · refine told_bind (told_apart (within_untouching_enqueue _ _ _ _ _)) fun _ => ?_
            exact told_judged decision replyId _ _ _ _
        · exact told_judged decision replyId _ _ _ _

end Sources

section Programs

/-- What adds no touch. -/
def unadding : Allowed where
  mark _ := True
  write write := ∀ db id, (Database.touches db).lookup id = none →
    (write.apply db).touches.lookup id = none
  idle _ _ absent := absent

theorem unadding_liberal : Liberal unadding where
  marks _ _ := trivial
  entities _ _ _ _ _ _ absent := absent
  prospects _ _ _ _ _ _ absent := absent
  prospectIndex _ _ _ _ _ _ absent := absent
  evidenceFacts _ _ _ _ _ _ absent := absent
  touches keys chosen change db id absent := by
    change ((Database.touches db).modify _ change).lookup id = none
    rw [Table.lookup_modify, absent]
    rfl
  decisionTraces _ _ _ _ _ _ absent := absent
  received _ _ _ _ absent := absent
  exchanged _ _ _ _ absent := absent
  replies _ _ _ _ _ _ absent := absent
  suppressions _ _ _ _ _ _ absent := absent
  forgetTombstones _ _ _ _ _ _ absent := absent
  controlFlags _ _ _ _ _ _ absent := absent
  counters _ _ _ _ _ _ absent := absent
  mailboxCounters _ _ _ _ _ absent := absent
  capped _ _ _ _ _ _ absent := absent
  providerEvents _ _ _ _ absent := absent
  jobs _ _ _ _ _ _ absent := absent
  jobIndex _ _ _ _ _ _ absent := absent
  mailboxes _ _ _ _ _ _ absent := absent
  variantStats _ _ _ _ _ _ absent := absent
  humanTasks _ _ _ _ _ _ absent := absent
  operatorEvents _ _ _ _ _ _ absent := absent
  operatorEventIndex _ _ _ _ _ _ absent := absent
  escalations _ _ _ _ _ _ absent := absent
  proposals _ _ _ _ _ _ absent := absent
  audited _ _ _ _ absent := absent
  braked _ _ _ _ absent := absent
  moved _ _ _ _ absent := absent
  objections _ _ _ absent := absent

theorem within_unadding {op : Op} (idle : ¬ op.inserts) :
    Within unadding (op.program site) :=
  within_program unadding_liberal op (fun _ => ⟨fun _ _ _ _ _ _ absent => absent⟩)
    (fun _ => ⟨fun _ _ _ _ absent => absent⟩) (fun inserts => absurd inserts idle)
    fun _ _ _ _ => trivial

/-- The handlers that insert touches have heard where these come from. -/
theorem told_handler {job : Job} (inserts : (Op.handle job).inserts) :
    Told heard (Sources site heard) (handler site job) := by
  obtain ⟨id, queue, payload, attempts, limit⟩ := job
  unfold Op.inserts at inserts
  unfold handler
  dsimp only at inserts ⊢
  split
  · simp at inserts
  · simp at inserts
  · exact told_classified _
  · simp at inserts
  · exact told_composeHandler _ _
  · exact told_processPositiveEvent _
  · exact told_reengage _
  · simp at inserts
  · simp at inserts
  · simp at inserts
  · simp at inserts
  · exact told_throw _

/-- What an operation writes of touches: where it inserts them, their sources have been
heard. -/
def sourcing (site : Deployment) (whole : History) (op : Op) (write : Write Database RowLock) :
    Prop :=
  (op.inserts → Sources site (Heard whole op) write) ∧ (¬ op.inserts → unadding.write write)

theorem told_sourcing (whole : History) (op : Op) :
    Told (Heard whole op) (sourcing site whole op) (op.program site) := by
  by_cases inserts : op.inserts
  · have told : Told (Heard whole op) (Sources site (Heard whole op)) (op.program site) := by
      cases op with
      | handle job => exact told_bind (told_handler inserts) fun _ => told_pure _
      | _ => exact absurd inserts id
    exact told_mono (fun write sources => ⟨fun _ => sources, fun idle => absurd inserts idle⟩) told
  · refine told_of_within (within_unadding inserts) fun write keeps => ?_
    exact ⟨fun some_ => absurd some_ inserts, fun _ => keeps⟩

end Programs

section Runs

variable {past whole : History} {start world later : World} {l after : Ledger} {id : Uuid}
variable {old new item : Touch}

theorem carries_later {draft : Draft} (kept : old.Later new) (carries : Carries site id old draft) :
    Carries site id new draft := by
  obtain ⟨subject, text, linked, body⟩ := carries
  exact ⟨fading_trans subject kept.subject, text, linked, fading_trans body kept.body⟩

theorem sourced_later (kept : old.Later new) (sourced : Sourced site heard id old) :
    Sourced site heard id new := by
  have exchange : new.exchange = old.exchange := by
    unfold Touch.exchange
    rw [kept.kind, kept.campaignId]
  cases sourced with
  | instruction kind => exact .instruction (kept.kind.trans kind)
  | composed ordinary inputs result answered carries =>
      exact .composed (exchange.trans ordinary) inputs result answered (carries_later kept carries)
  | replied turn body counter signup result answered carries =>
      exact .replied (exchange.trans turn) body counter signup result answered
        (carries_later kept carries)

theorem sourced_mono {more : (call : Call) → call.Answer → Prop}
    (wider : ∀ call answer, heard call answer → more call answer)
    (sourced : Sourced site heard id item) : Sourced site more id item := by
  cases sourced with
  | instruction kind => exact .instruction kind
  | composed ordinary inputs result answered carries =>
      exact .composed ordinary inputs result (wider _ _ answered) carries
  | replied turn body counter signup result answered carries =>
      exact .replied turn body counter signup result (wider _ _ answered) carries

/-- An instruction to a human never comes near the gates. -/
def Touch.Manual (item : Touch) : Prop :=
  item.kind = .humanTask →
    item.status ≠ .pendingReview ∧ item.status ≠ .drafted ∧ item.status ≠ .dispatched

theorem manual_step {op : Op} {vouch : Mark → Ledger → Prop} {begin_ : Ledger}
    (step : TouchStep vouch op begin_ l after id old new) (manual : old.Manual) : new.Manual := by
  intro kind
  cases step with
  | approve actor which held queued => exact absurd held (manual kind).1
  | reject actor note which held => exact absurd held (manual kind).1
  | refuse which vouched => exact ⟨nofun, nofun, nofun⟩
  | send lead owner mailbox ref sendable vouched =>
      exact absurd sendable.drafted (manual kind).2.1
  | webhook out => exact ⟨nofun, nofun, nofun⟩
  | settle taskId actor note finished task which found pending mine closed =>
      cases finished with
      | true => exact ⟨nofun, nofun, nofun⟩
      | false => exact ⟨nofun, nofun, nofun⟩
  | lapse taskId task which found pending mine closed => exact ⟨nofun, nofun, nofun⟩
  | erase ref which => exact manual kind

/-- The touches that have been added since `base` and are meant for a human. -/
def Manually (base l : Ledger) : Prop :=
  ∀ id item, l.touches id = some item → base.touches id = none → item.Manual

theorem manually_path {op : Op} {vouch : Mark → Ledger → Prop} {base begin_ : Ledger}
    (path : Relation.ReflTransGen (Deed site vouch op begin_) l after)
    (manually : Manually base l) : Manually base after := by
  induction path with
  | refl => exact manually
  | tail _ deed induction =>
      intro id item present absent
      rcases touch_of_deed deed present with same | ⟨_, inserted⟩ | ⟨old, found, step⟩
      · exact induction id item same absent
      · cases inserted with
        | held status drafting met =>
            intro kind
            cases drafting with
            | step composes which seen since lead found state =>
                rw [which] at kind
                split_ifs at kind
            | reply which step turn =>
                rw [which] at kind
                cases kind
        | drafted status drafting queued met =>
            intro kind
            cases drafting with
            | step composes which seen since lead found state =>
                rw [which] at kind
                split_ifs at kind
            | reply which step turn =>
                rw [which] at kind
                cases kind
        | parked status which met =>
            intro kind
            rw [status]
            exact ⟨nofun, nofun, nofun⟩
      · exact manual_step step (induction id old found absent)

/-- The touches that have been added since `base` come from somewhere. -/
def Accounted (site : Deployment) (past : History) (base l : Ledger) : Prop :=
  ∀ id item, l.touches id = some item → base.touches id = none →
    ∃ op, Sourced site (Heard past op) id item

theorem accounted_mono {base : Ledger} (more : past ⊆ whole)
    (accounted : Accounted site past base l) : Accounted site whole base l := by
  intro id item present absent
  obtain ⟨op, sourced⟩ := accounted id item present absent
  exact ⟨op, sourced_mono (fun _ _ heard => heard_mono more heard) sourced⟩

/-- What a transaction that inserts touches makes of them. -/
def Sourcing (site : Deployment) (heard : (call : Call) → call.Answer → Prop)
    (before db : Database) : Prop :=
  ∀ id item, db.touches.lookup id = some item →
    before.touches.lookup id = some item ∨ Sourced site heard id item

theorem sourcing_write {before db : Database} {write : Write Database RowLock}
    (sources : Sources site heard write) (sourcing : Sourcing site heard before db) :
    Sourcing site heard before (write.apply db) := by
  intro id item present
  cases sources with
  | apart same =>
      rw [same db] at present
      exact sourcing id item present
  | adds other new sourced wrote =>
      subst wrote
      change ((Database.touches db).insert other new).lookup id = some item at present
      rw [Table.lookup_insert] at present
      split_ifs at present with same
      · subst same
        cases found : (Database.touches db).lookup id with
        | none =>
            rw [found] at present
            obtain rfl := Option.some.inj present
            exact Or.inr sourced
        | some old =>
            rw [found] at present
            obtain rfl := Option.some.inj present
            exact sourcing id _ found
      · exact sourcing id item present

theorem accounted_commit {base : Ledger}
    {session : Session Database RowLock Exc Mark Call Call.Answer Op Out}
    (informed : Informed whole (sourcing site whole) session)
    (wrote : later.committed = session.txn.view world.committed)
    (onward : Later world.committed.ledger later.committed.ledger)
    (accounted : Accounted site whole base world.committed.ledger) :
    Accounted site whole base later.committed.ledger := by
  intro id item present absent
  change later.committed.touches.lookup id = some item at present
  by_cases inserts : session.op.inserts
  · have each : ∀ write ∈ session.txn.writes, Sources site (Heard whole session.op) write :=
      fun write member => (informed.2 write member).1 inserts
    have step : ∀ write db, Sources site (Heard whole session.op) write →
        Sourcing site (Heard whole session.op) world.committed db →
        Sourcing site (Heard whole session.op) world.committed (write.apply db) :=
      fun write db => sourcing_write
    have made : Sourcing site (Heard whole session.op) world.committed
        (session.txn.view world.committed) :=
      view_induction each step fun _ _ same => Or.inl same
    rw [wrote] at present
    rcases made id item present with old | sourced
    · exact accounted id item old absent
    · exact ⟨session.op, sourced⟩
  · have each : ∀ write ∈ session.txn.writes, unadding.write write :=
      fun write member => (informed.2 write member).2 inserts
    have step : ∀ write (db : Database), unadding.write write →
        (world.committed.touches.lookup id = none → db.touches.lookup id = none) →
        (world.committed.touches.lookup id = none → (write.apply db).touches.lookup id = none) :=
      fun write db keeps none_ missing => keeps db id (none_ missing)
    have kept : world.committed.touches.lookup id = none →
        (session.txn.view world.committed).touches.lookup id = none :=
      view_induction each step fun missing => missing
    cases found : world.committed.touches.lookup id with
    | none =>
        rw [wrote, kept found] at present
        cases present
    | some old =>
        obtain ⟨op, sourced⟩ := accounted id old found absent
        obtain ⟨next, there, moved⟩ := onward.touches id old found
        obtain rfl := Option.some.inj (there.symm.trans present)
        exact ⟨op, sourced_later moved sourced⟩

/-- Every touch of a run comes from a composer that has been heard, or is an instruction
to a human, which is never sent. -/
theorem touches_sourced {allowed : World → Act → Prop} (quiet : start.sessions = [])
    (linked : Linked start.committed.ledger)
    (trace : Trace (service site) allowed start past world) :
    Accounted site past start.committed.ledger world.committed.ledger ∧
      Manually start.committed.ledger world.committed.ledger := by
  have free : ∀ world action, allowed world action → Vouched (fun _ _ _ _ => True) world action :=
    vouched_free
  refine (invariant_of_trace (fun past world =>
    Accounted site past start.committed.ledger world.committed.ledger ∧
      Manually start.committed.ledger world.committed.ledger) free ?_ quiet linked ⟨?_, ?_⟩ trace).2
  · intro past middle action later before sane holds permitted step advance
    have more : past ⊆ past ++ [(middle, action)] := List.subset_append_left _ _
    have onward := later_advance advance
    have accounted := accounted_mono more holds.1
    cases advance with
    | idle same =>
        rw [same]
        exact ⟨accounted, holds.2⟩
    | clock ticks moved =>
        rw [moved]
        exact ⟨accounted, holds.2⟩
    | commit index session out found commits since wrote path =>
        have informed := told_of_trace (told_sourcing _) quiet before more
        exact ⟨accounted_commit (informed index session found) wrote onward accounted,
          manually_path path holds.2⟩
  · intro id item present absent
    rw [absent] at present
    cases present
  · intro id item present absent
    rw [absent] at present
    cases present

end Runs

section Audits

variable {past : History} {start world : World} {id : Uuid} {item : Touch}

/-- What a composer hands to the handler that has called it. -/
def handed (result : Agents.ComposeResult) : ComposeResult :=
  ⟨result.draft, result.contentSha256⟩

/-- The calls of the composers are answered by the composers, with some model and some
inputs. -/
def Composing (site : Deployment) (world : World) : Act → Prop
  | .answer index reply => ∀ op call next txn,
      world.session index = some ⟨op, .call call next, txn⟩ →
        (∀ inputs, call = .compose inputs → ∃ llm brief, reply (.compose inputs) =
          (Agents.compose site.runtime llm (injectionSuspects site.platform) brief []).1.map
            handed) ∧
        ∀ body counter signup, call = .composeReply body counter signup →
          ∃ llm inputs, reply (.composeReply body counter signup) =
            (Agents.composeReply site.runtime llm inputs []).1.map fun result =>
              ⟨result.1, result.2⟩
  | _ => True

/-- An audit has judged a draft that the touch carries. -/
def Audited (site : Deployment) (past : History) (id : Uuid) (item : Touch) : Prop :=
  ∃ (op : Op) (inputs : ComposeInputs) (llm : Agents.Backend) (brief : Agents.ComposeInputs)
    (result : Agents.ComposeResult) (conversation : List Agents.Exchange),
    Heard past op (.compose inputs) (.ok (handed result)) ∧
      Agents.compose site.runtime llm (injectionSuspects site.platform) brief [] =
        (.ok result, conversation) ∧
      JudgedGrounded conversation result.draft ∧ Carries site id item result.draft

/-- The draft that the touch carries is one of `compose_reply`, which has asked the model
for replies, and for nothing else. -/
def Unjudged (site : Deployment) (past : History) (id : Uuid) (item : Touch) : Prop :=
  ∃ (op : Op) (body : List Char) (counter signup : Option String) (llm : Agents.Backend)
    (inputs : Agents.ReplyInputs) (result : Draft × String) (conversation : List Agents.Exchange),
    Heard past op (.composeReply body counter signup) (.ok ⟨result.1, result.2⟩) ∧
      Agents.composeReply site.runtime llm inputs [] = (.ok result, conversation) ∧
      (∀ exchange ∈ conversation, ∃ prompt output, exchange = .composeReply prompt output) ∧
      Carries site id item result.1

theorem ok_of_map {Value Other : Type} {outcome : Except Exc Value} {change : Value → Other}
    {other : Other} (mapped : outcome.map change = .ok other) :
    ∃ value, outcome = .ok value ∧ change value = other := by
  cases outcome with
  | error error => cases mapped
  | ok value => exact ⟨value, rfl, Except.ok.inj mapped⟩

/-- A message that has been sent was judged, unless it answers in a conversation: then its
composer has asked for no judgement. -/
theorem message_judged (quiet : start.sessions = []) (linked : Linked start.committed.ledger)
    (trace : Trace (service site) (Composing site) start past world)
    (new : start.committed.touches.lookup id = none)
    (found : world.committed.touches.lookup id = some item) (sent : item.status = .dispatched) :
    (item.exchange = false → Audited site past id item) ∧
      (item.exchange = true → Unjudged site past id item) := by
  obtain ⟨accounted, manually⟩ := touches_sourced quiet linked trace
  obtain ⟨op, sourced⟩ := accounted id item found new
  cases sourced with
  | instruction kind => exact absurd sent (manually id item found new kind).2.2
  | composed ordinary inputs handed answered carries =>
      refine ⟨fun _ => ?_, fun exchange => absurd exchange (by rw [ordinary]; exact nofun)⟩
      have told := answered
      obtain ⟨system, index, reply, next, txn, member, session, given⟩ := told
      obtain ⟨llm, brief, same⟩ :=
        (allowed_of_mem trace member op _ next txn session).1 inputs rfl
      obtain ⟨result, composed, rfl⟩ := ok_of_map (same.symm.trans given)
      have talked : Agents.compose site.runtime llm (injectionSuspects site.platform) brief [] =
          (.ok result, (Agents.compose site.runtime llm (injectionSuspects site.platform) brief
            []).2) := Prod.ext composed rfl
      exact ⟨op, inputs, llm, brief, result, _, answered, talked,
        (accepted_of_compose talked).grounded, carries⟩
  | replied exchange body counter signup handed answered carries =>
      refine ⟨fun ordinary => absurd ordinary (by rw [exchange]; exact nofun), fun _ => ?_⟩
      have told := answered
      obtain ⟨system, index, reply, next, txn, member, session, given⟩ := told
      obtain ⟨llm, inputs, same⟩ :=
        (allowed_of_mem trace member op _ next txn session).2 body counter signup rfl
      obtain ⟨result, composed, rfl⟩ := ok_of_map (same.symm.trans given)
      have talked : Agents.composeReply site.runtime llm inputs [] =
          (.ok result, (Agents.composeReply site.runtime llm inputs []).2) := Prod.ext composed rfl
      obtain ⟨more, same, each⟩ := replies_unaudited talked
      rw [List.nil_append] at same
      refine ⟨op, body, counter, signup, llm, inputs, result, _, answered, talked, ?_, carries⟩
      rw [same]
      exact each

end Audits

section Sample

/-- A model that writes the sample draft, and finds it grounded. -/
def sampleModel : Agents.Backend where
  compose _ _ := .ok { subject := sampleSubject, body := sampleBody }
  groundedness _ _ := .ok { grounded := true }
  composeReply _ _ := .ok { subject := sampleSubject, body := sampleBody }

def sampleBrief : Agents.ComposeInputs where
  variantPrompt := "write".toList
  values := []
  validatorCtx := sampleContext
  trustedContext := []

def sampleQuestion : Agents.ReplyInputs where
  replyBody := "Is it quiet?".toList
  faq := []
  trustedContext := []
  validatorCtx := sampleContext

/-- `Composing` with the sample model, tried on one action. -/
def composingSample (site : Deployment) (world : World) : Act → Bool
  | .answer index reply =>
      match world.session index with
      | some ⟨_, .call (.compose inputs) _, _⟩ =>
          decide (reply (.compose inputs) = (Agents.compose site.runtime sampleModel
            (injectionSuspects site.platform) sampleBrief []).1.map handed)
      | some ⟨_, .call (.composeReply body counter signup) _, _⟩ =>
          decide (reply (.composeReply body counter signup) =
            (Agents.composeReply site.runtime sampleModel sampleQuestion []).1.map fun result =>
              ⟨result.1, result.2⟩)
      | _ => true
  | _ => true

theorem composingSample_sound (site : Deployment) (world : World) (action : Act)
    (checked : composingSample site world action = true) : Composing site world action := by
  cases action with
  | answer index reply =>
      intro op call next txn found
      refine ⟨?_, ?_⟩
      · rintro inputs rfl
        simp only [composingSample, found, decide_eq_true_eq] at checked
        exact ⟨sampleModel, sampleBrief, checked⟩
      · rintro body counter signup rfl
        simp only [composingSample, found, decide_eq_true_eq] at checked
        exact ⟨sampleModel, sampleQuestion, checked⟩
  | _ => trivial

/-- From its enrichment to its first message. -/
def firstMessage : List Move :=
  [begin (.lease .enrich), go 0 16 100, begin (.lease .qualify), go 1 17 200,
    begin (.lease .compose), go 2 16 300, begin (.lease .deliver), go 3 40 400]

/-- The touch is out. -/
def isOut (world : World) (id : Uuid) : Bool :=
  (world.committed.touches.lookup id).any fun item => item.status = .dispatched && !item.exchange

theorem first_message_judged : ∃ past world item,
    Trace (service pipelineDeployment) (Composing pipelineDeployment) discoveredWorld past world ∧
    world.committed.touches.lookup 300 = some item ∧ item.status = .dispatched ∧
    Audited pipelineDeployment past 300 item := by
  have tried : ((service pipelineDeployment).scriptChecked (composingSample pipelineDeployment)
      firstMessage discoveredWorld).any (fun world => isOut world 300) = true := by
    decide +kernel
  obtain ⟨world, played, out⟩ := (Option.any_eq_true _ _).1 tried
  obtain ⟨past, trace⟩ := trace_of_run (run_of_scriptChecked (service pipelineDeployment)
    (composingSample_sound pipelineDeployment) played)
  obtain ⟨item, found, holds⟩ := (Option.any_eq_true _ _).1 out
  simp only [Bool.and_eq_true, decide_eq_true_eq, Bool.not_eq_true'] at holds
  exact ⟨past, world, item, trace, found, holds.1,
    (message_judged rfl discovered_linked trace rfl found holds.1).1 holds.2⟩

/-- A question comes in, is classified and answered, and the answer is sent. -/
def answeredQuestion : List Move :=
  [begin (.ingestEvents [sampleEvent "event-1" .reply]), go 0 11 400, begin (.lease .classify),
    questions 1 18 600, begin (.lease .deliver), go 2 26 700]

/-- The sample world after its touch has been sent and its job is done. -/
def servedWorld : World :=
  { committed := { dispatchedDatabase with jobs := Table.empty, jobIndex := Table.empty } }

theorem answer_never_judged : ∃ past world item,
    Trace (service sampleDeployment) (Composing sampleDeployment) servedWorld past world ∧
    servedWorld.committed.touches.lookup 600 = none ∧
    world.committed.touches.lookup 600 = some item ∧ item.status = .dispatched ∧
    ¬ Audited sampleDeployment past 600 item := by
  have tried : ((service sampleDeployment).scriptChecked (composingSample sampleDeployment)
      answeredQuestion servedWorld).any (fun world =>
        (world.committed.touches.lookup 600).any (fun item => item.status = .dispatched) &&
          world.calls.all fun call => match call with | .compose _ => false | _ => true) = true := by
    decide +kernel
  obtain ⟨world, played, seen⟩ := (Option.any_eq_true _ _).1 tried
  obtain ⟨past, trace⟩ := trace_of_run (run_of_scriptChecked (service sampleDeployment)
    (composingSample_sound sampleDeployment) played)
  rw [Bool.and_eq_true] at seen
  obtain ⟨item, found, out⟩ := (Option.any_eq_true _ _).1 seen.1
  refine ⟨past, world, item, trace, rfl, found, of_decide_eq_true out, ?_⟩
  rintro ⟨op, inputs, _, _, _, _, heard, _⟩
  have asked := List.all_eq_true.1 seen.2 _ (called_of_heard trace heard)
  cases asked

end Sample

end OpenReachout
