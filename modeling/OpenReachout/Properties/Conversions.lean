import OpenReachout.Outreach.Tallies
import OpenReachout.Outreach.Laws
import OpenReachout.Properties.Exchanges

/-!
# Conversions

A prospect converts once. The call that says so has moved the prospect, under the lock of its
row, and it alone counts a success, asks for a referral and leaves its row in the audit log.
-/

namespace OpenReachout

open Relational Relational.Abstraction Relational.Program Text

set_option autoImplicit false

variable {site : Deployment} {vouch : Mark → Ledger → Prop} {op : Op} {held : List RowLock}
  {touchId prospectId : Uuid}

section Recording

def VariantStats.succeeded (row : VariantStats) : VariantStats :=
  { row with successes := row.successes + 1 }

/-- What a conversion leaves in the audit log. -/
def AuditEvent.converted (touchId : Uuid) : AuditEvent where
  subjectType := "touch"
  subjectId := toString touchId
  event := "converted"
  actor := "system:attribution"

/-- The prospect has moved to `converted`, or the move is not allowed. -/
inductive Converting (prospectId : Uuid) (reason : String) (before : Database) :
    Bool → Database → Prop where
  | refused : Converting prospectId reason before false before
  | moved (lead : Prospect) (middle : Database)
      (found : before.prospects.lookup prospectId = some lead) (edge : lead.state.Edge .converted)
      (replaced : Replaced Tables.prospects prospectId { lead with state := .converted } before
        middle) :
      Converting prospectId reason before true { middle with
        auditEvents := middle.auditEvents ++
          [AuditEvent.moved prospectId .converted "system:attribution" reason lead] }

theorem later_converting {reason : String} {before after : Database} {converted : Bool}
    (converting : Converting prospectId reason before converted after) :
    Later before.ledger after.ledger := by
  cases converting with
  | refused => exact later_refl _
  | moved lead middle found edge replaced =>
      have moved : middle.ledger =
          before.ledger.setProspect prospectId { lead with state := .converted } :=
        ledger_replaced_prospect replaced
      have both : Moved prospectId .converted before.ledger middle.ledger :=
        ⟨lead, found, edge, moved⟩
      exact later_moved both

theorem ensures_converted (reason : String) :
    (outreach site vouch op).Ensures held (tryCatch
      (do
        transition prospectId .converted "system:attribution" reason
        pure true)
      fun error => if error.kind = .transitionError then pure false else throw error :
      Prog Bool)
      fun _ converted before after => Converting prospectId reason before converted after := by
  have moved : (outreach site vouch op).Ensures held
      (transition prospectId .converted "system:attribution" reason)
      fun _ _ before after => Converting prospectId reason before true after := by
    refine (ensures_transition _ _).mono ?_
    rintro start _ before after ⟨lead, middle, found, edge, replaced, rfl⟩
    exact .moved lead middle found edge replaced
  have onward : ∀ (start : Database) (_ : Unit) (before after : Database),
      Converting prospectId reason before true after →
        (outreach site vouch op).rely before after :=
    fun _ _ _ _ => later_converting
  have returns : (outreach site vouch op).Ensures held (do
        transition prospectId .converted "system:attribution" reason
        pure true : Prog Bool)
      fun _ converted before after => Converting prospectId reason before converted after :=
    ensures_bind moved onward fun _ => ensures_pure _ fun _ _ _ converting => converting
  have raises : (outreach site vouch op).Raises held (do
        transition prospectId .converted "system:attribution" reason
        pure true : Prog Bool)
      fun _ _ before after => after = before :=
    raises_bind moved onward (raises_transition_idle _ _) fun _ => raises_pure _
  refine ensures_handle returns raises ?_ fun error => ?_
  · rintro start error before _ rfl
    exact later_refl _
  · by_cases forbidden : error.kind = .transitionError
    · rw [if_pos forbidden]
      refine ensures_pure _ ?_
      rintro start db before rfl
      exact .refused
    · rw [if_neg forbidden]
      exact ensures_throw _

/-- What is neither counted nor put on record. -/
def Unrecorded (before after : Database) : Prop :=
  after.variantStats = before.variantStats ∧ after.auditEvents = before.auditEvents

theorem ensures_enqueue_unrecorded {model : Abstraction Database RowLock Mark} (queue : QueueName)
    (payload : JobPayload) (key : JobKey) (delay : Nat) :
    model.Ensures held (enqueue queue payload key delay)
      fun _ _ before after => Unrecorded before after := by
  have order : Timeline Unrecorded :=
    ⟨fun _ => ⟨rfl, rfl⟩, fun one two => ⟨two.1.trans one.1, two.2.trans one.2⟩⟩
  have indexes : (following order : Allowed).Changes Tables.jobIndex :=
    fun _ _ _ _ _ => ⟨rfl, rfl⟩
  have files : (following order : Allowed).Changes Tables.jobs :=
    fun _ _ _ _ _ => ⟨rfl, rfl⟩
  apply ensures_of_following order
  unfold enqueue
  refine within_bind (within_ask _) fun id => ?_
  refine within_bind (within_insertNew indexes _ _) fun fresh => ?_
  split
  · refine within_bind (within_insertRow (Allowance.marks_none _) files _ _ _ _) fun _ => ?_
    exact within_pure _
  · exact within_pure _

/-- What follows the move and the success. -/
theorem ensures_asked :
    (outreach site vouch op).Ensures held (do
        let _ ← enqueue .referral (.prospect prospectId) (.referral prospectId)
        audit "touch" (toString touchId) "converted" [] "system:attribution"
        pure true : Prog Bool)
      fun start value before after => value = true ∧
        Enqueued start.clock .referral (.prospect prospectId) (.referral prospectId) 0 before.ledger
          after.ledger ∧
        after.variantStats = before.variantStats ∧
        after.auditEvents = before.auditEvents ++ [AuditEvent.converted touchId] := by
  have asks : (outreach site vouch op).Ensures held
      (enqueue .referral (.prospect prospectId) (.referral prospectId))
      fun start _ before after =>
        Enqueued start.clock .referral (.prospect prospectId) (.referral prospectId) 0 before.ledger
          after.ledger ∧ Unrecorded before after := by
    intro a b value standing exec clean db later stable
    exact ⟨brings_enqueue _ _ _ _ a b value standing exec clean db later stable,
      ensures_enqueue_unrecorded _ _ _ _ a b value standing exec clean db later stable⟩
  refine ensures_bind asks (fun _ _ _ _ asked => enqueued_later asked.1) fun _ => ?_
  refine ensures_bind (ensures_appendRow Tables.auditEvents _) ?_ fun _ => ensures_pure _ ?_
  · rintro start _ before _ ⟨_, rfl⟩
    exact later_refl before.ledger
  · rintro start last middle ⟨_, rfl⟩ before ⟨enqueued, stats, audits⟩
    refine ⟨rfl, enqueued, stats, ?_⟩
    change middle.auditEvents ++ [AuditEvent.converted touchId] = _
    rw [audits]

/-- What a conversion writes that is attributed to a touch. -/
structure Attributed (touchId : Uuid) (time : Time) (item : Touch) (lead : Prospect)
    (before after : Database) : Prop where
  touch : before.touches.lookup touchId = some item
  prospect : before.prospects.lookup item.prospectId = some lead
  active : lead.state = .contacted ∨ lead.state = .engaged
  credited : after.variantStats =
    counted VariantStats.succeeded (before.ledger.counts touchId) before.variantStats
  asked : Enqueued time .referral (.prospect item.prospectId) (.referral item.prospectId) 0
    (before.ledger.setProspect item.prospectId { lead with state := .converted }) after.ledger
  audited : after.auditEvents = before.auditEvents ++
    [AuditEvent.moved item.prospectId .converted "system:attribution" s!"touch {touchId}" lead,
      AuditEvent.converted touchId]

/-- A prospect that has left the conversation does not convert. -/
theorem active_of_edge {state : ProspectState} (edge : state.Edge .converted) :
    state = .contacted ∨ state = .engaged := by
  unfold ProspectState.Edge at edge
  cases state <;> simp_all [transitions]

/-- What a call of `record_conversion` writes and returns. -/
inductive Conversion (touchId : Uuid) (time : Time) (before : Database) : Bool → Database → Prop where
  | idle : Conversion touchId time before false before
  | attributed (item : Touch) (lead : Prospect) (after : Database)
      (attributed : Attributed touchId time item lead before after) :
      Conversion touchId time before true after

/-- The touch as it was read, with what of it cannot change. -/
structure ReadTouch (touchId : Uuid) (item : Touch) (tenant : String) (before : Database) :
    Prop where
  there : ∃ current, before.touches.lookup touchId = some current ∧
    current.prospectId = item.prospectId
  counts : before.ledger.counts touchId =
    (nonEmpty item.variantId).map fun variantId => (tenant, variantId)

theorem readTouch_of_joined {start seen before : Database} {item : Touch} {lead : Prospect}
    {tenant : String} (linked : Linked start.ledger) (since : Later start.ledger seen.ledger)
    (until_ : Later seen.ledger before.ledger)
    (joined : joinedTouch seen touchId = some (item, lead, tenant)) :
    ReadTouch touchId item tenant before := by
  unfold joinedTouch at joined
  rw [Option.bind_eq_some_iff] at joined
  obtain ⟨read, touch, joined⟩ := joined
  rw [Option.bind_eq_some_iff] at joined
  obtain ⟨person, prospect, joined⟩ := joined
  rw [Option.map_eq_some_iff] at joined
  obtain ⟨slug, known, same⟩ := joined
  cases same
  have seen_counts : seen.ledger.counts touchId = _ := counts_of_touch touch prospect known
  obtain ⟨current, present, kept⟩ := until_.touches touchId item touch
  refine ⟨⟨current, present, kept.prospectId⟩, ?_⟩
  rw [← seen_counts]
  refine counts_later (linked_later linked since) until_ ?_
  rw [show seen.ledger.touches touchId = some item from touch]
  exact nofun

/-- The move, the success and what follows them make up the record. -/
theorem conversion_of_parts {item : Touch} {tenant : String} {time : Time}
    {before moved after : Database} (read : ReadTouch touchId item tenant before)
    (converting : Converting item.prospectId s!"touch {touchId}" before true moved)
    (enqueued : Enqueued time .referral (.prospect item.prospectId) (.referral item.prospectId) 0
      moved.ledger after.ledger)
    (stats : after.variantStats = counted VariantStats.succeeded
      ((nonEmpty item.variantId).map fun variantId => (tenant, variantId)) moved.variantStats)
    (audits : after.auditEvents = moved.auditEvents ++ [AuditEvent.converted touchId]) :
    Conversion touchId time before true after := by
  obtain ⟨⟨current, touch, same⟩, counts⟩ := read
  cases converting with
  | moved lead middle found edge replaced =>
      have led : middle.ledger =
          before.ledger.setProspect item.prospectId { lead with state := .converted } :=
        ledger_replaced_prospect replaced
      change Enqueued _ _ _ _ _ middle.ledger after.ledger at enqueued
      rw [led, ← same] at enqueued
      obtain ⟨table, wrote, _⟩ := replaced
      have kept : middle.variantStats = before.variantStats ∧
          middle.auditEvents = before.auditEvents := by
        rw [wrote]
        exact ⟨rfl, rfl⟩
      rw [← same] at found
      refine .attributed current lead after ⟨touch, found, active_of_edge edge, ?_, enqueued, ?_⟩
      · rw [counts, stats, ← kept.1]
      · rw [audits, kept.2, List.append_assoc, same]
        rfl

theorem ensures_recordConversion :
    (outreach site vouch op).Ensures held (recordConversion touchId)
      fun start success before after => Conversion touchId start.clock before success after := by
  have reads : (outreach site vouch op).Ensures held
      (Program.query fun _ db => joinedTouch db touchId : Prog (Option (Touch × Prospect × String)))
      fun _ row before after => (∀ item lead tenant, row = some (item, lead, tenant) →
        ReadTouch touchId item tenant before) ∧ after = before := by
    refine (ensures_query _).mono ?_
    rintro start row before after ⟨seen, busy, glimpse, rfl, rfl⟩
    refine ⟨fun item lead tenant joined => ?_, rfl⟩
    exact readTouch_of_joined glimpse.sound glimpse.since glimpse.until_ joined
  unfold recordConversion
  refine ensures_bind reads ?_ fun row => ?_
  · rintro start row before _ ⟨_, rfl⟩
    exact later_refl _
  match row with
  | none =>
      refine ensures_pure _ ?_
      rintro start db before ⟨_, rfl⟩
      exact .idle
  | some (item, lead, tenant) =>
      dsimp only
      by_cases already : lead.state = .converted
      · rw [if_pos already]
        refine ensures_pure _ ?_
        rintro start db before ⟨_, rfl⟩
        exact .idle
      rw [if_neg already]
      refine ensures_bind (ensures_converted _) (fun _ _ _ _ => later_converting) fun converted => ?_
      cases converted with
      | false =>
          rw [if_neg Bool.false_ne_true]
          refine ensures_pure _ ?_
          rintro start db middle converting before ⟨_, rfl⟩
          cases converting
          exact .idle
      | true =>
          rw [if_pos rfl]
          cases variant : nonEmpty item.variantId with
          | none =>
              refine ensures_asked.mono ?_
              rintro start value moved after ⟨rfl, enqueued, stats, audits⟩ middle converting before
                ⟨read, rfl⟩
              refine conversion_of_parts (read item lead tenant rfl) converting enqueued ?_ audits
              rw [variant, stats]
              rfl
          | some variantId =>
              refine ensures_bind (ensures_countUp tenant variantId _) ?_ fun _ => ?_
              · rintro start _ moved _ rfl
                exact later_refl moved.ledger
              refine ensures_asked.mono ?_
              rintro start value _ after ⟨rfl, enqueued, stats, audits⟩ moved rfl middle converting
                before ⟨read, rfl⟩
              refine conversion_of_parts (read item lead tenant rfl) converting enqueued ?_ audits
              rw [variant, stats]
              rfl

end Recording

section Runs

variable {world next last start : World} {time : Time} {before after : Database}

theorem edge_of_active {state : ProspectState}
    (active : state = .contacted ∨ state = .engaged) : state.Edge .converted := by
  rcases active with rfl | rfl <;> decide

theorem later_conversion {success : Bool} (conversion : Conversion touchId time before success after) :
    Later before.ledger after.ledger := by
  cases conversion with
  | idle => exact later_refl _
  | attributed item lead after attributed =>
      have moved : Moved item.prospectId .converted before.ledger _ :=
        ⟨lead, attributed.prospect, edge_of_active attributed.active, rfl⟩
      exact later_trans (later_moved moved) (enqueued_later attributed.asked)

theorem conversion_of_commit {index : Nat} {success : Bool}
    {session : Session Database RowLock Exc Mark Call Call.Answer Op Out}
    (sane : Sane site world) (found : world.session index = some session)
    (commits : Committing session (.decided success))
    (which : session.op = .recordConversion touchId) :
    Conversion touchId session.txn.start.clock world.committed success
      (session.txn.view world.committed) := by
  have call : (outreach site (fun _ _ => True) (.recordConversion touchId)).Ensures []
      (Op.program site (.recordConversion touchId))
      fun start out before after =>
        ∃ success, out = .decided success ∧ Conversion touchId start.clock before success after :=
    ensures_bind ensures_recordConversion (fun _ _ _ _ => later_conversion) fun success =>
      ensures_pure _ fun _ _ _ conversion => ⟨success, rfl, conversion⟩
  rw [← which] at call
  obtain ⟨_, other, same, conversion⟩ := ensures_commit sane.sound sane.begun found commits
    (fun _ _ => trivial) call
  cases same
  exact conversion

/-- The prospect of the touch has moved to `converted`. -/
def MovedToConverted (touchId : Uuid) (before after : Database) : Prop :=
  ∃ item lead moved, before.touches.lookup touchId = some item ∧
    before.prospects.lookup item.prospectId = some lead ∧ lead.state ≠ .converted ∧
    after.prospects.lookup item.prospectId = some moved ∧ moved.state = .converted

theorem prospect_of_attributed {item : Touch} {lead : Prospect}
    (attributed : Attributed touchId time item lead before after) :
    after.prospects.lookup item.prospectId = some { lead with state := .converted } := by
  obtain ⟨jobs, index, same⟩ := enqueued_frame attributed.asked
  have prospects := congrArg Ledger.prospects same
  have moved : after.ledger.prospects item.prospectId = some { lead with state := .converted } := by
    rw [prospects]
    exact Function.update_self _ _ _
  exact moved

theorem moved_iff_success {success : Bool}
    (conversion : Conversion touchId time before success after) :
    success = true ↔ MovedToConverted touchId before after := by
  cases conversion with
  | idle =>
      constructor
      · intro impossible
        cases impossible
      · rintro ⟨item, lead, moved, _, found, unconverted, there, converted⟩
        obtain rfl := Option.some.inj (found.symm.trans there)
        exact absurd converted unconverted
  | attributed item lead after attributed =>
      constructor
      · intro _
        refine ⟨item, lead, _, attributed.touch, attributed.prospect, ?_,
          prospect_of_attributed attributed, rfl⟩
        rcases attributed.active with active | active
        all_goals
          rw [active]
          exact nofun
      · exact fun _ => rfl

/-- The step commits a call that returns that it has converted the prospect. -/
def Converts (id : Uuid) (world : World) (action : Act) : Prop :=
  ∃ index session touchId item, action = .finish index ∧ world.session index = some session ∧
    Committing session (.decided true) ∧ session.op = .recordConversion touchId ∧
    world.committed.ledger.touches touchId = some item ∧ item.prospectId = id

/-- A prospect that has converted only leaves when it is forgotten. -/
theorem over_of_path {old new : ProspectState}
    (path : Relation.ReflTransGen ProspectState.Edge old new)
    (ended : old = .converted ∨ old = .forgotten) : new = .converted ∨ new = .forgotten := by
  induction path with
  | refl => exact ended
  | @tail middle new _ edge induction =>
      unfold ProspectState.Edge at edge
      rcases induction with rfl | rfl
      · exact Or.inr (List.mem_singleton.1 edge)
      · cases edge

/-- The prospect has converted, and may have been forgotten since. -/
def HasConverted (id : Uuid) (world : World) : Prop :=
  ∃ lead, world.committed.ledger.prospects id = some lead ∧
    (lead.state = .converted ∨ lead.state = .forgotten)

theorem over_of_later {id : Uuid}
    (later : Later world.committed.ledger next.committed.ledger) (ended : HasConverted id world) :
    HasConverted id next := by
  obtain ⟨lead, found, ended⟩ := ended
  obtain ⟨moved, there, onward⟩ := later.prospects id lead found
  exact ⟨moved, there, over_of_path onward.path ended⟩

variable {id : Uuid} {action again : Act}

/-- The call that converts a prospect finds it in conversation and leaves it converted. -/
theorem moved_of_converts (sane : Sane site world) (converts : Converts id world action)
    (step : (service site).act action world = some next) :
    (∃ lead, world.committed.ledger.prospects id = some lead ∧
      (lead.state = .contacted ∨ lead.state = .engaged)) ∧ HasConverted id next := by
  obtain ⟨index, session, touchId, item, rfl, found, commits, which, touch, rfl⟩ := converts
  have wrote : next.committed = session.txn.view world.committed := by
    rcases commit_or_idle step with ⟨other, second, out, same, there, _, wrote⟩ | ⟨idle, _⟩
    · cases same
      obtain rfl := Option.some.inj (found.symm.trans there)
      exact wrote
    · exact absurd commits (idle index session _ rfl found)
  have conversion := conversion_of_commit sane found commits which
  cases conversion with
  | attributed current lead after attributed =>
      obtain rfl := Option.some.inj (touch.symm.trans attributed.touch)
      refine ⟨⟨lead, attributed.prospect, attributed.active⟩, ?_⟩
      rw [HasConverted, wrote]
      exact ⟨_, prospect_of_attributed attributed, Or.inl rfl⟩

theorem over_onward {allowed : World → Act → Prop} (sane : Sane site next) (ended : HasConverted id next)
    (run : Run site allowed next last) : Sane site last ∧ HasConverted id last := by
  have free : ∀ world action, allowed world action →
      Vouched (fun _ _ _ _ => True) world action := vouched_free
  apply invariant_onward (HasConverted id) free ?_ sane ended run
  intro world action after _ ended _ _ advance
  exact over_of_later (later_advance advance) ended

/-- In every run a call that returns `true` finds the prospect in conversation and has moved it to
`converted`, a call that returns `false` has written nothing, and no prospect converts twice. -/
theorem conversion_attributed_once {allowed : World → Act → Prop} (quiet : start.sessions = [])
    (linked : Linked start.committed.ledger) (run : Run site allowed start world) :
    (∀ index session success touchId, world.session index = some session →
      Committing session (.decided success) → session.op = .recordConversion touchId →
      Conversion touchId session.txn.start.clock world.committed success
          (session.txn.view world.committed) ∧
        (success = true ↔
          MovedToConverted touchId world.committed (session.txn.view world.committed))) ∧
    ∀ id action next last again, Converts id world action →
      (service site).act action world = some next → Run site allowed next last →
      ¬ Converts id last again := by
  have free : ∀ world action, allowed world action →
      Vouched (fun _ _ _ _ => True) world action := vouched_free
  have sane : Sane site world :=
    (invariant_of_advances (fun _ => True) free (fun _ _ _ _ _ _ _ _ => trivial) quiet linked
      trivial run).1
  constructor
  · intro index session success touchId found commits which
    have conversion := conversion_of_commit sane found commits which
    exact ⟨conversion, moved_iff_success conversion⟩
  · intro id action next last again converts step onward twice
    have sane_next : Sane site next := by
      have advance := advance_of_step sane.sound sane.begun
        (show Vouched (fun _ _ _ _ => True) world action from fun _ _ _ _ _ _ _ _ => trivial) step
      exact sane_step sane step (later_advance advance)
    obtain ⟨_, ended⟩ := moved_of_converts sane converts step
    obtain ⟨sane_last, lead, found, state⟩ := over_onward sane_next ended onward
    obtain ⟨index, session, touchId, item, _, there, commits, which, touch, rfl⟩ := twice
    have conversion := conversion_of_commit sane_last there commits which
    cases conversion with
    | attributed current person after attributed =>
        obtain rfl := Option.some.inj (touch.symm.trans attributed.touch)
        obtain rfl := Option.some.inj (found.symm.trans attributed.prospect)
        have active := attributed.active
        rcases state with state | state
        all_goals
          rw [state] at active
          rcases active with impossible | impossible
        all_goals cases impossible

/-- The session is about to commit that it has converted the prospect of the touch 4. -/
def convertsSample (index : Nat) (world : World) : Bool :=
  match world.session index with
  | some ⟨.recordConversion 4, .done (.decided true), txn⟩ =>
      !txn.failed && (world.committed.touches.lookup 4).any fun item => item.prospectId = 3
  | _ => false

theorem converts_sample {index : Nat} (holds : convertsSample index world = true) :
    Converts 3 world (.finish index) := by
  unfold convertsSample at holds
  split at holds
  next txn present =>
    obtain ⟨intact, touch⟩ := (Bool.and_eq_true _ _).mp holds
    rw [Option.any_eq_true_iff_get] at touch
    obtain ⟨there, same⟩ := touch
    have found : world.committed.ledger.touches 4 =
        some ((world.committed.touches.lookup 4).get there) := (Option.some_get there).symm
    refine ⟨index, _, 4, _, rfl, present, ⟨rfl, ?_⟩, rfl, found, of_decide_eq_true same⟩
    exact Bool.not_eq_true' _ ▸ intact
  next => cases holds

/-- Two conversions of one touch are under way, of which the first is about to commit. -/
def conversionsInTurn : List Move :=
  [begin (.recordConversion 4), begin (.recordConversion 4), go 1 1 400, go 0 9 300]

theorem sample_converts_once : ∃ world next last,
    Run sampleDeployment unrestricted dispatchedWorld world ∧ Converts 3 world (.finish 0) ∧
    (service sampleDeployment).act (.finish 0) world = some next ∧
    Run sampleDeployment unrestricted next last ∧ ¬ Converts 3 last (.finish 1) := by
  have tried : ((service sampleDeployment).script conversionsInTurn dispatchedWorld).any
      (fun world => convertsSample 0 world &&
        (((service sampleDeployment).act (.finish 0) world).any fun next =>
          ((service sampleDeployment).script [go 1 1 400] next).isSome)) = true := by
    decide +kernel
  obtain ⟨world, played, seen⟩ := (Option.any_eq_true _ _).1 tried
  obtain ⟨converts, onward⟩ := (Bool.and_eq_true _ _).mp seen
  obtain ⟨next, step, further⟩ := (Option.any_eq_true _ _).1 onward
  obtain ⟨last, played_on⟩ := Option.isSome_iff_exists.1 further
  have run : Run sampleDeployment unrestricted dispatchedWorld world := run_of_further played
  have rest : Run sampleDeployment unrestricted next last := run_of_further played_on
  have once := (conversion_attributed_once rfl dispatched_linked run).2 3 (.finish 0) next last
    (.finish 1) (converts_sample converts) step rest
  exact ⟨world, next, last, run, converts_sample converts, step, rest, once⟩

end Runs

end OpenReachout
