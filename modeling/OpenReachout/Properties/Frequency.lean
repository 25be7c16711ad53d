import OpenReachout.Properties.Contacts
import OpenReachout.Properties.Recipients
import OpenReachout.Properties.Transmissions
import OpenReachout.Relational.Heeding

/-!
# How often an entity is contacted

A claim commits on the entity as its gate has locked it: at rest, below the cap and
outside of any sequence, or in the sequence of the prospect.
-/

namespace OpenReachout

open Relational Relational.Abstraction Relational.Program Text

set_option autoImplicit false

section Answers

variable {site : Deployment} {start world later : World} {past whole : History}

/-- Every session has come where it is by what the run has heard. -/
structure Briefed (site : Deployment) (whole : History) (world : World) : Prop where
  sane : Sane site world
  heeding : ∀ index session, world.session index = some session →
    Heeding (service site) whole Progress world.committed session

theorem briefed_step {action : Act} (briefed : Briefed site whole world)
    (member : (world, action) ∈ whole) (step : (service site).act action world = some later) :
    Briefed site whole later := by
  have free : Vouched (fun _ _ _ _ => True) world action := fun _ _ _ _ _ _ _ _ => trivial
  have onward := later_advance (advance_of_step briefed.sane.sound briefed.sane.begun free step)
  refine ⟨sane_step briefed.sane step onward, ?_⟩
  exact heeding_step progress_order briefed.sane.sound member step onward briefed.heeding

theorem briefed_trace {allowed : World → Act → Prop} (quiet : start.sessions = [])
    (linked : Linked start.committed.ledger)
    (trace : Trace (service site) allowed start past world) (within_ : past ⊆ whole) :
    Briefed site whole world := by
  induction trace with
  | nil =>
      refine ⟨sane_start quiet linked, fun index session found => ?_⟩
      rw [System.session_of_quiet quiet] at found
      cases found
  | @snoc past middle later action before permitted step induction =>
      have earlier : past ⊆ whole := fun entry member => within_ (List.mem_append_left _ member)
      have member : (middle, action) ∈ whole :=
        within_ (List.mem_append_right _ (List.mem_singleton.2 rfl))
      exact briefed_step (induction earlier) member step

end Answers

section Gates

variable {site : Deployment} {heard : (call : Call) → call.Answer → Prop}
variable {entityId touchId : Uuid} {a b : Spot}

/-- The last contact is as long ago as it must be, on a clock that has been read. -/
def Spaced (heard : (call : Call) → call.Answer → Prop) (owner : Entity) : Prop :=
  ∀ contact, owner.lastCampaignContactAt = some contact →
    ∃ time : Time, heard .now time ∧ defaultMinCampaignGapDays ≤ (time - contact) / days 1

/-- The gate of first contacts has locked an entity that is at rest. -/
theorem spaced_of_frequencyOk (exec : ExecHeard heard Progress (frequencyOk entityId) a (.ok true) b) :
    ∃ db owner, (RowLock.entity entityId, db) ∈ b.txn.held ∧
      (a.txn.view db).entities.lookup entityId = some owner ∧ Spaced heard owner := by
  unfold frequencyOk at exec
  rw [heard_bind_ok] at exec
  obtain ⟨rows, middle, early, late⟩ := exec
  have further := (exec_extends progress_order (exec_of_heard late)).held
  obtain ⟨db, _, _, _, busy, effect, success, rfl, rfl⟩ :=
    (exec_perform_ok _ _ _ _ _).1 (exec_of_heard early)
  obtain rfl := Except.ok.inj success
  dsimp only [Effect.locking] at late further
  cases chosen : (a.txn.view db).entities.select fun id _ => decide (id = entityId) with
  | nil =>
      rw [chosen] at late
      cases late.1
  | cons entry rest =>
      obtain ⟨id, owner⟩ := entry
      have member : (id, owner) ∈ (a.txn.view db).entities.select fun id _ =>
          decide (id = entityId) := by
        rw [chosen]
        exact List.mem_cons_self
      obtain ⟨found, mine⟩ := (Table.mem_select_iff _ _ _ _).1 member
      obtain rfl := of_decide_eq_true mine
      refine ⟨db, owner, further ?_, found, ?_⟩
      · simp only [Txn.record, List.map_map, List.mem_append]
        exact Or.inr (List.mem_map.2 ⟨(id, owner), member, rfl⟩)
      · rw [chosen] at late
        dsimp only at late
        intro contact last
        split_ifs at late with active capped
        · cases late.1
        · cases late.1
        · rw [last] at late
          dsimp only at late
          rw [heard_bind_ok] at late
          obtain ⟨time, next, ⟨answer, told, same, _⟩, ended⟩ := late
          obtain rfl := Except.ok.inj same
          exact ⟨time, told, of_decide_eq_true (Except.ok.inj ended.1).symm⟩

/-- What a quiet part of a delivery leaves to be seen. -/
theorem unmarked (site : Deployment) {Value : Type} {program : Prog Value} {outcome : Except Exc Value}
    (quiet : (outreach site (fun _ _ => True) .reapExpired).Quiet program)
    (exec : ExecHeard heard Progress program a outcome b) {db : Database} :
    (b.txn.view db).ledger = (a.txn.view db).ledger :=
  exec_view_of_only quiet (exec_of_heard exec) db

/-- A first contact that is claimed has found its entity at rest. -/
theorem spaced_of_deliverClaim {begun : Database} {ctx : ValidatorContext} {draft : DraftTouch}
    {claimed : ClaimedTouch} (cold : draft.profile = .cold)
    (exec : ExecHeard heard Progress (deliverClaim site touchId ctx) (Point.begin begun)
      (.ok (draft, .claimed claimed)) b) :
    ∃ db owner, (RowLock.entity draft.entityId, db) ∈ b.txn.held ∧
      db.entities.lookup draft.entityId = some owner ∧ Spaced heard owner := by
  unfold deliverClaim at exec
  simp only [heard_bind_ok] at exec
  obtain ⟨_, first, status, _, second, named, loaded, third, load, exec⟩ := exec
  cases loaded with
  | none => cases exec.1
  | some gateDraft =>
      dsimp only at exec
      rw [heard_bind_ok] at exec
      obtain ⟨result, last, claims, same, rfl⟩ := exec
      obtain ⟨rfl, rfl⟩ := Prod.mk.inj (Except.ok.inj same)
      have run : (hearing heard Progress).runs (claim site.runtime (pgGateStore site.platform)
          draft) third (.ok (.claimed claimed)) b := claims
      obtain ⟨unhalted, unsuppressed, contactable, funded, _, halt, suppression, frequency, budget,
        capacity⟩ := claim_passed run
      unfold FrequencyPassed at frequency
      rw [cold] at frequency
      obtain ⟨db, owner, held, found, spaced⟩ := spaced_of_frequencyOk frequency
      -- nothing that shows has been written when the entity is locked
      have fresh : (unsuppressed.txn.view db).ledger = db.ledger := by
        rw [unmarked site (quiet_isSuppressed _ _ _) suppression,
          unmarked site (quiet_haltedScopes _) halt,
          unmarked site (quiet_loadGateDraft touchId ctx) load,
          unmarked site (quiet_query _) named, unmarked site (quiet_query _) status]
        rfl
      have funding : Extends Progress contactable funded := by
        unfold BudgetPassed at budget
        rw [cold] at budget
        exact exec_extends progress_order (exec_of_heard budget)
      obtain ⟨mailbox, results, picked, confident, pick, confidence, persisted, _⟩ := capacity
      have picking := exec_extends progress_order (exec_of_heard pick)
      have trusting := exec_extends progress_order (exec_of_heard confidence)
      have writing := exec_extends progress_order (exec_of_heard persisted)
      refine ⟨db, owner, writing.held (trusting.held (picking.held (funding.held held))), ?_, spaced⟩
      exact (congrArg (fun l => l.entities draft.entityId) fresh).symm.trans found

end Gates

section Deeds

variable {site : Deployment} {vouch : Mark → Ledger → Prop} {op : Op} {start l after : Ledger}
variable {entityId touchId : Uuid}

/-- A touch that is sent is a claim, and was none. -/
theorem claimed_of_send {item : Touch} {lead : Prospect} {owner : Entity} {met : Bool}
    {mailbox : String} {ref : Payload} {time : Time} (tallied : Tallied l)
    (sendable : Sendable op l touchId item lead owner) (budgeted : item.kind.budgeted = true)
    (planned : Planned site time item lead
      (l.dispatched time touchId item lead owner met mailbox ref) after) (later : Later l after) :
    touchId ∈ after.claims lead.entityId ∧ touchId ∉ l.claims lead.entityId := by
  have fresh : item.contact = none := by
    apply tallied.unclaimed touchId item sendable.touch
    rw [sendable.drafted]
    exact le_rfl
  have theirs : l.entityOf item.prospectId = some lead.entityId := by
    unfold Ledger.entityOf
    rw [sendable.prospect]
    rfl
  constructor
  · refine ⟨(item.prospectId, time), ?_, entityOf_later later theirs⟩
    obtain ⟨touches, _⟩ := counters_planned planned
    have sent : after.touches touchId = some (item.delivered time mailbox ref) := by
      rw [touches]
      exact Function.update_self touchId _ _
    dsimp only
    rw [sent, Option.bind_some]
    unfold Touch.contact Touch.delivered
    rw [if_pos budgeted]
    rfl
  · rintro ⟨contact, entry, _⟩
    dsimp only at entry
    rw [sendable.touch, Option.bind_some, fresh] at entry
    cases entry

/-- A touch becomes a contact when it is sent. -/
theorem sendable_of_deed {contact : Uuid × Time} (deed : Deed site vouch op start l after)
    (fresh : (l.touches touchId).bind Touch.contact = none)
    (made : (after.touches touchId).bind Touch.contact = some contact) :
    ∃ item lead owner, Sendable op l touchId item lead owner ∧ item.kind.budgeted = true ∧
      contact.1 = item.prospectId := by
  have kept : (after.touches touchId).bind Touch.contact = (l.touches touchId).bind Touch.contact →
      ∃ item lead owner, Sendable op l touchId item lead owner ∧ item.kind.budgeted = true ∧
        contact.1 = item.prospectId := by
    intro same
    exact absurd ((same.trans fresh).symm.trans made) nofun
  cases deed with
  | enqueue queue payload key delay plain orders enqueued =>
      obtain ⟨_, _, rfl⟩ := enqueued_frame enqueued
      exact kept rfl
  | trigger eventId prospectId which seen since lead found state enqueued =>
      obtain ⟨_, _, rfl⟩ := enqueued_frame enqueued
      exact kept rfl
  | suppress address scope reason idle enqueued =>
      obtain ⟨_, _, rfl⟩ := enqueued_frame enqueued
      exact kept rfl
  | halt scope actor flag which enqueued =>
      obtain ⟨_, _, rfl⟩ := enqueued_frame enqueued
      exact kept rfl
  | notify address hash receiptId hashed buried enqueued =>
      obtain ⟨_, _, rfl⟩ := enqueued_frame enqueued
      exact kept rfl
  | hold other item new drafting step met => exact kept (contacts_update (contact_new new) touchId)
  | draft other item new drafting met enqueued =>
      obtain ⟨_, _, rfl⟩ := enqueued_frame enqueued
      exact kept (contacts_update (contact_new new) touchId)
  | park other taskId item task new kind untasked pending mine theirs met =>
      exact kept (contacts_update (contact_new new) touchId)
  | approve other actor item which found held enqueued =>
      obtain ⟨_, _, rfl⟩ := enqueued_frame enqueued
      exact kept (contacts_update (by rw [found]; rfl) touchId)
  | reject other actor note item which found held =>
      exact kept (contacts_update (by rw [found]; rfl) touchId)
  | refuse other item which found vouched =>
      exact kept (contacts_update (by rw [found]; rfl) touchId)
  | webhook other item found out => exact kept (contacts_update (by rw [found]; rfl) touchId)
  | settle taskId actor finished note task item which found pending touch counted =>
      have same : item.contact = (l.touches task.touchId).bind Touch.contact := by
        rw [touch]
        rfl
      have settled : (item.settled start.clock finished).contact = item.contact := by
        cases finished <;> rfl
      cases counted with
      | skipped unfinished => exact kept (contacts_update (settled.trans same) touchId)
      | contact lead owner ended prospect entity =>
          exact kept (contacts_update (settled.trans same) touchId)
  | expire chosen overdue which pending theirs =>
      refine kept (contacts_changed ?_ touchId)
      exact fun _ _ _ _ => rfl
  | forget ref ids leads owners touches replies facts which erased =>
      refine kept (contacts_changed ?_ touchId)
      exact fun _ _ _ _ => rfl
  | send other item lead owner met mailbox ref sendable queued vouched planned =>
      obtain ⟨touches, _⟩ := counters_planned planned
      rw [touches] at made
      change (Function.update l.touches other (some (item.delivered start.clock mailbox ref))
        touchId).bind Touch.contact = some contact at made
      by_cases here : touchId = other
      · subst here
        rw [Function.update_self, Option.bind_some] at made
        unfold Touch.contact Touch.delivered at made
        split_ifs at made with budgeted
        obtain rfl := Option.some.inj made
        exact ⟨item, lead, owner, sendable, budgeted, rfl⟩
      · rw [Function.update_of_ne here, fresh] at made
        cases made
  | _ => exact kept rfl

/-- The claims of an entity change by a touch that is sent. -/
theorem claims_of_deed (linked : Linked l) (tallied : Tallied l)
    (deed : Deed site vouch op start l after) (entityId : Uuid) :
    after.claims entityId = l.claims entityId ∨
      ∃ touchId item lead owner, Sendable op l touchId item lead owner ∧
        lead.entityId = entityId ∧ item.kind.budgeted = true ∧ touchId ∉ l.claims entityId ∧
        after.claims entityId = insert touchId (l.claims entityId) := by
  have later := deed_later _ _ _ _ deed
  have claims : after.reached (fun id => (l.touches id).bind Touch.contact) entityId =
      l.claims entityId := reached_later later (known_claims linked) entityId
  cases contacting_of_deed deed tallied.unclaimed with
  | none touches tasks owners =>
      left
      rw [← claims, Ledger.claims, funext touches]
  | visit taskId contact owner fresh theirs touches tasks owners =>
      left
      rw [← claims, Ledger.claims, funext touches]
  | claim touchId contact owner fresh out theirs touches tasks owners =>
      have more := reached_entry touches fresh (entityOf_later later theirs) entityId
      rw [claims] at more
      by_cases same : entityId = owner
      · rw [if_pos same] at more
        right
        have entry : (after.touches touchId).bind Touch.contact = some contact := by
          rw [touches, if_pos rfl]
        obtain ⟨item, lead, first, sendable, budgeted, whose⟩ := sendable_of_deed deed fresh entry
        have mine : l.entityOf item.prospectId = some lead.entityId := by
          unfold Ledger.entityOf
          rw [sendable.prospect]
          rfl
        have outside : touchId ∉ l.claims entityId := by
          intro member
          obtain ⟨entry, before, _⟩ := member
          have absurd_entry : none = some entry := fresh.symm.trans before
          cases absurd_entry
        rw [whose] at theirs
        have owned : lead.entityId = entityId :=
          (Option.some.inj (mine.symm.trans theirs)).trans same.symm
        exact ⟨touchId, item, lead, first, sendable, owned, budgeted, outside, more⟩
      · rw [if_neg same] at more
        exact Or.inl more

/-- The row of an entity where at most one was set. -/
theorem owner_of_set {table : Uuid → Option Entity} {other : Uuid} {owner next : Entity}
    (found : Function.update table other (some owner) entityId = some next) :
    entityId = other ∧ next = owner ∨ table entityId = some next := by
  by_cases here : entityId = other
  · subst here
    rw [Function.update_self] at found
    exact Or.inl ⟨rfl, (Option.some.inj found).symm⟩
  · rw [Function.update_of_ne here] at found
    exact Or.inr found

/-- A sequence is taken by a claim. -/
theorem active_of_deed (tallied : Tallied l) (deed : Deed site vouch op start l after)
    {next : Entity} (found : after.entities entityId = some next)
    (active : next.activeSequenceTouchId = some touchId) :
    (∃ old, l.entities entityId = some old ∧ old.activeSequenceTouchId = some touchId) ∨
      touchId ∈ after.claims entityId ∧ touchId ∉ l.claims entityId := by
  have later := deed_later _ _ _ _ deed
  have changed_ : ∀ {other : Uuid} {owner row : Entity}, l.entities other = some owner →
      (row.activeSequenceTouchId = some touchId → owner.activeSequenceTouchId = some touchId) →
      Function.update l.entities other (some row) entityId = some next →
      ∃ old, l.entities entityId = some old ∧ old.activeSequenceTouchId = some touchId := by
    intro other owner row there kept set
    rcases owner_of_set set with ⟨rfl, rfl⟩ | same
    · exact ⟨owner, there, kept active⟩
    · exact ⟨next, same, active⟩
  cases deed with
  | enqueue queue payload key delay plain orders enqueued =>
      obtain ⟨_, _, rfl⟩ := enqueued_frame enqueued
      exact Or.inl ⟨next, found, active⟩
  | trigger eventId prospectId which seen since lead there state enqueued =>
      obtain ⟨_, _, rfl⟩ := enqueued_frame enqueued
      exact Or.inl ⟨next, found, active⟩
  | suppress address scope reason idle enqueued =>
      obtain ⟨_, _, rfl⟩ := enqueued_frame enqueued
      exact Or.inl ⟨next, found, active⟩
  | halt scope actor flag which enqueued =>
      obtain ⟨_, _, rfl⟩ := enqueued_frame enqueued
      exact Or.inl ⟨next, found, active⟩
  | notify address hash receiptId hashed buried enqueued =>
      obtain ⟨_, _, rfl⟩ := enqueued_frame enqueued
      exact Or.inl ⟨next, found, active⟩
  | draft other item new drafting met enqueued =>
      obtain ⟨_, _, rfl⟩ := enqueued_frame enqueued
      exact Or.inl ⟨next, found, active⟩
  | approve other actor item which there held enqueued =>
      obtain ⟨_, _, rfl⟩ := enqueued_frame enqueued
      exact Or.inl ⟨next, found, active⟩
  | settle taskId actor finished note task item which there pending touch counted =>
      cases counted with
      | skipped unfinished => exact Or.inl ⟨next, found, active⟩
      | contact lead owner ended prospect entity =>
          refine Or.inl (changed_ entity ?_ found)
          exact id
  | release prospectId lead owner held item prospect entity holds touch owned =>
      refine Or.inl (changed_ entity ?_ found)
      exact nofun
  | refer other owner entity unasked known =>
      refine Or.inl (changed_ entity ?_ found)
      exact id
  | entity other owner absent free fresh known =>
      rcases owner_of_set found with ⟨rfl, rfl⟩ | same
      · rw [free] at active
        cases active
      · exact Or.inl ⟨next, same, active⟩
  | forget ref ids leads owners touches replies facts which erased =>
      change changed l.entities owners Entity.erased entityId = some next at found
      unfold changed at found
      split_ifs at found
      · obtain ⟨old, there, rfl⟩ := Option.map_eq_some_iff.1 found
        exact Or.inl ⟨old, there, active⟩
      · exact Or.inl ⟨next, found, active⟩
  | send other item lead owner met mailbox ref sendable queued vouched planned =>
      have sent : ∀ row, (l.dispatched start.clock other item lead owner met mailbox ref).entities
          entityId = some row → row.activeSequenceTouchId = some touchId →
          (∃ old, l.entities entityId = some old ∧ old.activeSequenceTouchId = some touchId) ∨
            touchId ∈ after.claims entityId ∧ touchId ∉ l.claims entityId := by
        intro row there holds
        unfold Ledger.dispatched at there
        dsimp only at there
        by_cases budgeted : item.kind.budgeted = true
        · rw [if_pos budgeted] at there
          rcases owner_of_set there with ⟨rfl, rfl⟩ | same
          · obtain rfl : other = touchId := Option.some.inj holds
            exact Or.inr (claimed_of_send tallied sendable budgeted planned later)
          · exact Or.inl ⟨row, same, holds⟩
        · rw [if_neg budgeted] at there
          exact Or.inl ⟨row, there, holds⟩
      cases planned with
      | idle none => exact sent next found active
      | last spec budgeted there ended first present =>
          rcases owner_of_set found with ⟨rfl, rfl⟩ | same
          · cases active
          · exact sent next same active
      | next spec budgeted there more enqueued =>
          obtain ⟨_, _, rfl⟩ := enqueued_frame enqueued
          exact sent next found active
  | _ => exact Or.inl ⟨next, found, active⟩

/-- Over a commit: claims stay, a sequence is taken by a new claim, and a new claim is
of a touch that the operation delivers. -/
structure Claiming (op : Op) (l after : Ledger) : Prop where
  linked : Linked after
  tallied : Tallied after
  later : Later l after
  kept : ∀ entityId, l.claims entityId ⊆ after.claims entityId
  delivers : ∀ entityId, ∀ touchId ∈ after.claims entityId, touchId ∉ l.claims entityId →
    op.delivers touchId
  active : ∀ entityId touchId next, after.entities entityId = some next →
    next.activeSequenceTouchId = some touchId →
    (∃ old, l.entities entityId = some old ∧ old.activeSequenceTouchId = some touchId) ∨
      touchId ∈ after.claims entityId ∧ touchId ∉ l.claims entityId
  capped : (∀ entityId, (l.claims entityId).ncard ≤ defaultAnnualTouchCap) →
    ∀ entityId, (after.claims entityId).ncard ≤ defaultAnnualTouchCap

theorem below_of_sendable {item : Touch} {lead : Prospect} {owner : Entity}
    (sendable : Sendable op l touchId item lead owner) (budgeted : item.kind.budgeted = true) :
    l.entities lead.entityId = some owner ∧ owner.touches12mo < defaultAnnualTouchCap := by
  have admits := sendable.admits
  unfold Ledger.admits at admits
  unfold TouchKind.budgeted GateProfile.budgeted at budgeted
  revert admits budgeted
  cases profileOf item.kind with
  | cold => exact fun _ admits => ⟨admits.1, admits.2.2⟩
  | followup => exact fun _ admits => ⟨admits.1, admits.2.2⟩
  | reply => exact nofun

theorem claiming_path (linked : Linked l) (tallied : Tallied l)
    (path : Relation.ReflTransGen (Deed site vouch op start) l after) : Claiming op l after := by
  induction path with
  | refl =>
      refine ⟨linked, tallied, later_refl l, fun _ => subset_rfl, fun _ _ there out => ?_,
        fun _ _ next found active => Or.inl ⟨next, found, active⟩, id⟩
      exact absurd there out
  | @tail middle last path deed before =>
      have onward := deed_later _ _ _ _ deed
      have grows : ∀ entityId, middle.claims entityId ⊆ last.claims entityId := by
        intro entityId
        rcases claims_of_deed before.linked before.tallied deed entityId with same | ⟨_, _, _, _, _,
          _, _, _, more⟩
        · rw [same]
        · rw [more]
          exact Set.subset_insert _ _
      refine ⟨linked_later before.linked onward, tallied_step deed before.linked before.tallied,
        later_trans before.later onward, fun entityId => (before.kept entityId).trans (grows entityId),
        fun entityId touchId there out => ?_, fun entityId touchId next found active => ?_,
        fun capped entityId => ?_⟩
      · rcases claims_of_deed before.linked before.tallied deed entityId with same | ⟨sent, _, _, _,
          sendable, _, _, _, more⟩
        · rw [same] at there
          exact before.delivers entityId touchId there out
        · rw [more] at there
          rcases there with rfl | earlier
          · exact sendable.delivers
          · exact before.delivers entityId touchId earlier out
      · rcases active_of_deed before.tallied deed found active with ⟨old, there, held⟩ | ⟨mine, out⟩
        · rcases before.active entityId touchId old there held with first | ⟨mine, out⟩
          · exact Or.inl first
          · exact Or.inr ⟨grows entityId mine, out⟩
        · exact Or.inr ⟨mine, fun early => out (before.kept entityId early)⟩
      · have below := before.capped capped entityId
        rcases claims_of_deed before.linked before.tallied deed entityId with same | ⟨sent, item,
          lead, owner, sendable, whose, budgeted, out, more⟩
        · rw [same]
          exact below
        · obtain ⟨present, under⟩ := below_of_sendable sendable budgeted
          rw [whose] at present
          have counted := before.tallied.counted entityId owner present
          rw [more, Set.ncard_insert_of_notMem out (before.tallied.claims entityId)]
          omega

end Deeds

section Commits

variable {site : Deployment} {vouch : Mark → Ledger → Prop} {op : Op} {held : List RowLock}
variable {start world later : World} {past : History} {entityId touchId : Uuid}

/-- A touch in the place of one that has made the same contact. -/
theorem claims_set {l : Ledger} {item : Touch}
    (same : item.contact = (l.touches touchId).bind Touch.contact) :
    (l.setTouch touchId item).claims = l.claims := by
  have book := funext (contacts_update same)
  change l.reached (fun id => (Function.update l.touches touchId (some item) id).bind
    Touch.contact) = l.claims
  rw [book]

/-- A refusal leaves the contacts as they are. -/
theorem brings_refused (draft : DraftTouch) (refusal : Refusal) :
    (outreach site vouch op).Brings held (deliverRuled site touchId draft (.refused refusal))
      fun _ _ before after => after.claims = before.claims := by
  have set : (outreach site vouch op).Brings held
      (setTouchStatus .released (some (.terminalRefusal touchId)) fun _ _ id _ => id = touchId :
        Prog (List (Uuid × Touch)))
      fun _ _ before after => after.claims = before.claims := by
    refine (ensures_setTouchStatus .released _ touchId _ _ fun _ _ _ _ => of_decide_eq_true).mono ?_
    intro begun rows before after marked
    rcases marked with ⟨_, rfl, _⟩ | ⟨row, seen, busy, _, marked⟩
    · rfl
    · have wrote : (outreach site vouch op).of after = _ := marked.wrote
      have found : (outreach site vouch op).of before = before.ledger := rfl
      have there : before.ledger.touches touchId = some row := marked.found
      rw [wrote, found]
      apply claims_set
      rw [there]
      rfl
  unfold deliverRuled
  dsimp only
  split_ifs
  · unfold releaseRefused
    exact brings_before set fun _ => quiet_audit _ _ _ _ _
  · exact ensures_throw _

/-- What the gates have found of the entity of a claim. -/
structure Entitled (heard : (call : Call) → call.Answer → Prop) (l : Ledger) (item : Touch)
    (owner : Entity) : Prop where
  below : owner.touches12mo < defaultAnnualTouchCap
  gate : match profileOf item.kind with
    | .cold => owner.activeSequenceTouchId = none ∧ Spaced heard owner
    | .followup => ∃ active touch, owner.activeSequenceTouchId = some active ∧
        l.touches active = some touch ∧ touch.prospectId = item.prospectId
    | .reply => False

/-- The entity of a claim that is committed, and the touch. -/
structure EntitledTo (heard : (call : Call) → call.Answer → Prop) (l : Ledger)
    (entityId touchId : Uuid) (item : Touch) (lead : Prospect) (owner : Entity) : Prop where
  touch : l.touches touchId = some item
  prospect : l.prospects item.prospectId = some lead
  whose : lead.entityId = entityId
  entity : l.entities entityId = some owner
  admitted : Entitled heard l item owner

/-- A claim that a delivery has made is admitted as the gates have found it. -/
theorem entitled_of_ruled {heard : (call : Call) → call.Answer → Prop}
    {l after last : Ledger} {draft : DraftTouch} {claimed : ClaimedTouch} {a : Ledger}
    (ruled : RuledOn vouch touchId draft a (.claimed claimed) l after) (onward : Later l last)
    (new : touchId ∈ last.claims entityId)
    (spaced : draft.profile = .cold → ∀ owner, l.entities draft.entityId = some owner →
      Spaced heard owner) :
    ∃ item lead owner, EntitledTo heard l entityId touchId item lead owner := by
  obtain ⟨⟨item, lead, fits⟩, mailbox, _, owner, eligible, persisted⟩ := ruled
  obtain ⟨contact, entry, theirs⟩ := new
  obtain ⟨next, there, made⟩ := Option.bind_eq_some_iff.1 entry
  obtain ⟨same, present, moved⟩ := onward.touches touchId item fits.touch
  obtain rfl := Option.some.inj (present.symm.trans there)
  unfold Touch.contact at made
  split_ifs at made with budgeted
  obtain ⟨time, _, rfl⟩ := Option.map_eq_some_iff.1 made
  have mine : l.entityOf item.prospectId = some lead.entityId := by
    unfold Ledger.entityOf
    rw [fits.prospect]
    rfl
  have whose : lead.entityId = entityId := by
    have stays := entityOf_later onward mine
    rw [← moved.prospectId] at stays
    exact Option.some.inj (stays.symm.trans theirs)
  have entity : draft.entityId = entityId := fits.entityId.trans whose
  unfold Eligible at eligible
  rw [moved.kind] at budgeted
  unfold TouchKind.budgeted GateProfile.budgeted at budgeted
  rw [← fits.profile] at budgeted
  cases profile : draft.profile with
  | reply =>
      rw [profile] at budgeted
      cases budgeted
  | cold =>
      rw [profile] at eligible
      obtain ⟨found, free, below⟩ := eligible
      have rests := spaced profile owner found
      rw [entity] at found
      refine ⟨item, lead, owner, fits.touch, fits.prospect, whose, found, below, ?_⟩
      rw [← fits.profile, profile]
      exact ⟨free, rests⟩
  | followup =>
      rw [profile] at eligible
      obtain ⟨found, ⟨active, touch, holds, said, whom⟩, below⟩ := eligible
      rw [entity] at found
      refine ⟨item, lead, owner, fits.touch, fits.prospect, whose, found, below, ?_⟩
      rw [← fits.profile, profile]
      exact ⟨active, touch, holds, said, whom.trans fits.prospectId⟩

theorem entitled_of_commit {index : Nat} {out : Out}
    {session : Session Database RowLock Exc Mark Call Call.Answer Op Out}
    (briefed : Briefed site past world) (found : world.session index = some session)
    (commits : Committing session out) (delivers : session.op.delivers touchId)
    (onward : Later world.committed.ledger (session.txn.view world.committed).ledger)
    (new : touchId ∈ (session.txn.view world.committed).ledger.claims entityId)
    (fresh : touchId ∉ world.committed.ledger.claims entityId) :
    ∃ item lead owner, EntitledTo (Heard past session.op) world.committed.ledger entityId touchId
      item lead owner := by
  obtain ⟨op, program, txn⟩ := session
  obtain ⟨rfl, intact⟩ := commits
  obtain ⟨last, later, goes⟩ := briefed.heeding index _ found
  have exec := goes (.ok out) ⟨last, txn⟩ ⟨rfl, rfl⟩
  have own := briefed.sane.sound.each index _ found
  have standing : (outreach site (fun _ _ => True) op).Standing [] (Point.begin txn.start : Spot) :=
    standing_begin txn.start (briefed.sane.begun index _ found)
  have clean : (outreach site (fun _ _ => True) op).Clean txn := ⟨intact, fun _ _ => trivial⟩
  have program : (service site).program op = unitOut (deliver site touchId) :=
    program_of_delivers delivers
  rw [program, unitOut, heard_bind_ok] at exec
  obtain ⟨_, c, exec, _, rfl⟩ := exec
  have came : CameThrough site touchId (hearing (Heard past op) Progress) (Point.begin txn.start)
      (⟨last, txn⟩ : Spot) := runs_deliver exec
  cases came with
  | ended status read =>
      have asked : ExecHeard (Heard past op) Progress
          (Program.query fun _ db => (db.touches.lookup touchId).map Touch.status :
            Prog (Option TouchStatus)) (Point.begin txn.start) (.ok status) ⟨last, txn⟩ := read
      have same : (txn.view world.committed).ledger = world.committed.ledger :=
        unmarked site (quiet_query _) asked
      rw [same] at new
      exact absurd new fresh
  | ruled ctx draft result b claimed_ ruled =>
      have claims : ExecHeard (Heard past op) Progress (deliverClaim site touchId ctx)
          (Point.begin txn.start) (.ok (draft, result)) b := claimed_
      have follows : Exec Progress (deliverRuled site touchId draft result) b (.ok ())
          ⟨last, txn⟩ := exec_of_heard ruled
      have further := exec_extends progress_order follows
      have known := progress_order.trans further.rely later
      have kept : b.txn.Stable world.committed := stable_of_held further.held own.stable
      have early : (outreach site (fun _ _ => True) op).Clean b.txn := clean_of_exec follows clean
      have ruling := brings_deliverClaim ctx _ _ _ standing (exec_of_heard claims) early
        world.committed known kept
      cases result with
      | refused refusal =>
          have unruled : (b.txn.view world.committed).ledger = world.committed.ledger := ruling.ruled
          have same : (txn.view world.committed).ledger.claims =
              (b.txn.view world.committed).ledger.claims :=
            brings_refused draft refusal _ _ _ (standing_ruled standing (exec_of_heard claims) early)
              follows clean world.committed later own.stable
          rw [same, unruled] at new
          exact absurd new fresh
      | claimed claimed =>
          refine entitled_of_ruled ruling onward new fun cold owner present => ?_
          obtain ⟨db, row, held, there, spaced⟩ := spaced_of_deliverClaim cold claims
          have cells := own.stable _ (further.held held)
          have same : world.committed.entities.lookup draft.entityId =
              db.entities.lookup draft.entityId := cells
          obtain rfl : row = owner := Option.some.inj (there.symm.trans (same.symm.trans present))
          exact spaced

/-- What a step does to the sequences and the claims of the entities: every claim that it
adds is admitted, and a sequence that follows another is of the same prospect. -/
structure Regulated (past : History) (l after : Ledger) : Prop where
  admitted : ∀ entityId, ∀ touchId ∈ after.claims entityId, touchId ∉ l.claims entityId →
    ∃ op item lead owner, op.delivers touchId ∧
      EntitledTo (Heard past op) l entityId touchId item lead owner
  single : ∀ entityId owner next active further touch item,
    l.entities entityId = some owner → owner.activeSequenceTouchId = some active →
    after.entities entityId = some next → next.activeSequenceTouchId = some further →
    l.touches active = some touch → after.touches further = some item →
      item.prospectId = touch.prospectId

theorem regulated_of_claiming {l after : Ledger} (claiming : Claiming op l after)
    (admits : ∀ entityId, ∀ touchId ∈ after.claims entityId, touchId ∉ l.claims entityId →
      ∃ item lead owner, EntitledTo (Heard past op) l entityId touchId item lead owner) :
    Regulated past l after := by
  constructor
  · intro entityId touchId new fresh
    obtain ⟨item, lead, owner, admitted⟩ := admits entityId touchId new fresh
    exact ⟨op, item, lead, owner, claiming.delivers entityId touchId new fresh, admitted⟩
  · intro entityId owner next active further touch item present held there holds said sent
    have follows : ∀ {id : Uuid} {old : Touch}, l.touches id = some old → id = further →
        item.prospectId = old.prospectId := by
      intro id old known same
      obtain ⟨new, found, moved⟩ := claiming.later.touches id old known
      rw [same] at found
      obtain rfl := Option.some.inj (found.symm.trans sent)
      exact moved.prospectId
    rcases claiming.active entityId further next there holds with ⟨old, known, same⟩ | ⟨new, fresh⟩
    · obtain rfl := Option.some.inj (known.symm.trans present)
      exact follows said (Option.some.inj (held.symm.trans same))
    · obtain ⟨draft, lead, first, admitted⟩ := admits entityId further new fresh
      obtain rfl := Option.some.inj (admitted.entity.symm.trans present)
      have mine := follows admitted.touch rfl
      have gate := admitted.admitted.gate
      cases profile : profileOf draft.kind with
      | cold =>
          rw [profile] at gate
          exact absurd (held.symm.trans gate.1) nofun
      | followup =>
          rw [profile] at gate
          obtain ⟨other, older, known, known_touch, whose⟩ := gate
          obtain rfl := Option.some.inj (known.symm.trans held)
          obtain rfl := Option.some.inj (known_touch.symm.trans said)
          exact mine.trans whose.symm
      | reply =>
          rw [profile] at gate
          exact gate.elim

/-- The counters of a state, and their bound. -/
structure Governed (db : Database) : Prop where
  counted : ∀ entityId owner, db.entities.lookup entityId = some owner →
    owner.touches12mo = (db.contacts entityId).length
  capped : ∀ entityId, (db.ledger.claims entityId).ncard ≤ defaultAnnualTouchCap

/-- A step that neither claims nor writes an entity or a touch. -/
theorem regulated_same {l after : Ledger} (claims : after.claims = l.claims)
    (entities : after.entities = l.entities) (touches : after.touches = l.touches) :
    Regulated past l after where
  admitted entityId touchId new fresh := by
    rw [claims] at new
    exact absurd new fresh
  single entityId owner next active further touch item present held there holds said sent := by
    rw [entities] at there
    rw [touches] at sent
    obtain rfl := Option.some.inj (present.symm.trans there)
    obtain rfl := Option.some.inj (held.symm.trans holds)
    obtain rfl := Option.some.inj (said.symm.trans sent)
    rfl

/-- One step: the bound is kept, and every new claim is admitted. -/
theorem governed_step {action : Act} (briefed : Briefed site past world)
    (tallied : Tallied world.committed.ledger)
    (step : (service site).act action world = some later) :
    Regulated past world.committed.ledger later.committed.ledger ∧
      ((∀ entityId, (world.committed.ledger.claims entityId).ncard ≤ defaultAnnualTouchCap) →
        ∀ entityId, (later.committed.ledger.claims entityId).ncard ≤ defaultAnnualTouchCap) := by
  have free : Vouched (fun _ _ _ _ => True) world action := fun _ _ _ _ _ _ _ _ => trivial
  have advance := advance_of_step briefed.sane.sound briefed.sane.begun free step
  cases advance with
  | idle same =>
      rw [same]
      exact ⟨regulated_same rfl rfl rfl, id⟩
  | clock ticks moved =>
      rw [moved]
      exact ⟨regulated_same rfl rfl rfl, id⟩
  | commit index session out found commits since wrote path =>
      have onward := path_later path
      have claiming := claiming_path briefed.sane.linked tallied path
      refine ⟨regulated_of_claiming claiming fun entityId touchId new fresh => ?_, claiming.capped⟩
      have delivers := claiming.delivers entityId touchId new fresh
      rw [wrote] at new onward
      exact entitled_of_commit briefed found commits delivers onward new fresh

/-- In every run from a state whose counters are right, they stay right and no entity has
more claims than the cap; every claim that a step commits has found its entity as its gate
asks, and no step takes a sequence over from another prospect. -/
theorem entities_governed {allowed : World → Act → Prop} (quiet : start.sessions = [])
    (linked : Linked start.committed.ledger) (tallied : Tallied start.committed.ledger)
    (capped : ∀ entityId, (start.committed.ledger.claims entityId).ncard ≤ defaultAnnualTouchCap)
    (trace : Trace (service site) allowed start past world) :
    Governed world.committed ∧ ∀ action after, (service site).act action world = some after →
      Regulated past world.committed.ledger after.committed.ledger := by
  have briefed : ∀ {past : History} {world : World},
      Trace (service site) allowed start past world → Briefed site past world :=
    fun trace => briefed_trace quiet linked trace (List.Subset.refl _)
  have sums : ∀ {past : History} {world : World},
      Trace (service site) allowed start past world → Tallied world.committed.ledger :=
    fun trace => tallied_run quiet linked tallied (run_of_trace trace)
  refine ⟨⟨fun entityId owner found => ?_, ?_⟩, fun action after step => ?_⟩
  · have counted := (sums trace).counted entityId owner found
    rw [counted, contacts_length]
  · induction trace with
    | nil => exact capped
    | snoc before permitted step induction =>
        exact (governed_step (briefed before) (sums before) step).2 induction
  · exact (governed_step (briefed trace) (sums trace) step).1

end Commits

section Sample

theorem sample_tallied : Tallied sampleWorld.committed.ledger := by
  refine tallied_of_counts ?_ ?_
  · intro entityId owner found
    change (Table.empty.insert 2 _).lookup entityId = some owner at found
    rw [Table.lookup_insert] at found
    split_ifs at found with same
    · subst same
      obtain rfl := Option.some.inj found
      decide +kernel
    · cases found
  · intro id item found early
    change (Table.empty.insert 4 sampleTouch).lookup id = some item at found
    rw [Table.lookup_insert] at found
    split_ifs at found with same
    · obtain rfl := Option.some.inj found
      rfl
    · cases found

theorem sample_unclaimed (entityId : Uuid) :
    sampleWorld.committed.ledger.claims entityId = ∅ := by
  apply Set.eq_empty_of_forall_notMem
  rintro touchId ⟨contact, entry, _⟩
  obtain ⟨item, found, made⟩ := Option.bind_eq_some_iff.1 entry
  change (Table.empty.insert 4 sampleTouch).lookup touchId = some item at found
  rw [Table.lookup_insert] at found
  split_ifs at found
  · obtain rfl := Option.some.inj found
    cases made
  · cases found

/-- The sample delivery comes to its commit, which is the first contact of its entity. -/
theorem sample_governed : ∃ (past : History) (world after : World),
    Trace (service sampleDeployment) unrestricted sampleWorld past world ∧
    Governed world.committed ∧
    Regulated past world.committed.ledger after.committed.ledger ∧
    (world.committed.entities.lookup 2).map Entity.touches12mo = some 0 ∧
    (after.committed.entities.lookup 2).map Entity.touches12mo = some 1 := by
  have tried : (play (deliversToCall ++ [go 0 13])).any (fun world : World =>
      ((service sampleDeployment).script [.inl (.finish 0)] world).any fun after : World =>
        (world.committed.entities.lookup 2).map Entity.touches12mo = some 0 &&
          (after.committed.entities.lookup 2).map Entity.touches12mo = some 1) = true := by
    decide +kernel
  obtain ⟨world, after, run, played, holds⟩ := runs_of_tried tried
  rw [Bool.and_eq_true, decide_eq_true_eq, decide_eq_true_eq] at holds
  obtain ⟨past, trace⟩ := trace_of_run run
  have capped : ∀ entityId,
      (sampleWorld.committed.ledger.claims entityId).ncard ≤ defaultAnnualTouchCap := by
    intro entityId
    rw [sample_unclaimed, Set.ncard_empty]
    exact Nat.zero_le _
  obtain ⟨governed, regulated⟩ :=
    entities_governed rfl sample_linked sample_tallied capped trace
  exact ⟨past, world, after, trace, governed, regulated _ after (step_of_script played), holds⟩

end Sample

end OpenReachout
