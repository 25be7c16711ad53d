import OpenReachout.Outreach.Steps

/-!
# Touches before they are sent

Drafts, their review, human tasks, and the compose jobs that make them.
-/

namespace OpenReachout

open Relational Relational.Abstraction Text

set_option autoImplicit false

variable {site : Deployment} {vouch : Mark → Ledger → Prop} {op : Op} {held : List RowLock}

section Review

/-- A guarded move of one touch between two statuses. -/
theorem brings_moveTouch (old new : TouchStatus) (touchId : Uuid) :
    (outreach site vouch op).Brings held
      (setTouchStatus new none fun _ _ id row => id = touchId && row.status = old)
      fun _ rows before after => (rows = [] ∧ after = before) ∨ ∃ item,
        rows ≠ [] ∧ before.touches touchId = some item ∧ item.status = old ∧
          after = before.setTouch touchId { item with status := new } := by
  refine (ensures_setTouchStatus new none touchId _ _ ?_).mono ?_
  · intro moment db id row chosen
    simp only [Bool.and_eq_true, decide_eq_true_eq] at chosen
    exact chosen.1
  · rintro start rows before after (⟨none_chosen, rfl, _⟩ | ⟨row, seen, busy, rfl, marked⟩)
    · exact Or.inl ⟨none_chosen, rfl⟩
    · have picked := marked.picked
      simp only [Bool.and_eq_true, decide_eq_true_eq] at picked
      exact Or.inr ⟨row, by simp, marked.found, picked.2, marked.wrote⟩

theorem follows_approvePending (touchId : Uuid) (actor : String)
    (which : op = .approvePending touchId actor) :
    (outreach site vouch op).Follows held (approvePending touchId actor) := by
  unfold approvePending
  dsimp only
  split_ifs
  · exact follows_throw _
  refine brings_bind (brings_moveTouch .pendingReview .drafted touchId) ?_
    fun rows => ?_
  · rintro start rows before _ (⟨_, rfl⟩ | ⟨item, _, found, waiting, rfl⟩)
    · exact later_refl _
    · refine later_move_touch found (Touch.later_status ?_)
      rw [waiting]
      exact Nat.zero_le _
  by_cases none_chosen : rows.isEmpty = true
  · rw [if_pos none_chosen]
    apply brings_pure
    rintro start view before (⟨_, rfl⟩ | ⟨item, some_chosen, _⟩)
    · exact .refl
    · exact absurd (List.isEmpty_iff.1 none_chosen) some_chosen
  · rw [if_neg none_chosen]
    refine brings_bind (brings_enqueue _ _ _ _) (fun _ _ _ _ => enqueued_later) fun _ =>
      brings_after (quiet_audit _ _ _ _ _) fun _ => brings_pure _ ?_
    rintro start after middle enqueued before (⟨rfl, _⟩ | ⟨item, _, found, waiting, rfl⟩)
    · exact absurd rfl none_chosen
    · exact .single (.approve touchId actor item which found waiting enqueued)

theorem follows_rejectPending (touchId : Uuid) (actor note : String)
    (which : op = .rejectPending touchId actor note) :
    (outreach site vouch op).Follows held (rejectPending touchId actor note) := by
  unfold rejectPending
  dsimp only
  split_ifs
  · exact follows_throw _
  apply follows_bind
  · apply follows_of_brings (brings_moveTouch .pendingReview .released touchId)
    rintro start rows before _ (⟨_, rfl⟩ | ⟨item, _, found, waiting, rfl⟩)
    · exact .refl
    · exact .single (.reject touchId actor note item which found waiting)
  · intro rows
    split_ifs
    · exact follows_bind (follows_quiet (quiet_audit _ _ _ _ _)) fun _ => follows_pure _
    · exact follows_pure _

end Review

section Drafting

/-- A touch that a draft makes. -/
structure Drafted (prospectId : Uuid) (campaignId : String) (stepIndex : Nat) (kind : TouchKind)
    (item : Touch) : Prop where
  prospectId : item.prospectId = prospectId
  campaignId : item.campaignId = campaignId
  stepIndex : item.stepIndex = stepIndex
  kind : item.kind = kind

/-- What becomes of a draft: it waits for its review, or for its delivery. -/
inductive Queued (prospectId : Uuid) (campaignId : String) (stepIndex : Nat) (kind : TouchKind)
    (approveFirst : Nat) (start before : Ledger) : Ledger → Prop where
  | held (touchId : Uuid) (item : Touch) (new : NewTouch before touchId item .pendingReview)
      (mine : Drafted prospectId campaignId stepIndex kind item) (ramp : approveFirst ≠ 0) :
      Queued prospectId campaignId stepIndex kind approveFirst start before (before.setTouch touchId item)
  | due (touchId : Uuid) (item : Touch) (new : NewTouch before touchId item .drafted)
      (mine : Drafted prospectId campaignId stepIndex kind item) {after : Ledger}
      (enqueued : Enqueued start.clock .deliver (.touch touchId) (.deliver touchId) 0
        (before.setTouch touchId item) after) :
      Queued prospectId campaignId stepIndex kind approveFirst start before after

theorem queued_later {prospectId : Uuid} {campaignId : String} {stepIndex : Nat} {kind : TouchKind} {approveFirst : Nat}
    {start before after : Ledger}
    (queued : Queued prospectId campaignId stepIndex kind approveFirst start before after) :
    Later before after := by
  cases queued with
  | held touchId item new mine ramp => exact later_new_touch new
  | due touchId item new mine enqueued =>
      exact later_trans (later_new_touch new) (enqueued_later enqueued)

theorem brings_holdForReview (campaignId : String) (variantId : Option String) (approveFirst : Nat) :
    (outreach site vouch op).Brings held (holdForReview campaignId variantId approveFirst)
      fun _ hold before after => (hold = true → approveFirst ≠ 0) ∧ after = before := by
  unfold holdForReview
  by_cases off : approveFirst = 0
  · rw [if_pos off]
    exact brings_pure _ fun _ _ => ⟨nofun, rfl⟩
  · rw [if_neg off]
    apply brings_after
    · apply quiet_perform
      rintro moment seen effect success db
      obtain rfl := Except.ok.inj success
      rfl
    · exact fun _ => brings_quiet (quiet_query _) fun _ _ _ => ⟨fun _ => off, rfl⟩

theorem brings_queueDraft (deployment : Deployment) (prospectId : Uuid) (campaignId : String)
    (variantId : Option String) (stepIndex : Nat) (kind : TouchKind) (draft : Draft)
    (hash : String) (approveFirst : Nat) :
    (outreach site vouch op).Brings held
      (queueDraft deployment prospectId campaignId variantId stepIndex kind draft hash approveFirst)
      fun start _ before after =>
        Queued prospectId campaignId stepIndex kind approveFirst start before after := by
  unfold queueDraft
  refine brings_after (quiet_ask _) fun touchId => ?_
  dsimp only
  refine brings_seen (brings_holdForReview campaignId variantId approveFirst) fun hold => ?_
  refine brings_bind (brings_insertTouch touchId _ rfl rfl) ?_ fun _ => ?_
  · rintro start _ before _ ⟨new, rfl⟩
    exact later_new_touch new
  cases hold with
  | true =>
      apply brings_pure
      rintro start _ before ⟨new, rfl⟩ ramp
      exact .held touchId _ new ⟨rfl, rfl, rfl, rfl⟩ (ramp rfl)
  | false =>
      refine brings_bind (brings_enqueue _ _ _ _) (fun _ _ _ _ => enqueued_later) fun _ =>
        brings_pure _ ?_
      rintro start after middle enqueued before ⟨new, rfl⟩ _
      exact .due touchId _ new ⟨rfl, rfl, rfl, rfl⟩ enqueued

/-- A draft whose making is accounted for is a deed. -/
theorem deed_of_queued {prospectId : Uuid} {campaignId : String} {stepIndex : Nat}
    {kind : TouchKind} {approveFirst : Nat} {start before after : Ledger}
    (queued : Queued prospectId campaignId stepIndex kind approveFirst start before after)
    (drafting : ∀ item, Drafted prospectId campaignId stepIndex kind item → Drafting op start item)
    (ramp : approveFirst ≠ 0 → kind ≠ .agenticReply) (met : before.Met prospectId) :
    Deed site vouch op start before after := by
  cases queued with
  | held touchId item new mine on =>
      rw [← mine.prospectId] at met
      refine .hold touchId item new (drafting item mine) ?_ met
      rw [mine.kind]
      exact ramp on
  | due touchId item new mine enqueued =>
      rw [← mine.prospectId] at met
      exact .draft touchId item new (drafting item mine) met enqueued

/-- An agentic reply is never held for review. -/
theorem given_queueReply (deployment : Deployment) (prospectId : Uuid) (campaignId : String)
    (draft : Draft) (hash : String)
    (turn : ":agentic_reply".toList.isSuffixOf campaignId.toList = true →
      ∃ replyId, op.classifies replyId) :
    (outreach site vouch op).FollowsGiven held (fun l => l.Met prospectId)
      (queueDraft deployment prospectId campaignId none 0 .agenticReply draft hash) := by
  refine (brings_queueDraft deployment prospectId campaignId none 0 .agenticReply draft hash 0).mono ?_
  intro start _ before after queued met
  refine .single (deed_of_queued queued (fun item mine => ?_) (fun off => absurd rfl off) met)
  refine .reply mine.kind mine.stepIndex fun exchange => ?_
  apply turn
  unfold Touch.exchange at exchange
  rw [mine.campaignId] at exchange
  exact ((Bool.and_eq_true _ _).mp exchange).2

/-- The campaigns that are named otherwise. -/
theorem not_exchange {other : String} (name : String)
    (short : other.toList.length ≤ ":agentic_reply".toList.length)
    (apart : other.toList.isSuffixOf ":agentic_reply".toList = false) :
    ":agentic_reply".toList.isSuffixOf (name ++ other).toList ≠ true := by
  intro ends
  rw [String.toList_append, List.isSuffixOf_iff_suffix] at ends
  have inside := List.suffix_of_suffix_length_le (List.suffix_append name.toList other.toList) ends
    short
  rw [← List.isSuffixOf_iff_suffix, apart] at inside
  cases inside

end Drafting

section Sequences

/-- The sequence that is active for an entity belongs to the prospect. -/
structure Ledger.Owns (l : Ledger) (prospectId : Uuid) (lead : Prospect) (owner : Entity)
    (active : Uuid) (item : Touch) : Prop where
  prospect : l.prospects prospectId = some lead
  entity : l.entities lead.entityId = some owner
  held : owner.activeSequenceTouchId = some active
  touch : l.touches active = some item
  owned : item.prospectId = prospectId

/-- The sequence of a prospect is released, where it is active. -/
inductive Released (prospectId : Uuid) (l : Ledger) : Ledger → Prop where
  | idle : Released prospectId l l
  | free (lead : Prospect) (owner : Entity) (active : Uuid) (item : Touch)
      (owns : l.Owns prospectId lead owner active item) :
      Released prospectId l (l.setEntity lead.entityId { owner with activeSequenceTouchId := none })

theorem owns_of_row {seen before : Database} {prospectId entityId : Uuid} {row : Entity}
    (later : Later seen.ledger before.ledger)
    (found : before.entities.lookup entityId = some row)
    (owned : ownsSequence seen prospectId entityId row = true) :
    ∃ lead active item, lead.entityId = entityId ∧
      before.ledger.Owns prospectId lead row active item := by
  simp only [ownsSequence, Bool.and_eq_true, decide_eq_true_eq, Option.any_eq_true] at owned
  obtain ⟨⟨prospect, there, same⟩, active⟩ := owned
  simp only [activeProspect, Option.map_eq_some_iff, Option.bind_eq_some_iff] at active
  obtain ⟨touch, ⟨touchId, lock, stored⟩, mine⟩ := active
  obtain ⟨lead, now_there, kept⟩ := later.prospects prospectId prospect there
  obtain ⟨item, now_stored, moved⟩ := later.touches touchId touch stored
  have entity : lead.entityId = entityId := kept.entityId.trans same
  refine ⟨lead, touchId, item, entity, now_there, ?_, lock, now_stored, moved.prospectId.trans mine⟩
  rw [entity]
  exact found

/-- A sequence is released unless the entity was not seen to be in one of the prospect. -/
theorem ensures_releaseSequence (prospectId : Uuid) :
    (outreach site vouch op).Ensures held (releaseSequence prospectId) fun start _ before after =>
      (after.ledger = before.ledger ∧ ∃ seen,
        (outreach site vouch op).Glimpse held start before seen ∧
        ∀ id row, seen.entities.lookup id = some row →
          ownsSequence seen prospectId id row = false) ∨
      ∃ lead owner active item, before.ledger.Owns prospectId lead owner active item ∧
        after.ledger =
          before.ledger.setEntity lead.entityId { owner with activeSequenceTouchId := none } := by
  refine (ensures_before (ensures_update Tables.entities
    (fun _ db id row => ownsSequence db prospectId id row) _) fun _ => quiet_pure _).mono ?_
  rintro start _ before after ⟨rows, middle, ⟨seen, busy, updated⟩, same⟩
  have same : after.ledger = middle.ledger := same
  rw [same]
  have one : ∀ key other row next, ownsSequence seen prospectId key row = true →
      ownsSequence seen prospectId other next = true → key = other := by
    intro key other row next first second
    simp only [ownsSequence, Bool.and_eq_true, decide_eq_true_eq, Option.any_eq_true] at first second
    obtain ⟨⟨prospect, there, same⟩, _⟩ := first
    obtain ⟨⟨again, found, equal⟩, _⟩ := second
    obtain rfl := Option.some.inj (there.symm.trans found)
    exact same.symm.trans equal
  rcases updated.single one with ⟨empty, rfl⟩ | ⟨key, row, _, present, _, picked, replaced⟩
  · refine Or.inl ⟨rfl, seen, updated.glimpse, fun id row there => ?_⟩
    rw [Bool.eq_false_iff]
    intro owned
    have hit := updated.hit there owned
    rw [empty] at hit
    cases hit
  · obtain ⟨lead, active, item, rfl, owns⟩ := owns_of_row updated.glimpse.until_ present picked
    exact Or.inr ⟨lead, row, active, item, owns, ledger_replaced_entity replaced⟩

theorem brings_releaseSequence (prospectId : Uuid) :
    (outreach site vouch op).Brings held (releaseSequence prospectId) fun _ _ before after =>
      Released prospectId before after := by
  refine (ensures_releaseSequence prospectId).mono ?_
  rintro start _ before after (⟨same, _⟩ | ⟨lead, owner, active, item, owns, wrote⟩)
  · rw [show (outreach site vouch op).of after = _ from same]
    exact .idle
  · rw [show (outreach site vouch op).of after = _ from wrote]
    exact .free lead owner active item owns

theorem later_released {prospectId : Uuid} {before after : Ledger}
    (released : Released prospectId before after) : Later before after := by
  cases released with
  | idle => exact later_refl _
  | free lead owner active item owns =>
      exact later_set_entity (kept_some owns.entity ⟨rfl, le_rfl, id, id⟩)

theorem path_of_released {prospectId : Uuid} {start before after : Ledger}
    (released : Released prospectId before after) :
    Relation.ReflTransGen (Deed site vouch op start) before after := by
  cases released with
  | idle => exact .refl
  | free lead owner active item owns =>
      exact .single (.release prospectId lead owner active item owns.prospect owns.entity owns.held
        owns.touch owns.owned)

theorem follows_releaseSequence (prospectId : Uuid) :
    (outreach site vouch op).Follows held (releaseSequence prospectId) :=
  follows_of_brings (brings_releaseSequence prospectId) fun _ _ _ _ => path_of_released

end Sequences

section Tasks

/-- A human task and the touch it stands for. -/
inductive Parked (prospectId : Uuid) (stepIndex : Nat) (l : Ledger) : Ledger → Prop where
  | made (touchId taskId : Uuid) (item : Touch) (task : HumanTask)
      (new : NewTouch l touchId item .pendingHuman) (kind : item.kind = .humanTask)
      (step : item.stepIndex = stepIndex) (whose : item.prospectId = prospectId)
      (untasked : l.tasks taskId = none) (pending : task.status = .pending)
      (mine : task.touchId = touchId) (theirs : task.prospectId = item.prospectId) :
      Parked prospectId stepIndex l ((l.setTouch touchId item).setTask taskId task)

theorem brings_createForStep (platform : Platform) (tenant : String) (prospectId : Uuid)
    (campaignId : String) (stepIndex : Nat) (instruction valueProp : String) :
    (outreach site vouch op).Brings held
      (createForStep platform tenant prospectId campaignId stepIndex instruction valueProp)
      fun _ _ before after => Parked prospectId stepIndex before after := by
  unfold createForStep
  refine brings_after (quiet_ask _) fun touchId => ?_
  refine brings_bind (brings_insertTouch touchId _ rfl rfl) ?_ fun _ => ?_
  · rintro start _ before _ ⟨new, rfl⟩
    exact later_new_touch new
  refine brings_after (quiet_assembleBrief _ _ _ _) fun brief =>
    brings_after (quiet_ask _) fun taskId => ?_
  refine (ensures_before (ensures_insertRow Tables.humanTasks none _ _ taskId _) fun _ =>
    quiet_bind (quiet_audit _ _ _ _ _) fun _ => quiet_pure _).mono ?_
  rintro start _ before after ⟨_, final, ⟨_, _, _, _, untasked, replaced⟩, same⟩ first ⟨new, wrote⟩
  have free : before.ledger.tasks taskId = none := untasked
  have parked : before.ledger = first.setTouch touchId _ := wrote
  have written : after.ledger = _ := same.trans (ledger_replaced_task replaced)
  rw [parked] at free
  change Parked prospectId stepIndex first after.ledger
  rw [written, parked]
  exact .made touchId taskId _ _ new rfl rfl rfl free rfl rfl rfl

theorem path_of_parked {prospectId : Uuid} {stepIndex : Nat} {start before after : Ledger}
    (parked : Parked prospectId stepIndex before after) (met : before.Met prospectId) :
    Relation.ReflTransGen (Deed site vouch op start) before after := by
  cases parked with
  | made touchId taskId item task new kind step whose untasked pending mine theirs =>
      rw [← whose] at met
      exact .single (.park touchId taskId item task new kind untasked pending mine theirs met)

theorem given_createForStep (platform : Platform) (tenant : String) (prospectId : Uuid)
    (campaignId : String) (stepIndex : Nat) (instruction valueProp : String) :
    (outreach site vouch op).FollowsGiven held (fun l => l.Met prospectId)
      (createForStep platform tenant prospectId campaignId stepIndex instruction valueProp) :=
  (brings_createForStep platform tenant prospectId campaignId stepIndex instruction valueProp).mono
    fun _ _ _ _ => path_of_parked

/-- The row of a task names the touch and the prospect of `task`. -/
def Tasked (taskId : Uuid) (task : HumanTask) (l : Ledger) : Prop :=
  ∃ row, l.tasks taskId = some row ∧ row.touchId = task.touchId ∧
    row.prospectId = task.prospectId

/-- The touch of a task is ended while the task is locked. -/
theorem brings_settleTouch (taskId : Uuid) (task : HumanTask) (finished : Bool)
    (locked : RowLock.humanTask taskId ∈ held) (status : TouchStatus)
    (also : Moment Database RowLock → Touch → Touch)
    (ends : ∀ moment (row : Touch),
      { also moment row with status } = row.settled moment.start.clock finished) :
    (outreach site vouch op).Brings held
      (setTouchStatus status (some (.settleTask task.touchId))
        (fun _ _ id _ => id = task.touchId) also)
      fun start _ before after => Later before after ∧ (Tasked taskId task before →
        ∃ item, before.touches task.touchId = some item ∧
          after = before.setTouch task.touchId (item.settled start.clock finished)) := by
  refine (ensures_setTouchStatus status _ task.touchId _ _ fun _ _ _ _ =>
    of_decide_eq_true).mono ?_
  rintro start rows before after (⟨_, rfl, seen, busy, glimpse, spared⟩ | ⟨row, seen, busy, _, marked⟩)
  · refine ⟨later_refl _, ?_⟩
    rintro ⟨row, found, mine, _⟩
    have same : seen.ledger.tasks taskId = some row :=
      (glimpse.row Tables.humanTasks locked).symm.trans found
    have there := (linked_later glimpse.sound glimpse.since).taskTouch taskId row same
    obtain ⟨item, present⟩ := Option.isSome_iff_exists.1 there
    rw [mine] at present
    exact absurd (spared item present) (by simp)
  · have wrote := marked.wrote
    rw [ends] at wrote
    change Later before.ledger after.ledger ∧ _
    refine ⟨?_, fun _ => ⟨row, marked.found, wrote⟩⟩
    rw [wrote]
    exact later_move_touch marked.found (row.later_settled _ _)

/-- A finished task counts as a contact while it is locked. -/
theorem brings_countTask (taskId : Uuid) (task : HumanTask)
    (locked : RowLock.humanTask taskId ∈ held) :
    (outreach site vouch op).Brings held
      (Program.update Tables.entities
        (fun _ db id _ => (db.prospects.lookup task.prospectId).any fun row => row.entityId = id)
        fun moment row =>
          { row with
            lastCampaignContactAt := some moment.start.clock
            touches12mo := row.touches12mo + 1 } : Prog (List (Uuid × Entity)))
      fun start _ before after => Later before after ∧ (Tasked taskId task before →
        Counted start.clock task true before after) := by
  refine (ensures_update Tables.entities _ _).mono ?_
  rintro start rows before after ⟨seen, busy, updated⟩
  have one : ∀ (key other : Uuid) (row next : Entity),
      (seen.prospects.lookup task.prospectId).any (fun row => decide (row.entityId = key)) = true →
      (seen.prospects.lookup task.prospectId).any (fun row => decide (row.entityId = other)) = true →
      key = other := by
    intro key other row next first second
    simp only [Option.any_eq_true, decide_eq_true_eq] at first second
    obtain ⟨lead, there, rfl⟩ := first
    obtain ⟨again, found, rfl⟩ := second
    obtain rfl := Option.some.inj (there.symm.trans found)
    rfl
  rcases updated.single one with ⟨empty, rfl⟩ | ⟨key, row, _, present, _, picked, replaced⟩
  · refine ⟨later_refl _, ?_⟩
    rintro ⟨row, found, _, theirs⟩
    have linked := linked_later updated.glimpse.sound updated.glimpse.since
    have same : seen.ledger.tasks taskId = some row :=
      (updated.glimpse.row Tables.humanTasks locked).symm.trans found
    obtain ⟨lead, there⟩ := Option.isSome_iff_exists.1 (linked.taskProspect taskId row same)
    obtain ⟨owner, entity⟩ := Option.isSome_iff_exists.1 (linked.entityOf _ lead there)
    rw [theirs] at there
    have there : seen.prospects.lookup task.prospectId = some lead := there
    have hit := updated.hit entity (by simp [there])
    rw [empty] at hit
    cases hit
  · simp only [Option.any_eq_true, decide_eq_true_eq] at picked
    obtain ⟨lead, there, rfl⟩ := picked
    obtain ⟨now_lead, found, kept⟩ := updated.glimpse.until_.prospects _ lead there
    have entity : before.ledger.entities now_lead.entityId = some row := by
      rw [kept.entityId]
      exact present
    rw [show (outreach site vouch op).of after = _ from ledger_replaced_entity replaced,
      ← kept.entityId]
    have counted : Counted start.ledger.clock task true before.ledger _ :=
      .contact now_lead row rfl found entity
    exact ⟨counted_later counted, fun _ => counted⟩

/-- A pending task is closed. -/
theorem ensures_closeTask (taskId : Uuid) (actor note : String) (finished : Bool) :
    (outreach site vouch op).Ensures held
      (Program.update Tables.humanTasks (fun _ _ id row => id = taskId && row.status = .pending)
        fun moment row =>
          { row with
            status := if finished then .done else .skipped
            resolvedAt := some moment.start.clock
            resolvedBy := some actor
            outcomeNote := some note } : Prog (List (Uuid × HumanTask)))
      fun start rows before after =>
        (rows = [] ∧ after = before) ∨ ∃ task, rows = [(taskId, task)] ∧
          before.ledger.tasks taskId = some task ∧ task.status = .pending ∧
          after.ledger = before.ledger.setTask taskId
            (task.settled start.clock actor note finished) := by
  refine (ensures_update Tables.humanTasks _ _).mono ?_
  rintro start rows before after ⟨seen, busy, updated⟩
  have one : ∀ (key other : Uuid) (row next : HumanTask),
      (decide (key = taskId) && decide (row.status = .pending)) = true →
      (decide (other = taskId) && decide (next.status = .pending)) = true → key = other := by
    intro key other row next first second
    simp only [Bool.and_eq_true, decide_eq_true_eq] at first second
    exact first.1.trans second.1.symm
  rcases updated.single one with ⟨none_chosen, rfl⟩ | ⟨key, row, rows, present, _, picked, replaced⟩
  · exact Or.inl ⟨none_chosen, rfl⟩
  · simp only [Bool.and_eq_true, decide_eq_true_eq] at picked
    obtain ⟨rfl, pending⟩ := picked
    exact Or.inr ⟨row, rows, present, pending, ledger_replaced_task replaced⟩

theorem follows_resolve (taskId : Uuid) (actor : String) (finished : Bool) (note : String)
    (which : op = .resolveTask taskId actor finished note) :
    (outreach site vouch op).Follows held (resolve taskId actor finished note) := by
  unfold resolve
  dsimp only
  split
  · exact follows_throw _
  refine brings_taking (ensures_closeTask taskId actor note finished) ?_
    (takes_updateChecked Tables.humanTasks none _ _ _) fun rows => ?_
  · rintro start rows before after (⟨_, rfl⟩ | ⟨task, _, found, pending, wrote⟩)
    · exact later_refl _
    · change Later before.ledger after.ledger
      rw [wrote]
      exact later_set_task found (HumanTask.later_settled _ actor note finished pending)
  match rows with
  | [] =>
      refine ensures_pure _ ?_
      rintro start view before (⟨_, rfl⟩ | ⟨task, impossible, _⟩)
      · exact .refl
      · cases impossible
  | (id, task) :: rest =>
      have named : RowLock.humanTask id ∈ held ++ ((id, task) :: rest).map fun entry =>
          Tables.humanTasks.lock entry.1 := by simp
      have quiet : ∀ event, (outreach site vouch op).Quiet
          (auditTask taskId event actor [("note", .text note)] >>= fun _ => pure true) :=
        fun event => quiet_bind (quiet_audit _ _ _ _ _) fun _ => quiet_pure _
      have deed : ∀ {start before middle : Database},
          ((id, task) :: rest = [] ∧ middle = before) ∨
            (∃ closed, (id, task) :: rest = [(taskId, closed)] ∧
              before.ledger.tasks taskId = some closed ∧ closed.status = .pending ∧
              middle.ledger = before.ledger.setTask taskId
                (closed.settled start.clock actor note finished)) →
          Tasked id task middle.ledger ∧ ∀ {item : Touch} {after : Ledger},
            middle.ledger.touches task.touchId = some item →
            Counted start.ledger.clock task finished
              (middle.ledger.setTouch task.touchId (item.settled start.ledger.clock finished))
              after →
            Deed site vouch op start.ledger before.ledger after := by
        rintro start before middle (⟨impossible, _⟩ | ⟨closed, same, found, pending, wrote⟩)
        · cases impossible
        · obtain ⟨rfl, rfl⟩ := Prod.mk.inj (List.cons.inj same).1
          rw [wrote]
          refine ⟨⟨_, Function.update_self _ _ _, rfl, rfl⟩, ?_⟩
          intro item after touch counted
          exact .settle id actor finished note task item which found pending touch counted
      dsimp only
      cases finished with
      | true =>
          refine ensures_bind (brings_settleTouch id task true named .sent _ fun _ _ => rfl).ensures
            (fun _ _ _ _ settled => settled.1) fun _ => ?_
          refine ((brings_countTask id task named).ensures_before fun _ => quiet "done").mono ?_
          rintro start _ third after ⟨_, counted⟩ middle ⟨later, settled⟩ before closed
          obtain ⟨tasked, step⟩ := deed closed
          obtain ⟨item, touch, wrote⟩ := settled tasked
          have third_tasked : Tasked id task third.ledger := by
            rw [show third.ledger = _ from wrote]
            exact tasked
          have contact := counted third_tasked
          rw [wrote] at contact
          exact .single (step touch contact)
      | false =>
          refine ((brings_settleTouch id task false named .released _ fun _ _ => rfl).ensures_before
            fun _ => quiet "skipped").mono ?_
          rintro start _ middle after ⟨later, settled⟩ before closed
          obtain ⟨tasked, step⟩ := deed closed
          obtain ⟨item, touch, wrote⟩ := settled tasked
          rw [show after.ledger = _ from wrote]
          exact .single (step touch (.skipped rfl))

/-- Some touches among those named are released. -/
def Lapsed (named : Uuid → Prop) (before after : Ledger) : Prop :=
  ∃ overdue : Uuid → Bool, (∀ id, overdue id = true → named id) ∧ after = before.lapsed overdue

theorem lapsed_refl (named : Uuid → Prop) (l : Ledger) : Lapsed named l l :=
  ⟨fun _ => false, nofun, rfl⟩

theorem lapsed_twice (l : Ledger) (early late : Uuid → Bool) :
    (l.lapsed early).lapsed late = l.lapsed fun id => early id || late id := by
  simp only [Ledger.lapsed]
  congr 1
  funext id
  unfold changed
  by_cases second : late id = true
  · by_cases first : early id = true
    · simp [first, second, Function.comp_def]
    · simp [first, second]
  · by_cases first : early id = true
    · simp [first, second]
    · simp [first, second]

theorem lapsed_trans {named : Uuid → Prop} {first second third : Ledger}
    (one : Lapsed named first second) (two : Lapsed named second third) :
    Lapsed named first third := by
  obtain ⟨early, theirs, rfl⟩ := one
  obtain ⟨late, others, rfl⟩ := two
  refine ⟨fun id => early id || late id, ?_, lapsed_twice first early late⟩
  intro id overdue
  rcases Bool.or_eq_true_iff.1 overdue with overdue | overdue
  · exact theirs id overdue
  · exact others id overdue

theorem brings_lapseTouch (touchId : Uuid) (named : Uuid → Prop) (inside : named touchId) :
    (outreach site vouch op).Brings held
      (setTouchStatus .released (some (.settleTask touchId)) fun _ _ id _ => id = touchId)
      fun _ _ before after => Lapsed named before after := by
  refine (ensures_setTouchStatus .released _ touchId _ _ fun _ _ _ _ => of_decide_eq_true).mono ?_
  rintro start rows before after (⟨_, rfl, _⟩ | ⟨row, seen, busy, _, marked⟩)
  · exact lapsed_refl named _
  · refine ⟨fun id => id = touchId, ?_, ?_⟩
    · intro id same
      obtain rfl := of_decide_eq_true same
      exact inside
    · rw [show (outreach site vouch op).of after = _ from marked.wrote]
      have rows : Function.update before.ledger.touches touchId
            (some { row with status := .released }) =
          changed before.ledger.touches (fun id => id = touchId)
            fun item => { item with status := .released } := by
        funext id
        unfold changed
        by_cases same : id = touchId
        · subst same
          rw [Function.update_self, if_pos (decide_eq_true rfl),
            show before.ledger.touches id = some row from marked.found]
          rfl
        · rw [Function.update_of_ne same, if_neg (by simpa using same)]
      change _ = before.ledger.lapsed fun id => id = touchId
      unfold Ledger.setTouch Ledger.lapsed
      rw [rows]

theorem brings_closeOverdue (maxAgeDays : Nat) :
    (outreach site vouch op).Brings held
      (Program.update Tables.humanTasks
        (fun moment _ _ row =>
          row.status = .pending && row.createdAt + days maxAgeDays < moment.start.clock)
        fun moment row =>
          { row with
            status := .expired
            resolvedAt := some moment.start.clock
            resolvedBy := some "system:expiry" } : Prog (List (Uuid × HumanTask)))
      fun start rows before after =>
        (∀ entry ∈ rows, before.tasks entry.1 = some entry.2 ∧ entry.2.status = .pending) ∧
        after = before.closed start.clock fun id => id ∈ rows.map Prod.fst := by
  refine (ensures_update Tables.humanTasks _ _).mono ?_
  rintro start rows before after ⟨seen, busy, updated⟩
  obtain ⟨table, rfl, lookups⟩ := updated.table
  constructor
  · intro entry member
    have picked := (updated.picked member).2
    simp only [Bool.and_eq_true, decide_eq_true_eq] at picked
    exact ⟨updated.present entry member, picked.1⟩
  · simp only [Database.ledger, changed_of_lookups lookups]
    rfl

theorem follows_expire (which : op = .expireTasks) :
    (outreach site vouch op).Follows held expire := by
  unfold expire
  have theirs : ∀ (rows : List (Uuid × HumanTask)) (before : Ledger),
      (∀ entry ∈ rows, before.tasks entry.1 = some entry.2 ∧ entry.2.status = .pending) →
        ∀ id task, decide (id ∈ rows.map Prod.fst) = true → before.tasks id = some task →
          task.status = .pending := by
    intro rows before pending id task chosen found
    obtain ⟨entry, member, rfl⟩ := List.mem_map.1 (of_decide_eq_true chosen)
    obtain ⟨same, state⟩ := pending entry member
    obtain rfl := Option.some.inj (same.symm.trans found)
    exact state
  refine brings_bind (brings_closeOverdue _) ?_ fun rows => ?_
  · rintro start rows before _ ⟨pending, rfl⟩
    exact closed_later (theirs rows before pending)
  have onward : ∀ {named : Uuid → Prop} {before after : Database},
      Lapsed named before.ledger after.ledger → Later before.ledger after.ledger := by
    rintro named before after ⟨overdue, _, same⟩
    rw [same]
    exact lapsed_later overdue
  have each : ∀ entry ∈ rows, (outreach site vouch op).Ensures held
      (setTouchStatus .released (some (.settleTask entry.2.touchId))
          (fun _ _ id _ => id = entry.2.touchId) >>= fun _ =>
        auditTask entry.1 "expired" "system:expiry" [])
      fun _ _ before after =>
        Lapsed (fun touchId => ∃ entry ∈ rows, entry.2.touchId = touchId)
          before.ledger after.ledger := by
    intro entry member
    exact (brings_lapseTouch entry.2.touchId _ ⟨entry, member, rfl⟩).ensures_before fun _ =>
      quiet_audit _ _ _ _ _
  have all := ensures_forM rows each (fun _ _ => lapsed_refl _ _) (fun one two => lapsed_trans one two)
    onward
  refine ensures_bind all (fun _ _ _ _ => onward) fun _ => ensures_pure _ ?_
  rintro start after middle ⟨overdue, named, same⟩ before ⟨pending, closed⟩
  change middle.ledger = _ at closed
  change Relation.ReflTransGen _ before after.ledger
  rw [same, closed]
  refine .single (.expire (fun id => id ∈ rows.map Prod.fst) overdue which
    (theirs rows before pending) ?_)
  intro touchId late
  obtain ⟨entry, member, rfl⟩ := named touchId late
  exact ⟨entry.1, entry.2, decide_eq_true (List.mem_map_of_mem member),
    (pending entry member).1, rfl⟩

end Tasks

section Composing

/-- The prospect was seen in one of the states since the transaction began. -/
def Sighted (prospectId : Uuid) (states : List ProspectState) (start : Ledger) : Prop :=
  ∃ seen lead, Later start seen ∧ seen.prospects prospectId = some lead ∧ lead.state ∈ states

theorem brings_personaAndCandidate (runtimes : List (String × TenantRuntime)) (prospectId : Uuid)
    (states : List ProspectState) (past : ∀ state ∈ states, state.met = true) :
    (outreach site vouch op).Brings held (personaAndCandidate runtimes prospectId states)
      fun start loaded before after =>
        (loaded.isSome = true → Sighted prospectId states start ∧ before.Met prospectId) ∧
          after = before := by
  unfold personaAndCandidate
  refine brings_from (ensures_query _) ?_ fun row => ?_
  · rintro start row before after ⟨_, _, _, _, rfl⟩
    exact later_refl _
  match row with
  | none => exact ensures_pure _ fun start db before ⟨_, _, _, _, same⟩ => ⟨nofun, by rw [same]⟩
  | some (slug, prospect, entity) =>
      dsimp only
      split
      · exact ensures_throw _
      · refine ensures_pure _ ?_
        rintro start db before ⟨seen, busy, glimpse, read, rfl⟩
        refine ⟨fun _ => ?_, rfl⟩
        obtain ⟨lead, found, read⟩ := Option.bind_eq_some_iff.1 read.symm
        split at read
        · rename_i inside
          obtain ⟨next, there, kept⟩ := glimpse.until_.prospects _ lead found
          have state := ProspectState.met_path kept.path (past _ inside)
          exact ⟨⟨seen.ledger, lead, glimpse.since, found, inside⟩, .qualified next there state⟩
        · cases read

theorem brings_composeStep (deployment : Deployment) (prospectId : Uuid) (stepIndex : Nat)
    (runtime : TenantRuntime) (persona : PersonaSpec) (candidate : Candidate) (card : List Fact)
    (which : op.composes prospectId stepIndex) :
    (outreach site vouch op).Brings held
      (composeStep deployment prospectId stepIndex runtime persona candidate card)
      fun start _ before after =>
        Sighted prospectId (if stepIndex = 0 then [.queued] else [.contacted]) start →
          before.Met prospectId → Relation.ReflTransGen (Deed site vouch op start) before after := by
  unfold composeStep
  split
  · refine (given_before (given_createForStep _ _ _ _ _ _ _) fun _ => quiet_pure _).mono ?_
    exact fun _ _ _ _ path _ met => path met
  · dsimp only
    split
    · refine (follows_bind (follows_releaseSequence _) fun _ => follows_pure _).mono ?_
      exact fun _ _ _ _ path _ _ => path
    · refine brings_after (quiet_selectVariant _ _) fun variant =>
        brings_after (quiet_composeOrEscalate _ _ _ _) fun result => ?_
      match result with
      | none => exact brings_pure _ fun _ _ _ _ => .refl
      | some result =>
          refine (brings_before (brings_queueDraft _ _ _ _ _ _ _ _ _) fun _ => quiet_pure _).mono ?_
          rintro start _ before after queued ⟨seen, lead, since, found, state⟩ met
          refine .single (deed_of_queued queued (fun item mine => ?_) (fun _ => ?_) met)
          · refine .step ?_ ?_ seen since lead ?_ ?_
            · rw [mine.prospectId, mine.stepIndex]
              exact which
            · rw [mine.kind, mine.stepIndex]
            · rw [mine.prospectId]
              exact found
            · rw [mine.stepIndex]
              split_ifs at state ⊢ <;> simpa using state
          · split_ifs <;> simp

theorem follows_composeHandler (deployment : Deployment) (prospectId : Uuid) (stepIndex : Nat)
    (which : op.composes prospectId stepIndex) :
    (outreach site vouch op).Follows held (composeHandler deployment prospectId stepIndex) := by
  unfold composeHandler
  have past : ∀ state ∈ (if stepIndex = 0 then [.queued] else [.contacted] : List ProspectState),
      state.met = true := by
    split_ifs <;> decide
  refine brings_seen (brings_personaAndCandidate _ _ _ past) fun loaded =>
    brings_after (quiet_loadCard _) fun card => ?_
  have release : (outreach site vouch op).Brings held
      (if 0 < stepIndex then do
        let _ ← releaseSequence prospectId
        pure ()
      else pure () : Prog Unit)
      fun start _ before after => (loaded.isSome = true →
        Sighted prospectId (if stepIndex = 0 then [.queued] else [.contacted]) start ∧
          before.Met prospectId) → Relation.ReflTransGen (Deed site vouch op start) before after := by
    by_cases later : 0 < stepIndex
    · rw [if_pos later]
      refine (follows_bind (follows_releaseSequence _) fun _ => follows_pure _).mono ?_
      exact fun _ _ _ _ path _ => path
    · rw [if_neg later]
      exact brings_pure _ fun _ _ _ => Relation.ReflTransGen.refl
  match loaded with
  | some (runtime, some persona, candidate) =>
      refine (brings_composeStep deployment prospectId stepIndex runtime persona candidate card
        which).mono ?_
      exact fun _ _ _ _ path sighted => path (sighted rfl).1 (sighted rfl).2
  | some (runtime, none, candidate) => exact release
  | none => exact release

end Composing

section Replying

theorem follows_referral (prospectId : Uuid) :
    (outreach site vouch op).Follows held
      (Program.update Tables.entities
        (fun _ db id row =>
          ((db.prospects.lookup prospectId).any fun prospect => prospect.entityId = id) &&
            !row.referralAsked && !row.forgotten)
        fun _ row => { row with referralAsked := true } : Prog (List (Uuid × Entity))) := by
  refine follows_deeds (ensures_update Tables.entities _ _) ?_
  rintro start rows before after ⟨seen, busy, updated⟩
  have one : ∀ (key other : Uuid) (row next : Entity),
      (((seen.prospects.lookup prospectId).any fun prospect => decide (prospect.entityId = key)) &&
        !row.referralAsked && !row.forgotten) = true →
      (((seen.prospects.lookup prospectId).any fun prospect => decide (prospect.entityId = other)) &&
        !next.referralAsked && !next.forgotten) = true → key = other := by
    intro key other row next first second
    simp only [Bool.and_eq_true, Option.any_eq_true, decide_eq_true_eq] at first second
    obtain ⟨⟨⟨lead, there, rfl⟩, _⟩, _⟩ := first
    obtain ⟨⟨⟨again, found, rfl⟩, _⟩, _⟩ := second
    obtain rfl := Option.some.inj (there.symm.trans found)
    rfl
  rcases updated.single one with ⟨_, rfl⟩ | ⟨key, row, _, present, _, picked, replaced⟩
  · exact .refl
  · simp only [Bool.and_eq_true, Bool.not_eq_true'] at picked
    rw [ledger_replaced_entity replaced]
    exact .single (.refer key row present picked.1.2 picked.2)

theorem follows_processPositiveEvent (deployment : Deployment) (prospectId : Uuid) :
    (outreach site vouch op).Follows held (processPositiveEvent deployment prospectId) := by
  unfold processPositiveEvent
  refine brings_seen (brings_personaAndCandidate _ _ _ (by decide)) fun loaded =>
    brings_after (quiet_loadCard _) fun card => ?_
  match loaded with
  | some (runtime, some persona, candidate) =>
      have met : ∀ start l : Ledger, ((some (runtime, some persona, candidate)).isSome = true →
          Sighted prospectId [.converted, .engaged, .contacted] start ∧ l.Met prospectId) →
          l.Met prospectId := fun _ _ sighted => (sighted rfl).2
      refine FollowsGiven.weaken met ?_
      dsimp only
      split
      · exact (follows_pure _).given
      · refine given_bind Ledger.met_later (follows_referral prospectId) fun claimed => ?_
        split_ifs
        · exact (follows_pure _).given
        · refine given_bind Ledger.met_later (follows_quiet (quiet_composeOrEscalate _ _ _ _)) fun result => ?_
          match result with
          | none => exact (follows_pure _).given
          | some result =>
              dsimp only
              split
              · exact given_before (given_createForStep _ _ _ _ _ _ _) fun _ => quiet_pure _
              · refine given_before (given_queueReply _ _ _ _ _ ?_) fun _ => quiet_pure _
                exact fun ends => absurd ends (not_exchange persona.id (by decide) (by decide))
  | some (runtime, none, candidate) => exact brings_pure _ fun _ _ _ => Relation.ReflTransGen.refl
  | none => exact brings_pure _ fun _ _ _ => Relation.ReflTransGen.refl

theorem follows_reengage (deployment : Deployment) (prospectId : Uuid) :
    (outreach site vouch op).Follows held (reengage deployment prospectId) := by
  unfold reengage
  refine brings_seen (brings_personaAndCandidate _ _ _ (by decide)) fun loaded => ?_
  match loaded with
  | some (runtime, some persona, candidate) =>
      have met : ∀ start l : Ledger, ((some (runtime, some persona, candidate)).isSome = true →
          Sighted prospectId eligibleStates start ∧ l.Met prospectId) →
          l.Met prospectId := fun _ _ sighted => (sighted rfl).2
      refine FollowsGiven.weaken met ?_
      dsimp only
      split
      · exact (follows_quiet (quiet_escalate _ _ _ _ _)).given
      · refine given_bind Ledger.met_later (follows_quiet (quiet_loadCard _)) fun card =>
          given_bind Ledger.met_later (follows_quiet (quiet_composeOrEscalate _ _ _ _)) fun result => ?_
        match result with
        | none => exact (follows_pure _).given
        | some result =>
            refine given_before (given_queueReply _ _ _ _ _ ?_) fun _ => quiet_pure _
            exact fun ends => absurd ends (not_exchange persona.id (by decide) (by decide))
  | some (runtime, none, candidate) => exact brings_pure _ fun _ _ _ => Relation.ReflTransGen.refl
  | none => exact brings_pure _ fun _ _ _ => Relation.ReflTransGen.refl

/-- The exchange of a reply is counted once. -/
theorem follows_exchange (replyId : Uuid) :
    (outreach site vouch op).Follows held
      (Program.update Tables.replies (fun _ _ id row => id = replyId && row.agenticExchanges = 0)
        fun _ row => { row with agenticExchanges := row.agenticExchanges + 1 } :
        Prog (List (Uuid × Reply))) := by
  refine follows_deeds (ensures_update Tables.replies _ _) ?_
  rintro start rows before after ⟨seen, busy, updated⟩
  have one : ∀ (key other : Uuid) (row next : Reply),
      (decide (key = replyId) && decide (row.agenticExchanges = 0)) = true →
      (decide (other = replyId) && decide (next.agenticExchanges = 0)) = true → key = other := by
    intro key other row next first second
    simp only [Bool.and_eq_true, decide_eq_true_eq] at first second
    exact first.1.trans second.1.symm
  rcases updated.single one with ⟨_, rfl⟩ | ⟨key, row, _, present, _, picked, replaced⟩
  · exact .refl
  · simp only [Bool.and_eq_true, decide_eq_true_eq] at picked
    rw [ledger_replaced_reply replaced]
    exact .single (.exchange key row present picked.2)

theorem given_queueAgenticReply (deployment : Deployment) (decision : RouteDecision)
    (replyId prospectId : Uuid) (tenant : String) (turn : op.classifies replyId) :
    (outreach site vouch op).FollowsGiven held (fun l => l.Met prospectId)
      (queueAgenticReply deployment decision replyId prospectId tenant) := by
  unfold queueAgenticReply
  split
  · exact (follows_pure _).given
  · refine given_bind Ledger.met_later (follows_exchange replyId) fun rows => ?_
    match rows with
    | [] => exact (follows_pure _).given
    | (_, reply) :: _ =>
        refine given_bind Ledger.met_later (follows_quiet (quiet_query _)) fun personaId => ?_
        refine given_bind Ledger.met_later (follows_ask _) fun answer => ?_
        match answer with
        | .error error =>
            dsimp only
            split_ifs
            · exact (follows_quiet (quiet_escalate _ _ _ _ _)).given
            · exact (follows_throw _).given
        | .ok result =>
            exact given_before (given_queueReply _ _ _ _ _ fun _ => ⟨replyId, turn⟩) fun _ =>
              quiet_pure _

end Replying

end OpenReachout
