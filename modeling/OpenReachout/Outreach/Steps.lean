import OpenReachout.Outreach.Quiet

/-!
# Steps

The small transactions and the functions the larger ones share, each with what it
commits as a change of the ledger.
-/

namespace OpenReachout

open Relational Relational.Abstraction Text

set_option autoImplicit false

variable {site : Deployment} {vouch : Mark → Ledger → Prop} {op : Op} {held : List RowLock}

/-- The ledgers before and after the statements of a program are linked by deeds. -/
theorem follows_deeds {Value : Type} {program : Prog Value}
    {post : Database → Value → Database → Database → Prop}
    (ensures : (outreach site vouch op).Ensures held program post)
    (deeds : ∀ start value before after, post start value before after →
      Relation.ReflTransGen (Deed site vouch op start.ledger) before.ledger after.ledger) :
    (outreach site vouch op).Follows held program := ensures.mono deeds

section Replacing

variable {before after : Database}

theorem ledger_replaced_touch {id : Uuid} {row : Touch}
    (replaced : Replaced Tables.touches id row before after) :
    after.ledger = before.ledger.setTouch id row := by
  obtain ⟨table, rfl, same⟩ := replaced
  simp only [Database.ledger, same]

theorem ledger_replaced_prospect {id : Uuid} {row : Prospect}
    (replaced : Replaced Tables.prospects id row before after) :
    after.ledger = before.ledger.setProspect id row := by
  obtain ⟨table, rfl, same⟩ := replaced
  simp only [Database.ledger, same]

theorem ledger_replaced_entity {id : Uuid} {row : Entity}
    (replaced : Replaced Tables.entities id row before after) :
    after.ledger = before.ledger.setEntity id row := by
  obtain ⟨table, rfl, same⟩ := replaced
  simp only [Database.ledger, same]

theorem ledger_replaced_job {id : Nat} {row : JobRow}
    (replaced : Replaced Tables.jobs id row before after) :
    after.ledger = before.ledger.setJob id row := by
  obtain ⟨table, rfl, same⟩ := replaced
  simp only [Database.ledger, same]

theorem ledger_replaced_task {id : Uuid} {row : HumanTask}
    (replaced : Replaced Tables.humanTasks id row before after) :
    after.ledger = before.ledger.setTask id row := by
  obtain ⟨table, rfl, same⟩ := replaced
  simp only [Database.ledger, same]

theorem ledger_replaced_reply {id : Uuid} {row : Reply}
    (replaced : Replaced Tables.replies id row before after) :
    after.ledger = before.ledger.setReply id row := by
  obtain ⟨table, rfl, same⟩ := replaced
  simp only [Database.ledger, same]

theorem ledger_replaced_proposal {id : Uuid} {row : ProposalRow}
    (replaced : Replaced Tables.proposals id row before after) :
    after.ledger = before.ledger.setProposal id row := by
  obtain ⟨table, rfl, same⟩ := replaced
  simp only [Database.ledger, same]

theorem ledger_replaced_index {key : JobKey} {id : Nat}
    (replaced : Replaced Tables.jobIndex key id before after) :
    after.ledger = { before.ledger with
      jobIndex := Function.update before.ledger.jobIndex key (some id) } := by
  obtain ⟨table, rfl, same⟩ := replaced
  simp only [Database.ledger, same]

theorem ledger_replaced_suppression {key : String × String} {row : Suppression}
    (replaced : Replaced Tables.suppressions key row before after) :
    after.ledger = before.ledger.setSuppression key row := by
  obtain ⟨table, rfl, same⟩ := replaced
  simp only [Database.ledger, same]

theorem ledger_replaced_tombstone {hash : String} {row : Tombstone}
    (replaced : Replaced Tables.forgetTombstones hash row before after) :
    after.ledger = before.ledger.setTombstone hash row := by
  obtain ⟨table, rfl, same⟩ := replaced
  simp only [Database.ledger, same]

/-- An upsert that replaces the whole row. -/
theorem getD_map_const {Row : Type} (old : Option Row) (row : Row) :
    (old.map fun _ => row).getD row = row := by
  cases old <;> rfl

theorem ledger_replaced_flag {scope : String} {row : ControlFlag}
    (replaced : Replaced Tables.controlFlags scope row before after) :
    after.ledger = before.ledger.setFlag scope (some row) := by
  obtain ⟨table, rfl, same⟩ := replaced
  simp only [Database.ledger, same]

end Replacing

section Queue

theorem brings_newKey (key : JobKey) (id : Nat) :
    (outreach site vouch op).Brings held
      (Program.insertNew Tables.jobIndex key fun _ => id : Prog Bool)
      fun _ fresh before after =>
        (fresh = true ∧ before.jobIndex key = none ∧
          after = { before with jobIndex := Function.update before.jobIndex key (some id) }) ∨
        (fresh = false ∧ before.jobIndex key ≠ none ∧ after = before) := by
  refine (ensures_insertNew Tables.jobIndex key _).mono ?_
  rintro start fresh before after (⟨_, rfl, absent, replaced⟩ | ⟨seen, old, rfl, glimpse, present, rfl⟩)
  · exact Or.inl ⟨rfl, absent, ledger_replaced_index replaced⟩
  · obtain ⟨kept, found, _⟩ := glimpse.until_.jobIndex key old present
    refine Or.inr ⟨rfl, ?_, rfl⟩
    rw [found]
    simp

theorem brings_newJob (id : Nat) (row : Moment Database RowLock → JobRow) :
    (outreach site vouch op).Brings held
      (Program.insertRow Tables.jobs none integrityError (fun _ _ _ => none) id row : Prog Unit)
      fun start _ before after => before.jobs id = none ∧
        ∃ moment : Moment Database RowLock, moment.start.ledger = start ∧
          after = before.setJob id (row moment) := by
  refine (ensures_insertRow Tables.jobs _ _ _ id row).mono ?_
  rintro start _ before after ⟨_, busy, _, _, absent, replaced⟩
  exact ⟨absent, ⟨start, busy⟩, rfl, ledger_replaced_job replaced⟩

theorem brings_enqueue (queue : QueueName) (payload : JobPayload) (key : JobKey)
    (delay : Nat) :
    (outreach site vouch op).Brings held (enqueue queue payload key delay)
      fun start _ before after =>
        Enqueued start.clock queue payload key delay before after := by
  unfold enqueue
  refine brings_after (quiet_ask _) fun id => ?_
  refine brings_bind (brings_newKey key id) ?_ fun fresh => ?_
  · rintro start fresh before _ (⟨_, absent, rfl⟩ | ⟨_, _, rfl⟩)
    · have index : Kept Eq (before.jobIndex key) (some id) := by
        rw [absent]
        exact kept_none _
      exact { later_refl before with jobIndex := kept_update (fun _ => rfl) index }
    · exact later_refl _
  cases fresh with
  | false =>
      apply brings_pure
      rintro start view before (⟨impossible, _⟩ | ⟨_, present, rfl⟩)
      · cases impossible
      · exact Enqueued.known present
  | true =>
      refine brings_bind (brings_newJob id _) ?_ fun _ => brings_pure _ ?_
      · rintro start _ before _ ⟨absent, _, _, rfl⟩
        apply later_set_job
        rw [absent]
        exact kept_none _
      · rintro start _ middle ⟨absent, moment, rfl, rfl⟩ before
          (⟨_, unknown, rfl⟩ | ⟨impossible, _⟩)
        · exact Enqueued.fresh id unknown absent
        · cases impossible

theorem earliest_mem {rows : List (Nat × JobRow)} {entry : Nat × JobRow}
    (chosen : earliest rows = some entry) : entry ∈ rows := by
  induction rows with
  | nil => cases chosen
  | cons first rest induction =>
      unfold earliest at chosen
      split at chosen
      · rename_i other found
        split_ifs at chosen
        · obtain rfl := Option.some.inj chosen
          exact List.mem_cons_of_mem _ (induction found)
        · obtain rfl := Option.some.inj chosen
          exact List.mem_cons_self
      · obtain rfl := Option.some.inj chosen
        exact List.mem_cons_self

/-- The job that a lease hands over. -/
def JobRow.handed (row : JobRow) (id : Nat) : Job :=
  ⟨id, row.queue, row.payload, row.attempts + 1, row.maxAttempts⟩

/-- The job that is leased is ready and due, and is handed over as it is stored. -/
theorem brings_lease (queue : QueueName) :
    (outreach site vouch op).Brings held (lease queue) fun start leased before after =>
      (leased = none ∧ after = before) ∨ ∃ id work, leased = some (work.handed id) ∧
        before.jobs id = some work ∧ due queue start.clock work = true ∧
        after = before.setJob id (work.leased start.clock) := by
  refine (ensures_perform none _).mono ?_
  rintro start leased before after ⟨seen, busy, effect, stated⟩
  have success := stated.success
  dsimp only at success
  split at success
  · obtain rfl := Except.ok.inj success
    obtain rfl := stated.wrote
    exact Or.inl ⟨stated.value, rfl⟩
  · rename_i id row chosen
    obtain rfl := Except.ok.inj success
    have member := earliest_mem chosen
    obtain ⟨present, ready⟩ := (Table.mem_select_iff _ _ _ _).1 member
    rw [Bool.and_eq_true] at ready
    have found : before.jobs.lookup id = some row :=
      (stated.row Tables.jobs (List.mem_singleton.2 rfl)).trans present
    have replaced : Replaced Tables.jobs id (row.leased start.clock) before after := by
      refine ⟨_, stated.wrote, ?_⟩
      funext other
      rw [Table.lookup_modify]
      by_cases equal : other = id
      · subst equal
        rw [Function.update_self, show (Tables.jobs.get before).lookup other = some row from found]
        simp
      · rw [Function.update_of_ne equal]
        simp [equal]
    exact Or.inr ⟨id, row, stated.value, found, ready.1, ledger_replaced_job replaced⟩

/-- What an update of one job does. -/
def JobChanged (id : Nat) (change : Moment Database RowLock → JobRow → JobRow)
    (start before after : Ledger) : Prop :=
  after = before ∨ ∃ (row : JobRow) (moment : Moment Database RowLock),
    moment.start.ledger = start ∧ before.jobs id = some row ∧
      after = before.setJob id (change moment row)

theorem brings_updateJob (id : Nat) (change : Moment Database RowLock → JobRow → JobRow) :
    (outreach site vouch op).Brings held (updateJob id change) fun start _ before after =>
      JobChanged id change start before after := by
  have update : (outreach site vouch op).Brings held
      (Program.update Tables.jobs (fun _ _ other _ => other = id) change :
        Prog (List (Nat × JobRow)))
      fun start _ before after => JobChanged id change start before after := by
    refine (ensures_update Tables.jobs _ _).mono ?_
    rintro start rows before after ⟨seen, busy, updated⟩
    have one : ∀ key other (row next : JobRow), decide (key = id) = true →
        decide (other = id) = true → key = other := by
      intro key other _ _ first second
      exact (of_decide_eq_true first).trans (of_decide_eq_true second).symm
    rcases updated.single one with ⟨_, rfl⟩ | ⟨key, row, _, present, _, picked, replaced⟩
    · exact Or.inl rfl
    · obtain rfl := of_decide_eq_true picked
      exact Or.inr ⟨row, ⟨start, busy⟩, rfl, present, ledger_replaced_job replaced⟩
  refine (brings_map update fun _ => ()).mono ?_
  rintro start _ before after ⟨_, _, changed⟩
  exact changed

theorem brings_complete (id : Nat) :
    (outreach site vouch op).Brings held (complete id) fun _ _ before after => after = before ∨
      ∃ work, before.jobs id = some work ∧
        after = before.setJob id { work with status := .done, leaseUntil := none } := by
  refine (brings_updateJob id _).mono ?_
  rintro start _ before after (same | ⟨row, _, _, found, changed⟩)
  · exact Or.inl same
  · exact Or.inr ⟨row, found, changed⟩

theorem brings_fail (job : Job) (error : String) (permanent : Bool) :
    (outreach site vouch op).Brings held (fail job error permanent) fun start _ before after =>
      after = before ∨ ∃ work, before.jobs job.id = some work ∧
        ((job.exhausted permanent = true ∧ after = before.setJob job.id { work with
            status := .dead, lastError := some error, leaseUntil := none }) ∨
          (job.exhausted permanent = false ∧ after = before.setJob job.id { work with
            status := .ready, lastError := some error, leaseUntil := none
            runAfter := start.clock + seconds (backoffBaseSeconds * 2 ^ job.attempts) })) := by
  unfold fail
  by_cases unstorable : (!storable error.toList) = true
  · rw [if_pos unstorable]
    exact brings_throw _
  rw [if_neg unstorable]
  by_cases spent : job.exhausted permanent = true
  · rw [if_pos spent]
    refine (brings_updateJob job.id _).mono ?_
    rintro start _ before after (same | ⟨row, _, _, found, changed⟩)
    · exact Or.inl same
    · exact Or.inr ⟨row, found, Or.inl ⟨spent, changed⟩⟩
  · rw [if_neg spent]
    refine (brings_updateJob job.id _).mono ?_
    rintro start _ before after (same | ⟨row, moment, rfl, found, changed⟩)
    · exact Or.inl same
    · exact Or.inr ⟨row, found, Or.inr ⟨by simpa using spent, changed⟩⟩

/-- A table in which the rows that a statement saw are changed. -/
theorem changed_of_lookups {Key Row : Type} [DecidableEq Key] {old new : Key → Option Row}
    {keys : List Key} {change : Row → Row}
    (lookups : ∀ key, new key = if key ∈ keys then (old key).map change else old key) :
    new = changed old (fun key => key ∈ keys) change := by
  funext key
  rw [lookups]
  unfold changed
  by_cases picked : key ∈ keys
  · rw [if_pos picked, if_pos (decide_eq_true picked)]
  · rw [if_neg picked, if_neg (by simpa using picked)]

theorem brings_reapExpired :
    (outreach site vouch op).Brings held reapExpired fun start _ before after =>
      ∃ chosen : Nat → Bool,
        (∀ id work, chosen id = true → before.jobs id = some work →
          work.status = .leased ∧ work.leaseUntil.any (· < start.clock) = true) ∧
        after = before.reaped chosen := by
  have update : (outreach site vouch op).Brings held
      (Program.update Tables.jobs
        (fun moment _ _ row =>
          row.status = .leased && row.leaseUntil.any (· < moment.start.clock))
        fun _ row => { row with status := .ready, leaseUntil := none } :
        Prog (List (Nat × JobRow)))
      fun start _ before after => ∃ chosen : Nat → Bool,
        (∀ id work, chosen id = true → before.jobs id = some work →
          work.status = .leased ∧ work.leaseUntil.any (· < start.clock) = true) ∧
        after = before.reaped chosen := by
    refine (ensures_update Tables.jobs _ _).mono ?_
    rintro start rows before after ⟨seen, busy, updated⟩
    obtain ⟨table, rfl, lookups⟩ := updated.table
    refine ⟨fun id => id ∈ rows.map Prod.fst, ?_, ?_⟩
    · intro id work chosen found
      obtain ⟨⟨_, row⟩, member, rfl⟩ := List.mem_map.1 (of_decide_eq_true chosen)
      have present : before.jobs.lookup _ = some row := updated.present _ member
      obtain rfl := Option.some.inj (present.symm.trans found)
      have picked := (updated.picked member).2
      simp only [Bool.and_eq_true, decide_eq_true_eq] at picked
      exact picked
    · simp only [Database.ledger, changed_of_lookups lookups]
  refine (brings_map update List.length).mono ?_
  rintro start _ before after ⟨_, _, reaped⟩
  exact reaped

end Queue

section Control

theorem follows_enqueue (queue : QueueName) (payload : JobPayload) (key : JobKey)
    (delay : Nat) (plain : key.plain = true) (orders : key.orders queue payload) :
    (outreach site vouch op).Follows held (enqueue queue payload key delay) := by
  apply follows_of_brings (brings_enqueue queue payload key delay)
  intro start _ before after enqueued
  exact .single (.enqueue queue payload key delay plain orders enqueued)

theorem brings_halt (scope actor flag : String) :
    (outreach site vouch op).Brings held (halt scope actor flag) fun start _ before after =>
      Enqueued start.clock .control (.pauseAllCampaigns scope) (.halt scope flag) 0
        (before.setFlag scope (some ⟨flag, actor, start.clock⟩)) after := by
  have set : (outreach site vouch op).Brings held
      (Program.upsertRow Tables.controlFlags none scope
        (fun moment => ⟨flag, actor, moment.start.clock⟩)
        (fun moment _ => ⟨flag, actor, moment.start.clock⟩) : Prog PUnit)
      fun start _ before after =>
        after = before.setFlag scope (some ⟨flag, actor, start.clock⟩) := by
    refine (ensures_upsertRow Tables.controlFlags none scope _ _).mono ?_
    rintro start _ before after ⟨_, _, _, _, replaced, _⟩
    change after.ledger = _
    rw [ledger_replaced_flag replaced, getD_map_const]
    rfl
  unfold halt
  refine brings_bind set ?_ fun _ => ?_
  · rintro start _ before after rfl
    exact { later_refl before with }
  · refine (brings_map (brings_enqueue _ _ _ _) fun _ => ()).mono ?_
    rintro start _ middle after ⟨_, _, enqueued⟩ before rfl
    exact enqueued

theorem follows_halt (scope actor flag : String) (which : op = .halt scope actor flag) :
    (outreach site vouch op).Follows held (halt scope actor flag) := by
  apply follows_of_brings (brings_halt scope actor flag)
  intro start _ before after enqueued
  exact .single (.halt scope actor flag which enqueued)

theorem follows_resume (scope actor : String) (which : op = .resume scope actor) :
    (outreach site vouch op).Follows held (resume scope actor) := by
  unfold resume
  dsimp only
  split_ifs with human
  · exact follows_throw _
  · refine follows_bind ?_ fun _ =>
      follows_bind (follows_quiet (quiet_audit _ _ _ _ _)) fun _ => follows_pure _
    refine follows_deeds (ensures_deleteRows Tables.controlFlags _) ?_
    rintro start rows before after ⟨seen, busy, glimpse, chosen, _, table, rfl, lookups⟩
    have only : ∀ other, other ∈ rows.map Prod.fst → other = scope := by
      intro other member
      obtain ⟨entry, inside, rfl⟩ := List.mem_map.1 member
      rw [chosen] at inside
      exact of_decide_eq_true ((Table.mem_select_iff _ _ _ _).1 inside).2
    by_cases there : scope ∈ rows.map Prod.fst
    · have removed : table.lookup = Function.update before.controlFlags.lookup scope none := by
        funext other
        rw [lookups]
        by_cases same : other = scope
        · subst same
          rw [if_pos there, Function.update_self]
        · rw [if_neg fun member => same (only other member), Function.update_of_ne same]
      have ledger : Database.ledger { before with controlFlags := table } =
          before.ledger.setFlag scope none := by
        simp only [Database.ledger, removed]
      rw [ledger]
      exact .single (.resume scope actor which (by simpa using human))
    · have kept : table.lookup = before.controlFlags.lookup := by
        funext other
        rw [lookups, if_neg fun member => there (only other member ▸ member)]
      have ledger : Database.ledger { before with controlFlags := table } = before.ledger := by
        simp only [Database.ledger, kept]
      rw [ledger]

end Control

section Suppression

theorem brings_suppress (platform : Platform) (email reason scope : String) :
    (outreach site vouch op).Brings held (suppress platform email reason scope)
      fun start canonical before after => canonicalize platform email = .ok canonical ∧
        Enqueued start.clock .control (.pauseLead canonical scope) (.pause canonical scope reason) 0
          (before.setSuppression (canonical, scope) ⟨reason, none, start.clock⟩) after := by
  have set : ∀ canonical, (outreach site vouch op).Brings held
      (Program.upsertRow Tables.suppressions none (canonical, scope)
        (fun moment => ⟨reason, none, moment.start.clock⟩)
        (fun moment _ => ⟨reason, none, moment.start.clock⟩) : Prog PUnit)
      fun start _ before after =>
        after = before.setSuppression (canonical, scope) ⟨reason, none, start.clock⟩ := by
    intro canonical
    refine (ensures_upsertRow Tables.suppressions none (canonical, scope) _ _).mono ?_
    rintro start _ before after ⟨_, _, _, _, replaced, _⟩
    change after.ledger = _
    rw [ledger_replaced_suppression replaced, getD_map_const]
    rfl
  have parsed : (outreach site vouch op).Brings held
      (MonadExcept.ofExcept (canonicalize platform email) : Prog String)
      fun _ canonical before after => canonicalize platform email = .ok canonical ∧ after = before :=
    brings_ofExcept _ fun canonical same _ _ => ⟨same, rfl⟩
  unfold suppress
  refine brings_seen parsed fun canonical => ?_
  refine brings_bind (set canonical) ?_ fun _ => ?_
  · rintro start _ before after rfl
    exact { later_refl before with }
  refine (brings_map (brings_enqueue _ _ _ _) fun _ => canonical).mono ?_
  rintro start value middle after ⟨_, rfl, enqueued⟩ before rfl known
  exact ⟨known, enqueued⟩

theorem follows_suppress (platform : Platform) (email reason scope : String)
    (idle : op.settles = false) :
    (outreach site vouch op).Follows held (suppress platform email reason scope) := by
  apply follows_of_brings (brings_suppress platform email reason scope)
  rintro start canonical before after ⟨_, enqueued⟩
  exact .single (.suppress canonical scope reason idle enqueued)

theorem follows_cooldown (email reason : String) (months : Nat) (handles : op.handles) :
    (outreach site vouch op).Follows held (cooldown email reason months) := by
  refine follows_deeds (ensures_upsertRow Tables.suppressions _ (email, globalScope) _ _) ?_
  rintro start _ before after ⟨seen, busy, _, same, replaced, vouched⟩
  rw [ledger_replaced_suppression replaced]
  exact .single (.cooldown email reason months handles ⟨seen.ledger, vouched _ rfl, same.symm⟩)

end Suppression

section Transitions

variable {prospectId : Uuid} {target : ProspectState}

/-- What a transition commits. -/
def Moved (prospectId : Uuid) (target : ProspectState) (before after : Ledger) : Prop :=
  ∃ lead, before.prospects prospectId = some lead ∧ lead.state.Edge target ∧
    after = before.setProspect prospectId { lead with state := target }

theorem later_moved {before after : Ledger} (moved : Moved prospectId target before after) :
    Later before after := by
  obtain ⟨lead, found, edge, rfl⟩ := moved
  exact later_move_prospect found (Prospect.later_edge edge)

theorem one_key {Key Row : Type} [DecidableEq Key] {wanted : Key} (key other : Key)
    (row next : Row) (first : decide (key = wanted) = true) (second : decide (other = wanted) = true) :
    key = other := (of_decide_eq_true first).trans (of_decide_eq_true second).symm

/-- The row that is locked is the row that is updated. -/
theorem replaced_of_locked {model : Abstraction Database RowLock Mark} {held : List RowLock}
    {change : Moment Database RowLock → Prospect → Prospect} {id : Uuid} {row : Prospect}
    {rest rows : List (Uuid × Prospect)} {start before after locked seen : Database}
    {busy : RowLock → Bool}
    (chosen : (id, row) :: rest = locked.prospects.select fun id _ => decide (id = prospectId))
    (present : before.prospects.lookup id = some row) (holds : Tables.prospects.lock id ∈ held)
    (updated : model.Updated held Tables.prospects none (fun _ _ _ _ => (none : Option Exc))
      (fun _ _ id _ => decide (id = prospectId)) change start rows before after seen busy) :
    before.prospects.lookup prospectId = some row ∧
      Replaced Tables.prospects prospectId (change ⟨start, busy⟩ row) before after := by
  have named : id = prospectId := by
    have member : (id, row) ∈ locked.prospects.select fun id _ => decide (id = prospectId) := by
      rw [← chosen]
      exact List.mem_cons_self
    exact of_decide_eq_true ((Table.mem_select_iff _ _ _ _).1 member).2
  subst named
  have there : seen.prospects.lookup id = some row := by
    rw [← present]
    symm
    exact updated.glimpse.row Tables.prospects holds
  have hit := updated.hit there (decide_eq_true rfl)
  rcases updated.single one_key with ⟨none_hit, _⟩ | ⟨key, old, _, kept, _, picked, replaced⟩
  · rw [none_hit] at hit
    cases hit
  · obtain rfl := of_decide_eq_true picked
    obtain rfl := Option.some.inj (kept.symm.trans present)
    exact ⟨present, replaced⟩

/-- What a transition leaves in the audit log. -/
def AuditEvent.moved (prospectId : Uuid) (target : ProspectState) (actor reason : String)
    (lead : Prospect) : AuditEvent where
  subjectType := "prospect"
  subjectId := toString prospectId
  event := "transition"
  payload := [("from", .text lead.state.text), ("to", .text target.text), ("reason", .text reason)]
  actor := actor

theorem ensures_transition (actor reason : String) :
    (outreach site vouch op).Ensures held (transition prospectId target actor reason)
      fun _ _ before after => ∃ lead middle, before.prospects.lookup prospectId = some lead ∧
        lead.state.Edge target ∧
        Replaced Tables.prospects prospectId { lead with state := target } before middle ∧
        after = { middle with
          auditEvents := middle.auditEvents ++
            [AuditEvent.moved prospectId target actor reason lead] } := by
  unfold transition
  refine ensures_bind_taking (ensures_lockRowsMarked Tables.prospects _ _) ?_
    (takes_lockRowsMarked Tables.prospects _ _) fun rows => ?_
  · rintro start rows before after ⟨_, _, _, _, _, rfl⟩
    exact later_refl _
  match rows with
  | [] => exact ensures_throw _
  | (id, row) :: rest =>
      dsimp only
      split_ifs with edge
      · refine (ensures_appended (ensures_update Tables.prospects _ _) Tables.auditEvents _).mono ?_
        rintro start _ before after ⟨changed, middle, _, ⟨seen, busy, updated⟩, wrote⟩ _
          ⟨locked, waiting, glimpse, chosen, present, rfl⟩
        obtain ⟨found, replaced⟩ := replaced_of_locked chosen (present _ List.mem_cons_self) (by simp)
          updated
        exact ⟨row, middle, found, edge, replaced, wrote⟩
      · exact ensures_throw _

theorem brings_transition (actor reason : String) :
    (outreach site vouch op).Brings held (transition prospectId target actor reason)
      fun _ _ before after => Moved prospectId target before after := by
  refine (ensures_transition actor reason).mono ?_
  rintro start _ before after ⟨lead, middle, found, edge, replaced, rfl⟩
  have moved : middle.ledger = before.ledger.setProspect prospectId { lead with state := target } :=
    ledger_replaced_prospect replaced
  exact ⟨lead, found, edge, moved⟩

/-- A transition that raises has written nothing. -/
theorem raises_transition_idle (actor reason : String) :
    (outreach site vouch op).Raises held (transition prospectId target actor reason)
      fun _ _ before after => after = before := by
  unfold transition
  have locks : (outreach site vouch op).Ensures held
      (Program.lockRowsMarked Tables.prospects (some (.transition prospectId target actor))
        (fun _ _ id _ => id = prospectId) : Prog (List (Uuid × Prospect)))
      fun _ _ before after => after = before := by
    refine (ensures_lockRowsMarked Tables.prospects _ _).mono ?_
    rintro start rows before after ⟨_, _, _, _, _, same⟩
    exact same
  refine raises_bind locks ?_ (raises_perform _ _) fun rows => ?_
  · rintro start rows before _ rfl
    exact later_refl _
  match rows with
  | [] => exact raises_throw _ fun start db before same => same
  | (id, row) :: rest =>
      dsimp only
      split_ifs with edge
      · exact raises_of_sure (sure_bind (sure_perform _ _) fun _ => sure_perform _ _)
      · exact raises_throw _ fun start db before same => same

theorem raises_transition (actor reason : String) :
    (outreach site vouch op).Raises held (transition prospectId target actor reason)
      fun _ _ before after => after.ledger = before.ledger := by
  intro a b error standing exec clean db later stable
  rw [raises_transition_idle actor reason a b error standing exec clean db later stable]

theorem follows_transition (actor reason : String) (plain : target.plain = true) :
    (outreach site vouch op).Follows held (transition prospectId target actor reason) := by
  apply follows_of_brings (brings_transition actor reason)
  rintro start _ before _ ⟨lead, found, edge, rfl⟩
  exact .single (.transition prospectId target lead found edge plain)

theorem follows_safeTransition (plain : target.plain = true) :
    (outreach site vouch op).Follows held (safeTransition prospectId target) := by
  unfold safeTransition
  refine follows_handle (follows_transition _ _ plain) (raises_transition _ _) fun error => ?_
  split_ifs
  · exact follows_quiet (quiet_audit _ _ _ _ _)
  · exact follows_throw _

end Transitions

section Touches

/-- What an update of one touch's status commits: the row that was chosen, and
what was seen when it was. -/
structure TouchMarked (site : Deployment) (vouch : Mark → Ledger → Prop) (op : Op)
    (held : List RowLock) (status : TouchStatus) (mark : Option Mark) (touchId : Uuid)
    (chosen : Moment Database RowLock → Database → Uuid → Touch → Bool)
    (also : Moment Database RowLock → Touch → Touch) (start : Database) (row : Touch)
    (before after seen : Database) (busy : RowLock → Bool) : Prop where
  glimpse : (outreach site vouch op).Glimpse held start before seen
  found : before.touches.lookup touchId = some row
  same : seen.touches.lookup touchId = some row
  picked : chosen ⟨start, busy⟩ seen touchId row = true
  lineage : enforceClaimLineage status row = none
  vouched : ∀ named, mark = some named → vouch named seen.ledger
  wrote : after.ledger = before.ledger.setTouch touchId
    { also ⟨start, busy⟩ row with status := status }

variable {status : TouchStatus} {mark : Option Mark} {touchId : Uuid}
variable {chosen : Moment Database RowLock → Database → Uuid → Touch → Bool}
variable {also : Moment Database RowLock → Touch → Touch}

theorem ensures_setTouchStatus (status : TouchStatus) (mark : Option Mark) (touchId : Uuid)
    (chosen : Moment Database RowLock → Database → Uuid → Touch → Bool)
    (also : Moment Database RowLock → Touch → Touch)
    (only : ∀ moment db id row, chosen moment db id row = true → id = touchId) :
    (outreach site vouch op).Ensures held (setTouchStatus status mark chosen also)
      fun start rows before after =>
        (rows = [] ∧ after = before ∧ ∃ seen busy,
          (outreach site vouch op).Glimpse held start before seen ∧
          ∀ row, seen.touches.lookup touchId = some row →
            chosen ⟨start, busy⟩ seen touchId row = false) ∨
        ∃ row seen busy, rows = [(touchId, row)] ∧
          TouchMarked site vouch op held status mark touchId chosen also start row before after seen
            busy := by
  refine (ensures_updateChecked Tables.touches mark _ chosen _).mono ?_
  rintro start rows before after ⟨seen, busy, updated⟩
  have one : ∀ key other row next, chosen ⟨start, busy⟩ seen key row = true →
      chosen ⟨start, busy⟩ seen other next = true → key = other := by
    intro key other row next first second
    exact (only _ _ _ _ first).trans (only _ _ _ _ second).symm
  rcases updated.single one with ⟨rfl, rfl⟩ | ⟨key, row, rfl, present, there, picked, replaced⟩
  · refine Or.inl ⟨rfl, rfl, seen, busy, updated.glimpse, fun row there => ?_⟩
    rw [Bool.eq_false_iff]
    intro picked
    have hit := updated.hit there picked
    cases hit
  · obtain rfl := only _ _ _ _ picked
    have accepted : (rejectSuppressedTouch status start.clock seen row <|>
        enforceClaimLineage status row) = none := updated.accepted _ (List.mem_singleton.2 rfl)
    have lineage : enforceClaimLineage status row = none := by
      cases barred : rejectSuppressedTouch status start.clock seen row with
      | none =>
          rw [barred] at accepted
          exact accepted
      | some error =>
          rw [barred] at accepted
          cases accepted
    exact Or.inr ⟨row, seen, busy, rfl, updated.glimpse, present, there, picked, lineage,
      updated.vouched, ledger_replaced_touch replaced⟩

theorem later_marked {start : Database} {row : Touch} {before after seen : Database}
    {busy : RowLock → Bool} (marked : TouchMarked site vouch op held status mark touchId chosen also
      start row before after seen busy)
    (kept : ∀ moment (row : Touch), row.Later { also moment row with status := status }) :
    Later before.ledger after.ledger := by
  rw [marked.wrote]
  exact later_move_touch marked.found (kept _ _)

theorem brings_insertTouch (id : Uuid) (row : Touch) (unclaimed : row.claimedAt = none)
    (unsent : row.sentAt = none) :
    (outreach site vouch op).Brings held (insertTouch id row) fun _ _ before after =>
      NewTouch before id row row.status ∧ after = before.setTouch id row := by
  refine (ensures_insertRow Tables.touches none _ _ id _).mono ?_
  rintro start _ before after ⟨seen, _, glimpse, accepted, absent, replaced⟩
  have known : (seen.prospects.lookup row.prospectId).isSome = true := by
    cases there : seen.prospects.lookup row.prospectId with
    | some lead => rfl
    | none =>
        dsimp only at accepted
        rw [there] at accepted
        simp at accepted
  exact ⟨⟨absent, rfl, unclaimed, unsent, kept_isSome (glimpse.until_.prospects _) known⟩,
    ledger_replaced_touch replaced⟩

end Touches

end OpenReachout
