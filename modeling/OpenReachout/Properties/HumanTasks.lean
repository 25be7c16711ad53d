import OpenReachout.Properties.Reviews

/-!
# Human tasks and their touches

A task of a human and its touch belong to each other alone and move together: what the
human has done is sent, what is skipped is released, and no delivery interferes.
-/

namespace OpenReachout

open Relational Relational.Abstraction Text

set_option autoImplicit false

variable {site : Deployment} {vouch : Mark → Ledger → Prop} {op : Op} {start l after : Ledger}
variable {world later : World}

section Steps

/-- The states that the touch of a task may be in; an expired task may have left it. -/
def TaskStatus.pairs : TaskStatus → TouchStatus → Bool
  | .pending, .pendingHuman => true
  | .done, .sent => true
  | .skipped, .released => true
  | .expired, .released => true
  | .expired, .pendingHuman => true
  | _, _ => false

theorem TaskStatus.pairs_only {status : TaskStatus} {touch : TouchStatus}
    (pairs : status.pairs touch = true) :
    touch ≠ .pendingReview ∧ touch ≠ .dispatched := by
  revert pairs
  cases status <;> cases touch <;> decide

theorem TaskStatus.pairs_pending {touch : TouchStatus}
    (pairs : TaskStatus.pending.pairs touch = true) : touch = .pendingHuman := by
  revert pairs
  cases touch <;> decide

theorem TaskStatus.pairs_done {touch : TouchStatus}
    (pairs : TaskStatus.done.pairs touch = true) : touch = .sent := by
  revert pairs
  cases touch <;> decide

theorem TaskStatus.pairs_skipped {touch : TouchStatus}
    (pairs : TaskStatus.skipped.pairs touch = true) : touch = .released := by
  revert pairs
  cases touch <;> decide

/-- What becomes of a task that is pending. -/
inductive TaskStep (op : Op) (start l after : Ledger) (id : Uuid) (old : HumanTask) :
    HumanTask → Prop where
  | settle (actor note : String) (finished : Bool) (item : Touch)
      (which : op = .resolveTask id actor finished note) (touch : l.touches old.touchId = some item)
      (wrote : after.touches old.touchId = some (item.settled start.clock finished)) :
      TaskStep op start l after id old (old.settled start.clock actor note finished)
  | lapse (which : op = .expireTasks)
      (wrote : ∀ item, l.touches old.touchId = some item →
        after.touches old.touchId = some item ∨
          after.touches old.touchId = some { item with status := .released }) :
      TaskStep op start l after id old (old.lapsed start.clock)

/-- A task after a deed: it is as it was, or the one that is new, or it was pending. -/
theorem task_after_deed (deed : Deed site vouch op start l after) {id : Uuid} {new : HumanTask}
    (present : after.tasks id = some new) :
    l.tasks id = some new ∨
      (NewTask l after id new ∧ new.status = .pending ∧
        ∀ other second, after.tasks other = some second → other ≠ id →
          l.tasks other = some second) ∨
      ∃ old, l.tasks id = some old ∧ old.status = .pending ∧
        TaskStep op start l after id old new := by
  cases deed with
  | enqueue queue payload key delay plain orders enqueued =>
      obtain ⟨_, _, rfl⟩ := enqueued_frame enqueued
      exact Or.inl present
  | trigger eventId prospectId which seen since lead found state enqueued =>
      obtain ⟨_, _, rfl⟩ := enqueued_frame enqueued
      exact Or.inl present
  | draft touchId item inserted drafting met enqueued =>
      obtain ⟨_, _, rfl⟩ := enqueued_frame enqueued
      exact Or.inl present
  | park touchId taskId item task inserted kind untasked waits mine theirs met =>
      have set : Function.update l.tasks taskId (some task) id = some new := present
      by_cases same : id = taskId
      · subst same
        rw [Function.update_self] at set
        obtain rfl := Option.some.inj set
        refine Or.inr (Or.inl ⟨⟨untasked, ?_, item, ?_, inserted.status, theirs.symm⟩, waits, ?_⟩)
        · rw [mine]
          exact inserted.absent
        · rw [mine]
          exact Function.update_self touchId _ _
        · intro other second found differ
          change Function.update l.tasks id (some task) other = some second at found
          rw [Function.update_of_ne differ] at found
          exact found
      · rw [Function.update_of_ne same] at set
        exact Or.inl set
  | approve touchId actor item which found held enqueued =>
      obtain ⟨_, _, rfl⟩ := enqueued_frame enqueued
      exact Or.inl present
  | send touchId item lead owner met mailbox ref sendable queued vouched planned =>
      obtain ⟨_, _, _, rfl⟩ := planned_frame planned
      exact Or.inl present
  | settle taskId actor finished note task item which found waits touch counted =>
      obtain ⟨_, rfl⟩ := counted_frame counted
      change Function.update l.tasks taskId _ id = some new at present
      by_cases same : id = taskId
      · subst same
        rw [Function.update_self] at present
        obtain rfl := Option.some.inj present
        refine Or.inr (Or.inr ⟨task, found, waits, .settle actor note finished item which touch ?_⟩)
        exact Function.update_self task.touchId _ _
      · rw [Function.update_of_ne same] at present
        exact Or.inl present
  | expire chosen overdue which waits theirs =>
      change changed l.tasks chosen _ id = some new at present
      unfold changed at present
      by_cases picked : chosen id = true
      · rw [if_pos picked] at present
        obtain ⟨task, found, rfl⟩ := Option.map_eq_some_iff.1 present
        refine Or.inr (Or.inr ⟨task, found, waits id task picked found, .lapse which ?_⟩)
        intro item there
        change changed l.touches overdue _ task.touchId = _ ∨ changed l.touches overdue _ _ = _
        unfold changed
        by_cases ended : overdue task.touchId = true
        · rw [if_pos ended, there]
          exact Or.inr rfl
        · rw [if_neg ended]
          exact Or.inl there
      · rw [if_neg picked] at present
        exact Or.inl present
  | suppress address scope reason idle enqueued =>
      obtain ⟨_, _, rfl⟩ := enqueued_frame enqueued
      exact Or.inl present
  | halt scope actor flag which enqueued =>
      obtain ⟨_, _, rfl⟩ := enqueued_frame enqueued
      exact Or.inl present
  | notify address hash receiptId hashed buried enqueued =>
      obtain ⟨_, _, rfl⟩ := enqueued_frame enqueued
      exact Or.inl present
  | _ => exact Or.inl present

end Steps

section Pairs

/-- Every task has a touch for itself, in the state that goes with its own, and no delivery
of it is in the queue. -/
structure Paired (l : Ledger) : Prop where
  pair : ∀ id task, l.tasks id = some task → ∃ item, l.touches task.touchId = some item ∧
    item.kind = .humanTask ∧ item.prospectId = task.prospectId ∧
    task.status.pairs item.status = true
  alone : ∀ id other task second, l.tasks id = some task → l.tasks other = some second →
    task.touchId = second.touchId → id = other
  unqueued : ∀ id task, l.tasks id = some task → l.jobIndex (.deliver task.touchId) = none

/-- The operation delivers nothing that has no delivery in the queue. -/
def Idle (op : Op) (l : Ledger) : Prop :=
  ∀ touchId, l.jobIndex (.deliver touchId) = none → ¬ op.delivers touchId

theorem idle_later (idle : Idle op l) (onward : Later l after) : Idle op after := by
  intro touchId unqueued
  apply idle
  cases known : l.jobIndex (.deliver touchId) with
  | none => rfl
  | some id =>
      obtain ⟨_, kept, _⟩ := onward.jobIndex _ id known
      rw [unqueued] at kept
      cases kept

/-- Of the touch of a task only the task moves the state. -/
theorem pair_of_step {id : Uuid} {task : HumanTask} {old new : Touch} (paired : Paired l)
    (idle : Idle op l) (found : l.tasks id = some task) (there : l.touches task.touchId = some old)
    (step : TouchStep vouch op start l after task.touchId old new) :
    new.status = old.status ∨ task.status = .pending ∧ Closed after id := by
  obtain ⟨item, same, _, _, status⟩ := paired.pair id task found
  obtain rfl := Option.some.inj (there.symm.trans same)
  have rest := idle _ (paired.unqueued id task found)
  obtain ⟨reviewed, awaited⟩ := TaskStatus.pairs_only status
  cases step with
  | approve actor which held queued => exact absurd held reviewed
  | reject actor note which held => exact absurd held reviewed
  | refuse which vouched => exact absurd which rest
  | send lead owner mailbox ref sendable vouched => exact absurd sendable.delivers rest
  | webhook out => exact absurd out awaited
  | settle taskId actor note finished second which known pending mine closed =>
      obtain rfl := paired.alone taskId id second task known found mine
      rw [Option.some.inj (found.symm.trans known)]
      exact Or.inr ⟨pending, closed⟩
  | lapse taskId second which known pending mine closed =>
      obtain rfl := paired.alone taskId id second task known found mine
      rw [Option.some.inj (found.symm.trans known)]
      exact Or.inr ⟨pending, closed⟩
  | erase ref which => exact Or.inl rfl

/-- The touch of a task that the deed leaves alone stays in its state. -/
theorem pair_kept (deed : Deed site vouch op start l after) (paired : Paired l) (idle : Idle op l)
    {id : Uuid} {task : HumanTask} {item next : Touch} (found : l.tasks id = some task)
    (same : after.tasks id = some task) (there : l.touches task.touchId = some item)
    (present : after.touches task.touchId = some next) : next.status = item.status := by
  rcases touch_of_deed deed present with kept | ⟨absent, _⟩ | ⟨old, known, step⟩
  · rw [Option.some.inj (kept.symm.trans there)]
  · rw [there] at absent
    cases absent
  · obtain rfl := Option.some.inj (there.symm.trans known)
    rcases pair_of_step paired idle found there step with kept | ⟨pending, closed⟩
    · exact kept
    · exact absurd pending (closed task same)

/-- A task was there with the same touch, or is the only one that is new. -/
theorem touch_of_task (deed : Deed site vouch op start l after) {id : Uuid} {new : HumanTask}
    (found : after.tasks id = some new) :
    (∃ old, l.tasks id = some old ∧ old.touchId = new.touchId) ∨
      NewTask l after id new ∧ ∀ other second, after.tasks other = some second → other ≠ id →
        l.tasks other = some second := by
  rcases task_after_deed deed found with old | ⟨new, _, others⟩ | ⟨old, known, _, step⟩
  · exact Or.inl ⟨new, old, rfl⟩
  · exact Or.inr ⟨new, others⟩
  · refine Or.inl ⟨old, known, ?_⟩
    cases step <;> rfl

theorem parked_of_new (deed : Deed site vouch op start l after) {id : Uuid} {task : HumanTask}
    (new : NewTask l after id task) (pending : task.status = .pending) :
    ∃ item, after.touches task.touchId = some item ∧ item.kind = .humanTask ∧
      item.prospectId = task.prospectId ∧ task.status.pairs item.status = true := by
  obtain ⟨item, there, waits, theirs⟩ := new.waiting
  refine ⟨item, there, ?_, theirs, ?_⟩
  · rcases touch_of_deed deed there with kept | ⟨_, inserted⟩ | ⟨old, known, _⟩
    · rw [new.absent] at kept
      cases kept
    · cases inserted with
      | held status drafting met =>
          rw [waits] at status
          cases status
      | drafted status drafting queued met =>
          rw [waits] at status
          cases status
      | parked status kind met => exact kind
    · rw [new.absent] at known
      cases known
  · rw [pending, waits]
    rfl

/-- What a pending task is settled as is how its touch ends. -/
theorem pair_of_task {id : Uuid} {old new : HumanTask} (paired : Paired l)
    (onward : Later l after) (known : l.tasks id = some old) (pending : old.status = .pending)
    (step : TaskStep op start l after id old new) :
    ∃ item, after.touches new.touchId = some item ∧ item.kind = .humanTask ∧
      item.prospectId = new.prospectId ∧ new.status.pairs item.status = true := by
  obtain ⟨item, there, kind, theirs, status⟩ := paired.pair id old known
  obtain ⟨next, kept, moved⟩ := onward.touches _ item there
  have same : next.kind = .humanTask ∧ next.prospectId = old.prospectId :=
    ⟨moved.kind.trans kind, moved.prospectId.trans theirs⟩
  cases step with
  | settle actor note finished item which touch wrote =>
      refine ⟨next, kept, same.1, same.2, ?_⟩
      rw [Option.some.inj (kept.symm.trans wrote)]
      cases finished <;> rfl
  | lapse which wrote =>
      refine ⟨next, kept, same.1, same.2, ?_⟩
      rw [pending] at status
      have waits := TaskStatus.pairs_pending status
      rcases wrote item there with left | released
      · rw [Option.some.inj (kept.symm.trans left), waits]
        rfl
      · rw [Option.some.inj (kept.symm.trans released)]
        rfl

theorem paired_deed (deed : Deed site vouch op start l after) (withheld : Withheld l)
    (paired : Paired l) (idle : Idle op l) : Paired after := by
  have onward : Later l after := deed_later _ _ _ _ deed
  refine ⟨fun id task found => ?_, fun id other task second found there same => ?_,
    fun id task found => ?_⟩
  · rcases task_after_deed deed found with old | ⟨new, pending, _⟩ | ⟨old, known, pending, step⟩
    · obtain ⟨item, there, kind, theirs, status⟩ := paired.pair id task old
      obtain ⟨next, kept, moved⟩ := onward.touches _ item there
      refine ⟨next, kept, moved.kind.trans kind, moved.prospectId.trans theirs, ?_⟩
      rw [pair_kept deed paired idle old found there kept]
      exact status
    · exact parked_of_new deed new pending
    · exact pair_of_task paired onward known pending step
  · rcases touch_of_task deed found with ⟨old, known, mine⟩ | ⟨new, others⟩
    · rcases touch_of_task deed there with ⟨prior, known_too, theirs⟩ | ⟨fresh, _⟩
      · exact paired.alone id other old prior known known_too (mine.trans (same.trans theirs.symm))
      · obtain ⟨item, present, _⟩ := paired.pair id old known
        rw [mine, same, fresh.absent] at present
        cases present
    · rcases touch_of_task deed there with ⟨prior, known_too, theirs⟩ | ⟨fresh, _⟩
      · obtain ⟨item, present, _⟩ := paired.pair other prior known_too
        rw [theirs, ← same, new.absent] at present
        cases present
      · by_contra differ
        have known := others other second there (Ne.symm differ)
        rw [fresh.unused] at known
        cases known
  · rcases touch_of_task deed found with ⟨old, known, mine⟩ | ⟨new, _⟩
    · obtain ⟨item, there, _, _, status⟩ := paired.pair id old known
      rw [← mine]
      exact unqueued_deed deed there (Or.inl (TaskStatus.pairs_only status).1)
        (paired.unqueued id old known)
    · obtain ⟨item, there, waits, _⟩ := new.waiting
      by_contra queued
      have before : l.jobIndex (.deliver task.touchId) = none := by
        cases known : l.jobIndex (.deliver task.touchId) with
        | none => rfl
        | some job =>
            obtain ⟨other, present, _⟩ := withheld.reviewed _ job known
            rw [new.absent] at present
            cases present
      obtain ⟨⟨other, present, drafted⟩, _⟩ := offered_of_deed deed before queued
      rw [← Option.some.inj (there.symm.trans present), waits] at drafted
      cases drafted

end Pairs

section Endings

/-- What may become of a task and of the state of its touch: nothing, unless it is pending;
then the human resolves it, or it expires. -/
inductive TaskEnd (op : Op) (l after : Ledger) (id : Uuid) (task next : HumanTask) : Prop where
  | kept (same : next = task)
      (touch : ∀ item other, l.touches task.touchId = some item →
        after.touches task.touchId = some other → other.status = item.status)
  | resolved (actor note : String) (finished : Bool)
      (which : op = .resolveTask id actor finished note) (pending : task.status = .pending)
      (status : next.status = if finished then .done else .skipped)
      (signed : next.resolvedBy = some actor)
  | expired (which : op = .expireTasks) (pending : task.status = .pending)
      (status : next.status = .expired)

/-- What becomes of all tasks. -/
structure Working (op : Op) (l after : Ledger) : Prop where
  onward : Later l after
  tasks : ∀ id task, l.tasks id = some task →
    ∃ next, after.tasks id = some next ∧ TaskEnd op l after id task next

theorem working_refl (l : Ledger) : Working op l l where
  onward := later_refl l
  tasks id task found := by
    refine ⟨task, found, .kept rfl fun item other there present => ?_⟩
    rw [Option.some.inj (present.symm.trans there)]

theorem working_trans {first second third : Ledger} (one : Working op first second)
    (two : Working op second third) : Working op first third where
  onward := later_trans one.onward two.onward
  tasks := by
    intro id task found
    obtain ⟨middle, between, early⟩ := one.tasks id task found
    obtain ⟨last, there, late⟩ := two.tasks id middle between
    refine ⟨last, there, ?_⟩
    cases early with
    | kept same touch =>
        subst same
        cases late with
        | kept same rest =>
            refine .kept same fun item other known present => ?_
            obtain ⟨inner, still, _⟩ := one.onward.touches _ item known
            exact (rest inner other still present).trans (touch item inner known still)
        | resolved actor note finished which pending status signed =>
            exact .resolved actor note finished which pending status signed
        | expired which pending status => exact .expired which pending status
    | resolved actor note finished which pending status signed =>
        have closed : middle.status ≠ .pending := by
          rw [status]
          cases finished <;> nofun
        cases late with
        | kept same rest =>
            subst same
            exact .resolved actor note finished which pending status signed
        | resolved _ _ _ _ open_ => exact absurd open_ closed
        | expired _ open_ => exact absurd open_ closed
    | expired which pending status =>
        have closed : middle.status ≠ .pending := by
          rw [status]
          nofun
        cases late with
        | kept same rest =>
            subst same
            exact .expired which pending status
        | resolved _ _ _ _ open_ => exact absurd open_ closed
        | expired _ open_ => exact absurd open_ closed

theorem working_deed (deed : Deed site vouch op start l after) (paired : Paired l)
    (idle : Idle op l) : Working op l after where
  onward := deed_later _ _ _ _ deed
  tasks := by
    intro id task found
    obtain ⟨next, there, _⟩ := (deed_later _ _ _ _ deed).tasks id task found
    refine ⟨next, there, ?_⟩
    rcases task_after_deed deed there with same | ⟨new, _⟩ | ⟨old, known, pending, step⟩
    · obtain rfl := Option.some.inj (found.symm.trans same)
      exact .kept rfl fun item other present kept =>
        pair_kept deed paired idle found there present kept
    · rw [new.unused] at found
      cases found
    · obtain rfl := Option.some.inj (found.symm.trans known)
      cases step with
      | settle actor note finished item which touch wrote =>
          exact .resolved actor note finished which pending rfl rfl
      | lapse which wrote => exact .expired which pending rfl

/-- The deeds of an operation keep the pairs, as long as it delivers none of their touches. -/
theorem working_path (withheld : Withheld l) (paired : Paired l)
    (idle : Idle op l) (path : Relation.ReflTransGen (Deed site vouch op start) l after) :
    Withheld after ∧ Paired after ∧ Working op l after := by
  induction path with
  | refl => exact ⟨withheld, paired, working_refl l⟩
  | tail before deed induction =>
      obtain ⟨withheld, paired, working⟩ := induction
      have still := idle_later idle (path_later before)
      exact ⟨withheld_deed deed withheld, paired_deed deed withheld paired still,
        working_trans working (working_deed deed paired still)⟩

end Endings

section Runs

/-- Tasks and touches are paired, and no worker delivers what a human is to do. -/
structure Staffed (world : World) : Prop where
  docketed : Docketed world
  withheld : Withheld world.committed.ledger
  paired : Paired world.committed.ledger

theorem Staffed.idle (staffed : Staffed world) {index : Nat}
    {session : Session Database RowLock Exc Mark Call Call.Answer Op Out}
    (found : world.session index = some session) : Idle session.op world.committed.ledger :=
  fun _ unqueued => idle_of_unqueued staffed.docketed found unqueued

theorem staffed_step {action : Act} (sane : Sane site world) (staffed : Staffed world)
    (step : (service site).act action world = some later) :
    Sane site later ∧ Staffed later ∧ Stepping Working world later action := by
  have free : Vouched (fun _ _ _ _ => True) world action := fun _ _ _ _ _ _ _ _ => trivial
  obtain ⟨after, docketed⟩ := docketed_step sane staffed.docketed step
  have advance := advance_of_step sane.sound sane.begun free step
  have withheld := holds_advance persists_withheld sane advance staffed.withheld
  refine ⟨after, ?_⟩
  cases advance with
  | idle same =>
      have keeps : Paired later.committed.ledger := by
        rw [same]
        exact staffed.paired
      refine ⟨⟨docketed, withheld, keeps⟩, .idle world.committed.clock ?_⟩
      rw [same]
      rfl
  | clock ticks moved =>
      have keeps : Paired later.committed.ledger := by
        rw [moved]
        exact ⟨staffed.paired.pair, staffed.paired.alone, staffed.paired.unqueued⟩
      refine ⟨⟨docketed, withheld, keeps⟩, .idle (world.committed.clock + ticks) ?_⟩
      rw [moved]
      rfl
  | commit index session out found commits since wrote path =>
      obtain ⟨_, paired, working⟩ := working_path staffed.withheld staffed.paired
        (staffed.idle found) path
      exact ⟨⟨docketed, withheld, paired⟩, .commit index session out rfl found commits working⟩

theorem staffed_run {allowed : World → Act → Prop} (quiet : world.sessions = [])
    (linked : Linked world.committed.ledger) (withheld : Withheld world.committed.ledger)
    (paired : Paired world.committed.ledger) (run : Run site allowed world later) :
    Sane site later ∧ Staffed later := by
  induction run with
  | refl =>
      exact ⟨sane_start quiet linked, docketed_quiet quiet withheld.keys, withheld, paired⟩
  | tail _ step induction =>
      obtain ⟨action, _, step⟩ := step
      obtain ⟨sane, staffed, _⟩ := staffed_step induction.1 induction.2 step
      exact ⟨sane, staffed⟩

theorem brings_resolving (taskId : Uuid) (actor note : String) (finished : Bool) :
    (outreach site vouch (.resolveTask taskId actor finished note)).Brings []
      (Op.program site (.resolveTask taskId actor finished note))
      fun _ _ _ _ => operated actor := by
  by_cases human : humanActorPrefix.toList.isPrefixOf actor.toList = true
  · exact (follows_program (.resolveTask taskId actor finished note)).mono fun _ _ _ _ _ => human
  · change (outreach site vouch _).Brings [] (unitOut (resolve taskId actor finished note)) _
    unfold unitOut resolve
    simp only [human, Bool.not_false, if_true]
    exact brings_throw _

theorem operated_resolution {index : Nat} {out : Out}
    {session : Session Database RowLock Exc Mark Call Call.Answer Op Out}
    (sane : Sane site world) (found : world.session index = some session)
    (commits : Committing session out) {taskId : Uuid} {actor note : String} {finished : Bool}
    (which : session.op = .resolveTask taskId actor finished note) : operated actor := by
  obtain ⟨op, program, txn⟩ := session
  subst which
  have brings : (outreach site (fun _ _ => True) (.resolveTask taskId actor finished note)).Brings
      [] (Op.program site (.resolveTask taskId actor finished note))
      fun _ _ _ _ => operated actor := brings_resolving taskId actor note finished
  exact (brings_commit sane.sound sane.begun found commits (fun _ _ => trivial) brings).2

/-- A step leaves a task as it is, or resolves it by the hand of an operator, or lets it
expire; its touch is sent when the task was done and released when it was skipped. -/
inductive Handling (world later : World) (action : Act) (id : Uuid) (task next : HumanTask) :
    Prop where
  | kept (same : next = task)
  | resolved (index : Nat) (session : Session Database RowLock Exc Mark Call Call.Answer Op Out)
      (actor note : String) (finished : Bool) (which : action = .finish index)
      (found : world.session index = some session) (human : operated actor)
      (called : session.op = .resolveTask id actor finished note)
      (pending : task.status = .pending) (signed : next.resolvedBy = some actor)
      (status : next.status = if finished then .done else .skipped)
      (touch : ∃ item, later.committed.touches.lookup task.touchId = some item ∧
        item.status = if finished then .sent else .released)
  | expired (index : Nat) (session : Session Database RowLock Exc Mark Call Call.Answer Op Out)
      (which : action = .finish index) (found : world.session index = some session)
      (called : session.op = .expireTasks) (pending : task.status = .pending)
      (status : next.status = .expired)

theorem handled_step {action : Act} (sane : Sane site world) (staffed : Staffed world)
    (step : (service site).act action world = some later) {id : Uuid} {task : HumanTask}
    (found : world.committed.ledger.tasks id = some task) :
    ∃ next, later.committed.ledger.tasks id = some next ∧
      Handling world later action id task next := by
  obtain ⟨_, after, stepping⟩ := staffed_step sane staffed step
  cases stepping with
  | idle time same =>
      refine ⟨task, ?_, .kept rfl⟩
      rw [same]
      exact found
  | commit index session out which there commits working =>
      obtain ⟨next, present, ending⟩ := working.tasks id task found
      refine ⟨next, present, ?_⟩
      cases ending with
      | kept same touch => exact .kept same
      | resolved actor note finished called pending status signed =>
          obtain ⟨item, mine, _, _, pairs⟩ := after.paired.pair id next present
          obtain ⟨_, same, moved⟩ := working.onward.tasks id task found
          have touchId : next.touchId = task.touchId := by
            rw [Option.some.inj (present.symm.trans same)]
            exact moved.touchId
          rw [touchId] at mine
          refine .resolved index session actor note finished which there
            (operated_resolution sane there commits called) called pending signed status
            ⟨item, mine, ?_⟩
          rw [status] at pairs
          cases finished
          · exact TaskStatus.pairs_skipped pairs
          · exact TaskStatus.pairs_done pairs
      | expired called pending status =>
          exact .expired index session which there called pending status

/-- A task that is settled stays so, and its touch stays in its state. -/
theorem rested_step {action : Act} (sane : Sane site world) (staffed : Staffed world)
    (step : (service site).act action world = some later) {id : Uuid} {task : HumanTask}
    {item : Touch} (found : world.committed.ledger.tasks id = some task)
    (settled : task.status ≠ .pending)
    (there : world.committed.ledger.touches task.touchId = some item) :
    later.committed.ledger.tasks id = some task ∧
      ∃ next, later.committed.ledger.touches task.touchId = some next ∧
        next.status = item.status := by
  obtain ⟨_, _, stepping⟩ := staffed_step sane staffed step
  cases stepping with
  | idle time same =>
      rw [same]
      exact ⟨found, item, there, rfl⟩
  | commit index session out which at_work commits working =>
      obtain ⟨next, present, ending⟩ := working.tasks id task found
      obtain ⟨last, kept, _⟩ := working.onward.touches _ item there
      cases ending with
      | kept same touch =>
          subst same
          exact ⟨present, last, kept, touch item last there kept⟩
      | resolved _ _ _ _ pending => exact absurd pending settled
      | expired _ pending => exact absurd pending settled

theorem rested_onward {allowed : World → Act → Prop} (sane : Sane site world)
    (staffed : Staffed world) {id : Uuid} {task : HumanTask} {item : Touch}
    (found : world.committed.ledger.tasks id = some task) (settled : task.status ≠ .pending)
    (there : world.committed.ledger.touches task.touchId = some item)
    (run : Run site allowed world later) :
    (Sane site later ∧ Staffed later) ∧ later.committed.ledger.tasks id = some task ∧
      ∃ next, later.committed.ledger.touches task.touchId = some next ∧
        next.status = item.status := by
  induction run with
  | refl => exact ⟨⟨sane, staffed⟩, found, item, there, rfl⟩
  | tail _ step induction =>
      obtain ⟨action, _, step⟩ := step
      obtain ⟨⟨sane, staffed⟩, found, middle, there, same⟩ := induction
      obtain ⟨after, team, _⟩ := staffed_step sane staffed step
      obtain ⟨kept, next, present, status⟩ := rested_step sane staffed step found settled there
      exact ⟨⟨after, team⟩, kept, next, present, status.trans same⟩

end Runs

section Sample

/-- The sample world with its touch in the hands of a human. -/
def taskedWorld : World :=
  { committed := { sampleDatabase with
      touches := Table.empty.insert 4 { sampleTouch with kind := .humanTask, status := .pendingHuman }
      humanTasks := Table.empty.insert 7
        { tenant := "acme", prospectId := 3, touchId := 4, instruction := "call", brief := ""
          createdAt := sampleClock }
      jobs := Table.empty
      jobIndex := Table.empty } }

theorem tasked_linked : Linked taskedWorld.committed.ledger := by
  refine ⟨?_, ?_, ?_, ?_⟩
  all_goals
    intro id row found
    simp [Database.ledger, taskedWorld, sampleDatabase] at found ⊢
  all_goals
    obtain ⟨rfl, rfl⟩ := found
    rfl

theorem tasked_withheld : Withheld taskedWorld.committed.ledger := by
  refine ⟨⟨?_, ?_, ?_⟩, ?_, ?_⟩
  all_goals
    intro id row found
    simp [Database.ledger, taskedWorld, sampleDatabase] at found
  obtain ⟨rfl, rfl⟩ := found
  refine fun _ => ⟨_, rfl, ?_⟩
  intro held
  cases held

theorem tasked_paired : Paired taskedWorld.committed.ledger := by
  refine ⟨fun id task found => ?_, fun id other task second found there _ => ?_,
    fun id task found => ?_⟩
  · simp [Database.ledger, taskedWorld, sampleDatabase] at found
    obtain ⟨rfl, rfl⟩ := found
    exact ⟨_, rfl, rfl, rfl, rfl⟩
  · simp [Database.ledger, taskedWorld, sampleDatabase] at found there
    exact found.1.trans there.1.symm
  · rfl

end Sample

end OpenReachout
