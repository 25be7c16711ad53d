import OpenReachout.Properties.Queues

/-!
# Drafts held for review

A draft that the ramp holds has no job and no task. It stays as it is until an operator
approves or rejects it, and goes out with the text that was held.
-/

namespace OpenReachout

open Relational Relational.Abstraction Text

set_option autoImplicit false

variable {site : Deployment} {vouch : Mark → Ledger → Prop} {op : Op} {start l after : Ledger}
variable {held : List RowLock} {world later : World}

section Rejections

/-- No task will settle the touch. -/
structure Untasked (touchId : Uuid) (l : Ledger) : Prop where
  present : (l.touches touchId).isSome = true
  tasks : ∀ id task, l.tasks id = some task → task.status = .pending → task.touchId ≠ touchId

/-- A draft that was rejected is released, and has no job. -/
structure Rejected (touchId : Uuid) (l : Ledger) : Prop where
  untasked : Untasked touchId l
  released : ∃ item, l.touches touchId = some item ∧ item.status = .released
  unqueued : l.jobIndex (.deliver touchId) = none

theorem untasked_deed {touchId : Uuid} (deed : Deed site vouch op start l after)
    (untasked : Untasked touchId l) : Untasked touchId after where
  present := kept_isSome ((deed_later _ _ _ _ deed).touches touchId) untasked.present
  tasks := by
    intro id task found pending same
    rcases task_of_deed deed found pending with old | ⟨new, _⟩
    · exact untasked.tasks id task old pending same
    · have absent := new.absent
      rw [same] at absent
      have present := untasked.present
      rw [absent] at present
      cases present

theorem unqueued_enqueued {time : Time} {queue : QueueName} {payload : JobPayload}
    {key other : JobKey} {delay : Nat} {middle : Ledger}
    (enqueued : Enqueued time queue payload key delay middle after) (differs : key ≠ other)
    (unqueued : middle.jobIndex other = none) : after.jobIndex other = none := by
  cases enqueued with
  | known present => exact unqueued
  | fresh id unknown unused =>
      change Function.update middle.jobIndex key (some id) other = none
      rw [Function.update_of_ne (Ne.symm differs)]
      exact unqueued

/-- The key of a delivery comes with the draft or with its approval. -/
theorem offered_of_deed (deed : Deed site vouch op start l after) {touchId : Uuid}
    (unqueued : l.jobIndex (.deliver touchId) = none)
    (offered : after.jobIndex (.deliver touchId) ≠ none) :
    (∃ item, after.touches touchId = some item ∧ item.status = .drafted) ∧
      (l.touches touchId = none ∨ (∃ actor, op = .approvePending touchId actor) ∧
        ∃ item, l.touches touchId = some item ∧ item.status = .pendingReview) := by
  have other : ∀ {time : Time} {queue : QueueName} {payload : JobPayload} {key : JobKey}
      {delay : Nat} {middle : Ledger}, Enqueued time queue payload key delay middle after →
      middle.jobIndex = l.jobIndex → key ≠ .deliver touchId → False := by
    intro time queue payload key delay middle enqueued same differs
    rw [← same] at unqueued
    exact offered (unqueued_enqueued enqueued differs unqueued)
  cases deed with
  | enqueue queue payload key delay plain orders enqueued =>
      refine (other enqueued rfl ?_).elim
      intro same
      rw [same] at plain
      cases plain
  | trigger eventId prospectId which seen since lead there state enqueued =>
      exact (other enqueued rfl nofun).elim
  | draft made new inserted drafting met enqueued =>
      by_cases same : made = touchId
      · subst same
        obtain ⟨_, _, rfl⟩ := enqueued_frame enqueued
        exact ⟨⟨new, Function.update_self _ _ _, inserted.status⟩, Or.inl inserted.absent⟩
      · exact (other enqueued rfl fun key => same (JobKey.deliver.inj key)).elim
  | approve made actor old which there held enqueued =>
      by_cases same : made = touchId
      · subst same
        obtain ⟨_, _, rfl⟩ := enqueued_frame enqueued
        exact ⟨⟨_, Function.update_self _ _ _, rfl⟩, Or.inr ⟨⟨actor, which⟩, old, there, held⟩⟩
      · exact (other enqueued rfl fun key => same (JobKey.deliver.inj key)).elim
  | send made old lead owner met mailbox ref sendable queued vouched planned =>
      cases planned with
      | idle none => exact absurd unqueued offered
      | last spec budgeted there ended owner present => exact absurd unqueued offered
      | next spec budgeted there more enqueued =>
          exact (other enqueued rfl nofun).elim
  | settle taskId actor finished note task old which there pending touch counted =>
      obtain ⟨_, rfl⟩ := counted_frame counted
      exact absurd unqueued offered
  | suppress address scope reason idle enqueued =>
      exact (other enqueued rfl nofun).elim
  | halt scope actor flag which enqueued =>
      exact (other enqueued rfl nofun).elim
  | notify address hash receiptId hashed buried enqueued =>
      exact (other enqueued rfl nofun).elim
  | _ => exact absurd unqueued offered

theorem unqueued_deed (deed : Deed site vouch op start l after) {touchId : Uuid} {item : Touch}
    (found : l.touches touchId = some item)
    (ruled : item.status ≠ .pendingReview ∨ ∀ actor, op ≠ .approvePending touchId actor)
    (unqueued : l.jobIndex (.deliver touchId) = none) :
    after.jobIndex (.deliver touchId) = none := by
  by_contra offered
  rcases (offered_of_deed deed unqueued offered).2 with absent | ⟨⟨actor, which⟩, old, there, held⟩
  · rw [found] at absent
    cases absent
  · rw [← Option.some.inj (found.symm.trans there)] at held
    rcases ruled with reviewed | other
    · exact reviewed held
    · exact other actor which

theorem released_deed {touchId : Uuid} {item next : Touch}
    (deed : Deed site vouch op start l after) (untasked : Untasked touchId l)
    (found : l.touches touchId = some item) (released : item.status = .released)
    (present : after.touches touchId = some next) : next.status = .released := by
  rcases touch_of_deed deed present with same | ⟨absent, _⟩ | ⟨old, there, step⟩
  · rw [← Option.some.inj (found.symm.trans same)]
    exact released
  · rw [found] at absent
    cases absent
  · obtain rfl := Option.some.inj (found.symm.trans there)
    cases step with
    | approve actor which held queued =>
        rw [released] at held
        cases held
    | send lead owner mailbox ref sendable vouched =>
        have drafted := sendable.drafted
        rw [released] at drafted
        cases drafted
    | webhook out =>
        rw [released] at out
        cases out
    | settle taskId actor note finished task which task_found pending mine closed =>
        exact absurd mine (untasked.tasks taskId task task_found pending)
    | reject actor note which held => rfl
    | refuse which vouched => rfl
    | lapse taskId task which task_found pending mine closed => rfl
    | erase ref which => exact released

theorem rejected_deed {touchId : Uuid} (deed : Deed site vouch op start l after)
    (rejected : Rejected touchId l) : Rejected touchId after := by
  obtain ⟨item, found, released⟩ := rejected.released
  obtain ⟨next, kept, _⟩ := (deed_later _ _ _ _ deed).touches touchId item found
  refine ⟨untasked_deed deed rejected.untasked,
    ⟨next, kept, released_deed deed rejected.untasked found released kept⟩,
    unqueued_deed deed found (Or.inl ?_) rejected.unqueued⟩
  rw [released]
  nofun

theorem persists_rejected (touchId : Uuid) : Persists site (Rejected touchId) where
  deeds _ deed rejected := rejected_deed deed rejected
  ticks _ _ rejected :=
    ⟨⟨rejected.untasked.present, rejected.untasked.tasks⟩, rejected.released, rejected.unqueued⟩

end Rejections

section Rulings

/-- The operation rules on a draft that is held. -/
def Op.rules : Op → Bool
  | .approvePending _ _ | .rejectPending _ _ _ => true
  | _ => false

/-- Nobody works on a draft that is held. -/
structure Withheld (l : Ledger) : Prop where
  keys : WellKeyed l
  reviewed : ∀ touchId id, l.jobIndex (.deliver touchId) = some id →
    ∃ item, l.touches touchId = some item ∧ item.status ≠ .pendingReview
  tasked : ∀ id task, l.tasks id = some task → task.status = .pending →
    ∃ item, l.touches task.touchId = some item ∧ item.status ≠ .pendingReview

/-- What becomes of a draft that is held: it stays held, or is ruled on. -/
inductive Ruling (op : Op) (after : Ledger) (touchId : Uuid) (item : Touch) : Prop where
  | waits (status : item.status = .pendingReview)
  | approve (actor : String) (which : op = .approvePending touchId actor)
      (status : item.status = .drafted) (queued : after.jobIndex (.deliver touchId) ≠ none)
  | reject (actor note : String) (which : op = .rejectPending touchId actor note)
      (status : item.status = .released) (rejected : Rejected touchId after)

/-- An operation that does not deliver a held draft leaves it or rules on it, and one that
rules on one leaves those that were approved. -/
structure Rules (op : Op) (l after : Ledger) : Prop where
  onward : Later l after
  held : ∀ touchId item, l.touches touchId = some item → item.status = .pendingReview →
    ¬ op.delivers touchId → ∃ next, after.touches touchId = some next ∧ Ruling op after touchId next
  drafted : op.rules = true → ∀ touchId item, l.touches touchId = some item →
    item.status = .drafted → ∃ next, after.touches touchId = some next ∧ next.status = .drafted
  rejected : ∀ touchId, Rejected touchId l → Rejected touchId after

theorem withheld_deed (deed : Deed site vouch op start l after) (withheld : Withheld l) :
    Withheld after := by
  have onward : Later l after := deed_later _ _ _ _ deed
  refine ⟨wellKeyed_deed deed withheld.keys, fun touchId id known => ?_,
    fun id task found pending => ?_⟩
  · rcases touch_of_indexed deed known with same | moved
    · obtain ⟨item, found, status⟩ := withheld.reviewed touchId id same
      exact reviewed_later found status onward
    · exact moved
  · rcases task_of_deed deed found pending with same | ⟨new, _⟩
    · obtain ⟨item, found, status⟩ := withheld.tasked id task same pending
      exact reviewed_later found status onward
    · obtain ⟨item, found, waits, _⟩ := new.waiting
      refine ⟨item, found, ?_⟩
      rw [waits]
      nofun

theorem persists_withheld : Persists site Withheld where
  deeds _ deed withheld := withheld_deed deed withheld
  ticks _ _ withheld :=
    ⟨⟨withheld.keys.indexed, withheld.keys.keyed, withheld.keys.ordered⟩, withheld.reviewed,
      withheld.tasked⟩

theorem Withheld.unqueued {touchId : Uuid} {item : Touch} (withheld : Withheld l)
    (found : l.touches touchId = some item) (status : item.status = .pendingReview) :
    l.jobIndex (.deliver touchId) = none := by
  cases known : l.jobIndex (.deliver touchId) with
  | none => rfl
  | some id =>
      obtain ⟨other, same, reviewed⟩ := withheld.reviewed touchId id known
      rw [← Option.some.inj (found.symm.trans same)] at reviewed
      exact absurd status reviewed

theorem Withheld.untasked {touchId : Uuid} {item : Touch} (withheld : Withheld l)
    (found : l.touches touchId = some item) (status : item.status = .pendingReview) :
    Untasked touchId l where
  present := by
    rw [found]
    rfl
  tasks := by
    intro id task there pending mine
    obtain ⟨other, same, reviewed⟩ := withheld.tasked id task there pending
    rw [mine] at same
    rw [← Option.some.inj (found.symm.trans same)] at reviewed
    exact reviewed status

theorem ruling_of_deed (deed : Deed site vouch op start l after) (withheld : Withheld l)
    {touchId : Uuid} {item next : Touch} (found : l.touches touchId = some item)
    (status : item.status = .pendingReview) (idle : ¬ op.delivers touchId)
    (present : after.touches touchId = some next) : Ruling op after touchId next := by
  have untasked := withheld.untasked found status
  rcases touch_of_deed deed present with same | ⟨absent, _⟩ | ⟨old, there, step⟩
  · obtain rfl := Option.some.inj (found.symm.trans same)
    exact .waits status
  · rw [found] at absent
    cases absent
  · obtain rfl := Option.some.inj (found.symm.trans there)
    cases step with
    | approve actor which held queued => exact .approve actor which rfl queued
    | reject actor note which held =>
        refine .reject actor note which rfl
          ⟨untasked_deed deed untasked, ⟨_, present, rfl⟩, unqueued_deed deed found (Or.inr ?_)
            (withheld.unqueued found status)⟩
        intro other
        rw [which]
        nofun
    | refuse which vouched => exact absurd which idle
    | send lead owner mailbox ref sendable vouched => exact absurd sendable.delivers idle
    | webhook out =>
        rw [status] at out
        cases out
    | settle taskId actor note finished task which task_found pending mine closed =>
        exact absurd mine (untasked.tasks taskId task task_found pending)
    | lapse taskId task which task_found pending mine closed =>
        exact absurd mine (untasked.tasks taskId task task_found pending)
    | erase ref which => exact .waits status

theorem drafted_of_ruling (deed : Deed site vouch op start l after) (rules : op.rules = true)
    {touchId : Uuid} {item next : Touch} (found : l.touches touchId = some item)
    (drafted : item.status = .drafted) (present : after.touches touchId = some next) :
    next.status = .drafted := by
  have delivers : ¬ op.delivers touchId := by
    intro ⟨job, which, _⟩
    rw [which] at rules
    cases rules
  rcases touch_of_deed deed present with same | ⟨absent, _⟩ | ⟨old, there, step⟩
  · rw [← Option.some.inj (found.symm.trans same)]
    exact drafted
  · rw [found] at absent
    cases absent
  · obtain rfl := Option.some.inj (found.symm.trans there)
    cases step with
    | approve actor which held queued => rfl
    | reject actor note which held =>
        rw [drafted] at held
        cases held
    | refuse which vouched => exact absurd which delivers
    | send lead owner mailbox ref sendable vouched => exact absurd sendable.delivers delivers
    | webhook out =>
        rw [drafted] at out
        cases out
    | settle taskId actor note finished task which task_found pending mine closed =>
        rw [which] at rules
        cases rules
    | lapse taskId task which task_found pending mine closed =>
        rw [which] at rules
        cases rules
    | erase ref which => exact drafted

theorem rules_of_approve {touchId : Uuid} {actor : String}
    (which : op = .approvePending touchId actor) : op.rules = true := by
  rw [which]
  rfl

theorem rules_refl (l : Ledger) : Rules op l l where
  onward := later_refl l
  held _ item found status _ := ⟨item, found, .waits status⟩
  drafted _ _ item found drafted := ⟨item, found, drafted⟩
  rejected _ rejected := rejected

theorem rules_trans {first second third : Ledger} (one : Rules op first second)
    (two : Rules op second third) : Rules op first third where
  onward := later_trans one.onward two.onward
  held := by
    intro touchId item found status idle
    obtain ⟨middle, between, ruling⟩ := one.held touchId item found status idle
    cases ruling with
    | waits status => exact two.held touchId middle between status idle
    | approve actor which drafted queued =>
        obtain ⟨last, kept, drafted⟩ :=
          two.drafted (rules_of_approve which) touchId middle between drafted
        refine ⟨last, kept, .approve actor which drafted ?_⟩
        obtain ⟨id, known⟩ := Option.ne_none_iff_exists'.1 queued
        obtain ⟨_, still, _⟩ := two.onward.jobIndex _ id known
        rw [still]
        nofun
    | reject actor note which released rejected =>
        have final := two.rejected touchId rejected
        obtain ⟨last, kept, released⟩ := final.released
        exact ⟨last, kept, .reject actor note which released final⟩
  drafted := by
    intro rules touchId item found drafted
    obtain ⟨middle, between, drafted⟩ := one.drafted rules touchId item found drafted
    exact two.drafted rules touchId middle between drafted
  rejected touchId rejected := two.rejected touchId (one.rejected touchId rejected)

theorem guides_rules : Guides site Withheld Rules where
  persists := persists_withheld
  order _ := ⟨rules_refl, rules_trans⟩
  deeds := by
    intro vouch op start l after linked withheld deed
    have onward : Later l after := deed_later _ _ _ _ deed
    refine ⟨onward, fun touchId item found status idle => ?_,
      fun rules touchId item found drafted => ?_,
      fun touchId rejected => rejected_deed deed rejected⟩
    · obtain ⟨next, kept, _⟩ := onward.touches touchId item found
      exact ⟨next, kept, ruling_of_deed deed withheld found status idle kept⟩
    · obtain ⟨next, kept, _⟩ := onward.touches touchId item found
      exact ⟨next, kept, drafted_of_ruling deed rules found drafted kept⟩

end Rulings

section Operators

def operated (actor : String) : Prop := humanActorPrefix.toList.isPrefixOf actor.toList = true

theorem brings_approving (touchId : Uuid) (actor : String) :
    (outreach site vouch (.approvePending touchId actor)).Brings []
      (Op.program site (.approvePending touchId actor)) fun _ _ _ _ => operated actor := by
  by_cases human : humanActorPrefix.toList.isPrefixOf actor.toList = true
  · exact (follows_program (.approvePending touchId actor)).mono fun _ _ _ _ _ => human
  · change (outreach site vouch _).Brings [] (unitOut (approvePending touchId actor)) _
    unfold unitOut approvePending
    simp only [human, Bool.not_false, if_true]
    exact brings_throw _

theorem brings_rejecting (touchId : Uuid) (actor note : String) :
    (outreach site vouch (.rejectPending touchId actor note)).Brings []
      (Op.program site (.rejectPending touchId actor note)) fun _ _ _ _ => operated actor := by
  by_cases human : humanActorPrefix.toList.isPrefixOf actor.toList = true
  · exact (follows_program (.rejectPending touchId actor note)).mono fun _ _ _ _ _ => human
  · change (outreach site vouch _).Brings [] (unitOut (rejectPending touchId actor note)) _
    unfold unitOut rejectPending
    simp only [human, Bool.not_false, if_true]
    exact brings_throw _

variable {index : Nat} {session : Session Database RowLock Exc Mark Call Call.Answer Op Out}
variable {out : Out}

theorem operated_approval (sane : Sane site world) (found : world.session index = some session)
    (commits : Committing session out) {touchId : Uuid} {actor : String}
    (which : session.op = .approvePending touchId actor) : operated actor := by
  obtain ⟨op, program, txn⟩ := session
  subst which
  have brings : (outreach site (fun _ _ => True) (.approvePending touchId actor)).Brings []
      (Op.program site (.approvePending touchId actor)) fun _ _ _ _ => operated actor :=
    brings_approving touchId actor
  exact (brings_commit sane.sound sane.begun found commits (fun _ _ => trivial) brings).2

theorem operated_rejection (sane : Sane site world) (found : world.session index = some session)
    (commits : Committing session out) {touchId : Uuid} {actor note : String}
    (which : session.op = .rejectPending touchId actor note) : operated actor := by
  obtain ⟨op, program, txn⟩ := session
  subst which
  have brings : (outreach site (fun _ _ => True) (.rejectPending touchId actor note)).Brings []
      (Op.program site (.rejectPending touchId actor note)) fun _ _ _ _ => operated actor :=
    brings_rejecting touchId actor note
  exact (brings_commit sane.sound sane.begun found commits (fun _ _ => trivial) brings).2

end Operators

section Runs

variable {allowed : World → Act → Prop} {start : World}

/-- A worker has a delivery in hand only when its job is in the queue. -/
theorem idle_of_unqueued (docketed : Docketed world) {index : Nat}
    {session : Session Database RowLock Exc Mark Call Call.Answer Op Out}
    (found : world.session index = some session) {touchId : Uuid}
    (unqueued : world.committed.ledger.jobIndex (.deliver touchId) = none) :
    ¬ session.op.delivers touchId := by
  rintro ⟨job, which, delivers, mine⟩
  have hand : session.op.job = some job := by
    rw [which]
    rfl
  obtain ⟨work, present, queue, payload⟩ := docketed.hands index session job found hand
  have orders := docketed.keys.ordered job.id work present
  have key := delivery_key orders (queue.trans delivers) (payload.trans mine)
  have known := docketed.keys.keyed job.id work present
  rw [key, unqueued] at known
  cases known

/-- In every run a draft that is held has no delivery in the queue or in the hands of a
worker. A step leaves it held, or an operator's approval makes it a draft with a delivery,
or an operator's rejection releases it, for good and without a delivery ever after. -/
theorem reviews_withheld (quiet : start.sessions = []) (linked : Linked start.committed.ledger)
    (withheld : Withheld start.committed.ledger) (run : Run site allowed start world)
    {touchId : Uuid} {item : Touch} (found : world.committed.touches.lookup touchId = some item)
    (held : item.status = .pendingReview) :
    (∀ id work, world.committed.jobs.lookup id = some work → work.queue = .deliver →
      work.payload ≠ .touch touchId) ∧
    (∀ index session, world.session index = some session → ¬ session.op.delivers touchId) ∧
    ∀ action later, (service site).act action world = some later →
      ∃ next, later.committed.touches.lookup touchId = some next ∧
        (next.status = .pendingReview ∨
          ∃ index session actor, action = .finish index ∧ world.session index = some session ∧
            operated actor ∧
            (session.op = .approvePending touchId actor ∧ next.status = .drafted ∧
                later.committed.jobIndex.lookup (.deliver touchId) ≠ none ∨
              (∃ note, session.op = .rejectPending touchId actor note) ∧
                next.status = .released ∧
                ∀ (allowed : World → Act → Prop) last, Run site allowed later last →
                  Rejected touchId last.committed.ledger)) := by
  obtain ⟨sane, docketed⟩ := docketed_run quiet linked withheld.keys run
  obtain ⟨_, kept⟩ := holds_run persists_withheld quiet linked withheld run
  refine ⟨fun id work there delivers mine => ?_, fun index session there =>
    idle_of_unqueued docketed there (kept.unqueued found held), fun action later step => ?_⟩
  · have key := delivery_key (kept.keys.ordered id work there) delivers mine
    have known := kept.keys.keyed id work there
    rw [key, kept.unqueued found held] at known
    cases known
  · cases stepping_of_step guides_rules sane kept step with
    | idle time same =>
        refine ⟨item, ?_, Or.inl held⟩
        change later.committed.ledger.touches touchId = some item
        rw [same]
        exact found
    | commit index session out which there commits leads =>
        have idle := idle_of_unqueued docketed there (kept.unqueued found held)
        obtain ⟨next, present, ruling⟩ := leads.held touchId item found held idle
        refine ⟨next, present, ?_⟩
        cases ruling with
        | waits status => exact Or.inl status
        | approve actor called drafted queued =>
            exact Or.inr ⟨index, session, actor, which, there,
              operated_approval sane there commits called, Or.inl ⟨called, drafted, queued⟩⟩
        | reject actor note called released rejected =>
            refine Or.inr ⟨index, session, actor, which, there,
              operated_rejection sane there commits called,
              Or.inr ⟨⟨note, called⟩, released, fun allowed last onward => ?_⟩⟩
            obtain ⟨after, _⟩ := holds_step persists_withheld sane step kept
            exact (holds_onward (persists_rejected touchId) after rejected onward).2

end Runs

section Sample

/-- The sample world with its draft held for review. -/
def heldWorld : World :=
  { committed := { sampleDatabase with
      touches := Table.empty.insert 4 { sampleTouch with status := .pendingReview }
      jobs := Table.empty
      jobIndex := Table.empty } }

theorem held_linked : Linked heldWorld.committed.ledger := by
  refine ⟨?_, ?_, ?_, ?_⟩
  all_goals
    intro id row found
    simp [Database.ledger, heldWorld, sampleDatabase] at found ⊢
  · obtain ⟨rfl, rfl⟩ := found
    rfl
  · obtain ⟨rfl, rfl⟩ := found
    rfl

theorem held_withheld : Withheld heldWorld.committed.ledger := by
  refine ⟨⟨?_, ?_, ?_⟩, ?_, ?_⟩
  all_goals
    intro id row found
    simp [Database.ledger, heldWorld, sampleDatabase] at found

/-- The draft is approved. -/
theorem held_approved : ∃ (world later : World) (index : Nat)
    (session : Session Database RowLock Exc Mark Call Call.Answer Op Out) (actor : String),
    Run sampleDeployment unrestricted heldWorld world ∧
    (service sampleDeployment).act (.finish 0) world = some later ∧
    world.session index = some session ∧ session.op = .approvePending 4 actor ∧
    operated actor ∧ later.committed.jobIndex.lookup (.deliver 4) ≠ none := by
  have tried : ((service sampleDeployment).script
      [begin (.approvePending 4 "operator:ana"), go 0 5 50] heldWorld).any
      (fun world => ((service sampleDeployment).script [.inl (.finish 0)] world).any
        fun later : World =>
          (world.committed.touches.lookup 4).any (fun item => item.status = .pendingReview) &&
          (later.committed.touches.lookup 4).any fun item => item.status = .drafted) = true := by
    decide +kernel
  obtain ⟨world, later, run, played, seen⟩ := scripts_of_tried tried
  obtain ⟨before, after⟩ := (Bool.and_eq_true _ _).mp seen
  obtain ⟨item, found, held⟩ := (Option.any_eq_true _ _).1 before
  obtain ⟨moved, there, drafted⟩ := (Option.any_eq_true _ _).1 after
  have step := step_of_script played
  obtain ⟨_, _, steps⟩ :=
    reviews_withheld rfl held_linked held_withheld run found (of_decide_eq_true held)
  obtain ⟨next, present, leads⟩ := steps _ later step
  obtain rfl := Option.some.inj (there.symm.trans present)
  have status := of_decide_eq_true drafted
  rcases leads with waits | ⟨index, session, actor, _, at_work, human, ruling⟩
  · rw [status] at waits
    cases waits
  · rcases ruling with ⟨approved, _, queued⟩ | ⟨_, released, _⟩
    · exact ⟨world, later, index, session, actor, run, step, at_work, approved, human, queued⟩
    · rw [status] at released
      cases released

end Sample

end OpenReachout
