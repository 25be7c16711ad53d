import OpenReachout.Outreach.Keeping

/-!
# The record of a dispatch

What a delivery writes down of a touch (when it was claimed and sent, from which mailbox,
under which reference of the provider) is written once, and the text it binds is the one
that was inserted.
-/

namespace OpenReachout

open Relational Text

set_option autoImplicit false

variable {site : Deployment} {vouch : Mark → Ledger → Prop} {op : Op} {start l after : Ledger}
variable {world later : World}

section Records

/-- A touch that may still be delivered has not been claimed, nor has one that waits for a
human. -/
structure Unclaimed (l : Ledger) : Prop where
  open_ : ∀ id item, l.touches id = some item → item.status.stage ≤ 1 → item.claimedAt = none
  tasked : ∀ id task, l.tasks id = some task → task.status = .pending →
    ∃ item, l.touches task.touchId = some item ∧ item.status.stage = 2 ∧ item.claimedAt = none

/-- A touch is inserted before it is claimed. -/
theorem unclaimed_of_new (deed : Deed site vouch op start l after) {id : Uuid} {new : Touch}
    (absent : l.touches id = none) (present : after.touches id = some new) :
    new.claimedAt = none := by
  have moved : ∀ {other : Uuid} {item next : Touch}, l.touches other = some item →
      (l.setTouch other next).touches id = some new → new.claimedAt = none := by
    intro other item next found set
    rcases touch_of_set set with same | ⟨rfl, _⟩
    · rw [absent] at same
      cases same
    · rw [absent] at found
      cases found
  have inserted : ∀ {other : Uuid} {item : Touch}, item.claimedAt = none →
      (l.setTouch other item).touches id = some new → new.claimedAt = none := by
    intro other item unclaimed set
    rcases touch_of_set set with same | ⟨_, rfl⟩
    · rw [absent] at same
      cases same
    · exact unclaimed
  have kept : after.touches = l.touches → new.claimedAt = none := by
    intro same
    rw [same, absent] at present
    cases present
  cases deed with
  | enqueue queue payload key delay plain orders enqueued =>
      obtain ⟨_, _, rfl⟩ := enqueued_frame enqueued
      exact kept rfl
  | trigger eventId prospectId which seen since lead found state enqueued =>
      obtain ⟨_, _, rfl⟩ := enqueued_frame enqueued
      exact kept rfl
  | hold touchId item made drafting step met => exact inserted made.unclaimed present
  | draft touchId item made drafting met enqueued =>
      obtain ⟨_, _, rfl⟩ := enqueued_frame enqueued
      exact inserted made.unclaimed present
  | park touchId taskId item task made kind untasked pending mine theirs met =>
      exact inserted made.unclaimed present
  | approve touchId actor item which found held enqueued =>
      obtain ⟨_, _, rfl⟩ := enqueued_frame enqueued
      exact moved found present
  | reject touchId actor note item which found held => exact moved found present
  | refuse touchId item which found vouched => exact moved found present
  | send touchId item lead owner met mailbox ref sendable queued vouched planned =>
      obtain ⟨_, _, _, rfl⟩ := planned_frame planned
      have set : (l.setTouch touchId (item.delivered start.clock mailbox ref)).touches id =
          some new := present
      exact moved sendable.touch set
  | webhook touchId item found out => exact moved found present
  | settle taskId actor finished note task item which found pending touch counted =>
      obtain ⟨_, rfl⟩ := counted_frame counted
      have set : (l.setTouch task.touchId (item.settled start.clock finished)).touches id =
          some new := present
      exact moved touch set
  | expire chosen overdue which pending theirs =>
      change changed l.touches overdue _ id = some new at present
      unfold changed at present
      rw [absent] at present
      split_ifs at present
      cases present
  | forget ref ids leads owners touches replies facts which erased =>
      change changed l.touches touches _ id = some new at present
      unfold changed at present
      rw [absent] at present
      split_ifs at present
      cases present
  | suppress address scope reason idle enqueued =>
      obtain ⟨_, _, rfl⟩ := enqueued_frame enqueued
      exact kept rfl
  | halt scope actor flag which enqueued =>
      obtain ⟨_, _, rfl⟩ := enqueued_frame enqueued
      exact kept rfl
  | notify address hash receiptId hashed buried enqueued =>
      obtain ⟨_, _, rfl⟩ := enqueued_frame enqueued
      exact kept rfl
  | _ => exact kept rfl

theorem unclaimed_deed (deed : Deed site vouch op start l after) (unclaimed : Unclaimed l) :
    Unclaimed after := by
  have onward : Later l after := deed_later _ _ _ _ deed
  refine ⟨fun id item present young => ?_, fun id task present pending => ?_⟩
  · rcases touch_of_deed deed present with same | ⟨absent, _⟩ | ⟨old, found, step⟩
    · exact unclaimed.open_ id item same young
    · exact unclaimed_of_new deed absent present
    · have before : old.status.stage ≤ 1 := by
        obtain ⟨next, there, moved⟩ := onward.touches id old found
        obtain rfl := Option.some.inj (present.symm.trans there)
        exact moved.stage.trans young
      have free := unclaimed.open_ id old found before
      cases step with
      | send lead owner mailbox ref sendable vouched =>
          have late : TouchStatus.dispatched.stage ≤ 1 := young
          exact absurd late (by decide)
      | settle taskId actor note finished task which there pending mine closed =>
          obtain ⟨other, same, late, _⟩ := unclaimed.tasked taskId task there pending
          rw [mine] at same
          rw [← Option.some.inj (found.symm.trans same)] at late
          omega
      | _ => exact free
  · rcases task_of_deed deed present pending with same | ⟨new, _⟩
    · obtain ⟨item, found, late, free⟩ := unclaimed.tasked id task same pending
      obtain ⟨next, there, moved⟩ := onward.touches _ item found
      have stage : next.status.stage = 2 := by
        have top := next.status.stage_le
        have stays := moved.stage
        omega
      refine ⟨next, there, stage, ?_⟩
      rcases touch_of_deed deed there with old | ⟨absent, _⟩ | ⟨old, known, step⟩
      · rw [← Option.some.inj (found.symm.trans old)]
        exact free
      · exact unclaimed_of_new deed absent there
      · obtain rfl := Option.some.inj (found.symm.trans known)
        cases step with
        | send lead owner mailbox ref sendable vouched =>
            rw [sendable.drafted] at late
            exact absurd late (by decide)
        | settle taskId actor note finished task which known_task open_task mine closed =>
            unfold Touch.settled
            split_ifs
            · exact free
            · exact free
        | _ => exact free
    · obtain ⟨item, found, waits, _⟩ := new.waiting
      refine ⟨item, found, ?_, unclaimed_of_new deed new.absent found⟩
      rw [waits]
      rfl

theorem persists_unclaimed : Persists site Unclaimed where
  deeds _ deed unclaimed := unclaimed_deed deed unclaimed
  ticks _ _ unclaimed := ⟨unclaimed.open_, unclaimed.tasked⟩

/-- The text that a touch binds stays bound, and what a delivery has written of it. -/
structure Touch.Bound (old new : Touch) : Prop where
  contentHash : new.contentHash = old.contentHash
  record : old.claimedAt ≠ none → new.claimedAt = old.claimedAt ∧ new.mailbox = old.mailbox ∧
    new.providerRef = old.providerRef ∧ new.sentAt = old.sentAt

theorem Touch.bound_refl (item : Touch) : item.Bound item := ⟨rfl, fun _ => ⟨rfl, rfl, rfl, rfl⟩⟩

theorem Touch.bound_trans {first second third : Touch} (one : first.Bound second)
    (two : second.Bound third) : first.Bound third where
  contentHash := two.contentHash.trans one.contentHash
  record := by
    intro claimed
    obtain ⟨time, mailbox, ref, sent⟩ := one.record claimed
    have still : second.claimedAt ≠ none := by
      rw [time]
      exact claimed
    obtain ⟨later_time, later_mailbox, later_ref, later_sent⟩ := two.record still
    exact ⟨later_time.trans time, later_mailbox.trans mailbox, later_ref.trans ref,
      later_sent.trans sent⟩

theorem bound_of_step {id : Uuid} {old new : Touch} (unclaimed : Unclaimed l)
    (found : l.touches id = some old) (step : TouchStep vouch op start l after id old new) :
    old.Bound new := by
  cases step with
  | send lead owner mailbox ref sendable vouched =>
      refine ⟨rfl, fun claimed => absurd (unclaimed.open_ id old found ?_) claimed⟩
      rw [sendable.drafted]
      decide
  | settle taskId actor note finished task which there pending mine closed =>
      obtain ⟨other, same, _, free⟩ := unclaimed.tasked taskId task there pending
      rw [mine] at same
      rw [← Option.some.inj (found.symm.trans same)] at free
      refine ⟨?_, fun claimed => absurd free claimed⟩
      unfold Touch.settled
      split_ifs
      · rfl
      · rfl
  | _ => exact ⟨rfl, fun _ => ⟨rfl, rfl, rfl, rfl⟩⟩

end Records

section Runs

/-- What an operation may write down: the delivery of a touch that can still be delivered
claims it, with all that is to be recorded, and nothing else claims one. -/
structure Posting (op : Op) (l after : Ledger) : Prop where
  onward : Later l after
  bound : ∀ id item next, l.touches id = some item → after.touches id = some next →
    item.Bound next
  claimed : ∀ id item next, l.touches id = some item → after.touches id = some next →
    item.claimedAt = none → next.claimedAt ≠ none →
      op.delivers id ∧ item.status.stage ≤ 1 ∧ next.sentAt = next.claimedAt ∧
        next.mailbox ≠ none ∧ next.providerRef ≠ none

theorem posting_refl (l : Ledger) : Posting op l l where
  onward := later_refl l
  bound := by
    intro id item next found there
    rw [Option.some.inj (found.symm.trans there)]
    exact next.bound_refl
  claimed := by
    intro id item next found there free claimed
    rw [Option.some.inj (found.symm.trans there)] at free
    exact absurd free claimed

theorem posting_trans {first second third : Ledger} (one : Posting op first second)
    (two : Posting op second third) : Posting op first third where
  onward := later_trans one.onward two.onward
  bound := by
    intro id item next found there
    obtain ⟨middle, between, _⟩ := one.onward.touches id item found
    exact Touch.bound_trans (one.bound id item middle found between)
      (two.bound id middle next between there)
  claimed := by
    intro id item next found there free claimed
    obtain ⟨middle, between, moved⟩ := one.onward.touches id item found
    by_cases open_ : middle.claimedAt = none
    · obtain ⟨delivers, stage, record⟩ := two.claimed id middle next between there open_ claimed
      exact ⟨delivers, moved.stage.trans stage, record⟩
    · obtain ⟨delivers, stage, sent, mailbox, ref⟩ := one.claimed id item middle found between free open_
      obtain ⟨time, same_mailbox, same_ref, same_sent⟩ :=
        (two.bound id middle next between there).record open_
      rw [← same_mailbox] at mailbox
      rw [← same_ref] at ref
      exact ⟨delivers, stage, by rw [same_sent, time, sent], mailbox, ref⟩

theorem posting_deed (deed : Deed site vouch op start l after) (unclaimed : Unclaimed l) :
    Posting op l after where
  onward := deed_later _ _ _ _ deed
  bound := by
    intro id item next found there
    rcases touch_of_deed deed there with same | ⟨absent, _⟩ | ⟨old, present, step⟩
    · rw [Option.some.inj (found.symm.trans same)]
      exact next.bound_refl
    · rw [found] at absent
      cases absent
    · obtain rfl := Option.some.inj (found.symm.trans present)
      exact bound_of_step unclaimed found step
  claimed := by
    intro id item next found there free claimed
    rcases touch_of_deed deed there with same | ⟨absent, _⟩ | ⟨old, present, step⟩
    · rw [Option.some.inj (found.symm.trans same)] at free
      exact absurd free claimed
    · rw [found] at absent
      cases absent
    · obtain rfl := Option.some.inj (found.symm.trans present)
      cases step with
      | send lead owner mailbox ref sendable vouched =>
          refine ⟨sendable.delivers, ?_, rfl, nofun, nofun⟩
          rw [sendable.drafted]
          decide
      | settle taskId actor note finished task which known pending mine closed =>
          unfold Touch.settled at claimed
          split_ifs at claimed
          · exact absurd free claimed
          · exact absurd free claimed
      | _ => exact absurd free claimed

theorem guides_posting : Guides site Unclaimed Posting where
  persists := persists_unclaimed
  order _ := ⟨posting_refl, posting_trans⟩
  deeds _ unclaimed deed := posting_deed deed unclaimed

/-- The touches of `old` are bound in `new`. -/
structure Binds (old new : Ledger) : Prop where
  unclaimed : Unclaimed new
  onward : Later old new
  bound : ∀ id item next, old.touches id = some item → new.touches id = some next →
    item.Bound next

theorem persists_binds (old : Ledger) : Persists site (Binds old) where
  deeds := by
    intro vouch op start l after _ deed binds
    have posting := posting_deed deed binds.unclaimed
    refine ⟨unclaimed_deed deed binds.unclaimed, later_trans binds.onward posting.onward,
      fun id item next found there => ?_⟩
    obtain ⟨middle, between, _⟩ := binds.onward.touches id item found
    exact Touch.bound_trans (binds.bound id item middle found between)
      (posting.bound id middle next between there)
  ticks l time binds :=
    ⟨⟨binds.unclaimed.open_, binds.unclaimed.tasked⟩,
      later_trans binds.onward { later_refl l with }, binds.bound⟩

variable {allowed : World → Act → Prop} {start : World}

/-- In every run a touch keeps the hash of the text it was inserted with. It is claimed only
by the commit of a session that delivers it, when it could still be delivered, and then with
its mailbox, its reference and the time it was sent; none of these is ever written again. -/
theorem dispatches_recorded (quiet : start.sessions = []) (linked : Linked start.committed.ledger)
    (unclaimed : Unclaimed start.committed.ledger) (run : Run site allowed start world) :
    Unclaimed world.committed.ledger ∧
    (∀ action later, (service site).act action world = some later →
      Stepping Posting world later action) ∧
    ∀ later, Run site allowed world later → ∀ id item,
      world.committed.touches.lookup id = some item →
        ∃ next, later.committed.touches.lookup id = some next ∧ item.Bound next := by
  obtain ⟨sane, kept⟩ := holds_run persists_unclaimed quiet linked unclaimed run
  refine ⟨kept, fun action later step => stepping_of_step guides_posting sane kept step,
    fun later onward id item found => ?_⟩
  have begins : Binds world.committed.ledger world.committed.ledger :=
    ⟨kept, later_refl _, (@posting_refl Op.reapExpired _).bound⟩
  have binds := (holds_onward (persists_binds world.committed.ledger) sane begins onward).2
  obtain ⟨next, there, _⟩ := binds.onward.touches id item found
  exact ⟨next, there, binds.bound id item next found there⟩

end Runs

section Sample

theorem sample_undispatched : Unclaimed sampleWorld.committed.ledger := by
  refine ⟨fun id item found _ => ?_, fun id task found _ => ?_⟩
  all_goals
    simp [Database.ledger, sampleWorld, sampleDatabase] at found
  obtain ⟨_, rfl⟩ := found
  rfl

/-- The sample touch is delivered, and its record stays. -/
theorem sample_recorded : ∃ world item, Run sampleDeployment unrestricted sampleWorld world ∧
    world.committed.touches.lookup 4 = some item ∧ item.claimedAt = some sampleClock ∧
    ∀ later, Run sampleDeployment unrestricted world later →
      ∃ next, later.committed.touches.lookup 4 = some next ∧ next.claimedAt = some sampleClock ∧
        next.mailbox = item.mailbox ∧ next.contentHash = item.contentHash := by
  have tried : (play [begin (.lease .deliver), go 0 37, .inl (.finish 0)]).any
      (fun world : World => (world.committed.touches.lookup 4).any fun item =>
        item.claimedAt = some sampleClock) = true := by
    decide +kernel
  obtain ⟨world, run, seen⟩ := run_of_tried tried
  obtain ⟨item, found, holds⟩ := (Option.any_eq_true _ _).1 seen
  have claimed : item.claimedAt = some sampleClock := of_decide_eq_true holds
  obtain ⟨_, _, onward⟩ := dispatches_recorded rfl sample_linked sample_undispatched run
  refine ⟨world, item, run, found, claimed, fun later further => ?_⟩
  obtain ⟨next, there, bound⟩ := onward later further 4 item found
  obtain ⟨time, mailbox, _⟩ := bound.record (by rw [claimed]; nofun)
  exact ⟨next, there, time.trans claimed, mailbox, bound.contentHash⟩

end Sample

end OpenReachout
