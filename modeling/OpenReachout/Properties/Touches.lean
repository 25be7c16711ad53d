import OpenReachout.Outreach.Rows

/-!
# The life of a touch

A touch goes forward through its statuses as long as a terminal refusal releases
drafts only: its statement names the touch and not the status it found.
-/

namespace OpenReachout

open Relational Text

set_option autoImplicit false

variable {site : Deployment} {op : Op} {committed start l after : Ledger}

section Statuses

/-- Where a touch can go from a status. -/
def TouchStatus.onward : TouchStatus → List TouchStatus
  | .pendingReview => [.drafted, .released]
  | .drafted => [.claimed, .released]
  | .claimed => [.dispatched]
  | .dispatched => [.sent]
  | .pendingHuman => [.sent, .released]
  | .sent | .released => []

def TouchStatus.Forward (old new : TouchStatus) : Prop :=
  Relation.ReflTransGen (fun early late => late ∈ early.onward) old new

theorem forward_of {old early late : TouchStatus} (status : old = early)
    (next : late ∈ early.onward) : old.Forward late := by
  rw [status]
  exact .single next

/-- A touch that is terminally refused is still a draft. -/
def draftRefused (_ _ : Ledger) : Mark → Ledger → Prop
  | .terminalRefusal touchId, seen =>
      ∀ item, seen.touches touchId = some item → item.status = .drafted
  | _, _ => True

/-- A pending task has its touch waiting for it, and no other task has. -/
structure Waiting (l : Ledger) : Prop where
  held : ∀ id task, l.tasks id = some task → task.status = .pending →
    ∃ item, l.touches task.touchId = some item ∧ item.status = .pendingHuman
  single : ∀ id other task second, l.tasks id = some task → l.tasks other = some second →
    task.status = .pending → second.status = .pending → task.touchId = second.touchId → id = other

theorem step_forward {id : Uuid} {old new : Touch} (waiting : Waiting l)
    (step : TouchStep (draftRefused committed start) op start l after id old new) (found : l.touches id = some old) :
    old.status.Forward new.status := by
  have waits : ∀ {taskId task}, l.tasks taskId = some task → task.status = .pending →
      task.touchId = id → old.status = .pendingHuman := by
    intro taskId task there pending mine
    obtain ⟨item, present, status⟩ := waiting.held taskId task there pending
    rw [mine] at present
    obtain rfl := Option.some.inj (found.symm.trans present)
    exact status
  cases step with
  | approve actor which held queued =>
      have next : TouchStatus.drafted ∈ TouchStatus.pendingReview.onward := by decide
      exact forward_of held next
  | reject actor note which held =>
      have next : TouchStatus.released ∈ TouchStatus.pendingReview.onward := by decide
      exact forward_of held next
  | refuse which vouched =>
      obtain ⟨seen, refused, shown⟩ := vouched
      have next : TouchStatus.released ∈ TouchStatus.drafted.onward := by decide
      exact forward_of (refused old shown) next
  | send lead owner mailbox ref sendable vouched =>
      have claims : TouchStatus.claimed ∈ TouchStatus.drafted.onward := by decide
      have sends : TouchStatus.dispatched ∈ TouchStatus.claimed.onward := by decide
      exact (forward_of sendable.drafted claims).tail sends
  | webhook out =>
      have next : TouchStatus.sent ∈ TouchStatus.dispatched.onward := by decide
      exact forward_of out next
  | settle taskId actor note finished task which there pending mine closed =>
      have status := waits there pending mine
      have done : TouchStatus.sent ∈ TouchStatus.pendingHuman.onward := by decide
      have skipped : TouchStatus.released ∈ TouchStatus.pendingHuman.onward := by decide
      cases finished with
      | true => exact forward_of status done
      | false => exact forward_of status skipped
  | lapse taskId task which there pending mine closed =>
      have next : TouchStatus.released ∈ TouchStatus.pendingHuman.onward := by decide
      exact forward_of (waits there pending mine) next
  | erase ref which => exact Relation.ReflTransGen.refl

theorem waiting_deed (deed : Deed site (draftRefused committed start) op start l after) (waiting : Waiting l) :
    Waiting after where
  held := by
    intro id task present pending
    rcases task_of_deed deed present pending with there | ⟨new, _⟩
    · obtain ⟨old, found, status⟩ := waiting.held id task there pending
      obtain ⟨item, kept, _⟩ := (deed_later _ _ _ _ deed).touches _ old found
      refine ⟨item, kept, ?_⟩
      -- the statuses that the other steps find are not the one of a parked touch
      rcases touch_of_deed deed kept with same | ⟨absent, _⟩ | ⟨before, shown, step⟩
      · rw [found] at same
        rw [← Option.some.inj same]
        exact status
      · rw [found] at absent
        cases absent
      · obtain rfl := Option.some.inj (found.symm.trans shown)
        cases step with
        | approve actor which review queued =>
            rw [status] at review
            cases review
        | reject actor note which review =>
            rw [status] at review
            cases review
        | refuse which vouched =>
            obtain ⟨seen, refused, drafted⟩ := vouched
            have draft := refused old drafted
            rw [status] at draft
            cases draft
        | send lead owner mailbox ref sendable vouched =>
            have draft := sendable.drafted
            rw [status] at draft
            cases draft
        | webhook out =>
            rw [status] at out
            cases out
        | settle taskId actor note finished other which other_found waits mine closed =>
            obtain rfl := waiting.single taskId id other task other_found there waits pending mine
            exact absurd pending (closed task present)
        | lapse taskId other which other_found waits mine closed =>
            obtain rfl := waiting.single taskId id other task other_found there waits pending mine
            exact absurd pending (closed task present)
        | erase ref which => exact status
    · obtain ⟨item, found, status, _⟩ := new.waiting
      exact ⟨item, found, status⟩
  single := by
    -- a new task has a new touch, which no task that was there refers to
    have apart : ∀ {id other task second}, NewTask l after id task →
        l.tasks other = some second → second.status = .pending →
        task.touchId ≠ second.touchId := by
      intro id other task second new there pending same
      obtain ⟨item, found, _⟩ := waiting.held other second there pending
      have absent := new.absent
      rw [same, found] at absent
      cases absent
    intro id other task second present shown pending waits same
    by_cases equal : id = other
    · exact equal
    rcases task_of_deed deed present pending with there | ⟨new, others⟩
    · rcases task_of_deed deed shown waits with here | ⟨new, others⟩
      · exact waiting.single id other task second there here pending waits same
      · exact absurd same.symm (apart new there pending)
    · exact absurd same (apart new (others other second shown (Ne.symm equal)) waits)

theorem forward_deed (deed : Deed site (draftRefused committed start) op start l after) (waiting : Waiting l)
    {id : Uuid} {old : Touch} (found : l.touches id = some old) :
    ∃ new, after.touches id = some new ∧ old.status.Forward new.status := by
  obtain ⟨new, kept, _⟩ := (deed_later _ _ _ _ deed).touches id old found
  refine ⟨new, kept, ?_⟩
  rcases touch_of_deed deed kept with same | ⟨absent, _⟩ | ⟨before, shown, step⟩
  · rw [found] at same
    rw [← Option.some.inj same]
    exact Relation.ReflTransGen.refl
  · rw [found] at absent
    cases absent
  · obtain rfl := Option.some.inj (found.symm.trans shown)
    exact step_forward waiting step found

theorem forward_path
    (path : Relation.ReflTransGen (Deed site (draftRefused committed start) op start) l after) (waiting : Waiting l) :
    Waiting after ∧ ∀ id old, l.touches id = some old →
      ∃ new, after.touches id = some new ∧ old.status.Forward new.status := by
  induction path with
  | refl => exact ⟨waiting, fun id old found => ⟨old, found, Relation.ReflTransGen.refl⟩⟩
  | tail _ deed induction =>
      obtain ⟨waiting, earlier⟩ := induction
      refine ⟨waiting_deed deed waiting, fun id old found => ?_⟩
      obtain ⟨middle, present, early⟩ := earlier id old found
      obtain ⟨new, kept, late⟩ := forward_deed deed waiting present
      exact ⟨new, kept, early.trans late⟩

variable {world later : World}

theorem forward_advance {action : Act} (waiting : Waiting world.committed.ledger)
    (advance : Advance site draftRefused world later action) :
    Waiting later.committed.ledger ∧ ∀ id old, world.committed.touches.lookup id = some old →
      ∃ new, later.committed.touches.lookup id = some new ∧ old.status.Forward new.status := by
  cases advance with
  | idle same =>
      rw [same]
      exact ⟨waiting, fun id old found => ⟨old, found, Relation.ReflTransGen.refl⟩⟩
  | clock ticks moved =>
      rw [moved]
      exact ⟨⟨waiting.held, waiting.single⟩,
        fun id old found => ⟨old, found, Relation.ReflTransGen.refl⟩⟩
  | commit index session out found commits since wrote path => exact forward_path path waiting

/-- Every commit refuses drafts only. -/
def RefusesDrafts (world : World) (action : Act) : Prop := Vouched draftRefused world action

theorem sample_waiting : Waiting sampleWorld.committed.ledger := by
  constructor
  · intro id task present
    cases present
  · intro id other task second present
    cases present

/-- Two workers have the same deliver job, and the second is past the first gates
when the first one dispatches. -/
def overtaken : List Move :=
  [begin (.lease .deliver), go 0 2, .inl (.advance (seconds 121)), begin .reapExpired, go 1 2,
    begin (.lease .deliver), go 2 7, go 0 38 200]

end Statuses

end OpenReachout
