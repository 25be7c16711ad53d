import OpenReachout.Outreach.Rows

/-!
# Leases and attempts

What holds of jobs in every run: whose a lease is, and how often a job is executed.
The reaper knows neither the worker it takes a lease from nor the attempts of the
job, and both laws hold as long as neither matters.
-/

namespace OpenReachout

open Relational Text

set_option autoImplicit false

variable {site : Deployment} {rule : Condition} {op : Op} {world after : World}

/-- The job that a worker has in hand. -/
def Op.job : Op → Option Job
  | .handle job | .complete job | .fail job _ _ | .complianceAlert job _ => some job
  | _ => none

section Steps

/-- A commit of the operation puts the job back into its queue. -/
def Op.returns (op : Op) (time : Time) (id : Nat) (work : JobRow) : Prop :=
  (op = .reapExpired ∧ work.status = .leased ∧ work.leaseUntil.any (· < time) = true) ∨
    ∃ job error permanent, op = .fail job error permanent ∧ job.exhausted permanent = false ∧
      job.id = id

/-- A job is executed at most as often as it may be, and one that is ready may be
executed again. -/
structure JobRow.Bounded (work : JobRow) : Prop where
  attempts : work.attempts ≤ work.maxAttempts
  left : work.status = .ready → work.attempts < work.maxAttempts

theorem JobRow.Fresh.bounded {l : Ledger} {id : Nat} {work : JobRow} (fresh : work.Fresh l id) : work.Bounded := by
  have attempts := fresh.attempts
  have limit := fresh.maxAttempts
  unfold maxAttemptsDefault at limit
  exact ⟨by omega, fun _ => by omega⟩

theorem due_status {queue : QueueName} {time : Time} {work : JobRow}
    (ready : due queue time work = true) : work.status = .ready := by
  simp only [due, Bool.and_eq_true, decide_eq_true_eq] at ready
  exact ready.1.2

theorem bounded_of_steps {time : Time} {id : Nat} {old new : JobRow}
    (steps : Relation.ReflTransGen (JobStep op time id) old new) (bounded : old.Bounded)
    (room : op.returns time id old → old.attempts < old.maxAttempts) : new.Bounded := by
  -- no transaction puts a job back that it has already put back
  have traced : new.Bounded ∧ (op.returns time id new → new.attempts < new.maxAttempts) := by
    induction steps with
    | refl => exact ⟨bounded, room⟩
    | tail _ step induction =>
        obtain ⟨⟨attempts, left⟩, room⟩ := induction
        cases step with
        | lease queue which ready =>
            have more := left (due_status ready)
            refine ⟨⟨more, nofun⟩, ?_⟩
            rintro (⟨reaps, _⟩ | ⟨job, error, permanent, fails, _⟩)
            · rw [which] at reaps
              cases reaps
            · rw [which] at fails
              cases fails
        | complete job which mine =>
            refine ⟨⟨attempts, nofun⟩, ?_⟩
            rintro (⟨reaps, _⟩ | ⟨job, error, permanent, fails, _⟩)
            · rw [which] at reaps
              cases reaps
            · rw [which] at fails
              cases fails
        | retry job error permanent which unspent mine =>
            have more := room (Or.inr ⟨job, error, permanent, which, unspent, mine⟩)
            exact ⟨⟨attempts, fun _ => more⟩, fun _ => more⟩
        | bury job text which mine =>
            refine ⟨⟨attempts, nofun⟩, ?_⟩
            rintro (⟨_, leased, _⟩ | ⟨other, error, permanent, fails, unspent, _⟩)
            · cases leased
            · rcases which with ⟨_, buries, spent⟩ | ⟨_, alerts, _⟩
              · rw [fails] at buries
                obtain ⟨rfl, rfl, rfl⟩ := Op.fail.inj buries
                rw [unspent] at spent
                cases spent
              · rw [fails] at alerts
                cases alerts
        | reap which leased expired =>
            have more := room (Or.inl ⟨which, leased, expired⟩)
            exact ⟨⟨attempts, fun _ => more⟩, fun _ => more⟩
  exact traced.1

end Steps

section Handing

/-- What a lease that has handed over a job has done. -/
structure Handed (world after : World) (queue : QueueName) (time : Time) (job : Job)
    (work : JobRow) : Prop where
  found : world.committed.ledger.jobs job.id = some work
  ready : due queue time work = true
  same : job = work.handed job.id
  leased : after.committed.ledger.jobs job.id = some (work.leased time)

theorem handed_of_finish {index : Nat} {job : Job} {queue : QueueName}
    {session : Session Database RowLock Exc Mark Call Call.Answer Op Out} (sane : Sane site world)
    (vouched : Vouched rule world (.finish index)) (found : world.session index = some session)
    (which : session.op = .lease queue)
    (ended : session.program.outcome = some (.ok (.leased (some job))))
    (step : (service site).act (.finish index) world = some after) :
    ∃ work, Handed world after queue session.txn.start.clock job work := by
  have careful : Program.Careful Progress (session.op.program site) := by
    rw [which]
    exact Program.careful_bind (Program.intact_perform _ _).careful fun _ => Program.careful_pure _
  have commits := committing_of_outcome sane.sound found careful ended
  obtain ⟨op, program, txn⟩ := session
  obtain rfl : op = .lease queue := which
  obtain ⟨rfl, intact⟩ := commits
  have commits : Committing ⟨.lease queue, .done (.leased (some job)), txn⟩
    (.leased (some job)) := ⟨rfl, intact⟩
  have brings : (outreach site (rule world.committed.ledger txn.start.ledger) (.lease queue)).Brings []
      (Op.program site (.lease queue))
      fun start out before after => ∀ job, out = .leased (some job) → ∃ work,
        job = work.handed job.id ∧ before.jobs job.id = some work ∧
          due queue start.clock work = true ∧
          after = before.setJob job.id (work.leased start.clock) := by
    refine (Abstraction.brings_map (brings_lease queue) Out.leased).mono ?_
    rintro start out before after ⟨value, rfl, ⟨rfl, _⟩ | ⟨id, work, rfl, there, ready, rfl⟩⟩ job same
    · cases same
    · obtain rfl := Option.some.inj (Out.leased.inj same)
      exact ⟨work, rfl, there, ready, rfl⟩
  obtain ⟨_, post⟩ := brings_commit sane.sound sane.begun found commits
    (vouched index _ _ rfl found commits) brings
  obtain ⟨work, same, there, ready, wrote⟩ := post job rfl
  refine ⟨work, there, ready, same, ?_⟩
  rw [committed_of_finish found intact step, wrote]
  exact Function.update_self job.id _ _

theorem next_job {handled : Job} {outcome : Except Exc Out} {new : Op}
    (next : Op.next (.handle handled) outcome = some new) : new.job = some handled := by
  cases outcome with
  | ok out =>
      obtain rfl := Option.some.inj next
      rfl
  | error error =>
      simp only [Op.next] at next
      split at next
      all_goals
        obtain rfl := Option.some.inj next
        rfl

/-- The job a session has in hand it had before, or has just been handed over. -/
theorem job_of_origin {action : Action Call Call.Answer Op} {index : Nat} {job : Job}
    {session : Session Database RowLock Exc Mark Call Call.Answer Op Out} (sane : Sane site world)
    (vouched : Vouched rule world action)
    (step : (service site).act action world = some after)
    (found : after.session index = some session) (hand : session.op.job = some job) :
    (∃ old, world.session index = some old ∧ old.op.job = some job ∧
        (action = .finish index → ∃ handled, old.op = .handle handled)) ∨
      action = .finish index ∧ ∃ queue time work, Handed world after queue time job work := by
  cases act_origin step found with
  | same old there op start other =>
      refine Or.inl ⟨old, there, by rw [← op]; exact hand, ?_⟩
      intro which
      exact absurd rfl (other index which)
  | entered entry start =>
      exfalso
      change session.op.entry site = true at entry
      generalize session.op = op at hand entry
      cases op with
      | handle job => cases entry
      | complete job => cases entry
      | fail job error permanent => cases entry
      | complianceAlert job error => cases entry
      | _ => cases hand
  | followed old outcome which there ended next start =>
      subst which
      change Op.next old.op outcome = some session.op at next
      generalize session.op = new at hand next
      cases former : old.op with
      | lease queue =>
          rw [former] at next
          cases outcome with
          | error error => cases next
          | ok out =>
              cases out with
              | leased given =>
                  cases given with
                  | none => cases next
                  | some given =>
                      obtain rfl := Option.some.inj next
                      obtain rfl := Option.some.inj hand
                      obtain ⟨work, handed⟩ := handed_of_finish sane vouched there former ended step
                      exact Or.inr ⟨rfl, queue, _, work, handed⟩
              | _ => cases next
      | handle handled =>
          left
          rw [former] at next
          have same := next_job next
          rw [hand] at same
          exact ⟨old, there, by rw [former, same]; rfl, fun _ => ⟨handled, former⟩⟩
      | _ =>
          rw [former] at next
          cases outcome <;> cases next

end Handing

section Attempts

/-- A commit that puts a job back into its queue leaves it an attempt. -/
def Retriable (world : World) (action : Act) : Prop :=
  ∀ index session out, action = .finish index → world.session index = some session →
    Committing session out → ∀ id work, world.committed.jobs.lookup id = some work →
      session.op.returns session.txn.start.clock id work → work.attempts < work.maxAttempts

/-- Of rows and of the jobs that workers have in hand. -/
structure AttemptsBounded (world : World) : Prop where
  rows : ∀ id work, world.committed.jobs.lookup id = some work → work.Bounded
  hands : ∀ index session job, world.session index = some session → session.op.job = some job →
    job.attempts ≤ job.maxAttempts

theorem attemptsBounded_step {action : Act} (sane : Sane site world)
    (bounded : AttemptsBounded world) (room : Retriable world action)
    (vouched : Vouched rule world action)
    (step : (service site).act action world = some after)
    (advance : Advance site rule world after action) : AttemptsBounded after where
  rows := by
    intro id work present
    cases advance with
    | idle same =>
        rw [same] at present
        exact bounded.rows id work present
    | clock ticks moved =>
        rw [moved] at present
        exact bounded.rows id work present
    | commit index session out found commits since wrote path =>
        obtain ⟨old, steps, there | ⟨_, fresh⟩⟩ := job_of_path path present
        · exact bounded_of_steps steps (bounded.rows id old there)
            (room index session out rfl found commits id old there)
        · refine bounded_of_steps steps fresh.bounded fun _ => ?_
          exact fresh.bounded.left fresh.status
  hands := by
    intro index session job found hand
    rcases job_of_origin sane vouched step found hand with ⟨old, there, same, _⟩ |
      ⟨_, queue, time, work, handed⟩
    · exact bounded.hands index old job there same
    · have more := (bounded.rows job.id work handed.found).left (due_status handed.ready)
      rw [handed.same]
      exact more

theorem sample_job_bounded (id : Nat) (work : JobRow)
    (found : sampleWorld.committed.jobs.lookup id = some work) : work.Bounded := by
  simp [sampleWorld, sampleDatabase] at found
  obtain ⟨rfl, rfl⟩ := found
  exact ⟨by decide, fun _ => by decide⟩

/-- A lease whose worker vanishes and whose reaper comes after it has expired. -/
def lostLease (index : Nat) : List Move :=
  [begin (.lease .deliver), go index 2, .inl (.crash index), .inl (.advance (seconds 121)),
    begin .reapExpired, go (index + 1) 2]

/-- Workers that vanish five times, and a sixth lease. -/
def lostLeases : List Move :=
  lostLease 0 ++ lostLease 2 ++ lostLease 4 ++ lostLease 6 ++ lostLease 8 ++
    [begin (.lease .deliver), go 10 2]

end Attempts

section Holders

/-- A reaper takes the leases of workers that have vanished, and of no other. -/
def WithinLease (world : World) (action : Act) : Prop :=
  ∀ index session out, action = .finish index → world.session index = some session →
    Committing session out → session.op = .reapExpired →
    ∀ other rival job work, world.session other = some rival → rival.op.job = some job →
      world.committed.jobs.lookup job.id = some work → work.status = .leased →
      work.leaseUntil.any (· < session.txn.start.clock) = false

/-- Each job in hand is leased to its worker, and to no other. -/
structure Holders (world : World) : Prop where
  leased : ∀ index session job, world.session index = some session → session.op.job = some job →
    ∃ work, world.committed.jobs.lookup job.id = some work ∧ work.status = .leased ∧
      work.attempts = job.attempts
  apart : ∀ index other session rival job second, index ≠ other →
    world.session index = some session → world.session other = some rival →
    session.op.job = some job → rival.op.job = some second → job.id ≠ second.id

/-- What others commit leaves a job in hand as it is. -/
theorem job_kept {action : Act} {index : Nat} {job : Job} {work : JobRow}
    {session : Session Database RowLock Exc Mark Call Call.Answer Op Out}
    (holders : Holders world) (within : WithinLease world action)
    (advance : Advance site rule world after action)
    (found : world.session index = some session) (hand : session.op.job = some job)
    (present : world.committed.jobs.lookup job.id = some work) (leased : work.status = .leased)
    (idle : action = .finish index → ∃ handled, session.op = .handle handled) :
    after.committed.jobs.lookup job.id = some work := by
  cases advance with
  | idle same =>
      rw [same]
      exact present
  | clock ticks moved =>
      rw [moved]
      exact present
  | commit other rival out there commits since wrote path =>
      refine job_of_stuck path present ?_
      have mine : ∀ mine : Job, rival.op.job = some mine → mine.id = job.id →
          ∃ handled, rival.op = .handle handled := by
        intro mine holds same
        by_cases self : index = other
        · subst self
          obtain rfl := Option.some.inj (found.symm.trans there)
          exact idle rfl
        · exact absurd same.symm
            (holders.apart index other session rival job mine self found there hand holds)
      intro next step
      cases step with
      | lease queue which ready =>
          have status := due_status ready
          rw [leased] at status
          cases status
      | complete own which same =>
          obtain ⟨handled, handles⟩ := mine own (by rw [which]; rfl) same
          rw [which] at handles
          cases handles
      | retry own error permanent which left same =>
          obtain ⟨handled, handles⟩ := mine own (by rw [which]; rfl) same
          rw [which] at handles
          cases handles
      | bury own text which same =>
          rcases which with ⟨permanent, which, _⟩ | ⟨error, which, _⟩
          · obtain ⟨handled, handles⟩ := mine own (by rw [which]; rfl) same
            rw [which] at handles
            cases handles
          · obtain ⟨handled, handles⟩ := mine own (by rw [which]; rfl) same
            rw [which] at handles
            cases handles
      | reap which _ expired =>
          have alive := within other rival out rfl there commits which index session job work found
            hand present leased
          have ended : work.leaseUntil.any (· < rival.txn.start.clock) = true := expired
          rw [alive] at ended
          cases ended

theorem holders_step {action : Act} (sane : Sane site world) (holders : Holders world)
    (within : WithinLease world action) (vouched : Vouched rule world action)
    (step : (service site).act action world = some after)
    (advance : Advance site rule world after action) : Holders after where
  leased := by
    intro index session job found hand
    rcases job_of_origin sane vouched step found hand with ⟨old, there, same, idle⟩ |
      ⟨_, queue, time, work, handed⟩
    · obtain ⟨work, present, leased, attempts⟩ := holders.leased index old job there same
      exact ⟨work, job_kept holders within advance there same present leased idle, leased, attempts⟩
    · refine ⟨work.leased time, handed.leased, rfl, ?_⟩
      rw [handed.same]
      rfl
  apart := by
    -- a job that is handed over was in nobody's hands
    have fresh : ∀ {queue time work} {job second : Job} {index : Nat}
        {rival : Session Database RowLock Exc Mark Call Call.Answer Op Out},
        Handed world after queue time job work → world.session index = some rival →
        rival.op.job = some second → job.id ≠ second.id := by
      intro queue time work job second index rival handed there holds same
      obtain ⟨row, present, leased, _⟩ := holders.leased index rival second there holds
      have found := handed.found
      rw [same] at found
      obtain rfl := Option.some.inj (found.symm.trans present)
      have status := due_status handed.ready
      rw [leased] at status
      cases status
    intro index other session rival job second differ found there hand holds
    rcases job_of_origin sane vouched step found hand with ⟨one, here, mine, _⟩ |
      ⟨finished, queue, time, work, handed⟩
    · rcases job_of_origin sane vouched step there holds with ⟨two, away, theirs, _⟩ |
        ⟨finished, queue, time, work, handed⟩
      · exact holders.apart index other one two job second differ here away mine theirs
      · exact Ne.symm (fresh handed here mine)
    · rcases job_of_origin sane vouched step there holds with ⟨two, away, theirs, _⟩ |
        ⟨again, _⟩
      · exact fresh handed away theirs
      · exact absurd (Action.finish.inj (finished.symm.trans again)) differ

/-- What is finished stays so: only the holder of a lease ends it, and a finished
job is not leased. -/
theorem finished_kept {action : Act} {id : Nat} {work : JobRow} (holders : Holders world)
    (advance : Advance site rule world after action)
    (present : world.committed.jobs.lookup id = some work)
    (finished : work.status = .done ∨ work.status = .dead) :
    after.committed.jobs.lookup id = some work := by
  have ended : ∀ {status : JobStatus}, work.status = status → status ≠ .ready ∧ status ≠ .leased := by
    rintro status rfl
    rcases finished with done | dead
    · rw [done]
      exact ⟨by decide, by decide⟩
    · rw [dead]
      exact ⟨by decide, by decide⟩
  cases advance with
  | idle same =>
      rw [same]
      exact present
  | clock ticks moved =>
      rw [moved]
      exact present
  | commit index session out found commits since wrote path =>
      refine job_of_stuck path present ?_
      have held : ∀ job : Job, session.op.job = some job → job.id ≠ id := by
        intro job hand same
        obtain ⟨row, there, leased, _⟩ := holders.leased index session job found hand
        rw [same] at there
        obtain rfl := Option.some.inj (there.symm.trans present)
        exact (ended leased).2 rfl
      intro next step
      cases step with
      | lease queue which ready => exact (ended (due_status ready)).1 rfl
      | complete own which same => exact held own (by rw [which]; rfl) same
      | retry own error permanent which left same => exact held own (by rw [which]; rfl) same
      | bury own text which same =>
          rcases which with ⟨permanent, which, _⟩ | ⟨error, which, _⟩
          · exact held own (by rw [which]; rfl) same
          · exact held own (by rw [which]; rfl) same
      | reap which leased expired => exact (ended leased).2 rfl

/-- A worker outlives its lease, and another one delivers and completes the job. -/
def outlived : List Move :=
  [begin (.lease .deliver), go 0 2, .inl (.advance (seconds 121)), begin .reapExpired, go 1 2,
    begin (.lease .deliver), go 2 40 200 (sampleClock + seconds 121)]

/-- Its own attempt fails. -/
def failing : List Move := [.inl (.fault 0), go 0 3]

end Holders

end OpenReachout
