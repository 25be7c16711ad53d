import OpenReachout.Outreach.Keeping
import OpenReachout.Properties.Backlog

/-!
# Jobs and their keys

A key stands for one job, a job has one key, and it is queued with the payload that
its key orders. What a worker has in hand is a job of the table.
-/

namespace OpenReachout

open Relational Text

set_option autoImplicit false

variable {site : Deployment} {vouch : Mark → Ledger → Prop} {op : Op} {start l after : Ledger}
variable {world later : World}

section Keys

structure WellKeyed (l : Ledger) : Prop where
  indexed : ∀ key id, l.jobIndex key = some id →
    ∃ work, l.jobs id = some work ∧ work.idempotencyKey = key
  keyed : ∀ id work, l.jobs id = some work → l.jobIndex work.idempotencyKey = some id
  ordered : ∀ id work, l.jobs id = some work →
    work.idempotencyKey.orders work.queue work.payload

/-- What moves a job leaves its key, its queue and its payload. -/
theorem order_of_step {time : Time} {id : Nat} {old new : JobRow} (step : JobStep op time id old new) :
    new.idempotencyKey = old.idempotencyKey ∧ new.queue = old.queue ∧ new.payload = old.payload := by
  cases step <;> exact ⟨rfl, rfl, rfl⟩

theorem wellKeyed_deed (deed : Deed site vouch op start l after) (wellKeyed : WellKeyed l) :
    WellKeyed after := by
  have onward : Later l after := deed_later _ _ _ _ deed
  refine ⟨fun key id known => ?_, fun id work found => ?_, fun id work found => ?_⟩
  · rcases indexed_of_deed deed known with same | ⟨_, _, made⟩
    · obtain ⟨work, found, mine⟩ := wellKeyed.indexed key id same
      obtain ⟨next, kept, moved⟩ := onward.jobs id work found
      exact ⟨next, kept, moved.key.trans mine⟩
    · exact made
  · rcases job_of_deed deed found with same | ⟨_, fresh⟩ | ⟨old, there, step⟩
    · obtain ⟨_, kept, rfl⟩ := onward.jobIndex _ id (wellKeyed.keyed id work same)
      exact kept
    · exact fresh.keyed
    · rw [(order_of_step step).1]
      obtain ⟨_, kept, rfl⟩ := onward.jobIndex _ id (wellKeyed.keyed id old there)
      exact kept
  · rcases job_of_deed deed found with same | ⟨_, fresh⟩ | ⟨old, there, step⟩
    · exact wellKeyed.ordered id work same
    · exact fresh.orders
    · obtain ⟨key, queue, payload⟩ := order_of_step step
      rw [key, queue, payload]
      exact wellKeyed.ordered id old there

theorem persists_wellKeyed : Persists site WellKeyed where
  deeds _ deed wellKeyed := wellKeyed_deed deed wellKeyed
  ticks _ _ wellKeyed := ⟨wellKeyed.indexed, wellKeyed.keyed, wellKeyed.ordered⟩

theorem WellKeyed.unique {id other : Nat} {work second : JobRow} (wellKeyed : WellKeyed l)
    (found : l.jobs id = some work) (there : l.jobs other = some second)
    (same : work.idempotencyKey = second.idempotencyKey) : id = other := by
  have first := wellKeyed.keyed id work found
  rw [same] at first
  exact Option.some.inj (first.symm.trans (wellKeyed.keyed other second there))

end Keys

section Workers

/-- Every worker has a job of the table in hand, in its queue and with its payload. -/
def InHand (world : World) : Prop :=
  ∀ index session job, world.session index = some session → session.op.job = some job →
    ∃ work, world.committed.ledger.jobs job.id = some work ∧ work.queue = job.queue ∧
      work.payload = job.payload

theorem inHand_step {action : Act} (sane : Sane site world) (inHand : InHand world)
    (step : (service site).act action world = some later)
    (onward : Later world.committed.ledger later.committed.ledger) : InHand later := by
  have free : Vouched (fun _ _ _ _ => True) world action := fun _ _ _ _ _ _ _ _ => trivial
  intro index session job found hand
  rcases job_of_origin sane free step found hand with ⟨old, there, same, _⟩ |
    ⟨_, queue, time, work, handed⟩
  · obtain ⟨work, present, queue, payload⟩ := inHand index old job there same
    obtain ⟨next, kept, moved⟩ := onward.jobs job.id work present
    exact ⟨next, kept, moved.queue.trans queue, moved.payload.trans payload⟩
  · refine ⟨work.leased time, handed.leased, ?_⟩
    rw [handed.same]
    exact ⟨rfl, rfl⟩

/-- The table and the workers agree. -/
structure Docketed (world : World) : Prop where
  keys : WellKeyed world.committed.ledger
  hands : InHand world

theorem docketed_quiet (quiet : world.sessions = []) (keys : WellKeyed world.committed.ledger) :
    Docketed world := by
  refine ⟨keys, fun index session job found => ?_⟩
  rw [System.session_of_quiet quiet] at found
  cases found

theorem docketed_step {action : Act} (sane : Sane site world) (docketed : Docketed world)
    (step : (service site).act action world = some later) : Sane site later ∧ Docketed later := by
  have free : Vouched (fun _ _ _ _ => True) world action := fun _ _ _ _ _ _ _ _ => trivial
  have advance := advance_of_step sane.sound sane.begun free step
  have onward := later_advance advance
  refine ⟨sane_step sane step onward, holds_advance persists_wellKeyed sane advance docketed.keys,
    inHand_step sane docketed.hands step onward⟩

theorem docketed_run {allowed : World → Act → Prop} (quiet : world.sessions = [])
    (linked : Linked world.committed.ledger) (keys : WellKeyed world.committed.ledger)
    (run : Run site allowed world later) : Sane site later ∧ Docketed later := by
  induction run with
  | refl => exact ⟨sane_start quiet linked, docketed_quiet quiet keys⟩
  | tail _ step induction =>
      obtain ⟨action, _, step⟩ := step
      exact docketed_step induction.1 induction.2 step

/-- In every run from a table whose keys and jobs name each other they go on to; no key
has two jobs, a job that was there keeps its key, its queue and its payload, and what
every worker has in hand is what the key of a job of the table orders. -/
theorem jobs_docketed {allowed : World → Act → Prop} {start : World} (quiet : start.sessions = [])
    (linked : Linked start.committed.ledger) (keys : WellKeyed start.committed.ledger)
    (run : Run site allowed start world) (onward : Run site allowed world later) :
    WellKeyed later.committed.ledger ∧
    (∀ id other work second, later.committed.jobs.lookup id = some work →
      later.committed.jobs.lookup other = some second →
        work.idempotencyKey = second.idempotencyKey → id = other) ∧
    (∀ id work, world.committed.jobs.lookup id = some work →
      ∃ next, later.committed.jobs.lookup id = some next ∧
        next.idempotencyKey = work.idempotencyKey ∧ next.queue = work.queue ∧
        next.payload = work.payload) ∧
    ∀ index session job, later.session index = some session → session.op.job = some job →
      ∃ work, later.committed.jobs.lookup job.id = some work ∧
        work.idempotencyKey.orders job.queue job.payload := by
  obtain ⟨sane, docketed⟩ := docketed_run quiet linked keys run
  obtain ⟨_, final⟩ := docketed_run quiet linked keys (run.trans onward)
  have between : Later world.committed.ledger later.committed.ledger := by
    have free : ∀ world action, allowed world action →
        Vouched (fun _ _ _ _ => True) world action := vouched_free
    refine (invariant_onward (fun later => Later world.committed.ledger later.committed.ledger)
      free ?_ sane (later_refl _) onward).2
    intro middle action after _ before _ _ advance
    exact later_trans before (later_advance advance)
  refine ⟨final.keys, fun id other work second found there same => ?_, fun id work found => ?_,
    fun index session job found hand => ?_⟩
  · exact final.keys.unique found there same
  · obtain ⟨next, kept, moved⟩ := between.jobs id work found
    exact ⟨next, kept, moved.key, moved.queue, moved.payload⟩
  · obtain ⟨work, present, queue, payload⟩ := final.hands index session job found hand
    refine ⟨work, present, ?_⟩
    rw [← queue, ← payload]
    exact final.keys.ordered job.id work present

end Workers

section Sample

theorem sample_wellKeyed : WellKeyed sampleWorld.committed.ledger := by
  refine ⟨fun key id known => ?_, fun id work found => ?_, fun id work found => ?_⟩
  · simp [Database.ledger, sampleWorld, sampleDatabase] at known
    obtain ⟨rfl, rfl⟩ := known
    exact ⟨sampleJob, rfl, rfl⟩
  all_goals
    simp [Database.ledger, sampleWorld, sampleDatabase] at found
    obtain ⟨rfl, rfl⟩ := found
  · rfl
  · exact ⟨rfl, rfl⟩

/-- A worker has the sample job in hand. -/
theorem sample_docketed : ∃ (world : World)
    (session : Session Database RowLock Exc Mark Call Call.Answer Op Out) (job : Job),
    Run sampleDeployment unrestricted sampleWorld world ∧ WellKeyed world.committed.ledger ∧
    world.session 0 = some session ∧ session.op.job = some job ∧
    ∃ work, world.committed.jobs.lookup job.id = some work ∧
      work.idempotencyKey.orders job.queue job.payload := by
  have tried : (play [begin (.lease .deliver), go 0 2]).any (fun world : World =>
      (world.session 0).any fun session => session.op.job.isSome) = true := by
    decide +kernel
  obtain ⟨world, run, seen⟩ := run_of_tried tried
  obtain ⟨session, found, busy⟩ := (Option.any_eq_true _ _).1 seen
  obtain ⟨job, hand⟩ := Option.isSome_iff_exists.1 busy
  obtain ⟨keys, _, _, hands⟩ :=
    jobs_docketed rfl sample_linked sample_wellKeyed run Relation.ReflTransGen.refl
  exact ⟨world, session, job, run, keys, found, hand, hands 0 session job found hand⟩

end Sample

end OpenReachout
