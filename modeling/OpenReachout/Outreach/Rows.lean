import OpenReachout.Outreach.Laws

/-!
# What deeds do to a row

One inversion lemma for each table: a row after a deed is the row before it, is
new, or comes from it by one of the steps listed.
-/

namespace OpenReachout

open Relational Text

set_option autoImplicit false

variable {site : Deployment} {vouch : Mark → Ledger → Prop} {op : Op} {start l after : Ledger}

section Jobs

/-- What changes a job: it is leased while due, and ends or is returned by the
worker it was handed to, or by the reaper. -/
inductive JobStep (op : Op) (time : Time) (id : Nat) (old : JobRow) : JobRow → Prop where
  | lease (queue : QueueName) (which : op = .lease queue) (ready : due queue time old = true) :
      JobStep op time id old (old.leased time)
  | complete (job : Job) (which : op = .complete job) (mine : job.id = id) :
      JobStep op time id old { old with status := .done, leaseUntil := none }
  | retry (job : Job) (error : String) (permanent : Bool) (which : op = .fail job error permanent)
      (left : job.exhausted permanent = false) (mine : job.id = id) :
      JobStep op time id old { old with
        status := .ready, lastError := some error, leaseUntil := none
        runAfter := time + seconds (backoffBaseSeconds * 2 ^ job.attempts) }
  | bury (job : Job) (text : String)
      (which : (∃ permanent, op = .fail job text permanent ∧ job.exhausted permanent = true) ∨
        ∃ error, op = .complianceAlert job error ∧ text = "compliance: " ++ error)
      (mine : job.id = id) :
      JobStep op time id old { old with
        status := .dead, lastError := some text, leaseUntil := none }
  | reap (which : op = .reapExpired) (leased : old.status = .leased)
      (expired : old.leaseUntil.any (· < time) = true) :
      JobStep op time id old { old with status := .ready, leaseUntil := none }

/-- A job as it is enqueued, with its key. -/
structure JobRow.Fresh (l : Ledger) (id : Nat) (work : JobRow) : Prop where
  keyed : l.jobIndex work.idempotencyKey = some id
  status : work.status = .ready
  attempts : work.attempts = 0
  maxAttempts : work.maxAttempts = maxAttemptsDefault
  orders : work.idempotencyKey.orders work.queue work.payload

theorem fresh_later {id : Nat} {work : JobRow} (fresh : work.Fresh l id)
    (later : Later l after) : work.Fresh after id := by
  obtain ⟨_, kept, rfl⟩ := later.jobIndex _ id fresh.keyed
  exact { fresh with keyed := kept }

theorem job_of_set {id other : Nat} {work new : JobRow}
    (present : (l.setJob id work).jobs other = some new) :
    l.jobs other = some new ∨ other = id ∧ new = work := by
  by_cases same : other = id
  · subst same
    change Function.update l.jobs other (some work) other = some new at present
    rw [Function.update_self] at present
    exact Or.inr ⟨rfl, (Option.some.inj present).symm⟩
  · change Function.update l.jobs id (some work) other = some new at present
    rw [Function.update_of_ne same] at present
    exact Or.inl present

theorem job_of_enqueued {time : Time} {queue : QueueName} {payload : JobPayload} {key : JobKey}
    {delay id : Nat} {new : JobRow} (enqueued : Enqueued time queue payload key delay l after)
    (orders : key.orders queue payload) (present : after.jobs id = some new) :
    l.jobs id = some new ∨ l.jobs id = none ∧ new.Fresh after id := by
  cases enqueued with
  | known _ => exact Or.inl present
  | fresh other unknown unused =>
      rcases job_of_set present with same | ⟨rfl, rfl⟩
      · exact Or.inl same
      · exact Or.inr ⟨unused, Function.update_self key _ _, rfl, rfl, rfl, orders⟩

theorem job_of_planned {time : Time} {item : Touch} {lead : Prospect} {id : Nat} {new : JobRow}
    (planned : Planned site time item lead l after) (present : after.jobs id = some new) :
    l.jobs id = some new ∨ l.jobs id = none ∧ new.Fresh after id := by
  cases planned with
  | idle none => exact Or.inl present
  | last spec budgeted found ended owner entity => exact Or.inl present
  | next spec budgeted found more enqueued =>
      exact job_of_enqueued enqueued ⟨rfl, rfl, by omega⟩ present

theorem job_of_deed (deed : Deed site vouch op start l after) {id : Nat} {new : JobRow}
    (present : after.jobs id = some new) :
    l.jobs id = some new ∨ (l.jobs id = none ∧ new.Fresh after id) ∨
      ∃ old, l.jobs id = some old ∧ JobStep op start.clock id old new := by
  have fresh : ∀ {middle : Ledger}, middle.jobs = l.jobs →
      (middle.jobs id = some new ∨ middle.jobs id = none ∧ new.Fresh after id) →
      l.jobs id = some new ∨ (l.jobs id = none ∧ new.Fresh after id) ∨
        ∃ old, l.jobs id = some old ∧ JobStep op start.clock id old new := by
    intro middle same cases
    rw [same] at cases
    rcases cases with old | new
    · exact Or.inl old
    · exact Or.inr (Or.inl new)
  cases deed with
  | enqueue queue payload key delay plain orders enqueued =>
      exact fresh rfl (job_of_enqueued enqueued orders present)
  | trigger eventId prospectId which seen since lead found state enqueued =>
      exact fresh rfl (job_of_enqueued enqueued ⟨rfl, rfl⟩ present)
  | lease other work queue which found ready =>
      rcases job_of_set present with same | ⟨rfl, rfl⟩
      · exact Or.inl same
      · exact Or.inr (Or.inr ⟨work, found, .lease queue which ready⟩)
  | complete job work which found =>
      rcases job_of_set present with same | ⟨rfl, rfl⟩
      · exact Or.inl same
      · exact Or.inr (Or.inr ⟨work, found, .complete job which rfl⟩)
  | retry job error permanent work which left found =>
      rcases job_of_set present with same | ⟨rfl, rfl⟩
      · exact Or.inl same
      · exact Or.inr (Or.inr ⟨work, found, .retry job error permanent which left rfl⟩)
  | bury job text work which found =>
      rcases job_of_set present with same | ⟨rfl, rfl⟩
      · exact Or.inl same
      · exact Or.inr (Or.inr ⟨work, found, .bury job text which rfl⟩)
  | reap chosen which expired =>
      have rows : changed l.jobs chosen (fun work =>
          { work with status := .ready, leaseUntil := none }) id = some new := present
      unfold changed at rows
      by_cases picked : chosen id = true
      · rw [if_pos picked] at rows
        obtain ⟨work, found, rfl⟩ := Option.map_eq_some_iff.1 rows
        obtain ⟨leased, ended⟩ := expired id work picked found
        exact Or.inr (Or.inr ⟨work, found, .reap which leased ended⟩)
      · rw [if_neg picked] at rows
        exact Or.inl rows
  | draft touchId item new drafting met enqueued =>
      have made := job_of_enqueued enqueued ⟨rfl, rfl⟩ present
      exact fresh rfl made
  | approve touchId actor item which found held enqueued =>
      have made := job_of_enqueued enqueued ⟨rfl, rfl⟩ present
      exact fresh rfl made
  | send touchId item lead owner met mailbox ref sendable queued vouched planned =>
      have made := job_of_planned planned present
      exact fresh rfl made
  | settle taskId actor finished note task item which found pending touch counted =>
      cases counted with
      | skipped unfinished => exact Or.inl present
      | contact lead owner ended prospect entity => exact Or.inl present
  | suppress address scope reason idle enqueued =>
      have made := job_of_enqueued enqueued ⟨rfl, rfl⟩ present
      exact fresh rfl made
  | halt scope actor flag which enqueued =>
      have made := job_of_enqueued enqueued ⟨rfl, rfl⟩ present
      exact fresh rfl made
  | notify address hash receiptId hashed buried enqueued =>
      exact fresh rfl (job_of_enqueued enqueued ⟨rfl, address, receiptId, rfl⟩ present)
  | _ => exact Or.inl present

/-- A row after a commit: it has gone through such steps, and was there before or
is new. -/
theorem job_of_path (path : Relation.ReflTransGen (Deed site vouch op start) l after) {id : Nat}
    {new : JobRow} (present : after.jobs id = some new) :
    ∃ old, Relation.ReflTransGen (JobStep op start.clock id) old new ∧
      (l.jobs id = some old ∨ l.jobs id = none ∧ old.Fresh after id) := by
  induction path generalizing new with
  | refl => exact ⟨new, .refl, Or.inl present⟩
  | tail _ deed induction =>
      have onward := deed_later _ _ _ _ deed
      rcases job_of_deed deed present with same | ⟨absent, fresh⟩ | ⟨middle, found, step⟩
      · obtain ⟨old, steps, there | ⟨absent, fresh⟩⟩ := induction same
        · exact ⟨old, steps, Or.inl there⟩
        · exact ⟨old, steps, Or.inr ⟨absent, fresh_later fresh onward⟩⟩
      · refine ⟨new, .refl, Or.inr ⟨?_, fresh⟩⟩
        cases before : l.jobs id with
        | none => rfl
        | some old =>
            have kept := path_later ‹_›
            obtain ⟨next, found, _⟩ := kept.jobs id old before
            rw [absent] at found
            cases found
      · obtain ⟨old, steps, there | ⟨absent, fresh⟩⟩ := induction found
        · exact ⟨old, steps.tail step, Or.inl there⟩
        · exact ⟨old, steps.tail step, Or.inr ⟨absent, fresh_later fresh onward⟩⟩

theorem job_of_later {id : Nat} {old new : JobRow}
    (path : Relation.ReflTransGen (Deed site vouch op start) l after)
    (there : l.jobs id = some old) (present : after.jobs id = some new) :
    Relation.ReflTransGen (JobStep op start.clock id) old new := by
  obtain ⟨first, steps, found | ⟨absent, _⟩⟩ := job_of_path path present
  · obtain rfl := Option.some.inj (there.symm.trans found)
    exact steps
  · rw [there] at absent
    cases absent

/-- A job that the operation has no step for stays as it is. -/
theorem job_of_stuck {id : Nat} {old : JobRow}
    (path : Relation.ReflTransGen (Deed site vouch op start) l after)
    (there : l.jobs id = some old) (stuck : ∀ next, ¬ JobStep op start.clock id old next) :
    after.jobs id = some old := by
  obtain ⟨new, present, _⟩ := (path_later path).jobs id old there
  have steps := job_of_later path there present
  cases steps.cases_head with
  | inl same => rw [present, same]
  | inr first =>
      obtain ⟨next, step, _⟩ := first
      exact absurd step (stuck next)

/-- An operation that moves no job leaves the rows that are there. -/
theorem stuck_of_idle {time : Time} {id : Nat} {old : JobRow} (idle : op.settles = false)
    (next : JobRow) : ¬ JobStep op time id old next := by
  intro step
  cases step with
  | lease queue which ready =>
      rw [which] at idle
      cases idle
  | complete job which mine =>
      rw [which] at idle
      cases idle
  | retry job error permanent which left mine =>
      rw [which] at idle
      cases idle
  | bury job text which mine =>
      rcases which with ⟨permanent, which, _⟩ | ⟨error, which, _⟩
      · rw [which] at idle
        cases idle
      · rw [which] at idle
        cases idle
  | reap which leased expired =>
      rw [which] at idle
      cases idle

theorem job_of_idle (idle : op.settles = false)
    (path : Relation.ReflTransGen (Deed site vouch op start) l after) {id : Nat} {new : JobRow}
    (present : after.jobs id = some new) :
    l.jobs id = some new ∨ l.jobs id = none ∧ new.Fresh after id := by
  obtain ⟨old, steps, origin⟩ := job_of_path path present
  cases steps.cases_head with
  | inl same =>
      rw [← same]
      exact origin
  | inr first =>
      obtain ⟨next, step, _⟩ := first
      exact absurd step (stuck_of_idle idle next)

/-- The job of a key that is new is new. -/
def Indexed (l after : Ledger) (key : JobKey) (id : Nat) : Prop :=
  l.jobIndex key = some id ∨ l.jobIndex key = none ∧ l.jobs id = none ∧
    ∃ work, after.jobs id = some work ∧ work.idempotencyKey = key

theorem indexed_of_enqueued {time : Time} {queue : QueueName} {payload : JobPayload}
    {key other : JobKey} {delay id : Nat} (enqueued : Enqueued time queue payload key delay l after)
    (present : after.jobIndex other = some id) : Indexed l after other id := by
  cases enqueued with
  | known _ => exact Or.inl present
  | fresh new unknown unused =>
      change Function.update l.jobIndex key (some new) other = some id at present
      by_cases same : other = key
      · subst same
        rw [Function.update_self] at present
        obtain rfl := Option.some.inj present
        exact Or.inr ⟨unknown, unused, _, Function.update_self _ _ _, rfl⟩
      · rw [Function.update_of_ne same] at present
        exact Or.inl present

theorem indexed_of_deed (deed : Deed site vouch op start l after) {key : JobKey} {id : Nat}
    (present : after.jobIndex key = some id) : Indexed l after key id := by
  have made : ∀ {middle : Ledger}, middle.jobIndex = l.jobIndex → middle.jobs = l.jobs →
      Indexed middle after key id → Indexed l after key id := by
    intro middle index jobs indexed
    unfold Indexed at indexed ⊢
    rw [index, jobs] at indexed
    exact indexed
  cases deed with
  | enqueue queue payload key delay plain orders enqueued =>
      exact indexed_of_enqueued enqueued present
  | trigger eventId prospectId which seen since lead found state enqueued =>
      exact indexed_of_enqueued enqueued present
  | draft touchId item new drafting met enqueued =>
      have indexed := indexed_of_enqueued enqueued present
      exact made rfl rfl indexed
  | approve touchId actor item which found held enqueued =>
      have indexed := indexed_of_enqueued enqueued present
      exact made rfl rfl indexed
  | send touchId item lead owner met mailbox ref sendable queued vouched planned =>
      cases planned with
      | idle none => exact Or.inl present
      | last spec budgeted found ended owner entity => exact Or.inl present
      | next spec budgeted found more enqueued =>
          have indexed := indexed_of_enqueued enqueued present
          exact made rfl rfl indexed
  | settle taskId actor finished note task item which found pending touch counted =>
      cases counted with
      | skipped unfinished => exact Or.inl present
      | contact lead owner ended prospect entity => exact Or.inl present
  | suppress address scope reason idle enqueued =>
      have indexed := indexed_of_enqueued enqueued present
      exact made rfl rfl indexed
  | halt scope actor flag which enqueued =>
      have indexed := indexed_of_enqueued enqueued present
      exact made rfl rfl indexed
  | notify address hash receiptId hashed buried enqueued =>
      exact indexed_of_enqueued enqueued present
  | _ => exact Or.inl present

theorem indexed_of_path (path : Relation.ReflTransGen (Deed site vouch op start) l after)
    {key : JobKey} {id : Nat} (present : after.jobIndex key = some id) : Indexed l after key id := by
  induction path with
  | refl => exact Or.inl present
  | tail path deed induction =>
      rcases indexed_of_deed deed present with same | ⟨unknown, unused, made⟩
      · rcases induction same with known | ⟨unknown, unused, work, found, mine⟩
        · exact Or.inl known
        · obtain ⟨next, kept, later⟩ := (deed_later _ _ _ _ deed).jobs id work found
          exact Or.inr ⟨unknown, unused, next, kept, later.key.trans mine⟩
      · have earlier := path_later path
        refine Or.inr ⟨?_, ?_, made⟩
        · cases known : l.jobIndex key with
          | none => rfl
          | some other =>
              obtain ⟨_, kept, _⟩ := earlier.jobIndex key other known
              rw [unknown] at kept
              cases kept
        · cases there : l.jobs id with
          | none => rfl
          | some work =>
              obtain ⟨_, kept, _⟩ := earlier.jobs id work there
              rw [unused] at kept
              cases kept

end Jobs

section Suppressions

/-- A suppression as it is written: for good, and with its job, or for some months. -/
inductive Suppressing (site : Deployment) (vouch : Mark → Ledger → Prop) (op : Op) (time : Time)
    (l after : Ledger) (key : String × String) : Suppression → Prop where
  | lasting (reason : String) (idle : op.settles = false)
      (told : after.jobIndex (.pause key.1 key.2 reason) ≠ none) :
      Suppressing site vouch op time l after key ⟨reason, none, time⟩
  | cooldown (reason : String) (months : Nat) (row : Suppression) (scope : key.2 = globalScope)
      (vouched : ∃ seen : Ledger, vouch (.cooldown key.1 months) seen ∧
        seen.suppressions key = l.suppressions key)
      (until_ : row.expiresAt = some (addMonths months time)) :
      Suppressing site vouch op time l after key row

theorem enqueued_index {time : Time} {queue : QueueName} {payload : JobPayload} {key : JobKey}
    {delay : Nat} (enqueued : Enqueued time queue payload key delay l after) :
    after.jobIndex key ≠ none := by
  cases enqueued with
  | known present => exact present
  | fresh id unknown unused =>
      change Function.update l.jobIndex key (some id) key ≠ none
      rw [Function.update_self]
      nofun

/-- A row as a cooldown leaves it. -/
def Suppression.cooled (reason : String) (months : Nat) (time : Time) (row : Option Suppression) :
    Suppression :=
  (row.map fun row => { row with expiresAt := some (addMonths months time), reason := reason }).getD
    ⟨reason, some (addMonths months time), time⟩

/-- What a deed does to the suppressions. -/
inductive Barring (site : Deployment) (vouch : Mark → Ledger → Prop) (op : Op) (time : Time)
    (l after : Ledger) : Prop where
  | same (kept : after.suppressions = l.suppressions)
  | suppress (address scope reason : String) (idle : op.settles = false)
      (told : after.jobIndex (.pause address scope reason) ≠ none)
      (wrote : after.suppressions =
        Function.update l.suppressions (address, scope) (some ⟨reason, none, time⟩))
  | cooldown (address reason : String) (months : Nat) (handles : op.handles)
      (vouched : ∃ seen : Ledger, vouch (.cooldown address months) seen ∧
        seen.suppressions (address, globalScope) = l.suppressions (address, globalScope))
      (wrote : after.suppressions = Function.update l.suppressions (address, globalScope)
        (some (Suppression.cooled reason months time (l.suppressions (address, globalScope)))))
  | unsuppress (ref : ForgetRef) (address hash : String) (chosen : String × String → Bool)
      (which : op = .forget ref) (theirs : ∀ key, chosen key = true → key.1 = address)
      (hashed : tombstoneHash site.platform address = .ok hash)
      (buried : (after.tombstones hash).isSome = true)
      (wrote : after.suppressions = cleared l.suppressions chosen)

theorem barring_of_deed (deed : Deed site vouch op start l after) :
    Barring site vouch op start.clock l after := by
  cases deed with
  | enqueue queue payload key delay plain orders enqueued =>
      obtain ⟨_, _, rfl⟩ := enqueued_frame enqueued
      exact .same rfl
  | trigger eventId prospectId which seen since lead found state enqueued =>
      obtain ⟨_, _, rfl⟩ := enqueued_frame enqueued
      exact .same rfl
  | draft touchId item new drafting met enqueued =>
      obtain ⟨_, _, rfl⟩ := enqueued_frame enqueued
      exact .same rfl
  | approve touchId actor item which found held enqueued =>
      obtain ⟨_, _, rfl⟩ := enqueued_frame enqueued
      exact .same rfl
  | send touchId item lead owner met mailbox ref sendable queued vouched planned =>
      obtain ⟨_, _, _, rfl⟩ := planned_frame planned
      exact .same rfl
  | settle taskId actor finished note task item which found pending touch counted =>
      obtain ⟨_, rfl⟩ := counted_frame counted
      exact .same rfl
  | suppress address scope reason idle enqueued =>
      have told := enqueued_index enqueued
      obtain ⟨_, _, rfl⟩ := enqueued_frame enqueued
      exact .suppress address scope reason idle told rfl
  | cooldown address reason months handles vouched =>
      exact .cooldown address reason months handles vouched rfl
  | unsuppress ref address hash chosen which theirs hashed buried =>
      exact .unsuppress ref address hash chosen which theirs hashed buried rfl
  | halt scope actor flag which enqueued =>
      obtain ⟨_, _, rfl⟩ := enqueued_frame enqueued
      exact .same rfl
  | notify address hash receiptId hashed buried enqueued =>
      obtain ⟨_, _, rfl⟩ := enqueued_frame enqueued
      exact .same rfl
  | _ => exact .same rfl

theorem Suppression.cooled_until (reason : String) (months : Nat) (time : Time)
    (row : Option Suppression) :
    (Suppression.cooled reason months time row).expiresAt = some (addMonths months time) := by
  cases row with
  | none => rfl
  | some row => rfl

theorem suppression_of_deed (deed : Deed site vouch op start l after) {key : String × String}
    {new : Suppression} (present : after.suppressions key = some new) :
    l.suppressions key = some new ∨ Suppressing site vouch op start.clock l after key new := by
  cases barring_of_deed deed with
  | same kept =>
      rw [kept] at present
      exact Or.inl present
  | suppress address scope reason idle told wrote =>
      rw [wrote] at present
      by_cases same : key = (address, scope)
      · subst same
        rw [Function.update_self] at present
        obtain rfl := Option.some.inj present
        exact Or.inr (.lasting reason idle told)
      · rw [Function.update_of_ne same] at present
        exact Or.inl present
  | cooldown address reason months handles vouched wrote =>
      rw [wrote] at present
      by_cases same : key = (address, globalScope)
      · subst same
        rw [Function.update_self] at present
        obtain rfl := Option.some.inj present
        exact Or.inr (.cooldown reason months _ rfl vouched (Suppression.cooled_until _ _ _ _))
      · rw [Function.update_of_ne same] at present
        exact Or.inl present
  | unsuppress ref address hash chosen which theirs hashed buried wrote =>
      rw [wrote] at present
      unfold cleared at present
      split_ifs at present
      exact Or.inl present

end Suppressions

section Flags

/-- A flag is taken down by a human only. -/
theorem flag_of_deed (deed : Deed site vouch op start l after) {scope : String}
    (set : l.flags scope ≠ none) : after.flags scope ≠ none ∨
      ∃ actor, op = .resume scope actor ∧
        humanActorPrefix.toList.isPrefixOf actor.toList = true := by
  cases deed with
  | enqueue queue payload key delay plain orders enqueued =>
      obtain ⟨_, _, rfl⟩ := enqueued_frame enqueued
      exact Or.inl set
  | trigger eventId prospectId which seen since lead found state enqueued =>
      obtain ⟨_, _, rfl⟩ := enqueued_frame enqueued
      exact Or.inl set
  | draft touchId item new drafting met enqueued =>
      obtain ⟨_, _, rfl⟩ := enqueued_frame enqueued
      exact Or.inl set
  | approve touchId actor item which found held enqueued =>
      obtain ⟨_, _, rfl⟩ := enqueued_frame enqueued
      exact Or.inl set
  | send touchId item lead owner met mailbox ref sendable queued vouched planned =>
      obtain ⟨_, _, _, rfl⟩ := planned_frame planned
      exact Or.inl set
  | settle taskId actor finished note task item which found pending touch counted =>
      obtain ⟨_, rfl⟩ := counted_frame counted
      exact Or.inl set
  | suppress address scope reason idle enqueued =>
      obtain ⟨_, _, rfl⟩ := enqueued_frame enqueued
      exact Or.inl set
  | halt other actor flag which enqueued =>
      obtain ⟨_, _, rfl⟩ := enqueued_frame enqueued
      change Function.update l.flags other _ scope ≠ none ∨ _
      by_cases same : scope = other
      · subst same
        rw [Function.update_self]
        exact Or.inl nofun
      · rw [Function.update_of_ne same]
        exact Or.inl set
  | notify address hash receiptId hashed buried enqueued =>
      obtain ⟨_, _, rfl⟩ := enqueued_frame enqueued
      exact Or.inl set
  | resume other actor which human =>
      change Function.update l.flags other none scope ≠ none ∨ _
      by_cases same : scope = other
      · subst same
        exact Or.inr ⟨actor, which, human⟩
      · rw [Function.update_of_ne same]
        exact Or.inl set
  | _ => exact Or.inl set

theorem flag_of_path (path : Relation.ReflTransGen (Deed site vouch op start) l after)
    {scope : String} (set : l.flags scope ≠ none)
    (unresumed : ∀ actor, op = .resume scope actor →
      humanActorPrefix.toList.isPrefixOf actor.toList = false) : after.flags scope ≠ none := by
  induction path with
  | refl => exact set
  | tail _ deed induction =>
      rcases flag_of_deed deed induction with kept | ⟨actor, which, human⟩
      · exact kept
      · rw [unresumed actor which] at human
        cases human

end Flags

section People

/-- What changes a prospect. -/
inductive ProspectStep (site : Deployment) (vouch : Mark → Ledger → Prop) (op : Op) (id : Uuid)
    (old : Prospect) : Prospect → Prop where
  | move (target : ProspectState) (alive : target ≠ .forgotten) (stable : target ≠ .qualified)
      (edges : Relation.ReflTransGen ProspectState.Edge old.state target) :
      ProspectStep site vouch op id old { old with state := target }
  | address (address : String) (bucket : ConfidenceBucket) (which : op.works .enrich id)
      (fresh : old.state = .discovered)
      (vouched : ∃ seen : Ledger, vouch (.attach id address) seen ∧ seen.prospects id = some old) :
      ProspectStep site vouch op id old (old.addressed site.platform address bucket)
  | erase (ref : ForgetRef) (which : op = .forget ref) :
      ProspectStep site vouch op id old old.erased

/-- A prospect as it is taken in. -/
structure TakenIn (site : Deployment) (vouch : Mark → Ledger → Prop) (op : Op)
    (start : Ledger) (lead : Prospect) (runtime : TenantRuntime) : Prop where
  discovers : op.discovers
  known : ∃ name, (name, runtime) ∈ site.runtimes
  tenant : lead.tenantId = runtime.tenantId
  state : lead.state = .discovered
  unresolved : lead.emailCanonical = none
  screened : ∀ raw, nonEmpty lead.emailRaw = some raw → ∃ canonical hash seen,
    canonicalize site.platform raw = .ok canonical ∧
    tombstoneHash site.platform canonical = .ok hash ∧ Later start seen ∧
    vouch (.isSuppressed canonical runtime.tenant) seen ∧
    ¬ seen.suppressed start.clock canonical runtime.tenant hash

theorem prospect_of_set {id other : Uuid} {lead new : Prospect}
    (present : (l.setProspect id lead).prospects other = some new) :
    l.prospects other = some new ∨ other = id ∧ new = lead := by
  change Function.update l.prospects id (some lead) other = some new at present
  by_cases same : other = id
  · subst same
    rw [Function.update_self] at present
    exact Or.inr ⟨rfl, (Option.some.inj present).symm⟩
  · rw [Function.update_of_ne same] at present
    exact Or.inl present

/-- A prospect after a deed: it is as it was, or new, or has taken one step. -/
theorem prospect_of_deed (deed : Deed site vouch op start l after) {id : Uuid} {new : Prospect}
    (present : after.prospects id = some new) :
    l.prospects id = some new ∨
      (l.prospects id = none ∧ ∃ runtime, TakenIn site vouch op start new runtime) ∨
      ∃ old, l.prospects id = some old ∧ ProspectStep site vouch op id old new := by
  cases deed with
  | enqueue queue payload key delay plain orders enqueued =>
      obtain ⟨_, _, rfl⟩ := enqueued_frame enqueued
      exact Or.inl present
  | trigger eventId prospectId which seen since lead found state enqueued =>
      obtain ⟨_, _, rfl⟩ := enqueued_frame enqueued
      exact Or.inl present
  | draft touchId item inserted drafting met enqueued =>
      obtain ⟨_, _, rfl⟩ := enqueued_frame enqueued
      exact Or.inl present
  | approve touchId actor item which found held enqueued =>
      obtain ⟨_, _, rfl⟩ := enqueued_frame enqueued
      exact Or.inl present
  | send touchId item lead owner met mailbox ref sendable queued vouched planned =>
      obtain ⟨_, _, _, rfl⟩ := planned_frame planned
      cases met with
      | false => exact Or.inl present
      | true =>
          have set : (l.setProspect item.prospectId { lead with state := .contacted }).prospects id =
              some new := present
          rcases prospect_of_set set with same | ⟨rfl, rfl⟩
          · exact Or.inl same
          · refine Or.inr (Or.inr ⟨lead, sendable.prospect, .move .contacted nofun nofun (.single ?_)⟩)
            rw [queued rfl]
            decide
  | settle taskId actor finished note task item which found pending touch counted =>
      obtain ⟨_, rfl⟩ := counted_frame counted
      exact Or.inl present
  | transition prospectId target lead found edge plain =>
      rcases prospect_of_set present with same | ⟨rfl, rfl⟩
      · exact Or.inl same
      · refine Or.inr (Or.inr ⟨lead, found, .move target ?_ ?_ (.single edge)⟩)
        all_goals
          rintro rfl
          cases plain
  | enrich prospectId lead row facts which found fresh outcome theirs =>
      have set : (l.setProspect prospectId row).prospects id = some new := present
      rcases prospect_of_set set with same | ⟨rfl, rfl⟩
      · exact Or.inl same
      · refine Or.inr (Or.inr ⟨lead, found, ?_⟩)
        rcases outcome with rfl | ⟨address, bucket, rfl, seen, vouched, shown⟩ | ⟨_, _, _, rfl⟩
        · apply ProspectStep.move .unenrichable nofun nofun
          rw [fresh]
          exact .single (by decide)
        · exact .address address bucket which fresh ⟨seen, vouched, shown.trans found⟩
        · apply ProspectStep.move .enriched nofun nofun
          rw [fresh]
          exact .single (by decide)
  | qualify prospectId lead which found ready =>
      rcases prospect_of_set present with same | ⟨rfl, rfl⟩
      · exact Or.inl same
      · refine Or.inr (Or.inr ⟨lead, found, .move .queued nofun nofun ?_⟩)
        rw [ready]
        exact .tail (.single (show ProspectState.Edge .enriched .qualified by decide))
          (show ProspectState.Edge .qualified .queued by decide)
  | forget ref ids leads owners touches replies facts which erased =>
      change changed l.prospects leads _ id = some new at present
      unfold changed at present
      by_cases gone : leads id = true
      · rw [if_pos gone] at present
        obtain ⟨lead, found, rfl⟩ := Option.map_eq_some_iff.1 present
        exact Or.inr (Or.inr ⟨lead, found, .erase ref which⟩)
      · rw [if_neg gone] at present
        exact Or.inl present
  | prospect prospectId lead runtime discovers known tenant absent state unresolved owner screened =>
      rcases prospect_of_set present with same | ⟨rfl, rfl⟩
      · exact Or.inl same
      · exact Or.inr (Or.inl ⟨absent, runtime,
          ⟨discovers, known, tenant, state, unresolved, screened⟩⟩)
  | suppress address scope reason idle enqueued =>
      obtain ⟨_, _, rfl⟩ := enqueued_frame enqueued
      exact Or.inl present
  | halt scope actor flag which enqueued =>
      obtain ⟨_, _, rfl⟩ := enqueued_frame enqueued
      exact Or.inl present
  | notify address hash receiptId hashed buried enqueued =>
      obtain ⟨_, _, rfl⟩ := enqueued_frame enqueued
      exact Or.inl present
  | _ => exact Or.inl present

end People

section Replies

/-- What changes a reply. -/
inductive ReplyStep (op : Op) (id : Uuid) (old : Reply) : Reply → Prop where
  | judge (intent : Intent) (confidence : Rat) (turn : op.classifies id) :
      ReplyStep op id old { old with intent := some intent, confidence := some confidence }
  | exchange (first : old.agenticExchanges = 0) :
      ReplyStep op id old { old with agenticExchanges := old.agenticExchanges + 1 }
  | erase (ref : ForgetRef) (which : op = .forget ref) : ReplyStep op id old old.erased

theorem reply_of_set {id other : Uuid} {reply new : Reply}
    (present : (l.setReply id reply).replies other = some new) :
    l.replies other = some new ∨ other = id ∧ new = reply := by
  change Function.update l.replies id (some reply) other = some new at present
  by_cases same : other = id
  · subst same
    rw [Function.update_self] at present
    exact Or.inr ⟨rfl, (Option.some.inj present).symm⟩
  · rw [Function.update_of_ne same] at present
    exact Or.inl present

/-- A reply after a deed: it is as it was, or answers a touch, or has taken one step. -/
theorem reply_of_deed (deed : Deed site vouch op start l after) {id : Uuid} {new : Reply}
    (present : after.replies id = some new) :
    l.replies id = some new ∨
      (l.replies id = none ∧ new.intent = none ∧ ∃ item, l.touches new.touchId = some item ∧
        new.prospectId = item.prospectId) ∨
      ∃ old, l.replies id = some old ∧ ReplyStep op id old new := by
  cases deed with
  | enqueue queue payload key delay plain orders enqueued =>
      obtain ⟨_, _, rfl⟩ := enqueued_frame enqueued
      exact Or.inl present
  | trigger eventId prospectId which seen since lead found state enqueued =>
      obtain ⟨_, _, rfl⟩ := enqueued_frame enqueued
      exact Or.inl present
  | draft touchId item inserted drafting met enqueued =>
      obtain ⟨_, _, rfl⟩ := enqueued_frame enqueued
      exact Or.inl present
  | approve touchId actor item which found held enqueued =>
      obtain ⟨_, _, rfl⟩ := enqueued_frame enqueued
      exact Or.inl present
  | send touchId item lead owner met mailbox ref sendable queued vouched planned =>
      obtain ⟨_, _, _, rfl⟩ := planned_frame planned
      exact Or.inl present
  | settle taskId actor finished note task item which found pending touch counted =>
      obtain ⟨_, rfl⟩ := counted_frame counted
      exact Or.inl present
  | answer replyId reply events which absent item touch theirs unread =>
      rcases reply_of_set present with same | ⟨rfl, rfl⟩
      · exact Or.inl same
      · exact Or.inr (Or.inl ⟨absent, unread, item, touch, theirs⟩)
  | judge replyId reply intent confidence turn found =>
      rcases reply_of_set present with same | ⟨rfl, rfl⟩
      · exact Or.inl same
      · exact Or.inr (Or.inr ⟨reply, found, .judge intent confidence turn⟩)
  | exchange replyId reply found first =>
      rcases reply_of_set present with same | ⟨rfl, rfl⟩
      · exact Or.inl same
      · exact Or.inr (Or.inr ⟨reply, found, .exchange first⟩)
  | forget ref ids leads owners touches replies facts which erased =>
      change changed l.replies replies _ id = some new at present
      unfold changed at present
      by_cases gone : replies id = true
      · rw [if_pos gone] at present
        obtain ⟨reply, found, rfl⟩ := Option.map_eq_some_iff.1 present
        exact Or.inr (Or.inr ⟨reply, found, .erase ref which⟩)
      · rw [if_neg gone] at present
        exact Or.inl present
  | suppress address scope reason idle enqueued =>
      obtain ⟨_, _, rfl⟩ := enqueued_frame enqueued
      exact Or.inl present
  | halt scope actor flag which enqueued =>
      obtain ⟨_, _, rfl⟩ := enqueued_frame enqueued
      exact Or.inl present
  | notify address hash receiptId hashed buried enqueued =>
      obtain ⟨_, _, rfl⟩ := enqueued_frame enqueued
      exact Or.inl present
  | _ => exact Or.inl present

end Replies

section Proposals

/-- What changes a proposal. -/
inductive ProposalStep (vouch : Mark → Ledger → Prop) (op : Op) (time : Time) (id : Uuid)
    (old : ProposalRow) : ProposalRow → Prop where
  | approve (actor : String) (which : op.approves)
      (vouched : ∃ seen : Ledger, vouch (.approve id) seen ∧ seen.proposals id = some old) :
      ProposalStep vouch op time id old (old.settled .approved time actor)
  | decline (actor note : String) (which : op = .declineProposal id actor note)
      (opened : old.status = .opened) :
      ProposalStep vouch op time id old (old.settled .declined time actor)

theorem proposal_of_set {id other : Uuid} {proposal new : ProposalRow}
    (present : (l.setProposal id proposal).proposals other = some new) :
    l.proposals other = some new ∨ other = id ∧ new = proposal := by
  change Function.update l.proposals id (some proposal) other = some new at present
  by_cases same : other = id
  · subst same
    rw [Function.update_self] at present
    exact Or.inr ⟨rfl, (Option.some.inj present).symm⟩
  · rw [Function.update_of_ne same] at present
    exact Or.inl present

/-- A proposal after a deed: it is as it was, or new and open, or decided. -/
theorem proposal_of_deed (deed : Deed site vouch op start l after) {id : Uuid} {new : ProposalRow}
    (present : after.proposals id = some new) :
    l.proposals id = some new ∨
      (l.proposals id = none ∧ new.status = .opened ∧ op.files start.clock new) ∨
      ∃ old, l.proposals id = some old ∧ ProposalStep vouch op start.clock id old new := by
  cases deed with
  | enqueue queue payload key delay plain orders enqueued =>
      obtain ⟨_, _, rfl⟩ := enqueued_frame enqueued
      exact Or.inl present
  | trigger eventId prospectId which seen since lead found state enqueued =>
      obtain ⟨_, _, rfl⟩ := enqueued_frame enqueued
      exact Or.inl present
  | draft touchId item inserted drafting met enqueued =>
      obtain ⟨_, _, rfl⟩ := enqueued_frame enqueued
      exact Or.inl present
  | approve touchId actor item which found held enqueued =>
      obtain ⟨_, _, rfl⟩ := enqueued_frame enqueued
      exact Or.inl present
  | send touchId item lead owner met mailbox ref sendable queued vouched planned =>
      obtain ⟨_, _, _, rfl⟩ := planned_frame planned
      exact Or.inl present
  | settle taskId actor finished note task item which found pending touch counted =>
      obtain ⟨_, rfl⟩ := counted_frame counted
      exact Or.inl present
  | suppress address scope reason idle enqueued =>
      obtain ⟨_, _, rfl⟩ := enqueued_frame enqueued
      exact Or.inl present
  | halt scope actor flag which enqueued =>
      obtain ⟨_, _, rfl⟩ := enqueued_frame enqueued
      exact Or.inl present
  | notify address hash receiptId hashed buried enqueued =>
      obtain ⟨_, _, rfl⟩ := enqueued_frame enqueued
      exact Or.inl present
  | file proposalId proposal which absent opened =>
      rcases proposal_of_set present with same | ⟨rfl, rfl⟩
      · exact Or.inl same
      · exact Or.inr (Or.inl ⟨absent, opened, which⟩)
  | grant proposalId proposal actor which found vouched =>
      rcases proposal_of_set present with same | ⟨rfl, rfl⟩
      · exact Or.inl same
      · obtain ⟨seen, vouched, shown⟩ := vouched
        exact Or.inr (Or.inr ⟨proposal, found,
          .approve actor which ⟨seen, vouched, shown.trans found⟩⟩)
  | decline proposalId proposal actor note which found opened =>
      rcases proposal_of_set present with same | ⟨rfl, rfl⟩
      · exact Or.inl same
      · exact Or.inr (Or.inr ⟨proposal, found, .decline actor note which opened⟩)
  | _ => exact Or.inl present

end Proposals

section Touches

/-- What a delivery makes of its touch. -/
def Touch.delivered (item : Touch) (time : Time) (mailbox : String) (ref : Payload) : Touch :=
  { item with
    status := .dispatched, claimedAt := some time, mailbox := some mailbox
    sentAt := some time, providerRef := some ref }

/-- A task that nobody has to do any more. -/
def Closed (l : Ledger) (taskId : Uuid) : Prop :=
  ∀ task, l.tasks taskId = some task → task.status ≠ .pending

/-- What changes a touch. -/
inductive TouchStep (vouch : Mark → Ledger → Prop) (op : Op) (start l after : Ledger) (id : Uuid)
    (old : Touch) : Touch → Prop where
  | approve (actor : String) (which : op = .approvePending id actor)
      (held : old.status = .pendingReview) (queued : after.jobIndex (.deliver id) ≠ none) :
      TouchStep vouch op start l after id old { old with status := .drafted }
  | reject (actor note : String) (which : op = .rejectPending id actor note)
      (held : old.status = .pendingReview) :
      TouchStep vouch op start l after id old { old with status := .released }
  | refuse (which : op.delivers id)
      (vouched : ∃ seen : Ledger, vouch (.terminalRefusal id) seen ∧
        seen.touches id = some old) :
      TouchStep vouch op start l after id old { old with status := .released }
  | send (lead : Prospect) (owner : Entity) (mailbox : String) (ref : Payload)
      (sendable : Sendable op l id old lead owner)
      (vouched : ∃ seen : Ledger, vouch (.persistClaim id) seen) :
      TouchStep vouch op start l after id old (old.delivered start.clock mailbox ref)
  | webhook (out : old.status = .dispatched) :
      TouchStep vouch op start l after id old { old with status := .sent }
  | settle (taskId : Uuid) (actor note : String) (finished : Bool) (task : HumanTask)
      (which : op = .resolveTask taskId actor finished note) (found : l.tasks taskId = some task)
      (pending : task.status = .pending) (mine : task.touchId = id)
      (closed : Closed after taskId) :
      TouchStep vouch op start l after id old (old.settled start.clock finished)
  | lapse (taskId : Uuid) (task : HumanTask) (which : op = .expireTasks)
      (found : l.tasks taskId = some task) (pending : task.status = .pending)
      (mine : task.touchId = id) (closed : Closed after taskId) :
      TouchStep vouch op start l after id old { old with status := .released }
  | erase (ref : ForgetRef) (which : op = .forget ref) :
      TouchStep vouch op start l after id old old.erased

/-- A touch that is inserted by the deed of the operation. -/
inductive Touch.Inserted (op : Op) (start after : Ledger) (id : Uuid) (item : Touch) : Prop where
  | held (status : item.status = .pendingReview) (drafting : Drafting op start item)
      (met : after.Met item.prospectId)
  | drafted (status : item.status = .drafted) (drafting : Drafting op start item)
      (queued : after.jobIndex (.deliver id) ≠ none) (met : after.Met item.prospectId)
  | parked (status : item.status = .pendingHuman) (kind : item.kind = .humanTask)
      (met : after.Met item.prospectId)

theorem touch_of_set {id other : Uuid} {item new : Touch}
    (present : (l.setTouch id item).touches other = some new) :
    l.touches other = some new ∨ other = id ∧ new = item := by
  change Function.update l.touches id (some item) other = some new at present
  by_cases same : other = id
  · subst same
    rw [Function.update_self] at present
    exact Or.inr ⟨rfl, (Option.some.inj present).symm⟩
  · rw [Function.update_of_ne same] at present
    exact Or.inl present

/-- A row after a deed: it is as it was, or new, or has taken one step. -/
theorem touch_of_deed (deed : Deed site vouch op start l after) {id : Uuid} {new : Touch}
    (present : after.touches id = some new) :
    l.touches id = some new ∨ (l.touches id = none ∧ new.Inserted op start after id) ∨
      ∃ old, l.touches id = some old ∧ TouchStep vouch op start l after id old new := by
  cases deed with
  | enqueue queue payload key delay plain orders enqueued =>
      obtain ⟨_, _, rfl⟩ := enqueued_frame enqueued
      exact Or.inl present
  | trigger eventId prospectId which seen since lead found state enqueued =>
      obtain ⟨_, _, rfl⟩ := enqueued_frame enqueued
      exact Or.inl present
  | hold touchId item inserted drafting step met =>
      rcases touch_of_set present with same | ⟨rfl, rfl⟩
      · exact Or.inl same
      · exact Or.inr (Or.inl ⟨inserted.absent, .held inserted.status drafting (met.keep rfl rfl)⟩)
  | draft touchId item inserted drafting met enqueued =>
      have queued := enqueued_index enqueued
      obtain ⟨_, _, rfl⟩ := enqueued_frame enqueued
      rcases touch_of_set present with same | ⟨rfl, rfl⟩
      · exact Or.inl same
      · exact Or.inr (Or.inl ⟨inserted.absent, .drafted inserted.status drafting queued (met.keep rfl rfl)⟩)
  | park touchId taskId item task inserted kind untasked pending mine theirs met =>
      have set : (l.setTouch touchId item).touches id = some new := present
      rcases touch_of_set set with same | ⟨rfl, rfl⟩
      · exact Or.inl same
      · exact Or.inr (Or.inl ⟨inserted.absent, .parked inserted.status kind (met.keep rfl rfl)⟩)
  | approve touchId actor item which found held enqueued =>
      have queued := enqueued_index enqueued
      obtain ⟨_, _, rfl⟩ := enqueued_frame enqueued
      rcases touch_of_set present with same | ⟨rfl, rfl⟩
      · exact Or.inl same
      · exact Or.inr (Or.inr ⟨item, found, .approve actor which held queued⟩)
  | reject touchId actor note item which found held =>
      rcases touch_of_set present with same | ⟨rfl, rfl⟩
      · exact Or.inl same
      · exact Or.inr (Or.inr ⟨item, found, .reject actor note which held⟩)
  | refuse touchId item which found vouched =>
      rcases touch_of_set present with same | ⟨rfl, rfl⟩
      · exact Or.inl same
      · obtain ⟨seen, vouched, shown⟩ := vouched
        exact Or.inr (Or.inr ⟨item, found, .refuse which ⟨seen, vouched, shown.trans found⟩⟩)
  | send touchId item lead owner met mailbox ref sendable queued vouched planned =>
      obtain ⟨_, _, _, rfl⟩ := planned_frame planned
      have set : (l.setTouch touchId (item.delivered start.clock mailbox ref)).touches id =
          some new := present
      rcases touch_of_set set with same | ⟨rfl, rfl⟩
      · exact Or.inl same
      · exact Or.inr (Or.inr ⟨item, sendable.touch, .send lead owner mailbox ref sendable vouched⟩)
  | webhook touchId item found out =>
      rcases touch_of_set present with same | ⟨rfl, rfl⟩
      · exact Or.inl same
      · exact Or.inr (Or.inr ⟨item, found, .webhook out⟩)
  | settle taskId actor finished note task item which found pending touch counted =>
      have closed : Closed after taskId := by
        obtain ⟨_, rfl⟩ := counted_frame counted
        intro settled found
        change Function.update l.tasks taskId _ taskId = some settled at found
        rw [Function.update_self] at found
        obtain rfl := Option.some.inj found
        cases finished <;> nofun
      obtain ⟨_, rfl⟩ := counted_frame counted
      have set : (l.setTouch task.touchId (item.settled start.clock finished)).touches id =
          some new := present
      rcases touch_of_set set with same | ⟨rfl, rfl⟩
      · exact Or.inl same
      · exact Or.inr (Or.inr ⟨item, touch,
          .settle taskId actor note finished task which found pending rfl closed⟩)
  | expire chosen overdue which pending theirs =>
      change changed l.touches overdue _ id = some new at present
      unfold changed at present
      by_cases ended : overdue id = true
      · rw [if_pos ended] at present
        obtain ⟨item, found, rfl⟩ := Option.map_eq_some_iff.1 present
        obtain ⟨taskId, task, picked, there, mine⟩ := theirs id ended
        have closed : Closed ((l.closed start.clock chosen).lapsed overdue) taskId := by
          intro lapsed shown
          change changed l.tasks chosen _ taskId = some lapsed at shown
          unfold changed at shown
          rw [if_pos picked, there] at shown
          obtain rfl := Option.some.inj shown
          nofun
        exact Or.inr (Or.inr ⟨item, found,
          .lapse taskId task which there (pending taskId task picked there) mine closed⟩)
      · rw [if_neg ended] at present
        exact Or.inl present
  | forget ref ids leads owners touches replies facts which erased =>
      change changed l.touches touches _ id = some new at present
      unfold changed at present
      by_cases gone : touches id = true
      · rw [if_pos gone] at present
        obtain ⟨item, found, rfl⟩ := Option.map_eq_some_iff.1 present
        exact Or.inr (Or.inr ⟨item, found, .erase ref which⟩)
      · rw [if_neg gone] at present
        exact Or.inl present
  | suppress address scope reason idle enqueued =>
      obtain ⟨_, _, rfl⟩ := enqueued_frame enqueued
      exact Or.inl present
  | halt scope actor flag which enqueued =>
      obtain ⟨_, _, rfl⟩ := enqueued_frame enqueued
      exact Or.inl present
  | notify address hash receiptId hashed buried enqueued =>
      obtain ⟨_, _, rfl⟩ := enqueued_frame enqueued
      exact Or.inl present
  | _ => exact Or.inl present

end Touches

section Tasks

/-- A task that is created, with the touch that waits for it. -/
structure NewTask (l after : Ledger) (id : Uuid) (task : HumanTask) : Prop where
  unused : l.tasks id = none
  absent : l.touches task.touchId = none
  waiting : ∃ item, after.touches task.touchId = some item ∧ item.status = .pendingHuman ∧
    item.prospectId = task.prospectId

/-- A pending task was pending before, or is new. -/
theorem task_of_deed (deed : Deed site vouch op start l after) {id : Uuid} {new : HumanTask}
    (present : after.tasks id = some new) (pending : new.status = .pending) :
    l.tasks id = some new ∨ NewTask l after id new ∧
      ∀ other second, after.tasks other = some second → other ≠ id →
        l.tasks other = some second := by
  cases deed with
  | enqueue queue payload key delay plain orders enqueued =>
      obtain ⟨_, _, rfl⟩ := enqueued_frame enqueued
      exact Or.inl present
  | trigger eventId prospectId which seen since lead found state enqueued =>
      obtain ⟨_, _, rfl⟩ := enqueued_frame enqueued
      exact Or.inl present
  | draft touchId item inserted drafting met enqueued =>
      obtain ⟨_, _, rfl⟩ := enqueued_frame enqueued
      exact Or.inl present
  | park touchId taskId item task inserted kind untasked waits mine theirs met =>
      change Function.update l.tasks taskId (some task) id = some new at present
      by_cases same : id = taskId
      · subst same
        rw [Function.update_self] at present
        obtain rfl := Option.some.inj present
        refine Or.inr ⟨⟨untasked, by rw [mine]; exact inserted.absent, item, ?_, inserted.status,
          theirs.symm⟩, ?_⟩
        · rw [mine]
          exact Function.update_self touchId _ _
        · intro other second found differ
          change Function.update l.tasks id (some task) other = some second at found
          rw [Function.update_of_ne differ] at found
          exact found
      · rw [Function.update_of_ne same] at present
        exact Or.inl present
  | approve touchId actor item which found held enqueued =>
      obtain ⟨_, _, rfl⟩ := enqueued_frame enqueued
      exact Or.inl present
  | send touchId item lead owner met mailbox ref sendable queued vouched planned =>
      obtain ⟨_, _, _, rfl⟩ := planned_frame planned
      exact Or.inl present
  | settle taskId actor finished note task item which found waits touch counted =>
      obtain ⟨_, rfl⟩ := counted_frame counted
      change Function.update l.tasks taskId _ id = some new at present
      by_cases same : id = taskId
      · subst same
        rw [Function.update_self] at present
        obtain rfl := Option.some.inj present
        cases finished <;> cases pending
      · rw [Function.update_of_ne same] at present
        exact Or.inl present
  | expire chosen overdue which waits theirs =>
      change changed l.tasks chosen _ id = some new at present
      unfold changed at present
      by_cases picked : chosen id = true
      · rw [if_pos picked] at present
        obtain ⟨task, found, rfl⟩ := Option.map_eq_some_iff.1 present
        cases pending
      · rw [if_neg picked] at present
        exact Or.inl present
  | suppress address scope reason idle enqueued =>
      obtain ⟨_, _, rfl⟩ := enqueued_frame enqueued
      exact Or.inl present
  | halt scope actor flag which enqueued =>
      obtain ⟨_, _, rfl⟩ := enqueued_frame enqueued
      exact Or.inl present
  | notify address hash receiptId hashed buried enqueued =>
      obtain ⟨_, _, rfl⟩ := enqueued_frame enqueued
      exact Or.inl present
  | _ => exact Or.inl present

end Tasks

end OpenReachout
