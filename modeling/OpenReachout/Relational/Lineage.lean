import OpenReachout.Relational.System

/-!
# Where transactions come from

What holds of everything that is started, and of what follows a transaction that it holds
of, holds of every transaction that a session is at and of every one that has committed.
-/

namespace Relational

set_option autoImplicit false

variable {Db Lock Exn Mark Query : Type} {Answer : Query → Type} [Lockable Db Lock]
variable [DecidableEq Lock] {Op Out : Type}
variable {service : Service Db Lock Exn Mark Query Answer Op Out}
variable {system after : System Db Lock Exn Mark Query Answer Op Out}

/-- All transactions are of the kind, those at work and those committed. -/
structure System.Only (kind : Op → Prop) (system : System Db Lock Exn Mark Query Answer Op Out) :
    Prop where
  working : ∀ index session, system.session index = some session → kind session.op
  logged : ∀ op ∈ system.log, kind op

/-- The kind is of what starts, and is inherited. -/
structure Service.Breeds (service : Service Db Lock Exn Mark Query Answer Op Out)
    (allowed : System Db Lock Exn Mark Query Answer Op Out → Action Query Answer Op → Prop)
    (kind : Op → Prop) : Prop where
  starts : ∀ system op, allowed system (.start op) → kind op
  follows : ∀ op outcome next, service.next op outcome = some next → kind op → kind next

section Steps

variable {kind : Op → Prop}

theorem only_put (only : system.Only kind) (index : Nat)
    (new : Option (Session Db Lock Exn Mark Query Answer Op Out))
    (fresh : ∀ session, new = some session → kind session.op) :
    (system.put index new).Only kind where
  working other session found := by
    rcases session_of_put found with ⟨_, same⟩ | ⟨_, made⟩
    · exact only.working other session same
    · exact fresh session made
  logged := only.logged

/-- A session that goes on with its transaction. -/
theorem only_going (only : system.Only kind) {index : Nat}
    {old : Session Db Lock Exn Mark Query Answer Op Out} (present : system.session index = some old)
    (program : Program Db Lock Exn Mark Query Answer Out) (txn : Txn Db Lock Mark Query) :
    (system.put index (some ⟨old.op, program, txn⟩)).Only kind := by
  refine only_put only index _ fun session made => ?_
  rw [← Option.some.inj made]
  exact only.working index old present

omit [DecidableEq Lock] in
/-- What follows a transaction is of its kind. -/
theorem kind_of_next {allowed : System Db Lock Exn Mark Query Answer Op Out →
      Action Query Answer Op → Prop} (breeds : service.Breeds allowed kind) {op : Op}
    {outcome : Except Exn Out} {db : Db} (mine : kind op)
    {session : Session Db Lock Exn Mark Query Answer Op Out}
    (made : (service.next op outcome).map (fun op => service.opened op db) = some session) :
    kind session.op := by
  obtain ⟨next, follows, rfl⟩ := Option.map_eq_some_iff.1 made
  exact breeds.follows op outcome next follows mine

theorem only_act {allowed : System Db Lock Exn Mark Query Answer Op Out →
      Action Query Answer Op → Prop} (breeds : service.Breeds allowed kind)
    (only : system.Only kind) {action : Action Query Answer Op} (permitted : allowed system action)
    (step : service.act action system = some after) : after.Only kind := by
  cases action with
  | start op =>
      simp only [Service.act, Option.ite_none_right_eq_some, Option.some.injEq] at step
      obtain ⟨_, rfl⟩ := step
      refine ⟨fun index session found => ?_, only.logged⟩
      simp only [System.session, List.getElem?_append] at found
      split_ifs at found with inside
      · exact only.working index session found
      · cases gap : index - system.sessions.length with
        | zero =>
            rw [gap] at found
            obtain rfl := Option.some.inj found
            exact breeds.starts system op permitted
        | succ count =>
            rw [gap] at found
            cases found
  | advance ticks =>
      simp only [Service.act, Option.some.injEq] at step
      subst step
      exact ⟨only.working, only.logged⟩
  | finish at_ =>
      simp only [Service.act] at step
      split at step
      case h_3 => exact absurd step (by simp)
      case h_1 op out txn present =>
        have mine : kind op := only.working at_ _ present
        split_ifs at step with failed
        · obtain rfl := Option.some.inj step
          exact only_put only at_ _ fun _ made => kind_of_next breeds mine made
        · obtain rfl := Option.some.inj step
          have put := only_put only at_ ((service.next op (.ok out)).map fun op =>
            service.opened op (txn.view system.committed)) fun _ made =>
              kind_of_next breeds mine made
          refine ⟨put.working, fun other member => ?_⟩
          rcases List.mem_append.1 member with earlier | last
          · exact only.logged other earlier
          · rw [List.mem_singleton.1 last]
            exact mine
      case h_2 op error txn present =>
        obtain rfl := Option.some.inj step
        exact only_put only at_ _ fun _ made =>
          kind_of_next breeds (only.working at_ _ present) made
  | run at_ =>
      simp only [Service.act] at step
      split at step
      case h_2 => exact absurd step (by simp)
      case h_1 op Result mark body next txn present =>
        split_ifs at step with failed
        · obtain rfl := Option.some.inj step
          exact only_going only present _ _
        · split at step
          · obtain rfl := Option.some.inj step
            exact only_going only present _ _
          · split_ifs at step with waits
            obtain rfl := Option.some.inj step
            exact only_going only present _ _
  | fault at_ =>
      simp only [Service.act] at step
      split at step
      case h_2 => exact absurd step (by simp)
      case h_1 op Result mark body next txn present =>
        obtain rfl := Option.some.inj step
        exact only_going only present _ _
  | answer at_ reply =>
      simp only [Service.act] at step
      split at step
      case h_2 => exact absurd step (by simp)
      case h_1 op query next txn present =>
        obtain rfl := Option.some.inj step
        have put := only_going only present (next (reply query)) (txn.asked query)
        exact ⟨put.working, put.logged⟩
  | crash at_ =>
      simp only [Service.act] at step
      split at step
      case h_2 => exact absurd step (by simp)
      case h_1 old present =>
        obtain rfl := Option.some.inj step
        exact only_put only at_ none fun _ made => absurd made (by simp)

theorem only_run {allowed : System Db Lock Exn Mark Query Answer Op Out →
      Action Query Answer Op → Prop} (breeds : service.Breeds allowed kind)
    (only : system.Only kind)
    (run : Relation.ReflTransGen (service.Step allowed) system after) : after.Only kind := by
  induction run with
  | refl => exact only
  | tail _ step induction =>
      obtain ⟨action, permitted, step⟩ := step
      exact only_act breeds induction permitted step

omit [DecidableEq Lock] in
theorem only_quiet (quiet : system.sessions = []) (logged : ∀ op ∈ system.log, kind op) :
    system.Only kind where
  working index session found := by
    rw [System.session_of_quiet quiet] at found
    cases found
  logged := logged

end Steps

end Relational
