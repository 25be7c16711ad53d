import OpenReachout.Relational.Program

/-!
# Concurrent sessions

Any number of sessions run transactions against one store. A session executes
one statement at a time; a statement that needs a row locked by another session
waits. The outcome of a transaction decides which transaction the session runs
next, and a session can vanish at any point. `act` is the executable step;
`invariant_of_steps` is the rule for everything that holds in every run.
-/

namespace Relational

set_option autoImplicit false

/-- The transactions of a service. `entry` are those started from outside,
`next` is what a session does after one has ended. -/
structure Service (Db Lock Exn Mark Query : Type) (Answer : Query → Type) [Lockable Db Lock]
    (Op Out : Type) where
  program : Op → Program Db Lock Exn Mark Query Answer Out
  next : Op → Except Exn Out → Option Op
  entry : Op → Bool
  /-- the error of a statement the store could not execute -/
  fault : Exn
  advance : Nat → Db → Db
  advance_cell : ∀ ticks db lock,
    Lockable.cell lock (advance ticks db) = Lockable.cell lock db

structure Session (Db Lock Exn Mark Query : Type) (Answer : Query → Type) [Lockable Db Lock]
    (Op Out : Type) where
  op : Op
  program : Program Db Lock Exn Mark Query Answer Out
  txn : Txn Db Lock Mark Query

/-- `log` lists the transactions committed so far and `calls` the calls made so
far, whether or not their transaction committed. -/
structure System (Db Lock Exn Mark Query : Type) (Answer : Query → Type) [Lockable Db Lock]
    (Op Out : Type) where
  committed : Db
  sessions : List (Option (Session Db Lock Exn Mark Query Answer Op Out)) := []
  log : List Op := []
  calls : List Query := []

inductive Action (Query : Type) (Answer : Query → Type) (Op : Type) where
  | start (op : Op)
  | run (index : Nat)
  | fault (index : Nat)
  | answer (index : Nat) (reply : (query : Query) → Answer query)
  | finish (index : Nat)
  | crash (index : Nat)
  | advance (ticks : Nat)

variable {Db Lock Exn Mark Query : Type} {Answer : Query → Type} [Lockable Db Lock]
variable {Op Out : Type}

namespace System

def session (system : System Db Lock Exn Mark Query Answer Op Out) (index : Nat) :
    Option (Session Db Lock Exn Mark Query Answer Op Out) :=
  (system.sessions[index]?).join

def put (system : System Db Lock Exn Mark Query Answer Op Out) (index : Nat)
    (session : Option (Session Db Lock Exn Mark Query Answer Op Out)) :
    System Db Lock Exn Mark Query Answer Op Out :=
  { system with sessions := system.sessions.set index session }

theorem session_inside {system : System Db Lock Exn Mark Query Answer Op Out} {index : Nat}
    {session : Session Db Lock Exn Mark Query Answer Op Out}
    (present : system.session index = some session) : index < system.sessions.length := by
  by_contra outside
  simp [System.session, List.getElem?_eq_none (Nat.not_lt.1 outside)] at present

theorem session_put (system : System Db Lock Exn Mark Query Answer Op Out) {index : Nat}
    (inside : index < system.sessions.length)
    (new : Option (Session Db Lock Exn Mark Query Answer Op Out)) (other : Nat) :
    (system.put index new).session other = if other = index then new else system.session other := by
  simp only [session, put, List.getElem?_set]
  by_cases same : other = index
  · subst same
    simp [inside]
  · simp [same, Ne.symm same]

theorem session_of_quiet {system : System Db Lock Exn Mark Query Answer Op Out}
    (quiet : system.sessions = []) (index : Nat) : system.session index = none := by
  simp [session, quiet]

variable [DecidableEq Lock]

/-- Rows locked by sessions other than `index`. -/
def busy (system : System Db Lock Exn Mark Query Answer Op Out) (index : Nat) (lock : Lock) :
    Bool :=
  system.sessions.zipIdx.any fun entry =>
    entry.2 ≠ index && entry.1.any fun session => (session.txn.held.map Prod.fst).contains lock

theorem busy_iff (system : System Db Lock Exn Mark Query Answer Op Out) (index : Nat)
    (lock : Lock) :
    system.busy index lock = true ↔
      ∃ other session, other ≠ index ∧ system.session other = some session ∧
        lock ∈ session.txn.held.map Prod.fst := by
  simp only [busy, List.any_eq_true, List.mem_zipIdx_iff_getElem?, Bool.and_eq_true,
    decide_eq_true_eq, Option.any_eq_true, List.contains_iff_mem, Prod.exists, System.session,
    Option.join_eq_some_iff]
  constructor
  · rintro ⟨_, other, present, differ, session, rfl, member⟩
    exact ⟨other, session, differ, present, member⟩
  · rintro ⟨other, session, differ, present, member⟩
    exact ⟨_, other, present, differ, session, rfl, member⟩

end System

namespace Service

variable [DecidableEq Lock]
variable (service : Service Db Lock Exn Mark Query Answer Op Out)

/-- A session about to execute the first statement of `op`. -/
def opened (op : Op) (db : Db) : Session Db Lock Exn Mark Query Answer Op Out :=
  ⟨op, service.program op, { start := db }⟩

def act : Action Query Answer Op → System Db Lock Exn Mark Query Answer Op Out →
    Option (System Db Lock Exn Mark Query Answer Op Out)
  | .start op, system =>
      if service.entry op then
        some { system with
          sessions := system.sessions ++ [some (service.opened op system.committed)] }
      else none
  | .run index, system =>
      match system.session index with
      | some ⟨op, .statement mark body next, txn⟩ =>
          if txn.failed then
            some (system.put index (some ⟨op, next (.error service.fault), txn.fail⟩))
          else match body ⟨txn.start, system.busy index⟩ (txn.view system.committed) with
            | .error error => some (system.put index (some ⟨op, next (.error error), txn.fail⟩))
            | .ok effect =>
                if effect.locks.any (system.busy index) then none
                else some (system.put index
                  (some ⟨op, next (.ok effect.value), txn.record mark effect system.committed⟩))
      | _ => none
  | .fault index, system =>
      match system.session index with
      | some ⟨op, .statement _ _ next, txn⟩ =>
          some (system.put index (some ⟨op, next (.error service.fault), txn.fail⟩))
      | _ => none
  | .answer index reply, system =>
      match system.session index with
      | some ⟨op, .call query next, txn⟩ =>
          some { system.put index (some ⟨op, next (reply query), txn.asked query⟩) with
            calls := system.calls ++ [query] }
      | _ => none
  | .finish index, system =>
      match system.session index with
      | some ⟨op, .done out, txn⟩ =>
          -- the commit of a failed transaction is a rollback
          if txn.failed then
            some (system.put index
              ((service.next op (.ok out)).map fun op => service.opened op system.committed))
          else
            some { system.put index ((service.next op (.ok out)).map fun op =>
                service.opened op (txn.view system.committed)) with
              committed := txn.view system.committed
              log := system.log ++ [op] }
      | some ⟨op, .raise error, _⟩ =>
          some (system.put index
            ((service.next op (.error error)).map fun op => service.opened op system.committed))
      | _ => none
  | .crash index, system =>
      match system.session index with
      | some _ => some (system.put index none)
      | none => none
  | .advance ticks, system =>
      some { system with committed := service.advance ticks system.committed }

/-- What the session at `index` does next when nothing goes wrong. -/
def due (reply : (query : Query) → Answer query) (index : Nat)
    (system : System Db Lock Exn Mark Query Answer Op Out) : Action Query Answer Op :=
  match system.session index with
  | some ⟨_, .statement _ _ _, _⟩ => .run index
  | some ⟨_, .call _ _, _⟩ => .answer index reply
  | _ => .finish index

def drive (reply : (query : Query) → Answer query) (index : Nat) :
    Nat → System Db Lock Exn Mark Query Answer Op Out →
      Option (System Db Lock Exn Mark Query Answer Op Out)
  | 0, system => some system
  | count + 1, system =>
      (service.act (due reply index system) system).bind (drive reply index count)

/-- A script of single actions and of sessions left to run for a while. -/
def script : List (Action Query Answer Op ⊕ (((query : Query) → Answer query) × Nat × Nat)) →
    System Db Lock Exn Mark Query Answer Op Out →
      Option (System Db Lock Exn Mark Query Answer Op Out)
  | [], system => some system
  | .inl action :: rest, system => (service.act action system).bind (script rest)
  | .inr (reply, index, count) :: rest, system =>
      (service.drive reply index count system).bind (script rest)

/-- Steps that satisfy `allowed` in the state before them. -/
def Step (allowed : System Db Lock Exn Mark Query Answer Op Out → Action Query Answer Op → Prop)
    (before after : System Db Lock Exn Mark Query Answer Op Out) : Prop :=
  ∃ action, allowed before action ∧ service.act action before = some after

section Script

variable {allowed : System Db Lock Exn Mark Query Answer Op Out → Action Query Answer Op → Prop}
variable {before after : System Db Lock Exn Mark Query Answer Op Out}

theorem run_of_drive (free : ∀ system action, allowed system action)
    {reply : (query : Query) → Answer query} {index count : Nat}
    (driven : service.drive reply index count before = some after) :
    Relation.ReflTransGen (service.Step allowed) before after := by
  induction count generalizing before with
  | zero =>
      obtain rfl := Option.some.inj driven
      exact Relation.ReflTransGen.refl
  | succ count induction =>
      obtain ⟨middle, step, driven⟩ := Option.bind_eq_some_iff.1 driven
      exact Relation.ReflTransGen.head ⟨_, free before _, step⟩ (induction driven)

theorem run_of_script (free : ∀ system action, allowed system action)
    {moves : List (Action Query Answer Op ⊕ (((query : Query) → Answer query) × Nat × Nat))}
    (played : service.script moves before = some after) :
    Relation.ReflTransGen (service.Step allowed) before after := by
  induction moves generalizing before with
  | nil =>
      obtain rfl := Option.some.inj played
      exact Relation.ReflTransGen.refl
  | cons move rest induction =>
      cases move with
      | inl action =>
          obtain ⟨middle, step, played⟩ := Option.bind_eq_some_iff.1 played
          exact Relation.ReflTransGen.head ⟨action, free before action, step⟩ (induction played)
      | inr driving =>
          obtain ⟨reply, index, count⟩ := driving
          obtain ⟨middle, driven, played⟩ := Option.bind_eq_some_iff.1 played
          exact (run_of_drive service free driven).trans (induction played)

end Script

end Service

/-- Every partial execution of a program, statement by statement. -/
inductive Reach {Value : Type} (rely : Db → Db → Prop)
    (program : Program Db Lock Exn Mark Query Answer Value) (a : Point Db Lock Mark Query) :
    Program Db Lock Exn Mark Query Answer Value → Point Db Lock Mark Query → Prop where
  | refl : Reach rely program a program a
  | failed {Result : Type} {mark : Option Mark} {body : Statement Db Lock Exn Result}
      {next : Except Exn Result → Program Db Lock Exn Mark Query Answer Value}
      {b : Point Db Lock Mark Query} {db : Db} (error : Exn) :
      Reach rely program a (.statement mark body next) b → rely b.committed db →
      b.txn.Stable db → Reach rely program a (next (.error error)) ⟨db, b.txn.fail⟩
  | executed {Result : Type} {mark : Option Mark} {body : Statement Db Lock Exn Result}
      {next : Except Exn Result → Program Db Lock Exn Mark Query Answer Value}
      {b : Point Db Lock Mark Query} {db : Db} {busy : Lock → Bool}
      {effect : Effect Db Lock Result} :
      Reach rely program a (.statement mark body next) b → rely b.committed db →
      b.txn.Stable db → b.txn.failed = false →
      body ⟨b.txn.start, busy⟩ (b.txn.view db) = .ok effect →
      Reach rely program a (next (.ok effect.value)) ⟨db, b.txn.record mark effect db⟩
  | answered {query : Query}
      {next : Answer query → Program Db Lock Exn Mark Query Answer Value}
      {b : Point Db Lock Mark Query} (answer : Answer query) :
      Reach rely program a (.call query next) b →
      Reach rely program a (next answer) ⟨b.committed, b.txn.asked query⟩

namespace Reach

variable {Value : Type} {rely : Db → Db → Prop}
variable {program residual : Program Db Lock Exn Mark Query Answer Value}
variable {a b c : Point Db Lock Mark Query}

theorem exec (reach : Reach rely program a residual b) {outcome : Except Exn Value}
    (rest : Program.Exec rely residual b outcome c) : Program.Exec rely program a outcome c := by
  induction reach with
  | refl => exact rest
  | failed error _ later stable induction =>
      exact induction ⟨_, later, stable, Or.inl ⟨error, rest⟩⟩
  | executed _ later stable intact success induction =>
      exact induction ⟨_, later, stable, Or.inr ⟨intact, _, _, success, rest⟩⟩
  | answered answer _ induction => exact induction ⟨answer, rest⟩

theorem asks (reach : Reach rely program a residual b) {query : Query}
    (rest : Program.Asks rely residual b query c) : Program.Asks rely program a query c := by
  induction reach with
  | refl => exact rest
  | failed error _ later stable induction =>
      exact induction ⟨_, later, stable, Or.inl ⟨error, rest⟩⟩
  | executed _ later stable intact success induction =>
      exact induction ⟨_, later, stable, Or.inr ⟨intact, _, _, success, rest⟩⟩
  | answered answer _ induction => exact induction (Or.inr ⟨answer, rest⟩)

theorem weaken {weaker : Db → Db → Prop} (still : ∀ old new, rely old new → weaker old new)
    (reach : Reach rely program a residual b) : Reach weaker program a residual b := by
  induction reach with
  | refl => exact .refl
  | failed error _ later stable induction => exact .failed error induction (still _ _ later) stable
  | executed _ later stable intact success induction =>
      exact .executed induction (still _ _ later) stable intact success
  | answered answer _ induction => exact .answered answer induction

end Reach

/-- Every row a transaction will write on commit is locked by it. -/
def Txn.Covered (txn : Txn Db Lock Mark Query) : Prop :=
  ∀ write ∈ txn.writes, ∀ lock ∈ write.footprint, lock ∈ txn.held.map Prod.fst

theorem Txn.covered_record {Value : Type} {txn : Txn Db Lock Mark Query} (covered : txn.Covered)
    (mark : Option Mark) (effect : Effect Db Lock Value) (db : Db) :
    (txn.record mark effect db).Covered := by
  intro write member lock inside
  simp only [Txn.record, List.mem_append, List.mem_singleton] at member
  simp only [Txn.record, List.map_append, List.map_map, List.mem_append, List.mem_map]
  rcases member with old | rfl
  · exact Or.inl (List.mem_map.1 (covered write old lock inside))
  · exact Or.inr ⟨lock, effect.covered lock inside, rfl⟩

/-- A session stands where some execution of its transaction can stand, given
what the others have committed meanwhile. -/
structure Session.Sound (service : Service Db Lock Exn Mark Query Answer Op Out)
    (rely : Db → Db → Prop) (committed : Db)
    (session : Session Db Lock Exn Mark Query Answer Op Out) : Prop where
  reach : ∃ last, rely last committed ∧
    Reach rely (service.program session.op) (Point.begin session.txn.start) session.program
      ⟨last, session.txn⟩
  stable : session.txn.Stable committed
  covered : session.txn.Covered

structure System.Sound (service : Service Db Lock Exn Mark Query Answer Op Out)
    (rely : Db → Db → Prop) (system : System Db Lock Exn Mark Query Answer Op Out) : Prop where
  each : ∀ index session, system.session index = some session →
    session.Sound service rely system.committed
  disjoint : ∀ index other session rival, index ≠ other →
    system.session index = some session → system.session other = some rival →
      ∀ lock ∈ session.txn.held.map Prod.fst, lock ∉ rival.txn.held.map Prod.fst

theorem System.Sound.weaken {service : Service Db Lock Exn Mark Query Answer Op Out}
    {rely weaker : Db → Db → Prop} {system : System Db Lock Exn Mark Query Answer Op Out}
    (sound : system.Sound service rely) (still : ∀ old new, rely old new → weaker old new) :
    system.Sound service weaker where
  each index session present := by
    obtain ⟨⟨last, later, reach⟩, stable, covered⟩ := sound.each index session present
    exact ⟨⟨last, still _ _ later, reach.weaken still⟩, stable, covered⟩
  disjoint := sound.disjoint

/-- `op` has run to its end and commits `txn` on top of `db`. -/
structure Commits (service : Service Db Lock Exn Mark Query Answer Op Out)
    (rely : Db → Db → Prop) (op : Op) (out : Out) (txn : Txn Db Lock Mark Query) (db : Db) :
    Prop where
  exec : ∃ last, rely last db ∧
    Program.Exec rely (service.program op) (Point.begin txn.start) (.ok out) ⟨last, txn⟩
  stable : txn.Stable db
  intact : txn.failed = false

section Soundness

variable {service : Service Db Lock Exn Mark Query Answer Op Out} {rely : Db → Db → Prop}
variable {system after : System Db Lock Exn Mark Query Answer Op Out}

theorem opened_sound (order : Timeline rely) (op : Op) (db : Db) :
    (service.opened op db).Sound service rely db where
  reach := ⟨db, order.refl db, Reach.refl⟩
  stable := by simp [Service.opened, Txn.Stable]
  covered := by simp [Service.opened, Txn.Covered]

theorem Session.Sound.later (order : Timeline rely) {session : Session Db Lock Exn Mark Query Answer Op Out}
    {old new : Db} (sound : session.Sound service rely old) (step : rely old new)
    (kept : ∀ lock ∈ session.txn.held.map Prod.fst, Lockable.cell lock new = Lockable.cell lock old) :
    session.Sound service rely new where
  reach := by
    obtain ⟨last, earlier, reach⟩ := sound.reach
    exact ⟨last, order.trans earlier step, reach⟩
  stable := fun entry member =>
    (kept entry.1 (List.mem_map_of_mem member)).trans (sound.stable entry member)
  covered := sound.covered

variable [DecidableEq Lock]

/-- Replacing one session by one that is sound, and that shares no lock with the
others, keeps the system sound while nothing is committed. -/
theorem put_sound {index : Nat} (inside : index < system.sessions.length)
    (sound : system.Sound service rely)
    {new : Option (Session Db Lock Exn Mark Query Answer Op Out)}
    (fresh : ∀ session, new = some session → session.Sound service rely system.committed)
    (apart : ∀ session, new = some session → ∀ lock ∈ session.txn.held.map Prod.fst,
      system.busy index lock = false) :
    (system.put index new).Sound service rely := by
  have split := system.session_put inside new
  constructor
  · intro other session found
    rw [split] at found
    by_cases same : other = index
    · rw [if_pos same] at found
      exact fresh session found
    · rw [if_neg same] at found
      exact sound.each other session found
  · have separate : ∀ session, new = some session → ∀ other rival, other ≠ index →
        system.session other = some rival →
          ∀ lock ∈ session.txn.held.map Prod.fst, lock ∉ rival.txn.held.map Prod.fst := by
      intro session chosen other rival differ found lock member clash
      have taken := (system.busy_iff index lock).2 ⟨other, rival, differ, found, clash⟩
      rw [apart session chosen lock member] at taken
      exact absurd taken (by simp)
    intro first second session rival differ found other_found lock member
    rw [split] at found other_found
    by_cases one : first = index
    · have two : second ≠ index := fun equal => differ (one.trans equal.symm)
      rw [if_pos one] at found
      rw [if_neg two] at other_found
      exact separate session found second rival two other_found lock member
    · rw [if_neg one] at found
      by_cases two : second = index
      · rw [if_pos two] at other_found
        exact fun clash => separate rival other_found first session one found lock clash member
      · rw [if_neg two] at other_found
        exact sound.disjoint first second session rival differ found other_found lock member

theorem held_free {index : Nat} {session : Session Db Lock Exn Mark Query Answer Op Out}
    (sound : system.Sound service rely) (present : system.session index = some session)
    {lock : Lock} (member : lock ∈ session.txn.held.map Prod.fst) :
    system.busy index lock = false := by
  rw [Bool.eq_false_iff]
  intro taken
  obtain ⟨other, rival, differ, found, clash⟩ := (system.busy_iff index lock).1 taken
  exact sound.disjoint index other session rival (Ne.symm differ) present found lock member clash

/-- The session at `index` takes one more local step. -/
theorem local_sound {index : Nat} {op : Op}
    {old new : Program Db Lock Exn Mark Query Answer Out} {txn later : Txn Db Lock Mark Query}
    (sound : system.Sound service rely) (present : system.session index = some ⟨op, old, txn⟩)
    (fresh : Session.Sound service rely system.committed ⟨op, new, later⟩)
    (apart : ∀ lock ∈ later.held.map Prod.fst,
      lock ∈ txn.held.map Prod.fst ∨ system.busy index lock = false) :
    (system.put index (some ⟨op, new, later⟩)).Sound service rely := by
  apply put_sound (System.session_inside present) sound
  · rintro session ⟨⟩
    exact fresh
  · rintro session ⟨⟩ lock member
    rcases apart lock member with kept | free
    · exact held_free sound present kept
    · exact free

theorem opened_put_sound (order : Timeline rely) (index : Nat)
    (inside : index < system.sessions.length) (sound : system.Sound service rely)
    (next : Option Op) :
    (system.put index (next.map fun op => service.opened op system.committed)).Sound
      service rely := by
  apply put_sound inside sound
  · intro session chosen
    obtain ⟨op, _, rfl⟩ := Option.map_eq_some_iff.1 chosen
    exact opened_sound order op system.committed
  · intro session chosen lock member
    obtain ⟨op, _, rfl⟩ := Option.map_eq_some_iff.1 chosen
    simp [Service.opened] at member

omit [DecidableEq Lock] in
/-- The committed state changes in rows that no remaining session has locked. -/
theorem moved_sound (order : Timeline rely) (sound : system.Sound service rely) {db : Db}
    (moved : rely system.committed db)
    (kept : ∀ index session, system.session index = some session →
      ∀ lock ∈ session.txn.held.map Prod.fst,
        Lockable.cell lock db = Lockable.cell lock system.committed) :
    System.Sound service rely { system with committed := db } where
  each := fun index session found =>
    (sound.each index session found).later order moved (kept index session found)
  disjoint := sound.disjoint

theorem act_sound (order : Timeline rely) (sound : system.Sound service rely)
    {action : Action Query Answer Op} (step : service.act action system = some after)
    (moved : rely system.committed after.committed) : after.Sound service rely := by
  cases action with
  | start op =>
      simp only [Service.act, Option.ite_none_right_eq_some, Option.some.injEq] at step
      obtain ⟨_, rfl⟩ := step
      have enlarged : System.Sound service rely
          { system with sessions := system.sessions ++ [none] } := by
        have same : ∀ index, System.session { system with sessions := system.sessions ++ [none] }
            index = system.session index := by
          intro index
          simp only [System.session, List.getElem?_append]
          split_ifs with inside
          · rfl
          · rw [List.getElem?_eq_none (Nat.not_lt.1 inside)]
            cases index - system.sessions.length <;> rfl
        exact ⟨fun index session found => sound.each index session (by rwa [same] at found),
          fun index other session rival differ found other_found =>
            sound.disjoint index other session rival differ (by rwa [same] at found)
              (by rwa [same] at other_found)⟩
      have opened := opened_put_sound order system.sessions.length (by simp) enlarged
        (some op)
      simpa [System.put] using opened
  | run index =>
      simp only [Service.act] at step
      split at step
      case h_2 => exact absurd step (by simp)
      case h_1 op Result mark body next txn present =>
        have old := sound.each index _ present
        obtain ⟨last, earlier, reach⟩ := old.reach
        split_ifs at step with failed
        · obtain rfl := Option.some.inj step
          exact local_sound sound present ⟨⟨_, order.refl _, reach.failed _ earlier old.stable⟩,
            old.stable, old.covered⟩ (fun lock member => Or.inl member)
        · split at step
          case h_1 error failure =>
            obtain rfl := Option.some.inj step
            exact local_sound sound present ⟨⟨_, order.refl _, reach.failed _ earlier old.stable⟩,
              old.stable, old.covered⟩ (fun lock member => Or.inl member)
          case h_2 effect success =>
            split_ifs at step with waits
            obtain rfl := Option.some.inj step
            refine local_sound sound present ⟨⟨_, order.refl _, reach.executed earlier old.stable
              (by simpa using failed) success⟩, txn.stable_record _ mark effect old.stable,
              Txn.covered_record old.covered mark effect _⟩ ?_
            intro lock member
            simp only [Txn.record, List.map_append, List.map_map, List.mem_append,
              List.mem_map] at member
            rcases member with kept | ⟨taken, chosen, rfl⟩
            · exact Or.inl (List.mem_map.2 kept)
            · right
              simp only [List.any_eq_true, not_exists, not_and, Bool.not_eq_true] at waits
              exact waits taken chosen
  | fault index =>
      simp only [Service.act] at step
      split at step
      case h_2 => exact absurd step (by simp)
      case h_1 op Result mark body next txn present =>
        have old := sound.each index _ present
        obtain ⟨last, earlier, reach⟩ := old.reach
        obtain rfl := Option.some.inj step
        exact local_sound sound present ⟨⟨_, order.refl _, reach.failed _ earlier old.stable⟩,
          old.stable, old.covered⟩ (fun lock member => Or.inl member)
  | answer index reply =>
      simp only [Service.act] at step
      split at step
      case h_2 => exact absurd step (by simp)
      case h_1 op query next txn present =>
        have old := sound.each index _ present
        obtain ⟨last, earlier, reach⟩ := old.reach
        obtain rfl := Option.some.inj step
        have fresh : Session.Sound service rely system.committed
            ⟨op, next (reply query), txn.asked query⟩ :=
          ⟨⟨last, earlier, reach.answered _⟩, old.stable, old.covered⟩
        have put := local_sound sound present fresh (fun lock member => Or.inl member)
        exact ⟨put.each, put.disjoint⟩
  | finish index =>
      simp only [Service.act] at step
      split at step
      case h_3 => exact absurd step (by simp)
      case h_1 op out txn present =>
        split_ifs at step with failed
        · obtain rfl := Option.some.inj step
          exact opened_put_sound order index (System.session_inside present) sound _
        · obtain rfl := Option.some.inj step
          have inside := System.session_inside present
          have cleared : (system.put index none).Sound service rely :=
            opened_put_sound order index inside sound none
          have rest := moved_sound order cleared moved (by
            intro other session found lock member
            rw [system.session_put inside] at found
            by_cases same : other = index
            · rw [if_pos same] at found
              exact absurd found (by simp)
            · rw [if_neg same] at found
              apply txn.cell_view_of_footprint
              intro write written covers
              have own := (sound.each index _ present).covered write written lock covers
              exact sound.disjoint index other _ session (Ne.symm same) present found lock own
                member)
          have opened := opened_put_sound order index (by simpa [System.put] using inside) rest
            (service.next op (.ok out))
          simp only [System.put, List.set_set] at opened ⊢
          exact ⟨opened.each, opened.disjoint⟩
      case h_2 op error txn present =>
        obtain rfl := Option.some.inj step
        exact opened_put_sound order index (System.session_inside present) sound _
  | crash index =>
      simp only [Service.act] at step
      split at step
      case h_2 => exact absurd step (by simp)
      case h_1 session present =>
        obtain rfl := Option.some.inj step
        exact opened_put_sound order index (System.session_inside present) sound none
  | advance ticks =>
      simp only [Service.act, Option.some.injEq] at step
      subst step
      exact moved_sound order sound moved
        (fun _ _ _ lock _ => service.advance_cell ticks system.committed lock)

/-- The rule for runs: what each step keeps, given that every session is where its
program can be, holds in every state reached from a quiet start. -/
theorem invariant_of_steps (order : Timeline rely)
    {allowed : System Db Lock Exn Mark Query Answer Op Out → Action Query Answer Op → Prop}
    (invariant : System Db Lock Exn Mark Query Answer Op Out → Prop)
    (kept : ∀ system action after, system.Sound service rely → invariant system →
      allowed system action → service.act action system = some after →
        rely system.committed after.committed ∧ invariant after)
    (quiet : system.sessions = []) (holds : invariant system)
    (run : Relation.ReflTransGen (service.Step allowed) system after) :
    after.Sound service rely ∧ invariant after := by
  induction run with
  | refl =>
      refine ⟨⟨?_, ?_⟩, holds⟩ <;> simp [System.session, quiet]
  | tail _ step induction =>
      obtain ⟨action, permitted, step⟩ := step
      obtain ⟨sound, holds⟩ := induction
      obtain ⟨moved, holds⟩ := kept _ action _ sound holds permitted step
      exact ⟨act_sound order sound step moved, holds⟩

/-- The only step that changes the committed state, besides the passing of time,
is a commit. -/
theorem act_committed {action : Action Query Answer Op}
    (step : service.act action system = some after) :
    after.committed = system.committed ∨
      (∃ ticks, action = .advance ticks ∧
        after.committed = service.advance ticks system.committed) ∨
      ∃ index op out txn, action = .finish index ∧
        system.session index = some ⟨op, .done out, txn⟩ ∧ txn.failed = false ∧
        after.committed = txn.view system.committed := by
  cases action with
  | start op =>
      simp only [Service.act, Option.ite_none_right_eq_some, Option.some.injEq] at step
      obtain ⟨_, rfl⟩ := step
      exact Or.inl rfl
  | advance ticks =>
      simp only [Service.act, Option.some.injEq] at step
      subst step
      exact Or.inr (Or.inl ⟨ticks, rfl, rfl⟩)
  | finish index =>
      simp only [Service.act] at step
      split at step
      case h_3 => exact absurd step (by simp)
      case h_1 op out txn present =>
        split_ifs at step with failed
        · obtain rfl := Option.some.inj step
          exact Or.inl rfl
        · obtain rfl := Option.some.inj step
          exact Or.inr (Or.inr ⟨index, op, out, txn, rfl, present, by simpa using failed, rfl⟩)
      case h_2 op error txn present =>
        obtain rfl := Option.some.inj step
        exact Or.inl rfl
  | run index | fault index | answer index reply | crash index =>
      simp only [Service.act] at step
      repeat' split at step
      all_goals first
        | (obtain rfl := Option.some.inj step; exact Or.inl rfl)
        | exact absurd step (by simp)

/-- A transaction that ends without having failed is committed. -/
theorem committed_of_finish {index : Nat} {op : Op} {out : Out} {txn : Txn Db Lock Mark Query}
    (present : system.session index = some ⟨op, .done out, txn⟩) (intact : txn.failed = false)
    (step : service.act (.finish index) system = some after) :
    after.committed = txn.view system.committed := by
  simp only [Service.act, present, intact] at step
  obtain rfl := Option.some.inj step
  rfl

theorem session_of_put {index other : Nat}
    {session : Session Db Lock Exn Mark Query Answer Op Out}
    {new : Option (Session Db Lock Exn Mark Query Answer Op Out)}
    (found : (system.put index new).session other = some session) :
    other ≠ index ∧ system.session other = some session ∨ other = index ∧ new = some session := by
  by_cases inside : index < system.sessions.length
  · rw [system.session_put inside] at found
    split_ifs at found with same
    · exact Or.inr ⟨same, found⟩
    · exact Or.inl ⟨same, found⟩
  · rw [System.session, System.put, List.set_eq_of_length_le (Nat.not_lt.1 inside)] at found
    refine Or.inl ⟨?_, found⟩
    rintro rfl
    exact inside (System.session_inside found)

/-- Where a session comes from: it is at the transaction it was at, it was started,
or its transaction follows one that has ended. -/
inductive Origin (service : Service Db Lock Exn Mark Query Answer Op Out)
    (system after : System Db Lock Exn Mark Query Answer Op Out) (action : Action Query Answer Op)
    (index : Nat) (session : Session Db Lock Exn Mark Query Answer Op Out) : Prop where
  | same (old : Session Db Lock Exn Mark Query Answer Op Out)
      (there : system.session index = some old) (op : session.op = old.op)
      (start : session.txn.start = old.txn.start) (other : ∀ at_, action = .finish at_ → at_ ≠ index)
  | entered (entry : service.entry session.op = true)
      (start : session.txn.start = after.committed)
  | followed (old : Session Db Lock Exn Mark Query Answer Op Out) (outcome : Except Exn Out)
      (which : action = .finish index) (there : system.session index = some old)
      (ended : old.program.outcome = some outcome)
      (next : service.next old.op outcome = some session.op)
      (start : session.txn.start = after.committed)

theorem act_origin {action : Action Query Answer Op}
    (step : service.act action system = some after) {index : Nat}
    {session : Session Db Lock Exn Mark Query Answer Op Out}
    (found : after.session index = some session) :
    Origin service system after action index session := by
  have kept : ∀ {at_ : Nat} {new : Option (Session Db Lock Exn Mark Query Answer Op Out)},
      (system.put at_ new).session index = some session →
      (∀ other, action = .finish other → other = at_) →
      (index = at_ → new = some session → Origin service system after action index session) →
      Origin service system after action index session := by
    intro at_ new found finishing goes
    rcases session_of_put found with ⟨differ, same⟩ | ⟨rfl, fresh⟩
    · refine .same session same rfl rfl ?_
      intro other which
      rw [finishing other which]
      exact Ne.symm differ
    · exact goes rfl fresh
  cases action with
  | start op =>
      simp only [Service.act, Option.ite_none_right_eq_some, Option.some.injEq] at step
      obtain ⟨entry, rfl⟩ := step
      simp only [System.session, List.getElem?_append] at found
      split_ifs at found with inside
      · exact .same session found rfl rfl nofun
      · cases gap : index - system.sessions.length with
        | zero =>
            rw [gap] at found
            obtain rfl := Option.some.inj found
            exact .entered entry rfl
        | succ count =>
            rw [gap] at found
            cases found
  | advance ticks =>
      simp only [Service.act, Option.some.injEq] at step
      subst step
      exact .same session found rfl rfl nofun
  | finish at_ =>
      simp only [Service.act] at step
      split at step
      case h_3 => exact absurd step (by simp)
      case h_1 op out txn present =>
        split_ifs at step with failed
        · obtain rfl := Option.some.inj step
          refine kept found (fun other which => (Action.finish.inj which).symm) ?_
          rintro rfl fresh
          obtain ⟨_, next, rfl⟩ := Option.map_eq_some_iff.1 fresh
          exact .followed _ (.ok out) rfl present rfl next rfl
        · obtain rfl := Option.some.inj step
          refine kept found (fun other which => (Action.finish.inj which).symm) ?_
          rintro rfl fresh
          obtain ⟨_, next, rfl⟩ := Option.map_eq_some_iff.1 fresh
          exact .followed _ (.ok out) rfl present rfl next rfl
      case h_2 op error txn present =>
        obtain rfl := Option.some.inj step
        refine kept found (fun other which => (Action.finish.inj which).symm) ?_
        rintro rfl fresh
        obtain ⟨_, next, rfl⟩ := Option.map_eq_some_iff.1 fresh
        exact .followed _ (.error error) rfl present rfl next rfl
  | run at_ =>
      simp only [Service.act] at step
      split at step
      case h_2 => exact absurd step (by simp)
      case h_1 op Result mark body next txn present =>
        split_ifs at step with failed
        · obtain rfl := Option.some.inj step
          refine kept found nofun ?_
          rintro rfl ⟨⟩
          exact .same _ present rfl rfl nofun
        · split at step
          · obtain rfl := Option.some.inj step
            refine kept found nofun ?_
            rintro rfl ⟨⟩
            exact .same _ present rfl rfl nofun
          · split_ifs at step with waits
            obtain rfl := Option.some.inj step
            refine kept found nofun ?_
            rintro rfl ⟨⟩
            exact .same _ present rfl rfl nofun
  | fault at_ =>
      simp only [Service.act] at step
      split at step
      case h_2 => exact absurd step (by simp)
      case h_1 op Result mark body next txn present =>
        obtain rfl := Option.some.inj step
        refine kept found nofun ?_
        rintro rfl ⟨⟩
        exact .same _ present rfl rfl nofun
  | answer at_ reply =>
      simp only [Service.act] at step
      split at step
      case h_2 => exact absurd step (by simp)
      case h_1 op query next txn present =>
        obtain rfl := Option.some.inj step
        refine kept found nofun ?_
        rintro rfl ⟨⟩
        exact .same _ present rfl rfl nofun
  | crash at_ =>
      simp only [Service.act] at step
      split at step
      case h_2 => exact absurd step (by simp)
      case h_1 old present =>
        obtain rfl := Option.some.inj step
        exact kept found nofun nofun

/-- A session that is neither ended nor gone is at the transaction it was at, and has
made its calls. -/
theorem session_kept {action : Action Query Answer Op}
    (step : service.act action system = some after) {index : Nat}
    {session : Session Db Lock Exn Mark Query Answer Op Out}
    (found : system.session index = some session) (open_ : action ≠ .finish index)
    (alive : action ≠ .crash index) :
    ∃ later, after.session index = some later ∧ later.op = session.op ∧
      session.txn.calls ⊆ later.txn.calls := by
  have kept : ∀ {at_ : Nat} {old : Session Db Lock Exn Mark Query Answer Op Out}
      {new : Option (Session Db Lock Exn Mark Query Answer Op Out)},
      system.session at_ = some old →
      (index = at_ → ∃ later, new = some later ∧ later.op = session.op ∧
        session.txn.calls ⊆ later.txn.calls) →
      ∃ later, (system.put at_ new).session index = some later ∧ later.op = session.op ∧
        session.txn.calls ⊆ later.txn.calls := by
    intro at_ old new there goes
    rw [system.session_put (System.session_inside there)]
    split_ifs with same
    · exact goes same
    · exact ⟨session, found, rfl, List.Subset.refl _⟩
  cases action with
  | start op =>
      simp only [Service.act, Option.ite_none_right_eq_some, Option.some.injEq] at step
      obtain ⟨_, rfl⟩ := step
      refine ⟨session, ?_, rfl, List.Subset.refl _⟩
      have inside := System.session_inside found
      rw [System.session, List.getElem?_append_left inside]
      exact found
  | advance ticks =>
      simp only [Service.act, Option.some.injEq] at step
      subst step
      exact ⟨session, found, rfl, List.Subset.refl _⟩
  | finish at_ =>
      have apart : index ≠ at_ := fun same => open_ (by rw [same])
      simp only [Service.act] at step
      split at step
      case h_3 => exact absurd step (by simp)
      case h_1 op out txn present =>
        split_ifs at step with failed
        · obtain rfl := Option.some.inj step
          exact kept present fun same => absurd same apart
        · obtain rfl := Option.some.inj step
          exact kept present fun same => absurd same apart
      case h_2 op error txn present =>
        obtain rfl := Option.some.inj step
        exact kept present fun same => absurd same apart
  | crash at_ =>
      have apart : index ≠ at_ := fun same => alive (by rw [same])
      simp only [Service.act] at step
      split at step
      case h_2 => exact absurd step (by simp)
      case h_1 old present =>
        obtain rfl := Option.some.inj step
        exact kept present fun same => absurd same apart
  | run at_ =>
      simp only [Service.act] at step
      split at step
      case h_2 => exact absurd step (by simp)
      case h_1 op Result mark body next txn present =>
        have mine : index = at_ → session = ⟨op, .statement mark body next, txn⟩ := by
          rintro rfl
          exact Option.some.inj (found.symm.trans present)
        split_ifs at step with failed
        · obtain rfl := Option.some.inj step
          refine kept present fun same => ?_
          rw [mine same]
          exact ⟨_, rfl, rfl, List.Subset.refl _⟩
        · split at step
          · obtain rfl := Option.some.inj step
            refine kept present fun same => ?_
            rw [mine same]
            exact ⟨_, rfl, rfl, List.Subset.refl _⟩
          · split_ifs at step with waits
            obtain rfl := Option.some.inj step
            refine kept present fun same => ?_
            rw [mine same]
            exact ⟨_, rfl, rfl, List.Subset.refl _⟩
  | fault at_ =>
      simp only [Service.act] at step
      split at step
      case h_2 => exact absurd step (by simp)
      case h_1 op Result mark body next txn present =>
        obtain rfl := Option.some.inj step
        refine kept present fun same => ?_
        subst same
        rw [Option.some.inj (found.symm.trans present)]
        exact ⟨_, rfl, rfl, List.Subset.refl _⟩
  | answer at_ reply =>
      simp only [Service.act] at step
      split at step
      case h_2 => exact absurd step (by simp)
      case h_1 op query next txn present =>
        obtain rfl := Option.some.inj step
        refine kept present fun same => ?_
        subst same
        rw [Option.some.inj (found.symm.trans present)]
        exact ⟨_, rfl, rfl, List.subset_append_left _ _⟩

/-- A session goes on with its transaction, or begins one on the committed state. -/
theorem act_session {action : Action Query Answer Op}
    (step : service.act action system = some after) {index : Nat}
    {session : Session Db Lock Exn Mark Query Answer Op Out}
    (found : after.session index = some session) :
    (∃ old, system.session index = some old ∧ session.op = old.op ∧
      session.txn.start = old.txn.start) ∨ session.txn.start = after.committed := by
  cases act_origin step found with
  | same old there op start other => exact Or.inl ⟨old, there, op, start⟩
  | entered entry start => exact Or.inr start
  | followed old outcome which there ended next start => exact Or.inr start

omit [DecidableEq Lock] in
theorem commits_of_done {index : Nat} {op : Op} {out : Out} {txn : Txn Db Lock Mark Query}
    (sound : system.Sound service rely)
    (present : system.session index = some ⟨op, .done out, txn⟩) (intact : txn.failed = false) :
    Commits service rely op out txn system.committed := by
  have own := sound.each index _ present
  obtain ⟨last, earlier, reach⟩ := own.reach
  exact ⟨⟨last, earlier, reach.exec ⟨rfl, rfl⟩⟩, own.stable, intact⟩

omit [DecidableEq Lock] in
theorem asks_of_call {index : Nat} {op : Op} {query : Query}
    {next : Answer query → Program Db Lock Exn Mark Query Answer Out}
    {txn : Txn Db Lock Mark Query} (sound : system.Sound service rely)
    (present : system.session index = some ⟨op, .call query next, txn⟩) :
    ∃ last, rely last system.committed ∧
      Program.Asks rely (service.program op) (Point.begin txn.start) query ⟨last, txn⟩ := by
  obtain ⟨last, earlier, reach⟩ := (sound.each index _ present).reach
  exact ⟨last, earlier, reach.asks (Or.inl ⟨rfl, rfl⟩)⟩

/-- Where a session has come from in one step: it is as it was, it has begun, or it has
taken a step of its own. -/
inductive Stepped (service : Service Db Lock Exn Mark Query Answer Op Out)
    (system after : System Db Lock Exn Mark Query Answer Op Out) (action : Action Query Answer Op)
    (index : Nat) : Session Db Lock Exn Mark Query Answer Op Out → Prop where
  | same {session : Session Db Lock Exn Mark Query Answer Op Out}
      (there : system.session index = some session) :
      Stepped service system after action index session
  | opened (op : Op) :
      Stepped service system after action index (service.opened op after.committed)
  | failed {op : Op} {Result : Type} {mark : Option Mark} {body : Statement Db Lock Exn Result}
      {next : Except Exn Result → Program Db Lock Exn Mark Query Answer Out}
      {txn : Txn Db Lock Mark Query} (error : Exn)
      (there : system.session index = some ⟨op, .statement mark body next, txn⟩) :
      Stepped service system after action index ⟨op, next (.error error), txn.fail⟩
  | executed {op : Op} {Result : Type} {mark : Option Mark} {body : Statement Db Lock Exn Result}
      {next : Except Exn Result → Program Db Lock Exn Mark Query Answer Out}
      {txn : Txn Db Lock Mark Query} {effect : Effect Db Lock Result}
      (there : system.session index = some ⟨op, .statement mark body next, txn⟩)
      (intact : txn.failed = false)
      (success : body ⟨txn.start, system.busy index⟩ (txn.view system.committed) = .ok effect) :
      Stepped service system after action index
        ⟨op, next (.ok effect.value), txn.record mark effect system.committed⟩
  | answered {op : Op} {query : Query}
      {next : Answer query → Program Db Lock Exn Mark Query Answer Out}
      {txn : Txn Db Lock Mark Query} (reply : (query : Query) → Answer query)
      (which : action = .answer index reply)
      (there : system.session index = some ⟨op, .call query next, txn⟩) :
      Stepped service system after action index ⟨op, next (reply query), txn.asked query⟩

theorem stepped_of_act {action : Action Query Answer Op}
    (step : service.act action system = some after) {index : Nat}
    {session : Session Db Lock Exn Mark Query Answer Op Out}
    (found : after.session index = some session) :
    Stepped service system after action index session := by
  have put : ∀ {at_ : Nat} {new : Option (Session Db Lock Exn Mark Query Answer Op Out)},
      (system.put at_ new).session index = some session →
      (index = at_ → new = some session → Stepped service system after action index session) →
      Stepped service system after action index session := by
    intro at_ new there fresh
    rcases session_of_put there with ⟨_, same⟩ | ⟨here, chosen⟩
    · exact .same same
    · exact fresh here chosen
  have followed : ∀ {next : Option Op}, next.map (fun op => service.opened op after.committed) =
      some session → Stepped service system after action index session := by
    intro next chosen
    obtain ⟨op, _, rfl⟩ := Option.map_eq_some_iff.1 chosen
    exact .opened op
  cases action with
  | start op =>
      simp only [Service.act, Option.ite_none_right_eq_some, Option.some.injEq] at step
      obtain ⟨_, rfl⟩ := step
      simp only [System.session, List.getElem?_append] at found
      split_ifs at found with inside
      · exact .same found
      · cases gap : index - system.sessions.length with
        | zero =>
            rw [gap] at found
            obtain rfl := Option.some.inj found
            exact .opened op
        | succ count =>
            rw [gap] at found
            cases found
  | advance ticks =>
      simp only [Service.act, Option.some.injEq] at step
      subst step
      exact .same found
  | run at_ =>
      simp only [Service.act] at step
      split at step
      case h_2 => exact absurd step (by simp)
      case h_1 op Result mark body next txn present =>
        split_ifs at step with failed
        · obtain rfl := Option.some.inj step
          refine put found ?_
          rintro rfl ⟨⟩
          exact .failed _ present
        · split at step
          case h_1 error failure =>
            obtain rfl := Option.some.inj step
            refine put found ?_
            rintro rfl ⟨⟩
            exact .failed _ present
          case h_2 effect success =>
            split_ifs at step with waits
            obtain rfl := Option.some.inj step
            refine put found ?_
            rintro rfl ⟨⟩
            exact .executed present (by simpa using failed) success
  | fault at_ =>
      simp only [Service.act] at step
      split at step
      case h_2 => exact absurd step (by simp)
      case h_1 op Result mark body next txn present =>
        obtain rfl := Option.some.inj step
        refine put found ?_
        rintro rfl ⟨⟩
        exact .failed _ present
  | answer at_ reply =>
      simp only [Service.act] at step
      split at step
      case h_2 => exact absurd step (by simp)
      case h_1 op query next txn present =>
        obtain rfl := Option.some.inj step
        refine put found ?_
        rintro rfl ⟨⟩
        exact .answered reply rfl present
  | finish at_ =>
      simp only [Service.act] at step
      split at step
      case h_3 => exact absurd step (by simp)
      case h_1 op out txn present =>
        split_ifs at step with failed
        · obtain rfl := Option.some.inj step
          exact put found fun _ => followed
        · obtain rfl := Option.some.inj step
          exact put found fun _ => followed
      case h_2 op error txn present =>
        obtain rfl := Option.some.inj step
        exact put found fun _ => followed
  | crash at_ =>
      simp only [Service.act] at step
      split at step
      case h_2 => exact absurd step (by simp)
      case h_1 old present =>
        obtain rfl := Option.some.inj step
        refine put found ?_
        rintro _ ⟨⟩

/-- What holds of sessions that begin, and what their steps keep, holds of every session. -/
theorem each_step {action : Action Query Answer Op}
    {holds : Session Db Lock Exn Mark Query Answer Op Out → Prop}
    (opens : ∀ op db, holds (service.opened op db))
    (fails : ∀ op Result mark body (next : Except Exn Result → _) txn error,
      holds ⟨op, .statement mark body next, txn⟩ → holds ⟨op, next (.error error), txn.fail⟩)
    (writes : ∀ index op Result mark body (next : Except Exn Result → _) txn effect,
      system.session index = some ⟨op, .statement mark body next, txn⟩ →
      body ⟨txn.start, system.busy index⟩ (txn.view system.committed) = .ok effect →
      holds ⟨op, .statement mark body next, txn⟩ →
        holds ⟨op, next (.ok effect.value), txn.record mark effect system.committed⟩)
    (hears : ∀ index reply op query next txn, action = .answer index reply →
      system.session index = some ⟨op, .call query next, txn⟩ →
      holds ⟨op, .call query next, txn⟩ → holds ⟨op, next (reply query), txn.asked query⟩)
    (step : service.act action system = some after)
    (each : ∀ index session, system.session index = some session → holds session)
    (index : Nat) (session : Session Db Lock Exn Mark Query Answer Op Out)
    (found : after.session index = some session) : holds session := by
  cases stepped_of_act step found with
  | same there => exact each index session there
  | opened op => exact opens op after.committed
  | failed error there => exact fails _ _ _ _ _ _ error (each index _ there)
  | executed there intact success =>
      exact writes index _ _ _ _ _ _ _ there success (each index _ there)
  | answered reply which there => exact hears index reply _ _ _ _ which there (each index _ there)

end Soundness

end Relational
