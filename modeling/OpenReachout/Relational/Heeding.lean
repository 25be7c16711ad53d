import OpenReachout.Relational.Hearing
import OpenReachout.Relational.Observation

/-!
# Transactions and their answers

An execution that is told only what the run has heard. It is an execution, and every
session of a run has come where it is by one.
-/

namespace Relational

set_option autoImplicit false

variable {Db Lock Exn Mark Query : Type} {Answer : Query → Type} [Lockable Db Lock]
variable {Op Out Value Other : Type}

namespace Program

/-- An execution whose calls are answered by what `heard` allows. -/
def ExecHeard (heard : (query : Query) → Answer query → Prop) (rely : Db → Db → Prop) :
    Program Db Lock Exn Mark Query Answer Value →
      Point Db Lock Mark Query → Except Exn Value → Point Db Lock Mark Query → Prop
  | .done value, a, outcome, b => outcome = .ok value ∧ b = a
  | .raise error, a, outcome, b => outcome = .error error ∧ b = a
  | .statement mark body next, a, outcome, b =>
      ∃ db, rely a.committed db ∧ a.txn.Stable db ∧
        ((∃ error, ExecHeard heard rely (next (.error error)) ⟨db, a.txn.fail⟩ outcome b) ∨
          a.txn.failed = false ∧ ∃ busy effect,
            body ⟨a.txn.start, busy⟩ (a.txn.view db) = .ok effect ∧
              ExecHeard heard rely (next (.ok effect.value)) ⟨db, a.txn.record mark effect db⟩
                outcome b)
  | .call query next, a, outcome, b =>
      ∃ answer, heard query answer ∧
        ExecHeard heard rely (next answer) ⟨a.committed, a.txn.asked query⟩ outcome b

variable {heard : (query : Query) → Answer query → Prop} {rely : Db → Db → Prop}

theorem exec_of_heard {program : Program Db Lock Exn Mark Query Answer Value}
    {a b : Point Db Lock Mark Query} {outcome : Except Exn Value}
    (exec : ExecHeard heard rely program a outcome b) : Exec rely program a outcome b := by
  induction program generalizing a with
  | done value => exact exec
  | raise error => exact exec
  | statement mark body next induction =>
      obtain ⟨db, later, stable, ⟨error, exec⟩ | ⟨intact, busy, effect, success, exec⟩⟩ := exec
      · exact ⟨db, later, stable, Or.inl ⟨error, induction _ exec⟩⟩
      · exact ⟨db, later, stable, Or.inr ⟨intact, busy, effect, success, induction _ exec⟩⟩
  | call query next induction =>
      obtain ⟨answer, _, exec⟩ := exec
      exact ⟨answer, induction answer exec⟩

theorem heard_bind (program : Program Db Lock Exn Mark Query Answer Value)
    (rest : Value → Program Db Lock Exn Mark Query Answer Other)
    (a b : Point Db Lock Mark Query) (outcome : Except Exn Other) :
    ExecHeard heard rely (program >>= rest) a outcome b ↔
      (∃ value middle, ExecHeard heard rely program a (.ok value) middle ∧
        ExecHeard heard rely (rest value) middle outcome b) ∨
      ∃ error, outcome = .error error ∧ ExecHeard heard rely program a (.error error) b := by
  change ExecHeard heard rely (program.bind rest) a outcome b ↔ _
  induction program generalizing a with
  | done value => simp [bind, ExecHeard]
  | raise error => simp [bind, ExecHeard]
  | statement mark body next induction =>
      simp only [bind, ExecHeard, induction]
      grind
  | call query next induction =>
      simp only [bind, ExecHeard, induction]
      grind

theorem heard_bind_ok (program : Program Db Lock Exn Mark Query Answer Value)
    (rest : Value → Program Db Lock Exn Mark Query Answer Other)
    (a b : Point Db Lock Mark Query) (value : Other) :
    ExecHeard heard rely (program >>= rest) a (.ok value) b ↔
      ∃ first middle, ExecHeard heard rely program a (.ok first) middle ∧
        ExecHeard heard rely (rest first) middle (.ok value) b := by
  rw [heard_bind]
  simp

theorem heard_handle (program : Program Db Lock Exn Mark Query Answer Value)
    (handler : Exn → Program Db Lock Exn Mark Query Answer Value)
    (a b : Point Db Lock Mark Query) (outcome : Except Exn Value) :
    ExecHeard heard rely (tryCatch program handler) a outcome b ↔
      (∃ value, outcome = .ok value ∧ ExecHeard heard rely program a (.ok value) b) ∨
      ∃ error middle, ExecHeard heard rely program a (.error error) middle ∧
        ExecHeard heard rely (handler error) middle outcome b := by
  change ExecHeard heard rely (program.handle handler) a outcome b ↔ _
  induction program generalizing a with
  | done value => simp [handle, ExecHeard]
  | raise error => simp [handle, ExecHeard]
  | statement mark body next induction =>
      simp only [handle, ExecHeard, induction]
      grind
  | call query next induction =>
      simp only [handle, ExecHeard, induction]
      grind

/-- Executions that are told what has been heard, as an observation. -/
def hearing (heard : (query : Query) → Answer query → Prop) (rely : Db → Db → Prop) :
    Observation (Program Db Lock Exn Mark Query Answer) Exn (Point Db Lock Mark Query) where
  runs := ExecHeard heard rely
  runs_pure _ _ _ _ := Iff.rfl
  runs_throw _ _ _ _ := Iff.rfl
  runs_bind := heard_bind
  runs_handle := heard_handle

end Program

section Sessions

variable [DecidableEq Lock] {service : Service Db Lock Exn Mark Query Answer Op Out}
variable {allowed : System Db Lock Exn Mark Query Answer Op Out → Action Query Answer Op → Prop}
variable {start system after : System Db Lock Exn Mark Query Answer Op Out}
variable {past whole : Past Db Lock Exn Mark Query Answer Op Out} {rely : Db → Db → Prop}

/-- What is left of the session goes on from an execution of its program that has been
told what the run has heard. -/
def Heeding (service : Service Db Lock Exn Mark Query Answer Op Out)
    (whole : Past Db Lock Exn Mark Query Answer Op Out) (rely : Db → Db → Prop) (committed : Db)
    (session : Session Db Lock Exn Mark Query Answer Op Out) : Prop :=
  ∃ last, rely last committed ∧ ∀ outcome b,
    Program.ExecHeard (Heard whole session.op) rely session.program ⟨last, session.txn⟩ outcome b →
      Program.ExecHeard (Heard whole session.op) rely (service.program session.op)
        (Point.begin session.txn.start) outcome b

theorem heeding_step (order : Timeline rely) (sound : system.Sound service rely)
    {action : Action Query Answer Op} (member : (system, action) ∈ whole)
    (step : service.act action system = some after)
    (moved : rely system.committed after.committed)
    (each : ∀ index session, system.session index = some session →
      Heeding service whole rely system.committed session)
    (index : Nat) (session : Session Db Lock Exn Mark Query Answer Op Out)
    (found : after.session index = some session) :
    Heeding service whole rely after.committed session := by
  cases stepped_of_act step found with
  | same there =>
      obtain ⟨last, earlier, onward⟩ := each index session there
      exact ⟨last, order.trans earlier moved, onward⟩
  | opened op => exact ⟨after.committed, order.refl _, fun outcome b exec => exec⟩
  | failed error there =>
      obtain ⟨last, earlier, onward⟩ := each index _ there
      have stable := (sound.each index _ there).stable
      refine ⟨system.committed, moved, fun outcome b exec => onward outcome b ?_⟩
      exact ⟨system.committed, earlier, stable, Or.inl ⟨error, exec⟩⟩
  | executed there intact success =>
      obtain ⟨last, earlier, onward⟩ := each index _ there
      have stable := (sound.each index _ there).stable
      refine ⟨system.committed, moved, fun outcome b exec => onward outcome b ?_⟩
      exact ⟨system.committed, earlier, stable, Or.inr ⟨intact, _, _, success, exec⟩⟩
  | @answered op query next txn reply which there =>
      obtain ⟨last, earlier, onward⟩ := each index _ there
      refine ⟨last, order.trans earlier moved, fun outcome b exec => onward outcome b ?_⟩
      rw [which] at member
      exact ⟨reply query, ⟨system, index, reply, next, txn, member, there, rfl⟩, exec⟩

end Sessions

end Relational
