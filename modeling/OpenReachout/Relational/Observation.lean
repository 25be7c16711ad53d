import OpenReachout.Relational.Program

/-!
# Observing a computation

An observation says what a computation can do from a point: with which outcome,
and where, it can end. Code over any monad with exceptions is reasoned about
through it, whatever the monad: a program over a store others change, or plain
functions on a state.
-/

namespace Relational

set_option autoImplicit false

universe u

structure Observation (m : Type → Type u) (Exn Spot : Type) [Monad m] [MonadExceptOf Exn m] where
  runs : {Value : Type} → m Value → Spot → Except Exn Value → Spot → Prop
  runs_pure : ∀ {Value : Type} (value : Value) (a b : Spot) (outcome : Except Exn Value),
    runs (pure value : m Value) a outcome b ↔ outcome = .ok value ∧ b = a
  runs_throw : ∀ {Value : Type} (error : Exn) (a b : Spot) (outcome : Except Exn Value),
    runs (throw error : m Value) a outcome b ↔ outcome = .error error ∧ b = a
  runs_bind : ∀ {Value Other : Type} (first : m Value) (rest : Value → m Other) (a b : Spot)
    (outcome : Except Exn Other), runs (first >>= rest) a outcome b ↔
      (∃ value middle, runs first a (.ok value) middle ∧ runs (rest value) middle outcome b) ∨
        ∃ error, outcome = .error error ∧ runs first a (.error error) b
  runs_handle : ∀ {Value : Type} (body : m Value) (handler : Exn → m Value) (a b : Spot)
    (outcome : Except Exn Value), runs (tryCatch body handler) a outcome b ↔
      (∃ value, outcome = .ok value ∧ runs body a (.ok value) b) ∨
        ∃ error middle, runs body a (.error error) middle ∧ runs (handler error) middle outcome b

namespace Observation

variable {m : Type → Type u} {Exn Spot : Type} [Monad m] [MonadExceptOf Exn m]
variable (observation : Observation m Exn Spot)

theorem runs_bind_ok {Value Other : Type} (first : m Value) (rest : Value → m Other)
    (a b : Spot) (value : Other) :
    observation.runs (first >>= rest) a (.ok value) b ↔
      ∃ early middle, observation.runs first a (.ok early) middle ∧
        observation.runs (rest early) middle (.ok value) b := by
  rw [observation.runs_bind]
  simp

end Observation

section Instances

variable {Db Lock Exn Mark Query : Type} {Answer : Query → Type} [Lockable Db Lock]

/-- A transaction among others that do what `rely` allows. -/
def Program.observation (rely : Db → Db → Prop) :
    Observation (Program Db Lock Exn Mark Query Answer) Exn (Point Db Lock Mark Query) where
  runs := Program.Exec rely
  runs_pure := Program.exec_pure
  runs_throw := Program.exec_throw
  runs_bind := Program.exec_bind
  runs_handle := Program.exec_handle

/-- Functions on a state, which a failure keeps as it is by then. -/
def Stateful (State Exn Value : Type) : Type := State → Except Exn Value × State

namespace Stateful

variable {State Value Other : Type}

def bind (first : Stateful State Exn Value) (rest : Value → Stateful State Exn Other) :
    Stateful State Exn Other := fun state =>
  match first state with
  | (.ok value, middle) => rest value middle
  | (.error error, middle) => (.error error, middle)

def handle (body : Stateful State Exn Value) (handler : Exn → Stateful State Exn Value) :
    Stateful State Exn Value := fun state =>
  match body state with
  | (.ok value, middle) => (.ok value, middle)
  | (.error error, middle) => handler error middle

instance : Monad (Stateful State Exn) where
  pure value := fun state => (.ok value, state)
  bind := bind

instance : MonadExceptOf Exn (Stateful State Exn) where
  throw error := fun state => (.error error, state)
  tryCatch := handle

def observation (State Exn : Type) : Observation (Stateful State Exn) Exn State where
  runs computation state outcome final := computation state = (outcome, final)
  runs_pure value state final outcome := by
    change (Except.ok value, state) = (outcome, final) ↔ _
    rw [Prod.mk.injEq, eq_comm, @eq_comm _ state]
  runs_throw error state final outcome := by
    change (Except.error error, state) = (outcome, final) ↔ _
    rw [Prod.mk.injEq, eq_comm, @eq_comm _ state]
  runs_bind first rest state final outcome := by
    change bind first rest state = (outcome, final) ↔ _
    unfold bind
    rcases first state with ⟨error | value, middle⟩
    · simp [eq_comm]
    · simp
  runs_handle body handler state final outcome := by
    change handle body handler state = (outcome, final) ↔ _
    unfold handle
    rcases body state with ⟨error | value, middle⟩
    · simp
    · simp [eq_comm]

end Stateful

end Instances

end Relational
