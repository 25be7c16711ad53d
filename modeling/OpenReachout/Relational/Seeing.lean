import OpenReachout.Relational.System
import OpenReachout.Relational.Within

/-!
# What a transaction sees

What a program writes may depend on what it has read. Where every state that its
statements see satisfies an invariant, a branch that no such state leads to is not taken.
-/

namespace Relational

set_option autoImplicit false

variable {Db Lock Exn Mark Query : Type} {Answer : Query → Type} [Lockable Db Lock]
variable {Op Out Value Other : Type}

namespace Program

/-- As long as the statements see states that `seen` allows, every write is a good one. -/
def Sees (seen : Db → Prop) (good : Write Db Lock → Prop) :
    Program Db Lock Exn Mark Query Answer Value → Prop
  | .done _ => True
  | .raise _ => True
  | .statement _ body next =>
      (∀ moment db effect, seen db → body moment db = .ok effect →
        good effect.write ∧ Sees seen good (next (.ok effect.value))) ∧
        ∀ error, Sees seen good (next (.error error))
  | .call _ next => ∀ answer, Sees seen good (next answer)

variable {seen : Db → Prop} {good : Write Db Lock → Prop}

theorem sees_pure (value : Value) :
    Sees seen good (pure value : Program Db Lock Exn Mark Query Answer Value) := trivial

theorem sees_throw (error : Exn) :
    Sees seen good (throw error : Program Db Lock Exn Mark Query Answer Value) := trivial

theorem sees_of_only {program : Program Db Lock Exn Mark Query Answer Value}
    (only : Only good program) : Sees seen good program := by
  induction program with
  | done value => trivial
  | raise error => trivial
  | statement mark body next induction =>
      refine ⟨fun moment db effect _ success => ?_, fun error => induction _ (only.2 _)⟩
      exact ⟨only.1 moment db effect success, induction _ (only.2 _)⟩
  | call query next induction => exact fun answer => induction answer (only.2 answer)

theorem sees_of_within {allowance : Allowance Db Lock Mark}
    {program : Program Db Lock Exn Mark Query Answer Value} (within_ : Within allowance program)
    (allowed : ∀ write, allowance.write write → good write) : Sees seen good program :=
  sees_of_only (every_mono (fun _ _ holds moment db effect success =>
    allowed _ (holds.2 moment db effect success)) (fun _ holds => holds) within_)

theorem sees_trivial (all : ∀ write, good write)
    (program : Program Db Lock Exn Mark Query Answer Value) : Sees seen good program := by
  induction program with
  | done value => trivial
  | raise error => trivial
  | statement mark body next induction =>
      exact ⟨fun _ _ effect _ _ => ⟨all effect.write, induction _⟩, fun _ => induction _⟩
  | call query next induction => exact fun answer => induction answer

theorem sees_bind {program : Program Db Lock Exn Mark Query Answer Value}
    {rest : Value → Program Db Lock Exn Mark Query Answer Other}
    (first : Sees seen good program) (second : ∀ value, Sees seen good (rest value)) :
    Sees seen good (program >>= rest) := by
  change Sees seen good (program.bind rest)
  induction program with
  | done value => exact second value
  | raise error => exact first
  | statement mark body next induction =>
      refine ⟨fun moment db effect shown success => ?_, fun error => induction _ (first.2 error)⟩
      obtain ⟨wrote, further⟩ := first.1 moment db effect shown success
      exact ⟨wrote, induction _ further⟩
  | call query next induction => exact fun answer => induction answer (first answer)

theorem sees_forM {Item : Type} {visit : Item → Program Db Lock Exn Mark Query Answer PUnit}
    (each : ∀ item, Sees seen good (visit item)) (items : List Item) :
    Sees seen good (items.forM visit) := by
  induction items with
  | nil => exact sees_pure _
  | cons item items induction => exact sees_bind (each item) fun _ => induction

theorem sees_ite {condition : Prop} [Decidable condition]
    {first second : Program Db Lock Exn Mark Query Answer Value} (yes : Sees seen good first)
    (no : Sees seen good second) : Sees seen good (if condition then first else second) := by
  by_cases holds : condition
  · rw [if_pos holds]
    exact yes
  · rw [if_neg holds]
    exact no

/-- The program goes on with what such a state shows. -/
theorem sees_query {read : Moment Db Lock → Db → Value}
    {rest : Value → Program Db Lock Exn Mark Query Answer Other} (idle : good Write.none)
    (second : ∀ moment db, seen db → Sees seen good (rest (read moment db))) :
    Sees seen good (query read >>= rest) := by
  refine ⟨fun moment db effect shown success => ?_, fun error => trivial⟩
  obtain rfl := Except.ok.inj success
  exact ⟨idle, second moment db shown⟩

end Program

section Sessions

variable [DecidableEq Lock] {service : Service Db Lock Exn Mark Query Answer Op Out}
variable {system after : System Db Lock Exn Mark Query Answer Op Out}
variable {seen : Op → Db → Prop} {good : Op → Write Db Lock → Prop}

/-- A session has made good writes only, and will as long as it sees what it may. -/
def Seeing (seen : Op → Db → Prop) (good : Op → Write Db Lock → Prop)
    (session : Session Db Lock Exn Mark Query Answer Op Out) : Prop :=
  session.program.Sees (seen session.op) (good session.op) ∧
    ∀ write ∈ session.txn.writes, good session.op write

/-- The rule for steps: where good writes on the committed state show what `seen` allows,
every session goes on as its program does. -/
theorem seeing_step {action : Action Query Answer Op}
    (programs : ∀ op, (service.program op).Sees (seen op) (good op))
    (views : ∀ op (txn : Txn Db Lock Mark Query), (∀ write ∈ txn.writes, good op write) →
      seen op (txn.view system.committed))
    (step : service.act action system = some after)
    (each : ∀ index session, system.session index = some session → Seeing seen good session)
    (index : Nat) (session : Session Db Lock Exn Mark Query Answer Op Out)
    (found : after.session index = some session) : Seeing seen good session := by
  refine each_step ?_ ?_ ?_ ?_ step each index session found
  · exact fun op db => ⟨programs op, fun _ member => absurd member List.not_mem_nil⟩
  · intro op Result mark body next txn error old
    exact ⟨old.1.2 error, old.2⟩
  · intro index op Result mark body next txn effect present success old
    obtain ⟨wrote, further⟩ := old.1.1 _ _ effect (views op txn old.2) success
    refine ⟨further, fun write made => ?_⟩
    rcases List.mem_append.1 made with earlier | mine
    · exact old.2 write earlier
    · rw [List.mem_singleton.1 mine]
      exact wrote
  · intro index reply op query next txn _ present old
    exact ⟨old.1 _, old.2⟩

end Sessions

end Relational
