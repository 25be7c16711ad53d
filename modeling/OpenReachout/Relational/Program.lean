import OpenReachout.Relational.Table
import Mathlib.Logic.Relation

/-!
# Transactions as programs over a locking store

A transaction is a tree of statements and calls to the outside. A statement
reads the transaction's view, which is the state committed by now under the
transaction's own writes (READ COMMITTED), and keeps a lock on every row it
writes. `Exec` is what one transaction can do while others commit between its
statements: `rely` bounds what the others do, and rows this transaction has
locked stay as they were.
-/

namespace Relational

set_option autoImplicit false

/-- `cell lock db` is the content of the row that `lock` protects. -/
class Lockable (Db : Type) (Lock : outParam Type) where
  Cell : Lock → Type
  cell : (lock : Lock) → (db : Db) → Cell lock

/-- A pending change of the store, with the rows it may change. What becomes of a
row depends on that row only. -/
structure Write (Db Lock : Type) [Lockable Db Lock] where
  apply : Db → Db
  footprint : List Lock
  frame : ∀ db lock, lock ∉ footprint →
    Lockable.cell lock (apply db) = Lockable.cell lock db
  rowwise : ∀ a b lock, Lockable.cell lock a = Lockable.cell lock b →
    Lockable.cell lock (apply a) = Lockable.cell lock (apply b)

/-- What one statement does. Every row it writes is among the rows it locks. -/
structure Effect (Db Lock : Type) [Lockable Db Lock] (Value : Type) where
  value : Value
  write : Write Db Lock
  locks : List Lock
  covered : ∀ lock ∈ write.footprint, lock ∈ locks

/-- What a statement sees besides its view: the state in which its transaction
began, and which rows other transactions have locked. -/
structure Moment (Db Lock : Type) where
  start : Db
  busy : Lock → Bool

abbrev Statement (Db Lock Exn : Type) [Lockable Db Lock] (Value : Type) :=
  Moment Db Lock → Db → Except Exn (Effect Db Lock Value)

inductive Program (Db Lock Exn Mark Query : Type) (Answer : Query → Type) [Lockable Db Lock]
    (Value : Type) : Type 1 where
  | done (value : Value)
  | raise (error : Exn)
  | statement {Result : Type} (mark : Option Mark) (body : Statement Db Lock Exn Result)
      (next : Except Exn Result → Program Db Lock Exn Mark Query Answer Value)
  | call (query : Query)
      (next : Answer query → Program Db Lock Exn Mark Query Answer Value)

variable {Db Lock Exn Mark Query : Type} {Answer : Query → Type} [Lockable Db Lock]

namespace Program

variable {Value Other : Type}

def bind : Program Db Lock Exn Mark Query Answer Value →
    (Value → Program Db Lock Exn Mark Query Answer Other) →
    Program Db Lock Exn Mark Query Answer Other
  | .done value, rest => rest value
  | .raise error, _ => .raise error
  | .statement mark body next, rest => .statement mark body fun result => (next result).bind rest
  | .call query next, rest => .call query fun answer => (next answer).bind rest

/-- An exception is handled where it was raised from: what the transaction has
written by then stays written. -/
def handle : Program Db Lock Exn Mark Query Answer Value →
    (Exn → Program Db Lock Exn Mark Query Answer Value) →
    Program Db Lock Exn Mark Query Answer Value
  | .done value, _ => .done value
  | .raise error, handler => handler error
  | .statement mark body next, handler =>
      .statement mark body fun result => (next result).handle handler
  | .call query next, handler => .call query fun answer => (next answer).handle handler

instance : Monad (Program Db Lock Exn Mark Query Answer) where
  pure := .done
  bind := bind

instance : MonadExceptOf Exn (Program Db Lock Exn Mark Query Answer) where
  throw := .raise
  tryCatch := handle

def ofExcept : Except Exn Value → Program Db Lock Exn Mark Query Answer Value
  | .ok value => .done value
  | .error error => .raise error

/-- One statement; its error is raised. -/
def perform (mark : Option Mark) (body : Statement Db Lock Exn Value) :
    Program Db Lock Exn Mark Query Answer Value :=
  .statement mark body ofExcept

def ask (query : Query) : Program Db Lock Exn Mark Query Answer (Answer query) :=
  .call query .done

/-- What a program that has ended has come to. -/
def outcome : Program Db Lock Exn Mark Query Answer Value → Option (Except Exn Value)
  | .done value => some (.ok value)
  | .raise error => some (.error error)
  | _ => none

end Program

/-- The local state of an open transaction. `held` remembers in which committed
state each lock was taken, `seen` on which view each marked statement ran. -/
structure Txn (Db Lock Mark Query : Type) [Lockable Db Lock] where
  start : Db
  writes : List (Write Db Lock) := []
  held : List (Lock × Db) := []
  seen : List (Mark × Db) := []
  calls : List Query := []
  failed : Bool := false

namespace Txn

def view (txn : Txn Db Lock Mark Query) (db : Db) : Db :=
  txn.writes.foldl (fun state write => write.apply state) db

/-- No other transaction has committed a change to a row this one has locked. -/
def Stable (txn : Txn Db Lock Mark Query) (db : Db) : Prop :=
  ∀ entry ∈ txn.held, Lockable.cell entry.1 db = Lockable.cell entry.1 entry.2

def record {Value : Type} (txn : Txn Db Lock Mark Query) (mark : Option Mark)
    (effect : Effect Db Lock Value) (db : Db) : Txn Db Lock Mark Query :=
  { txn with
    writes := txn.writes ++ [effect.write]
    held := txn.held ++ effect.locks.map fun lock => (lock, db)
    seen := txn.seen ++ mark.toList.map fun mark => (mark, txn.view db) }

def fail (txn : Txn Db Lock Mark Query) : Txn Db Lock Mark Query := { txn with failed := true }

def asked (txn : Txn Db Lock Mark Query) (query : Query) : Txn Db Lock Mark Query :=
  { txn with calls := txn.calls ++ [query] }

variable (txn : Txn Db Lock Mark Query) (db : Db)

@[simp] theorem view_record {Value : Type} (mark : Option Mark)
    (effect : Effect Db Lock Value) (at_db : Db) :
    (txn.record mark effect at_db).view db = effect.write.apply (txn.view db) := by
  simp [view, record]

@[simp] theorem view_fail : txn.fail.view db = txn.view db := rfl

@[simp] theorem view_asked (query : Query) : (txn.asked query).view db = txn.view db := rfl

theorem stable_record {Value : Type} (mark : Option Mark) (effect : Effect Db Lock Value)
    (stable : txn.Stable db) : (txn.record mark effect db).Stable db := by
  intro entry member
  simp only [record, List.mem_append, List.mem_map] at member
  rcases member with old | ⟨lock, _, rfl⟩
  · exact stable entry old
  · rfl

/-- A row that the transaction has not locked is not changed by its writes. -/
theorem cell_view_of_footprint (lock : Lock)
    (outside : ∀ write ∈ txn.writes, lock ∉ write.footprint) :
    Lockable.cell lock (txn.view db) = Lockable.cell lock db := by
  obtain ⟨start, writes, held, seen, calls, failed⟩ := txn
  simp only [view]
  induction writes generalizing db with
  | nil => rfl
  | cons write writes induction =>
      rw [List.foldl_cons, induction (write.apply db)
        (fun later member => outside later (List.mem_cons_of_mem _ member))]
      exact write.frame db lock (outside write List.mem_cons_self)

theorem cell_view_congr (lock : Lock) (other : Db)
    (same : Lockable.cell lock db = Lockable.cell lock other) :
    Lockable.cell lock (txn.view db) = Lockable.cell lock (txn.view other) := by
  obtain ⟨start, writes, held, seen, calls, failed⟩ := txn
  simp only [view]
  induction writes generalizing db other with
  | nil => exact same
  | cons write writes induction =>
      exact induction (write.apply db) (write.apply other) (write.rowwise db other lock same)

end Txn

/-- A transaction in the middle: the committed state it last looked at, and its
local state. -/
structure Point (Db Lock Mark Query : Type) [Lockable Db Lock] where
  committed : Db
  txn : Txn Db Lock Mark Query

/-- What others may do between two statements they may do in several steps. -/
structure Timeline {Db : Type} (rely : Db → Db → Prop) : Prop where
  refl : ∀ db, rely db db
  trans : ∀ {first second third}, rely first second → rely second third → rely first third

def Point.begin (db : Db) : Point Db Lock Mark Query := ⟨db, { start := db }⟩

namespace Program

variable {Value Other : Type}

/-- `Exec rely program a outcome b`: started at `a`, the program can end with
`outcome` at `b`. A statement may fail at any time, after which the transaction
is marked failed and no later statement succeeds. -/
def Exec (rely : Db → Db → Prop) : Program Db Lock Exn Mark Query Answer Value →
    Point Db Lock Mark Query → Except Exn Value → Point Db Lock Mark Query → Prop
  | .done value, a, outcome, b => outcome = .ok value ∧ b = a
  | .raise error, a, outcome, b => outcome = .error error ∧ b = a
  | .statement mark body next, a, outcome, b =>
      ∃ db, rely a.committed db ∧ a.txn.Stable db ∧
        ((∃ error, Exec rely (next (.error error)) ⟨db, a.txn.fail⟩ outcome b) ∨
          a.txn.failed = false ∧ ∃ busy effect,
            body ⟨a.txn.start, busy⟩ (a.txn.view db) = .ok effect ∧
              Exec rely (next (.ok effect.value)) ⟨db, a.txn.record mark effect db⟩ outcome b)
  | .call query next, a, outcome, b =>
      ∃ answer, Exec rely (next answer) ⟨a.committed, a.txn.asked query⟩ outcome b

/-- `Asks rely program a query b`: started at `a`, the program can come to call
`query` at `b`. -/
def Asks (rely : Db → Db → Prop) : Program Db Lock Exn Mark Query Answer Value →
    Point Db Lock Mark Query → Query → Point Db Lock Mark Query → Prop
  | .done _, _, _, _ => False
  | .raise _, _, _, _ => False
  | .statement mark body next, a, query, b =>
      ∃ db, rely a.committed db ∧ a.txn.Stable db ∧
        ((∃ error, Asks rely (next (.error error)) ⟨db, a.txn.fail⟩ query b) ∨
          a.txn.failed = false ∧ ∃ busy effect,
            body ⟨a.txn.start, busy⟩ (a.txn.view db) = .ok effect ∧
              Asks rely (next (.ok effect.value)) ⟨db, a.txn.record mark effect db⟩ query b)
  | .call asked next, a, query, b =>
      (query = asked ∧ b = a) ∨
        ∃ answer, Asks rely (next answer) ⟨a.committed, a.txn.asked asked⟩ query b

variable {rely : Db → Db → Prop}

theorem exec_bind (program : Program Db Lock Exn Mark Query Answer Value)
    (rest : Value → Program Db Lock Exn Mark Query Answer Other)
    (a b : Point Db Lock Mark Query) (outcome : Except Exn Other) :
    Exec rely (program >>= rest) a outcome b ↔
      (∃ value middle, Exec rely program a (.ok value) middle ∧
        Exec rely (rest value) middle outcome b) ∨
      ∃ error, outcome = .error error ∧ Exec rely program a (.error error) b := by
  change Exec rely (program.bind rest) a outcome b ↔ _
  induction program generalizing a with
  | done value => simp [bind, Exec]
  | raise error => simp [bind, Exec]
  | statement mark body next induction =>
      simp only [bind, Exec, induction]
      grind
  | call query next induction =>
      simp only [bind, Exec, induction]
      grind

theorem exec_bind_ok (program : Program Db Lock Exn Mark Query Answer Value)
    (rest : Value → Program Db Lock Exn Mark Query Answer Other)
    (a b : Point Db Lock Mark Query) (value : Other) :
    Exec rely (program >>= rest) a (.ok value) b ↔
      ∃ first middle, Exec rely program a (.ok first) middle ∧
        Exec rely (rest first) middle (.ok value) b := by
  rw [exec_bind]
  simp

theorem exec_handle (program : Program Db Lock Exn Mark Query Answer Value)
    (handler : Exn → Program Db Lock Exn Mark Query Answer Value)
    (a b : Point Db Lock Mark Query) (outcome : Except Exn Value) :
    Exec rely (tryCatch program handler) a outcome b ↔
      (∃ value, outcome = .ok value ∧ Exec rely program a (.ok value) b) ∨
      ∃ error middle, Exec rely program a (.error error) middle ∧
        Exec rely (handler error) middle outcome b := by
  change Exec rely (program.handle handler) a outcome b ↔ _
  induction program generalizing a with
  | done value => simp [handle, Exec]
  | raise error => simp [handle, Exec]
  | statement mark body next induction =>
      simp only [handle, Exec, induction]
      grind
  | call query next induction =>
      simp only [handle, Exec, induction]
      grind

@[simp] theorem exec_pure (value : Value) (a b : Point Db Lock Mark Query)
    (outcome : Except Exn Value) :
    Exec rely (pure value : Program Db Lock Exn Mark Query Answer Value) a outcome b ↔
      outcome = .ok value ∧ b = a := Iff.rfl

@[simp] theorem exec_throw (error : Exn) (a b : Point Db Lock Mark Query)
    (outcome : Except Exn Value) :
    Exec rely (throw error : Program Db Lock Exn Mark Query Answer Value) a outcome b ↔
      outcome = .error error ∧ b = a := Iff.rfl

theorem exec_ask (query : Query) (a b : Point Db Lock Mark Query)
    (outcome : Except Exn (Answer query)) :
    Exec rely (ask query : Program Db Lock Exn Mark Query Answer _) a outcome b ↔
      ∃ answer, outcome = .ok answer ∧ b = ⟨a.committed, a.txn.asked query⟩ := Iff.rfl

/-- A statement that succeeded ran in some committed state `db`, on the
transaction's view of it. -/
theorem exec_perform_ok (mark : Option Mark) (body : Statement Db Lock Exn Value)
    (a b : Point Db Lock Mark Query) (value : Value) :
    Exec rely (perform mark body : Program Db Lock Exn Mark Query Answer Value) a (.ok value) b ↔
      ∃ db, rely a.committed db ∧ a.txn.Stable db ∧ a.txn.failed = false ∧ ∃ busy effect,
        body ⟨a.txn.start, busy⟩ (a.txn.view db) = .ok effect ∧ value = effect.value ∧
          b = ⟨db, a.txn.record mark effect db⟩ := by
  simp [perform, Exec, ofExcept]

/-- A statement that raised has failed its transaction. -/
theorem exec_perform_error (mark : Option Mark) (body : Statement Db Lock Exn Value)
    (a b : Point Db Lock Mark Query) (error : Exn)
    (exec : Exec rely (perform mark body : Program Db Lock Exn Mark Query Answer Value) a
      (.error error) b) : b.txn = a.txn.fail := by
  simp only [perform, Exec, ofExcept] at exec
  obtain ⟨db, _, _, failure | success⟩ := exec
  · obtain ⟨_, _, rfl⟩ := failure
    rfl
  · obtain ⟨_, _, _, _, impossible, _⟩ := success
    exact absurd impossible (by simp)

theorem asks_bind (program : Program Db Lock Exn Mark Query Answer Value)
    (rest : Value → Program Db Lock Exn Mark Query Answer Other)
    (a b : Point Db Lock Mark Query) (query : Query) :
    Asks rely (program >>= rest) a query b ↔
      Asks rely program a query b ∨
      ∃ value middle, Exec rely program a (.ok value) middle ∧ Asks rely (rest value) middle query b := by
  change Asks rely (program.bind rest) a query b ↔ _
  induction program generalizing a with
  | done value => simp [bind, Exec, Asks]
  | raise error => simp [bind, Exec, Asks]
  | statement mark body next induction =>
      simp only [bind, Exec, Asks, induction]
      grind
  | call asked next induction =>
      simp only [bind, Exec, Asks, induction]
      grind

theorem asks_handle (program : Program Db Lock Exn Mark Query Answer Value)
    (handler : Exn → Program Db Lock Exn Mark Query Answer Value)
    (a b : Point Db Lock Mark Query) (query : Query) :
    Asks rely (tryCatch program handler) a query b ↔
      Asks rely program a query b ∨
      ∃ error middle, Exec rely program a (.error error) middle ∧
        Asks rely (handler error) middle query b := by
  change Asks rely (program.handle handler) a query b ↔ _
  induction program generalizing a with
  | done value => simp [handle, Exec, Asks]
  | raise error => simp [handle, Exec, Asks]
  | statement mark body next induction =>
      simp only [handle, Exec, Asks, induction]
      grind
  | call asked next induction =>
      simp only [handle, Exec, Asks, induction]
      grind

/-- What holds of every statement and every call of the program, on every path. -/
def Every (statement : {Result : Type} → Option Mark → Statement Db Lock Exn Result → Prop)
    (call : Query → Prop) : Program Db Lock Exn Mark Query Answer Value → Prop
  | .done _ => True
  | .raise _ => True
  | .statement mark body next => statement mark body ∧ ∀ result, Every statement call (next result)
  | .call query next => call query ∧ ∀ answer, Every statement call (next answer)

section Every

variable {statement : {Result : Type} → Option Mark → Statement Db Lock Exn Result → Prop}
variable {call : Query → Prop}

@[simp] theorem every_pure (value : Value) :
    Every statement call (pure value : Program Db Lock Exn Mark Query Answer Value) := trivial

@[simp] theorem every_throw (error : Exn) :
    Every statement call (throw error : Program Db Lock Exn Mark Query Answer Value) := trivial

theorem every_bind {program : Program Db Lock Exn Mark Query Answer Value}
    {rest : Value → Program Db Lock Exn Mark Query Answer Other}
    (first : Every statement call program) (second : ∀ value, Every statement call (rest value)) :
    Every statement call (program >>= rest) := by
  change Every statement call (program.bind rest)
  induction program with
  | done value => exact second value
  | raise error => exact first
  | statement mark body next induction =>
      exact ⟨first.1, fun result => induction result (first.2 result)⟩
  | call query next induction =>
      exact ⟨first.1, fun answer => induction answer (first.2 answer)⟩

theorem every_handle {program : Program Db Lock Exn Mark Query Answer Value}
    {handler : Exn → Program Db Lock Exn Mark Query Answer Value}
    (first : Every statement call program) (second : ∀ error, Every statement call (handler error)) :
    Every statement call (tryCatch program handler) := by
  change Every statement call (program.handle handler)
  induction program with
  | done value => exact first
  | raise error => exact second error
  | statement mark body next induction =>
      exact ⟨first.1, fun result => induction result (first.2 result)⟩
  | call query next induction =>
      exact ⟨first.1, fun answer => induction answer (first.2 answer)⟩

theorem every_ofExcept (result : Except Exn Value) :
    Every statement call
      (MonadExcept.ofExcept result : Program Db Lock Exn Mark Query Answer Value) := by
  cases result <;> trivial

theorem every_perform {mark : Option Mark} {body : Statement Db Lock Exn Value}
    (holds : statement mark body) :
    Every statement call (perform mark body : Program Db Lock Exn Mark Query Answer Value) := by
  refine ⟨holds, fun result => ?_⟩
  cases result <;> trivial

theorem every_ask {query : Query} (holds : call query) :
    Every statement call (ask query : Program Db Lock Exn Mark Query Answer (Answer query)) :=
  ⟨holds, fun _ => trivial⟩

theorem every_forM {Item : Type} {visit : Item → Program Db Lock Exn Mark Query Answer PUnit}
    (each : ∀ item, Every statement call (visit item)) (items : List Item) :
    Every statement call (items.forM visit) := by
  induction items with
  | nil => trivial
  | cons item items induction => exact every_bind (each item) fun _ => induction

theorem every_mono
    {weaker : {Result : Type} → Option Mark → Statement Db Lock Exn Result → Prop}
    {wider : Query → Prop}
    (weaken : ∀ {Result : Type} (mark : Option Mark) (body : Statement Db Lock Exn Result),
      statement mark body → weaker mark body)
    (widen : ∀ query, call query → wider query)
    {program : Program Db Lock Exn Mark Query Answer Value} (every : Every statement call program) :
    Every weaker wider program := by
  induction program with
  | done value => trivial
  | raise error => trivial
  | statement mark body next induction =>
      exact ⟨weaken mark body every.1, fun result => induction result (every.2 result)⟩
  | call query next induction =>
      exact ⟨widen query every.1, fun answer => induction answer (every.2 answer)⟩

/-- A call the program can come to make is one of its calls. -/
theorem asks_every {program : Program Db Lock Exn Mark Query Answer Value}
    (every : Every statement call program) {a b : Point Db Lock Mark Query} {query : Query}
    (asks : Asks rely program a query b) : call query := by
  induction program generalizing a with
  | done value => exact asks.elim
  | raise error => exact asks.elim
  | statement mark body next induction =>
      obtain ⟨db, _, _, ⟨error, asks⟩ | ⟨_, busy, effect, _, asks⟩⟩ := asks
      · exact induction _ (every.2 _) asks
      · exact induction _ (every.2 _) asks
  | call asked next induction =>
      rcases asks with ⟨rfl, _⟩ | ⟨answer, asks⟩
      · exact every.1
      · exact induction _ (every.2 answer) asks

end Every

/-- Every write of the program is a `good` one. -/
def Only (good : Write Db Lock → Prop) (program : Program Db Lock Exn Mark Query Answer Value) :
    Prop :=
  program.Every (fun _ body => ∀ moment db effect, body moment db = .ok effect → good effect.write)
    fun _ => True

theorem exec_only {good : Write Db Lock → Prop}
    {program : Program Db Lock Exn Mark Query Answer Value} (only : Only good program)
    {a b : Point Db Lock Mark Query} {outcome : Except Exn Value}
    (exec : Exec rely program a outcome b) :
    ∃ more, b.txn.writes = a.txn.writes ++ more ∧ ∀ write ∈ more, good write := by
  induction program generalizing a with
  | done value =>
      obtain ⟨_, rfl⟩ := exec
      exact ⟨[], by simp⟩
  | raise error =>
      obtain ⟨_, rfl⟩ := exec
      exact ⟨[], by simp⟩
  | statement mark body next induction =>
      obtain ⟨db, _, _, ⟨error, exec⟩ | ⟨_, busy, effect, success, exec⟩⟩ := exec
      · have rest := induction _ (only.2 _) exec
        exact rest
      · obtain ⟨more, writes, good_more⟩ := induction _ (only.2 _) exec
        refine ⟨effect.write :: more, by simpa [Txn.record] using writes, ?_⟩
        intro write member
        rcases List.mem_cons.1 member with rfl | member
        · exact only.1 _ _ _ success
        · exact good_more write member
  | call query next induction =>
      obtain ⟨answer, exec⟩ := exec
      have rest := induction _ (only.2 answer) exec
      exact rest

/-- A part of the store that no write of the program changes is the same in the
transaction's view before and after. -/
theorem exec_view_of_only {Part : Type} {part : Db → Part}
    {program : Program Db Lock Exn Mark Query Answer Value}
    (only : Only (fun write => ∀ db, part (write.apply db) = part db) program)
    {a b : Point Db Lock Mark Query} {outcome : Except Exn Value}
    (exec : Exec rely program a outcome b) (db : Db) :
    part (b.txn.view db) = part (a.txn.view db) := by
  obtain ⟨more, writes, kept⟩ := exec_only only exec
  simp only [Txn.view, writes, List.foldl_append]
  generalize a.txn.writes.foldl (fun state write => write.apply state) db = state
  clear writes
  induction more generalizing state with
  | nil => rfl
  | cons write more induction =>
      rw [List.foldl_cons, induction (fun later member => kept later (List.mem_cons_of_mem _ member))]
      exact kept write List.mem_cons_self state

/-- What a transaction has learned stays known: time only moves on. -/
structure Extends (rely : Db → Db → Prop) (a b : Point Db Lock Mark Query) : Prop where
  rely : rely a.committed b.committed
  start : b.txn.start = a.txn.start
  writes : a.txn.writes <+: b.txn.writes
  held : a.txn.held ⊆ b.txn.held
  seen : a.txn.seen ⊆ b.txn.seen
  calls : a.txn.calls <+: b.txn.calls
  failed : b.txn.failed = false → a.txn.failed = false
  stable : a.txn.Stable a.committed → b.txn.Stable b.committed

theorem extends_refl (order : Timeline rely) (a : Point Db Lock Mark Query) : Extends rely a a :=
  ⟨order.refl _, rfl, List.prefix_rfl, List.Subset.refl _, List.Subset.refl _, List.prefix_rfl, id, id⟩

theorem extends_trans (order : Timeline rely) {a b c : Point Db Lock Mark Query} (first : Extends rely a b)
    (second : Extends rely b c) : Extends rely a c where
  rely := order.trans first.rely second.rely
  start := second.start.trans first.start
  writes := first.writes.trans second.writes
  held := List.Subset.trans first.held second.held
  seen := List.Subset.trans first.seen second.seen
  calls := first.calls.trans second.calls
  failed := fun ok => first.failed (second.failed ok)
  stable := fun ok => second.stable (first.stable ok)

theorem extends_fail {a : Point Db Lock Mark Query} {db : Db} (later : rely a.committed db)
    (stable : a.txn.Stable db) : Extends rely a ⟨db, a.txn.fail⟩ :=
  ⟨later, rfl, List.prefix_rfl, List.Subset.refl _, List.Subset.refl _, List.prefix_rfl,
    fun impossible => absurd impossible (by simp [Txn.fail]), fun _ => stable⟩

theorem extends_record {a : Point Db Lock Mark Query} {db : Db} (later : rely a.committed db)
    (stable : a.txn.Stable db) (mark : Option Mark) (effect : Effect Db Lock Value) :
    Extends rely a ⟨db, a.txn.record mark effect db⟩ :=
  ⟨later, rfl, List.prefix_append _ _, List.subset_append_left _ _,
    List.subset_append_left _ _, List.prefix_rfl, id,
    fun _ => a.txn.stable_record db mark effect stable⟩

theorem extends_asked (order : Timeline rely) (a : Point Db Lock Mark Query) (query : Query) :
    Extends rely a ⟨a.committed, a.txn.asked query⟩ :=
  ⟨order.refl _, rfl, List.prefix_rfl, List.Subset.refl _, List.Subset.refl _,
    List.prefix_append _ _, id, id⟩

theorem exec_extends (order : Timeline rely) {program : Program Db Lock Exn Mark Query Answer Value}
    {a b : Point Db Lock Mark Query} {outcome : Except Exn Value}
    (exec : Exec rely program a outcome b) : Extends rely a b := by
  induction program generalizing a with
  | done value =>
      obtain ⟨_, rfl⟩ := exec
      exact extends_refl order b
  | raise error =>
      obtain ⟨_, rfl⟩ := exec
      exact extends_refl order b
  | statement mark body next induction =>
      obtain ⟨db, later, stable, ⟨error, exec⟩ | ⟨_, busy, effect, _, exec⟩⟩ := exec
      · exact extends_trans order (extends_fail later stable) (induction _ exec)
      · exact extends_trans order (extends_record later stable mark effect) (induction _ exec)
  | call query next induction =>
      obtain ⟨answer, exec⟩ := exec
      exact extends_trans order (extends_asked order a query) (induction _ exec)

section Failure

variable {rely : Db → Db → Prop} {Value Other : Type}

/-- A program that returns has not failed its transaction. -/
def Careful (rely : Db → Db → Prop) (program : Program Db Lock Exn Mark Query Answer Value) : Prop :=
  ∀ a value b, Exec rely program a (.ok value) b → a.txn.failed = false → b.txn.failed = false

/-- A program that returns has found its transaction intact, and left it so. -/
def Intact (rely : Db → Db → Prop) (program : Program Db Lock Exn Mark Query Answer Value) : Prop :=
  ∀ a value b, Exec rely program a (.ok value) b → b.txn.failed = false

theorem Intact.careful {program : Program Db Lock Exn Mark Query Answer Value}
    (intact : Intact rely program) : Careful rely program :=
  fun a value b exec _ => intact a value b exec

theorem careful_pure (value : Value) :
    Careful rely (pure value : Program Db Lock Exn Mark Query Answer Value) := by
  intro a other b exec before
  obtain ⟨_, rfl⟩ := exec
  exact before

theorem intact_throw (error : Exn) :
    Intact rely (throw error : Program Db Lock Exn Mark Query Answer Value) := by
  intro a value b exec
  obtain ⟨impossible, _⟩ := exec
  cases impossible

theorem careful_ask (query : Query) :
    Careful rely (ask query : Program Db Lock Exn Mark Query Answer (Answer query)) := by
  intro a value b exec before
  obtain ⟨answer, _, rfl⟩ := exec
  exact before

theorem intact_perform (mark : Option Mark) (body : Statement Db Lock Exn Value) :
    Intact rely (perform mark body : Program Db Lock Exn Mark Query Answer Value) := by
  intro a value b exec
  obtain ⟨db, _, _, before, busy, effect, _, _, rfl⟩ := (exec_perform_ok mark body a b value).1 exec
  exact before

theorem careful_bind {program : Program Db Lock Exn Mark Query Answer Value}
    {rest : Value → Program Db Lock Exn Mark Query Answer Other} (first : Careful rely program)
    (second : ∀ value, Careful rely (rest value)) : Careful rely (program >>= rest) := by
  intro a other b exec before
  obtain ⟨value, middle, early, late⟩ := (exec_bind_ok program rest a b other).1 exec
  exact second value middle other b late (first a value middle early before)

theorem intact_bind {program : Program Db Lock Exn Mark Query Answer Value}
    {rest : Value → Program Db Lock Exn Mark Query Answer Other} (first : Intact rely program)
    (second : ∀ value, Careful rely (rest value)) : Intact rely (program >>= rest) := by
  intro a other b exec
  obtain ⟨value, middle, early, late⟩ := (exec_bind_ok program rest a b other).1 exec
  exact second value middle other b late (first a value middle early)

/-- Whatever came before, even an error that was caught. -/
theorem intact_of_rest {program : Program Db Lock Exn Mark Query Answer Value}
    {rest : Value → Program Db Lock Exn Mark Query Answer Other}
    (second : ∀ value, Intact rely (rest value)) : Intact rely (program >>= rest) := by
  intro a other b exec
  obtain ⟨value, middle, _, late⟩ := (exec_bind_ok program rest a b other).1 exec
  exact second value middle other b late

end Failure

end Program

end Relational
