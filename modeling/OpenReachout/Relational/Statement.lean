import OpenReachout.Relational.Program
import Mathlib.Logic.Function.Basic

/-!
# Statements on tables

`TableRef` places a keyed table in a store and names the lock of each of its
rows. The statements below are the SQL forms over such a table. A statement
fixes the rows it changes when it executes; on commit exactly these rows change.
-/

namespace Relational

set_option autoImplicit false

structure TableRef (Db Lock : Type) [Lockable Db Lock] (Key Row : Type) [DecidableEq Key] where
  get : Db → Table Key Row
  set : Table Key Row → Db → Db
  lock : Key → Lock
  ofRow : ∀ key, Option Row → Lockable.Cell Db (lock key)
  ofRow_injective : ∀ key, Function.Injective (ofRow key)
  get_set : ∀ table db, get (set table db) = table
  set_get : ∀ db, set (get db) db = db
  cell_eq : ∀ key db, Lockable.cell (lock key) db = ofRow key ((get db).lookup key)
  cell_set : ∀ other table db, (∀ key, other ≠ lock key) →
    Lockable.cell other (set table db) = Lockable.cell other db

/-- A part of the store that is only ever appended to; its rows need no lock. -/
structure LogRef (Db Lock : Type) [Lockable Db Lock] (Row : Type) where
  get : Db → List Row
  set : List Row → Db → Db
  cell_set : ∀ lock rows db, Lockable.cell lock (set rows db) = Lockable.cell lock db

variable {Db Lock Exn Mark Query : Type} {Answer : Query → Type} [Lockable Db Lock]
variable {Key Row : Type} [DecidableEq Key]

namespace Write

def none : Write Db Lock := ⟨id, [], fun _ _ _ => rfl, fun _ _ _ same => same⟩

def append (log : LogRef Db Lock Row) (row : Row) : Write Db Lock where
  apply db := log.set (log.get db ++ [row]) db
  footprint := []
  frame _ lock _ := log.cell_set lock _ _
  rowwise _ _ lock same := by
    rw [log.cell_set, log.cell_set]
    exact same

/-- A change of one table that leaves the rows outside `keys` alone. -/
def ofTable (ref : TableRef Db Lock Key Row) (keys : List Key)
    (change : Table Key Row → Table Key Row)
    (outside : ∀ table key, key ∉ keys → (change table).lookup key = table.lookup key)
    (each : ∀ table other key, table.lookup key = other.lookup key →
      (change table).lookup key = (change other).lookup key) :
    Write Db Lock where
  apply db := ref.set (change (ref.get db)) db
  footprint := keys.map ref.lock
  frame db lock absent := by
    by_cases owned : ∃ key, lock = ref.lock key
    · obtain ⟨key, rfl⟩ := owned
      rw [ref.cell_eq, ref.cell_eq, ref.get_set,
        outside _ key fun member => absent (List.mem_map_of_mem member)]
    · exact ref.cell_set lock _ db fun key equal => owned ⟨key, equal⟩
  rowwise a b lock same := by
    by_cases owned : ∃ key, lock = ref.lock key
    · obtain ⟨key, rfl⟩ := owned
      rw [ref.cell_eq, ref.cell_eq] at same
      rw [ref.cell_eq, ref.cell_eq, ref.get_set, ref.get_set,
        each _ _ key (ref.ofRow_injective key same)]
    · have apart : ∀ key, lock ≠ ref.lock key := fun key equal => owned ⟨key, equal⟩
      rw [ref.cell_set lock _ a apart, ref.cell_set lock _ b apart]
      exact same

def modify (ref : TableRef Db Lock Key Row) (keys : List Key) (chosen : Key → Row → Bool)
    (change : Row → Row) : Write Db Lock :=
  ofTable ref keys (fun table => table.modify (fun key row => key ∈ keys && chosen key row) change)
    (by intro table key absent; simp [absent])
    (by intro table other key same; simp [same])

def insert (ref : TableRef Db Lock Key Row) (key : Key) (row : Row) : Write Db Lock :=
  ofTable ref [key] (fun table => table.insert key row)
    (by intro table other absent; rw [Table.lookup_insert, if_neg (by simpa using absent)])
    (by
      intro table other fresh same
      rw [Table.lookup_insert, Table.lookup_insert]
      by_cases hit : fresh = key
      · rw [if_pos hit, if_pos hit, ← hit, same]
      · rw [if_neg hit, if_neg hit, same])

def upsert (ref : TableRef Db Lock Key Row) (key : Key) (row : Row) (change : Row → Row) :
    Write Db Lock :=
  ofTable ref [key] (fun table => table.upsert key row change)
    (by intro table other absent; rw [Table.lookup_upsert, if_neg (by simpa using absent)])
    (by
      intro table other fresh same
      rw [Table.lookup_upsert, Table.lookup_upsert]
      by_cases hit : fresh = key
      · rw [if_pos hit, if_pos hit, ← hit, same]
      · rw [if_neg hit, if_neg hit, same])

def erase (ref : TableRef Db Lock Key Row) (keys : List Key) (chosen : Key → Row → Bool) :
    Write Db Lock :=
  ofTable ref keys (fun table => table.erase fun key row => key ∈ keys && chosen key row)
    (by intro table key absent; rw [Table.lookup_erase]; cases table.lookup key <;> simp [absent])
    (by intro table other key same; simp [same])

end Write

namespace Effect

variable {Value : Type}

/-- A statement that locks no row beyond those it writes. -/
def writing (value : Value) (write : Write Db Lock) : Effect Db Lock Value :=
  ⟨value, write, write.footprint, fun _ member => member⟩

def reading (value : Value) : Effect Db Lock Value := writing value Write.none

/-- `SELECT ... FOR UPDATE`. -/
def locking (value : Value) (locks : List Lock) : Effect Db Lock Value :=
  ⟨value, Write.none, locks, fun _ member => absurd member List.not_mem_nil⟩

end Effect

namespace Program

variable {Value : Type}

def query (read : Moment Db Lock → Db → Value) : Program Db Lock Exn Mark Query Answer Value :=
  perform none fun moment db => .ok (Effect.reading (read moment db))

/-- A `query` that runs condition can name. -/
def markedQuery (mark : Mark) (read : Moment Db Lock → Db → Value) :
    Program Db Lock Exn Mark Query Answer Value :=
  perform (some mark) fun moment db => .ok (Effect.reading (read moment db))

def lockRowsMarked (ref : TableRef Db Lock Key Row) (mark : Option Mark)
    (chosen : Moment Db Lock → Db → Key → Row → Bool) :
    Program Db Lock Exn Mark Query Answer (List (Key × Row)) :=
  perform mark fun moment db =>
    let rows := (ref.get db).select (chosen moment db)
    .ok (Effect.locking rows (rows.map fun entry => ref.lock entry.1))

def lockRows (ref : TableRef Db Lock Key Row) (chosen : Moment Db Lock → Db → Key → Row → Bool) :
    Program Db Lock Exn Mark Query Answer (List (Key × Row)) :=
  lockRowsMarked ref none chosen

/-- The rows chosen, as they were before the update. `refuse` is the trigger that
can reject the statement. -/
def updateChecked (ref : TableRef Db Lock Key Row) (mark : Option Mark)
    (refuse : Moment Db Lock → Db → Key → Row → Option Exn)
    (chosen : Moment Db Lock → Db → Key → Row → Bool) (change : Moment Db Lock → Row → Row) :
    Program Db Lock Exn Mark Query Answer (List (Key × Row)) :=
  perform mark fun moment db =>
    let rows := (ref.get db).select (chosen moment db)
    match rows.findSome? fun entry => refuse moment db entry.1 entry.2 with
    | some error => .error error
    | none => .ok (Effect.writing rows
        (Write.modify ref (rows.map Prod.fst) (chosen moment db) (change moment)))

def update (ref : TableRef Db Lock Key Row) (chosen : Moment Db Lock → Db → Key → Row → Bool)
    (change : Moment Db Lock → Row → Row) :
    Program Db Lock Exn Mark Query Answer (List (Key × Row)) :=
  updateChecked ref none (fun _ _ _ _ => none) chosen change

/-- A duplicate key, or a violated check, is an error of the store. -/
def insertRow (ref : TableRef Db Lock Key Row) (mark : Option Mark) (duplicate : Exn)
    (refuse : Moment Db Lock → Db → Row → Option Exn) (key : Key) (row : Moment Db Lock → Row) :
    Program Db Lock Exn Mark Query Answer Unit :=
  perform mark fun moment db =>
    match refuse moment db (row moment), (ref.get db).lookup key with
    | some error, _ => .error error
    | none, some _ => .error duplicate
    | none, none => .ok (Effect.writing () (Write.insert ref key (row moment)))

/-- `INSERT ... ON CONFLICT DO NOTHING`; true when the row was inserted. -/
def insertNew (ref : TableRef Db Lock Key Row) (key : Key) (row : Moment Db Lock → Row) :
    Program Db Lock Exn Mark Query Answer Bool :=
  perform none fun moment db =>
    match (ref.get db).lookup key with
    | some _ => .ok (Effect.reading false)
    | none => .ok (Effect.writing true (Write.insert ref key (row moment)))

def upsertRow (ref : TableRef Db Lock Key Row) (mark : Option Mark) (key : Key)
    (row : Moment Db Lock → Row) (change : Moment Db Lock → Row → Row) :
    Program Db Lock Exn Mark Query Answer Unit :=
  perform mark fun moment _ =>
    .ok (Effect.writing () (Write.upsert ref key (row moment) (change moment)))

def deleteRows (ref : TableRef Db Lock Key Row)
    (chosen : Moment Db Lock → Db → Key → Row → Bool) :
    Program Db Lock Exn Mark Query Answer (List (Key × Row)) :=
  perform none fun moment db =>
    let rows := (ref.get db).select (chosen moment db)
    .ok (Effect.writing rows (Write.erase ref (rows.map Prod.fst) (chosen moment db)))

def appendRow (log : LogRef Db Lock Row) (row : Moment Db Lock → Row) :
    Program Db Lock Exn Mark Query Answer Unit :=
  perform none fun moment _ => .ok (Effect.writing () (Write.append log (row moment)))

/-- A query reads the view and leaves it as it is. -/
theorem exec_query {rely : Db → Db → Prop} {read : Moment Db Lock → Db → Value}
    {a b : Point Db Lock Mark Query} {value : Value}
    (exec : Exec rely (query read : Program Db Lock Exn Mark Query Answer Value) a (.ok value) b) :
    rely a.committed b.committed ∧
      (∃ busy, value = read ⟨a.txn.start, busy⟩ (a.txn.view b.committed)) ∧
      ∀ db, b.txn.view db = a.txn.view db := by
  obtain ⟨db, later, _, _, busy, effect, success, same, rfl⟩ := (exec_perform_ok _ _ _ _ _).1 exec
  obtain rfl := Except.ok.inj success
  refine ⟨later, ⟨busy, same⟩, fun other => ?_⟩
  rw [Txn.view_record]
  rfl

end Program

end Relational
