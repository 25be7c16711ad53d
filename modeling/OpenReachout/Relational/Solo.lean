import OpenReachout.Relational.Statement

/-!
# A transaction on its own

With nobody else at work a transaction is a function of the state it begins in,
of the answers to its calls, and of the rows it finds locked.
-/

namespace Relational

set_option autoImplicit false

/-- What a transaction has made of the state, how many of its calls have been
answered, and whether one of its statements failed. -/
structure Alone (Db : Type) where
  db : Db
  answered : Nat := 0
  failed : Bool := false

/-- A failed transaction is rolled back when it commits. -/
def Alone.committed {Db : Type} (alone : Alone Db) (start : Db) : Db :=
  if alone.failed then start else alone.db

variable {Db Lock Exn Mark Query : Type} {Answer : Query → Type} [Lockable Db Lock]

namespace Program

variable {Value Other : Type}
variable (oracle : Nat → (query : Query) → Answer query) (fault : Exn) (moment : Moment Db Lock)

/-- `oracle n` answers the call number `n`. -/
def solo : Program Db Lock Exn Mark Query Answer Value → Alone Db → Except Exn Value × Alone Db
  | .done value, alone => (.ok value, alone)
  | .raise error, alone => (.error error, alone)
  | .statement _ body next, alone =>
      if alone.failed then solo (next (.error fault)) alone
      else match body moment alone.db with
        | .error error => solo (next (.error error)) { alone with failed := true }
        | .ok effect =>
            solo (next (.ok effect.value)) { alone with db := effect.write.apply alone.db }
  | .call query next, alone =>
      solo (next (oracle alone.answered query)) { alone with answered := alone.answered + 1 }

/-- The calls that are made on the way. -/
def soloCalls : Program Db Lock Exn Mark Query Answer Value → Alone Db → List Query
  | .done _, _ => []
  | .raise _, _ => []
  | .statement _ body next, alone =>
      if alone.failed then soloCalls (next (.error fault)) alone
      else match body moment alone.db with
        | .error error => soloCalls (next (.error error)) { alone with failed := true }
        | .ok effect =>
            soloCalls (next (.ok effect.value)) { alone with db := effect.write.apply alone.db }
  | .call query next, alone =>
      query :: soloCalls (next (oracle alone.answered query))
        { alone with answered := alone.answered + 1 }

variable {oracle fault moment}

@[simp] theorem solo_pure (value : Value) (alone : Alone Db) :
    solo oracle fault moment (pure value : Program Db Lock Exn Mark Query Answer Value) alone =
      (.ok value, alone) := rfl

@[simp] theorem solo_throw (error : Exn) (alone : Alone Db) :
    solo oracle fault moment (throw error : Program Db Lock Exn Mark Query Answer Value) alone =
      (.error error, alone) := rfl

@[simp] theorem solo_ask (query : Query) (alone : Alone Db) :
    solo oracle fault moment (ask query : Program Db Lock Exn Mark Query Answer _) alone =
      (.ok (oracle alone.answered query), { alone with answered := alone.answered + 1 }) := rfl

@[simp] theorem solo_bind (program : Program Db Lock Exn Mark Query Answer Value)
    (rest : Value → Program Db Lock Exn Mark Query Answer Other) (alone : Alone Db) :
    solo oracle fault moment (program >>= rest) alone =
      match solo oracle fault moment program alone with
      | (.ok value, later) => solo oracle fault moment (rest value) later
      | (.error error, later) => (.error error, later) := by
  change solo oracle fault moment (program.bind rest) alone = _
  induction program generalizing alone with
  | done value => rfl
  | raise error => rfl
  | statement mark body next induction =>
      simp only [bind, solo]
      by_cases failed : alone.failed = true
      · rw [if_pos failed, if_pos failed]
        exact induction _ _
      · rw [if_neg failed, if_neg failed]
        cases body moment alone.db with
        | error error => exact induction _ _
        | ok effect => exact induction _ _
  | call query next induction => exact induction _ _

@[simp] theorem solo_handle (program : Program Db Lock Exn Mark Query Answer Value)
    (handler : Exn → Program Db Lock Exn Mark Query Answer Value) (alone : Alone Db) :
    solo oracle fault moment (tryCatch program handler) alone =
      match solo oracle fault moment program alone with
      | (.ok value, later) => (.ok value, later)
      | (.error error, later) => solo oracle fault moment (handler error) later := by
  change solo oracle fault moment (program.handle handler) alone = _
  induction program generalizing alone with
  | done value => rfl
  | raise error => rfl
  | statement mark body next induction =>
      simp only [handle, solo]
      by_cases failed : alone.failed = true
      · rw [if_pos failed, if_pos failed]
        exact induction _ _
      · rw [if_neg failed, if_neg failed]
        cases body moment alone.db with
        | error error => exact induction _ _
        | ok effect => exact induction _ _
  | call query next induction => exact induction _ _

theorem solo_ofExcept (result : Except Exn Value) (alone : Alone Db) :
    solo oracle fault moment
      (MonadExcept.ofExcept result : Program Db Lock Exn Mark Query Answer Value) alone =
        (result, alone) := by
  cases result <;> rfl

/-- One statement, in a transaction that has not failed. -/
theorem solo_perform (mark : Option Mark) (body : Statement Db Lock Exn Value) (db : Db)
    (answered : Nat) :
    solo oracle fault moment (perform mark body : Program Db Lock Exn Mark Query Answer Value)
        ⟨db, answered, false⟩ =
      match body moment db with
      | .error error => (.error error, ⟨db, answered, true⟩)
      | .ok effect => (.ok effect.value, ⟨effect.write.apply db, answered, false⟩) := by
  unfold perform solo
  simp only [Bool.false_eq_true, if_false]
  cases body moment db <;> rfl

theorem solo_query (read : Moment Db Lock → Db → Value) (db : Db) (answered : Nat) :
    solo oracle fault moment (query read : Program Db Lock Exn Mark Query Answer Value)
        ⟨db, answered, false⟩ = (.ok (read moment db), ⟨db, answered, false⟩) :=
  solo_perform none _ db answered

variable {Key Row : Type} [DecidableEq Key]

theorem solo_lockRows (ref : TableRef Db Lock Key Row)
    (chosen : Moment Db Lock → Db → Key → Row → Bool) (db : Db) (answered : Nat) :
    solo oracle fault moment (lockRows ref chosen :
        Program Db Lock Exn Mark Query Answer (List (Key × Row))) ⟨db, answered, false⟩ =
      (.ok ((ref.get db).select (chosen moment db)), ⟨db, answered, false⟩) :=
  solo_perform none _ db answered

theorem solo_updateChecked (ref : TableRef Db Lock Key Row) (mark : Option Mark)
    (refuse : Moment Db Lock → Db → Key → Row → Option Exn)
    (chosen : Moment Db Lock → Db → Key → Row → Bool) (change : Moment Db Lock → Row → Row)
    (db : Db) (answered : Nat) :
    solo oracle fault moment (updateChecked ref mark refuse chosen change :
        Program Db Lock Exn Mark Query Answer (List (Key × Row))) ⟨db, answered, false⟩ =
      match ((ref.get db).select (chosen moment db)).findSome? fun entry =>
          refuse moment db entry.1 entry.2 with
      | some error => (.error error, ⟨db, answered, true⟩)
      | none => (.ok ((ref.get db).select (chosen moment db)),
          ⟨ref.set ((ref.get db).modify (chosen moment db) (change moment)) db, answered,
            false⟩) := by
  unfold updateChecked
  rw [solo_perform]
  cases refused : ((ref.get db).select (chosen moment db)).findSome? fun entry =>
      refuse moment db entry.1 entry.2 with
  | some error => simp only [refused]
  | none => simp only [refused, Effect.writing, Write.modify, Write.ofTable, Table.select_modify]

theorem solo_update (ref : TableRef Db Lock Key Row)
    (chosen : Moment Db Lock → Db → Key → Row → Bool) (change : Moment Db Lock → Row → Row)
    (db : Db) (answered : Nat) :
    solo oracle fault moment (update ref chosen change :
        Program Db Lock Exn Mark Query Answer (List (Key × Row))) ⟨db, answered, false⟩ =
      (.ok ((ref.get db).select (chosen moment db)),
        ⟨ref.set ((ref.get db).modify (chosen moment db) (change moment)) db, answered, false⟩) := by
  have accepted : (((ref.get db).select (chosen moment db)).findSome? fun _ : Key × Row =>
      (none : Option Exn)) = none := List.findSome?_eq_none_iff.2 fun _ _ => rfl
  unfold update
  rw [solo_updateChecked, accepted]

theorem solo_insertNew (ref : TableRef Db Lock Key Row) (key : Key)
    (row : Moment Db Lock → Row) (db : Db) (answered : Nat) :
    solo oracle fault moment (insertNew ref key row : Program Db Lock Exn Mark Query Answer Bool)
        ⟨db, answered, false⟩ =
      (.ok ((ref.get db).lookup key).isNone,
        ⟨(if ((ref.get db).lookup key).isNone then (Write.insert ref key (row moment)).apply db
          else db), answered, false⟩) := by
  unfold insertNew
  rw [solo_perform]
  cases (ref.get db).lookup key <;> rfl

theorem solo_upsertRow (ref : TableRef Db Lock Key Row) (mark : Option Mark) (key : Key)
    (row : Moment Db Lock → Row) (change : Moment Db Lock → Row → Row) (db : Db)
    (answered : Nat) :
    solo oracle fault moment (upsertRow ref mark key row change :
        Program Db Lock Exn Mark Query Answer Unit) ⟨db, answered, false⟩ =
      (.ok (), ⟨ref.set ((ref.get db).upsert key (row moment) (change moment)) db, answered,
        false⟩) :=
  solo_perform mark _ db answered

theorem solo_appendRow (log : LogRef Db Lock Row) (row : Moment Db Lock → Row) (db : Db)
    (answered : Nat) :
    solo oracle fault moment (appendRow log row : Program Db Lock Exn Mark Query Answer Unit)
        ⟨db, answered, false⟩ =
      (.ok (), ⟨log.set (log.get db ++ [row moment]) db, answered, false⟩) :=
  solo_perform none _ db answered

/-- Every call of the program is all that is asked on the way. -/
theorem calls_of_every
    {statement : {Result : Type} → Option Mark → Statement Db Lock Exn Result → Prop}
    {call : Query → Prop} {program : Program Db Lock Exn Mark Query Answer Value}
    (every : Every statement call program) (alone : Alone Db) :
    ∀ query ∈ soloCalls oracle fault moment program alone, call query := by
  induction program generalizing alone with
  | done value => exact fun _ member => absurd member List.not_mem_nil
  | raise error => exact fun _ member => absurd member List.not_mem_nil
  | statement mark body next induction =>
      unfold soloCalls
      split
      · exact induction _ (every.2 _) _
      · split
        · exact induction _ (every.2 _) _
        · exact induction _ (every.2 _) _
  | call asked next induction =>
      intro query member
      unfold soloCalls at member
      rcases List.mem_cons.1 member with same | later
      · rw [same]
        exact every.1
      · exact induction _ (every.2 _) _ query later

/-- A query makes no call, and what follows goes by what it has read. -/
theorem solo_calls_query (read : Moment Db Lock → Db → Value)
    (rest : Value → Program Db Lock Exn Mark Query Answer Other) (db : Db) (answered : Nat) :
    soloCalls oracle fault moment
        ((query read : Program Db Lock Exn Mark Query Answer Value) >>= rest) ⟨db, answered, false⟩ =
      soloCalls oracle fault moment (rest (read moment db)) ⟨db, answered, false⟩ := rfl

end Program

end Relational
