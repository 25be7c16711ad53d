import OpenReachout.Relational.Statement

/-!
# What a program may do

An allowance names the marks that the statements of a program may bear and the writes
that they may make. That a program keeps within it is shown statement by statement.
-/

namespace Relational

set_option autoImplicit false

variable {Db Lock Exn Mark Query : Type} {Answer : Query → Type} [Lockable Db Lock]
variable {Key Row Value Other : Type} [DecidableEq Key]

structure Allowance (Db Lock Mark : Type) [Lockable Db Lock] where
  mark : Mark → Prop
  write : Write Db Lock → Prop
  idle : write Write.none

namespace Allowance

variable (allowance : Allowance Db Lock Mark)

/-- The mark of a statement, where it bears one. -/
def Marks (mark : Option Mark) : Prop := ∀ named, mark = some named → allowance.mark named

/-- Every change of the table. -/
def Changes (ref : TableRef Db Lock Key Row) : Prop :=
  ∀ keys change outside each, allowance.write (Write.ofTable ref keys change outside each)

variable {allowance} in
theorem Changes.modify {ref : TableRef Db Lock Key Row} (changes : allowance.Changes ref)
    (keys : List Key) (chosen : Key → Row → Bool) (change : Row → Row) :
    allowance.write (Write.modify ref keys chosen change) := by
  unfold Write.modify
  apply changes

variable {allowance} in
theorem Changes.insert {ref : TableRef Db Lock Key Row} (changes : allowance.Changes ref)
    (key : Key) (row : Row) : allowance.write (Write.insert ref key row) := by
  unfold Write.insert
  apply changes

variable {allowance} in
theorem Changes.upsert {ref : TableRef Db Lock Key Row} (changes : allowance.Changes ref)
    (key : Key) (row : Row) (change : Row → Row) :
    allowance.write (Write.upsert ref key row change) := by
  unfold Write.upsert
  apply changes

variable {allowance} in
theorem Changes.erase {ref : TableRef Db Lock Key Row} (changes : allowance.Changes ref)
    (keys : List Key) (chosen : Key → Row → Bool) :
    allowance.write (Write.erase ref keys chosen) := by
  unfold Write.erase
  apply changes

/-- Every update of rows of the table. -/
def Updates (ref : TableRef Db Lock Key Row) : Prop :=
  ∀ keys chosen change, allowance.write (Write.modify ref keys chosen change)

/-- Every new row of the table. -/
def Inserts (ref : TableRef Db Lock Key Row) : Prop :=
  ∀ key row, allowance.write (Write.insert ref key row)

def Appends (log : LogRef Db Lock Row) (row : Row) : Prop := allowance.write (Write.append log row)

@[grind .] theorem marks_none : allowance.Marks none := nofun

@[grind ←] theorem marks_some {mark : Mark} (allowed : allowance.mark mark) :
    allowance.Marks (some mark) := by
  intro named same
  obtain rfl := Option.some.inj same
  exact allowed

end Allowance

namespace Program

variable {allowance : Allowance Db Lock Mark}

/-- Every statement of the program keeps within the allowance. -/
def Within (allowance : Allowance Db Lock Mark)
    (program : Program Db Lock Exn Mark Query Answer Value) : Prop :=
  program.Every (fun mark body => allowance.Marks mark ∧
    ∀ moment db effect, body moment db = .ok effect → allowance.write effect.write) fun _ => True

@[grind .] theorem within_pure (value : Value) :
    Within allowance (pure value : Program Db Lock Exn Mark Query Answer Value) := trivial

@[grind .] theorem within_throw (error : Exn) :
    Within allowance (throw error : Program Db Lock Exn Mark Query Answer Value) := trivial

@[grind .] theorem within_ofExcept (result : Except Exn Value) :
    Within allowance
      (MonadExcept.ofExcept result : Program Db Lock Exn Mark Query Answer Value) :=
  every_ofExcept result

@[grind .] theorem within_ask (query : Query) :
    Within allowance (ask query : Program Db Lock Exn Mark Query Answer (Answer query)) :=
  every_ask trivial

theorem within_perform {mark : Option Mark} {body : Statement Db Lock Exn Value}
    (allowed : allowance.Marks mark)
    (writes : ∀ moment db effect, body moment db = .ok effect → allowance.write effect.write) :
    Within allowance (perform mark body : Program Db Lock Exn Mark Query Answer Value) :=
  every_perform ⟨allowed, writes⟩

@[grind ←] theorem within_bind {program : Program Db Lock Exn Mark Query Answer Value}
    {rest : Value → Program Db Lock Exn Mark Query Answer Other}
    (first : Within allowance program) (second : ∀ value, Within allowance (rest value)) :
    Within allowance (program >>= rest) :=
  every_bind first second

@[grind ←] theorem within_handle {program : Program Db Lock Exn Mark Query Answer Value}
    {handler : Exn → Program Db Lock Exn Mark Query Answer Value}
    (first : Within allowance program) (second : ∀ error, Within allowance (handler error)) :
    Within allowance (tryCatch program handler) :=
  every_handle first second

@[grind ←] theorem within_forM {Item : Type}
    {visit : Item → Program Db Lock Exn Mark Query Answer PUnit}
    (each : ∀ item, Within allowance (visit item)) (items : List Item) :
    Within allowance (items.forM visit) :=
  every_forM each items

@[grind .] theorem within_query (read : Moment Db Lock → Db → Value) :
    Within allowance (query read : Program Db Lock Exn Mark Query Answer Value) := by
  refine within_perform allowance.marks_none fun moment db effect success => ?_
  obtain rfl := Except.ok.inj success
  exact allowance.idle

@[grind ←] theorem within_markedQuery {mark : Mark} (allowed : allowance.mark mark)
    (read : Moment Db Lock → Db → Value) :
    Within allowance (markedQuery mark read : Program Db Lock Exn Mark Query Answer Value) := by
  refine within_perform (allowance.marks_some allowed) fun moment db effect success => ?_
  obtain rfl := Except.ok.inj success
  exact allowance.idle

@[grind ←] theorem within_lockRowsMarked {mark : Option Mark} (allowed : allowance.Marks mark)
    (ref : TableRef Db Lock Key Row) (chosen : Moment Db Lock → Db → Key → Row → Bool) :
    Within allowance (lockRowsMarked ref mark chosen :
      Program Db Lock Exn Mark Query Answer (List (Key × Row))) := by
  refine within_perform allowed fun moment db effect success => ?_
  obtain rfl := Except.ok.inj success
  exact allowance.idle

@[grind .] theorem within_lockRows (ref : TableRef Db Lock Key Row)
    (chosen : Moment Db Lock → Db → Key → Row → Bool) :
    Within allowance (lockRows ref chosen :
      Program Db Lock Exn Mark Query Answer (List (Key × Row))) :=
  within_lockRowsMarked allowance.marks_none ref chosen

theorem within_changing {ref : TableRef Db Lock Key Row} {mark : Option Mark}
    {change : Moment Db Lock → Row → Row} (allowed : allowance.Marks mark)
    (writes : ∀ moment keys chosen, allowance.write (Write.modify ref keys chosen (change moment)))
    (refuse : Moment Db Lock → Db → Key → Row → Option Exn)
    (chosen : Moment Db Lock → Db → Key → Row → Bool) :
    Within allowance (updateChecked ref mark refuse chosen change :
      Program Db Lock Exn Mark Query Answer (List (Key × Row))) := by
  refine within_perform allowed fun moment db effect success => ?_
  dsimp only at success
  split at success
  · cases success
  · obtain rfl := Except.ok.inj success
    exact writes moment _ _

theorem within_updating {ref : TableRef Db Lock Key Row} {mark : Option Mark}
    (allowed : allowance.Marks mark) (updates : allowance.Updates ref)
    (refuse : Moment Db Lock → Db → Key → Row → Option Exn)
    (chosen : Moment Db Lock → Db → Key → Row → Bool) (change : Moment Db Lock → Row → Row) :
    Within allowance (updateChecked ref mark refuse chosen change :
      Program Db Lock Exn Mark Query Answer (List (Key × Row))) :=
  within_changing allowed (fun _ keys chosen => updates keys chosen _) refuse chosen

@[grind ←] theorem within_updateChecked {ref : TableRef Db Lock Key Row} {mark : Option Mark}
    (allowed : allowance.Marks mark) (changes : allowance.Changes ref)
    (refuse : Moment Db Lock → Db → Key → Row → Option Exn)
    (chosen : Moment Db Lock → Db → Key → Row → Bool) (change : Moment Db Lock → Row → Row) :
    Within allowance (updateChecked ref mark refuse chosen change :
      Program Db Lock Exn Mark Query Answer (List (Key × Row))) :=
  within_updating allowed changes.modify refuse chosen change

@[grind ←] theorem within_update {ref : TableRef Db Lock Key Row} (changes : allowance.Changes ref)
    (chosen : Moment Db Lock → Db → Key → Row → Bool) (change : Moment Db Lock → Row → Row) :
    Within allowance (update ref chosen change :
      Program Db Lock Exn Mark Query Answer (List (Key × Row))) :=
  within_updateChecked allowance.marks_none changes _ chosen change

theorem within_inserting {ref : TableRef Db Lock Key Row} {mark : Option Mark}
    (allowed : allowance.Marks mark) (inserts : allowance.Inserts ref) (duplicate : Exn)
    (refuse : Moment Db Lock → Db → Row → Option Exn) (key : Key) (row : Moment Db Lock → Row) :
    Within allowance (insertRow ref mark duplicate refuse key row :
      Program Db Lock Exn Mark Query Answer Unit) := by
  refine within_perform allowed fun moment db effect success => ?_
  split at success
  · cases success
  · cases success
  · obtain rfl := Except.ok.inj success
    exact inserts _ _

@[grind ←] theorem within_insertRow {ref : TableRef Db Lock Key Row} {mark : Option Mark}
    (allowed : allowance.Marks mark) (changes : allowance.Changes ref) (duplicate : Exn)
    (refuse : Moment Db Lock → Db → Row → Option Exn) (key : Key) (row : Moment Db Lock → Row) :
    Within allowance (insertRow ref mark duplicate refuse key row :
      Program Db Lock Exn Mark Query Answer Unit) :=
  within_inserting allowed changes.insert duplicate refuse key row

theorem within_insertFresh {ref : TableRef Db Lock Key Row} {key : Key}
    (inserts : ∀ row, allowance.write (Write.insert ref key row)) (row : Moment Db Lock → Row) :
    Within allowance (insertNew ref key row : Program Db Lock Exn Mark Query Answer Bool) := by
  refine within_perform allowance.marks_none fun moment db effect success => ?_
  split at success
  · obtain rfl := Except.ok.inj success
    exact allowance.idle
  · obtain rfl := Except.ok.inj success
    exact inserts _

@[grind ←] theorem within_insertNew {ref : TableRef Db Lock Key Row}
    (changes : allowance.Changes ref) (key : Key) (row : Moment Db Lock → Row) :
    Within allowance (insertNew ref key row : Program Db Lock Exn Mark Query Answer Bool) :=
  within_insertFresh (changes.insert key) row

@[grind ←] theorem within_upsertRow {ref : TableRef Db Lock Key Row} {mark : Option Mark}
    (allowed : allowance.Marks mark) (changes : allowance.Changes ref) (key : Key)
    (row : Moment Db Lock → Row) (change : Moment Db Lock → Row → Row) :
    Within allowance (upsertRow ref mark key row change :
      Program Db Lock Exn Mark Query Answer Unit) := by
  refine within_perform allowed fun moment db effect success => ?_
  obtain rfl := Except.ok.inj success
  exact changes.upsert _ _ _

@[grind ←] theorem within_deleteRows {ref : TableRef Db Lock Key Row}
    (changes : allowance.Changes ref) (chosen : Moment Db Lock → Db → Key → Row → Bool) :
    Within allowance (deleteRows ref chosen :
      Program Db Lock Exn Mark Query Answer (List (Key × Row))) := by
  refine within_perform allowance.marks_none fun moment db effect success => ?_
  obtain rfl := Except.ok.inj success
  exact changes.erase _ _

@[grind ←] theorem within_appendRow {log : LogRef Db Lock Row} {row : Moment Db Lock → Row}
    (appends : ∀ moment, allowance.Appends log (row moment)) :
    Within allowance (appendRow log row : Program Db Lock Exn Mark Query Answer Unit) := by
  refine within_perform allowance.marks_none fun moment db effect success => ?_
  obtain rfl := Except.ok.inj success
  exact appends moment

/-- What a program within its allowance has marked. -/
theorem marked_of_within {rely : Db → Db → Prop}
    {program : Program Db Lock Exn Mark Query Answer Value} (within_ : Within allowance program)
    {a b : Point Db Lock Mark Query} {outcome : Except Exn Value}
    (exec : Exec rely program a outcome b) :
    ∀ entry ∈ b.txn.seen, entry ∈ a.txn.seen ∨ allowance.mark entry.1 := by
  induction program generalizing a with
  | done value =>
      obtain ⟨_, rfl⟩ := exec
      exact fun _ member => Or.inl member
  | raise error =>
      obtain ⟨_, rfl⟩ := exec
      exact fun _ member => Or.inl member
  | statement mark body next induction =>
      obtain ⟨db, _, _, ⟨error, exec⟩ | ⟨_, busy, effect, _, exec⟩⟩ := exec
      · have rest := induction _ (within_.2 _) exec
        exact rest
      · intro entry member
        rcases induction _ (within_.2 _) exec entry member with old | allowed
        · rcases List.mem_append.1 old with earlier | mine
          · exact Or.inl earlier
          · obtain ⟨named, same, rfl⟩ := List.mem_map.1 mine
            exact Or.inr (within_.1.1 named (Option.mem_toList.1 same))
        · exact Or.inr allowed
  | call query next induction =>
      obtain ⟨answer, exec⟩ := exec
      have rest := induction _ (within_.2 answer) exec
      exact rest

/-- A part of the store that no allowed write changes is in the view as it was. -/
theorem view_of_within {rely : Db → Db → Prop} {Part : Type} {part : Db → Part}
    (kept : ∀ write, allowance.write write → ∀ db, part (write.apply db) = part db)
    {program : Program Db Lock Exn Mark Query Answer Value} (within_ : Within allowance program)
    {a b : Point Db Lock Mark Query} {outcome : Except Exn Value}
    (exec : Exec rely program a outcome b) (db : Db) :
    part (b.txn.view db) = part (a.txn.view db) := by
  have only : Only (fun write => ∀ db, part (write.apply db) = part db) program :=
    every_mono (fun _ _ holds moment db effect success =>
      kept _ (holds.2 moment db effect success)) (fun _ holds => holds) within_
  exact exec_view_of_only only exec db

end Program

end Relational
