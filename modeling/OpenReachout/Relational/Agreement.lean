import OpenReachout.Relational.Solo

/-!
# Runs that agree

A program whose statements do the same in related states, and leave them related, has the
same result in related states. That the statements do is shown statement by statement.
-/

namespace Relational

set_option autoImplicit false

variable {Db Lock Exn Mark Query : Type} {Answer : Query → Type} [Lockable Db Lock]
variable {Key Row Value Other : Type} [DecidableEq Key]

theorem findSome_congr {Item Result : Type} {first second : Item → Option Result}
    {items : List Item} (same : ∀ item ∈ items, first item = second item) :
    items.findSome? first = items.findSome? second := by
  induction items with
  | nil => rfl
  | cons item items induction =>
      rw [List.findSome?_cons, List.findSome?_cons, same item List.mem_cons_self,
        induction fun other member => same other (List.mem_cons_of_mem _ member)]

/-- The table is the same in related states, and may be set to anything in both. -/
structure Shared (related : Db → Db → Prop) (ref : TableRef Db Lock Key Row) : Prop where
  same : ∀ first second, related first second → ref.get first = ref.get second
  kept : ∀ first second table, related first second →
    related (ref.set table first) (ref.set table second)

/-- The statement does the same in related states, and leaves them related. -/
def Uniform (related : Db → Db → Prop) (body : Statement Db Lock Exn Value) : Prop :=
  ∀ moment first second, related first second →
    (∃ error, body moment first = .error error ∧ body moment second = .error error) ∨
    ∃ one other, body moment first = .ok one ∧ body moment second = .ok other ∧
      one.value = other.value ∧ related (one.write.apply first) (other.write.apply second)

namespace Program

/-- Every statement of the program is uniform. -/
def Agrees (related : Db → Db → Prop) (program : Program Db Lock Exn Mark Query Answer Value) :
    Prop :=
  program.Every (fun _ body => Uniform related body) fun _ => True

variable {related : Db → Db → Prop}

theorem agrees_pure (value : Value) :
    Agrees related (pure value : Program Db Lock Exn Mark Query Answer Value) := trivial

theorem agrees_throw (error : Exn) :
    Agrees related (throw error : Program Db Lock Exn Mark Query Answer Value) := trivial

theorem agrees_ofExcept (result : Except Exn Value) :
    Agrees related
      (MonadExcept.ofExcept result : Program Db Lock Exn Mark Query Answer Value) :=
  every_ofExcept result

theorem agrees_ask (query : Query) :
    Agrees related (ask query : Program Db Lock Exn Mark Query Answer (Answer query)) :=
  every_ask trivial

theorem agrees_bind {program : Program Db Lock Exn Mark Query Answer Value}
    {rest : Value → Program Db Lock Exn Mark Query Answer Other}
    (first : Agrees related program) (second : ∀ value, Agrees related (rest value)) :
    Agrees related (program >>= rest) :=
  every_bind first second

theorem agrees_handle {program : Program Db Lock Exn Mark Query Answer Value}
    {handler : Exn → Program Db Lock Exn Mark Query Answer Value}
    (first : Agrees related program) (second : ∀ error, Agrees related (handler error)) :
    Agrees related (tryCatch program handler) :=
  every_handle first second

theorem agrees_forM {Item : Type} {visit : Item → Program Db Lock Exn Mark Query Answer PUnit}
    (each : ∀ item, Agrees related (visit item)) (items : List Item) :
    Agrees related (items.forM visit) :=
  every_forM each items

/-- A statement that writes nothing. -/
theorem agrees_reading {mark : Option Mark} {body : Statement Db Lock Exn Value}
    (reads : ∀ moment first second, related first second →
      ∃ one other, body moment first = .ok one ∧ body moment second = .ok other ∧
        one.value = other.value ∧ one.write.apply first = first ∧
        other.write.apply second = second) :
    Agrees related (perform mark body : Program Db Lock Exn Mark Query Answer Value) := by
  refine every_perform fun moment first second alike => Or.inr ?_
  obtain ⟨one, other, here, there, same, idle, idle_too⟩ := reads moment first second alike
  refine ⟨one, other, here, there, same, ?_⟩
  rw [idle, idle_too]
  exact alike

theorem agrees_query {read : Moment Db Lock → Db → Value}
    (same : ∀ moment first second, related first second → read moment first = read moment second) :
    Agrees related (query read : Program Db Lock Exn Mark Query Answer Value) :=
  agrees_reading fun moment first second alike =>
    ⟨_, _, rfl, rfl, same moment first second alike, rfl, rfl⟩

theorem agrees_markedQuery (mark : Mark) {read : Moment Db Lock → Db → Value}
    (same : ∀ moment first second, related first second → read moment first = read moment second) :
    Agrees related (markedQuery mark read : Program Db Lock Exn Mark Query Answer Value) :=
  agrees_reading fun moment first second alike =>
    ⟨_, _, rfl, rfl, same moment first second alike, rfl, rfl⟩

theorem agrees_lockRows {ref : TableRef Db Lock Key Row} (shared : Shared related ref)
    {chosen : Moment Db Lock → Db → Key → Row → Bool}
    (same : ∀ moment first second, related first second →
      chosen moment first = chosen moment second) :
    Agrees related (lockRows ref chosen :
      Program Db Lock Exn Mark Query Answer (List (Key × Row))) := by
  refine agrees_reading fun moment first second alike => ⟨_, _, rfl, rfl, ?_, rfl, rfl⟩
  change (ref.get first).select (chosen moment first) =
    (ref.get second).select (chosen moment second)
  rw [same moment first second alike, shared.same first second alike]

theorem agrees_updateChecked {ref : TableRef Db Lock Key Row} (mark : Option Mark)
    {refuse : Moment Db Lock → Db → Key → Row → Option Exn}
    {chosen : Moment Db Lock → Db → Key → Row → Bool} {change : Moment Db Lock → Row → Row}
    (shared : ∀ first second, related first second → ref.get first = ref.get second)
    (same : ∀ moment first second, related first second →
      chosen moment first = chosen moment second)
    (refused : ∀ moment first second, related first second →
      ∀ entry ∈ (ref.get first).select (chosen moment first),
        refuse moment first entry.1 entry.2 = refuse moment second entry.1 entry.2)
    (kept : ∀ moment first second, related first second →
      related (ref.set ((ref.get first).modify (chosen moment first) (change moment)) first)
        (ref.set ((ref.get second).modify (chosen moment second) (change moment)) second)) :
    Agrees related (updateChecked ref mark refuse chosen change :
      Program Db Lock Exn Mark Query Answer (List (Key × Row))) := by
  refine every_perform fun moment first second alike => ?_
  have rows : (ref.get second).select (chosen moment second) =
      (ref.get first).select (chosen moment first) := by
    rw [same moment first second alike, shared first second alike]
  have checks : ((ref.get second).select (chosen moment second)).findSome?
      (fun entry => refuse moment second entry.1 entry.2) =
      ((ref.get first).select (chosen moment first)).findSome?
        fun entry => refuse moment first entry.1 entry.2 := by
    rw [rows]
    apply findSome_congr
    intro entry member
    exact (refused moment first second alike entry member).symm
  dsimp only
  rw [checks]
  cases ((ref.get first).select (chosen moment first)).findSome?
      fun entry => refuse moment first entry.1 entry.2 with
  | some error => exact Or.inl ⟨error, rfl, rfl⟩
  | none =>
      refine Or.inr ⟨_, _, rfl, rfl, rows.symm, ?_⟩
      simp only [Effect.writing, Write.modify, Write.ofTable, Table.select_modify]
      exact kept moment first second alike

theorem agrees_update {ref : TableRef Db Lock Key Row} (shared : Shared related ref)
    {chosen : Moment Db Lock → Db → Key → Row → Bool}
    (same : ∀ moment first second, related first second →
      chosen moment first = chosen moment second)
    (change : Moment Db Lock → Row → Row) :
    Agrees related (update ref chosen change :
      Program Db Lock Exn Mark Query Answer (List (Key × Row))) := by
  refine agrees_updateChecked none shared.same same (fun _ _ _ _ _ _ => rfl) ?_
  intro moment first second alike
  rw [same moment first second alike, shared.same first second alike]
  exact shared.kept first second _ alike

theorem agrees_insertNew {ref : TableRef Db Lock Key Row} (shared : Shared related ref)
    (key : Key) (row : Moment Db Lock → Row) :
    Agrees related (insertNew ref key row : Program Db Lock Exn Mark Query Answer Bool) := by
  refine every_perform fun moment first second alike => Or.inr ?_
  rw [shared.same first second alike]
  cases (ref.get second).lookup key with
  | some _ => exact ⟨_, _, rfl, rfl, rfl, alike⟩
  | none =>
      refine ⟨_, _, rfl, rfl, rfl, ?_⟩
      change related (ref.set ((ref.get first).insert key (row moment)) first)
        (ref.set ((ref.get second).insert key (row moment)) second)
      rw [shared.same first second alike]
      exact shared.kept first second _ alike

theorem agrees_upsertRow {ref : TableRef Db Lock Key Row} (shared : Shared related ref)
    (mark : Option Mark) (key : Key) (row : Moment Db Lock → Row)
    (change : Moment Db Lock → Row → Row) :
    Agrees related (upsertRow ref mark key row change :
      Program Db Lock Exn Mark Query Answer Unit) := by
  refine every_perform fun moment first second alike => Or.inr ⟨_, _, rfl, rfl, rfl, ?_⟩
  change related (ref.set ((ref.get first).upsert key (row moment) (change moment)) first)
    (ref.set ((ref.get second).upsert key (row moment) (change moment)) second)
  rw [shared.same first second alike]
  exact shared.kept first second _ alike

theorem agrees_appendRow {log : LogRef Db Lock Row}
    (kept : ∀ first second (row : Row), related first second →
      related (log.set (log.get first ++ [row]) first) (log.set (log.get second ++ [row]) second))
    (row : Moment Db Lock → Row) :
    Agrees related (appendRow log row : Program Db Lock Exn Mark Query Answer Unit) := by
  refine every_perform fun moment first second alike => Or.inr ⟨_, _, rfl, rfl, rfl, ?_⟩
  exact kept first second (row moment) alike

/-- In related states the program has one result, asks for as many answers, and leaves
related states. -/
theorem solo_agrees {oracle : Nat → (query : Query) → Answer query} {fault : Exn}
    {moment : Moment Db Lock} {program : Program Db Lock Exn Mark Query Answer Value}
    (agrees : Agrees related program) {first second : Db} (alike : related first second)
    (answered : Nat) (failed : Bool) :
    (solo oracle fault moment program ⟨first, answered, failed⟩).1 =
        (solo oracle fault moment program ⟨second, answered, failed⟩).1 ∧
      (solo oracle fault moment program ⟨first, answered, failed⟩).2.answered =
        (solo oracle fault moment program ⟨second, answered, failed⟩).2.answered ∧
      (solo oracle fault moment program ⟨first, answered, failed⟩).2.failed =
        (solo oracle fault moment program ⟨second, answered, failed⟩).2.failed ∧
      related (solo oracle fault moment program ⟨first, answered, failed⟩).2.db
        (solo oracle fault moment program ⟨second, answered, failed⟩).2.db := by
  induction program generalizing first second answered failed with
  | done value => exact ⟨rfl, rfl, rfl, alike⟩
  | raise error => exact ⟨rfl, rfl, rfl, alike⟩
  | statement mark body next induction =>
      unfold solo
      cases failed with
      | true => exact induction _ (agrees.2 _) alike answered true
      | false =>
          rw [if_neg Bool.false_ne_true, if_neg Bool.false_ne_true]
          rcases agrees.1 moment first second alike with
            ⟨error, here, there⟩ | ⟨one, other, here, there, same, later⟩
          · rw [here, there]
            exact induction _ (agrees.2 _) alike answered true
          · rw [here, there]
            dsimp only
            rw [same]
            exact induction _ (agrees.2 _) later answered false
  | call query next induction =>
      exact induction _ (agrees.2 _) alike (answered + 1) failed

end Program

end Relational
