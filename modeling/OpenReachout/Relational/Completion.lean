import OpenReachout.Relational.Solo

/-!
# Transactions that complete

`Completes` says of a transaction on its own that it returns, with none of its
statements failed, and in which states it can leave the store: there is one rule
for each kind of statement, one for sequence, one for handlers and one for loops.
`Ends` asks this only where the transaction must return.
-/

namespace Relational

set_option autoImplicit false

namespace Program

variable {Db Lock Exn Mark Query : Type} {Answer : Query → Type} [Lockable Db Lock]
variable {Value Other : Type}
variable (oracle : Nat → (query : Query) → Answer query) (fault : Exn) (moment : Moment Db Lock)

def Completes (program : Program Db Lock Exn Mark Query Answer Value) (db : Db) (answered : Nat)
    (post : Value → Db → Nat → Prop) : Prop :=
  ∃ value later taken, solo oracle fault moment program ⟨db, answered, false⟩ =
      (.ok value, ⟨later, taken, false⟩) ∧ answered ≤ taken ∧ post value later taken

variable {oracle fault moment}
variable {program : Program Db Lock Exn Mark Query Answer Value} {db : Db} {answered : Nat}
variable {post : Value → Db → Nat → Prop}

theorem completes_pure (value : Value) (holds : post value db answered) :
    Completes oracle fault moment (pure value : Program Db Lock Exn Mark Query Answer Value) db
      answered post :=
  ⟨value, db, answered, rfl, Nat.le_refl _, holds⟩

theorem Completes.mono {weaker : Value → Db → Nat → Prop}
    (done : Completes oracle fault moment program db answered post)
    (onward : ∀ value later taken, answered ≤ taken → post value later taken →
      weaker value later taken) :
    Completes oracle fault moment program db answered weaker := by
  obtain ⟨value, later, taken, ended, counted, holds⟩ := done
  exact ⟨value, later, taken, ended, counted, onward value later taken counted holds⟩

/-- A transaction on its own has one outcome, of which all holds that is proved. -/
theorem Completes.and {other : Value → Db → Nat → Prop}
    (done : Completes oracle fault moment program db answered post)
    (again : Completes oracle fault moment program db answered other) :
    Completes oracle fault moment program db answered fun value later taken =>
      post value later taken ∧ other value later taken := by
  obtain ⟨value, later, taken, ended, counted, holds⟩ := done
  obtain ⟨same, last, total, finished, -, also_holds⟩ := again
  rw [ended] at finished
  cases finished
  exact ⟨value, later, taken, ended, counted, holds, also_holds⟩

/-- What follows has to complete from where the first part may leave the store. -/
theorem completes_bind {rest : Value → Program Db Lock Exn Mark Query Answer Other}
    {last : Other → Db → Nat → Prop}
    (first : Completes oracle fault moment program db answered fun value middle taken =>
      Completes oracle fault moment (rest value) middle taken last) :
    Completes oracle fault moment (program >>= rest) db answered last := by
  obtain ⟨value, middle, taken, ended, counted, other, later, total, finished, more, reached⟩ :=
    first
  refine ⟨other, later, total, ?_, Nat.le_trans counted more, reached⟩
  rw [solo_bind, ended]
  exact finished

theorem completes_handle {handler : Exn → Program Db Lock Exn Mark Query Answer Value}
    (body : Completes oracle fault moment program db answered post) :
    Completes oracle fault moment (tryCatch program handler) db answered post := by
  obtain ⟨value, later, taken, ended, counted, holds⟩ := body
  refine ⟨value, later, taken, ?_, counted, holds⟩
  rw [solo_handle, ended]

theorem completes_handle_raised {handler : Exn → Program Db Lock Exn Mark Query Answer Value}
    {error : Exn}
    (raised : solo oracle fault moment program ⟨db, answered, false⟩ =
      (.error error, ⟨db, answered, false⟩))
    (handled : Completes oracle fault moment (handler error) db answered post) :
    Completes oracle fault moment (tryCatch program handler) db answered post := by
  obtain ⟨value, later, taken, ended, counted, holds⟩ := handled
  refine ⟨value, later, taken, ?_, counted, holds⟩
  rw [solo_handle, raised]
  exact ended

theorem completes_perform {mark : Option Mark} {body : Statement Db Lock Exn Value}
    {effect : Effect Db Lock Value} (success : body moment db = .ok effect)
    (holds : post effect.value (effect.write.apply db) answered) :
    Completes oracle fault moment (perform mark body : Program Db Lock Exn Mark Query Answer Value)
      db answered post := by
  refine ⟨effect.value, effect.write.apply db, answered, ?_, Nat.le_refl _, holds⟩
  rw [solo_perform, success]

theorem completes_query (read : Moment Db Lock → Db → Value)
    (holds : post (read moment db) db answered) :
    Completes oracle fault moment (query read : Program Db Lock Exn Mark Query Answer Value) db
      answered post :=
  completes_perform rfl holds

theorem completes_markedQuery (mark : Mark) (read : Moment Db Lock → Db → Value)
    (holds : post (read moment db) db answered) :
    Completes oracle fault moment
      (markedQuery mark read : Program Db Lock Exn Mark Query Answer Value) db answered post :=
  completes_perform rfl holds

theorem completes_ask (query : Query) {post : Answer query → Db → Nat → Prop}
    (holds : post (oracle answered query) db (answered + 1)) :
    Completes oracle fault moment (ask query : Program Db Lock Exn Mark Query Answer _) db answered
      post :=
  ⟨_, db, answered + 1, rfl, Nat.le_succ _, holds⟩

theorem completes_ofExcept (value : Value) (holds : post value db answered) :
    Completes oracle fault moment
      (MonadExcept.ofExcept (Except.ok value) : Program Db Lock Exn Mark Query Answer Value) db
      answered post :=
  completes_pure value holds

section Statements

variable {Key Row : Type} [DecidableEq Key]

theorem completes_lockRowsMarked (ref : TableRef Db Lock Key Row) (mark : Option Mark)
    (chosen : Moment Db Lock → Db → Key → Row → Bool)
    {post : List (Key × Row) → Db → Nat → Prop}
    (holds : post ((ref.get db).select (chosen moment db)) db answered) :
    Completes oracle fault moment (lockRowsMarked ref mark chosen :
      Program Db Lock Exn Mark Query Answer (List (Key × Row))) db answered post :=
  completes_perform rfl holds

theorem completes_update (ref : TableRef Db Lock Key Row)
    (chosen : Moment Db Lock → Db → Key → Row → Bool) (change : Moment Db Lock → Row → Row)
    {post : List (Key × Row) → Db → Nat → Prop}
    (holds : post ((ref.get db).select (chosen moment db))
      (ref.set ((ref.get db).modify (chosen moment db) (change moment)) db) answered) :
    Completes oracle fault moment (update ref chosen change :
      Program Db Lock Exn Mark Query Answer (List (Key × Row))) db answered post :=
  ⟨_, _, answered, solo_update ref chosen change db answered, Nat.le_refl _, holds⟩

theorem completes_updateChecked (ref : TableRef Db Lock Key Row) (mark : Option Mark)
    (refuse : Moment Db Lock → Db → Key → Row → Option Exn)
    (chosen : Moment Db Lock → Db → Key → Row → Bool) (change : Moment Db Lock → Row → Row)
    {post : List (Key × Row) → Db → Nat → Prop}
    (accepted : ∀ entry ∈ (ref.get db).select (chosen moment db),
      refuse moment db entry.1 entry.2 = none)
    (holds : post ((ref.get db).select (chosen moment db))
      (ref.set ((ref.get db).modify (chosen moment db) (change moment)) db) answered) :
    Completes oracle fault moment (updateChecked ref mark refuse chosen change :
      Program Db Lock Exn Mark Query Answer (List (Key × Row))) db answered post := by
  refine ⟨_, _, answered, ?_, Nat.le_refl _, holds⟩
  rw [solo_updateChecked, List.findSome?_eq_none_iff.2 accepted]

theorem completes_insertRow (ref : TableRef Db Lock Key Row) (mark : Option Mark)
    (duplicate : Exn) (refuse : Moment Db Lock → Db → Row → Option Exn) (key : Key)
    (row : Moment Db Lock → Row) {post : Unit → Db → Nat → Prop}
    (accepted : refuse moment db (row moment) = none) (fresh : (ref.get db).lookup key = none)
    (holds : post () (ref.set ((ref.get db).insert key (row moment)) db) answered) :
    Completes oracle fault moment (insertRow ref mark duplicate refuse key row :
      Program Db Lock Exn Mark Query Answer Unit) db answered post := by
  refine ⟨(), _, answered, ?_, Nat.le_refl _, holds⟩
  unfold insertRow
  rw [solo_perform, accepted, fresh]
  rfl

theorem completes_insertNew (ref : TableRef Db Lock Key Row) (key : Key)
    (row : Moment Db Lock → Row) {post : Bool → Db → Nat → Prop}
    (present : ∀ old, (ref.get db).lookup key = some old → post false db answered)
    (absent : (ref.get db).lookup key = none →
      post true (ref.set ((ref.get db).insert key (row moment)) db) answered) :
    Completes oracle fault moment (insertNew ref key row :
      Program Db Lock Exn Mark Query Answer Bool) db answered post := by
  cases found : (ref.get db).lookup key with
  | some old =>
      refine ⟨_, _, _, ?_, Nat.le_refl _, present old found⟩
      rw [solo_insertNew, found]
      rfl
  | none =>
      refine ⟨_, _, _, ?_, Nat.le_refl _, absent found⟩
      rw [solo_insertNew, found]
      rfl

theorem completes_upsertRow (ref : TableRef Db Lock Key Row) (mark : Option Mark) (key : Key)
    (row : Moment Db Lock → Row) (change : Moment Db Lock → Row → Row)
    {post : Unit → Db → Nat → Prop}
    (holds : post () (ref.set ((ref.get db).upsert key (row moment) (change moment)) db)
      answered) :
    Completes oracle fault moment (upsertRow ref mark key row change :
      Program Db Lock Exn Mark Query Answer Unit) db answered post :=
  completes_perform rfl holds

theorem completes_appendRow {Entry : Type} (log : LogRef Db Lock Entry)
    (row : Moment Db Lock → Entry) {post : Unit → Db → Nat → Prop}
    (holds : post () (log.set (log.get db ++ [row moment]) db) answered) :
    Completes oracle fault moment (appendRow log row :
      Program Db Lock Exn Mark Query Answer Unit) db answered post :=
  completes_perform rfl holds

end Statements

section Ends

/-- There is no way in which the program returns with none of its statements failed. -/
def NeverEnds (oracle : Nat → (query : Query) → Answer query) (fault : Exn)
    (moment : Moment Db Lock) (program : Program Db Lock Exn Mark Query Answer Value) (db : Db)
    (answered : Nat) : Prop :=
  ∀ value later taken, solo oracle fault moment program ⟨db, answered, false⟩ ≠
    (.ok value, ⟨later, taken, false⟩)

/-- Where it must, the program completes, and where it completes the condition holds. -/
def Ends (oracle : Nat → (query : Query) → Answer query) (fault : Exn) (moment : Moment Db Lock)
    (must : Prop) (program : Program Db Lock Exn Mark Query Answer Value) (db : Db)
    (answered : Nat) (post : Value → Db → Nat → Prop) : Prop :=
  Completes oracle fault moment program db answered post ∨
    ¬ must ∧ NeverEnds oracle fault moment program db answered

variable {must : Prop}

theorem ends_of_completes (done : Completes oracle fault moment program db answered post) :
    Ends oracle fault moment must program db answered post :=
  Or.inl done

theorem Ends.completes (ended : Ends oracle fault moment must program db answered post)
    (holds : must) : Completes oracle fault moment program db answered post := by
  rcases ended with done | ⟨spared, _⟩
  · exact done
  · exact absurd holds spared

/-- What holds of a program that has returned. -/
theorem Ends.post_of_ok (ended : Ends oracle fault moment must program db answered post)
    {value : Value} {later : Db} {taken : Nat}
    (ok : solo oracle fault moment program ⟨db, answered, false⟩ =
      (.ok value, ⟨later, taken, false⟩)) : answered ≤ taken ∧ post value later taken := by
  rcases ended with ⟨value', later', taken', done, counted, holds⟩ | ⟨_, never⟩
  · have same := done.symm.trans ok
    simp only [Prod.mk.injEq, Except.ok.injEq, Alone.mk.injEq] at same
    obtain ⟨rfl, rfl, rfl, _⟩ := same
    exact ⟨counted, holds⟩
  · exact absurd ok (never value later taken)

theorem Ends.mono {weaker : Value → Db → Nat → Prop}
    (ended : Ends oracle fault moment must program db answered post)
    (onward : ∀ value later taken, answered ≤ taken → post value later taken →
      weaker value later taken) :
    Ends oracle fault moment must program db answered weaker := by
  rcases ended with done | never
  · exact Or.inl (done.mono onward)
  · exact Or.inr never

/-- A statement that has failed stays failed. -/
theorem solo_failed (program : Program Db Lock Exn Mark Query Answer Value) (alone : Alone Db)
    (failed : alone.failed = true) : (solo oracle fault moment program alone).2.failed = true := by
  induction program generalizing alone with
  | done value => exact failed
  | raise error => exact failed
  | statement mark body next induction =>
      unfold solo
      rw [if_pos failed]
      exact induction _ _ failed
  | call query next induction =>
      unfold solo
      exact induction _ _ failed

theorem ends_bind {rest : Value → Program Db Lock Exn Mark Query Answer Other}
    {last : Other → Db → Nat → Prop}
    (first : Ends oracle fault moment must program db answered fun value middle taken =>
      Ends oracle fault moment must (rest value) middle taken last) :
    Ends oracle fault moment must (program >>= rest) db answered last := by
  rcases first with ⟨value, middle, taken, ended, counted, inner⟩ | ⟨spared, never⟩
  · rcases inner with done | ⟨spared, never⟩
    · exact Or.inl (completes_bind ⟨value, middle, taken, ended, counted, done⟩)
    · refine Or.inr ⟨spared, ?_⟩
      intro other later total ok
      rw [solo_bind, ended] at ok
      exact never other later total ok
  · refine Or.inr ⟨spared, ?_⟩
    intro other later total ok
    rw [solo_bind] at ok
    cases outcome : solo oracle fault moment program ⟨db, answered, false⟩ with
    | mk result after =>
        rw [outcome] at ok
        cases result with
        | error error => cases (congrArg Prod.fst ok : Except.error _ = Except.ok _)
        | ok value =>
            cases failed : after.failed with
            | true =>
                have still : (solo oracle fault moment (rest value) after).2.failed = true :=
                  solo_failed (rest value) after failed
                rw [show solo oracle fault moment (rest value) after = _ from ok] at still
                cases still
            | false =>
                apply never value after.db after.answered
                rw [outcome, ← failed]

theorem ends_throw (spared : ¬ must) (error : Exn) :
    Ends oracle fault moment must
      (throw error : Program Db Lock Exn Mark Query Answer Value) db answered post :=
  Or.inr ⟨spared, fun _ _ _ ok => by cases (congrArg Prod.fst ok : Except.error _ = Except.ok _)⟩

variable {Key Row : Type} [DecidableEq Key]

/-- An insertion that is refused does not return. -/
theorem ends_insertRow (spared : ¬ must) (ref : TableRef Db Lock Key Row) (mark : Option Mark)
    (duplicate : Exn) (refuse : Moment Db Lock → Db → Row → Option Exn) (key : Key)
    (row : Moment Db Lock → Row) {post : Unit → Db → Nat → Prop}
    (holds : (ref.get db).lookup key = none →
      post () (ref.set ((ref.get db).insert key (row moment)) db) answered) :
    Ends oracle fault moment must (insertRow ref mark duplicate refuse key row :
      Program Db Lock Exn Mark Query Answer Unit) db answered post := by
  cases refused : refuse moment db (row moment) with
  | some error =>
      refine Or.inr ⟨spared, fun _ _ _ ok => ?_⟩
      unfold insertRow at ok
      rw [solo_perform, refused] at ok
      cases (congrArg Prod.fst ok : Except.error _ = Except.ok _)
  | none =>
      cases found : (ref.get db).lookup key with
      | some old =>
          refine Or.inr ⟨spared, fun _ _ _ ok => ?_⟩
          unfold insertRow at ok
          rw [solo_perform, refused, found] at ok
          cases (congrArg Prod.fst ok : Except.error _ = Except.ok _)
      | none => exact Or.inl (completes_insertRow _ _ _ _ _ _ refused found (holds found))

end Ends

/-- A loop that keeps an invariant and goes along a transitive relation. -/
theorem completes_forM {Item : Type} {visit : Item → Program Db Lock Exn Mark Query Answer PUnit}
    {invariant : Db → Nat → Prop} {related : Db → Db → Prop} (items : List Item)
    (each : ∀ item ∈ items, ∀ db answered, invariant db answered →
      Completes oracle fault moment (visit item) db answered fun _ later taken =>
        invariant later taken ∧ related db later)
    (reflexive : ∀ db, related db db)
    (transitive : ∀ {first second third}, related first second → related second third →
      related first third) (db : Db) (answered : Nat) (start : invariant db answered) :
    Completes oracle fault moment (items.forM visit) db answered fun _ later taken =>
      invariant later taken ∧ related db later := by
  induction items generalizing db answered with
  | nil => exact completes_pure _ ⟨start, reflexive db⟩
  | cons item items induction =>
      refine completes_bind ((each item List.mem_cons_self db answered start).mono ?_)
      intro _ middle taken _ held
      have rest := induction (fun later member => each later (List.mem_cons_of_mem _ member))
        middle taken held.1
      exact rest.mono fun _ _ _ _ reached => ⟨reached.1, transitive held.2 reached.2⟩

/-- A loop that keeps an invariant. -/
theorem completes_forM_keeps {Item : Type}
    {visit : Item → Program Db Lock Exn Mark Query Answer PUnit} {invariant : Db → Nat → Prop}
    (items : List Item) (each : ∀ item ∈ items, ∀ db answered, invariant db answered →
      Completes oracle fault moment (visit item) db answered fun _ later taken =>
        invariant later taken) (db : Db) (answered : Nat) (start : invariant db answered) :
    Completes oracle fault moment (items.forM visit) db answered fun _ later taken =>
      invariant later taken := by
  induction items generalizing db answered with
  | nil => exact completes_pure _ start
  | cons item items induction =>
      refine completes_bind ((each item List.mem_cons_self db answered start).mono ?_)
      intro _ middle taken _ held
      exact induction (fun later member => each later (List.mem_cons_of_mem _ member)) middle taken
        held

/-- A loop of which every item does something that the later ones do not undo. -/
theorem completes_forM_each {Item : Type}
    {visit : Item → Program Db Lock Exn Mark Query Answer PUnit} {invariant : Db → Nat → Prop}
    {finished : Item → Db → Prop} (items : List Item)
    (each : ∀ item ∈ items, ∀ db answered, invariant db answered →
      Completes oracle fault moment (visit item) db answered fun _ later taken =>
        invariant later taken ∧ finished item later ∧
          ∀ other, finished other db → finished other later)
    (db : Db) (answered : Nat) (start : invariant db answered) :
    Completes oracle fault moment (items.forM visit) db answered fun _ later taken =>
      invariant later taken ∧ (∀ item ∈ items, finished item later) ∧
        ∀ other, finished other db → finished other later := by
  induction items generalizing db answered with
  | nil =>
      exact completes_pure _ ⟨start, fun _ member => absurd member List.not_mem_nil,
        fun _ holds => holds⟩
  | cons item items induction =>
      refine completes_bind ((each item List.mem_cons_self db answered start).mono ?_)
      intro _ middle taken _ held
      have rest := induction (fun later member => each later (List.mem_cons_of_mem _ member))
        middle taken held.1
      refine rest.mono fun _ _ _ _ reached => ⟨reached.1, fun other member => ?_,
        fun other holds => reached.2.2 other (held.2.2 other holds)⟩
      rcases List.mem_cons.1 member with rfl | inside
      · exact reached.2.2 other held.2.1
      · exact reached.2.1 other inside

/-- A loop that returns has returned from each of its items. -/
theorem ok_of_solo_forM {Item : Type}
    {visit : Item → Program Db Lock Exn Mark Query Answer PUnit} (items : List Item)
    {value : PUnit} {before after : Alone Db}
    (ended : solo oracle fault moment (items.forM visit) before = (.ok value, after)) :
    ∀ item ∈ items, ∃ first second result,
      solo oracle fault moment (visit item) first = (.ok result, second) := by
  induction items generalizing before with
  | nil => exact fun _ member => absurd member List.not_mem_nil
  | cons item items induction =>
      change solo oracle fault moment (visit item >>= fun _ => items.forM visit) before = _ at ended
      rw [solo_bind] at ended
      cases first : solo oracle fault moment (visit item) before with
      | mk outcome middle =>
          rw [first] at ended
          cases outcome with
          | error error => cases (congrArg Prod.fst ended : Except.error _ = Except.ok _)
          | ok result =>
              intro other member
              rcases List.mem_cons.1 member with rfl | later
              · exact ⟨before, middle, result, first⟩
              · exact induction ended other later

theorem solo_forM_append {Item : Type}
    {visit : Item → Program Db Lock Exn Mark Query Answer PUnit} (first second : List Item)
    (before : Alone Db) :
    solo oracle fault moment ((first ++ second).forM visit) before =
      match solo oracle fault moment (first.forM visit) before with
      | (.ok _, middle) => solo oracle fault moment (second.forM visit) middle
      | (.error error, middle) => (.error error, middle) := by
  induction first generalizing before with
  | nil => rfl
  | cons item items induction =>
      change solo oracle fault moment (visit item >>= fun _ => (items ++ second).forM visit) before =
        match solo oracle fault moment (visit item >>= fun _ => items.forM visit) before with
        | (.ok _, middle) => solo oracle fault moment (second.forM visit) middle
        | (.error error, middle) => (.error error, middle)
      rw [solo_bind, solo_bind]
      rcases solo oracle fault moment (visit item) before with ⟨error | result, middle⟩
      · rfl
      · exact induction middle

end Program

end Relational
