import OpenReachout.Relational.System
import OpenReachout.Relational.Statement

/-!
# What a transaction commits

A transaction executes its statements at different times and commits them at
once. `Ensures` is a triple about the state it comes to commit on: what is
written there was decided on earlier views, and what those views showed carries
over to the commit for the rows that were locked, and otherwise as far as the
state only moves on. A program follows a rule if all it commits leads along it.
-/

namespace Relational

set_option autoImplicit false

variable {Db Lock Exn Mark Query : Type} {Answer : Query → Type} [Lockable Db Lock]

namespace Txn

variable {txn : Txn Db Lock Mark Query} {early late : Db}

/-- A row looks the same to the transaction at two times, as nobody changed it, or
it is as committed at both. -/
theorem view_cell_cases (covered : txn.Covered) (stable_early : txn.Stable early)
    (stable_late : txn.Stable late) (lock : Lock) :
    Lockable.cell lock (txn.view early) = Lockable.cell lock (txn.view late) ∧
        Lockable.cell lock early = Lockable.cell lock late ∨
      Lockable.cell lock (txn.view early) = Lockable.cell lock early ∧
        Lockable.cell lock (txn.view late) = Lockable.cell lock late := by
  by_cases held : lock ∈ txn.held.map Prod.fst
  · left
    obtain ⟨entry, member, rfl⟩ := List.mem_map.1 held
    have same := (stable_early entry member).trans (stable_late entry member).symm
    exact ⟨txn.cell_view_congr _ _ _ same, same⟩
  · right
    have outside : ∀ write ∈ txn.writes, lock ∉ write.footprint := fun write written inside =>
      held (covered write written lock inside)
    exact ⟨txn.cell_view_of_footprint early lock outside,
      txn.cell_view_of_footprint late lock outside⟩

theorem stable_of_record {Value : Type} {mark : Option Mark} {effect : Effect Db Lock Value}
    {seen db : Db} (stable : (txn.record mark effect seen).Stable db) : txn.Stable db :=
  fun entry member => stable entry (by simp [record, member])

/-- The rows a statement has locked are committed as it saw them. -/
theorem cell_of_record {Value : Type} {mark : Option Mark} {effect : Effect Db Lock Value}
    {seen db : Db} (stable : (txn.record mark effect seen).Stable db) {lock : Lock}
    (locked : lock ∈ effect.locks) :
    Lockable.cell lock (txn.view db) = Lockable.cell lock (txn.view seen) := by
  apply txn.cell_view_congr
  have entry : (lock, seen) ∈ (txn.record mark effect seen).held := by
    simp [record, locked]
  exact stable _ entry

end Txn

theorem TableRef.lookup_of_record {Key Row Value : Type} [DecidableEq Key]
    (ref : TableRef Db Lock Key Row) {txn : Txn Db Lock Mark Query} {mark : Option Mark}
    {effect : Effect Db Lock Value} {seen db : Db} (stable : (txn.record mark effect seen).Stable db)
    {key : Key} (locked : ref.lock key ∈ effect.locks) :
    (ref.get (txn.view db)).lookup key = (ref.get (txn.view seen)).lookup key := by
  have cells := Txn.cell_of_record stable locked
  rw [ref.cell_eq, ref.cell_eq] at cells
  exact ref.ofRow_injective key cells

namespace Program

variable {Value Other : Type} {rely : Db → Db → Prop}

theorem exec_covered {program : Program Db Lock Exn Mark Query Answer Value}
    {a b : Point Db Lock Mark Query} {outcome : Except Exn Value} (covered : a.txn.Covered)
    (exec : Exec rely program a outcome b) : b.txn.Covered := by
  induction program generalizing a with
  | done value =>
      obtain ⟨_, rfl⟩ := exec
      exact covered
  | raise error =>
      obtain ⟨_, rfl⟩ := exec
      exact covered
  | statement mark body next induction =>
      obtain ⟨db, _, _, ⟨error, exec⟩ | ⟨_, busy, effect, _, exec⟩⟩ := exec
      · have failed : Txn.Covered (Point.txn ⟨db, a.txn.fail⟩) := covered
        exact induction _ failed exec
      · exact induction _ (Txn.covered_record covered mark effect db) exec
  | call query next induction =>
      obtain ⟨answer, exec⟩ := exec
      have asked : Txn.Covered (Point.txn ⟨a.committed, a.txn.asked query⟩) := covered
      exact induction _ asked exec

theorem exec_failed {program : Program Db Lock Exn Mark Query Answer Value}
    {a b : Point Db Lock Mark Query} {outcome : Except Exn Value}
    (exec : Exec rely program a outcome b) (intact : b.txn.failed = false) :
    a.txn.failed = false := by
  induction program generalizing a with
  | done value =>
      obtain ⟨_, rfl⟩ := exec
      exact intact
  | raise error =>
      obtain ⟨_, rfl⟩ := exec
      exact intact
  | statement mark body next induction =>
      obtain ⟨db, _, _, ⟨error, exec⟩ | ⟨intact, _, _, _, exec⟩⟩ := exec
      · have failed := induction _ exec
        exact absurd failed (by simp [Txn.fail])
      · exact intact
  | call query next induction =>
      obtain ⟨answer, exec⟩ := exec
      have rest := induction _ exec
      exact rest

/-- In a transaction that did not fail, a statement has been executed. -/
theorem exec_statement {mark : Option Mark} {body : Statement Db Lock Exn Value}
    {rest : Value → Program Db Lock Exn Mark Query Answer Other} {a b : Point Db Lock Mark Query}
    {outcome : Except Exn Other} (exec : Exec rely (perform mark body >>= rest) a outcome b)
    (intact : b.txn.failed = false) :
    ∃ db busy effect, rely a.committed db ∧ a.txn.Stable db ∧
      body ⟨a.txn.start, busy⟩ (a.txn.view db) = .ok effect ∧
      Exec rely (rest effect.value) ⟨db, a.txn.record mark effect db⟩ outcome b := by
  rw [exec_bind] at exec
  rcases exec with ⟨value, middle, first, exec⟩ | ⟨error, _, first⟩
  · rw [exec_perform_ok] at first
    obtain ⟨db, later, stable, _, busy, effect, success, rfl, rfl⟩ := first
    exact ⟨db, busy, effect, later, stable, success, exec⟩
  · rw [exec_perform_error mark body a b error first] at intact
    exact absurd intact (by simp [Txn.fail])

theorem exec_last_statement {mark : Option Mark} {body : Statement Db Lock Exn Value}
    {a b : Point Db Lock Mark Query} {outcome : Except Exn Value}
    (exec : Exec rely (perform mark body : Program Db Lock Exn Mark Query Answer Value) a outcome b)
    (intact : b.txn.failed = false) :
    ∃ db busy effect, rely a.committed db ∧ a.txn.Stable db ∧
      body ⟨a.txn.start, busy⟩ (a.txn.view db) = .ok effect ∧
      outcome = .ok effect.value ∧ b = ⟨db, a.txn.record mark effect db⟩ := by
  cases outcome with
  | ok value =>
      rw [exec_perform_ok] at exec
      obtain ⟨db, later, stable, _, busy, effect, success, rfl, rfl⟩ := exec
      exact ⟨db, busy, effect, later, stable, success, rfl, rfl⟩
  | error error =>
      rw [exec_perform_error mark body a b error exec] at intact
      exact absurd intact (by simp [Txn.fail])

theorem exec_call {query : Query}
    {rest : Answer query → Program Db Lock Exn Mark Query Answer Other}
    {a b : Point Db Lock Mark Query} {outcome : Except Exn Other}
    (exec : Exec rely (ask query >>= rest) a outcome b) :
    ∃ answer, Exec rely (rest answer) ⟨a.committed, a.txn.asked query⟩ outcome b := by
  rw [exec_bind] at exec
  rcases exec with ⟨value, middle, first, exec⟩ | ⟨error, _, first⟩
  · rw [exec_ask] at first
    obtain ⟨answer, same, rfl⟩ := first
    obtain rfl := Except.ok.inj same
    exact ⟨value, exec⟩
  · rw [exec_ask] at first
    obtain ⟨answer, impossible, _⟩ := first
    exact absurd impossible (by simp)

end Program

/-- A view of the store in which the state only moves on, and what a step of a
transaction may do to it: `rule start` relates the views before and after a step
of a transaction that began at `start`, where the state was `sound`, and a marked
statement is executed where it is vouched for. -/
structure Abstraction (Db Lock Mark : Type) [Lockable Db Lock] where
  Abs : Type
  of : Db → Abs
  later : Abs → Abs → Prop
  order : Timeline later
  /-- `old` and `new` are what a transaction has made of `early` and `late` -/
  rowwise : ∀ {early late old new : Db}, later (of early) (of late) →
    later (of early) (of old) → later (of late) (of new) →
    (∀ lock, Lockable.cell lock old = Lockable.cell lock new ∧
        Lockable.cell lock early = Lockable.cell lock late ∨
      Lockable.cell lock old = Lockable.cell lock early ∧
        Lockable.cell lock new = Lockable.cell lock late) → later (of old) (of new)
  sound : Abs → Prop
  vouch : Mark → Abs → Prop
  rule : Abs → Abs → Abs → Prop
  rule_later : ∀ {start before after}, rule start before after → later before after

namespace Abstraction

variable (model : Abstraction Db Lock Mark)

def rely (old new : Db) : Prop := model.later (model.of old) (model.of new)

theorem rely_order : Timeline model.rely :=
  ⟨fun _ => model.order.refl _, fun one two => model.order.trans one two⟩

/-- The transaction can still commit, and its marked statements were vouched for. -/
structure Clean (txn : Txn Db Lock Mark Query) : Prop where
  intact : txn.failed = false
  vouched : ∀ entry ∈ txn.seen, model.vouch entry.1 (model.of entry.2)

/-- The writes of the transaction lead on from what is committed. -/
def Ahead (a : Point Db Lock Mark Query) : Prop :=
  ∀ db, model.rely a.committed db → a.txn.Stable db → model.rely db (a.txn.view db)

/-- The transaction in the middle of its work, with the rows `held` locked. -/
structure Standing (held : List Lock) (a : Point Db Lock Mark Query) : Prop where
  covered : a.txn.Covered
  sound : model.sound (model.of a.txn.start)
  since : model.rely a.txn.start a.committed
  ahead : model.Ahead a
  holding : held ⊆ a.txn.held.map Prod.fst

variable (held : List Lock)

/-- `post start value before after` holds, when the program returns `value`, of the
state that is committed on, without and with what the program wrote; the rows
`held` were locked before. -/
def Ensures {Value : Type} (program : Program Db Lock Exn Mark Query Answer Value)
    (post : Db → Value → Db → Db → Prop) : Prop :=
  ∀ a b value, model.Standing held a →
    Program.Exec model.rely program a (.ok value) b → model.Clean b.txn →
      ∀ db, model.rely b.committed db → b.txn.Stable db →
        post a.txn.start value (a.txn.view db) (b.txn.view db)

/-- The same when the program raises an exception that the transaction survives. -/
def Raises {Value : Type} (program : Program Db Lock Exn Mark Query Answer Value)
    (post : Db → Exn → Db → Db → Prop) : Prop :=
  ∀ a b error, model.Standing held a →
    Program.Exec model.rely program a (.error error) b → model.Clean b.txn →
      ∀ db, model.rely b.committed db → b.txn.Stable db →
        post a.txn.start error (a.txn.view db) (b.txn.view db)

/-- A program that raises no exception except where the transaction has failed. -/
def Sure {Value : Type} (program : Program Db Lock Exn Mark Query Answer Value) : Prop :=
  ∀ a b error, Program.Exec model.rely program a (.error error) b → b.txn.failed = true

/-- The rows that a program has locked when it returns. -/
def Takes {Value : Type} (program : Program Db Lock Exn Mark Query Answer Value)
    (locks : Value → List Lock) : Prop :=
  ∀ a b value, Program.Exec model.rely program a (.ok value) b →
    locks value ⊆ b.txn.held.map Prod.fst

/-- A state seen between the start of a transaction and the state `before` that it
is committed on, the same as that one in the rows held. -/
structure Glimpse (start before seen : Db) : Prop where
  sound : model.sound (model.of start)
  since : model.rely start seen
  until_ : model.rely seen before
  kept : ∀ lock ∈ held, Lockable.cell lock before = Lockable.cell lock seen

/-- What one statement does: it saw a glimpse, and what it has locked stays so. -/
structure Stated {Value : Type} (mark : Option Mark) (body : Statement Db Lock Exn Value)
    (start : Db) (value : Value) (before after : Db) (seen : Db) (busy : Lock → Bool)
    (effect : Effect Db Lock Value) : Prop where
  glimpse : model.Glimpse held start before seen
  success : body ⟨start, busy⟩ seen = .ok effect
  locked : ∀ lock ∈ effect.locks, Lockable.cell lock before = Lockable.cell lock seen
  value : value = effect.value
  wrote : after = effect.write.apply before
  vouched : ∀ named, mark = some named → model.vouch named (model.of seen)

/-- A triple about the view alone. -/
def Brings {Value : Type} (program : Program Db Lock Exn Mark Query Answer Value)
    (post : model.Abs → Value → model.Abs → model.Abs → Prop) : Prop :=
  model.Ensures held program fun start value before after =>
    post (model.of start) value (model.of before) (model.of after)

def Follows {Value : Type} (program : Program Db Lock Exn Mark Query Answer Value) : Prop :=
  model.Brings held program fun start _ before after =>
    Relation.ReflTransGen (model.rule start) before after

/-- The same on a premise about the view before. -/
def FollowsGiven {Value : Type} (premise : model.Abs → Prop)
    (program : Program Db Lock Exn Mark Query Answer Value) : Prop :=
  model.Brings held program fun start _ before after =>
    premise before → Relation.ReflTransGen (model.rule start) before after

/-- A program none of whose writes shows in the view. -/
def Quiet {Value : Type} (program : Program Db Lock Exn Mark Query Answer Value) : Prop :=
  Program.Only (fun write => ∀ db, model.of (write.apply db) = model.of db) program

variable {model held}
variable {Value Other : Type} {a b c : Point Db Lock Mark Query}
variable {post stronger : Db → Value → Db → Db → Prop}

theorem clean_of_exec {program : Program Db Lock Exn Mark Query Answer Value}
    {outcome : Except Exn Value} (exec : Program.Exec model.rely program a outcome b)
    (clean : model.Clean b.txn) : model.Clean a.txn where
  intact := Program.exec_failed exec clean.intact
  vouched entry member := clean.vouched entry
    ((Program.exec_extends model.rely_order exec).seen member)

theorem stable_of_held {early late : Txn Db Lock Mark Query} {db : Db}
    (held : early.held ⊆ late.held) (stable : late.Stable db) : early.Stable db :=
  fun entry member => stable entry (held member)

theorem standing_begin (db : Db) (sound : model.sound (model.of db)) :
    model.Standing [] (Point.begin db : Point Db Lock Mark Query) where
  covered := fun _ member => absurd member List.not_mem_nil
  sound := sound
  since := model.order.refl _
  ahead := fun _ _ _ => model.order.refl _
  holding := List.nil_subset _

theorem ahead_of_exec {program : Program Db Lock Exn Mark Query Answer Value}
    {outcome : Except Exn Value} (exec : Program.Exec model.rely program a outcome b)
    (ahead : model.Ahead a)
    (onward : ∀ db, model.rely b.committed db → b.txn.Stable db →
      model.rely (a.txn.view db) (b.txn.view db)) : model.Ahead b := by
  intro db later stable
  have further := Program.exec_extends model.rely_order exec
  have early := ahead db (model.order.trans further.rely later)
    (stable_of_held further.held stable)
  exact model.order.trans early (onward db later stable)

theorem standing_of_exec {program : Program Db Lock Exn Mark Query Answer Value}
    {outcome : Except Exn Value} (exec : Program.Exec model.rely program a outcome b)
    (standing : model.Standing held a)
    (onward : ∀ db, model.rely b.committed db → b.txn.Stable db →
      model.rely (a.txn.view db) (b.txn.view db)) : model.Standing held b where
  covered := Program.exec_covered standing.covered exec
  sound := by
    rw [(Program.exec_extends model.rely_order exec).start]
    exact standing.sound
  since := by
    have further := Program.exec_extends model.rely_order exec
    rw [further.start]
    exact model.order.trans standing.since further.rely
  ahead := ahead_of_exec exec standing.ahead onward
  holding := List.Subset.trans standing.holding
    (List.map_subset Prod.fst (Program.exec_extends model.rely_order exec).held)

theorem Ensures.mono {program : Program Db Lock Exn Mark Query Answer Value}
    (ensures : model.Ensures held program stronger)
    (weaken : ∀ start value before after, stronger start value before after →
      post start value before after) : model.Ensures held program post :=
  fun a b value standing exec clean db later stable =>
    weaken _ _ _ _ (ensures a b value standing exec clean db later stable)

theorem ensures_pure (value : Value) (holds : ∀ start db, post start value db db) :
    model.Ensures held (pure value : Program Db Lock Exn Mark Query Answer Value) post := by
  intro a b result _ exec _ db _ _
  obtain ⟨same, rfl⟩ := exec
  rw [Except.ok.inj same]
  exact holds _ _

theorem ensures_throw (error : Exn) :
    model.Ensures held (throw error : Program Db Lock Exn Mark Query Answer Value) post := by
  intro a b result _ exec _ db _ _
  exact absurd exec.1 (by simp)

theorem ensures_ofExcept (result : Except Exn Value)
    (holds : ∀ value, result = .ok value → ∀ start db, post start value db db) :
    model.Ensures held (MonadExcept.ofExcept result : Program Db Lock Exn Mark Query Answer Value)
      post := by
  cases result with
  | ok value => exact ensures_pure value (holds value rfl)
  | error error => exact ensures_throw error

theorem ensures_ask (query : Query) {post : Db → Answer query → Db → Db → Prop}
    (holds : ∀ answer start db, post start answer db db) :
    model.Ensures held (Program.ask query : Program Db Lock Exn Mark Query Answer (Answer query))
      post := by
  intro a b result _ exec _ db _ _
  rw [Program.exec_ask] at exec
  obtain ⟨answer, same, rfl⟩ := exec
  rw [Except.ok.inj same]
  exact holds _ _ _

/-- What a first part ensures is so when a second part has come to its end. -/
theorem ensures_early {program : Program Db Lock Exn Mark Query Answer Value}
    {rest : Program Db Lock Exn Mark Query Answer Other} {value : Value}
    {outcome : Except Exn Other} (ensures : model.Ensures held program post)
    (onward : ∀ start value before after, post start value before after →
      model.rely before after)
    (standing : model.Standing held a)
    (early : Program.Exec model.rely program a (.ok value) b)
    (late : Program.Exec model.rely rest b outcome c) (clean : model.Clean c.txn) {db : Db}
    (later : model.rely c.committed db) (stable : c.txn.Stable db) :
    model.Standing held b ∧ b.txn.start = a.txn.start ∧
      post a.txn.start value (a.txn.view db) (b.txn.view db) := by
  have further := Program.exec_extends model.rely_order late
  have clean_middle := clean_of_exec late clean
  have holds := ensures a b value standing early clean_middle
  refine ⟨?_, (Program.exec_extends model.rely_order early).start, ?_⟩
  · exact standing_of_exec early standing fun db later stable =>
      onward _ _ _ _ (holds db later stable)
  · exact holds db (model.order.trans further.rely later) (stable_of_held further.held stable)

theorem raises_early {program : Program Db Lock Exn Mark Query Answer Value}
    {rest : Program Db Lock Exn Mark Query Answer Other} {error : Exn}
    {outcome : Except Exn Other} {raised : Db → Exn → Db → Db → Prop}
    (raises : model.Raises held program raised)
    (onward : ∀ start error before after, raised start error before after →
      model.rely before after)
    (standing : model.Standing held a)
    (early : Program.Exec model.rely program a (.error error) b)
    (late : Program.Exec model.rely rest b outcome c) (clean : model.Clean c.txn) {db : Db}
    (later : model.rely c.committed db) (stable : c.txn.Stable db) :
    model.Standing held b ∧ b.txn.start = a.txn.start ∧
      raised a.txn.start error (a.txn.view db) (b.txn.view db) := by
  have further := Program.exec_extends model.rely_order late
  have clean_middle := clean_of_exec late clean
  have holds := raises a b error standing early clean_middle
  refine ⟨?_, (Program.exec_extends model.rely_order early).start, ?_⟩
  · exact standing_of_exec early standing fun db later stable =>
      onward _ _ _ _ (holds db later stable)
  · exact holds db (model.order.trans further.rely later) (stable_of_held further.held stable)

/-- The rule of sequence: the second part is about the state the first has led to,
and holds what the first has locked. -/
theorem ensures_bind_taking {program : Program Db Lock Exn Mark Query Answer Value}
    {rest : Value → Program Db Lock Exn Mark Query Answer Other}
    {goal : Db → Other → Db → Db → Prop} {locks : Value → List Lock}
    (first : model.Ensures held program post)
    (onward : ∀ start value before after, post start value before after →
      model.rely before after)
    (takes : model.Takes program locks)
    (second : ∀ value, model.Ensures (held ++ locks value) (rest value)
      fun start last middle after =>
        ∀ before, post start value before middle → goal start last before after) :
    model.Ensures held (program >>= rest) goal := by
  intro a b value standing exec clean db later stable
  rw [Program.exec_bind_ok] at exec
  obtain ⟨between, middle, early, late⟩ := exec
  obtain ⟨standing_middle, start, done⟩ :=
    ensures_early first onward standing early late clean later stable
  have holding : model.Standing (held ++ locks between) middle :=
    { standing_middle with
      holding := List.append_subset.2 ⟨standing_middle.holding, takes a middle between early⟩ }
  have rest := second between middle b value holding late clean db later stable
  rw [start] at rest
  exact rest _ done

theorem ensures_bind {program : Program Db Lock Exn Mark Query Answer Value}
    {rest : Value → Program Db Lock Exn Mark Query Answer Other}
    {goal : Db → Other → Db → Db → Prop} (first : model.Ensures held program post)
    (onward : ∀ start value before after, post start value before after →
      model.rely before after)
    (second : ∀ value, model.Ensures held (rest value) fun start last middle after =>
      ∀ before, post start value before middle → goal start last before after) :
    model.Ensures held (program >>= rest) goal := by
  intro a b value standing exec clean db later stable
  rw [Program.exec_bind_ok] at exec
  obtain ⟨between, middle, early, late⟩ := exec
  obtain ⟨standing_middle, start, done⟩ :=
    ensures_early first onward standing early late clean later stable
  have rest := second between middle b value standing_middle late clean db later stable
  rw [start] at rest
  exact rest _ done

theorem raises_bind {program : Program Db Lock Exn Mark Query Answer Value}
    {rest : Value → Program Db Lock Exn Mark Query Answer Other}
    {raised : Db → Exn → Db → Db → Prop} (first : model.Ensures held program post)
    (onward : ∀ start value before after, post start value before after →
      model.rely before after)
    (head : model.Raises held program raised)
    (second : ∀ value, model.Raises held (rest value) fun start error middle after =>
      ∀ before, post start value before middle → raised start error before after) :
    model.Raises held (program >>= rest) raised := by
  intro a b error standing exec clean db later stable
  rw [Program.exec_bind] at exec
  rcases exec with ⟨between, middle, early, late⟩ | ⟨_, same, early⟩
  · obtain ⟨standing_middle, start, done⟩ :=
      ensures_early first onward standing early late clean later stable
    have rest := second between middle b error standing_middle late clean db later stable
    rw [start] at rest
    exact rest _ done
  · obtain rfl := Except.error.inj same
    exact head a b error standing early clean db later stable

theorem ensures_handle {program : Program Db Lock Exn Mark Query Answer Value}
    {handler : Exn → Program Db Lock Exn Mark Query Answer Value}
    {raised : Db → Exn → Db → Db → Prop} (first : model.Ensures held program post)
    (failure : model.Raises held program raised)
    (onward : ∀ start error before after, raised start error before after →
      model.rely before after)
    (second : ∀ error, model.Ensures held (handler error) fun start last middle after =>
      ∀ before, raised start error before middle → post start last before after) :
    model.Ensures held (tryCatch program handler) post := by
  intro a b value standing exec clean db later stable
  rw [Program.exec_handle] at exec
  rcases exec with ⟨same, equal, early⟩ | ⟨error, middle, early, late⟩
  · obtain rfl := Except.ok.inj equal
    exact first a b value standing early clean db later stable
  · obtain ⟨standing_middle, start, done⟩ :=
      raises_early failure onward standing early late clean later stable
    have rest := second error middle b value standing_middle late clean db later stable
    rw [start] at rest
    exact rest _ done

/-- A loop whose body leads along a relation that holds between a state and itself
and is transitive. -/
theorem ensures_forM {Item : Type} {visit : Item → Program Db Lock Exn Mark Query Answer PUnit}
    {related : Db → Db → Db → Prop} (items : List Item)
    (each : ∀ item ∈ items, model.Ensures held (visit item) fun start _ before after =>
      related start before after)
    (reflexive : ∀ start db, related start db db)
    (transitive : ∀ {start first second third}, related start first second →
      related start second third → related start first third)
    (onward : ∀ {start before after}, related start before after → model.rely before after) :
    model.Ensures held (items.forM visit) fun start _ before after => related start before after := by
  induction items with
  | nil => exact ensures_pure _ fun start db => reflexive start db
  | cons item items induction =>
      refine ensures_bind (each item List.mem_cons_self) (fun _ _ _ _ => onward) fun _ => ?_
      have rest := induction fun later member => each later (List.mem_cons_of_mem _ member)
      exact rest.mono fun _ _ _ _ late _ early => transitive early late

/-- What a statement saw it saw after the point from which it was executed. -/
theorem stated_of_exec {mark : Option Mark} {body : Statement Db Lock Exn Value} {value : Value}
    (standing : model.Standing held a)
    (exec : Program.Exec model.rely
      (Program.perform mark body : Program Db Lock Exn Mark Query Answer Value) a (.ok value) b)
    (clean : model.Clean b.txn) {db : Db} (later : model.rely b.committed db)
    (stable : b.txn.Stable db) :
    ∃ seen busy effect, model.Stated held mark body a.txn.start value (a.txn.view db)
      (b.txn.view db) seen busy effect ∧ model.rely a.committed seen := by
  obtain ⟨seen, busy, effect, progress, stable_seen, success, same, rfl⟩ :=
    Program.exec_last_statement exec clean.intact
  have stable_db := Txn.stable_of_record stable
  have ahead := standing.ahead seen progress stable_seen
  have onward := model.order.trans progress ahead
  refine ⟨a.txn.view seen, busy, effect, ⟨⟨standing.sound, ?_, ?_, ?_⟩,
    success, ?_, Except.ok.inj same, Txn.view_record _ _ _ _ _, ?_⟩, onward⟩
  · exact model.order.trans standing.since onward
  · refine model.rowwise later ahead ?_ fun lock =>
      Txn.view_cell_cases standing.covered stable_seen stable_db lock
    exact standing.ahead db (model.order.trans progress later) stable_db
  · intro lock member
    obtain ⟨entry, taken, rfl⟩ := List.mem_map.1 (standing.holding member)
    apply a.txn.cell_view_congr
    exact (stable_db entry taken).trans (stable_seen entry taken).symm
  · exact fun lock member => Txn.cell_of_record stable member
  · rintro named rfl
    exact clean.vouched (named, a.txn.view seen) (by simp [Txn.record])

theorem ensures_perform (mark : Option Mark) (body : Statement Db Lock Exn Value) :
    model.Ensures held (Program.perform mark body : Program Db Lock Exn Mark Query Answer Value)
      fun start value before after => ∃ seen busy effect,
        model.Stated held mark body start value before after seen busy effect := by
  intro a b value standing exec clean db later stable
  obtain ⟨seen, busy, effect, stated, _⟩ := stated_of_exec standing exec clean later stable
  exact ⟨seen, busy, effect, stated⟩

theorem raises_perform (mark : Option Mark) (body : Statement Db Lock Exn Value)
    {raised : Db → Exn → Db → Db → Prop} :
    model.Raises held (Program.perform mark body : Program Db Lock Exn Mark Query Answer Value)
      raised := by
  intro a b error _ exec clean
  obtain ⟨_, _, _, _, _, _, impossible, _⟩ := Program.exec_last_statement exec clean.intact
  exact absurd impossible (by simp)

theorem sure_pure (value : Value) :
    model.Sure (pure value : Program Db Lock Exn Mark Query Answer Value) := by
  intro a b error exec
  exact absurd exec.1 (by simp)

theorem sure_perform (mark : Option Mark) (body : Statement Db Lock Exn Value) :
    model.Sure (Program.perform mark body : Program Db Lock Exn Mark Query Answer Value) := by
  intro a b error exec
  rw [Program.exec_perform_error mark body a b error exec]
  rfl

theorem sure_ask (query : Query) :
    model.Sure (Program.ask query : Program Db Lock Exn Mark Query Answer (Answer query)) := by
  intro a b error exec
  rw [Program.exec_ask] at exec
  obtain ⟨_, impossible, _⟩ := exec
  exact absurd impossible (by simp)

theorem sure_bind {program : Program Db Lock Exn Mark Query Answer Value}
    {rest : Value → Program Db Lock Exn Mark Query Answer Other} (first : model.Sure program)
    (second : ∀ value, model.Sure (rest value)) : model.Sure (program >>= rest) := by
  intro a b error exec
  rw [Program.exec_bind] at exec
  rcases exec with ⟨value, middle, _, late⟩ | ⟨_, same, early⟩
  · exact second value middle b error late
  · exact first a b _ early

theorem raises_of_sure {program : Program Db Lock Exn Mark Query Answer Value}
    (sure : model.Sure program) {raised : Db → Exn → Db → Db → Prop} :
    model.Raises held program raised := by
  intro a b error _ exec clean
  have failed := sure a b error exec
  rw [clean.intact] at failed
  cases failed

theorem raises_pure (value : Value) {raised : Db → Exn → Db → Db → Prop} :
    model.Raises held (pure value : Program Db Lock Exn Mark Query Answer Value) raised := by
  intro a b error _ exec
  exact absurd exec.1 (by simp)

theorem raises_throw (error : Exn) {raised : Db → Exn → Db → Db → Prop}
    (holds : ∀ start db, raised start error db db) :
    model.Raises held (throw error : Program Db Lock Exn Mark Query Answer Value) raised := by
  intro a b other _ exec _ db _ _
  obtain ⟨same, rfl⟩ := exec
  rw [Except.error.inj same]
  exact holds _ _

theorem raises_ask (query : Query) {raised : Db → Exn → Db → Db → Prop} :
    model.Raises held (Program.ask query : Program Db Lock Exn Mark Query Answer (Answer query))
      raised := by
  intro a b error _ exec
  rw [Program.exec_ask] at exec
  obtain ⟨_, impossible, _⟩ := exec
  exact absurd impossible (by simp)

/-- A result that is only read from. -/
theorem raises_map {program : Program Db Lock Exn Mark Query Answer Other}
    {raised : Db → Exn → Db → Db → Prop} (head : model.Raises held program raised)
    (read : Other → Value) :
    model.Raises held (program >>= fun result =>
      (pure (read result) : Program Db Lock Exn Mark Query Answer Value)) raised := by
  intro a b error standing exec clean db later stable
  rw [Program.exec_bind] at exec
  rcases exec with ⟨value, middle, early, late⟩ | ⟨_, same, early⟩
  · exact absurd late.1 (by simp)
  · obtain rfl := Except.error.inj same
    exact head a b error standing early clean db later stable

section Quiet

theorem quiet_rely {before after : Db} (same : model.of after = model.of before) :
    model.rely before after := by
  unfold rely
  rw [same]
  exact model.order.refl _

theorem ensures_quiet {program : Program Db Lock Exn Mark Query Answer Value}
    (quiet : model.Quiet program) :
    model.Ensures held program fun _ _ before after => model.of after = model.of before :=
  fun _ _ _ _ exec _ db _ _ => Program.exec_view_of_only quiet exec db

theorem raises_quiet {program : Program Db Lock Exn Mark Query Answer Value}
    (quiet : model.Quiet program) :
    model.Raises held program fun _ _ before after => model.of after = model.of before :=
  fun _ _ _ _ exec _ db _ _ => Program.exec_view_of_only quiet exec db

theorem raises_after {program : Program Db Lock Exn Mark Query Answer Value}
    {rest : Value → Program Db Lock Exn Mark Query Answer Other} (quiet : model.Quiet program)
    (second : ∀ value, model.Raises held (rest value) fun _ _ before after =>
      model.of after = model.of before) :
    model.Raises held (program >>= rest) fun _ _ before after =>
      model.of after = model.of before := by
  refine raises_bind (ensures_quiet quiet) (fun _ _ _ _ same => quiet_rely same)
    (raises_quiet quiet) fun value => ?_
  intro a b error standing exec clean db later stable before same
  rw [second value a b error standing exec clean db later stable, same]

end Quiet

section Brings

variable {goal : model.Abs → Value → model.Abs → model.Abs → Prop}
variable {first : model.Abs → Other → model.Abs → model.Abs → Prop}

theorem Brings.ensures {program : Program Db Lock Exn Mark Query Answer Value}
    (brings : model.Brings held program goal) :
    model.Ensures held program fun start value before after =>
      goal (model.of start) value (model.of before) (model.of after) := brings

theorem Follows.brings {program : Program Db Lock Exn Mark Query Answer Value}
    (follows : model.Follows held program) :
    model.Brings held program fun start _ before after =>
      Relation.ReflTransGen (model.rule start) before after := follows

/-- A first part of which more is known than the view shows. -/
theorem brings_from {program : Program Db Lock Exn Mark Query Answer Other}
    {rest : Other → Program Db Lock Exn Mark Query Answer Value}
    {post : Db → Other → Db → Db → Prop} (head : model.Ensures held program post)
    (onward : ∀ start value before after, post start value before after →
      model.rely before after)
    (second : ∀ value, model.Ensures held (rest value) fun start last middle after =>
      ∀ before, post start value before middle →
        goal (model.of start) last (model.of before) (model.of after)) :
    model.Brings held (program >>= rest) goal := ensures_bind head onward second

/-- A first part that locks rows as well. -/
theorem brings_taking {program : Program Db Lock Exn Mark Query Answer Other}
    {rest : Other → Program Db Lock Exn Mark Query Answer Value}
    {post : Db → Other → Db → Db → Prop} {locks : Other → List Lock}
    (head : model.Ensures held program post)
    (onward : ∀ start value before after, post start value before after →
      model.rely before after)
    (takes : model.Takes program locks)
    (second : ∀ value, model.Ensures (held ++ locks value) (rest value)
      fun start last middle after => ∀ before, post start value before middle →
        goal (model.of start) last (model.of before) (model.of after)) :
    model.Brings held (program >>= rest) goal := ensures_bind_taking head onward takes second

theorem Brings.mono {weaker : model.Abs → Value → model.Abs → model.Abs → Prop}
    {program : Program Db Lock Exn Mark Query Answer Value} (brings : model.Brings held program goal)
    (weaken : ∀ start value before after, goal start value before after →
      weaker start value before after) : model.Brings held program weaker :=
  Ensures.mono brings fun _ _ _ _ => weaken _ _ _ _

theorem brings_pure (value : Value) (holds : ∀ start view, goal start value view view) :
    model.Brings held (pure value : Program Db Lock Exn Mark Query Answer Value) goal :=
  ensures_pure value fun _ _ => holds _ _

theorem brings_ofExcept (result : Except Exn Value)
    (holds : ∀ value, result = .ok value → ∀ start view, goal start value view view) :
    model.Brings held (MonadExcept.ofExcept result : Program Db Lock Exn Mark Query Answer Value)
      goal :=
  ensures_ofExcept result fun value same _ _ => holds value same _ _

theorem brings_ask (query : Query) {goal : model.Abs → Answer query → model.Abs → model.Abs → Prop}
    (holds : ∀ answer start view, goal start answer view view) :
    model.Brings held (Program.ask query : Program Db Lock Exn Mark Query Answer (Answer query))
      goal :=
  ensures_ask query fun _ _ _ => holds _ _ _

theorem brings_throw (error : Exn) :
    model.Brings held (throw error : Program Db Lock Exn Mark Query Answer Value) goal :=
  ensures_throw error

theorem brings_bind {program : Program Db Lock Exn Mark Query Answer Other}
    {rest : Other → Program Db Lock Exn Mark Query Answer Value}
    (head : model.Brings held program first)
    (onward : ∀ start value before after, first start value before after →
      model.later before after)
    (second : ∀ value, model.Brings held (rest value) fun start last middle after =>
      ∀ before, first start value before middle → goal start last before after) :
    model.Brings held (program >>= rest) goal :=
  ensures_bind head (fun _ _ _ _ => onward _ _ _ _) fun value =>
    (second value).mono fun _ _ _ _ holds before => holds (model.of before)

/-- A result that is only read from. -/
theorem brings_map {program : Program Db Lock Exn Mark Query Answer Other}
    (brings : model.Brings held program first) (read : Other → Value) :
    model.Brings held (program >>= fun result =>
        (pure (read result) : Program Db Lock Exn Mark Query Answer Value))
      fun start value before after =>
        ∃ result, value = read result ∧ first start result before after := by
  intro a b value standing exec clean db later stable
  rw [Program.exec_bind_ok] at exec
  obtain ⟨result, middle, early, same, rfl⟩ := exec
  exact ⟨result, Except.ok.inj same, brings a b result standing early clean db later stable⟩

/-- A second part that leaves the view as it is. -/
theorem brings_before {program : Program Db Lock Exn Mark Query Answer Other}
    {rest : Other → Program Db Lock Exn Mark Query Answer Value}
    {step : model.Abs → model.Abs → model.Abs → Prop}
    (head : model.Brings held program fun start _ before after => step start before after)
    (quiet : ∀ value, model.Quiet (rest value)) :
    model.Brings held (program >>= rest) fun start _ before after => step start before after := by
  intro a b value standing exec clean db later stable
  rw [Program.exec_bind_ok] at exec
  obtain ⟨result, middle, early, late⟩ := exec
  have further := Program.exec_extends model.rely_order late
  have done := head a middle result standing early (clean_of_exec late clean) db
    (model.order.trans further.rely later) (stable_of_held further.held stable)
  rw [Program.exec_view_of_only (quiet result) late db]
  exact done

/-- The same where more is known of the first part than the view shows. -/
theorem ensures_before {program : Program Db Lock Exn Mark Query Answer Other}
    {rest : Other → Program Db Lock Exn Mark Query Answer Value}
    {post : Db → Other → Db → Db → Prop} (head : model.Ensures held program post)
    (quiet : ∀ value, model.Quiet (rest value)) :
    model.Ensures held (program >>= rest) fun start _ before after =>
      ∃ value middle, post start value before middle ∧ model.of after = model.of middle := by
  intro a b value standing exec clean db later stable
  rw [Program.exec_bind_ok] at exec
  obtain ⟨result, middle, early, late⟩ := exec
  have further := Program.exec_extends model.rely_order late
  exact ⟨result, _, head a middle result standing early (clean_of_exec late clean) db
    (model.order.trans further.rely later) (stable_of_held further.held stable),
    Program.exec_view_of_only (quiet result) late db⟩

theorem Brings.ensures_before {program : Program Db Lock Exn Mark Query Answer Other}
    {rest : Other → Program Db Lock Exn Mark Query Answer Value}
    {step : model.Abs → model.Abs → model.Abs → Prop}
    (head : model.Brings held program fun start _ before after => step start before after)
    (quiet : ∀ value, model.Quiet (rest value)) :
    model.Ensures held (program >>= rest) fun start _ before after =>
      step (model.of start) (model.of before) (model.of after) := brings_before head quiet

/-- A first part that leaves the view as it is. -/
theorem brings_after {program : Program Db Lock Exn Mark Query Answer Other}
    {rest : Other → Program Db Lock Exn Mark Query Answer Value} (quiet : model.Quiet program)
    (second : ∀ value, model.Brings held (rest value) goal) : model.Brings held (program >>= rest) goal := by
  refine ensures_bind (ensures_quiet quiet) (fun _ _ _ _ same => quiet_rely same) fun value => ?_
  refine Ensures.mono (second value) ?_
  intro start last middle after holds before same
  rw [← same]
  exact holds

/-- A first part that is known to leave the view as it is, and to have seen something. -/
theorem brings_seen {seen : model.Abs → Other → model.Abs → Prop}
    {program : Program Db Lock Exn Mark Query Answer Other}
    {rest : Other → Program Db Lock Exn Mark Query Answer Value}
    (head : model.Brings held program fun start value before after =>
      seen start value before ∧ after = before)
    (second : ∀ value, model.Brings held (rest value) fun start last before after =>
      seen start value before → goal start last before after) :
    model.Brings held (program >>= rest) goal := by
  refine brings_bind head ?_ fun value => (second value).mono ?_
  · rintro start value before _ ⟨_, rfl⟩
    exact model.order.refl _
  · rintro start last middle after holds before ⟨found, rfl⟩
    exact holds found

theorem brings_quiet {program : Program Db Lock Exn Mark Query Answer Value}
    (quiet : model.Quiet program) (holds : ∀ start value view, goal start value view view) :
    model.Brings held program goal := by
  refine (ensures_quiet quiet).mono ?_
  intro start value before after same
  rw [same]
  exact holds _ _ _

end Brings

section Follows

theorem later_of_path {start before after : model.Abs}
    (path : Relation.ReflTransGen (model.rule start) before after) : model.later before after := by
  induction path with
  | refl => exact model.order.refl _
  | tail _ step induction => exact model.order.trans induction (model.rule_later step)

theorem follows_of_brings {program : Program Db Lock Exn Mark Query Answer Value}
    {step : model.Abs → Value → model.Abs → model.Abs → Prop} (brings : model.Brings held program step)
    (path : ∀ start value before after, step start value before after →
      Relation.ReflTransGen (model.rule start) before after) : model.Follows held program :=
  Brings.mono brings path

theorem follows_pure (value : Value) :
    model.Follows held (pure value : Program Db Lock Exn Mark Query Answer Value) :=
  brings_pure value fun _ _ => Relation.ReflTransGen.refl

theorem follows_throw (error : Exn) :
    model.Follows held (throw error : Program Db Lock Exn Mark Query Answer Value) :=
  brings_throw error

theorem follows_ofExcept (result : Except Exn Value) :
    model.Follows held (MonadExcept.ofExcept result : Program Db Lock Exn Mark Query Answer Value) :=
  brings_ofExcept result fun _ _ _ _ => Relation.ReflTransGen.refl

theorem follows_ask (query : Query) :
    model.Follows held (Program.ask query : Program Db Lock Exn Mark Query Answer (Answer query)) :=
  brings_ask query fun _ _ _ => Relation.ReflTransGen.refl

theorem follows_bind {program : Program Db Lock Exn Mark Query Answer Value}
    {rest : Value → Program Db Lock Exn Mark Query Answer Other} (first : model.Follows held program)
    (second : ∀ value, model.Follows held (rest value)) : model.Follows held (program >>= rest) := by
  refine brings_bind first (fun _ _ _ _ => later_of_path) fun value => ?_
  exact (second value).mono fun _ _ _ _ late _ early => early.trans late

theorem follows_ite {cond : Prop} [Decidable cond]
    {first second : Program Db Lock Exn Mark Query Answer Value}
    (yes : model.Follows held first) (no : model.Follows held second) :
    model.Follows held (if cond then first else second) := by
  by_cases chosen : cond
  · rw [if_pos chosen]
    exact yes
  · rw [if_neg chosen]
    exact no

theorem follows_forM {Item : Type} {visit : Item → Program Db Lock Exn Mark Query Answer PUnit}
    (each : ∀ item, model.Follows held (visit item)) (items : List Item) :
    model.Follows held (items.forM visit) := by
  induction items with
  | nil => exact follows_pure _
  | cons item items induction => exact follows_bind (each item) fun _ => induction

/-- A loop that settles its items one by one, each for good. -/
theorem brings_forM_settled {Item : Type}
    {visit : Item → Program Db Lock Exn Mark Query Answer PUnit}
    {settled : Item → model.Abs → Prop}
    (lasting : ∀ item old new, model.later old new → settled item old → settled item new)
    (each : ∀ item, model.Brings held (visit item) fun start _ before after =>
      Relation.ReflTransGen (model.rule start) before after ∧ settled item after)
    (items : List Item) :
    model.Brings held (items.forM visit) fun start _ before after =>
      Relation.ReflTransGen (model.rule start) before after ∧
        ∀ item ∈ items, settled item after := by
  induction items with
  | nil => exact brings_pure _ fun _ _ => ⟨Relation.ReflTransGen.refl, by simp⟩
  | cons item items induction =>
      refine brings_bind (each item) (fun _ _ _ _ done => later_of_path done.1) fun _ => ?_
      refine induction.mono ?_
      rintro start _ middle after ⟨late, rest⟩ before ⟨early, first⟩
      refine ⟨early.trans late, fun other member => ?_⟩
      rcases List.mem_cons.1 member with rfl | member
      · exact lasting other _ _ (later_of_path late) first
      · exact rest other member

/-- A loop each round of which follows the rule where something lasting holds. -/
theorem brings_forM_given {Item : Type}
    {visit : Item → Program Db Lock Exn Mark Query Answer PUnit}
    {given : model.Abs → Item → model.Abs → Prop}
    (lasting : ∀ start item old new, model.later old new → given start item old →
      given start item new)
    (each : ∀ item, model.Brings held (visit item) fun start _ before after =>
      model.later before after ∧
        (given start item before → Relation.ReflTransGen (model.rule start) before after))
    (items : List Item) :
    model.Brings held (items.forM visit) fun start _ before after =>
      model.later before after ∧ ((∀ item ∈ items, given start item before) →
        Relation.ReflTransGen (model.rule start) before after) := by
  induction items with
  | nil =>
      exact brings_pure _ fun _ _ => ⟨model.order.refl _, fun _ => Relation.ReflTransGen.refl⟩
  | cons item items induction =>
      refine brings_bind (each item) (fun _ _ _ _ done => done.1) fun _ => ?_
      refine induction.mono ?_
      rintro start _ middle after ⟨later, rest⟩ before ⟨early, first⟩
      refine ⟨model.order.trans early later, fun all => ?_⟩
      have path := first (all item List.mem_cons_self)
      refine path.trans (rest fun other member => ?_)
      exact lasting start other _ _ early (all other (List.mem_cons_of_mem _ member))

/-- A program whose exceptions leave the view as it is. -/
theorem follows_handle {program : Program Db Lock Exn Mark Query Answer Value}
    {handler : Exn → Program Db Lock Exn Mark Query Answer Value}
    (first : model.Follows held program)
    (failure : model.Raises held program fun _ _ before after => model.of after = model.of before)
    (second : ∀ error, model.Follows held (handler error)) :
    model.Follows held (tryCatch program handler) := by
  refine ensures_handle first.brings.ensures failure (fun _ _ _ _ same => quiet_rely same) fun error => ?_
  refine (second error).brings.ensures.mono ?_
  intro start value middle after path before same
  rw [← same]
  exact path

theorem follows_quiet {program : Program Db Lock Exn Mark Query Answer Value}
    (quiet : model.Quiet program) : model.Follows held program :=
  brings_quiet quiet fun _ _ _ => Relation.ReflTransGen.refl

variable {premise : model.Abs → Prop}

theorem Follows.given {program : Program Db Lock Exn Mark Query Answer Value}
    (follows : model.Follows held program) : model.FollowsGiven held premise program :=
  Brings.mono follows fun _ _ _ _ path _ => path

theorem given_bind {program : Program Db Lock Exn Mark Query Answer Value}
    {rest : Value → Program Db Lock Exn Mark Query Answer Other}
    (stays : ∀ {before after}, model.later before after → premise before → premise after)
    (first : model.Follows held program)
    (second : ∀ value, model.FollowsGiven held premise (rest value)) :
    model.FollowsGiven held premise (program >>= rest) := by
  refine brings_bind first (fun _ _ _ _ => later_of_path) fun value => ?_
  refine Brings.mono (second value) ?_
  intro start _ middle after late before early holds
  exact early.trans (late (stays (later_of_path early) holds))

theorem FollowsGiven.weaken {stronger : model.Abs → model.Abs → Prop}
    {program : Program Db Lock Exn Mark Query Answer Value}
    (implied : ∀ start view, stronger start view → premise view)
    (given : model.FollowsGiven held premise program) :
    model.Brings held program fun start _ before after =>
      stronger start before → Relation.ReflTransGen (model.rule start) before after :=
  Brings.mono given fun start _ before _ path holds => path (implied start before holds)

theorem given_ite {cond : Prop} [Decidable cond]
    {first second : Program Db Lock Exn Mark Query Answer Value}
    (yes : model.FollowsGiven held premise first) (no : model.FollowsGiven held premise second) :
    model.FollowsGiven held premise (if cond then first else second) := by
  by_cases chosen : cond
  · rw [if_pos chosen]
    exact yes
  · rw [if_neg chosen]
    exact no

theorem given_before {program : Program Db Lock Exn Mark Query Answer Other}
    {rest : Other → Program Db Lock Exn Mark Query Answer Value}
    (first : model.FollowsGiven held premise program) (quiet : ∀ value, model.Quiet (rest value)) :
    model.FollowsGiven held premise (program >>= rest) :=
  brings_before first quiet

end Follows

end Abstraction

end Relational
