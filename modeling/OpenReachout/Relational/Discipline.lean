import OpenReachout.Relational.Triple
import OpenReachout.Relational.Within

/-!
# Disciplines of programs

A discipline is something that programs keep: everything within an allowance does, and
whatever is composed of programs that do. One is to lead along a relation: whatever a
transaction does to the state it commits on, however its parts have ended, takes that
state to a related one. Of other transactions it only uses that they leave locked rows
alone.
-/

namespace Relational

set_option autoImplicit false

variable {Db Lock Exn Mark Query : Type} {Answer : Query → Type} [Lockable Db Lock]
variable {Value Other : Type}

structure Discipline (Db Lock Exn Mark Query : Type) (Answer : Query → Type)
    [Lockable Db Lock] where
  allowed : Allowance Db Lock Mark
  keeps : {Value : Type} → Program Db Lock Exn Mark Query Answer Value → Prop
  within : ∀ {Value : Type} {program : Program Db Lock Exn Mark Query Answer Value},
    Program.Within allowed program → keeps program
  bind : ∀ {Value Other : Type} {program : Program Db Lock Exn Mark Query Answer Value}
    {rest : Value → Program Db Lock Exn Mark Query Answer Other},
    keeps program → (∀ value, keeps (rest value)) → keeps (program >>= rest)

namespace Discipline

variable (discipline : Discipline Db Lock Exn Mark Query Answer)

/-- Errors may be caught. -/
def Catching : Prop :=
  ∀ {Value : Type} {program : Program Db Lock Exn Mark Query Answer Value}
    {handler : Exn → Program Db Lock Exn Mark Query Answer Value},
    discipline.keeps program → (∀ error, discipline.keeps (handler error)) →
      discipline.keeps (tryCatch program handler)

variable {discipline}

@[grind ←] theorem keeps_within {program : Program Db Lock Exn Mark Query Answer Value}
    (inside : Program.Within discipline.allowed program) : discipline.keeps program :=
  discipline.within inside

@[grind ←] theorem keeps_bind {program : Program Db Lock Exn Mark Query Answer Value}
    {rest : Value → Program Db Lock Exn Mark Query Answer Other} (first : discipline.keeps program)
    (second : ∀ value, discipline.keeps (rest value)) : discipline.keeps (program >>= rest) :=
  discipline.bind first second

theorem keeps_pure (value : Value) :
    discipline.keeps (pure value : Program Db Lock Exn Mark Query Answer Value) :=
  discipline.within (Program.within_pure value)

theorem keeps_throw (error : Exn) :
    discipline.keeps (throw error : Program Db Lock Exn Mark Query Answer Value) :=
  discipline.within (Program.within_throw error)

@[grind ←] theorem keeps_forM {Item : Type} {visit : Item → Program Db Lock Exn Mark Query Answer PUnit}
    (each : ∀ item, discipline.keeps (visit item)) (items : List Item) :
    discipline.keeps (items.forM visit) := by
  induction items with
  | nil => exact keeps_pure _
  | cons item items induction => exact discipline.bind (each item) fun _ => induction

end Discipline

/-- To stay within an allowance is a discipline. -/
def Allowance.discipline (allowance : Allowance Db Lock Mark) :
    Discipline Db Lock Exn Mark Query Answer where
  allowed := allowance
  keeps := Program.Within allowance
  within inside := inside
  bind := Program.within_bind

theorem Allowance.catching (allowance : Allowance Db Lock Mark) :
    (allowance.discipline : Discipline Db Lock Exn Mark Query Answer).Catching :=
  Program.within_handle

section Leading

/-- The abstraction that shows nothing: what is known is what has been locked. -/
def bare : Abstraction Db Lock Mark where
  Abs := Unit
  of _ := ()
  later _ _ := True
  order := ⟨fun _ => trivial, fun _ _ => trivial⟩
  rowwise _ _ _ _ := trivial
  sound _ := True
  vouch _ _ := True
  rule _ _ _ := True
  rule_later _ := trivial

variable {along : Db → Db → Prop}

structure Leads (along : Db → Db → Prop) (program : Program Db Lock Exn Mark Query Answer Value) :
    Prop where
  returns : bare.Ensures [] program fun _ _ before after => along before after
  raises : bare.Raises [] program fun _ _ before after => along before after

/-- Every write that leads along. -/
def following (order : Timeline along) : Allowance Db Lock Mark :=
  ⟨fun _ => True, fun write => ∀ db, along db (write.apply db), fun db => order.refl db⟩

/-- What each statement does leads along, and so does the program. -/
theorem view_of_following (order : Timeline along)
    {program : Program Db Lock Exn Mark Query Answer Value}
    (inside : Program.Within (following order) program) {rely : Db → Db → Prop}
    {a b : Point Db Lock Mark Query} {outcome : Except Exn Value}
    (exec : Program.Exec rely program a outcome b) (db : Db) :
    along (a.txn.view db) (b.txn.view db) := by
  induction program generalizing a with
  | done value =>
      obtain ⟨_, rfl⟩ := exec
      exact order.refl _
  | raise error =>
      obtain ⟨_, rfl⟩ := exec
      exact order.refl _
  | statement mark body next induction =>
      obtain ⟨seen, _, _, ⟨error, exec⟩ | ⟨_, busy, effect, success, exec⟩⟩ := exec
      · have rest := induction _ (inside.2 _) exec
        exact rest
      · have rest := induction _ (inside.2 _) exec
        rw [Txn.view_record] at rest
        exact order.trans (inside.1.2 _ _ effect success _) rest
  | call query next induction =>
      obtain ⟨answer, exec⟩ := exec
      have rest := induction _ (inside.2 answer) exec
      exact rest

theorem ensures_of_following (order : Timeline along) {model : Abstraction Db Lock Mark}
    {held : List Lock} {program : Program Db Lock Exn Mark Query Answer Value}
    (inside : Program.Within (following order) program) :
    model.Ensures held program fun _ _ before after => along before after :=
  fun _ _ _ _ exec _ db _ _ => view_of_following order inside exec db

theorem raises_of_following (order : Timeline along) {model : Abstraction Db Lock Mark}
    {held : List Lock} {program : Program Db Lock Exn Mark Query Answer Value}
    (inside : Program.Within (following order) program) :
    model.Raises held program fun _ _ before after => along before after :=
  fun _ _ _ _ exec _ db _ _ => view_of_following order inside exec db

/-- The same as far as `model` knows of the others. -/
structure LeadsBy (model : Abstraction Db Lock Mark) (along : Db → Db → Prop)
    (program : Program Db Lock Exn Mark Query Answer Value) : Prop where
  returns : model.Ensures [] program fun _ _ before after => along before after
  raises : model.Raises [] program fun _ _ before after => along before after

section Knowing

variable {model : Abstraction Db Lock Mark} (free : ∀ before after, model.rely before after)

include free

theorem leadsBy_bind (order : Timeline along)
    {program : Program Db Lock Exn Mark Query Answer Value}
    {rest : Value → Program Db Lock Exn Mark Query Answer Other}
    (first : LeadsBy model along program) (second : ∀ value, LeadsBy model along (rest value)) :
    LeadsBy model along (program >>= rest) where
  returns := by
    refine Abstraction.ensures_bind first.returns (fun _ _ _ _ _ => free _ _) fun value => ?_
    exact (second value).returns.mono fun _ _ _ _ late _ early => order.trans early late
  raises := by
    refine Abstraction.raises_bind first.returns (fun _ _ _ _ _ => free _ _) first.raises
      fun value => ?_
    intro a b error standing exec clean db later stable before early
    exact order.trans early ((second value).raises a b error standing exec clean db later stable)

theorem leadsBy_handle (order : Timeline along)
    {program : Program Db Lock Exn Mark Query Answer Value}
    {handler : Exn → Program Db Lock Exn Mark Query Answer Value}
    (first : LeadsBy model along program) (second : ∀ error, LeadsBy model along (handler error)) :
    LeadsBy model along (tryCatch program handler) where
  returns := by
    refine Abstraction.ensures_handle first.returns first.raises (fun _ _ _ _ _ => free _ _)
      fun error => ?_
    exact (second error).returns.mono fun _ _ _ _ late _ early => order.trans early late
  raises := by
    intro a b error standing exec clean db later stable
    rcases (Program.exec_handle _ _ a b _).1 exec with ⟨_, impossible, _⟩ | ⟨raised, middle, early,
      late⟩
    · cases impossible
    · obtain ⟨standing_middle, _, done⟩ := Abstraction.raises_early first.raises
        (fun _ _ _ _ _ => free _ _) standing early late clean later stable
      exact order.trans done
        ((second raised).raises middle b error standing_middle late clean db later stable)

end Knowing

theorem bare_free (before after : Db) : (bare : Abstraction Db Lock Mark).rely before after :=
  trivial

theorem leads_bind (order : Timeline along)
    {program : Program Db Lock Exn Mark Query Answer Value}
    {rest : Value → Program Db Lock Exn Mark Query Answer Other} (first : Leads along program)
    (second : ∀ value, Leads along (rest value)) : Leads along (program >>= rest) := by
  have both : LeadsBy bare along (program >>= rest) :=
    leadsBy_bind bare_free order ⟨first.returns, first.raises⟩ fun value =>
      ⟨(second value).returns, (second value).raises⟩
  exact ⟨both.returns, both.raises⟩

theorem leads_handle (order : Timeline along)
    {program : Program Db Lock Exn Mark Query Answer Value}
    {handler : Exn → Program Db Lock Exn Mark Query Answer Value} (first : Leads along program)
    (second : ∀ error, Leads along (handler error)) : Leads along (tryCatch program handler) := by
  have both : LeadsBy bare along (tryCatch program handler) :=
    leadsBy_handle bare_free order ⟨first.returns, first.raises⟩ fun error =>
      ⟨(second error).returns, (second error).raises⟩
  exact ⟨both.returns, both.raises⟩

/-- To lead along a relation is a discipline, in which errors may be caught. -/
def leading (order : Timeline along) : Discipline Db Lock Exn Mark Query Answer where
  allowed := following order
  keeps := Leads along
  within inside := ⟨ensures_of_following order inside, raises_of_following order inside⟩
  bind := leads_bind order

theorem catching_leading (order : Timeline along) :
    (leading order : Discipline Db Lock Exn Mark Query Answer).Catching := leads_handle order

variable {Op Out : Type} {service : Service Db Lock Exn Mark Query Answer Op Out}
variable {system : System Db Lock Exn Mark Query Answer Op Out}

/-- What is ensured of a program whatever the others do holds of its commit. -/
theorem bare_commit {index : Nat} {op : Op} {out : Out} {txn : Txn Db Lock Mark Query}
    {post : Db → Out → Db → Db → Prop} (sound : system.Sound service fun _ _ => True)
    (present : system.session index = some ⟨op, .done out, txn⟩) (intact : txn.failed = false)
    (ensures : bare.Ensures [] (service.program op) post) :
    post txn.start out system.committed (txn.view system.committed) := by
  have done := commits_of_done sound present intact
  obtain ⟨last, _, exec⟩ := done.exec
  have standing : bare.Standing [] (Point.begin txn.start : Point Db Lock Mark Query) :=
    Abstraction.standing_begin txn.start trivial
  exact ensures _ _ out standing exec ⟨intact, fun _ _ => trivial⟩ system.committed trivial
    done.stable

/-- The abstraction that shows everything: of the others it is known what the marked
statements have seen of them. -/
def attested (vouch : Mark → Db → Prop) : Abstraction Db Lock Mark where
  Abs := Db
  of := id
  later _ _ := True
  order := ⟨fun _ => trivial, fun _ _ => trivial⟩
  rowwise _ _ _ _ := trivial
  sound _ := True
  vouch := vouch
  rule _ _ _ := True
  rule_later _ := trivial

/-- What is ensured where the marked statements are vouched for holds of a commit for which
they were. -/
theorem attested_commit {index : Nat} {op : Op} {out : Out} {txn : Txn Db Lock Mark Query}
    {vouch : Mark → Db → Prop} {post : Db → Out → Db → Db → Prop}
    (sound : system.Sound service fun _ _ => True)
    (present : system.session index = some ⟨op, .done out, txn⟩) (intact : txn.failed = false)
    (vouched : ∀ entry ∈ txn.seen, vouch entry.1 entry.2)
    (ensures : (attested vouch).Ensures [] (service.program op) post) :
    post txn.start out system.committed (txn.view system.committed) := by
  have done := commits_of_done sound present intact
  obtain ⟨last, _, exec⟩ := done.exec
  have standing : (attested vouch).Standing []
      (Point.begin txn.start : Point Db Lock Mark Query) :=
    Abstraction.standing_begin txn.start trivial
  exact ensures _ _ out standing exec ⟨intact, vouched⟩ system.committed trivial done.stable

theorem attested_free (vouch : Mark → Db → Prop) (before after : Db) :
    (attested vouch : Abstraction Db Lock Mark).rely before after := trivial

/-- To lead along where the marked statements are vouched for. -/
def leadingVouched (vouch : Mark → Db → Prop) (order : Timeline along) :
    Discipline Db Lock Exn Mark Query Answer where
  allowed := following order
  keeps := LeadsBy (attested vouch) along
  within inside := ⟨ensures_of_following order inside, raises_of_following order inside⟩
  bind := leadsBy_bind (attested_free vouch) order

theorem catching_leadingVouched (vouch : Mark → Db → Prop) (order : Timeline along) :
    (leadingVouched vouch order : Discipline Db Lock Exn Mark Query Answer).Catching :=
  leadsBy_handle (attested_free vouch) order

/-- Where all programs lead along a relation, and so does the passing of time, steps do. -/
theorem along_of_step [DecidableEq Lock] {after : System Db Lock Exn Mark Query Answer Op Out}
    {action : Action Query Answer Op} (order : Timeline along)
    (programs : ∀ op, Leads along (service.program op))
    (clock : ∀ ticks db, along db (service.advance ticks db))
    (sound : system.Sound service fun _ _ => True)
    (step : service.act action system = some after) : along system.committed after.committed := by
  rcases act_committed step with same | ⟨ticks, _, moved⟩ | ⟨index, op, out, txn, _, present, intact,
    wrote⟩
  · rw [same]
    exact order.refl _
  · rw [moved]
    exact clock ticks _
  · rw [wrote]
    exact bare_commit sound present intact (programs op).returns

/-- So do runs. -/
theorem along_of_run [DecidableEq Lock] {after : System Db Lock Exn Mark Query Answer Op Out}
    {allowed : System Db Lock Exn Mark Query Answer Op Out → Action Query Answer Op → Prop}
    (order : Timeline along) (programs : ∀ op, Leads along (service.program op))
    (clock : ∀ ticks db, along db (service.advance ticks db)) (quiet : system.sessions = [])
    (run : Relation.ReflTransGen (service.Step allowed) system after) :
    along system.committed after.committed := by
  have free : Timeline fun _ _ : Db => True := ⟨fun _ => trivial, fun _ _ => trivial⟩
  refine (invariant_of_steps free (fun later => along system.committed later.committed) ?_ quiet
    (order.refl _) run).2
  intro middle action later sound before _ step
  exact ⟨trivial, order.trans before (along_of_step order programs clock sound step)⟩

end Leading

end Relational
