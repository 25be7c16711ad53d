import OpenReachout.Relational.Observation

/-!
# Computations that consult others

A consultation asks somebody outside, who answers or fails in view of all that has been
noted, and notes the answer. What a computation notes is reasoned about apart from what
has been noted before it: `Tells` says with which outcome, and after which notes of its
own, it can end.
-/

namespace Relational

set_option autoImplicit false

abbrev Consulting (Note Exn : Type) := Stateful (List Note) Exn

namespace Consulting

variable {Note Exn Value Other : Type}

def consult (answer : List Note → Except Exn Value) (note : Value → Note) :
    Consulting Note Exn Value := fun past =>
  match answer past with
  | .ok value => (.ok value, past ++ [note value])
  | .error error => (.error error, past)

/-- A consultation of which a failure is noted too. -/
def inquire {Error : Type} (answer : List Note → Except Error Value)
    (note : Except Error Value → Note) (raised : Error → Exn) : Consulting Note Exn Value :=
  fun past => ((answer past).mapError raised, past ++ [note (answer past)])

/-- A consultation of its own, which starts without notes, among the notes of another. -/
def within {Inner : Type} (inner : List Note → Consulting Inner Exn Value) (note : Inner → Note) :
    Consulting Note Exn Value := fun past =>
  let told := inner past []
  (told.1, past ++ told.2.map note)

/-- A step for each item, which hands a state on. -/
def forEach {Item State : Type} (step : Item → State → Consulting Note Exn State) :
    List Item → State → Consulting Note Exn State
  | [], state => pure state
  | item :: items, state => step item state >>= forEach step items

/-- One condition on what is returned, with the notes by then, and one on what is thrown. -/
def Ends (returned : Value → List Note → Prop) (thrown : Exn → List Note → Prop) :
    Except Exn Value → List Note → Prop
  | .ok value, notes => returned value notes
  | .error error, notes => thrown error notes

/-- Wherever it starts, the computation ends with an outcome and notes that satisfy `post`. -/
def Tells (post : Except Exn Value → List Note → Prop) (body : Consulting Note Exn Value) : Prop :=
  ∀ past, ∃ notes, (body past).2 = past ++ notes ∧ post (body past).1 notes

section Rules

variable {post weaker : Except Exn Value → List Note → Prop} {body : Consulting Note Exn Value}

theorem Tells.mono (tells : Tells post body)
    (weaken : ∀ outcome notes, post outcome notes → weaker outcome notes) : Tells weaker body := by
  intro past
  obtain ⟨notes, grown, holds⟩ := tells past
  exact ⟨notes, grown, weaken _ _ holds⟩

theorem Tells.told (tells : Tells post body) {outcome : Except Exn Value} {past later : List Note}
    (ran : body past = (outcome, later)) : ∃ notes, later = past ++ notes ∧ post outcome notes := by
  have found := tells past
  rw [ran] at found
  exact found

/-- What is told from nothing. -/
theorem Tells.told_first (tells : Tells post body) {outcome : Except Exn Value} {later : List Note}
    (ran : body [] = (outcome, later)) : post outcome later := by
  obtain ⟨notes, rfl, holds⟩ := tells.told ran
  exact holds

theorem tells_pure (value : Value) (holds : post (.ok value) []) :
    Tells post (pure value : Consulting Note Exn Value) :=
  fun past => ⟨[], (List.append_nil past).symm, holds⟩

theorem tells_throw (error : Exn) (holds : post (.error error) []) :
    Tells post (throw error : Consulting Note Exn Value) :=
  fun past => ⟨[], (List.append_nil past).symm, holds⟩

theorem tells_ofExcept (result : Except Exn Value) :
    Tells (Ends (fun value notes => notes = [] ∧ result = .ok value)
      (fun error notes => notes = [] ∧ result = .error error))
      (MonadExcept.ofExcept result : Consulting Note Exn Value) := by
  cases result with
  | ok value => exact tells_pure value ⟨rfl, rfl⟩
  | error error => exact tells_throw error ⟨rfl, rfl⟩

theorem tells_consult (answer : List Note → Except Exn Value) (note : Value → Note) :
    Tells (Ends (fun value notes => notes = [note value] ∧ ∃ past, answer past = .ok value)
      (fun error notes => notes = [] ∧ ∃ past, answer past = .error error))
      (consult answer note) := by
  intro past
  unfold consult
  cases heard : answer past with
  | ok value => exact ⟨[note value], rfl, rfl, past, heard⟩
  | error error => exact ⟨[], (List.append_nil past).symm, rfl, past, heard⟩

theorem tells_inquire {Error : Type} (answer : List Note → Except Error Value)
    (note : Except Error Value → Note) (raised : Error → Exn) :
    Tells (Ends (fun value notes => notes = [note (.ok value)])
      (fun exn notes => ∃ error, exn = raised error ∧ notes = [note (.error error)]))
      (inquire answer note raised) := by
  intro past
  refine ⟨[note (answer past)], rfl, ?_⟩
  unfold inquire
  cases answer past with
  | ok value => exact rfl
  | error error => exact ⟨error, rfl, rfl⟩

theorem tells_within {Inner : Type} {inner : List Note → Consulting Inner Exn Value}
    {note : Inner → Note}
    (holds : ∀ past, post (inner past []).1 ((inner past []).2.map note)) :
    Tells post (within inner note) :=
  fun past => ⟨(inner past []).2.map note, rfl, holds past⟩

theorem tells_bind {first : Consulting Note Exn Other} {rest : Other → Consulting Note Exn Value}
    {middle : Other → List Note → Prop} {thrown : Exn → List Note → Prop}
    (told : Tells (Ends middle thrown) first)
    (next : ∀ other early, middle other early →
      Tells (fun outcome late => post outcome (early ++ late)) (rest other))
    (failed : ∀ error early, thrown error early → post (.error error) early) :
    Tells post (first >>= rest) := by
  intro past
  obtain ⟨early, grown, holds⟩ := told past
  change ∃ notes, (Stateful.bind first rest past).2 = past ++ notes ∧
    post (Stateful.bind first rest past).1 notes
  unfold Stateful.bind
  cases ran : first past with
  | mk outcome point =>
      rw [ran] at grown holds
      dsimp only at grown holds
      subst grown
      cases outcome with
      | error error => exact ⟨early, rfl, failed error early holds⟩
      | ok other =>
          obtain ⟨late, further, ends⟩ := next other early holds (past ++ early)
          refine ⟨early ++ late, ?_, ends⟩
          rw [further, List.append_assoc]

theorem tells_handle {handler : Exn → Consulting Note Exn Value}
    {returned : Value → List Note → Prop} {thrown : Exn → List Note → Prop}
    (told : Tells (Ends returned thrown) body)
    (done : ∀ value notes, returned value notes → post (.ok value) notes)
    (handled : ∀ error early, thrown error early →
      Tells (fun outcome late => post outcome (early ++ late)) (handler error)) :
    Tells post (tryCatch body handler) := by
  intro past
  obtain ⟨early, grown, holds⟩ := told past
  change ∃ notes, (Stateful.handle body handler past).2 = past ++ notes ∧
    post (Stateful.handle body handler past).1 notes
  unfold Stateful.handle
  cases ran : body past with
  | mk outcome point =>
      rw [ran] at grown holds
      dsimp only at grown holds
      subst grown
      cases outcome with
      | ok value => exact ⟨early, rfl, done value early holds⟩
      | error error =>
          obtain ⟨late, further, ends⟩ := handled error early holds (past ++ early)
          refine ⟨early ++ late, ?_, ends⟩
          rw [further, List.append_assoc]

end Rules

section Rounds

variable {Item State : Type} {step : Item → State → Consulting Note Exn State}

/-- The rounds of a loop: the state each one hands on, and all that they note. -/
inductive Rounds (round : Item → State → State → List Note → Prop) :
    List Item → State → State → List Note → Prop where
  | nil (state : State) : Rounds round [] state state []
  | cons {item : Item} {items : List Item} {state next final : State} {notes later : List Note}
      (first : round item state next notes) (rest : Rounds round items next final later) :
      Rounds round (item :: items) state final (notes ++ later)

theorem tells_forEach {round : Item → State → State → List Note → Prop}
    {thrown : Exn → List Note → Prop} {items : List Item}
    (each : ∀ item ∈ items, ∀ state, Tells (Ends (round item state) thrown) (step item state))
    (onward : ∀ item ∈ items, ∀ state next notes error later, round item state next notes →
      thrown error later → thrown error (notes ++ later)) (state : State) :
    Tells (Ends (Rounds round items state) thrown) (forEach step items state) := by
  induction items generalizing state with
  | nil => exact tells_pure state (.nil state)
  | cons item items induction =>
      apply tells_bind (each item List.mem_cons_self state)
      case failed => exact fun error early failed => failed
      intro next notes ended
      have rest := induction (fun other member => each other (List.mem_cons_of_mem item member))
        (fun other member => onward other (List.mem_cons_of_mem item member)) next
      apply rest.mono
      intro outcome later further
      cases outcome with
      | error error =>
          exact onward item List.mem_cons_self state next notes error later ended further
      | ok final => exact .cons ended further

/-- What some parts come to, one after the other: their keys, the state after them and all
that they note. -/
structure Leg {Part Key : Type} (key : Part → Key) (sound : Part → Prop)
    (apply : State → Part → State) (told : Part → List Note) (keys : List Key)
    (parts : List Part) (state final : State) (notes : List Note) : Prop where
  keyed : parts.map key = keys
  sound : ∀ part ∈ parts, sound part
  applied : final = parts.foldl apply state
  noted : notes = parts.flatMap told

/-- Where each round is some parts, all the rounds together are. -/
theorem Rounds.legs {Part Key : Type} {key : Part → Key} {sound : Part → Prop}
    {apply : State → Part → State} {told : Part → List Note} {keys : Item → List Key}
    {items : List Item} {state final : State} {notes : List Note}
    (rounds : Rounds (fun item state next notes =>
      ∃ parts, Leg key sound apply told (keys item) parts state next notes)
      items state final notes) :
    ∃ parts, Leg key sound apply told (items.flatMap keys) parts state final notes := by
  induction rounds with
  | nil state => exact ⟨[], rfl, fun _ member => absurd member List.not_mem_nil, rfl, rfl⟩
  | cons first rest induction =>
      obtain ⟨parts, leg⟩ := first
      obtain ⟨others, later⟩ := induction
      refine ⟨parts ++ others, ?_, ?_, ?_, ?_⟩
      · rw [List.map_append, leg.keyed, later.keyed, List.flatMap_cons]
      · intro part member
        rcases List.mem_append.1 member with early | late
        · exact leg.sound part early
        · exact later.sound part late
      · rw [later.applied, leg.applied, List.foldl_append]
      · rw [leg.noted, later.noted, List.flatMap_append]

end Rounds

end Consulting

end Relational
