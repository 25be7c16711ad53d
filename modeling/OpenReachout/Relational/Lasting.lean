import OpenReachout.Relational.Triple

/-!
# Later than a state

A triple for a program that starts when some state has been committed: whatever lasts in
the view, once it was so there, is so in every state that the program sees.
-/

namespace Relational

set_option autoImplicit false

variable {Db Lock Exn Mark Query : Type} {Answer : Query → Type} [Lockable Db Lock]
variable {Key Row Value Other : Type} [DecidableEq Key]

namespace Abstraction

variable (model : Abstraction Db Lock Mark) (floor : Db) (held : List Lock)

/-- The triple `Ensures` for a start no earlier than `floor`. -/
def EnsuresPast (program : Program Db Lock Exn Mark Query Answer Value)
    (post : Db → Value → Db → Db → Prop) : Prop :=
  ∀ a b value, model.Standing held a → model.rely floor a.committed →
    Program.Exec model.rely program a (.ok value) b → model.Clean b.txn →
      ∀ db, model.rely b.committed db → b.txn.Stable db →
        post a.txn.start value (a.txn.view db) (b.txn.view db)

variable {model floor held} {a b : Point Db Lock Mark Query}
variable {program : Program Db Lock Exn Mark Query Answer Value}
variable {post stronger : Db → Value → Db → Db → Prop}

theorem Ensures.past (ensures : model.Ensures held program post) :
    model.EnsuresPast floor held program post :=
  fun a b value standing _ exec clean => ensures a b value standing exec clean

theorem EnsuresPast.mono (ensures : model.EnsuresPast floor held program stronger)
    (weaken : ∀ start value before after, stronger start value before after →
      post start value before after) : model.EnsuresPast floor held program post :=
  fun a b value standing past exec clean db later stable =>
    weaken _ _ _ _ (ensures a b value standing past exec clean db later stable)

theorem EnsuresPast.and (first : model.EnsuresPast floor held program post)
    (second : model.EnsuresPast floor held program stronger) :
    model.EnsuresPast floor held program fun start value before after =>
      post start value before after ∧ stronger start value before after :=
  fun a b value standing past exec clean db later stable =>
    ⟨first a b value standing past exec clean db later stable,
      second a b value standing past exec clean db later stable⟩

theorem past_pure (value : Value) (holds : ∀ start db, post start value db db) :
    model.EnsuresPast floor held (pure value : Program Db Lock Exn Mark Query Answer Value) post :=
  (ensures_pure value holds).past

/-- The rule of sequence, where the second part holds what the first has locked. -/
theorem past_bind_taking {first : Program Db Lock Exn Mark Query Answer Other}
    {rest : Other → Program Db Lock Exn Mark Query Answer Value}
    {early : Db → Other → Db → Db → Prop} {locks : Other → List Lock}
    (ensures : model.EnsuresPast floor held first early)
    (onward : ∀ start value before after, early start value before after →
      model.rely before after)
    (takes : model.Takes first locks)
    (second : ∀ value, model.EnsuresPast floor (held ++ locks value) (rest value)
      fun start last middle after =>
        ∀ before, early start value before middle → post start last before after) :
    model.EnsuresPast floor held (first >>= rest) post := by
  intro a b value standing past exec clean db later stable
  rw [Program.exec_bind_ok] at exec
  obtain ⟨between, middle, start, late⟩ := exec
  have further := Program.exec_extends model.rely_order late
  have clean_middle := clean_of_exec late clean
  have holds := ensures a middle between standing past start clean_middle
  have standing_middle : model.Standing held middle :=
    standing_of_exec start standing fun db later stable => onward _ _ _ _ (holds db later stable)
  have holding : model.Standing (held ++ locks between) middle :=
    { standing_middle with
      holding := List.append_subset.2 ⟨standing_middle.holding, takes a middle between start⟩ }
  have reached := Program.exec_extends model.rely_order start
  have past_middle : model.rely floor middle.committed := model.order.trans past reached.rely
  have done := holds db (model.order.trans further.rely later)
    (stable_of_held further.held stable)
  have rest := second between middle b value holding past_middle late clean db later stable
  rw [reached.start] at rest
  exact rest _ done

theorem past_bind {first : Program Db Lock Exn Mark Query Answer Other}
    {rest : Other → Program Db Lock Exn Mark Query Answer Value}
    {early : Db → Other → Db → Db → Prop} (ensures : model.EnsuresPast floor held first early)
    (onward : ∀ start value before after, early start value before after →
      model.rely before after)
    (second : ∀ value, model.EnsuresPast floor held (rest value) fun start last middle after =>
      ∀ before, early start value before middle → post start last before after) :
    model.EnsuresPast floor held (first >>= rest) post := by
  have takes : model.Takes first fun _ => [] := fun _ _ _ _ => List.nil_subset _
  refine past_bind_taking ensures onward takes fun value => ?_
  rw [List.append_nil]
  exact second value

/-- A first part that only leads on. -/
theorem past_skip {first : Program Db Lock Exn Mark Query Answer Other}
    {rest : Other → Program Db Lock Exn Mark Query Answer Value}
    {early : Db → Other → Db → Db → Prop} {goal : Db → Value → Db → Prop}
    (ensures : model.EnsuresPast floor held first early)
    (onward : ∀ start value before after, early start value before after →
      model.rely before after)
    (second : ∀ value, model.EnsuresPast floor held (rest value) fun start last _ after =>
      goal start last after) :
    model.EnsuresPast floor held (first >>= rest) fun start last _ after =>
      goal start last after :=
  past_bind ensures onward fun value => (second value).mono fun _ _ _ _ done _ _ => done

/-- A premise that holds at `floor` and lasts is met. -/
theorem FollowsGiven.past {premise : model.Abs → Prop}
    (follows : model.FollowsGiven held premise program)
    (lasting : ∀ view, model.later (model.of floor) view → premise view) :
    model.EnsuresPast floor held program fun start _ before after =>
      Relation.ReflTransGen (model.rule (model.of start)) (model.of before) (model.of after) := by
  intro a b value standing past exec clean db later stable
  have further := Program.exec_extends model.rely_order exec
  have reached := model.order.trans further.rely later
  have ahead := standing.ahead db reached (stable_of_held further.held stable)
  have premised := lasting _ (model.order.trans past (model.order.trans reached ahead))
  exact follows a b value standing exec clean db later stable premised

theorem past_perform (mark : Option Mark) (body : Statement Db Lock Exn Value) :
    model.EnsuresPast floor held
      (Program.perform mark body : Program Db Lock Exn Mark Query Answer Value)
      fun start value before after => ∃ seen busy effect,
        model.Stated held mark body start value before after seen busy effect ∧
          model.rely floor seen := by
  intro a b value standing past exec clean db later stable
  obtain ⟨seen, busy, effect, stated, onward⟩ := stated_of_exec standing exec clean later stable
  exact ⟨seen, busy, effect, stated, model.order.trans past onward⟩

theorem past_markedQuery (mark : Mark) (read : Moment Db Lock → Db → Value) :
    model.EnsuresPast floor held
      (Program.markedQuery mark read : Program Db Lock Exn Mark Query Answer Value)
      fun start value before after => ∃ seen busy, model.Glimpse held start before seen ∧
        model.rely floor seen ∧ value = read ⟨start, busy⟩ seen ∧
        model.vouch mark (model.of seen) ∧ after = before := by
  refine (past_perform (some mark) _).mono ?_
  rintro start value before after ⟨seen, busy, effect, stated, onward⟩
  obtain rfl := Except.ok.inj stated.success
  exact ⟨seen, busy, stated.glimpse, onward, stated.value, stated.vouched mark rfl, stated.wrote⟩

/-- An update finds the row that has been there since `floor`. -/
theorem past_update_found (ref : TableRef Db Lock Key Row) (key : Key)
    (change : Moment Db Lock → Row → Row)
    (there : ∀ seen, model.rely floor seen → ((ref.get seen).lookup key).isSome = true) :
    model.EnsuresPast floor held
      (Program.update ref (fun _ _ other _ => other = key) change :
        Program Db Lock Exn Mark Query Answer (List (Key × Row)))
      fun _ rows _ _ => key ∈ rows.map Prod.fst := by
  refine (past_perform none _).mono ?_
  rintro start rows before after ⟨seen, busy, effect, stated, onward⟩
  obtain ⟨row, found⟩ := Option.isSome_iff_exists.1 (there seen onward)
  have chosen : (key, row) ∈ (ref.get seen).select fun other _ => decide (other = key) :=
    (Table.mem_select_iff _ _ _ _).2 ⟨found, decide_eq_true rfl⟩
  have success := stated.success
  dsimp only at success
  split at success
  · cases success
  · obtain rfl := Except.ok.inj success
    rw [stated.value]
    exact List.mem_map_of_mem chosen

/-- The rule for a transaction that begins with a read: the rest of it is later than the
state that was read. -/
theorem holds_after_read {read : Moment Db Lock → Db → Other}
    {rest : Other → Program Db Lock Exn Mark Query Answer Value} {goal : Db → Db → Db → Prop}
    {start db : Db} {value : Value} (sound : model.sound (model.of start))
    (exec : Program.Exec model.rely (Program.query read >>= rest) (Point.begin start) (.ok value) b)
    (clean : model.Clean b.txn) (later : model.rely b.committed db) (stable : b.txn.Stable db)
    (each : ∀ floor busy, model.rely start floor →
      model.EnsuresPast floor [] (rest (read ⟨start, busy⟩ floor)) fun _ _ before after =>
        goal floor before after) :
    ∃ floor, model.rely floor db ∧ goal floor db (b.txn.view db) := by
  rw [Program.exec_bind_ok] at exec
  obtain ⟨found, middle, early, late⟩ := exec
  have standing : model.Standing [] middle :=
    standing_of_exec early (standing_begin start sound) fun db _ _ => by
      rw [(Program.exec_query early).2.2]
      exact model.order.refl _
  obtain ⟨since, ⟨busy, rfl⟩, views⟩ := Program.exec_query early
  have further := Program.exec_extends model.rely_order late
  have done := each middle.committed busy since middle b value standing (model.order.refl _) late
    clean db later stable
  rw [views] at done
  exact ⟨middle.committed, model.order.trans further.rely later, done⟩

end Abstraction

end Relational
