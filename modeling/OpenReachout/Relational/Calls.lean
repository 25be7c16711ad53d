import OpenReachout.Relational.Commit
import OpenReachout.Relational.Completion

/-!
# Transactions on their own, and their calls

A transaction on its own is one of those that can go on while others are at work: what is
ensured of these holds of it. What a transaction has called, it has come to call at some
point that it went on from.
-/

namespace Relational

set_option autoImplicit false

namespace Program

variable {Db Lock Exn Mark Query : Type} {Answer : Query → Type} [Lockable Db Lock]
variable {Value Other : Type}
variable {oracle : Nat → (query : Query) → Answer query} {fault : Exn} {moment : Moment Db Lock}

/-- A sequence that returns has returned from its first part. -/
theorem ok_of_solo_bind {program : Program Db Lock Exn Mark Query Answer Value}
    {rest : Value → Program Db Lock Exn Mark Query Answer Other} {value : Other} {db later : Db}
    {answered taken : Nat}
    (ended : solo oracle fault moment (program >>= rest) ⟨db, answered, false⟩ =
      (.ok value, ⟨later, taken, false⟩)) :
    ∃ between middle total, solo oracle fault moment program ⟨db, answered, false⟩ =
        (.ok between, ⟨middle, total, false⟩) ∧
      solo oracle fault moment (rest between) ⟨middle, total, false⟩ =
        (.ok value, ⟨later, taken, false⟩) := by
  rw [solo_bind] at ended
  cases first : solo oracle fault moment program ⟨db, answered, false⟩ with
  | mk result after =>
      rw [first] at ended
      cases result with
      | error error => cases (congrArg Prod.fst ended : Except.error _ = Except.ok _)
      | ok between =>
          obtain ⟨middle, total, failed⟩ := after
          cases failed with
          | false => exact ⟨between, middle, total, rfl, ended⟩
          | true =>
              have still : (solo oracle fault moment (rest between) ⟨middle, total, true⟩).2.failed =
                  true := solo_failed (rest between) _ rfl
              have last : solo oracle fault moment (rest between) ⟨middle, total, true⟩ =
                  (.ok value, ⟨later, taken, false⟩) := ended
              rw [last] at still
              cases still

/-- A transaction on its own is a run in which nobody else commits. -/
theorem exec_of_solo {rely : Db → Db → Prop} (order : Timeline rely)
    {program : Program Db Lock Exn Mark Query Answer Value} {txn : Txn Db Lock Mark Query}
    {committed db later : Db} {answered taken : Nat} {outcome : Except Exn Value}
    (start : txn.start = moment.start) (viewed : txn.view committed = db)
    (stable : txn.Stable committed) (intact : txn.failed = false)
    (ended : solo oracle fault moment program ⟨db, answered, false⟩ =
      (outcome, ⟨later, taken, false⟩)) :
    ∃ last, Exec rely program ⟨committed, txn⟩ outcome ⟨committed, last⟩ ∧
      last.view committed = later ∧ last.Stable committed ∧ last.failed = false := by
  induction program generalizing txn db answered with
  | done value =>
      obtain ⟨rfl, same⟩ := Prod.mk.inj ended
      obtain ⟨rfl, _, _⟩ := Alone.mk.inj same
      exact ⟨txn, ⟨rfl, rfl⟩, viewed, stable, intact⟩
  | raise error =>
      obtain ⟨rfl, same⟩ := Prod.mk.inj ended
      obtain ⟨rfl, _, _⟩ := Alone.mk.inj same
      exact ⟨txn, ⟨rfl, rfl⟩, viewed, stable, intact⟩
  | statement mark body next induction =>
      unfold solo at ended
      rw [if_neg Bool.false_ne_true] at ended
      dsimp only at ended
      cases did : body moment db with
      | error error =>
          rw [did] at ended
          have still : (solo oracle fault moment (next (.error error)) ⟨db, answered, true⟩).2.failed =
              true := solo_failed (next (.error error)) _ rfl
          have last : solo oracle fault moment (next (.error error)) ⟨db, answered, true⟩ =
              (outcome, ⟨later, taken, false⟩) := ended
          rw [last] at still
          cases still
      | ok effect =>
          rw [did] at ended
          have recorded : (txn.record mark effect committed).view committed =
              effect.write.apply db := by
            rw [Txn.view_record, viewed]
          have begun : (txn.record mark effect committed).start = moment.start := start
          obtain ⟨last, exec, rest⟩ := induction (.ok effect.value) begun recorded
            (Txn.stable_record txn committed mark effect stable) intact ended
          refine ⟨last, ?_, rest⟩
          refine ⟨committed, order.refl _, stable, Or.inr ⟨intact, moment.busy, effect, ?_, exec⟩⟩
          rw [start, viewed]
          exact did
  | call query next induction =>
      have begun : (txn.asked query).start = moment.start := start
      obtain ⟨last, exec, rest⟩ :=
        induction (oracle answered query) begun viewed stable intact ended
      exact ⟨last, ⟨_, exec⟩, rest⟩

section Called

variable {rely : Db → Db → Prop} {a b : Point Db Lock Mark Query}

/-- A program has made none but its own calls. -/
theorem calls_of_exec
    {statement : {Result : Type} → Option Mark → Statement Db Lock Exn Result → Prop}
    {call : Query → Prop} {program : Program Db Lock Exn Mark Query Answer Value}
    (every : Every statement call program) {outcome : Except Exn Value}
    (exec : Exec rely program a outcome b) :
    ∀ query ∈ b.txn.calls, query ∈ a.txn.calls ∨ call query := by
  induction program generalizing a with
  | done value =>
      obtain ⟨_, rfl⟩ := exec
      exact fun _ member => Or.inl member
  | raise error =>
      obtain ⟨_, rfl⟩ := exec
      exact fun _ member => Or.inl member
  | statement mark body next induction =>
      obtain ⟨db, _, _, ⟨error, exec⟩ | ⟨_, busy, effect, _, exec⟩⟩ := exec
      · have rest := induction _ (every.2 _) exec
        exact rest
      · have rest := induction _ (every.2 _) exec
        exact rest
  | call asked next induction =>
      obtain ⟨answer, exec⟩ := exec
      intro query member
      rcases induction answer (every.2 answer) exec query member with earlier | own
      · rcases List.mem_append.1 earlier with before | last
        · exact Or.inl before
        · rw [List.mem_singleton.1 last]
          exact Or.inr every.1
      · exact Or.inr own

end Called

end Program

section Reached

variable {Db Lock Exn Mark Query : Type} {Answer : Query → Type} [Lockable Db Lock]
variable {Value : Type} {rely : Db → Db → Prop}

/-- What has been called has been asked at a point that the transaction went on from. -/
theorem Reach.called (order : Timeline rely)
    {program residual : Program Db Lock Exn Mark Query Answer Value}
    {a b : Point Db Lock Mark Query} (reach : Reach rely program a residual b) :
    ∀ query ∈ b.txn.calls, query ∈ a.txn.calls ∨
      ∃ c, Program.Asks rely program a query c ∧ Program.Extends rely c b := by
  induction reach with
  | refl => exact fun _ member => Or.inl member
  | failed error reach later stable induction =>
      intro query member
      rcases induction query member with before | ⟨c, asks, onward⟩
      · exact Or.inl before
      · exact Or.inr ⟨c, asks, Program.extends_trans order onward
          (Program.extends_fail later stable)⟩
  | executed reach later stable intact success induction =>
      intro query member
      rcases induction query member with before | ⟨c, asks, onward⟩
      · exact Or.inl before
      · exact Or.inr ⟨c, asks, Program.extends_trans order onward
          (Program.extends_record later stable _ _)⟩
  | @answered asked next b answer reach induction =>
      have further := Program.extends_asked order b asked
      intro query member
      rcases List.mem_append.1 member with earlier | last
      · rcases induction query earlier with before | ⟨c, asks, onward⟩
        · exact Or.inl before
        · exact Or.inr ⟨c, asks, Program.extends_trans order onward further⟩
      · rw [List.mem_singleton.1 last]
        exact Or.inr ⟨b, reach.asks (Or.inl ⟨rfl, rfl⟩), further⟩

end Reached

namespace Abstraction

variable {Db Lock Exn Mark Query : Type} {Answer : Query → Type} [Lockable Db Lock]
variable {Value : Type} {model : Abstraction Db Lock Mark}

/-- What is ensured of a transaction holds of it on its own. -/
theorem ensures_solo {oracle : Nat → (query : Query) → Answer query} {fault : Exn}
    {busy : Lock → Bool} {program : Program Db Lock Exn Mark Query Answer Value}
    {post : Db → Value → Db → Db → Prop} {value : Value} {db later : Db} {answered taken : Nat}
    (ensures : model.Ensures [] program post) (free : ∀ mark seen, model.vouch mark seen)
    (sound : model.sound (model.of db))
    (ended : Program.solo oracle fault ⟨db, busy⟩ program ⟨db, answered, false⟩ =
      (.ok value, ⟨later, taken, false⟩)) : post db value db later := by
  have begun : (Point.begin db : Point Db Lock Mark Query).txn.Stable db :=
    fun entry member => absurd member List.not_mem_nil
  obtain ⟨last, exec, viewed, stable, intact⟩ :=
    Program.exec_of_solo model.rely_order rfl rfl begun rfl ended
  have standing : model.Standing [] (Point.begin db : Point Db Lock Mark Query) :=
    standing_begin db sound
  have holds := ensures _ _ value standing exec ⟨intact, fun _ _ => free _ _⟩ db
    (model.rely_order.refl db) stable
  rw [viewed] at holds
  exact holds

end Abstraction

end Relational
