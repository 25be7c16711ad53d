import OpenReachout.Relational.System
import OpenReachout.Relational.Within

/-!
# What a run has heard

The calls of a transaction are answered from outside. A trace keeps the answers, and
`told_of_trace` carries what a program writes, given the answers it is told, to every
session of a run.
-/

namespace Relational

set_option autoImplicit false

variable {Db Lock Exn Mark Query : Type} {Answer : Query → Type} [Lockable Db Lock]
variable {Op Out Value Other : Type}

namespace Program

/-- As long as the calls are answered by what `heard` allows, every write is a good one. -/
def Told (heard : (query : Query) → Answer query → Prop) (good : Write Db Lock → Prop) :
    Program Db Lock Exn Mark Query Answer Value → Prop
  | .done _ => True
  | .raise _ => True
  | .statement _ body next =>
      (∀ moment db effect, body moment db = .ok effect → good effect.write) ∧
        ∀ result, Told heard good (next result)
  | .call query next => ∀ answer, heard query answer → Told heard good (next answer)

section Told

variable {heard : (query : Query) → Answer query → Prop} {good : Write Db Lock → Prop}

theorem told_pure (value : Value) :
    Told heard good (pure value : Program Db Lock Exn Mark Query Answer Value) := trivial

theorem told_throw (error : Exn) :
    Told heard good (throw error : Program Db Lock Exn Mark Query Answer Value) := trivial

/-- What every answer allows. -/
theorem told_of_only {program : Program Db Lock Exn Mark Query Answer Value}
    (only : Only good program) : Told heard good program := by
  induction program with
  | done value => trivial
  | raise error => trivial
  | statement mark body next induction =>
      exact ⟨only.1, fun result => induction result (only.2 result)⟩
  | call query next induction => exact fun answer _ => induction answer (only.2 answer)

theorem told_mono {weaker : Write Db Lock → Prop} (weaken : ∀ write, good write → weaker write)
    {program : Program Db Lock Exn Mark Query Answer Value} (told : Told heard good program) :
    Told heard weaker program := by
  induction program with
  | done value => trivial
  | raise error => trivial
  | statement mark body next induction =>
      exact ⟨fun moment db effect success => weaken _ (told.1 moment db effect success),
        fun result => induction result (told.2 result)⟩
  | call query next induction => exact fun answer given => induction answer (told answer given)

theorem told_of_within {allowance : Allowance Db Lock Mark}
    {program : Program Db Lock Exn Mark Query Answer Value} (within_ : Within allowance program)
    (allowed : ∀ write, allowance.write write → good write) : Told heard good program :=
  told_of_only (every_mono (fun _ _ holds moment db effect success =>
    allowed _ (holds.2 moment db effect success)) (fun _ holds => holds) within_)

theorem told_bind {program : Program Db Lock Exn Mark Query Answer Value}
    {rest : Value → Program Db Lock Exn Mark Query Answer Other}
    (first : Told heard good program) (second : ∀ value, Told heard good (rest value)) :
    Told heard good (program >>= rest) := by
  change Told heard good (program.bind rest)
  induction program with
  | done value => exact second value
  | raise error => exact first
  | statement mark body next induction =>
      exact ⟨first.1, fun result => induction result (first.2 result)⟩
  | call query next induction => exact fun answer told => induction answer (first answer told)

/-- A program after which only one value goes on. -/
theorem told_into {First : Type} {program : Program Db Lock Exn Mark Query Answer First}
    {into : Value} {rest : Value → Program Db Lock Exn Mark Query Answer Other}
    (first : Told heard good program) (second : Told heard good (rest into)) :
    Told heard good ((program >>= fun _ => pure into) >>= rest) := by
  change Told heard good ((program.bind fun _ => .done into).bind rest)
  induction program with
  | done value => exact second
  | raise error => exact first
  | statement mark body next induction =>
      exact ⟨first.1, fun result => induction result (first.2 result)⟩
  | call query next induction => exact fun answer told => induction answer (first answer told)

/-- The program goes on with an answer that it has heard. -/
theorem told_ask {query : Query}
    {rest : Answer query → Program Db Lock Exn Mark Query Answer Other}
    (second : ∀ answer, heard query answer → Told heard good (rest answer)) :
    Told heard good (ask query >>= rest) := second

theorem told_ofExcept {result : Except Exn Value}
    {rest : Value → Program Db Lock Exn Mark Query Answer Other}
    (second : ∀ value, result = .ok value → Told heard good (rest value)) :
    Told heard good (MonadExcept.ofExcept result >>= rest) := by
  cases result with
  | error error => trivial
  | ok value => exact second value rfl

theorem told_perform {mark : Option Mark} {body : Statement Db Lock Exn Value}
    (writes : ∀ moment db effect, body moment db = .ok effect → good effect.write) :
    Told heard good (perform mark body : Program Db Lock Exn Mark Query Answer Value) := by
  refine ⟨writes, fun result => ?_⟩
  cases result <;> trivial

theorem told_updateChecked {Key Row : Type} [DecidableEq Key] {ref : TableRef Db Lock Key Row}
    {mark : Option Mark} {refuse : Moment Db Lock → Db → Key → Row → Option Exn}
    {chosen : Moment Db Lock → Db → Key → Row → Bool} {change : Moment Db Lock → Row → Row}
    (writes : ∀ moment keys chosen, good (Write.modify ref keys chosen (change moment))) :
    Told heard good (updateChecked ref mark refuse chosen change :
      Program Db Lock Exn Mark Query Answer (List (Key × Row))) := by
  apply told_perform
  intro moment db effect success
  dsimp only at success
  split at success
  · cases success
  · obtain rfl := Except.ok.inj success
    exact writes moment _ _

theorem told_trivial (all : ∀ write, good write)
    (program : Program Db Lock Exn Mark Query Answer Value) : Told heard good program := by
  induction program with
  | done value => trivial
  | raise error => trivial
  | statement mark body next induction => exact ⟨fun _ _ effect _ => all effect.write, induction⟩
  | call query next induction => exact fun answer _ => induction answer

end Told

end Program

section Views

/-- A part of the view is as the writes make it, one after the other. -/
theorem view_induction {good : Write Db Lock → Prop} {holds : Db → Prop}
    {txn : Txn Db Lock Mark Query} (writes : ∀ write ∈ txn.writes, good write)
    (step : ∀ write db, good write → holds db → holds (write.apply db)) {db : Db}
    (start : holds db) : holds (txn.view db) := by
  obtain ⟨_, writes_, _, _, _, _⟩ := txn
  simp only [Txn.view] at writes ⊢
  induction writes_ generalizing db with
  | nil => exact start
  | cons write rest induction =>
      rw [List.foldl_cons]
      have first := step write db (writes write List.mem_cons_self) start
      exact induction first fun later member => writes later (List.mem_cons_of_mem _ member)

end Views

section Traces

variable [DecidableEq Lock]

/-- The states that a run has been in, each with the action that left it. -/
abbrev Past (Db Lock Exn Mark Query : Type) (Answer : Query → Type) [Lockable Db Lock]
    (Op Out : Type) :=
  List (System Db Lock Exn Mark Query Answer Op Out × Action Query Answer Op)

variable (service : Service Db Lock Exn Mark Query Answer Op Out)

/-- A run with its past. -/
inductive Trace
    (allowed : System Db Lock Exn Mark Query Answer Op Out → Action Query Answer Op → Prop)
    (start : System Db Lock Exn Mark Query Answer Op Out) :
    Past Db Lock Exn Mark Query Answer Op Out → System Db Lock Exn Mark Query Answer Op Out →
      Prop where
  | nil : Trace allowed start [] start
  | snoc {past : Past Db Lock Exn Mark Query Answer Op Out}
      {middle later : System Db Lock Exn Mark Query Answer Op Out} {action : Action Query Answer Op}
      (before : Trace allowed start past middle) (permitted : allowed middle action)
      (step : service.act action middle = some later) :
      Trace allowed start (past ++ [(middle, action)]) later

/-- A transaction of `op` has been answered. -/
def Heard (past : Past Db Lock Exn Mark Query Answer Op Out) (op : Op) (query : Query)
    (answer : Answer query) : Prop :=
  ∃ system index reply next txn, (system, Action.answer index reply) ∈ past ∧
    system.session index = some ⟨op, .call query next, txn⟩ ∧ reply query = answer

variable {service}
variable {allowed : System Db Lock Exn Mark Query Answer Op Out → Action Query Answer Op → Prop}
variable {start system after : System Db Lock Exn Mark Query Answer Op Out}
variable {past whole : Past Db Lock Exn Mark Query Answer Op Out}

theorem run_of_trace (trace : Trace service allowed start past system) :
    Relation.ReflTransGen (service.Step allowed) start system := by
  induction trace with
  | nil => exact Relation.ReflTransGen.refl
  | snoc before permitted step induction => exact induction.tail ⟨_, permitted, step⟩

theorem trace_onward (trace : Trace service allowed start past system)
    (run : Relation.ReflTransGen (service.Step allowed) system after) :
    ∃ more, Trace service allowed start (past ++ more) after := by
  induction run with
  | refl =>
      refine ⟨[], ?_⟩
      rw [List.append_nil]
      exact trace
  | @tail middle later before step induction =>
      obtain ⟨action, permitted, step⟩ := step
      obtain ⟨more, trace⟩ := induction
      refine ⟨more ++ [(middle, action)], ?_⟩
      rw [← List.append_assoc]
      exact trace.snoc permitted step

theorem trace_of_run (run : Relation.ReflTransGen (service.Step allowed) start system) :
    ∃ past, Trace service allowed start past system := trace_onward .nil run

theorem Trace.weaken
    {weaker : System Db Lock Exn Mark Query Answer Op Out → Action Query Answer Op → Prop}
    (trace : Trace service allowed start past system)
    (still : ∀ system action, allowed system action → weaker system action) :
    Trace service weaker start past system := by
  induction trace with
  | nil => exact .nil
  | snoc before permitted step induction => exact induction.snoc (still _ _ permitted) step

/-- The first step of a run leaves its start. -/
theorem start_of_trace (trace : Trace service allowed start past system) :
    (past = [] ∧ system = start) ∨ ∃ action, (start, action) ∈ past := by
  induction trace with
  | nil => exact Or.inl ⟨rfl, rfl⟩
  | snoc before permitted step induction =>
      rcases induction with ⟨rfl, rfl⟩ | ⟨action, member⟩
      · exact Or.inr ⟨_, List.mem_singleton_self _⟩
      · exact Or.inr ⟨action, List.mem_append_left _ member⟩

omit [DecidableEq Lock] in
theorem heard_mono (more : past ⊆ whole) {op : Op} {query : Query} {answer : Answer query}
    (heard : Heard past op query answer) : Heard whole op query answer := by
  obtain ⟨system, index, reply, next, txn, member, rest⟩ := heard
  exact ⟨system, index, reply, next, txn, more member, rest⟩

/-- What is asked of the answers of a run holds of what has been heard. -/
theorem allowed_of_mem (trace : Trace service allowed start past system)
    {middle : System Db Lock Exn Mark Query Answer Op Out} {action : Action Query Answer Op}
    (member : (middle, action) ∈ past) : allowed middle action := by
  induction trace with
  | nil => cases member
  | snoc before permitted step induction =>
      rcases List.mem_append.1 member with earlier | last
      · exact induction earlier
      · obtain ⟨rfl, rfl⟩ := Prod.mk.inj (List.mem_singleton.1 last)
        exact permitted

/-- A session has made good writes only, and will as long as it is told what the run has
heard. -/
def Informed (whole : Past Db Lock Exn Mark Query Answer Op Out) (good : Op → Write Db Lock → Prop)
    (session : Session Db Lock Exn Mark Query Answer Op Out) : Prop :=
  session.program.Told (Heard whole session.op) (good session.op) ∧
    ∀ write ∈ session.txn.writes, good session.op write

variable {good : Op → Write Db Lock → Prop}

omit [DecidableEq Lock] in
theorem informed_opened (told : ∀ op, (service.program op).Told (Heard whole op) (good op)) (op : Op)
    (db : Db) : Informed whole good (service.opened op db) :=
  ⟨told op, fun _ member => absurd member List.not_mem_nil⟩

theorem informed_step (told : ∀ op, (service.program op).Told (Heard whole op) (good op))
    {action : Action Query Answer Op} (member : (system, action) ∈ whole)
    (step : service.act action system = some after)
    (informed : ∀ index session, system.session index = some session → Informed whole good session)
    (index : Nat) (session : Session Db Lock Exn Mark Query Answer Op Out)
    (found : after.session index = some session) : Informed whole good session := by
  refine each_step (informed_opened told) ?_ ?_ ?_ step informed index session found
  · intro op Result mark body next txn error old
    exact ⟨old.1.2 _, old.2⟩
  · intro index op Result mark body next txn effect present success old
    refine ⟨old.1.2 _, fun write made => ?_⟩
    rcases List.mem_append.1 made with earlier | mine
    · exact old.2 write earlier
    · rw [List.mem_singleton.1 mine]
      exact old.1.1 _ _ effect success
  · intro index reply op query next txn which present old
    rw [which] at member
    exact ⟨old.1 _ ⟨system, index, reply, next, txn, member, present, rfl⟩, old.2⟩

/-- The rule for traces: what the programs write when they are told what the run has
heard is what the sessions have written. -/
theorem told_of_trace (told : ∀ op, (service.program op).Told (Heard whole op) (good op))
    (quiet : start.sessions = []) (trace : Trace service allowed start past system)
    (within_ : past ⊆ whole) :
    ∀ index session, system.session index = some session → Informed whole good session := by
  induction trace with
  | nil =>
      intro index session found
      rw [System.session_of_quiet quiet] at found
      cases found
  | @snoc past middle later action before permitted step induction =>
      have earlier : past ⊆ whole := fun entry member => within_ (List.mem_append_left _ member)
      have member : (middle, action) ∈ whole :=
        within_ (List.mem_append_right _ (List.mem_singleton.2 rfl))
      exact informed_step told member step (induction earlier)

end Traces

section Calls

variable [DecidableEq Lock] {service : Service Db Lock Exn Mark Query Answer Op Out}
variable {allowed : System Db Lock Exn Mark Query Answer Op Out → Action Query Answer Op → Prop}
variable {start system after : System Db Lock Exn Mark Query Answer Op Out}
variable {past : Past Db Lock Exn Mark Query Answer Op Out}

theorem calls_of_step {action : Action Query Answer Op}
    (step : service.act action system = some after) : system.calls ⊆ after.calls := by
  cases action with
  | start op =>
      simp only [Service.act, Option.ite_none_right_eq_some, Option.some.injEq] at step
      obtain ⟨_, rfl⟩ := step
      exact fun _ member => member
  | answer index reply =>
      simp only [Service.act] at step
      split at step
      · obtain rfl := Option.some.inj step
        exact List.subset_append_left _ _
      · cases step
  | advance ticks =>
      obtain rfl := Option.some.inj step
      exact fun _ member => member
  | run index | fault index | finish index | crash index =>
      simp only [Service.act] at step
      repeat' split at step
      all_goals first
        | (obtain rfl := Option.some.inj step; exact fun _ member => member)
        | exact absurd step (by simp)

/-- What has been heard has been asked for. -/
theorem called_of_heard (trace : Trace service allowed start past system) {op : Op} {query : Query}
    {answer : Answer query} (heard : Heard past op query answer) : query ∈ system.calls := by
  induction trace with
  | nil =>
      obtain ⟨_, _, _, _, _, member, _⟩ := heard
      cases member
  | snoc before permitted step induction =>
      obtain ⟨middle, index, reply, next, txn, member, found, given⟩ := heard
      rcases List.mem_append.1 member with earlier | last
      · exact calls_of_step step (induction ⟨middle, index, reply, next, txn, earlier, found, given⟩)
      · obtain ⟨rfl, rfl⟩ := Prod.mk.inj (List.mem_singleton.1 last)
        simp only [Service.act, found] at step
        obtain rfl := Option.some.inj step
        exact List.mem_append_right _ (List.mem_singleton.2 rfl)

end Calls

section Checks

variable [DecidableEq Lock] (service : Service Db Lock Exn Mark Query Answer Op Out)
variable (safe : System Db Lock Exn Mark Query Answer Op Out → Action Query Answer Op → Bool)

/-- A drive each of whose actions is checked in the state before it. -/
def Service.driveChecked (reply : (query : Query) → Answer query) (index : Nat) :
    Nat → System Db Lock Exn Mark Query Answer Op Out →
      Option (System Db Lock Exn Mark Query Answer Op Out)
  | 0, system => some system
  | count + 1, system =>
      let action := Service.due reply index system
      if safe system action then (service.act action system).bind (driveChecked reply index count)
      else none

def Service.scriptChecked :
    List (Action Query Answer Op ⊕ (((query : Query) → Answer query) × Nat × Nat)) →
      System Db Lock Exn Mark Query Answer Op Out →
        Option (System Db Lock Exn Mark Query Answer Op Out)
  | [], system => some system
  | .inl action :: rest, system =>
      if safe system action then (service.act action system).bind (scriptChecked rest) else none
  | .inr (reply, index, count) :: rest, system =>
      (service.driveChecked safe reply index count system).bind (scriptChecked rest)

variable {safe} {allowed : System Db Lock Exn Mark Query Answer Op Out → Action Query Answer Op → Prop}
variable {before after : System Db Lock Exn Mark Query Answer Op Out}

theorem run_of_driveChecked (sound : ∀ system action, safe system action = true →
      allowed system action) {reply : (query : Query) → Answer query} {index count : Nat}
    (driven : service.driveChecked safe reply index count before = some after) :
    Relation.ReflTransGen (service.Step allowed) before after := by
  induction count generalizing before with
  | zero =>
      obtain rfl := Option.some.inj driven
      exact Relation.ReflTransGen.refl
  | succ count induction =>
      simp only [Service.driveChecked, Option.ite_none_right_eq_some] at driven
      obtain ⟨checked, driven⟩ := driven
      obtain ⟨middle, step, driven⟩ := Option.bind_eq_some_iff.1 driven
      exact Relation.ReflTransGen.head ⟨_, sound before _ checked, step⟩ (induction driven)

theorem run_of_scriptChecked (sound : ∀ system action, safe system action = true →
      allowed system action)
    {moves : List (Action Query Answer Op ⊕ (((query : Query) → Answer query) × Nat × Nat))}
    (played : service.scriptChecked safe moves before = some after) :
    Relation.ReflTransGen (service.Step allowed) before after := by
  induction moves generalizing before with
  | nil =>
      obtain rfl := Option.some.inj played
      exact Relation.ReflTransGen.refl
  | cons move rest induction =>
      cases move with
      | inl action =>
          simp only [Service.scriptChecked, Option.ite_none_right_eq_some] at played
          obtain ⟨checked, played⟩ := played
          obtain ⟨middle, step, played⟩ := Option.bind_eq_some_iff.1 played
          exact Relation.ReflTransGen.head ⟨action, sound before action checked, step⟩
            (induction played)
      | inr driving =>
          obtain ⟨reply, index, count⟩ := driving
          obtain ⟨middle, driven, played⟩ := Option.bind_eq_some_iff.1 played
          exact (run_of_driveChecked service sound driven).trans (induction played)

end Checks

end Relational
