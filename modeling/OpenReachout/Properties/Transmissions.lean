import OpenReachout.Outreach.Claiming
import OpenReachout.Properties.Gaps
import OpenReachout.Relational.Calls

/-!
# One message of a touch

A delivery claims its touch, hands its message out and commits both together: whoever
delivers the touch again finds it locked, or past its delivery. A transaction that has
handed its message out and is rolled back leaves the touch a draft.
-/

namespace OpenReachout

open Relational Relational.Abstraction Relational.Program Text

set_option autoImplicit false

section Calls

variable {site : Deployment} {rely : Database → Database → Prop} {touchId : Uuid} {a b c : Spot}

/-- No message has left between `a` and `b`. -/
def Unsending (a b : Spot) : Prop :=
  ∀ call ∈ b.txn.calls, call ∈ a.txn.calls ∨ call.outgoing = none

theorem Unsending.trans (first : Unsending a b) (second : Unsending b c) : Unsending a c := by
  intro call member
  rcases second call member with earlier | silent
  · exact first call earlier
  · exact Or.inr silent

theorem unsending_of_silent {Value : Type} {program : Prog Value} {outcome : Except Exc Value}
    (silent : Silent program) (exec : Exec rely program a outcome b) : Unsending a b :=
  calls_of_exec silent exec

theorem silent_query {Value : Type} (read : Moment Database RowLock → Database → Value) :
    Silent (Program.query read : Prog Value) := every_perform trivial

theorem silent_deliverClaim (ctx : ValidatorContext) : Silent (deliverClaim site touchId ctx) := by
  refine every_bind (silent_query _) fun _ => every_bind (silent_query _) fun _ => ?_
  refine every_bind (silent_load touchId ctx) fun loaded => ?_
  cases loaded with
  | none => exact every_throw _
  | some draft => exact every_bind (silent_claim _ _ draft) fun _ => every_pure _

theorem intact_persistClaim (draft : DraftTouch) (mailbox : String) (results : Payload) :
    Intact rely (persistClaim draft mailbox results) := by
  unfold persistClaim
  refine intact_of_rest fun rows => ?_
  have traced : Intact rely (do
      Program.upsertRow Tables.decisionTraces none draft.touchId
        (fun _ => ⟨results, some draft.validatorCtx.claimRegistryVersion⟩)
        (fun _ _ => ⟨results, some draft.validatorCtx.claimRegistryVersion⟩)
      audit "touch" (toString draft.touchId) "claimed" [] "system:gatekeeper" : Prog Unit) :=
    intact_of_rest fun _ => intact_perform _ _
  dsimp only
  split_ifs
  · exact intact_throw _
  · exact intact_throw _
  · exact intact_of_rest fun _ => traced
  · exact traced

/-- A claim that is granted has left its transaction intact. -/
theorem intact_of_claim {draft : DraftTouch} {claimed : ClaimedTouch}
    (exec : Exec rely (claim site.runtime (pgGateStore site.platform) draft) a
      (.ok (.claimed claimed)) b) : b.txn.failed = false := by
  have run : (Program.observation rely).runs (claim site.runtime (pgGateStore site.platform) draft)
      a (.ok (.claimed claimed)) b := exec
  obtain ⟨_, _, _, _, _, _, _, _, _, capacity⟩ := claim_passed run
  obtain ⟨mailbox, results, _, confident, _, _, persisted, _⟩ := capacity
  exact intact_persistClaim draft mailbox results confident () b persisted

/-- A delivery has claimed its touch when its message leaves, and no message has left. -/
theorem claim_of_delivering {gateDraft : DraftTouch} {claimed : ClaimedTouch}
    (delivering : Delivering site rely touchId a b gateDraft claimed) :
    b.txn.failed = false ∧
      ∃ ctx, Exec rely (deliverClaim site touchId ctx) a (.ok (gateDraft, .claimed claimed)) b := by
  obtain ⟨ctx, tenant, first, second, loaded, status, named, load, claims⟩ := delivering
  refine ⟨intact_of_claim claims, ctx, ?_⟩
  unfold deliverClaim
  simp only [exec_bind_ok]
  refine ⟨_, first, status, _, second, named, some gateDraft, loaded, load, ?_⟩
  dsimp only
  rw [exec_bind_ok]
  exact ⟨.claimed claimed, b, claims, rfl, rfl⟩

/-- After a refusal no message leaves. -/
theorem silent_refused (draft : DraftTouch) (refusal : Refusal) :
    Silent (deliverRuled site touchId draft (.refused refusal)) := by
  unfold deliverRuled
  dsimp only
  split_ifs
  · exact silent_release touchId refusal
  · exact every_throw _

end Calls

section Runs

variable {site : Deployment} {start world later : World} {past : History} {touchId : Uuid}

/-- The message of the touch leaves for its provider. -/
def handsOver (touchId : Uuid) (world : World) : Act → Bool
  | .answer index _ =>
      (System.asking world index).any fun entry =>
        entry.1.queue = .deliver && entry.1.payload = .touch touchId && entry.2.outgoing.isSome
  | _ => false

/-- How often it has left. -/
def handedOver (touchId : Uuid) (past : History) : Nat :=
  past.countP fun entry => handsOver touchId entry.1 entry.2

/-- The transaction has handed out a message. -/
def Handing (session : Session Database RowLock Exc Mark Call Call.Answer Op Out) : Prop :=
  ∃ call ∈ session.txn.calls, call.outgoing ≠ none

/-- A transaction that has handed out a message ends with its commit. -/
def HandedKept (world : World) (action : Act) : Prop :=
  ∀ index session, world.session index = some session → Handing session →
    action ≠ .crash index ∧ (action = .finish index → ∃ out, Committing session out)

theorem session_of_handsOver {action : Act} (hands : handsOver touchId world action = true) :
    ∃ index reply op asked next txn message, action = .answer index reply ∧
      world.session index = some ⟨op, .call asked next, txn⟩ ∧ op.delivers touchId ∧
      asked.outgoing = some message := by
  unfold handsOver at hands
  split at hands
  · next index reply =>
      obtain ⟨⟨job, asked⟩, asking, holds⟩ := (Option.any_eq_true _ _).1 hands
      simp only [Bool.and_eq_true, decide_eq_true_eq] at holds
      obtain ⟨⟨queue, payload⟩, out⟩ := holds
      obtain ⟨message, given⟩ := Option.isSome_iff_exists.1 out
      unfold System.asking at asking
      split at asking
      · next handled call_ next txn found =>
          cases asking
          exact ⟨index, reply, _, _, next, txn, message, rfl, found, ⟨job, rfl, queue, payload⟩, given⟩
      · cases asking
  · cases hands

/-- The program of a delivery. -/
theorem program_of_delivers {op : Op} (delivers : op.delivers touchId) :
    op.program site = unitOut (deliver site touchId) := by
  obtain ⟨job, rfl, queue, payload⟩ := delivers
  have handles : handler site job = deliver site touchId := by
    unfold handler
    rw [queue, payload]
  change unitOut (handler site job) = _
  rw [handles]

theorem past_of_persisted {vouch : Mark → Ledger → Prop} {draft : DraftTouch} {mailbox : String}
    {begun before after : Ledger} {item : Touch} {owner : Entity}
    (persisted : Persisted vouch draft mailbox begun before after item owner) :
    after.past draft.touchId := by
  unfold Ledger.past
  rw [persisted.wrote]
  exact ⟨_, Function.update_self draft.touchId _ _, rfl⟩

/-- What holds of a delivery when its message leaves. -/
structure Leaving (site : Deployment) (touchId : Uuid) (committed : Database)
    (txn : Txn Database RowLock Mark Call) : Prop where
  drafted : ∃ item, committed.ledger.touches touchId = some item ∧ item.status = .drafted
  locked : RowLock.touch touchId ∈ txn.held.map Prod.fst
  first : ∀ call ∈ txn.calls, call.outgoing = none

theorem leaving_of_asks {op : Op} {begun db : Database} {call : Call} {c : Spot}
    {message : String × List Char × List Char} (delivers : op.delivers touchId)
    (asks : Asks Progress (op.program site) (Point.begin begun) call c)
    (out : call.outgoing = some message) (linked : Linked begun.ledger)
    (later : Progress c.committed db) (stable : c.txn.Stable db) :
    Leaving site touchId db c.txn := by
  rw [program_of_delivers delivers, unitOut, asks_bind] at asks
  rcases asks with asks | ⟨_, _, _, asks⟩
  · obtain ⟨draft, claimed, delivering, _⟩ := deliver_asks asks out
    obtain ⟨intact, ctx, exec⟩ := claim_of_delivering delivering
    have standing : (outreach site (fun _ _ => True) op).Standing [] (Point.begin begun : Spot) :=
      standing_begin begun linked
    have clean : (outreach site (fun _ _ => True) op).Clean c.txn := ⟨intact, fun _ _ => trivial⟩
    obtain ⟨⟨_, _, fits⟩, _, item, _, _, persisted⟩ :=
      brings_deliverClaim ctx _ _ _ standing exec clean db later stable
    have drafted := persisted.found
    rw [fits.named] at drafted
    have takes : (outreach site (fun _ _ => True) op).Takes (deliverClaim site touchId ctx)
        fun ruled => locksOf ruled.1 ruled.2 := takes_deliverClaim ctx
    have silent := unsending_of_silent (silent_deliverClaim ctx) exec
    refine ⟨⟨item, drafted, persisted.drafted⟩, ?_, fun call member => ?_⟩
    · rw [← fits.named]
      exact takes _ _ _ exec List.mem_cons_self
    · rcases silent call member with before | none
      · cases before
      · exact none
  · exact asks.elim

/-- A delivery that has handed out a message holds its touch. -/
theorem locked_of_handing {index : Nat}
    {session : Session Database RowLock Exc Mark Call Call.Answer Op Out} (sane : Sane site world)
    (found : world.session index = some session) (delivers : session.op.delivers touchId)
    (handing : Handing session) : RowLock.touch touchId ∈ session.txn.held.map Prod.fst := by
  obtain ⟨call, member, out⟩ := handing
  have own := sane.sound.each index session found
  obtain ⟨last, later, reach⟩ := own.reach
  rcases reach.called progress_order call member with before | ⟨c, asks, further⟩
  · cases before
  · obtain ⟨message, given⟩ := Option.ne_none_iff_exists'.1 out
    have onward := progress_order.trans further.rely later
    have stable : c.txn.Stable world.committed := Abstraction.stable_of_held further.held own.stable
    have leaving := leaving_of_asks delivers asks given (sane.begun index session found) onward stable
    exact List.map_subset Prod.fst further.held leaving.locked

/-- A delivery that commits after it has handed out its message has taken the touch past
its delivery. -/
theorem past_of_handed {index : Nat} {out : Out}
    {session : Session Database RowLock Exc Mark Call Call.Answer Op Out} (sane : Sane site world)
    (found : world.session index = some session) (delivers : session.op.delivers touchId)
    (handing : Handing session) (commits : Committing session out) :
    (session.txn.view world.committed).ledger.past touchId := by
  obtain ⟨op, program, txn⟩ := session
  obtain ⟨rfl, intact⟩ := commits
  have done := commits_of_done sane.sound found intact
  obtain ⟨last, later, exec⟩ := done.exec
  have standing : (outreach site (fun _ _ => True) op).Standing [] (Point.begin txn.start : Spot) :=
    standing_begin txn.start (sane.begun index _ found)
  have clean : (outreach site (fun _ _ => True) op).Clean txn := ⟨intact, fun _ _ => trivial⟩
  have program : (service site).program op = unitOut (deliver site touchId) :=
    program_of_delivers delivers
  rw [program, unitOut, exec_bind_ok] at exec
  obtain ⟨_, c, exec, _, rfl⟩ := exec
  have loud : ¬ Unsending (Point.begin txn.start) (⟨last, txn⟩ : Spot) := by
    intro unsent
    obtain ⟨call, member, sent⟩ := handing
    rcases unsent call member with before | silent
    · cases before
    · exact sent silent
  have came : CameThrough site touchId (Program.observation Progress) (Point.begin txn.start)
      (⟨last, txn⟩ : Spot) := runs_deliver exec
  cases came with
  | ended status read =>
      have looked : Exec Progress (Program.query fun _ db => (db.touches.lookup touchId).map
          Touch.status : Prog (Option TouchStatus)) (Point.begin txn.start) (.ok status)
          ⟨last, txn⟩ := read
      exact absurd (unsending_of_silent (silent_query _) looked) loud
  | ruled ctx draft result b claimed_ ruled =>
      have claims : Exec Progress (deliverClaim site touchId ctx) (Point.begin txn.start)
          (.ok (draft, result)) b := claimed_
      have follows : Exec Progress (deliverRuled site touchId draft result) b (.ok ())
          ⟨last, txn⟩ := ruled
      have claiming := unsending_of_silent (silent_deliverClaim ctx) claims
      cases result with
      | refused refusal =>
          have refusing := unsending_of_silent (silent_refused draft refusal) follows
          exact absurd (claiming.trans refusing) loud
      | claimed claimed =>
          have further := exec_extends progress_order follows
          have onward := progress_order.trans further.rely later
          have kept : b.txn.Stable world.committed :=
            Abstraction.stable_of_held further.held done.stable
          have early : (outreach site (fun _ _ => True) op).Clean b.txn :=
            Abstraction.clean_of_exec follows clean
          obtain ⟨⟨_, _, fits⟩, _, _, _, _, persisted⟩ :=
            brings_deliverClaim ctx _ _ _ standing claims early world.committed onward kept
          have past_ : (b.txn.view world.committed).ledger.past touchId := by
            rw [← fits.named]
            exact past_of_persisted persisted
          exact past_later past_ (brings_deliverRuled fits.named _ _ _
            (standing_ruled standing claims early) follows clean world.committed later done.stable)

/-- The answer to a call is kept with the call. -/
theorem handing_of_answer {index : Nat} {reply : (call : Call) → call.Answer} {op : Op}
    {asked : Call} {next : asked.Answer → Prog Out} {txn : Txn Database RowLock Mark Call}
    (found : world.session index = some ⟨op, .call asked next, txn⟩)
    (out : asked.outgoing ≠ none) (step : (service site).act (.answer index reply) world = some later) :
    ∃ session, later.session index = some session ∧ session.op = op ∧ Handing session := by
  simp only [Service.act, found] at step
  obtain rfl := Option.some.inj step
  refine ⟨⟨op, next (reply asked), txn.asked asked⟩, ?_, rfl, asked, ?_, out⟩
  · have inside := System.session_inside found
    exact (System.session_put world inside _ _).trans (if_pos rfl)
  · exact List.mem_append_right _ (List.mem_singleton_self asked)

/-- What a run has handed out of a touch: one message at most, and then the touch is past
its delivery, or the transaction that handed it out is open. -/
structure HandedOnce (site : Deployment) (touchId : Uuid) (past : History) (world : World) :
    Prop where
  sane : Sane site world
  once : handedOver touchId past ≤ 1
  settled : handedOver touchId past ≠ 0 → world.committed.ledger.past touchId ∨
    ∃ index session, world.session index = some session ∧ session.op.delivers touchId ∧
      Handing session

theorem handedOver_snoc (past : History) (world : World) (action : Act) :
    handedOver touchId (past ++ [(world, action)]) =
      handedOver touchId past + if handsOver touchId world action then 1 else 0 := by
  unfold handedOver
  rw [List.countP_append, List.countP_singleton]

/-- A message that leaves is the first of its touch. -/
theorem none_handed {action : Act} (before : HandedOnce site touchId past world)
    (hands : handsOver touchId world action = true) : handedOver touchId past = 0 := by
  obtain ⟨index, reply, op, asked, next, txn, message, _, found, delivers, out⟩ :=
    session_of_handsOver hands
  have own := before.sane.sound.each index _ found
  obtain ⟨last, later, asks⟩ := asks_of_call before.sane.sound found
  have leaving := leaving_of_asks delivers asks out (before.sane.begun index _ found) later own.stable
  by_contra some_
  rcases before.settled some_ with ⟨item, there, stage⟩ | ⟨other, session, there, which, handing⟩
  · obtain ⟨draft, known, drafted⟩ := leaving.drafted
    obtain rfl := Option.some.inj (known.symm.trans there)
    rw [drafted] at stage
    cases stage
  · by_cases same : index = other
    · obtain rfl := same
      obtain rfl := Option.some.inj (there.symm.trans found)
      obtain ⟨call, member, sent⟩ := handing
      exact sent (leaving.first call member)
    · have locked := locked_of_handing before.sane there which handing
      exact before.sane.sound.disjoint index other _ session same found there _ leaving.locked locked

theorem handedOnce_step {action : Act} (before : HandedOnce site touchId past world)
    (kept : HandedKept world action) (step : (service site).act action world = some later) :
    HandedOnce site touchId (past ++ [(world, action)]) later := by
  have free : Vouched (fun _ _ _ _ => True) world action := fun _ _ _ _ _ _ _ _ => trivial
  have onward := later_advance (advance_of_step before.sane.sound before.sane.begun free step)
  have sane := sane_step before.sane step onward
  by_cases hands : handsOver touchId world action = true
  · have first := none_handed before hands
    obtain ⟨index, reply, op, asked, next, txn, message, rfl, found, delivers, out⟩ :=
      session_of_handsOver hands
    have outgoing : asked.outgoing ≠ none := by
      rw [out]
      exact Option.some_ne_none message
    obtain ⟨session, there, same, handing⟩ := handing_of_answer found outgoing step
    refine ⟨sane, ?_, fun _ => Or.inr ⟨index, session, there, ?_, handing⟩⟩
    · rw [handedOver_snoc, first, if_pos hands]
    · rw [same]
      exact delivers
  · have count : handedOver touchId (past ++ [(world, action)]) = handedOver touchId past := by
      rw [handedOver_snoc, if_neg hands, Nat.add_zero]
    refine ⟨sane, count ▸ before.once, fun some_ => ?_⟩
    rw [count] at some_
    rcases before.settled some_ with past_ | ⟨index, session, found, delivers, handing⟩
    · exact Or.inl (past_later past_ onward)
    · obtain ⟨alive, ends⟩ := kept index session found handing
      by_cases finishes : action = .finish index
      · obtain ⟨out, commits⟩ := ends finishes
        have past_ := past_of_handed before.sane found delivers handing commits
        rw [finishes] at step
        obtain ⟨op, program, txn⟩ := session
        obtain ⟨rfl, intact⟩ := commits
        rw [← committed_of_finish found intact step] at past_
        exact Or.inl past_
      · obtain ⟨next, there, same, calls⟩ := session_kept step found finishes alive
        obtain ⟨call, member, out⟩ := handing
        refine Or.inr ⟨index, next, there, ?_, call, calls member, out⟩
        rw [same]
        exact delivers

/-- As long as no transaction that has handed out a message is rolled back, a run hands
out at most one message of each touch. -/
theorem handed_over_once (quiet : start.sessions = []) (linked : Linked start.committed.ledger)
    (trace : Trace (service site) HandedKept start past world) (touchId : Uuid) :
    handedOver touchId past ≤ 1 := by
  have once : HandedOnce site touchId past world := by
    induction trace with
    | nil => exact ⟨sane_start quiet linked, Nat.zero_le 1, fun some_ => absurd rfl some_⟩
    | snoc before kept step induction => exact handedOnce_step induction kept step
  exact once.once

end Runs

section Sample

/-- More than `HandedKept`, tried on one action: no transaction crashes or is rolled back. -/
def endsKept (world : World) : Act → Bool
  | .crash _ => false
  | .finish index =>
      match world.session index with
      | some ⟨_, .done _, txn⟩ => !txn.failed
      | _ => false
  | _ => true

theorem endsKept_sound (world : World) (action : Act) (checked : endsKept world action = true) :
    HandedKept world action := by
  intro index session found _
  refine ⟨fun crashes => ?_, fun finishes => ?_⟩
  · rw [crashes] at checked
    cases checked
  · rw [finishes] at checked
    simp only [endsKept, found] at checked
    split at checked
    · next present =>
        obtain rfl := Option.some.inj present
        exact ⟨_, rfl, Bool.not_eq_true' _ ▸ checked⟩
    · cases checked

/-- The sample delivery hands its message over. -/
def handsSample (index : Nat) : Act := .answer index (sampleReply sampleClock 100)

/-- A run hands a message over and goes on. -/
theorem handed_onward {allowed : World → Act → Prop} {start middle next world : World}
    {past : History} {touchId : Uuid} {action : Act}
    (trace : Trace (service sampleDeployment) allowed start past middle)
    (hands : handsOver touchId middle action = true) (permitted : allowed middle action)
    (step : (service sampleDeployment).act action middle = some next)
    (run : Run sampleDeployment allowed next world) :
    ∃ whole, Trace (service sampleDeployment) allowed start whole world ∧
      handedOver touchId past < handedOver touchId whole := by
  obtain ⟨more, onward⟩ := trace_onward (trace.snoc permitted step) run
  refine ⟨_, onward, ?_⟩
  unfold handedOver
  rw [List.countP_append, List.countP_append, List.countP_singleton, if_pos hands]
  omega

/-- The sample delivery hands its message over once, and commits. -/
theorem sample_handed_over : ∃ past world,
    Trace (service sampleDeployment) HandedKept sampleWorld past world ∧
    handedOver 4 past = 1 ∧
    (world.committed.touches.lookup 4).map Touch.status = some .dispatched := by
  have tried : ((service sampleDeployment).scriptChecked endsKept deliversToCall sampleWorld).any
      (fun middle => handsOver 4 middle (handsSample 0) &&
        ((service sampleDeployment).act (handsSample 0) middle).any fun next =>
          ((service sampleDeployment).scriptChecked endsKept [go 0 15] next).any fun world =>
            (world.committed.touches.lookup 4).map Touch.status = some .dispatched) = true := by
    decide +kernel
  obtain ⟨middle, played, holds⟩ := (Option.any_eq_true _ _).1 tried
  obtain ⟨hands, holds⟩ := (Bool.and_eq_true _ _).mp holds
  obtain ⟨next, step, holds⟩ := (Option.any_eq_true _ _).1 holds
  obtain ⟨world, further, dispatched⟩ := (Option.any_eq_true _ _).1 holds
  obtain ⟨past, trace⟩ := trace_of_run
    (run_of_scriptChecked (service sampleDeployment) endsKept_sound played)
  obtain ⟨whole, onward, more⟩ := handed_onward trace hands (endsKept_sound middle _ rfl) step
    (run_of_scriptChecked (service sampleDeployment) endsKept_sound further)
  have once : handedOver 4 whole ≤ 1 := handed_over_once rfl sample_linked onward 4
  exact ⟨whole, world, onward, by omega, of_decide_eq_true dispatched⟩

/-- The worker is lost between the send and the commit, its lease runs out, and the job
is taken up again. -/
def lostAfterSend : List Move :=
  [.inl (.crash 0), .inl (.advance (seconds 121)), begin .reapExpired, go 1 2,
    begin (.lease .deliver), go 2 24 200]

/-- SMTP knows of no touch: a message whose transaction is lost is handed over again. -/
theorem handed_over_twice : ∃ provider past world, sampleDeployment.provider = .smtp provider ∧
    Trace (service sampleDeployment) unrestricted sampleWorld past world ∧
    1 < handedOver 4 past := by
  have tried : (play deliversToCall).any (fun middle => handsOver 4 middle (handsSample 0) &&
      ((service sampleDeployment).act (handsSample 0) middle).any fun next =>
        ((service sampleDeployment).script lostAfterSend next).any fun again =>
          handsOver 4 again (handsSample 2) &&
            ((service sampleDeployment).act (handsSample 2) again).isSome) = true := by
    decide +kernel
  obtain ⟨middle, played, holds⟩ := (Option.any_eq_true _ _).1 tried
  obtain ⟨hands, holds⟩ := (Bool.and_eq_true _ _).mp holds
  obtain ⟨next, step, holds⟩ := (Option.any_eq_true _ _).1 holds
  obtain ⟨again, further, holds⟩ := (Option.any_eq_true _ _).1 holds
  obtain ⟨hands_again, stepped⟩ := (Bool.and_eq_true _ _).mp holds
  obtain ⟨world, step_again⟩ := Option.isSome_iff_exists.1 stepped
  obtain ⟨past, trace⟩ := trace_of_run (run_of_play played)
  obtain ⟨first, onward, one⟩ :=
    handed_onward trace hands trivial step (run_of_further further)
  obtain ⟨whole, last, two⟩ :=
    handed_onward onward hands_again trivial step_again Relation.ReflTransGen.refl
  exact ⟨_, whole, world, rfl, last, by omega⟩

end Sample

end OpenReachout
