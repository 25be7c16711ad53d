import OpenReachout.Outreach.Review
import OpenReachout.Outreach.Sending
import OpenReachout.Properties.Delivery
import OpenReachout.Properties.Runs
import OpenReachout.Relational.Hearing

/-!
# The laws of a run

Every transaction of the service follows the deeds, and so does every run: a step
leaves the committed ledger alone, moves its clock, or leads along the deeds of the
operation that commits.
-/

namespace OpenReachout

open Relational Relational.Abstraction Text

set_option autoImplicit false

variable {site : Deployment} {vouch : Mark → Ledger → Prop} {op : Op} {held : List RowLock}

section Programs

theorem ensures_unitOut {model : Abstraction Database RowLock Mark} {Value : Type}
    {program : Prog Value} {post : Database → Database → Database → Prop}
    (ensures : model.Ensures held program fun start _ before after => post start before after) :
    model.Ensures held (unitOut program) fun start _ before after => post start before after := by
  intro a b out standing exec clean db later stable
  unfold unitOut at exec
  rw [Program.exec_bind_ok] at exec
  obtain ⟨value, middle, early, _, rfl⟩ := exec
  exact ensures a b value standing early clean db later stable

theorem follows_unitOut {Value : Type} {program : Prog Value}
    (follows : (outreach site vouch op).Follows held program) :
    (outreach site vouch op).Follows held (unitOut program) :=
  follows_bind follows fun _ => follows_pure _

theorem follows_handler (job : Job) (which : op = .handle job) :
    (outreach site vouch op).Follows held (handler site job) := by
  unfold handler
  split
  · next queue => exact follows_controlOp _ ⟨job, which, queue, rfl⟩
  · next eventId queue payload => exact follows_trigger eventId ⟨job, which, queue, payload⟩
  · next replyId queue payload => exact follows_classify replyId ⟨job, which, queue, payload⟩
  · next touchId queue payload => exact follows_deliver ⟨job, which, queue, payload⟩
  · next prospectId stepIndex queue payload =>
      exact follows_composeHandler site prospectId stepIndex ⟨job, which, queue, payload⟩
  · exact follows_processPositiveEvent _ _
  · exact follows_reengage _ _
  · next prospectId queue payload => exact follows_qualify prospectId ⟨job, which, queue, payload⟩
  · next prospectId queue payload => exact follows_enrich prospectId ⟨job, which, queue, payload⟩
  · next tenant persona cohort filters cursor queue payload =>
      exact follows_discover _ _ _ _ _ ⟨job, which, queue⟩
  · exact follows_quiet (quiet_attempt _ _)
  · exact follows_throw _

theorem follows_lease (queue : QueueName) (which : op = .lease queue) :
    (outreach site vouch op).Follows held (lease queue) := by
  apply follows_of_brings (brings_lease queue)
  rintro start _ before _ (⟨_, rfl⟩ | ⟨id, work, _, found, ready, rfl⟩)
  · exact Relation.ReflTransGen.refl
  · exact .single (.lease id work queue which found ready)

theorem follows_complete (job : Job) (which : op = .complete job) :
    (outreach site vouch op).Follows held (complete job.id) := by
  apply follows_of_brings (brings_complete job.id)
  rintro start _ before _ (rfl | ⟨work, found, rfl⟩)
  · exact Relation.ReflTransGen.refl
  · exact .single (.complete job work which found)

theorem follows_fail (job : Job) (error : String) (permanent : Bool)
    (which : op = .fail job error permanent) :
    (outreach site vouch op).Follows held (fail job error permanent) := by
  apply follows_of_brings (brings_fail job error permanent)
  rintro start _ before _ (rfl | ⟨work, found, ⟨spent, rfl⟩ | ⟨left, rfl⟩⟩)
  · exact Relation.ReflTransGen.refl
  · exact .single (.bury job error work (Or.inl ⟨permanent, which, spent⟩) found)
  · exact .single (.retry job error permanent work which left found)

theorem follows_complianceAlert (job : Job) (error : String)
    (which : op = .complianceAlert job error) :
    (outreach site vouch op).Follows held (complianceAlert site job error) := by
  refine follows_bind ?_ fun _ => ?alerts
  case alerts =>
    cases site.castObject (alertText error) with
    | none => exact follows_throw _
    | some payload => exact follows_quiet (quiet_audit _ _ _ _ _)
  apply follows_of_brings (brings_fail job ("compliance: " ++ error) true)
  rintro start _ before _ (rfl | ⟨work, found, ⟨_, rfl⟩ | ⟨left, _⟩⟩)
  · exact Relation.ReflTransGen.refl
  · exact .single (.bury job _ work (Or.inr ⟨error, which, rfl⟩) found)
  · cases left

theorem follows_reapExpired (which : op = .reapExpired) :
    (outreach site vouch op).Follows held reapExpired := by
  apply follows_of_brings brings_reapExpired
  rintro start _ before _ ⟨chosen, expired, rfl⟩
  exact .single (.reap chosen which expired)

/-- Every transaction of the service commits deeds. -/
theorem follows_program (op : Op) : (outreach site vouch op).Follows held (op.program site) := by
  cases op with
  | lease queue =>
      exact follows_bind (follows_lease queue rfl) fun _ => follows_pure _
  | reapExpired => exact follows_unitOut (follows_reapExpired rfl)
  | ingestEvents events => exact follows_unitOut (follows_ingestEvents events rfl)
  | operatorEvent eventType selector dedupeKey =>
      exact follows_unitOut (follows_operatorEvent eventType selector dedupeKey)
  | recordConversion touchId =>
      exact follows_bind (follows_recordConversion touchId) fun _ => follows_pure _
  | approvePending touchId actor =>
      exact follows_unitOut (follows_approvePending touchId actor rfl)
  | rejectPending touchId actor note =>
      exact follows_unitOut (follows_rejectPending touchId actor note rfl)
  | resolveTask taskId actor finished note =>
      exact follows_unitOut (follows_resolve taskId actor finished note rfl)
  | expireTasks => exact follows_unitOut (follows_expire rfl)
  | halt scope actor flag => exact follows_unitOut (follows_halt scope actor flag rfl)
  | resume scope actor => exact follows_unitOut (follows_resume scope actor rfl)
  | suppress email reason => exact follows_unitOut (follows_suppress _ email reason _ rfl)
  | forget ref => exact follows_unitOut (follows_forget ref rfl)
  | seedDiscovery runtime => exact follows_unitOut (follows_seedDiscovery runtime)
  | propose tenant kind payload dedupeKey =>
      exact follows_unitOut (follows_propose tenant kind payload dedupeKey rfl)
  | approveProposal proposalId actor =>
      refine follows_bind (follows_of_brings (brings_approve proposalId actor false) ?_) fun _ =>
        follows_pure _
      exact fun _ _ _ _ => path_of_approving (Or.inl ⟨proposalId, actor, rfl⟩)
  | declineProposal proposalId actor note =>
      refine follows_bind (follows_of_brings (brings_decline proposalId actor note) ?_) fun _ =>
        follows_pure _
      exact fun _ _ _ _ => path_of_declining rfl
  | autoReview tenant cohortLaunch =>
      have which : Op.approves (.autoReview tenant cohortLaunch) :=
        Or.inr ⟨tenant, cohortLaunch, rfl⟩
      refine follows_bind (follows_of_brings (brings_autoReview tenant cohortLaunch which) ?_)
        fun _ => follows_pure _
      exact fun _ _ _ _ reviewing => reviewing.path
  | handle job => exact follows_unitOut (follows_handler job rfl)
  | complete job => exact follows_unitOut (follows_complete job rfl)
  | fail job error permanent => exact follows_unitOut (follows_fail job error permanent rfl)
  | complianceAlert job error => exact follows_unitOut (follows_complianceAlert job error rfl)

end Programs

section Runs

/-- What is asked of a marked statement: of the state that is committed to, the one on
which its transaction began, and the one that it saw. -/
abbrev Condition := Ledger → Ledger → Mark → Ledger → Prop

variable {allowed : World → Act → Prop} {world after : World} {rule : Condition}

/-- The order in which the committed states of a run follow each other. -/
def Progress (old new : Database) : Prop := Later old.ledger new.ledger

theorem progress_order : Timeline Progress :=
  ⟨fun _ => later_refl _, fun one two => later_trans one two⟩

theorem path_later {start l later : Ledger}
    (path : Relation.ReflTransGen (Deed site vouch op start) l later) : Later l later := by
  induction path with
  | refl => exact later_refl _
  | tail _ deed induction => exact later_trans induction (deed_later _ _ _ _ deed)

/-- The session has run its transaction to the end and commits it. -/
structure Committing (session : Session Database RowLock Exc Mark Call Call.Answer Op Out)
    (out : Out) : Prop where
  done : session.program = .done out
  intact : session.txn.failed = false

/-- What a step does to the committed state: a commit leads along the deeds of its
operation, from the state it finds. -/
inductive Advance (site : Deployment) (rule : Condition) (world after : World) :
    Act → Prop where
  | idle {action : Act} (same : after.committed = world.committed) :
      Advance site rule world after action
  | clock (ticks : Nat) (moved : after.committed = advanceClock ticks world.committed) :
      Advance site rule world after (.advance ticks)
  | commit (index : Nat) (session : Session Database RowLock Exc Mark Call Call.Answer Op Out)
      (out : Out) (found : world.session index = some session) (commits : Committing session out)
      (since : Later session.txn.start.ledger world.committed.ledger)
      (wrote : after.committed = session.txn.view world.committed)
      (path : Relation.ReflTransGen
        (Deed site (rule world.committed.ledger session.txn.start.ledger) session.op
          session.txn.start.ledger)
        world.committed.ledger after.committed.ledger) :
      Advance site rule world after (.finish index)

/-- The transactions under way began on states with their foreign keys intact. -/
def Begun (world : World) : Prop :=
  ∀ index session, world.session index = some session → Linked session.txn.start.ledger

/-- What a session that commits has seen at its marked statements. -/
def Vouched (rule : Condition) (world : World) (action : Act) : Prop :=
  ∀ index session out, action = .finish index → world.session index = some session →
    Committing session out → ∀ entry ∈ session.txn.seen,
      rule world.committed.ledger session.txn.start.ledger entry.1 entry.2.ledger

/-- What is shown of the program of a transaction holds of its commit. -/
theorem ensures_commit {index : Nat} {out : Out}
    {session : Session Database RowLock Exc Mark Call Call.Answer Op Out}
    {post : Database → Out → Database → Database → Prop}
    (sound : world.Sound (service site) Progress) (begun : Begun world)
    (found : world.session index = some session) (commits : Committing session out)
    (vouched : ∀ entry ∈ session.txn.seen, vouch entry.1 entry.2.ledger)
    (ensures : (outreach site vouch session.op).Ensures [] (session.op.program site) post) :
    Later session.txn.start.ledger world.committed.ledger ∧
      post session.txn.start out world.committed (session.txn.view world.committed) := by
  obtain ⟨op, program, txn⟩ := session
  obtain ⟨rfl, intact⟩ := commits
  have done := commits_of_done sound found intact
  obtain ⟨last, later, exec⟩ := done.exec
  have further := Program.exec_extends progress_order exec
  have standing : (outreach site vouch op).Standing [] (Point.begin txn.start : Spot) :=
    standing_begin txn.start (begun index _ found)
  have clean : (outreach site vouch op).Clean txn := ⟨intact, vouched⟩
  exact ⟨later_trans further.rely later,
    ensures _ _ out standing exec clean world.committed later done.stable⟩

theorem brings_commit {index : Nat} {out : Out}
    {session : Session Database RowLock Exc Mark Call Call.Answer Op Out}
    {post : Ledger → Out → Ledger → Ledger → Prop} (sound : world.Sound (service site) Progress)
    (begun : Begun world) (found : world.session index = some session)
    (commits : Committing session out)
    (vouched : ∀ entry ∈ session.txn.seen, vouch entry.1 entry.2.ledger)
    (brings : (outreach site vouch session.op).Brings [] (session.op.program site) post) :
    Later session.txn.start.ledger world.committed.ledger ∧
      post session.txn.start.ledger out world.committed.ledger
        (session.txn.view world.committed).ledger :=
  ensures_commit sound begun found commits vouched brings.ensures

/-- What the transaction of a delivery does. -/
theorem ensures_delivery {job : Job} (queue : job.queue = .deliver) :
    (outreach site vouch (.handle job)).Ensures held ((Op.handle job).program site)
      fun start _ before after => ∃ touchId, (Op.handle job).delivers touchId ∧
        Handles site vouch (.handle job) touchId start before after := by
  have handles : (outreach site vouch (.handle job)).Ensures held (handler site job)
      fun start _ before after => ∃ touchId, (Op.handle job).delivers touchId ∧
        Handles site vouch (.handle job) touchId start before after := by
    unfold handler
    split
    case h_4 touchId _ payload =>
      have which : (Op.handle job).delivers touchId := ⟨job, rfl, queue, payload⟩
      exact (ensures_deliver which).mono fun _ _ _ _ handles => ⟨touchId, which, handles⟩
    case h_12 => exact ensures_throw _
    all_goals simp_all
  exact ensures_unitOut handles

/-- A session that returns commits, where its program catches no error. -/
theorem committing_of_outcome {index : Nat} {out : Out}
    {session : Session Database RowLock Exc Mark Call Call.Answer Op Out}
    (sound : world.Sound (service site) Progress) (found : world.session index = some session)
    (careful : Program.Careful Progress (session.op.program site))
    (ended : session.program.outcome = some (.ok out)) : Committing session out := by
  obtain ⟨op, program, txn⟩ := session
  have done : program = .done out := by
    cases program with
    | done value => exact congrArg Program.done (Except.ok.inj (Option.some.inj ended))
    | raise error => cases Option.some.inj ended
    | statement mark body next => cases ended
    | call query next => cases ended
  obtain rfl := done
  obtain ⟨last, _, reach⟩ := (sound.each index _ found).reach
  have ends : Program.Exec Progress (pure out : Prog Out) (⟨last, txn⟩ : Spot) (.ok out)
      ⟨last, txn⟩ := ⟨rfl, rfl⟩
  exact ⟨rfl, careful _ out _ (reach.exec ends) rfl⟩

theorem advance_of_step {action : Act} (sound : world.Sound (service site) Progress)
    (begun : Begun world) (vouched : Vouched rule world action)
    (step : (service site).act action world = some after) :
    Advance site rule world after action := by
  rcases act_committed step with same | ⟨ticks, rfl, moved⟩ | ⟨index, op, out, txn, rfl, present,
    intact, wrote⟩
  · exact .idle same
  · exact .clock ticks moved
  · have commits : Committing ⟨op, .done out, txn⟩ out := ⟨rfl, intact⟩
    obtain ⟨since, path⟩ := brings_commit sound begun present commits
      (vouched index _ out rfl present commits) (follows_program op)
    refine .commit index _ out present commits since wrote ?_
    rw [wrote]
    exact path

/-- A step commits a session, or no session and at most moves the clock. -/
theorem commit_or_idle {action : Act} (step : (service site).act action world = some after) :
    (∃ index session out, action = .finish index ∧ world.session index = some session ∧
      Committing session out ∧ after.committed = session.txn.view world.committed) ∨
    (∀ index session out, action = .finish index → world.session index = some session →
      ¬ Committing session out) ∧
      ∃ time, after.committed = { world.committed with clock := time } := by
  by_cases commits : ∃ index session out, action = .finish index ∧
      world.session index = some session ∧ Committing session out
  · obtain ⟨index, ⟨op, program, txn⟩, out, rfl, present, rfl, intact⟩ := commits
    exact Or.inl ⟨index, _, out, rfl, present, ⟨rfl, intact⟩,
      committed_of_finish present intact step⟩
  · refine Or.inr ⟨fun index session out which present done =>
      commits ⟨index, session, out, which, present, done⟩, ?_⟩
    rcases act_committed step with same | ⟨ticks, _, moved⟩ | ⟨index, op, out, txn, which, present,
      intact, _⟩
    · exact ⟨world.committed.clock, same⟩
    · exact ⟨_, moved⟩
    · exact absurd ⟨index, _, out, which, present, ⟨rfl, intact⟩⟩ commits

theorem committing_unique {index : Nat} {action : Act} {out other : Out}
    {session second : Session Database RowLock Exc Mark Call Call.Answer Op Out}
    (which : action = .finish index) (found : world.session index = some session)
    (commits : Committing session out) {again : Nat} (also : action = .finish again)
    (there : world.session again = some second) (ends : Committing second other) :
    second = session ∧ other = out := by
  obtain rfl := Action.finish.inj (which.symm.trans also)
  obtain rfl := Option.some.inj (found.symm.trans there)
  exact ⟨rfl, Program.done.inj (ends.done.symm.trans commits.done)⟩

theorem later_advance {action : Act} (advance : Advance site rule world after action) :
    Later world.committed.ledger after.committed.ledger := by
  cases advance with
  | idle same =>
      rw [same]
      exact later_refl _
  | clock ticks moved =>
      rw [moved]
      exact { later_refl world.committed.ledger with }
  | commit index session out found commits since wrote path =>
      exact path_later path

/-- What holds of every world of a run beside its own invariant. -/
structure Sane (site : Deployment) (world : World) : Prop where
  sound : world.Sound (service site) Progress
  linked : Linked world.committed.ledger
  begun : Begun world

theorem sane_start (quiet : world.sessions = []) (linked : Linked world.committed.ledger) :
    Sane site world where
  sound := by
    refine ⟨?_, ?_⟩ <;> simp [System.session, quiet]
  linked := linked
  begun := by
    intro index session found
    rw [System.session_of_quiet quiet] at found
    cases found

theorem sane_step {action : Act} (sane : Sane site world)
    (step : (service site).act action world = some after)
    (later : Later world.committed.ledger after.committed.ledger) : Sane site after where
  sound := act_sound progress_order sane.sound step later
  linked := linked_later sane.linked later
  begun := by
    intro index session found
    rcases act_session step found with ⟨old, there, _, start⟩ | start
    · rw [start]
      exact sane.begun index old there
    · rw [start]
      exact linked_later sane.linked later

/-- Where nothing is asked of marked statements they are vouched for. -/
theorem vouched_free (world : World) (action : Act) (_ : allowed world action) :
    Vouched (fun _ _ _ _ => True) world action := fun _ _ _ _ _ _ _ _ => trivial

/-- The rule for runs of the service: what every step keeps that the deeds allow. -/
theorem invariant_onward (invariant : World → Prop)
    (vouched : ∀ world action, allowed world action → Vouched rule world action)
    (kept : ∀ world action after, Sane site world → invariant world → allowed world action →
      (service site).act action world = some after → Advance site rule world after action →
        invariant after)
    (sane : Sane site world) (holds : invariant world) (run : Run site allowed world after) :
    Sane site after ∧ invariant after := by
  induction run with
  | refl => exact ⟨sane, holds⟩
  | tail _ step induction =>
      obtain ⟨action, permitted, step⟩ := step
      obtain ⟨sane, holds⟩ := induction
      have advance := advance_of_step sane.sound sane.begun (vouched _ action permitted) step
      exact ⟨sane_step sane step (later_advance advance),
        kept _ action _ sane holds permitted step advance⟩

theorem invariant_of_advances (invariant : World → Prop)
    (vouched : ∀ world action, allowed world action → Vouched rule world action)
    (kept : ∀ world action after, Sane site world → invariant world → allowed world action →
      (service site).act action world = some after → Advance site rule world after action →
        invariant after)
    (quiet : world.sessions = []) (linked : Linked world.committed.ledger)
    (holds : invariant world) (run : Run site allowed world after) :
    Sane site after ∧ invariant after :=
  invariant_onward invariant vouched kept (sane_start quiet linked) holds run

/-- The same for what is asked of a run and of its past. -/
theorem invariant_of_trace
    {start : World} (holds : Past Database RowLock Exc Mark Call Call.Answer Op Out → World → Prop)
    (vouched : ∀ world action, allowed world action → Vouched rule world action)
    (kept : ∀ past world action after, Trace (service site) allowed start past world →
      Sane site world → holds past world → allowed world action →
      (service site).act action world = some after → Advance site rule world after action →
        holds (past ++ [(world, action)]) after)
    (quiet : start.sessions = []) (linked : Linked start.committed.ledger) (first : holds [] start)
    {past : Past Database RowLock Exc Mark Call Call.Answer Op Out}
    (trace : Trace (service site) allowed start past world) :
    Sane site world ∧ holds past world := by
  induction trace with
  | nil => exact ⟨sane_start quiet linked, first⟩
  | @snoc past middle later action before permitted step induction =>
      obtain ⟨sane, holding⟩ := induction
      have advance := advance_of_step sane.sound sane.begun (vouched middle action permitted) step
      exact ⟨sane_step sane step (later_advance advance),
        kept past middle action later before sane holding permitted step advance⟩

/-- The same for an invariant of the ledger: it holds as well of the states on
which the transactions under way began. -/
theorem ledger_invariant (invariant : Ledger → Prop)
    (vouched : ∀ world action, allowed world action → Vouched rule world action)
    (ticks : ∀ l time, invariant l → invariant { l with clock := time })
    (commits : ∀ world index session out l, Sane site world → invariant world.committed.ledger →
      invariant session.txn.start.ledger → allowed world (.finish index) →
      world.session index = some session → Committing session out →
      Later session.txn.start.ledger world.committed.ledger →
      Relation.ReflTransGen
        (Deed site (rule world.committed.ledger session.txn.start.ledger) session.op
          session.txn.start.ledger)
        world.committed.ledger l → invariant l)
    (quiet : world.sessions = []) (linked : Linked world.committed.ledger)
    (holds : invariant world.committed.ledger) (run : Run site allowed world after) :
    Sane site after ∧ invariant after.committed.ledger ∧
      ∀ index session, after.session index = some session → invariant session.txn.start.ledger := by
  refine invariant_of_advances (fun world => invariant world.committed.ledger ∧
    ∀ index session, world.session index = some session → invariant session.txn.start.ledger)
    vouched ?_ quiet linked ⟨holds, ?_⟩ run
  · rintro world action after sane ⟨holds, begun⟩ permitted step advance
    have next : invariant after.committed.ledger := by
      cases advance with
      | idle same =>
          rw [same]
          exact holds
      | clock ticks_ moved =>
          rw [moved]
          exact ticks world.committed.ledger _ holds
      | commit index session out found done since wrote path =>
          exact commits world index session out _ sane holds (begun index session found) permitted
            found done since path
    refine ⟨next, fun index session found => ?_⟩
    rcases act_session step found with ⟨old, there, _, start⟩ | start
    · rw [start]
      exact begun index old there
    · rw [start]
      exact next
  · intro index session found
    rw [System.session_of_quiet quiet] at found
    cases found

end Runs

section Sample

theorem sample_linked : Linked sampleWorld.committed.ledger := by
  refine ⟨?_, ?_, ?_, ?_⟩
  all_goals
    intro id row found
    simp [Database.ledger, sampleWorld, sampleDatabase] at found ⊢
  · obtain ⟨rfl, rfl⟩ := found
    rfl
  · obtain ⟨rfl, rfl⟩ := found
    rfl

/-- The sample world with a transaction that has just begun. -/
def beginning (op : Op) : World :=
  { sampleWorld with
    sessions := [some ((service sampleDeployment).opened op sampleWorld.committed)] }

theorem run_beginning {allowed : World → Act → Prop} {op : Op}
    (entry : op.entry sampleDeployment = true) (permitted : allowed sampleWorld (.start op)) :
    Run sampleDeployment allowed sampleWorld (beginning op) := by
  refine .single ⟨.start op, permitted, ?_⟩
  change (if op.entry sampleDeployment = true then _ else _) = _
  rw [if_pos entry]
  rfl

end Sample

end OpenReachout
