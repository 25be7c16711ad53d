import OpenReachout.Properties.Recipients
import OpenReachout.Properties.Screening
import OpenReachout.Properties.Stops

/-!
# Between the check and the send

A delivery looks for halts and suppressions early in its transaction and locks none of
them. What comes into force after that, and before the message leaves, it does not see.
-/

namespace OpenReachout

open Relational Relational.Program Text

set_option autoImplicit false

section Checks

variable {site : Deployment} {rely : Database → Database → Prop}

/-- A marked read leaves behind what it has seen. -/
theorem exec_markedQuery {Value : Type} {mark : Mark}
    {read : Moment Database RowLock → Database → Value} {a b : Spot} {value : Value}
    (exec : Exec rely (markedQuery mark read : Prog Value) a (.ok value) b) :
    ∃ seen busy, value = read ⟨a.txn.start, busy⟩ seen ∧ (mark, seen) ∈ b.txn.seen := by
  obtain ⟨db, _, _, _, busy, effect, success, same, rfl⟩ := (exec_perform_ok _ _ _ _ _).1 exec
  obtain rfl := Except.ok.inj success
  refine ⟨a.txn.view db, busy, same, ?_⟩
  exact List.mem_append_right _ (List.mem_singleton_self _)

/-- What the checks of a claim have seen: no halt, and no suppression. -/
structure Checked (site : Deployment) (txn : Txn Database RowLock Mark Call)
    (tenant address : String) : Prop where
  halts : ∃ seen, (.haltedScopes tenant, seen) ∈ txn.seen ∧ haltedScopesIn seen tenant = []
  suppressions : ∃ seen hash, (.isSuppressed address tenant, seen) ∈ txn.seen ∧
    tombstoneHash site.platform address = .ok hash ∧
    suppressedIn seen txn.start.clock address tenant hash = false

theorem extends_frequency (order : Timeline rely) {touch : DraftTouch} {a b : Spot}
    (passed : FrequencyPassed (Program.observation rely) (pgGateStore site.platform) touch a b) :
    Extends rely a b := by
  unfold FrequencyPassed at passed
  cases profile : touch.profile with
  | cold =>
      rw [profile] at passed
      exact exec_extends order passed
  | followup =>
      rw [profile] at passed
      exact exec_extends order passed
  | reply =>
      rw [profile] at passed
      rw [passed]
      exact extends_refl order a

theorem extends_budget (order : Timeline rely) {touch : DraftTouch} {a b : Spot}
    (passed : BudgetPassed (Program.observation rely) (pgGateStore site.platform) touch a b) :
    Extends rely a b := by
  unfold BudgetPassed at passed
  by_cases budgeted : touch.profile.budgeted = true
  · rw [if_pos budgeted] at passed
    exact exec_extends order passed
  · rw [if_neg budgeted] at passed
    rw [passed]
    exact extends_refl order a

theorem extends_capacity (order : Timeline rely) {touch : DraftTouch} {claimed : ClaimedTouch}
    {a b : Spot} (passed : CapacityPassed (Program.observation rely) (pgGateStore site.platform)
      touch a b claimed) : Extends rely a b := by
  obtain ⟨mailbox, results, picked, confident, capacity, confidence, persisted, _⟩ := passed
  have early : Extends rely a picked := exec_extends order capacity
  have middle : Extends rely picked confident := exec_extends order confidence
  have late : Extends rely confident b := exec_extends order persisted
  exact extends_trans order (extends_trans order early middle) late

theorem checked_of_claim (order : Timeline rely) {touch : DraftTouch} {claimed : ClaimedTouch}
    {a b : Spot}
    (exec : Exec rely (claim site.runtime (pgGateStore site.platform) touch) a
      (.ok (.claimed claimed)) b) : Checked site b.txn touch.tenant touch.emailCanonical := by
  have run : (Program.observation rely).runs (claim site.runtime (pgGateStore site.platform) touch)
      a (.ok (.claimed claimed)) b := exec
  obtain ⟨unhalted, unsuppressed, contactable, funded, _, halt, suppression, frequency, budget,
    capacity⟩ := claim_passed run
  have halted : Exec rely (haltedScopes touch.tenant) a (.ok []) unhalted := halt
  have suppressed : Exec rely (isSuppressed site.platform touch.emailCanonical touch.tenant)
      unhalted (.ok false) unsuppressed := suppression
  have first : Extends rely a unhalted := exec_extends order halted
  have second : Extends rely unhalted unsuppressed := exec_extends order suppressed
  have rest : Extends rely unsuppressed b :=
    extends_trans order (extends_trans order (extends_frequency order frequency)
      (extends_budget order budget)) (extends_capacity order capacity)
  constructor
  · obtain ⟨seen, _, answer, member⟩ := exec_markedQuery halted
    exact ⟨seen, rest.seen (second.seen member), answer.symm⟩
  · unfold isSuppressed at suppressed
    rw [exec_bind_ok] at suppressed
    obtain ⟨hash, middle, hashed, looked⟩ := suppressed
    cases computed : tombstoneHash site.platform touch.emailCanonical with
    | error error =>
        rw [computed] at hashed
        cases hashed.1
    | ok known =>
        rw [computed] at hashed
        obtain ⟨same, rfl⟩ := hashed
        obtain rfl := Except.ok.inj same
        obtain ⟨seen, _, answer, member⟩ := exec_markedQuery looked
        have begun := rest.start.trans second.start
        refine ⟨seen, hash, rest.seen member, rfl, ?_⟩
        rw [begun]
        exact answer.symm

/-- What a delivery has seen of its touch when its message leaves. -/
theorem checked_of_asks (order : Timeline rely) {touchId : Uuid} {start : Database}
    {b : Spot} {call : Call} {message : String × List Char × List Char}
    (asks : Asks rely (deliver site touchId) (Point.begin start) call b)
    (out : call.outgoing = some message) :
    ∃ db item lead tenant, rely start db ∧ rely db b.committed ∧
      joinedTouch db touchId = some (item, lead, tenant) ∧ Checked site b.txn tenant message.1 := by
  obtain ⟨gateDraft, claimed, delivering, rfl⟩ := deliver_asks asks out
  obtain ⟨db, item, lead, early, onward, touch, prospect, tenant, _⟩ :=
    recipient_of_delivering order (fun _ => rfl) delivering
  have joined : joinedTouch db touchId = some (item, lead, gateDraft.tenant) := by
    unfold joinedTouch
    rw [touch, Option.bind_some, prospect, Option.bind_some, tenant, Option.map_some]
  obtain ⟨ctx, slug, first, second, loaded, _, _, _, claims⟩ := delivering
  have run : (Program.observation rely).runs (claim site.runtime (pgGateStore site.platform)
      gateDraft) loaded (.ok (.claimed claimed)) b := claims
  have recipient : claimed.recipient = gateDraft.emailCanonical := by
    obtain ⟨_, _, _, _, _, _, _, _, _, capacity⟩ := claim_passed run
    obtain ⟨_, _, _, _, _, _, _, result⟩ := capacity
    rw [result]
    rfl
  have checked := checked_of_claim order claims
  rw [← recipient] at checked
  exact ⟨db, item, lead, gateDraft.tenant, early, onward, joined, checked⟩

end Checks

section Runs

variable {site : Deployment} {start world : World}

/-- The message of a touch of `tenant` leaves for `address`. -/
structure Sends (world : World) (action : Act) (touchId : Uuid) (tenant address : String) :
    Prop where
  tenant : (joinedTouch world.committed touchId).map (fun row => row.2.2) = some tenant
  leaves : ∃ index reply op call next txn message, action = .answer index reply ∧
    world.session index = some ⟨op, .call call next, txn⟩ ∧ op.delivers touchId ∧
    call.outgoing = some message ∧ message.1 = address

/-- A halt covers the tenant, or the address is suppressed for it. -/
def StopInForce (platform : Platform) (db : Database) (tenant address : String) : Prop :=
  (∃ scope, Halted scope db ∧ Covers scope tenant) ∨
    ∃ hash, tombstoneHash platform address = .ok hash ∧
      suppressedIn db db.clock address tenant hash = true

/-- When a message leaves, every stop in force is one that the checks of its delivery
found in force. -/
def StopsSeen (site : Deployment) (world : World) (action : Act) : Prop :=
  ∀ index reply op touchId call next txn message, action = .answer index reply →
    world.session index = some ⟨op, .call call next, txn⟩ → op.delivers touchId →
      call.outgoing = some message → ∀ tenant seen,
        ((.haltedScopes tenant, seen) ∈ txn.seen → ∀ scope, Covers scope tenant →
          Halted scope world.committed → Halted scope seen) ∧
        ((.isSuppressed message.1 tenant, seen) ∈ txn.seen → ∀ hash,
          tombstoneHash site.platform message.1 = .ok hash →
          suppressedIn world.committed world.committed.clock message.1 tenant hash = true →
            suppressedIn seen txn.start.clock message.1 tenant hash = true)

/-- A touch stays with its tenant. -/
theorem joined_later {old new : Database} (later : Later old.ledger new.ledger) {touchId : Uuid}
    {item : Touch} {lead : Prospect} {tenant : String}
    (joined : joinedTouch old touchId = some (item, lead, tenant)) :
    (joinedTouch new touchId).map (fun row => row.2.2) = some tenant := by
  obtain ⟨touch, found, rest⟩ := Option.bind_eq_some_iff.1 joined
  obtain ⟨prospect, there, rest⟩ := Option.bind_eq_some_iff.1 rest
  obtain ⟨slug, named, same⟩ := Option.map_eq_some_iff.1 rest
  cases same
  obtain ⟨next, present, moved⟩ := later.touches touchId item found
  obtain ⟨person, known, kept⟩ := later.prospects item.prospectId lead there
  have named_later : new.tenants.lookup lead.tenantId = some tenant := by
    have same := congrFun later.tenants lead.tenantId
    exact same.trans named
  have present_later : new.touches.lookup touchId = some next := present
  have known_later : new.prospects.lookup item.prospectId = some person := known
  unfold joinedTouch
  rw [present_later, Option.bind_some, moved.prospectId, known_later, Option.bind_some,
    kept.tenantId, named_later]
  rfl

theorem not_stopped_of_checked {txn : Txn Database RowLock Mark Call} {tenant address : String}
    {db : Database} (checked : Checked site txn tenant address)
    (halts : ∀ seen, (.haltedScopes tenant, seen) ∈ txn.seen → ∀ scope, Covers scope tenant →
      Halted scope db → Halted scope seen)
    (suppressions : ∀ seen, (.isSuppressed address tenant, seen) ∈ txn.seen → ∀ hash,
      tombstoneHash site.platform address = .ok hash →
      suppressedIn db db.clock address tenant hash = true →
        suppressedIn seen txn.start.clock address tenant hash = true) :
    ¬ StopInForce site.platform db tenant address := by
  intro stopped
  rcases stopped with ⟨scope, halted, covers⟩ | ⟨hash, hashed, suppressed⟩
  · obtain ⟨seen, member, none⟩ := checked.halts
    have before : Halted scope seen := halts seen member scope covers halted
    have listed : scope ∈ haltedScopesIn seen tenant :=
      (mem_haltedScopes_iff seen scope tenant).2 ⟨before, covers⟩
    rw [none] at listed
    cases listed
  · obtain ⟨seen, known, member, same, clear⟩ := checked.suppressions
    have before := suppressions seen member hash hashed suppressed
    obtain rfl := Except.ok.inj (same.symm.trans hashed)
    rw [clear] at before
    cases before

/-- As long as no stop comes into force between the checks of a delivery and its send, no
message leaves while a stop is in force for its tenant or its recipient. -/
theorem no_send_while_stopped (quiet : start.sessions = [])
    (linked : Linked start.committed.ledger) (run : Run site (StopsSeen site) start world)
    {action : Act} (seen : StopsSeen site world action) {touchId : Uuid} {tenant address : String}
    (sends : Sends world action touchId tenant address) :
    ¬ StopInForce site.platform world.committed tenant address := by
  obtain ⟨sane, _⟩ := invariant_of_advances (fun _ => True) vouched_free
    (fun _ _ _ _ _ _ _ _ => trivial) quiet linked trivial run
  obtain ⟨owner, index, reply, op, call, next, txn, message, rfl, found, delivers, out, rfl⟩ := sends
  obtain ⟨last, later, asks⟩ := asks_of_call sane.sound found
  obtain ⟨job, rfl, queue, payload⟩ := id delivers
  have handles : handler site job = deliver site touchId := by
    unfold handler
    rw [queue, payload]
  change Program.Asks _ (unitOut (handler site job)) _ _ _ at asks
  rw [handles, unitOut, asks_bind] at asks
  rcases asks with asks | ⟨_, _, _, asks⟩
  · obtain ⟨db, item, lead, slug, _, onward, joined, checked⟩ :=
      checked_of_asks progress_order asks out
    have between : Later db.ledger world.committed.ledger := later_trans onward later
    have same : slug = tenant := by
      rw [joined_later between joined] at owner
      exact Option.some.inj owner
    rw [same] at checked
    exact not_stopped_of_checked checked
      (fun view => (seen index reply _ touchId call next txn message rfl found delivers out tenant
        view).1)
      (fun view => (seen index reply _ touchId call next txn message rfl found delivers out tenant
        view).2)
  · exact asks.elim

end Runs

section Sample

/-- Nothing is stopped. -/
def unstopped (db : Database) : Bool :=
  db.controlFlags.rows.isEmpty && db.suppressions.rows.isEmpty &&
    db.forgetTombstones.rows.isEmpty

/-- More than `StopsSeen`, tried on one action: no message leaves while anything is
stopped. -/
def leavesUnstopped (world : World) : Act → Bool
  | .answer index _ =>
      match world.session index with
      | some ⟨_, .call asked _, _⟩ => asked.outgoing.isNone || unstopped world.committed
      | _ => true
  | _ => true

theorem leavesUnstopped_sound (site : Deployment) (world : World) (action : Act)
    (checked : leavesUnstopped world action = true) : StopsSeen site world action := by
  intro index reply op touchId call next txn message which found _ out tenant seen
  rw [which] at checked
  simp only [leavesUnstopped, found, out, Option.isNone_some, Bool.false_or, unstopped,
    Bool.and_eq_true, List.isEmpty_iff] at checked
  obtain ⟨⟨flags, suppressions⟩, tombstones⟩ := checked
  constructor
  · intro _ scope _ halted
    obtain ⟨flag, set⟩ := Option.ne_none_iff_exists'.1 halted
    have member := (Table.lookup_eq_some_iff _ _ _).1 set
    rw [flags] at member
    cases member
  · intro _ hash _ suppressed
    rcases (suppressedIn_iff _ _ _ _).1 suppressed with held | buried
    · obtain ⟨scope, row, _, present, _⟩ := held
      have member := (Table.lookup_eq_some_iff _ _ _).1 present
      rw [suppressions] at member
      cases member
    · obtain ⟨row, present⟩ := Option.isSome_iff_exists.1 buried
      have member := (Table.lookup_eq_some_iff _ _ _).1 present
      rw [tombstones] at member
      cases member

/-- The sample delivery, up to the call of its provider. -/
def deliversToCall : List Move := [begin (.lease .deliver), go 0 24]

/-- The delivery of the sample touch is about to send. -/
def sendsSample (world : World) : Bool :=
  handsOut world 0 4 sampleAddress &&
    (joinedTouch world.committed 4).any fun row => row.2.2 = "acme"

theorem sends_of_seen {world : World} (seen : sendsSample world = true) :
    Sends world (.answer 0 (sampleReply sampleClock 100)) 4 "acme" sampleAddress := by
  obtain ⟨hands, joined⟩ := (Bool.and_eq_true _ _).mp seen
  obtain ⟨row, found, tenant⟩ := (Option.any_eq_true _ _).1 joined
  obtain ⟨op, call, next, txn, message, present, delivers, out, same⟩ := session_of_handsOut hands
  refine ⟨?_, 0, _, op, call, next, txn, message, rfl, present, delivers, out, same⟩
  rw [found, Option.map_some, of_decide_eq_true tenant]

/-- Without a stop the sample message leaves. -/
theorem sample_sent_unstopped : ∃ world, Run sampleDeployment (StopsSeen sampleDeployment)
      sampleWorld world ∧
    Sends world (.answer 0 (sampleReply sampleClock 100)) 4 "acme" sampleAddress ∧
    ¬ StopInForce samplePlatform world.committed "acme" sampleAddress := by
  have tried : ((service sampleDeployment).scriptChecked leavesUnstopped deliversToCall
      sampleWorld).any (fun world => sendsSample world &&
        leavesUnstopped world (.answer 0 (sampleReply sampleClock 100))) = true := by
    decide +kernel
  obtain ⟨world, played, holds⟩ := (Option.any_eq_true _ _).1 tried
  obtain ⟨seen, checked⟩ := (Bool.and_eq_true _ _).mp holds
  have run : Run sampleDeployment (StopsSeen sampleDeployment) sampleWorld world :=
    run_of_scriptChecked (service sampleDeployment) (leavesUnstopped_sound sampleDeployment) played
  have sends := sends_of_seen seen
  exact ⟨world, run, sends, no_send_while_stopped rfl sample_linked run
    (leavesUnstopped_sound sampleDeployment world _ checked) sends⟩

/-- A halt of everything that is committed after the checks and before the send. -/
theorem sent_after_halt : ∃ world, Run sampleDeployment unrestricted sampleWorld world ∧
    Sends world (.answer 0 (sampleReply sampleClock 100)) 4 "acme" sampleAddress ∧
    StopInForce samplePlatform world.committed "acme" sampleAddress := by
  have tried : (play (deliversToCall ++ [begin (.halt globalScope "operator:maya" "halted"),
      go 1 5])).any (fun world => sendsSample world &&
        (world.committed.controlFlags.lookup globalScope).isSome) = true := by
    decide +kernel
  obtain ⟨world, run, holds⟩ := run_of_tried tried
  obtain ⟨seen, flagged⟩ := (Bool.and_eq_true _ _).mp holds
  refine ⟨world, run, sends_of_seen seen, Or.inl ⟨globalScope, ?_, Or.inl rfl⟩⟩
  obtain ⟨flag, set⟩ := Option.isSome_iff_exists.1 flagged
  unfold Halted
  rw [set]
  nofun

end Sample

end OpenReachout
