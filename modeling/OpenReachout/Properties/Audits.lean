import OpenReachout.Properties.HumanTasks
import OpenReachout.Relational.Accounting

/-!
# Accounts of what is decided

The audit log is only added to. Whatever a person decides, and what is decided in the
person's stead, is told of in it by the transaction that decides: a flag that is taken
down, a draft that is ruled on, a task that ends, a proposal that is closed.
-/

namespace OpenReachout

open Relational Relational.Program Relational.Abstraction Relational.Discipline Text

set_option autoImplicit false

variable {site : Deployment} {vouch : Mark → Ledger → Prop} {op : Op} {held : List RowLock}

section Tellings

def TaskStatus.text : TaskStatus → String
  | .pending => "pending"
  | .done => "done"
  | .skipped => "skipped"
  | .expired => "expired"

def ProposalStatus.text : ProposalStatus → String
  | .opened => "open"
  | .approved => "approved"
  | .declined => "declined"

/-- A row of the audit log names its subject, what was done and who did it. -/
structure AuditEvent.Tells (row : AuditEvent) (subjectType subjectId event actor : String) :
    Prop where
  subjectType : row.subjectType = subjectType
  subjectId : row.subjectId = subjectId
  event : row.event = event
  actor : row.actor = actor

def tellsFlag (scope : String) (_ : Option ControlFlag) (row : AuditEvent) : Prop :=
  operated row.actor ∧ row.Tells "control_flag" scope "resume" row.actor

/-- What a reviewer has made of a draft. -/
def reviewEvent : TouchStatus → String
  | .drafted => "ramp_approved"
  | _ => "ramp_rejected"

def tellsTouch (id : Uuid) (touch : Option Touch) (row : AuditEvent) : Prop :=
  operated row.actor ∧ ∃ item, touch = some item ∧
    row.Tells "touch" (toString id) (reviewEvent item.status) row.actor

def tellsTask (id : Uuid) (task : Option HumanTask) (row : AuditEvent) : Prop :=
  ∃ ended, task = some ended ∧ ended.resolvedBy = some row.actor ∧
    row.Tells "human_task" (toString id) ended.status.text row.actor

def tellsProposal (id : Uuid) (proposal : Option ProposalRow) (row : AuditEvent) : Prop :=
  ∃ closed, proposal = some closed ∧ closed.resolvedBy = some row.actor ∧
    row.Tells "proposal" (toString id) closed.status.text row.actor

end Tellings

section Programs

abbrev Accounting {Key Shown Value : Type} (shown : Database → Key → Shown)
    (telling : Key → Shown → AuditEvent → Prop) (program : Prog Value) : Prop :=
  bare.Ensures [] program fun _ _ before after =>
    Accounts Tables.auditEvents shown telling before after

variable {Key Row Shown Value Other : Type} {shown : Database → Key → Shown}
variable {telling : Key → Shown → AuditEvent → Prop}

theorem accounting_pure (value : Value) : Accounting shown telling (pure value) :=
  ensures_pure value fun _ db => accounts_timeline.refl db

theorem accounting_bind {program : Prog Value} {rest : Value → Prog Other}
    (first : Accounting shown telling program) (second : ∀ value, Accounting shown telling (rest value)) :
    Accounting shown telling (program >>= rest) := by
  refine ensures_bind first (fun _ _ _ _ _ => trivial) fun value => ?_
  exact (second value).mono fun _ _ _ _ late _ early => accounts_timeline.trans early late

/-- What leaves it alone. -/
def asideOf (shown : Database → Key → Shown) : Allowed :=
  following (aside_timeline : Timeline (Aside Tables.auditEvents shown))

theorem aside_of_within {program : Prog Value} (inside : Within (asideOf shown) program) :
    bare.Ensures [] program fun _ _ before after => Aside Tables.auditEvents shown before after :=
  ensures_of_following aside_timeline inside

theorem accounting_within {program : Prog Value} (inside : Within (asideOf shown) program) :
    Accounting shown telling program :=
  (aside_of_within inside).mono fun _ _ _ _ aside => aside.accounts

variable (shown) in
/-- The row that is left in the log. -/
theorem ensures_audit (apart : ∀ rows db, shown (Tables.auditEvents.set rows db) = shown db)
    (subjectType subjectId event : String) (payload : Payload) (actor : String) :
    bare.Ensures [] (audit subjectType subjectId event payload actor) fun _ _ before after =>
      Aside Tables.auditEvents shown before after ∧ Entered Tables.auditEvents
        (fun row => row.Tells subjectType subjectId event actor) before after := by
  refine (ensures_appendRow Tables.auditEvents _).mono ?_
  rintro start _ before after ⟨busy, rfl⟩
  exact ⟨⟨lengthened_append Tables.auditEvents rfl, apart _ before⟩,
    entered_append Tables.auditEvents rfl ⟨rfl, rfl, rfl, rfl⟩⟩

variable (shown) in
theorem ensures_noted (apart : ∀ rows db, shown (Tables.auditEvents.set rows db) = shown db)
    (subjectType subjectId event : String) (payload : Payload) (actor : String) (value : Value) :
    bare.Ensures [] (do
      audit subjectType subjectId event payload actor
      pure value : Prog Value) fun _ _ before after =>
        Aside Tables.auditEvents shown before after ∧ Entered Tables.auditEvents
          (fun row => row.Tells subjectType subjectId event actor) before after := by
  have noted := ensures_audit shown apart subjectType subjectId event payload actor
  refine ensures_bind noted (fun _ _ _ _ _ => trivial) fun _ => ?_
  refine ensures_pure value ?_
  exact fun _ _ _ both => both

theorem ensures_noted_after {notes : AuditEvent → Prop} {program : Prog Value}
    {rest : Value → Prog Other} (inside : Within (asideOf shown) program)
    (noted : ∀ value, bare.Ensures [] (rest value) fun _ _ before after =>
      Aside Tables.auditEvents shown before after ∧ Entered Tables.auditEvents notes before after) :
    bare.Ensures [] (program >>= rest) fun _ _ before after =>
      Aside Tables.auditEvents shown before after ∧ Entered Tables.auditEvents notes before after := by
  refine ensures_bind (aside_of_within inside) (fun _ _ _ _ _ => trivial) fun value => ?_
  refine (noted value).mono ?_
  rintro start last middle after ⟨aside, noted⟩ before early
  exact ⟨aside_timeline.trans early aside, noted.earlier early.grown⟩

variable {notes : AuditEvent → Prop} {told : Key × Row → Database → Database → Prop}

variable (shown) in
theorem ensures_none (value : Value) : bare.Ensures [] (pure value : Prog Value)
    fun _ _ before after => Aside Tables.auditEvents shown before after ∧
      ∀ entry ∈ ([] : List (Key × Row)), told entry before after := by
  refine ensures_pure value ?_
  intro start db
  exact ⟨aside_timeline.refl db, fun entry member => by cases member⟩

theorem ensures_each {program : Prog Value} (rows : List (Key × Row))
    (noted : bare.Ensures [] program fun _ _ before after =>
      Aside Tables.auditEvents shown before after ∧ Entered Tables.auditEvents notes before after) :
    bare.Ensures [] program fun _ _ before after => Aside Tables.auditEvents shown before after ∧
      ∀ entry ∈ rows, Entered Tables.auditEvents notes before after :=
  noted.mono fun _ _ _ _ both => ⟨both.1, fun _ _ => both.2⟩

/-- An update after which a row of the log tells of every row that it has changed. -/
theorem accounting_updated [DecidableEq Key] {ref : TableRef Database RowLock Key Row}
    {telling : Key → Option Row → AuditEvent → Prop} (notes : Key → AuditEvent → Prop)
    {mark : Option Mark}
    {refuse : Moment Database RowLock → Database → Key → Row → Option Exc}
    {chosen : Moment Database RowLock → Database → Key → Row → Bool}
    {change : Moment Database RowLock → Row → Row} {rest : List (Key × Row) → Prog Value}
    (apart : ∀ table db, Tables.auditEvents.get (ref.set table db) = Tables.auditEvents.get db)
    (tells : ∀ rows, bare.Ensures [] (rest rows) fun _ _ before after =>
      Aside Tables.auditEvents ref.rows before after ∧
        ∀ entry ∈ rows, Entered Tables.auditEvents (notes entry.1) before after)
    (account : ∀ moment db key row, chosen moment db key row = true → ∀ event, notes key event →
      telling key (some (change moment row)) event) :
    Accounting ref.rows telling (Program.updateChecked ref mark refuse chosen change >>= rest) := by
  refine ensures_bind (ensures_updateChecked ref mark refuse chosen change)
    (fun _ _ _ _ _ => trivial) fun rows => ?_
  refine (tells rows).mono ?_
  rintro start last middle after ⟨aside, noted⟩ before ⟨seen, busy, updated⟩
  refine accounts_of_updated updated apart aside fun entry member => ?_
  have picked := (updated.picked member).2
  exact (noted entry member).mono (account _ _ _ _ picked)

end Programs

section Decisions

theorem accounting_resume (scope actor : String) :
    Accounting Tables.controlFlags.rows tellsFlag (resume scope actor) := by
  unfold resume
  by_cases human : humanActorPrefix.toList.isPrefixOf actor.toList = true
  · simp only [human, Bool.not_true, Bool.false_eq_true, if_false]
    refine ensures_bind (ensures_deleteRows Tables.controlFlags _) (fun _ _ _ _ _ => trivial)
      fun rows => ?_
    have noted := ensures_noted Tables.controlFlags.rows (fun _ _ => rfl) "control_flag" scope
      "resume" [] actor (!rows.isEmpty)
    refine noted.mono ?_
    rintro start last middle after ⟨aside, told⟩ before
      ⟨seen, busy, glimpse, same, present, table, rfl, lookups⟩
    have unlogged : Lengthened Tables.auditEvents before (Tables.controlFlags.set table before) :=
      lengthened_refl Tables.auditEvents before
    refine ⟨lengthened_trans unlogged aside.grown, fun key => ?_⟩
    rw [aside.same]
    change table.lookup key = _ ∨ _
    rw [lookups]
    by_cases member : key ∈ rows.map Prod.fst
    · obtain ⟨⟨_, row⟩, inside, rfl⟩ := List.mem_map.1 member
      rw [same] at inside
      have mine := ((Table.mem_select_iff _ _ _ _).1 inside).2
      obtain rfl := of_decide_eq_true mine
      refine Or.inr ((told.earlier unlogged).mono fun event tells => ?_)
      have signed : operated event.actor := by
        rw [tells.actor]
        exact human
      exact ⟨signed, tells.subjectType, tells.subjectId, tells.event, rfl⟩
    · rw [if_neg member]
      exact Or.inl rfl
  · simp only [human, Bool.not_false, if_true]
    exact ensures_throw _

theorem within_aside_enqueue (queue : QueueName) (payload : JobPayload) (key : JobKey)
    (delay attempts : Nat) :
    Within (asideOf Tables.touches.rows) (enqueue queue payload key delay attempts) := by
  have jobs : (asideOf Tables.touches.rows).Changes Tables.jobs :=
    fun _ _ _ _ db => ⟨lengthened_refl _ db, rfl⟩
  have index : (asideOf Tables.touches.rows).Changes Tables.jobIndex :=
    fun _ _ _ _ db => ⟨lengthened_refl _ db, rfl⟩
  unfold enqueue
  grind

theorem tellsTouch_of_tells {touchId : Uuid} {item : Touch} {event : AuditEvent} {actor : String}
    (human : operated actor)
    (tells : event.Tells "touch" (toString touchId) (reviewEvent item.status) actor) :
    tellsTouch touchId (some item) event := by
  have signed : operated event.actor := by
    rw [tells.actor]
    exact human
  exact ⟨signed, item, rfl, tells.subjectType, tells.subjectId, tells.event, rfl⟩

theorem accounting_approvePending (touchId : Uuid) (actor : String) :
    Accounting Tables.touches.rows tellsTouch (approvePending touchId actor) := by
  unfold approvePending setTouchStatus
  by_cases human : humanActorPrefix.toList.isPrefixOf actor.toList = true
  · simp only [human, Bool.not_true, Bool.false_eq_true, if_false]
    refine accounting_updated (fun _ event =>
      event.Tells "touch" (toString touchId) "ramp_approved" actor) (fun _ _ => rfl)
      (fun rows => ?_) fun moment db id row picked event tells => ?_
    · cases rows with
      | nil => exact ensures_none Tables.touches.rows false
      | cons entry rows =>
          have noted := ensures_noted_after (within_aside_enqueue .deliver (.touch touchId)
            (.deliver touchId) 0 5) fun _ => ensures_noted Tables.touches.rows (fun _ _ => rfl)
              "touch" (toString touchId) "ramp_approved" [("note", .text "")] actor true
          exact ensures_each _ noted
    · obtain ⟨mine, _⟩ := (Bool.and_eq_true _ _).mp picked
      obtain rfl := of_decide_eq_true mine
      exact tellsTouch_of_tells human tells
  · simp only [human, Bool.not_false, if_true]
    exact ensures_throw _

theorem accounting_rejectPending (touchId : Uuid) (actor note : String) :
    Accounting Tables.touches.rows tellsTouch (rejectPending touchId actor note) := by
  unfold rejectPending setTouchStatus
  by_cases human : humanActorPrefix.toList.isPrefixOf actor.toList = true
  · simp only [human, Bool.not_true, Bool.false_eq_true, if_false]
    refine accounting_updated (fun _ event =>
      event.Tells "touch" (toString touchId) "ramp_rejected" actor) (fun _ _ => rfl)
      (fun rows => ?_) fun moment db id row picked event tells => ?_
    · cases rows with
      | nil => exact ensures_none Tables.touches.rows false
      | cons entry rows =>
          have noted := ensures_noted Tables.touches.rows (fun _ _ => rfl)
              "touch" (toString touchId) "ramp_rejected" [("note", .text note)] actor true
          exact ensures_each _ noted
    · obtain ⟨mine, _⟩ := (Bool.and_eq_true _ _).mp picked
      obtain rfl := of_decide_eq_true mine
      exact tellsTouch_of_tells human tells
  · simp only [human, Bool.not_false, if_true]
    exact ensures_throw _

theorem within_aside_status (status : TouchStatus) (mark : Option Mark)
    (chosen : Moment Database RowLock → Database → Uuid → Touch → Bool)
    (also : Moment Database RowLock → Touch → Touch) :
    Within (asideOf Tables.humanTasks.rows) (setTouchStatus status mark chosen also) := by
  have touches : (asideOf Tables.humanTasks.rows).Changes Tables.touches :=
    fun _ _ _ _ db => ⟨lengthened_refl _ db, rfl⟩
  exact within_updateChecked (fun _ _ => trivial) touches _ _ _

theorem within_aside_contact (task : HumanTask) :
    Within (asideOf Tables.humanTasks.rows) (Program.update Tables.entities
      (fun _ db id _ => (db.prospects.lookup task.prospectId).any fun row => row.entityId = id)
      fun moment row =>
        { row with
          lastCampaignContactAt := some moment.start.clock, touches12mo := row.touches12mo + 1 } :
      Prog (List (Uuid × Entity))) := by
  have entities : (asideOf Tables.humanTasks.rows).Changes Tables.entities :=
    fun _ _ _ _ db => ⟨lengthened_refl _ db, rfl⟩
  exact within_update entities _ _

theorem accounting_resolve (taskId : Uuid) (actor : String) (finished : Bool) (note : String) :
    Accounting Tables.humanTasks.rows tellsTask (resolve taskId actor finished note) := by
  unfold resolve
  by_cases human : humanActorPrefix.toList.isPrefixOf actor.toList = true
  · simp only [human, Bool.not_true, Bool.false_eq_true, if_false]
    have ended : (if finished then TaskStatus.done else TaskStatus.skipped).text =
        if finished then "done" else "skipped" := by
      cases finished <;> rfl
    have noted := ensures_noted Tables.humanTasks.rows (fun _ _ => rfl) "human_task" (toString taskId)
      (if finished then "done" else "skipped") [("note", .text note)] actor true
    refine accounting_updated (fun _ event => event.Tells "human_task" (toString taskId)
      (if finished then "done" else "skipped") actor) (fun _ _ => rfl)
      (fun rows => ?_) fun moment db id row picked event tells => ?_
    · cases rows with
      | nil => exact ensures_none Tables.humanTasks.rows false
      | cons entry rows =>
          cases finished with
          | true =>
              have contacted := ensures_noted_after (within_aside_contact entry.2) fun _ => noted
              refine ensures_each _ ?_
              exact ensures_noted_after (within_aside_status .sent _ _ _) fun _ => contacted
          | false =>
              refine ensures_each _ ?_
              exact ensures_noted_after (within_aside_status .released _ _ _) fun _ => noted
    · obtain ⟨mine, _⟩ := (Bool.and_eq_true _ _).mp picked
      obtain rfl := of_decide_eq_true mine
      refine ⟨_, rfl, ?_, tells.subjectType, tells.subjectId, ?_, rfl⟩
      · rw [tells.actor]
      · exact tells.event.trans ended.symm
  · simp only [human, Bool.not_false, if_true]
    exact ensures_throw _

theorem ensures_expiries (rows : List (Uuid × HumanTask)) :
    bare.Ensures [] (rows.forM fun entry => do
      let _ ← setTouchStatus .released (some (.settleTask entry.2.touchId))
        fun _ _ id _ => id = entry.2.touchId
      auditTask entry.1 "expired" "system:expiry" [] : Prog PUnit) fun _ _ before after =>
        Aside Tables.auditEvents Tables.humanTasks.rows before after ∧
          ∀ entry ∈ rows, Entered Tables.auditEvents (fun event =>
            event.Tells "human_task" (toString entry.1) "expired" "system:expiry") before after := by
  induction rows with
  | nil => exact ensures_none Tables.humanTasks.rows _
  | cons first rows induction =>
      have noted := ensures_audit Tables.humanTasks.rows (fun _ _ => rfl) "human_task"
        (toString first.1) "expired" [] "system:expiry"
      have each := ensures_noted_after (within_aside_status .released
        (some (.settleTask first.2.touchId)) (fun _ _ id _ => id = first.2.touchId)
        fun _ row => row) fun _ => noted
      refine ensures_bind each (fun _ _ _ _ _ => trivial) fun _ => ?_
      refine induction.mono ?_
      intro start last middle after tail before head
      refine ⟨aside_timeline.trans head.1 tail.1, fun entry member => ?_⟩
      rcases List.mem_cons.1 member with rfl | inside
      · exact head.2.later tail.1.grown
      · exact (tail.2 entry inside).earlier head.1.grown

theorem accounting_expire : Accounting Tables.humanTasks.rows tellsTask (expire expireDays) := by
  unfold expire
  refine accounting_updated (fun id event =>
    event.Tells "human_task" (toString id) "expired" "system:expiry") (fun _ _ => rfl)
    (fun rows => ?_) fun moment db id row picked event tells => ?_
  · refine ensures_bind (ensures_expiries rows) (fun _ _ _ _ _ => trivial) fun _ => ?_
    refine ensures_pure _ ?_
    exact fun _ _ _ both => both
  · refine ⟨_, rfl, ?_, tells.subjectType, tells.subjectId, tells.event, rfl⟩
    rw [tells.actor]

theorem accounting_decline (proposalId : Uuid) (actor note : String) :
    Accounting Tables.proposals.rows tellsProposal (decline proposalId actor note) := by
  unfold decline
  by_cases human : humanActorPrefix.toList.isPrefixOf actor.toList = true
  · simp only [human, Bool.not_true, Bool.false_eq_true, if_false]
    refine accounting_updated (fun _ event =>
      event.Tells "proposal" (toString proposalId) "declined" actor) (fun _ _ => rfl)
      (fun rows => ?_) fun moment db id row picked event tells => ?_
    · cases rows with
      | nil => exact ensures_none Tables.proposals.rows false
      | cons entry rows =>
          have noted := ensures_noted Tables.proposals.rows (fun _ _ => rfl) "proposal"
            (toString proposalId) "declined" [("note", .text note)] actor true
          exact ensures_each _ noted
    · obtain ⟨mine, _⟩ := (Bool.and_eq_true _ _).mp picked
      obtain rfl := of_decide_eq_true mine
      refine ⟨_, rfl, ?_, tells.subjectType, tells.subjectId, tells.event, rfl⟩
      rw [tells.actor]
  · simp only [human, Bool.not_false, if_true]
    exact ensures_throw _

theorem within_aside_applyProposal (proposal : ProposalRow) :
    Within (asideOf Tables.proposals.rows) (applyProposal proposal) := by
  have counters : (asideOf Tables.proposals.rows).Changes Tables.counters :=
    fun _ _ _ _ db => ⟨lengthened_refl _ db, rfl⟩
  have shifts : ∀ cohortId period delta,
      Within (asideOf Tables.proposals.rows) (shiftCap cohortId period delta) := by
    intro cohortId period delta
    unfold shiftCap
    grind
  unfold applyProposal
  grind

theorem accounting_approve (proposalId : Uuid) (actor : String) (auto : Bool) :
    Accounting Tables.proposals.rows tellsProposal (approve proposalId actor auto) := by
  unfold approve
  dsimp only
  split
  · exact ensures_throw _
  refine accounting_bind (accounting_within (within_query _)) fun found => ?_
  cases found with
  | none => exact accounting_pure _
  | some proposal =>
      dsimp only
      split
      · exact ensures_throw _
      refine accounting_bind (accounting_within (within_aside_applyProposal proposal)) fun _ => ?_
      refine accounting_updated (fun _ event =>
        event.Tells "proposal" (toString proposalId) "approved" actor) (fun _ _ => rfl)
        (fun rows => ?_) fun moment db id row picked event tells => ?_
      · have noted := ensures_noted Tables.proposals.rows (fun _ _ => rfl) "proposal"
          (toString proposalId) "approved"
          [("kind", .text proposal.kind.text), ("auto", .flag auto)] actor true
        exact ensures_each _ noted
      · obtain rfl := of_decide_eq_true picked
        refine ⟨_, rfl, ?_, tells.subjectType, tells.subjectId, tells.event, rfl⟩
        rw [tells.actor]

theorem accounting_reviewEach (entries : List (Uuid × ProposalRow)) :
    Accounting Tables.proposals.rows tellsProposal (reviewEach entries) := by
  induction entries with
  | nil => exact accounting_pure _
  | cons entry entries induction =>
      unfold reviewEach
      dsimp only
      have rest : ∀ taken : Bool, Accounting Tables.proposals.rows tellsProposal (do
          let others ← reviewEach entries
          pure (if taken then entry.1 :: others else others)) :=
        fun taken => accounting_bind induction fun _ => accounting_pure _
      split
      · exact accounting_bind (accounting_approve entry.1 _ _) rest
      · exact rest false

theorem accounting_autoReview (tenant cohortLaunch : String) :
    Accounting Tables.proposals.rows tellsProposal (autoReview tenant cohortLaunch) := by
  unfold autoReview
  split
  · exact accounting_pure _
  · exact accounting_bind (accounting_within (within_query _)) accounting_reviewEach

end Decisions

section Rulings

/-- A person has closed the proposal, or it is one that may be approved without one. -/
def Warranted (closed : ProposalRow) : Prop :=
  (∃ actor, closed.resolvedBy = some actor ∧ operated actor) ∨
    closed.resolvedBy = some "system:autonomy" ∧ closed.status = .approved ∧
      closed.kind.autoApplicable = true

/-- Every proposal is as it was, or has been closed as it may be. -/
structure Warrants (l after : Ledger) : Prop where
  onward : Later l after
  closed : ∀ id next, after.proposals id = some next →
    l.proposals id = some next ∨ Warranted next

theorem warrants_refl (l : Ledger) : Warrants l l := ⟨later_refl l, fun _ _ found => Or.inl found⟩

theorem warrants_trans {first second third : Ledger} (one : Warrants first second)
    (two : Warrants second third) : Warrants first third where
  onward := later_trans one.onward two.onward
  closed id next found := by
    rcases two.closed id next found with same | warranted
    · exact one.closed id next same
    · exact Or.inr warranted

theorem warrants_settle {proposalId : Uuid} {proposal : ProposalRow} {status : ProposalStatus}
    {l : Ledger} {time : Time} {actor : String}
    (later : Later l (l.setProposal proposalId (proposal.settled status time actor)))
    (warranted : Warranted (proposal.settled status time actor)) :
    Warrants l (l.setProposal proposalId (proposal.settled status time actor)) := by
  refine ⟨later, fun id next found => ?_⟩
  rcases proposal_of_set found with same | ⟨_, rfl⟩
  · exact Or.inl same
  · exact Or.inr warranted

theorem warrants_decline (proposalId : Uuid) (actor note : String) :
    (outreach site vouch op).Brings held (decline proposalId actor note)
      fun _ _ before after => Warrants before after := by
  by_cases human : humanActorPrefix.toList.isPrefixOf actor.toList = true
  · refine (brings_decline proposalId actor note).mono ?_
    intro start success before after declining
    have later := later_declining declining
    cases declining with
    | declined proposal found opened => exact warrants_settle later (Or.inl ⟨actor, rfl, human⟩)
    | ended resolved => exact warrants_refl before
  · unfold decline
    simp only [human, Bool.not_false, if_true]
    exact brings_throw _

theorem brings_found (proposalId : Uuid) :
    (outreach site vouch op).Brings held (getOpen proposalId) fun _ found before after =>
      (∀ proposal, found = some proposal → ∃ row, before.proposals proposalId = some row ∧
        row.kind = proposal.kind) ∧ after = before := by
  refine (ensures_query _).mono ?_
  rintro start found before after ⟨seen, busy, glimpse, rfl, rfl⟩
  refine ⟨fun proposal there => ?_, rfl⟩
  have open_row : seen.proposals.lookup proposalId = some proposal :=
    (Option.filter_eq_some_iff.1 there).1
  have onward : Later seen.ledger after.ledger := glimpse.until_
  obtain ⟨row, present, kept⟩ := onward.proposals proposalId proposal open_row
  exact ⟨row, present, kept.kind⟩

theorem warranted_approval {proposal : ProposalRow} {time : Time} {actor : String} {auto : Bool}
    (alone : auto = true → actor = "system:autonomy" ∧ proposal.kind.autoApplicable = true)
    (human : auto = false → operated actor) : Warranted (proposal.settled .approved time actor) := by
  cases auto with
  | false => exact Or.inl ⟨actor, rfl, human rfl⟩
  | true =>
      obtain ⟨rfl, applicable⟩ := alone rfl
      exact Or.inr ⟨rfl, rfl, applicable⟩

theorem warrants_approve (proposalId : Uuid) {actor : String} {auto : Bool}
    (alone : auto = true → actor = "system:autonomy") :
    (outreach site vouch op).Brings held (approve proposalId actor auto)
      fun _ _ before after => Warrants before after := by
  unfold approve
  dsimp only
  split
  case isTrue refused => exact brings_throw _
  case isFalse allowed =>
  have human : auto = false → operated actor := by
    intro off
    simpa [off, operated] using allowed
  refine brings_seen (brings_found proposalId) fun found => ?_
  cases found with
  | none => exact brings_pure _ fun start view _ => warrants_refl view
  | some proposal =>
      dsimp only
      split
      case isTrue refused => exact brings_throw _
      case isFalse applicable =>
      have kinds : auto = true → proposal.kind.autoApplicable = true := by
        intro on
        simpa [on] using applicable
      have closes : (outreach site vouch op).Brings held
          (Program.updateChecked Tables.proposals (some (.approve proposalId))
            (fun _ _ _ _ => (none : Option Exc)) (fun _ _ id _ => id = proposalId)
            fun moment row =>
              { row with
                status := .approved, resolvedAt := some moment.start.clock
                resolvedBy := some actor } : Prog (List (Uuid × ProposalRow)))
          fun _ _ before after => Later before after ∧ ∀ row,
            before.proposals proposalId = some row → row.kind = proposal.kind →
              Warrants before after := by
        refine (ensures_updateChecked Tables.proposals (some (Mark.approve proposalId)) _ _ _).mono ?_
        rintro start rows before after ⟨seen, busy, updated⟩
        rcases updated.single one_key with ⟨_, rfl⟩ | ⟨key, row, _, present, _, picked, replaced⟩
        · exact ⟨later_refl _, fun _ _ _ => warrants_refl _⟩
        · obtain rfl := of_decide_eq_true picked
          have wrote : after.ledger = before.ledger.setProposal key
              (row.settled .approved start.clock actor) := ledger_replaced_proposal replaced
          have here : before.ledger.proposals key = some row := present
          have later : Later before.ledger after.ledger := by
            rw [wrote]
            exact later_settle_proposal here (by decide) fun _ => rfl
          refine ⟨later, fun other found kind => ?_⟩
          obtain rfl := Option.some.inj (here.symm.trans found)
          change Warrants before.ledger after.ledger
          rw [wrote] at later ⊢
          apply warrants_settle later
          exact warranted_approval (fun on => ⟨alone on, by rw [kind]; exact kinds on⟩) human
      refine brings_after (quiet_applyProposal proposal) fun _ => ?_
      refine brings_bind closes (fun _ _ _ _ both => both.1) fun rows => ?_
      refine brings_after (quiet_audit _ _ _ _ _) fun _ => brings_pure _ ?_
      intro start view before closed known
      obtain ⟨row, found, kind⟩ := known proposal rfl
      exact closed.2 row found kind

theorem warrants_reviewEach (entries : List (Uuid × ProposalRow)) :
    (outreach site vouch op).Brings held (reviewEach entries)
      fun _ _ before after => Warrants before after := by
  induction entries with
  | nil => exact brings_pure _ fun start view => warrants_refl view
  | cons entry entries induction =>
      have rest : ∀ taken : Bool, (outreach site vouch op).Brings held (do
          let others ← reviewEach entries
          pure (if taken then entry.1 :: others else others))
          fun _ _ middle after => Warrants middle after := by
        intro taken
        refine brings_bind induction (fun _ _ _ _ warrants => warrants.onward) fun others => ?_
        exact brings_pure _ fun start view before warrants => warrants
      unfold reviewEach
      dsimp only
      split
      · refine brings_bind (warrants_approve entry.1 fun _ => rfl)
          (fun _ _ _ _ warrants => warrants.onward) fun taken => ?_
        exact (rest taken).mono fun _ _ _ _ later _ early => warrants_trans early later
      · exact rest false

theorem warrants_autoReview (tenant cohortLaunch : String) :
    (outreach site vouch op).Brings held (autoReview tenant cohortLaunch)
      fun _ _ before after => Warrants before after := by
  unfold autoReview
  split
  · exact brings_pure _ fun start view => warrants_refl view
  · exact brings_after (quiet_query _) fun entries => warrants_reviewEach entries

/-- The operations that close proposals. -/
def Op.closes : Op → Bool
  | .approveProposal _ _ | .declineProposal _ _ _ | .autoReview _ _ => true
  | _ => false

theorem closes_of_approves (approves : op.approves) : op.closes = true := by
  rcases approves with ⟨proposalId, actor, rfl⟩ | ⟨tenant, cohortLaunch, rfl⟩
  · rfl
  · rfl

theorem proposal_of_path {start l after : Ledger}
    (path : Relation.ReflTransGen (Deed site vouch op start) l after) {id : Uuid}
    {proposal : ProposalRow} (found : l.proposals id = some proposal) :
    after.proposals id = some proposal ∨ op.closes = true := by
  induction path with
  | refl => exact Or.inl found
  | @tail between last before deed induction =>
      rcases induction with same | closes
      · obtain ⟨next, present, _⟩ := (deed_later _ _ _ _ deed).proposals id proposal same
        rcases proposal_of_deed deed present with kept | ⟨absent, _⟩ | ⟨old, there, step⟩
        · rw [present, ← kept, same]
          exact Or.inl rfl
        · rw [same] at absent
          cases absent
        · cases step with
          | approve actor which vouched => exact Or.inr (closes_of_approves which)
          | decline actor note which opened =>
              rw [which]
              exact Or.inr rfl
      · exact Or.inr closes

theorem warrants_program (closes : op.closes = true) :
    (outreach site vouch op).Brings held (op.program site)
      fun _ _ before after => Warrants before after := by
  have mapped : ∀ {Value : Type} {program : Prog Value} (out : Value → Out),
      ((outreach site vouch op).Brings held program fun _ _ before after => Warrants before after) →
      (outreach site vouch op).Brings held (do
        let value ← program
        pure (out value)) fun _ _ before after => Warrants before after := by
    intro Value program out warrants
    refine brings_bind warrants (fun _ _ _ _ warrants => warrants.onward) fun value => ?_
    exact brings_pure _ fun start view before warrants => warrants
  cases op with
  | approveProposal proposalId actor => exact mapped .decided (warrants_approve proposalId fun on => by cases on)
  | declineProposal proposalId actor note => exact mapped .decided (warrants_decline proposalId actor note)
  | autoReview tenant cohortLaunch => exact mapped .reviewed (warrants_autoReview tenant cohortLaunch)
  | _ => cases closes

theorem accounting_program (closes : op.closes = true) :
    Accounting Tables.proposals.rows tellsProposal (op.program site) := by
  cases op with
  | approveProposal proposalId actor =>
      exact accounting_bind (accounting_approve proposalId actor false) fun _ => accounting_pure _
  | declineProposal proposalId actor note =>
      exact accounting_bind (accounting_decline proposalId actor note) fun _ => accounting_pure _
  | autoReview tenant cohortLaunch =>
      exact accounting_bind (accounting_autoReview tenant cohortLaunch) fun _ => accounting_pure _
  | _ => cases closes

end Rulings

section Growth

theorem lengthened_timeline : Timeline (Lengthened (Tables.auditEvents : LogRef Database RowLock AuditEvent)) :=
  ⟨lengthened_refl Tables.auditEvents, lengthened_trans⟩

/-- Every statement adds to the log, or leaves it. -/
theorem liberal_lengthened : Liberal (following lengthened_timeline : Allowed) := by
  have kept := lengthened_refl (Tables.auditEvents : LogRef Database RowLock AuditEvent)
  have added : ∀ row : AuditEvent,
      (following lengthened_timeline : Allowed).Appends Tables.auditEvents row :=
    fun row db => lengthened_append Tables.auditEvents rfl
  have ordinary : Ordinary (following lengthened_timeline : Allowed) := by
    constructor
    case marks => exact fun _ _ => trivial
    case audited => exact fun row _ => added row
    case touches => exact fun _ _ _ => kept
    case counters => exact fun _ _ _ _ => kept
    case mailboxCounters => exact fun _ _ _ => kept
    case received => exact fun _ _ => kept
    case exchanged => exact fun _ _ => kept
    case providerEvents => exact fun _ _ => kept
    case objections => exact fun _ => kept
    all_goals exact fun _ _ _ _ => kept
  exact { ordinary with
    capped := fun _ _ _ _ => kept
    braked := fun row _ => added row
    prospects := fun _ _ _ _ => kept
    moved := fun row _ => added row
    replies := fun _ _ _ _ => kept
    variantStats := fun _ _ _ _ => kept }

theorem within_lengthened (op : Op) : Within (following lengthened_timeline : Allowed) (op.program site) :=
  within_program liberal_lengthened op (fun _ => ⟨fun _ _ _ _ => lengthened_refl Tables.auditEvents⟩)
    (fun _ => ⟨fun _ _ _ => lengthened_append Tables.auditEvents rfl⟩)
    (fun _ => ⟨fun _ _ => lengthened_refl Tables.auditEvents⟩) fun _ _ _ _ => trivial

end Growth

section Runs

variable {world later : World} {start : World} {allowed : World → Act → Prop}

/-- The log is only added to, and an entry that is added tells of every flag that is taken
down, every held draft that is ruled on, every task that ends and every proposal that is
closed. -/
structure Accountable (before after : Database) : Prop where
  grown : Lengthened Tables.auditEvents before after
  flags : ∀ scope, before.controlFlags.lookup scope ≠ none →
    after.controlFlags.lookup scope = none →
      Entered Tables.auditEvents (tellsFlag scope none) before after
  drafts : ∀ id item, before.touches.lookup id = some item → item.status = .pendingReview →
    ∃ next, after.touches.lookup id = some next ∧ (next.status = .pendingReview ∨
      Entered Tables.auditEvents (tellsTouch id (some next)) before after)
  tasks : ∀ id task, before.humanTasks.lookup id = some task →
    ∃ next, after.humanTasks.lookup id = some next ∧ (next = task ∨
      Entered Tables.auditEvents (tellsTask id (some next)) before after ∧
        (next.status ≠ .expired → ∃ actor, next.resolvedBy = some actor ∧ operated actor))
  proposals : ∀ id proposal, before.proposals.lookup id = some proposal →
    ∃ next, after.proposals.lookup id = some next ∧ (next = proposal ∨
      Entered Tables.auditEvents (tellsProposal id (some next)) before after ∧ Warranted next)

theorem accountable_same (db : Database) (time : Time) :
    Accountable db { db with clock := time } where
  grown := lengthened_refl Tables.auditEvents db
  flags _ set taken := absurd taken set
  drafts _ item found held := ⟨item, found, Or.inl held⟩
  tasks _ task found := ⟨task, found, Or.inl rfl⟩
  proposals _ proposal found := ⟨proposal, found, Or.inl rfl⟩

/-- What an account of a table tells of a row that has changed. -/
theorem entered_of_changed {Key Shown : Type} {shown : Database → Key → Shown}
    {telling : Key → Shown → AuditEvent → Prop} {before after : Database}
    (accounts : Accounts Tables.auditEvents shown telling before after) {key : Key} {now : Shown}
    (there : shown after key = now) (changed : now ≠ shown before key) :
    Entered Tables.auditEvents (telling key now) before after := by
  rcases accounts.told key with same | noted
  · exact absurd (there.symm.trans same) changed
  · rw [there] at noted
    exact noted

variable {index : Nat} {session : Session Database RowLock Exc Mark Call Call.Answer Op Out}
variable {out : Out}

/-- What the program of a session accounts for holds of its commit. -/
theorem ensured_commit {along : Database → Database → Prop} (sane : Sane site world)
    (found : world.session index = some session) (commits : Committing session out)
    (ensures : bare.Ensures [] (session.op.program site) fun _ _ before after =>
      along before after) : along world.committed (session.txn.view world.committed) := by
  obtain ⟨op, program, txn⟩ := session
  obtain ⟨rfl, intact⟩ := commits
  have sound := sane.sound.weaken fun _ _ _ => trivial
  exact bare_commit sound found intact ensures

theorem accounting_unit {Key Shown Value : Type} {shown : Database → Key → Shown}
    {telling : Key → Shown → AuditEvent → Prop} {program : Prog Value}
    (accounting : Accounting shown telling program) : Accounting shown telling (unitOut program) :=
  accounting_bind accounting fun _ => accounting_pure _

theorem accountable_commit (sane : Sane site world) (staffed : Staffed world)
    (found : world.session index = some session) (commits : Committing session out)
    (wrote : later.committed = session.txn.view world.committed)
    (path : Relation.ReflTransGen (Deed site vouch session.op session.txn.start.ledger)
      world.committed.ledger later.committed.ledger) :
    Accountable world.committed later.committed := by
  have accounted : ∀ {along : Database → Database → Prop},
      (bare.Ensures [] (session.op.program site) fun _ _ before after => along before after) →
        along world.committed later.committed := by
    intro along ensures
    rw [wrote]
    exact ensured_commit sane found commits ensures
  refine ⟨accounted (ensures_of_following lengthened_timeline (within_lengthened session.op)), ?_, ?_, ?_, ?_⟩
  · intro scope set taken
    by_contra untold
    refine flag_of_path path set (fun actor which => ?_) taken
    have told : Accounts Tables.auditEvents Tables.controlFlags.rows tellsFlag world.committed
        later.committed := by
      apply accounted
      rw [which]
      exact accounting_unit (accounting_resume scope actor)
    exact absurd (entered_of_changed told taken (Ne.symm set)) untold
  · intro id item present held
    have rules := along_path guides_rules sane.linked staffed.withheld path
    have unqueued := staffed.withheld.unqueued present held
    obtain ⟨next, there, ruling⟩ :=
      rules.held id item present held (staffed.idle found id unqueued)
    refine ⟨next, there, ?_⟩
    have changed : next.status ≠ .pendingReview →
        some next ≠ world.committed.touches.lookup id := by
      intro moved same
      rw [Option.some.inj (same.trans present)] at moved
      exact moved held
    cases ruling with
    | waits status => exact Or.inl status
    | approve actor which status queued =>
        have told : Accounts Tables.auditEvents Tables.touches.rows tellsTouch world.committed
            later.committed := by
          apply accounted
          rw [which]
          exact accounting_unit (accounting_approvePending id actor)
        exact Or.inr (entered_of_changed told there (changed (by rw [status]; decide)))
    | reject actor note which status rejected =>
        have told : Accounts Tables.auditEvents Tables.touches.rows tellsTouch world.committed
            later.committed := by
          apply accounted
          rw [which]
          exact accounting_unit (accounting_rejectPending id actor note)
        exact Or.inr (entered_of_changed told there (changed (by rw [status]; decide)))
  · intro id task present
    obtain ⟨_, _, working⟩ := working_path staffed.withheld staffed.paired (staffed.idle found) path
    obtain ⟨next, there, ending⟩ := working.tasks id task present
    refine ⟨next, there, ?_⟩
    by_cases same : next = task
    · exact Or.inl same
    have changed : some next ≠ world.committed.humanTasks.lookup id := by
      rw [show world.committed.humanTasks.lookup id = some task from present]
      exact fun both => same (Option.some.inj both)
    cases ending with
    | kept kept touch => exact Or.inl kept
    | resolved actor note finished which pending status signed =>
        have told : Accounts Tables.auditEvents Tables.humanTasks.rows tellsTask world.committed
            later.committed := by
          apply accounted
          rw [which]
          exact accounting_unit (accounting_resolve id actor finished note)
        refine Or.inr ⟨entered_of_changed told there changed, fun _ => ?_⟩
        exact ⟨actor, signed, operated_resolution sane found commits which⟩
    | expired which pending status =>
        have told : Accounts Tables.auditEvents Tables.humanTasks.rows tellsTask world.committed
            later.committed := by
          apply accounted
          rw [which]
          exact accounting_unit accounting_expire
        exact Or.inr ⟨entered_of_changed told there changed, fun other => absurd status other⟩
  · intro id proposal present
    obtain ⟨next, there, _⟩ := (path_later path).proposals id proposal present
    refine ⟨next, there, ?_⟩
    by_cases same : next = proposal
    · exact Or.inl same
    have changed : some next ≠ world.committed.proposals.lookup id := by
      rw [show world.committed.proposals.lookup id = some proposal from present]
      exact fun both => same (Option.some.inj both)
    have closes : session.op.closes = true := by
      rcases proposal_of_path path present with kept | closes
      · exact absurd (Option.some.inj (there.symm.trans kept)) same
      · exact closes
    have told := accounted (accounting_program closes)
    refine Or.inr ⟨entered_of_changed told there changed, ?_⟩
    have warrants : (outreach site (fun _ _ => True) session.op).Brings []
        (session.op.program site) fun _ _ before after => Warrants before after :=
      warrants_program closes
    have warranted := (brings_commit sane.sound sane.begun found commits (fun _ _ => trivial)
      warrants).2
    rw [← wrote] at warranted
    rcases warranted.closed id next there with kept | warranted
    · exact absurd (Option.some.inj (kept.symm.trans present)) same
    · exact warranted

theorem accountable_step {action : Act} (sane : Sane site world) (staffed : Staffed world)
    (step : (service site).act action world = some later) :
    Accountable world.committed later.committed := by
  have free : Vouched (fun _ _ _ _ => True) world action := fun _ _ _ _ _ _ _ _ => trivial
  have advance := advance_of_step sane.sound sane.begun free step
  cases advance with
  | idle same =>
      rw [same]
      exact accountable_same world.committed world.committed.clock
  | clock ticks moved =>
      rw [moved]
      exact accountable_same world.committed _
  | commit index session out found commits since wrote path =>
      exact accountable_commit sane staffed found commits wrote path

/-- In every run the log is only added to, and every step is accounted for in it. -/
theorem decisions_accounted (quiet : start.sessions = []) (linked : Linked start.committed.ledger)
    (withheld : Withheld start.committed.ledger) (paired : Paired start.committed.ledger)
    (run : Run site allowed start world) :
    start.committed.auditEvents <+: world.committed.auditEvents ∧
    ∀ action later, (service site).act action world = some later →
      Accountable world.committed later.committed := by
  obtain ⟨sane, staffed⟩ := staffed_run quiet linked withheld paired run
  refine ⟨?_, fun action later step => accountable_step sane staffed step⟩
  induction run with
  | refl => exact List.prefix_refl _
  | tail before step induction =>
      obtain ⟨sane, staffed⟩ := staffed_run quiet linked withheld paired before
      obtain ⟨action, _, moves⟩ := step
      have accountable := accountable_step sane staffed moves
      exact (induction sane staffed).trans accountable.grown

end Runs

section Sample

theorem tasked_accounted : ∃ (world later : World) (next : HumanTask),
    Run sampleDeployment unrestricted taskedWorld world ∧
    (service sampleDeployment).act (.finish 0) world = some later ∧
    later.committed.humanTasks.lookup 7 = some next ∧
    Entered Tables.auditEvents (tellsTask 7 (some next)) world.committed later.committed ∧
    ∃ actor, next.resolvedBy = some actor ∧ operated actor := by
  have tried : ((service sampleDeployment).script
      [begin (.resolveTask 7 "operator:ana" true "met"), go 0 4 50] taskedWorld).any
      (fun world => ((service sampleDeployment).script [.inl (.finish 0)] world).any
        fun later : World =>
          (world.committed.humanTasks.lookup 7).any (fun task => task.status = .pending) &&
          (later.committed.humanTasks.lookup 7).any fun task => task.status = .done) = true := by
    decide +kernel
  obtain ⟨world, later, run, played, seen⟩ := scripts_of_tried tried
  obtain ⟨before, after⟩ := (Bool.and_eq_true _ _).mp seen
  obtain ⟨task, found, pending⟩ := (Option.any_eq_true _ _).1 before
  obtain ⟨moved, there, done⟩ := (Option.any_eq_true _ _).1 after
  have step := step_of_script played
  obtain ⟨_, steps⟩ := decisions_accounted rfl tasked_linked tasked_withheld tasked_paired run
  obtain ⟨next, present, told⟩ := (steps _ later step).tasks 7 task found
  have status : next.status = .done := by
    rw [Option.some.inj (present.symm.trans there)]
    exact of_decide_eq_true done
  rcases told with rfl | ⟨noted, signed⟩
  · rw [status] at pending
    cases pending
  · exact ⟨world, later, next, run, step, present, noted, signed (by rw [status]; decide)⟩

end Sample

end OpenReachout
