import OpenReachout.Outreach.Rows
import OpenReachout.Relational.Solo

/-!
# Proposals

A proposal is decided once, as long as no other decision commits between the look of an
approval at the open row and its own update: that update has no guard on the status. A
shift of budget creates none as long as the giving cohort still has what it gives.
-/

namespace OpenReachout

open Relational Relational.Abstraction Text

set_option autoImplicit false

variable {site : Deployment} {op : Op} {out : Out} {committed start l after : Ledger}
  {world later : World} {id : Uuid} {row : ProposalRow}

section Deciding

/-- An approval finds the row that it updates open. -/
def stillOpen (_ _ : Ledger) : Mark → Ledger → Prop
  | .approve proposalId, seen =>
      ∃ proposal, seen.proposals proposalId = some proposal ∧ proposal.status = .opened
  | _, _ => True

/-- A call reports that it has decided a proposal. -/
def Reports (op : Op) (out : Out) (id : Uuid) : Prop :=
  match op, out with
  | .approveProposal proposalId _, .decided success => success = true ∧ id = proposalId
  | .declineProposal proposalId _ _, .decided success => success = true ∧ id = proposalId
  | .autoReview _ _, .reviewed approved => id ∈ approved
  | _, _ => False

/-- What a call makes of the proposals that it decides. -/
def Op.decision : Op → ProposalStatus
  | .declineProposal _ _ _ => .declined
  | _ => .approved

theorem approved_open {old : ProposalRow}
    (vouched : ∃ seen : Ledger, stillOpen committed start (.approve id) seen ∧
      seen.proposals id = some old) : old.status = .opened := by
  obtain ⟨seen, ⟨proposal, found, opened⟩, shown⟩ := vouched
  obtain rfl := Option.some.inj (found.symm.trans shown)
  exact opened

/-- A proposal that is decided is left as it is. -/
theorem decided_deed (deed : Deed site (stillOpen committed start) op start l after)
    (found : l.proposals id = some row) (decided : row.status ≠ .opened) :
    after.proposals id = some row := by
  obtain ⟨new, present, _⟩ := (deed_later _ _ _ _ deed).proposals id row found
  rcases proposal_of_deed deed present with same | ⟨absent, _⟩ | ⟨old, there, step⟩
  · exact present.trans (same.symm.trans found)
  · rw [found] at absent
    cases absent
  · obtain rfl := Option.some.inj (there.symm.trans found)
    cases step with
    | approve actor which vouched => exact absurd (approved_open vouched) decided
    | decline actor note which opened => exact absurd opened decided

theorem decided_path
    (path : Relation.ReflTransGen (Deed site (stillOpen committed start) op start) l after)
    (found : l.proposals id = some row) (decided : row.status ≠ .opened) :
    after.proposals id = some row := by
  induction path with
  | refl => exact found
  | tail _ deed induction => exact decided_deed deed induction decided

/-- A proposal that a review finds open was so when it began to commit. -/
theorem open_before
    (path : Relation.ReflTransGen (Deed site (stillOpen committed start) op start) l after)
    (which : op.approves) (found : after.proposals id = some row) (opened : row.status = .opened) :
    l.proposals id = some row := by
  induction path generalizing row with
  | refl => exact found
  | tail _ deed induction =>
      rcases proposal_of_deed deed found with same | ⟨_, _, files⟩ | ⟨old, there, step⟩
      · exact induction same opened
      · exact absurd which files.idle
      · cases step <;> cases opened

/-- An operation that decides no proposal leaves those that are there. -/
theorem undecided_path
    (path : Relation.ReflTransGen (Deed site (stillOpen committed start) op start) l after)
    (idle : ¬ op.approves) (kept : ∀ actor note, op ≠ .declineProposal id actor note)
    (found : l.proposals id = some row) : after.proposals id = some row := by
  induction path with
  | refl => exact found
  | tail _ deed induction =>
      obtain ⟨new, present, _⟩ := (deed_later _ _ _ _ deed).proposals id row induction
      rcases proposal_of_deed deed present with same | ⟨absent, _⟩ | ⟨old, there, step⟩
      · exact present.trans (same.symm.trans induction)
      · rw [induction] at absent
        cases absent
      · cases step with
        | approve actor which vouched => exact absurd which idle
        | decline actor note which opened => exact absurd which (kept actor note)

/-- What a commit does to a proposal that it finds: it decides it, reports so, and has
found it open; or it reports nothing of the kind and leaves it. -/
inductive Fate (op : Op) (out : Out) (start after : Ledger) (id : Uuid) (row : ProposalRow) :
    Prop where
  | decided (reports : Reports op out id) (opened : row.status = .opened) (actor : String)
      (wrote : after.proposals id = some (row.settled op.decision start.clock actor))
  | kept (silent : ¬ Reports op out id) (same : after.proposals id = some row)

variable (site) in
theorem fate_of_granting {before middle next : Ledger}
    (which : op.approves) (decision : op.decision = .approved) (reports : Reports op out id)
    (early : Relation.ReflTransGen (Deed site (stillOpen committed start) op start) before middle)
    (granting : Granting (stillOpen committed start) id start middle next)
    (onward : Relation.ReflTransGen (Deed site (stillOpen committed start) op start) next after) :
    ∃ row, before.proposals id = some row ∧ Fate op out start after id row := by
  cases granting with
  | unseen vouched =>
      obtain ⟨seen, ⟨proposal, found, _⟩, absent⟩ := vouched
      rw [found] at absent
      cases absent
  | granted proposal actor found vouched =>
      have opened := approved_open vouched
      have wrote : after.proposals id = some (proposal.settled .approved start.clock actor) :=
        decided_path onward (Function.update_self _ _ _) nofun
      rw [← decision] at wrote
      exact ⟨proposal, open_before early which found opened, .decided reports opened actor wrote⟩

/-- The same of every proposal, also of one that is not there. -/
structure Fates (op : Op) (out : Out) (start before after : Ledger) (id : Uuid) : Prop where
  present : ∀ row, before.proposals id = some row → Fate op out start after id row
  absent : before.proposals id = none → ¬ Reports op out id

theorem fates_kept {before : Ledger} (silent : ¬ Reports op out id)
    (same : ∀ row, before.proposals id = some row → after.proposals id = some row) :
    Fates op out start before after id :=
  ⟨fun row found => .kept silent (same row found), fun _ => silent⟩

theorem fates_decided {before : Ledger}
    (decided : ∃ row, before.proposals id = some row ∧ Fate op out start after id row) :
    Fates op out start before after id := by
  obtain ⟨row, found, fate⟩ := decided
  refine ⟨fun other there => ?_, fun absent => ?_⟩
  · obtain rfl := Option.some.inj (found.symm.trans there)
    exact fate
  · rw [found] at absent
    cases absent

theorem fates_of_approving (site : Deployment) {proposalId : Uuid} {actor : String} {before : Ledger} {success : Bool}
    (approving : Approving (stillOpen committed start) proposalId start before success after) :
    Fates (.approveProposal proposalId actor) (.decided success) start before after id := by
  cases success with
  | false =>
      obtain ⟨rfl, _⟩ := approving
      exact fates_kept (fun reports => absurd reports.1 nofun) fun _ found => found
  | true =>
      by_cases mine : id = proposalId
      · subst mine
        exact fates_decided (fate_of_granting site (Or.inl ⟨_, _, rfl⟩) rfl ⟨rfl, rfl⟩ .refl
          approving .refl)
      · refine fates_kept (fun reports => mine reports.2) fun row found => ?_
        exact (granting_apart approving mine).trans found

theorem fates_of_declining {proposalId : Uuid} {actor note : String} {before : Ledger}
    {success : Bool} (declining : Declining proposalId actor start before success after) :
    Fates (.declineProposal proposalId actor note) (.decided success) start before after id := by
  cases declining with
  | ended resolved => exact fates_kept (fun reports => absurd reports.1 nofun) fun _ found => found
  | declined proposal found opened =>
      by_cases mine : id = proposalId
      · subst mine
        have wrote : (before.setProposal id (proposal.settled .declined start.clock actor)).proposals
            id = some (proposal.settled .declined start.clock actor) := Function.update_self _ _ _
        exact fates_decided ⟨proposal, found, .decided ⟨rfl, rfl⟩ opened actor wrote⟩
      · refine fates_kept (fun reports => mine reports.2) fun row there => ?_
        exact (Function.update_of_ne mine _ _).trans there

theorem fates_of_reviewing {tenant cohortLaunch : String} {before : Ledger} {approved : List Uuid}
    (reviewing : Reviewing site (stillOpen committed start) (.autoReview tenant cohortLaunch) start
      before approved after) :
    Fates (.autoReview tenant cohortLaunch) (.reviewed approved) start before after id := by
  by_cases member : id ∈ approved
  · obtain ⟨middle, next, early, granting, onward⟩ := reviewing.granted id member
    exact fates_decided (fate_of_granting site (Or.inr ⟨_, _, rfl⟩) rfl member early granting onward)
  · exact fates_kept member fun row found => (reviewing.others id member).trans found

theorem fates_of_idle {before : Ledger}
    (path : Relation.ReflTransGen (Deed site (stillOpen committed start) op start) before after)
    (idle : ¬ op.approves) (kept : ∀ actor note, op ≠ .declineProposal id actor note)
    (silent : ¬ Reports op out id) : Fates op out start before after id :=
  fates_kept silent fun _ found => undecided_path path idle kept found

end Deciding

section Calls

variable {vouch : Mark → Ledger → Prop}

theorem brings_approveCall (proposalId : Uuid) (actor : String) :
    (outreach site vouch op).Brings [] (Op.program site (.approveProposal proposalId actor))
      fun start out before after => ∃ success, out = .decided success ∧
        Approving vouch proposalId start before success after := by
  refine (brings_map (brings_approve proposalId actor false) Out.decided).mono ?_
  rintro start _ before after ⟨success, rfl, approving⟩
  exact ⟨success, rfl, approving⟩

theorem brings_declineCall (proposalId : Uuid) (actor note : String) :
    (outreach site vouch op).Brings [] (Op.program site (.declineProposal proposalId actor note))
      fun start out before after => ∃ success, out = .decided success ∧
        Declining proposalId actor start before success after := by
  refine (brings_map (brings_decline proposalId actor note) Out.decided).mono ?_
  rintro start _ before after ⟨success, rfl, declining⟩
  exact ⟨success, rfl, declining⟩

theorem brings_reviewCall (tenant cohortLaunch : String) (which : op.approves) :
    (outreach site vouch op).Brings [] (Op.program site (.autoReview tenant cohortLaunch))
      fun start out before after => ∃ approved, out = .reviewed approved ∧
        Reviewing site vouch op start before approved after := by
  refine (brings_map (brings_autoReview tenant cohortLaunch which) Out.reviewed).mono ?_
  rintro start _ before after ⟨approved, rfl, reviewing⟩
  exact ⟨approved, rfl, reviewing⟩

/-- What a session that commits makes of a proposal. -/
theorem fates_of_commit {index : Nat}
    {session : Session Database RowLock Exc Mark Call Call.Answer Op Out}
    (sane : Sane site world) (found : world.session index = some session)
    (commits : Committing session out)
    (vouched : ∀ entry ∈ session.txn.seen, stillOpen world.committed.ledger
      session.txn.start.ledger entry.1 entry.2.ledger) (id : Uuid) :
    Fates session.op out session.txn.start.ledger world.committed.ledger
      (session.txn.view world.committed).ledger id := by
  obtain ⟨_, path⟩ := brings_commit sane.sound sane.begun found commits vouched
    (follows_program session.op)
  obtain ⟨op, program, txn⟩ := session
  cases op with
  | approveProposal proposalId actor =>
      obtain ⟨_, success, rfl, approving⟩ := brings_commit sane.sound sane.begun found commits
        vouched (brings_approveCall proposalId actor)
      exact fates_of_approving site approving
  | declineProposal proposalId actor note =>
      obtain ⟨_, success, rfl, declining⟩ := brings_commit sane.sound sane.begun found commits
        vouched (brings_declineCall proposalId actor note)
      exact fates_of_declining declining
  | autoReview tenant cohortLaunch =>
      obtain ⟨_, approved, rfl, reviewing⟩ := brings_commit sane.sound sane.begun found commits
        vouched (brings_reviewCall tenant cohortLaunch (Or.inr ⟨_, _, rfl⟩))
      exact fates_of_reviewing reviewing
  | _ =>
      refine fates_of_idle path ?_ nofun fun reports => reports
      rintro (⟨_, _, which⟩ | ⟨_, _, which⟩) <;> cases which

theorem over_of_declining {actor : String} {before : Ledger}
    (declining : Declining id actor start before false after) : Over id start before := by
  cases declining with
  | ended resolved => exact resolved

/-- A call that reports failure has seen the proposal decided, or not at all. -/
theorem over_of_commit {index : Nat}
    {session : Session Database RowLock Exc Mark Call Call.Answer Op Out}
    (sane : Sane site world) (found : world.session index = some session)
    (commits : Committing session (.decided false))
    (which : (∃ actor, session.op = .approveProposal id actor) ∨
      ∃ actor note, session.op = .declineProposal id actor note) :
    Over id session.txn.start.ledger world.committed.ledger := by
  obtain ⟨op, program, txn⟩ := session
  rcases which with ⟨actor, rfl⟩ | ⟨actor, note, rfl⟩
  · have approves : (outreach site (fun _ _ => True) (.approveProposal id actor)).Brings [] _ _ :=
      brings_approveCall id actor
    obtain ⟨_, success, same, approving⟩ := brings_commit sane.sound sane.begun found commits
      (fun _ _ => trivial) approves
    cases same
    exact approving.2
  · have declines : (outreach site (fun _ _ => True) (.declineProposal id actor note)).Brings [] _ _ :=
      brings_declineCall id actor note
    obtain ⟨_, success, same, declining⟩ := brings_commit sane.sound sane.begun found commits
      (fun _ _ => trivial) declines
    cases same
    exact over_of_declining declining

/-- An approval that reports failure has written nothing. -/
theorem approve_idle {rely : Database → Database → Prop} {a b : Spot} {actor : String} {auto : Bool}
    (exec : Program.Exec rely (approve id actor auto) a (.ok false) b) :
    b.txn.view = a.txn.view := by
  unfold approve at exec
  dsimp only at exec
  split at exec
  · exact absurd exec.1 nofun
  rw [Program.exec_bind_ok] at exec
  obtain ⟨found, middle, looked, exec⟩ := exec
  have unwritten : middle.txn.view = a.txn.view := by
    obtain ⟨db, _, _, _, _, effect, success, _, rfl⟩ := (Program.exec_perform_ok _ _ _ _ _).1 looked
    obtain rfl := Except.ok.inj success
    funext other
    rw [Txn.view_record]
    rfl
  cases found with
  | none =>
      obtain ⟨_, rfl⟩ := exec
      exact unwritten
  | some proposal =>
      -- past the open row an approval returns true, or raises
      dsimp only at exec
      split at exec
      · exact absurd exec.1 nofun
      rw [Program.exec_bind_ok] at exec
      obtain ⟨_, _, _, exec⟩ := exec
      rw [Program.exec_bind_ok] at exec
      obtain ⟨_, _, _, exec⟩ := exec
      rw [Program.exec_bind_ok] at exec
      obtain ⟨_, _, _, exec⟩ := exec
      exact absurd exec.1 nofun

end Calls

section Runs

/-- No other decision comes between the look of an approval and its update. -/
def ApprovesOpen (world : World) (action : Act) : Prop := Vouched stillOpen world action

/-- The step commits a call that reports that it has decided the proposal. -/
def Succeeds (id : Uuid) (world : World) (action : Act) : Prop :=
  ∃ index session out, action = .finish index ∧ world.session index = some session ∧
    Committing session out ∧ Reports session.op out id

/-- A run with the number of its successes. -/
inductive Successes (site : Deployment) (id : Uuid) (start : World) : World → Nat → Prop where
  | none : Successes site id start start 0
  | success {world later : World} {count : Nat} (action : Act)
      (before : Successes site id start world count) (permitted : ApprovesOpen world action)
      (step : (service site).act action world = some later) (succeeds : Succeeds id world action) :
      Successes site id start later (count + 1)
  | other {world later : World} {count : Nat} (action : Act)
      (before : Successes site id start world count) (permitted : ApprovesOpen world action)
      (step : (service site).act action world = some later) (silent : ¬ Succeeds id world action) :
      Successes site id start later count

theorem Op.decision_ne (op : Op) : op.decision ≠ .opened := by
  cases op <;> exact nofun

/-- What a step does to a proposal that it finds. -/
theorem decided_step {action : Act} (sane : Sane site world) (permitted : ApprovesOpen world action)
    (step : (service site).act action world = some later)
    (found : world.committed.ledger.proposals id = some row) :
    (Succeeds id world action ∧ row.status = .opened ∧
      ∃ decided, later.committed.ledger.proposals id = some decided ∧ decided.status ≠ .opened) ∨
    ¬ Succeeds id world action ∧ later.committed.ledger.proposals id = some row := by
  rcases commit_or_idle step with ⟨index, session, out, which, present, commits, wrote⟩ |
    ⟨idle, time, moved⟩
  · have seen := permitted index session out which present commits
    have fates := fates_of_commit sane present commits seen id
    rw [← wrote] at fates
    cases fates.present row found with
    | decided reports opened actor settled =>
        exact Or.inl ⟨⟨index, session, out, which, present, commits, reports⟩, opened, _, settled,
          session.op.decision_ne⟩
    | kept silent same =>
        refine Or.inr ⟨?_, same⟩
        rintro ⟨again, second, other, also, there, ends, reports⟩
        obtain ⟨rfl, rfl⟩ := committing_unique which present commits also there ends
        exact silent reports
  · refine Or.inr ⟨?_, ?_⟩
    · rintro ⟨index, session, out, which, present, commits, _⟩
      exact idle index session out which present commits
    · rw [moved]
      exact found

theorem run_of_successes {count : Nat} (successes : Successes site id world later count) :
    Run site ApprovesOpen world later := by
  induction successes with
  | none => exact .refl
  | success action before permitted step succeeds induction =>
      exact induction.tail ⟨action, permitted, step⟩
  | other action before permitted step silent induction =>
      exact induction.tail ⟨action, permitted, step⟩

/-- Every run has a number of successes. -/
theorem successes_of_run (id : Uuid) (run : Run site ApprovesOpen world later) :
    ∃ count, Successes site id world later count := by
  induction run with
  | refl => exact ⟨0, .none⟩
  | @tail middle _ _ step induction =>
      obtain ⟨action, permitted, step⟩ := step
      obtain ⟨count, successes⟩ := induction
      by_cases succeeds : Succeeds id middle action
      · exact ⟨count + 1, .success action successes permitted step succeeds⟩
      · exact ⟨count, .other action successes permitted step succeeds⟩

theorem sane_run {start : World} (sane : Sane site start)
    (run : Run site ApprovesOpen start world) : Sane site world := by
  have vouched : ∀ world action, ApprovesOpen world action → Vouched stillOpen world action :=
    fun _ _ permitted => permitted
  exact (invariant_onward (fun _ => True) vouched (fun _ _ _ _ _ _ _ _ => trivial) sane trivial
    run).1

/-- A proposal that is decided stays as it is, and nobody succeeds with it again. -/
theorem successes_of_decided {count : Nat} (sane : Sane site world)
    (found : world.committed.ledger.proposals id = some row) (decided : row.status ≠ .opened)
    (successes : Successes site id world later count) :
    count = 0 ∧ later.committed.ledger.proposals id = some row := by
  induction successes with
  | none => exact ⟨rfl, found⟩
  | success action before permitted step succeeds induction =>
      obtain ⟨_, there⟩ := induction
      rcases decided_step (sane_run sane (run_of_successes before)) permitted step there with
        ⟨_, opened, _⟩ | ⟨silent, _⟩
      · exact absurd opened decided
      · exact absurd succeeds silent
  | other action before permitted step silent induction =>
      obtain ⟨none, there⟩ := induction
      rcases decided_step (sane_run sane (run_of_successes before)) permitted step there with
        ⟨succeeds, _⟩ | ⟨_, same⟩
      · exact absurd succeeds silent
      · exact ⟨none, same⟩

theorem successes_of_open {count : Nat} (sane : Sane site world)
    (found : world.committed.ledger.proposals id = some row)
    (successes : Successes site id world later count) :
    count = 0 ∧ later.committed.ledger.proposals id = some row ∨
      count = 1 ∧ ∃ decided, later.committed.ledger.proposals id = some decided ∧
        decided.status ≠ .opened := by
  induction successes with
  | none => exact Or.inl ⟨rfl, found⟩
  | success action before permitted step succeeds induction =>
      have middle := sane_run sane (run_of_successes before)
      rcases induction with ⟨none, there⟩ | ⟨_, decided, there, ended⟩
      · rcases decided_step middle permitted step there with ⟨_, _, settled⟩ | ⟨silent, _⟩
        · exact Or.inr ⟨by rw [none], settled⟩
        · exact absurd succeeds silent
      · rcases decided_step middle permitted step there with ⟨_, opened, _⟩ | ⟨silent, _⟩
        · exact absurd opened ended
        · exact absurd succeeds silent
  | other action before permitted step silent induction =>
      have middle := sane_run sane (run_of_successes before)
      rcases induction with ⟨none, there⟩ | ⟨one, decided, there, ended⟩
      · rcases decided_step middle permitted step there with ⟨succeeds, _⟩ | ⟨_, same⟩
        · exact absurd succeeds silent
        · exact Or.inl ⟨none, same⟩
      · rcases decided_step middle permitted step there with ⟨succeeds, _⟩ | ⟨_, same⟩
        · exact absurd succeeds silent
        · exact Or.inr ⟨one, decided, same, ended⟩

/-- A call that has failed for a proposal that was there has failed because it was decided. -/
theorem decided_of_failure {index : Nat}
    {session : Session Database RowLock Exc Mark Call Call.Answer Op Out} (sane : Sane site world)
    (found : world.session index = some session) (commits : Committing session (.decided false))
    (which : (∃ actor, session.op = .approveProposal id actor) ∨
      ∃ actor note, session.op = .declineProposal id actor note)
    (there : session.txn.start.ledger.proposals id ≠ none) :
    ∃ row, world.committed.ledger.proposals id = some row ∧ row.status ≠ .opened := by
  obtain ⟨seen, since, until_, resolved⟩ := over_of_commit sane found commits which
  obtain ⟨first, present⟩ := Option.ne_none_iff_exists'.1 there
  obtain ⟨shown, glimpsed, _⟩ := since.proposals id first present
  obtain ⟨row, last, kept⟩ := until_.proposals id shown glimpsed
  exact ⟨row, last, kept.resolved (resolved shown glimpsed)⟩

/-- As long as no other decision comes between the look of an approval and its update,
each proposal is decided once and for good: one call reports success, those that fail find
it decided, and an approval that reports failure has applied nothing. -/
theorem proposal_decided_once {start : World} (quiet : start.sessions = [])
    (linked : Linked start.committed.ledger) (run : Run site ApprovesOpen start world) :
    (∀ id row, world.committed.ledger.proposals id = some row →
      ∀ later, Run site ApprovesOpen world later → ∃ count, Successes site id world later count) ∧
    (∀ id row later count, world.committed.ledger.proposals id = some row →
      row.status = .opened → Successes site id world later count →
      count = 0 ∧ later.committed.ledger.proposals id = some row ∨
        count = 1 ∧ ∃ decided, later.committed.ledger.proposals id = some decided ∧
          decided.status ≠ .opened) ∧
    (∀ id row later count, world.committed.ledger.proposals id = some row →
      row.status ≠ .opened → Successes site id world later count →
      count = 0 ∧ later.committed.ledger.proposals id = some row) ∧
    (∀ id index session, world.session index = some session →
      Committing session (.decided false) →
      ((∃ actor, session.op = .approveProposal id actor) ∨
        ∃ actor note, session.op = .declineProposal id actor note) →
      session.txn.start.ledger.proposals id ≠ none →
      ∃ row, world.committed.ledger.proposals id = some row ∧ row.status ≠ .opened) ∧
    ∀ (rely : Database → Database → Prop) (a b : Spot) id actor auto,
      Program.Exec rely (approve id actor auto) a (.ok false) b → b.txn.view = a.txn.view := by
  have sane := sane_run (sane_start quiet linked) run
  refine ⟨?_, ?_, ?_, ?_, ?_⟩
  · exact fun id _ _ _ onward => successes_of_run id onward
  · exact fun _ _ _ _ found _ successes => successes_of_open sane found successes
  · exact fun _ _ _ _ found decided successes => successes_of_decided sane found decided successes
  · exact fun _ _ _ found commits which there => decided_of_failure sane found commits which there
  · exact fun _ _ _ _ _ _ exec => approve_idle exec

/-- Ten claims of the month are to move from one cohort to the other. -/
def shiftProposal : ProposalRow where
  tenant := "acme"
  kind := .budgetShift
  payload := .shift "austin" "dallas" 10
  createdAt := sampleClock

def proposalWorld : World :=
  { committed := { sampleDatabase with
      counters := sampleDatabase.counters.insert (.cohortMonth, "dallas", sampleMonth) ⟨0, 20⟩
      proposals := Table.empty.insert 9 shiftProposal } }

theorem proposal_linked : Linked proposalWorld.committed.ledger := by
  refine ⟨?_, ?_, ?_, ?_⟩
  all_goals
    intro id row found
    simp [Database.ledger, proposalWorld, sampleDatabase] at found ⊢
  · obtain ⟨rfl, rfl⟩ := found
    rfl
  · obtain ⟨rfl, rfl⟩ := found
    rfl

theorem proposal_world_decided_once : Linked proposalWorld.committed.ledger ∧
    ∀ later count, Successes sampleDeployment 9 proposalWorld later count →
      count = 0 ∧ later.committed.ledger.proposals 9 = some shiftProposal ∨
        count = 1 ∧ ∃ decided, later.committed.ledger.proposals 9 = some decided ∧
          decided.status ≠ .opened :=
  ⟨proposal_linked, fun later count =>
    (proposal_decided_once rfl proposal_linked Relation.ReflTransGen.refl).2.1 9 shiftProposal later
      count rfl rfl⟩

/-- A second operator approves the proposal after the first has seen it open. -/
def approvesInTurn : List Move :=
  [begin (.approveProposal 9 "operator:maya"), go 0 1,
    begin (.approveProposal 9 "operator:tomas"), go 1 6]

/-- An approval of the proposal commits and reports success. -/
def approving (index : Nat) (world : World) : Bool :=
  match world.session index with
  | some ⟨.approveProposal 9 _, .done (.decided true), txn⟩ => !txn.failed
  | _ => false

theorem succeeds_of_approving {index : Nat} (holds : approving index world = true) :
    Succeeds 9 world (.finish index) := by
  unfold approving at holds
  split at holds
  next actor txn present =>
    have intact : txn.failed = false := Bool.not_eq_true' _ ▸ holds
    exact ⟨index, _, _, rfl, present, ⟨rfl, intact⟩, rfl, rfl⟩
  next => cases holds

/-- Both approvals commit and report success, and the budget moves twice. -/
theorem proposal_applied_twice : ∃ first between second last,
    Run sampleDeployment unrestricted proposalWorld first ∧ Succeeds 9 first (.finish 1) ∧
    (service sampleDeployment).act (.finish 1) first = some between ∧
    Run sampleDeployment unrestricted between second ∧ Succeeds 9 second (.finish 0) ∧
    (service sampleDeployment).act (.finish 0) second = some last ∧
    last.committed.counters.lookup (.cohortMonth, "austin", sampleMonth) = some ⟨0, 30⟩ ∧
    last.committed.counters.lookup (.cohortMonth, "dallas", sampleMonth) = some ⟨0, 40⟩ := by
  have tried : ((service sampleDeployment).script approvesInTurn proposalWorld).any (fun first =>
      ((service sampleDeployment).script [.inl (.finish 1)] first).any fun between =>
        ((service sampleDeployment).script [go 0 5] between).any fun second =>
          ((service sampleDeployment).script [.inl (.finish 0)] second).any fun last : World =>
            approving 1 first && approving 0 second &&
            decide (last.committed.counters.lookup (.cohortMonth, "austin", sampleMonth) =
              some ⟨0, 30⟩) &&
            decide (last.committed.counters.lookup (.cohortMonth, "dallas", sampleMonth) =
              some ⟨0, 40⟩)) = true := by
    decide +kernel
  obtain ⟨first, begun, tried⟩ := (Option.any_eq_true _ _).1 tried
  obtain ⟨between, committed, tried⟩ := (Option.any_eq_true _ _).1 tried
  obtain ⟨second, onward, tried⟩ := (Option.any_eq_true _ _).1 tried
  obtain ⟨last, ended, seen⟩ := (Option.any_eq_true _ _).1 tried
  simp only [Bool.and_eq_true, decide_eq_true_eq] at seen
  obtain ⟨⟨⟨earlier, later⟩, austin⟩, dallas⟩ := seen
  exact ⟨first, between, second, last, run_of_further begun, succeeds_of_approving earlier,
    step_of_script committed, run_of_further onward, succeeds_of_approving later,
    step_of_script ended, austin, dallas⟩

end Runs

section Budget

variable {oracle : Nat → (query : Call) → query.Answer} {fault : Exc}
  {moment : Moment Database RowLock} {db : Database} {answered : Nat} {period : Period}
  {fromCohort toCohort : String} {amount : Int}

def capOfMonth (period : Period) (key : ScopeType × String × Period) : Bool :=
  key.1 = .cohortMonth && key.2.2 = period

/-- What the cohorts may claim in a month, all together. -/
def monthBudget (db : Database) (period : Period) : Nat :=
  db.counters.total (capOfMonth period) Counter.cap

/-- A budget shift, or a rebalance of its shape. -/
structure ProposalRow.Shifts (row : ProposalRow) (fromCohort toCohort : String) (amount : Int) :
    Prop where
  kind : row.kind = .budgetShift ∨ row.kind = .rebalance
  payload : row.payload = .shift fromCohort toCohort amount

/-- The giving cohort still has what it gives, or no cohort is there to receive it. -/
def Covered (db : Database) (period : Period) (fromCohort toCohort : String) (amount : Int) :
    Prop :=
  db.counters.lookup (.cohortMonth, toCohort, period) = none ∨
    ∃ counter, db.counters.lookup (.cohortMonth, fromCohort, period) = some counter ∧
      amount ≤ counter.cap

/-- The database with one side of a shift. -/
def Database.shiftedCap (db : Database) (cohortId : String) (period : Period) (delta : Int) :
    Database :=
  { db with
    counters := db.counters.modify (fun key _ => key = (ScopeType.cohortMonth, cohortId, period))
      fun row => { row with cap := ((row.cap : Int) + delta).toNat } }

theorem solo_shiftCap (cohortId : String) (delta : Int) :
    (shiftCap cohortId period delta).solo oracle fault moment ⟨db, answered, false⟩ =
      (.ok (), ⟨db.shiftedCap cohortId period delta, answered, false⟩) := by
  unfold shiftCap
  rw [Program.solo_bind, Program.solo_update]
  rfl

theorem solo_applyProposal {proposal : ProposalRow}
    (shifts : proposal.Shifts fromCohort toCohort amount)
    (which : monthOf (oracle answered .now) = period) :
    (applyProposal proposal).solo oracle fault moment ⟨db, answered, false⟩ =
      (.ok (), ⟨(db.shiftedCap fromCohort period (-amount)).shiftedCap toCohort period amount,
        answered + 1, false⟩) := by
  unfold applyProposal now
  rw [Program.solo_bind, Program.solo_ask]
  dsimp only
  rw [which, shifts.payload]
  rcases shifts.kind with kind | kind
  all_goals
    rw [kind]
    dsimp only
    rw [Program.solo_bind, solo_shiftCap]
    dsimp only
    rw [solo_shiftCap]

/-- An approval that succeeds has made both sides of the shift. -/
theorem counters_of_approve {proposal : ProposalRow} {actor : String} {auto : Bool}
    {after : Alone Database} (found : db.proposals.lookup id = some proposal)
    (opened : proposal.status = .opened) (shifts : proposal.Shifts fromCohort toCohort amount)
    (which : monthOf (oracle answered .now) = period)
    (approved : (approve id actor auto).solo oracle fault moment ⟨db, answered, false⟩ =
      (.ok true, after)) :
    after.db.counters =
      ((db.shiftedCap fromCohort period (-amount)).shiftedCap toCohort period amount).counters := by
  have looked : (db.proposals.lookup id).filter (fun row => row.status = .opened) =
      some proposal := by
    rw [found, Option.filter, opened]
    rfl
  unfold approve getOpen at approved
  dsimp only at approved
  split at approved
  · cases approved
  rw [Program.solo_bind, Program.solo_query, looked] at approved
  dsimp only at approved
  split at approved
  · cases approved
  rw [Program.solo_bind, solo_applyProposal shifts which] at approved
  dsimp only at approved
  rw [Program.solo_bind, Program.solo_updateChecked, List.findSome?_eq_none_iff.2 fun _ _ => rfl]
    at approved
  dsimp only [audit] at approved
  rw [Program.solo_bind, Program.solo_appendRow] at approved
  obtain rfl := (Prod.mk.inj approved).2
  rfl

/-- The cap of a cohort, or nothing where the month has no row for it. -/
def cohortCap (db : Database) (cohortId : String) (period : Period) : Nat :=
  (db.counters.lookup (.cohortMonth, cohortId, period)).elim 0 Counter.cap

theorem monthBudget_shiftedCap (db : Database) (cohortId : String) (period : Period)
    (delta : Int) :
    monthBudget (db.shiftedCap cohortId period delta) period + cohortCap db cohortId period =
      monthBudget db period + (db.counters.lookup (.cohortMonth, cohortId, period)).elim 0
        fun row => ((row.cap : Int) + delta).toNat := by
  have counted : capOfMonth period (.cohortMonth, cohortId, period) = true := by
    simp [capOfMonth]
  exact db.counters.total_modify_key (capOfMonth period) Counter.cap counted _

theorem lookup_shiftedCap (cohortId other : String) (delta : Int) :
    (db.shiftedCap cohortId period delta).counters.lookup (.cohortMonth, other, period) =
      (db.counters.lookup (.cohortMonth, other, period)).map fun row =>
        if other = cohortId then { row with cap := ((row.cap : Int) + delta).toNat } else row := by
  unfold Database.shiftedCap
  rw [Table.lookup_modify]
  simp

theorem monthBudget_le_iff_covered (positive : 1 ≤ amount) :
    monthBudget ((db.shiftedCap fromCohort period (-amount)).shiftedCap toCohort period amount)
        period ≤ monthBudget db period ↔ Covered db period fromCohort toCohort amount := by
  have given := monthBudget_shiftedCap db fromCohort period (-amount)
  have received := monthBudget_shiftedCap (db.shiftedCap fromCohort period (-amount)) toCohort period
    amount
  unfold cohortCap at given received
  rw [lookup_shiftedCap] at received
  unfold Covered
  cases receiving : db.counters.lookup (.cohortMonth, toCohort, period) with
  | none =>
      rw [receiving] at received
      simp only [Option.map_none, Option.elim_none] at received
      cases giving : db.counters.lookup (.cohortMonth, fromCohort, period) with
      | none =>
          rw [giving] at given
          simp only [Option.elim_none] at given
          simp
          omega
      | some counter =>
          rw [giving] at given
          simp only [Option.elim_some] at given
          simp
          omega
  | some counter =>
      rw [receiving] at received
      simp only [Option.map_some, Option.elim_some] at received
      by_cases same : toCohort = fromCohort
      · subst same
        rw [receiving] at given ⊢
        simp at given received ⊢
        omega
      · rw [if_neg same] at received
        cases giving : db.counters.lookup (.cohortMonth, fromCohort, period) with
        | none =>
            rw [giving] at given
            simp at given received ⊢
            omega
        | some source =>
            rw [giving] at given
            simp at given received ⊢
            omega

/-- An approval of a shift creates no budget exactly when the giving cohort still has what
it gives, or no cohort is there to receive it. -/
theorem approve_creates_no_budget {proposal : ProposalRow} {actor : String} {auto : Bool}
    {after : Alone Database} (found : db.proposals.lookup id = some proposal)
    (opened : proposal.status = .opened) (shifts : proposal.Shifts fromCohort toCohort amount)
    (positive : 1 ≤ amount)
    (approved : (approve id actor auto).solo oracle fault moment ⟨db, answered, false⟩ =
      (.ok true, after)) :
    ((∀ key counter, after.db.counters.lookup key = some counter → (0 : Int) ≤ counter.cap) ∧
      monthBudget after.db (monthOf (oracle answered .now)) ≤
        monthBudget db (monthOf (oracle answered .now))) ↔
      Covered db (monthOf (oracle answered .now)) fromCohort toCohort amount := by
  have moved : monthBudget after.db (monthOf (oracle answered .now)) =
      monthBudget ((db.shiftedCap fromCohort (monthOf (oracle answered .now)) (-amount)).shiftedCap
        toCohort (monthOf (oracle answered .now)) amount) (monthOf (oracle answered .now)) := by
    unfold monthBudget
    rw [counters_of_approve found opened shifts rfl approved]
  rw [moved, monthBudget_le_iff_covered positive]
  exact ⟨And.right, fun covered => ⟨fun _ counter _ => Int.natCast_nonneg counter.cap, covered⟩⟩

/-- An approval of the sample proposal, with nobody else at work. -/
def approveAlone (db : Database) : Except Exc Bool × Alone Database :=
  (approve 9 "operator:maya" false).solo (fun _ => sampleReply sampleClock 100) integrityError
    ⟨db, fun _ => false⟩ ⟨db, 0, false⟩

theorem sample_shift_creates_no_budget : ∃ after,
    approveAlone proposalWorld.committed = (.ok true, after) ∧
    monthBudget after.db sampleMonth ≤ monthBudget proposalWorld.committed sampleMonth := by
  have shifts : shiftProposal.Shifts "austin" "dallas" 10 := ⟨Or.inl rfl, rfl⟩
  have covered : Covered proposalWorld.committed sampleMonth "austin" "dallas" 10 :=
    Or.inr ⟨⟨0, 50⟩, by decide +kernel, by decide⟩
  have approved : approveAlone proposalWorld.committed =
      (.ok true, (approveAlone proposalWorld.committed).2) := rfl
  exact ⟨_, approved,
    ((approve_creates_no_budget rfl rfl shifts (by decide) approved).2 covered).2⟩

/-- The giving cohort has been paused since the shift was proposed. -/
def pausedDatabase : Database :=
  { proposalWorld.committed with
    counters := proposalWorld.committed.counters.modify
      (fun key _ => key = (ScopeType.cohortMonth, "austin", sampleMonth))
      fun row => { row with cap := 0 } }

theorem shift_of_paused_creates_budget : ∃ after, approveAlone pausedDatabase = (.ok true, after) ∧
    monthBudget pausedDatabase sampleMonth = 20 ∧ monthBudget after.db sampleMonth = 30 :=
  ⟨(approveAlone pausedDatabase).2, rfl, by decide +kernel, by decide +kernel⟩

end Budget

end OpenReachout
