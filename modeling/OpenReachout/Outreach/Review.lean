import OpenReachout.Outreach.Steps

/-!
# The review of proposals

What the calls of `core/proposals.py` do to the proposals, and what they report.
-/

namespace OpenReachout

open Relational Relational.Abstraction Text

set_option autoImplicit false

variable {site : Deployment} {vouch : Mark → Ledger → Prop} {op : Op} {held : List RowLock}

section Proposing

theorem follows_record (id : Uuid) (row : Moment Database RowLock → ProposalRow)
    (which : ∀ moment, op.files moment.start.clock (row moment))
    (opened : ∀ moment, (row moment).status = .opened) :
    (outreach site vouch op).Follows held
      (Program.insertRow Tables.proposals none integrityError (fun _ _ _ => none) id row :
        Prog Unit) := by
  change (outreach site vouch op).Brings held _ fun start _ before after =>
    Relation.ReflTransGen (Deed site vouch op start) before after
  refine (ensures_insertRow Tables.proposals none _ _ id row).mono ?_
  rintro start _ before after ⟨_, busy, _, _, absent, replaced⟩
  change Relation.ReflTransGen (Deed site vouch op start.ledger) before.ledger after.ledger
  rw [ledger_replaced_proposal replaced]
  exact .single (.file id _ (which _) absent (opened _))

theorem follows_propose (tenant : String) (kind : ProposalKind) (payload : ProposalPayload)
    (dedupeKey : Option String) (which : op = .propose tenant kind payload dedupeKey) :
    (outreach site vouch op).Follows held (propose tenant kind payload dedupeKey) := by
  have recorded : ∀ existing : List (Uuid × ProposalRow),
      (outreach site vouch op).Follows held (if !existing.isEmpty then pure none
        else do
          let id ← freshUuid
          Program.insertRow Tables.proposals none integrityError (fun _ _ _ => none) id
            fun moment => { tenant, kind, payload, dedupeKey, createdAt := moment.start.clock }
          pure (some id) : Prog (Option Uuid)) := by
    intro existing
    apply follows_ite
    · exact follows_pure _
    · exact follows_bind (follows_quiet (quiet_ask _)) fun id =>
        follows_bind (follows_record id _ (fun _ => ⟨which, rfl⟩) fun _ => rfl) fun _ => follows_pure _
  unfold propose
  split
  · exact follows_bind (follows_quiet (quiet_query _)) recorded
  · exact follows_bind (follows_pure _) recorded

end Proposing

section Deciding

/-- A proposal that was seen when it was no longer open, or not yet there. -/
def Over (proposalId : Uuid) (start before : Ledger) : Prop :=
  ∃ seen, Later start seen ∧ Later seen before ∧
    ∀ proposal, seen.proposals proposalId = some proposal → proposal.status ≠ .opened

/-- A decline that reports success, and one that does not. -/
inductive Declining (proposalId : Uuid) (actor : String) (start before : Ledger) :
    Bool → Ledger → Prop where
  | declined (proposal : ProposalRow) (found : before.proposals proposalId = some proposal)
      (opened : proposal.status = .opened) :
      Declining proposalId actor start before true
        (before.setProposal proposalId (proposal.settled .declined start.clock actor))
  | ended (resolved : Over proposalId start before) :
      Declining proposalId actor start before false before

/-- An approval that reports success: it has approved the proposal as it saw it, or
has not seen its row. -/
inductive Granting (vouch : Mark → Ledger → Prop) (proposalId : Uuid) (start before : Ledger) :
    Ledger → Prop where
  | granted (proposal : ProposalRow) (actor : String)
      (found : before.proposals proposalId = some proposal)
      (vouched : ∃ seen : Ledger, vouch (.approve proposalId) seen ∧
        seen.proposals proposalId = some proposal) :
      Granting vouch proposalId start before
        (before.setProposal proposalId (proposal.settled .approved start.clock actor))
  | unseen (vouched : ∃ seen : Ledger, vouch (.approve proposalId) seen ∧
      seen.proposals proposalId = none) : Granting vouch proposalId start before before

theorem later_declining {proposalId : Uuid} {actor : String} {start before after : Ledger}
    {success : Bool} (declining : Declining proposalId actor start before success after) :
    Later before after := by
  cases declining with
  | declined proposal found opened =>
      exact later_settle_proposal found nofun fun closed => absurd opened closed
  | ended resolved => exact later_refl _

theorem brings_decline (proposalId : Uuid) (actor note : String) :
    (outreach site vouch op).Brings held (decline proposalId actor note)
      fun start success before after => Declining proposalId actor start before success after := by
  have guarded : (outreach site vouch op).Brings held
      (Program.update Tables.proposals (fun _ _ id row => id = proposalId && row.status = .opened)
        (fun moment row =>
          { row with
            status := .declined, resolvedAt := some moment.start.clock
            resolvedBy := some actor }) : Prog (List (Uuid × ProposalRow)))
      fun start rows before after => Declining proposalId actor start before (!rows.isEmpty) after := by
    refine (ensures_update Tables.proposals _ _).mono ?_
    rintro start rows before after ⟨seen, busy, updated⟩
    have one : ∀ (key other : Uuid) (row next : ProposalRow),
        (decide (key = proposalId) && decide (row.status = .opened)) = true →
        (decide (other = proposalId) && decide (next.status = .opened)) = true → key = other := by
      intro key other row next first second
      simp only [Bool.and_eq_true, decide_eq_true_eq] at first second
      exact first.1.trans second.1.symm
    rcases updated.single one with ⟨rfl, rfl⟩ | ⟨key, row, rfl, present, _, picked, replaced⟩
    · refine .ended ⟨seen.ledger, updated.glimpse.since, updated.glimpse.until_, ?_⟩
      intro proposal there opened
      have hit : (proposalId, proposal) ∈ ([] : List (Uuid × ProposalRow)) :=
        updated.hit there (by simp [opened])
      cases hit
    · simp only [Bool.and_eq_true, decide_eq_true_eq] at picked
      obtain ⟨rfl, opened⟩ := picked
      rw [show (outreach site vouch op).of after = _ from ledger_replaced_proposal replaced]
      exact .declined row present opened
  unfold decline
  dsimp only
  split
  · exact brings_throw _
  refine brings_bind guarded ?_ fun rows => ?_
  · exact fun start rows before after done => later_declining done
  · cases rows with
    | nil => exact brings_pure _ fun start view before done => done
    | cons entry rest =>
        exact brings_after (quiet_audit _ _ _ _ _) fun _ =>
          brings_pure _ fun start view before done => done

theorem quiet_applyProposal (proposal : ProposalRow) :
    (outreach site vouch op).Quiet (applyProposal proposal) := by
  have shift : ∀ (cohortId : String) (period : Period) (delta : Int),
      (outreach site vouch op).Quiet (shiftCap cohortId period delta) := fun _ _ _ =>
    quiet_bind (quiet_counters _ _) fun _ => quiet_pure _
  unfold applyProposal
  apply quiet_bind (quiet_ask _)
  intro time
  dsimp only
  split
  · exact quiet_bind (quiet_counters _ _) fun _ => quiet_pure _
  · exact quiet_pure _
  · exact quiet_bind (shift _ _ _) fun _ => shift _ _ _
  · exact quiet_throw _

theorem later_granting {proposalId : Uuid} {start before after : Ledger}
    (granting : Granting vouch proposalId start before after) : Later before after := by
  cases granting with
  | granted proposal actor found vouched => exact later_settle_proposal found nofun fun _ => rfl
  | unseen vouched => exact later_refl _

/-- The update that closes a proposal, whatever its status. -/
theorem brings_grant (proposalId : Uuid) (actor : String) :
    (outreach site vouch op).Brings held
      (Program.updateChecked Tables.proposals (some (.approve proposalId))
        (fun _ _ _ _ => (none : Option Exc)) (fun _ _ id _ => id = proposalId)
        fun moment row =>
          { row with
            status := .approved, resolvedAt := some moment.start.clock, resolvedBy := some actor } :
        Prog (List (Uuid × ProposalRow)))
      fun start _ before after => Granting vouch proposalId start before after := by
  refine (ensures_updateChecked Tables.proposals (some (Mark.approve proposalId)) _ _ _).mono ?_
  rintro start rows before after ⟨seen, busy, updated⟩
  have vouched := updated.vouched _ rfl
  rcases updated.single one_key with ⟨empty, rfl⟩ | ⟨key, row, _, present, there, picked, replaced⟩
  · refine .unseen ⟨seen.ledger, vouched, ?_⟩
    cases there : seen.proposals.lookup proposalId with
    | none => exact there
    | some row =>
        have hit := updated.hit there (decide_eq_true rfl)
        rw [empty] at hit
        cases hit
  · obtain rfl := of_decide_eq_true picked
    change Granting vouch key start.ledger before.ledger after.ledger
    rw [ledger_replaced_proposal replaced]
    exact .granted row actor present ⟨seen.ledger, vouched, there⟩

theorem brings_getOpen (proposalId : Uuid) :
    (outreach site vouch op).Brings held (getOpen proposalId) fun start found before after =>
      (found = none → Over proposalId start before) ∧ after = before := by
  refine (ensures_query _).mono ?_
  rintro start found before after ⟨seen, busy, glimpse, rfl, rfl⟩
  refine ⟨fun absent => ⟨seen.ledger, glimpse.since, glimpse.until_, fun proposal there => ?_⟩, rfl⟩
  intro opened
  have there : seen.proposals.lookup proposalId = some proposal := there
  rw [there] at absent
  simp [opened] at absent

/-- What an approval reports. -/
def Approving (vouch : Mark → Ledger → Prop) (proposalId : Uuid) (start before : Ledger)
    (success : Bool) (after : Ledger) : Prop :=
  if success then Granting vouch proposalId start before after
  else after = before ∧ Over proposalId start before

theorem brings_approve (proposalId : Uuid) (actor : String) (auto : Bool) :
    (outreach site vouch op).Brings held (approve proposalId actor auto)
      fun start success before after => Approving vouch proposalId start before success after := by
  unfold approve
  dsimp only
  split
  · exact brings_throw _
  refine brings_seen (brings_getOpen proposalId) fun found => ?_
  cases found with
  | none => exact brings_pure _ fun start view ended => ⟨rfl, ended rfl⟩
  | some proposal =>
      dsimp only
      split
      · exact brings_throw _
      refine brings_after (quiet_applyProposal proposal) fun _ =>
        brings_bind (brings_grant proposalId actor) (fun _ _ _ _ => later_granting) fun rows =>
          brings_after (quiet_audit _ _ _ _ _) fun _ => brings_pure _ ?_
      exact fun start view before granting _ => granting

theorem path_of_declining {proposalId : Uuid} {actor note : String} {start before after : Ledger}
    {success : Bool} (which : op = .declineProposal proposalId actor note)
    (declining : Declining proposalId actor start before success after) :
    Relation.ReflTransGen (Deed site vouch op start) before after := by
  cases declining with
  | declined proposal found opened =>
      exact .single (.decline proposalId proposal actor note which found opened)
  | ended resolved => exact .refl

theorem path_of_granting {proposalId : Uuid} {start before after : Ledger} (which : op.approves)
    (granting : Granting vouch proposalId start before after) :
    Relation.ReflTransGen (Deed site vouch op start) before after := by
  cases granting with
  | granted proposal actor found vouched =>
      obtain ⟨seen, vouched, shown⟩ := vouched
      exact .single (.grant proposalId proposal actor which found
        ⟨seen, vouched, shown.trans found.symm⟩)
  | unseen vouched => exact .refl

theorem path_of_approving {proposalId : Uuid} {start before after : Ledger} {success : Bool}
    (which : op.approves) (approving : Approving vouch proposalId start before success after) :
    Relation.ReflTransGen (Deed site vouch op start) before after := by
  cases success with
  | true => exact path_of_granting which approving
  | false =>
      obtain ⟨rfl, _⟩ := approving
      exact .refl

theorem later_approving {proposalId : Uuid} {start before after : Ledger} {success : Bool}
    (approving : Approving vouch proposalId start before success after) : Later before after := by
  cases success with
  | true => exact later_granting approving
  | false =>
      obtain ⟨rfl, _⟩ := approving
      exact later_refl _

theorem granting_apart {proposalId other : Uuid} {start before after : Ledger}
    (granting : Granting vouch proposalId start before after) (apart : other ≠ proposalId) :
    after.proposals other = before.proposals other := by
  cases granting with
  | granted proposal actor found vouched => exact Function.update_of_ne apart _ _
  | unseen vouched => rfl

/-- What a review reports: each proposal of its list was approved on the way, and no
other was. -/
structure Reviewing (site : Deployment) (vouch : Mark → Ledger → Prop) (op : Op)
    (start before : Ledger) (approved : List Uuid) (after : Ledger) : Prop where
  path : Relation.ReflTransGen (Deed site vouch op start) before after
  granted : ∀ id ∈ approved, ∃ middle next,
    Relation.ReflTransGen (Deed site vouch op start) before middle ∧
    Granting vouch id start middle next ∧
    Relation.ReflTransGen (Deed site vouch op start) next after
  others : ∀ id, id ∉ approved → after.proposals id = before.proposals id

theorem later_reviewing {start before after : Ledger} {approved : List Uuid}
    (reviewing : Reviewing site vouch op start before approved after) : Later before after := by
  have path := reviewing.path
  clear reviewing
  induction path with
  | refl => exact later_refl _
  | tail _ deed induction => exact later_trans induction (deed_later _ _ _ _ deed)

theorem reviewing_nil (start l : Ledger) : Reviewing site vouch op start l [] l :=
  ⟨.refl, fun _ member => absurd member List.not_mem_nil, fun _ _ => rfl⟩

/-- One more proposal before the rest. -/
theorem reviewing_cons {id : Uuid} {start before middle after : Ledger} {success : Bool}
    {others : List Uuid} (which : op.approves)
    (approving : Approving vouch id start before success middle)
    (reviewing : Reviewing site vouch op start middle others after) :
    Reviewing site vouch op start before (if success then id :: others else others) after := by
  have first : Relation.ReflTransGen (Deed site vouch op start) before middle :=
    path_of_approving which approving
  have rest : ∀ other ∈ others, ∃ middle next,
      Relation.ReflTransGen (Deed site vouch op start) before middle ∧
      Granting vouch other start middle next ∧
      Relation.ReflTransGen (Deed site vouch op start) next after := by
    intro other member
    obtain ⟨early, next, path, granting, onward⟩ := reviewing.granted other member
    exact ⟨early, next, first.trans path, granting, onward⟩
  refine ⟨first.trans reviewing.path, fun other member => ?_, fun other absent => ?_⟩
  · cases success with
    | false => exact rest other member
    | true =>
        rcases List.mem_cons.1 member with rfl | member
        · exact ⟨before, middle, .refl, approving, reviewing.path⟩
        · exact rest other member
  · cases success with
    | false =>
        obtain ⟨rfl, _⟩ := approving
        exact reviewing.others other absent
    | true =>
        obtain ⟨apart, later⟩ := not_or.1 (List.mem_cons.not.1 absent)
        exact (reviewing.others other later).trans (granting_apart approving apart)

theorem brings_reviewEach (entries : List (Uuid × ProposalRow)) (which : op.approves) :
    (outreach site vouch op).Brings held (reviewEach entries)
      fun start approved before after => Reviewing site vouch op start before approved after := by
  induction entries with
  | nil => exact brings_pure _ fun start view => reviewing_nil start view
  | cons entry rest induction =>
      obtain ⟨id, proposal⟩ := entry
      have others : ∀ success : Bool, (outreach site vouch op).Brings held (do
          let others ← reviewEach rest
          pure (if success then id :: others else others))
          fun start approved middle after => ∀ before,
            Approving vouch id start before success middle →
              Reviewing site vouch op start before approved after := by
        intro success
        refine brings_bind induction (fun _ _ _ _ reviewing => later_reviewing reviewing)
          fun others => brings_pure _ ?_
        exact fun start after middle reviewing before approving =>
          reviewing_cons which approving reviewing
      unfold reviewEach
      dsimp only
      split
      · exact brings_bind (brings_approve id _ _) (fun _ _ _ _ => later_approving) others
      · have skipped := brings_map induction fun others =>
          if false = true then id :: others else others
        refine skipped.mono ?_
        rintro start _ before after ⟨approved, rfl, reviewing⟩
        exact reviewing

theorem brings_autoReview (tenant cohortLaunch : String) (which : op.approves) :
    (outreach site vouch op).Brings held (autoReview tenant cohortLaunch)
      fun start approved before after => Reviewing site vouch op start before approved after := by
  unfold autoReview
  split
  · exact brings_pure _ fun start view => reviewing_nil start view
  · exact brings_after (quiet_query _) fun entries => brings_reviewEach entries which

end Deciding

end OpenReachout
