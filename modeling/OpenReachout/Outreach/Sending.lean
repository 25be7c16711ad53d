import OpenReachout.Outreach.Inbound
import OpenReachout.Outreach.Tallies
import OpenReachout.Properties.ClaimGates

/-!
# Sending

The deliver handler as one deed: what the gates have locked is what the claim
commits on, and the dispatch and the next step are of the touch that was claimed.
-/

namespace OpenReachout

open Relational Relational.Abstraction Relational.Discipline Text

set_option autoImplicit false

variable {site : Deployment} {vouch : Mark → Ledger → Prop} {op : Op} {held : List RowLock}

section Frequency

/-- The row of the entity is locked where it admits a first contact. -/
theorem brings_frequencyOk (entityId : Uuid) :
    (outreach site vouch op).Brings held (frequencyOk entityId) fun _ passed before after =>
      (passed = true → ∃ owner, before.entities entityId = some owner ∧
        owner.activeSequenceTouchId = none ∧ owner.touches12mo < defaultAnnualTouchCap) ∧
      after = before := by
  unfold frequencyOk
  refine brings_from (ensures_lockRows Tables.entities _) ?_ fun rows => ?_
  · rintro start rows before after ⟨_, _, _, _, _, rfl⟩
    exact later_refl _
  cases rows with
  | nil =>
      refine ensures_pure _ ?_
      rintro start view before ⟨_, _, _, _, _, rfl⟩
      exact ⟨fun impossible => absurd impossible Bool.false_ne_true, rfl⟩
  | cons entry rest =>
      obtain ⟨id, owner⟩ := entry
      dsimp only
      by_cases active : owner.activeSequenceTouchId.isSome = true
      · rw [if_pos active]
        refine ensures_pure _ ?_
        rintro start view before ⟨_, _, _, _, _, rfl⟩
        exact ⟨fun impossible => absurd impossible Bool.false_ne_true, rfl⟩
      rw [if_neg active]
      by_cases capped : defaultAnnualTouchCap ≤ owner.touches12mo
      · rw [if_pos capped]
        refine ensures_pure _ ?_
        rintro start view before ⟨_, _, _, _, _, rfl⟩
        exact ⟨fun impossible => absurd impossible Bool.false_ne_true, rfl⟩
      rw [if_neg capped]
      have free : owner.activeSequenceTouchId = none := by simpa using active
      refine (ensures_quiet ?_).mono ?_
      · split
        · exact quiet_pure _
        · exact quiet_bind (quiet_ask _) fun _ => quiet_pure _
      rintro start passed middle after same before ⟨seen, busy, _, chosen, kept, rfl⟩
      refine ⟨fun _ => ⟨owner, ?_, free, by omega⟩, same⟩
      have member : (id, owner) ∈ (id, owner) :: rest := List.mem_cons_self
      have present := kept _ member
      rw [chosen] at member
      have picked := ((Table.mem_select_iff _ _ _ _).1 member).2
      obtain rfl := of_decide_eq_true picked
      exact present

theorem takes_frequencyOk (entityId : Uuid) :
    (outreach site vouch op).Takes (frequencyOk entityId) fun passed =>
      if passed then [RowLock.entity entityId] else [] := by
  intro a b passed exec
  cases passed with
  | false => exact List.nil_subset _
  | true =>
      unfold frequencyOk at exec
      rw [Program.exec_bind_ok] at exec
      obtain ⟨rows, middle, early, late⟩ := exec
      have taken := takes_lockRowsMarked Tables.entities none _ a middle rows early
      have further := (Program.exec_extends (Abstraction.rely_order _) late).held
      obtain ⟨db, _, _, _, busy, effect, success, rfl, rfl⟩ :=
        (Program.exec_perform_ok _ _ _ _ _).1 early
      obtain rfl := Except.ok.inj success
      dsimp only [Effect.locking] at late taken
      cases chosen : (a.txn.view db).entities.select fun id _ => decide (id = entityId) with
      | nil =>
          rw [chosen] at late
          cases late.1
      | cons entry rest =>
          have member : entry ∈ (a.txn.view db).entities.select fun id _ =>
              decide (id = entityId) := by
            rw [chosen]
            exact List.mem_cons_self
          have mine := of_decide_eq_true ((Table.mem_select_iff _ _ _ _).1 member).2
          refine List.cons_subset.2 ⟨?_, List.nil_subset _⟩
          rw [← mine]
          apply List.map_subset Prod.fst further
          apply taken
          exact List.mem_map_of_mem member

/-- The entity is locked where its active sequence is the prospect's. -/
theorem brings_sequenceContinuationOk (entityId prospectId : Uuid) :
    (outreach site vouch op).Brings held (sequenceContinuationOk entityId prospectId)
      fun _ passed before after =>
        (passed = true → ∃ owner active item, before.entities entityId = some owner ∧
          owner.activeSequenceTouchId = some active ∧ before.touches active = some item ∧
          item.prospectId = prospectId ∧ owner.touches12mo < defaultAnnualTouchCap) ∧
        after = before := by
  unfold sequenceContinuationOk
  refine brings_from (ensures_perform none _) ?_ fun rows => ?_
  · rintro start rows before after ⟨seen, busy, effect, stated⟩
    obtain rfl := Except.ok.inj stated.success
    rw [stated.wrote]
    exact later_refl _
  cases rows with
  | nil =>
      refine ensures_pure _ ?_
      rintro start view before ⟨seen, busy, effect, stated⟩
      obtain rfl := Except.ok.inj stated.success
      exact ⟨nofun, congrArg Database.ledger stated.wrote⟩
  | cons entry rest =>
      refine ensures_pure _ ?_
      rintro start view before ⟨seen, busy, effect, stated⟩
      obtain rfl := Except.ok.inj stated.success
      refine ⟨fun passed => ?_, congrArg Database.ledger stated.wrote⟩
      have member : entry ∈ (seen.entities.select fun id _ => decide (id = entityId)).map
          fun entry => (entry.2.touches12mo, activeProspect seen entry.2) := by
        have same : entry :: rest = (seen.entities.select fun id _ => decide (id = entityId)).map
            fun entry => (entry.2.touches12mo, activeProspect seen entry.2) := stated.value
        rw [← same]
        exact List.mem_cons_self
      obtain ⟨⟨id, owner⟩, there, rfl⟩ := List.mem_map.1 member
      obtain ⟨found, mine⟩ := (Table.mem_select_iff _ _ _ _).1 there
      obtain rfl := of_decide_eq_true mine
      have present : before.ledger.entities id = some owner :=
        (stated.row Tables.entities (List.mem_map_of_mem there)).trans found
      obtain ⟨theirs, below⟩ := Bool.and_eq_true_iff.1 passed
      have owned : activeProspect seen owner = some prospectId := of_decide_eq_true theirs
      obtain ⟨touch, there, theirs⟩ := Option.map_eq_some_iff.1 owned
      obtain ⟨active, held, said⟩ := Option.bind_eq_some_iff.1 there
      obtain ⟨item, found, step⟩ := stated.glimpse.until_.touches active touch said
      exact ⟨owner, active, item, present, held, found, step.prospectId.trans theirs,
        of_decide_eq_true below⟩

theorem takes_sequenceContinuationOk (entityId prospectId : Uuid) :
    (outreach site vouch op).Takes (sequenceContinuationOk entityId prospectId) fun passed =>
      if passed then [RowLock.entity entityId] else [] := by
  intro a b passed exec
  cases passed with
  | false => exact List.nil_subset _
  | true =>
      unfold sequenceContinuationOk at exec
      rw [Program.exec_bind_ok] at exec
      obtain ⟨rows, middle, early, late⟩ := exec
      have further := (Program.exec_extends (Abstraction.rely_order _) late).held
      obtain ⟨db, _, _, _, busy, effect, success, rfl, rfl⟩ :=
        (Program.exec_perform_ok _ _ _ _ _).1 early
      obtain rfl := Except.ok.inj success
      dsimp only [Effect.locking] at late
      cases chosen : (a.txn.view db).entities.select fun id _ => decide (id = entityId) with
      | nil =>
          rw [chosen] at late
          cases late.1
      | cons entry rest =>
          have member : entry ∈ (a.txn.view db).entities.select fun id _ =>
              decide (id = entityId) := by
            rw [chosen]
            exact List.mem_cons_self
          have mine := of_decide_eq_true ((Table.mem_select_iff _ _ _ _).1 member).2
          refine List.cons_subset.2 ⟨?_, List.nil_subset _⟩
          rw [← mine]
          apply List.map_subset Prod.fst further
          simp only [Effect.locking, Txn.record, List.map_append, List.map_map, List.mem_append]
          exact Or.inr (List.mem_map_of_mem member)

end Frequency

section Persist

variable {touch : DraftTouch} {mailbox : String} {results : Payload}

/-- What `persist_claim` commits: the drafted touch is claimed, and a budgeted one
takes the sequence of the entity. -/
structure Persisted (vouch : Mark → Ledger → Prop) (touch : DraftTouch) (mailbox : String)
    (start before after : Ledger) (item : Touch) (owner : Entity) : Prop where
  found : before.touches touch.touchId = some item
  drafted : item.status = .drafted
  vouched : ∃ seen : Ledger, vouch (.persistClaim touch.touchId) seen
  wrote : after = { before with
    touches := Function.update before.touches touch.touchId (some { item with
      status := .claimed, claimedAt := some start.clock, mailbox := some mailbox })
    entities := if touch.profile.budgeted then
      Function.update before.entities touch.entityId
        (some (owner.claimed start.clock touch.touchId))
      else before.entities }

theorem brings_takeSequence (entityId touchId : Uuid) (locked : RowLock.entity entityId ∈ held) :
    (outreach site vouch op).Brings held
      (Program.update Tables.entities (fun _ _ id _ => id = entityId)
        fun moment row =>
          { row with
            activeSequenceTouchId := some touchId
            lastCampaignContactAt := some moment.start.clock
            touches12mo := row.touches12mo + 1 } : Prog (List (Uuid × Entity)))
      fun start _ before after => ∀ owner, before.entities entityId = some owner →
        after = before.setEntity entityId (owner.claimed start.clock touchId) := by
  refine (ensures_update Tables.entities _ _).mono ?_
  rintro start rows before after ⟨seen, busy, updated⟩ owner found
  rcases updated.single one_key with ⟨empty, rfl⟩ | ⟨key, row, _, present, _, picked, replaced⟩
  · have same := updated.glimpse.row Tables.entities locked
    have hit := updated.hit (same.symm.trans found) (decide_eq_true rfl)
    rw [empty] at hit
    cases hit
  · obtain rfl := of_decide_eq_true picked
    obtain rfl := Option.some.inj (present.symm.trans found)
    exact ledger_replaced_entity replaced

theorem brings_persistClaim
    (locked : touch.profile.budgeted = true → RowLock.entity touch.entityId ∈ held) :
    (outreach site vouch op).Brings held (persistClaim touch mailbox results)
      fun start _ before after => ∀ owner,
        (touch.profile.budgeted = true → before.entities touch.entityId = some owner) →
        ∃ item, Persisted vouch touch mailbox start before after item owner := by
  unfold persistClaim
  refine brings_from (ensures_setTouchStatus .claimed _ touch.touchId _ _ ?_) ?_ fun rows => ?_
  · intro moment db id row chosen
    exact of_decide_eq_true (Bool.and_eq_true_iff.1 chosen).1
  · rintro start rows before after (⟨_, rfl, _⟩ | ⟨row, seen, busy, _, marked⟩)
    · exact later_refl _
    · exact later_marked marked fun _ item =>
        ⟨rfl, rfl, rfl, rfl, rfl, item.status.stage_le, fading_refl _, fading_refl _⟩
  by_cases empty : rows.isEmpty = true
  · rw [if_pos empty]
    exact ensures_throw _
  rw [if_neg empty]
  have traced : (outreach site vouch op).Quiet (do
      Program.upsertRow Tables.decisionTraces none touch.touchId
        (fun _ => ⟨results, some touch.validatorCtx.claimRegistryVersion⟩)
        (fun _ _ => ⟨results, some touch.validatorCtx.claimRegistryVersion⟩)
      audit "touch" (toString touch.touchId) "claimed" [] "system:gatekeeper") :=
    quiet_bind (quiet_upsertRow Tables.decisionTraces (fun _ _ => rfl) _ _ _ _) fun _ =>
      quiet_audit _ _ _ _ _
  by_cases budgeted : touch.profile.budgeted = true
  · rw [if_pos budgeted]
    refine ((brings_takeSequence touch.entityId touch.touchId (locked budgeted)).ensures_before
      fun _ => traced).mono ?_
    rintro start _ middle after taken before (⟨rfl, _, _⟩ | ⟨item, seen, busy, _, marked⟩) owner found
    · exact absurd rfl empty
    · have drafted := of_decide_eq_true (Bool.and_eq_true_iff.1 marked.picked).2
      have present : middle.ledger.entities touch.entityId = some owner := by
        rw [marked.wrote]
        exact found budgeted
      refine ⟨item, marked.found, drafted, ⟨seen.ledger, marked.vouched _ rfl⟩, ?_⟩
      rw [if_pos budgeted]
      have wrote := taken owner present
      rw [show (outreach site vouch op).of middle = _ from marked.wrote] at wrote
      exact wrote
  · rw [if_neg budgeted]
    refine (ensures_quiet traced).mono ?_
    rintro start _ middle after same before (⟨rfl, _, _⟩ | ⟨item, seen, busy, _, marked⟩) owner _
    · exact absurd rfl empty
    · have drafted := of_decide_eq_true (Bool.and_eq_true_iff.1 marked.picked).2
      refine ⟨item, marked.found, drafted, ⟨seen.ledger, marked.vouched _ rfl⟩, ?_⟩
      rw [if_neg budgeted, same]
      exact marked.wrote

/-- A claim that fails has written no row that counts. -/
theorem raises_persistClaim :
    (outreach site vouch op).Raises held (persistClaim touch mailbox results)
      fun _ _ before after => after.ledger = before.ledger := by
  have traced : (outreach site vouch op).Sure (do
      Program.upsertRow Tables.decisionTraces none touch.touchId
        (fun _ => ⟨results, some touch.validatorCtx.claimRegistryVersion⟩)
        (fun _ _ => ⟨results, some touch.validatorCtx.claimRegistryVersion⟩)
      audit "touch" (toString touch.touchId) "claimed" [] "system:gatekeeper" : Prog Unit) :=
    sure_bind (sure_perform _ _) fun _ => sure_perform _ _
  unfold persistClaim
  refine raises_bind (ensures_setTouchStatus .claimed _ touch.touchId _ _ ?_) ?_
    (raises_perform _ _) fun rows => ?_
  · intro moment db id row chosen
    exact of_decide_eq_true (Bool.and_eq_true_iff.1 chosen).1
  · rintro start rows before after (⟨_, rfl, _⟩ | ⟨row, seen, busy, _, marked⟩)
    · exact later_refl _
    · exact later_marked marked fun _ item =>
        ⟨rfl, rfl, rfl, rfl, rfl, item.status.stage_le, fading_refl _, fading_refl _⟩
  by_cases empty : rows.isEmpty = true
  · rw [if_pos empty]
    refine raises_throw _ ?_
    rintro start middle before (⟨_, rfl, _⟩ | ⟨item, seen, busy, rfl, marked⟩)
    · rfl
    · cases empty
  · rw [if_neg empty]
    by_cases budgeted : touch.profile.budgeted = true
    · rw [if_pos budgeted]
      exact raises_of_sure (sure_bind (sure_perform _ _) fun _ => traced)
    · rw [if_neg budgeted]
      exact raises_of_sure traced

theorem takes_persistClaim :
    (outreach site vouch op).Takes (persistClaim touch mailbox results)
      fun _ => [RowLock.touch touch.touchId] := by
  intro a b _ exec
  unfold persistClaim at exec
  rw [Program.exec_bind_ok] at exec
  obtain ⟨rows, middle, early, late⟩ := exec
  have taken := takes_updateChecked Tables.touches _ _ _ _ a middle rows early
  have chosen := chosen_of_updateChecked Tables.touches _ _ _ _ early
  have further := (Program.exec_extends (Abstraction.rely_order _) late).held
  cases rows with
  | nil => cases late.1
  | cons entry rest =>
      obtain ⟨_, _, picked⟩ := chosen entry List.mem_cons_self
      have mine := of_decide_eq_true (Bool.and_eq_true_iff.1 picked).1
      refine List.cons_subset.2 ⟨?_, List.nil_subset _⟩
      rw [← mine]
      apply List.map_subset Prod.fst further
      apply taken
      exact List.mem_map_of_mem List.mem_cons_self

end Persist

section Claims

variable {platform : Platform} {touch : DraftTouch} {results : Payload}

/-- What the entity of a claimed touch was when it was locked. -/
def Eligible (touch : DraftTouch) (l : Ledger) (owner : Entity) : Prop :=
  match touch.profile with
  | .cold => l.entities touch.entityId = some owner ∧ owner.activeSequenceTouchId = none ∧
      owner.touches12mo < defaultAnnualTouchCap
  | .followup => l.entities touch.entityId = some owner ∧
      (∃ active item, owner.activeSequenceTouchId = some active ∧ l.touches active = some item ∧
        item.prospectId = touch.prospectId) ∧ owner.touches12mo < defaultAnnualTouchCap
  | .reply => True

theorem eligible_entity {l : Ledger} {owner : Entity} (eligible : Eligible touch l owner)
    (budgeted : touch.profile.budgeted = true) : l.entities touch.entityId = some owner := by
  unfold Eligible at eligible
  cases profile : touch.profile with
  | cold =>
      rw [profile] at eligible
      exact eligible.1
  | followup =>
      rw [profile] at eligible
      exact eligible.1
  | reply =>
      rw [profile] at budgeted
      cases budgeted

/-- What a claim commits: nothing where it refuses. -/
def Ruled (vouch : Mark → Ledger → Prop) (touch : DraftTouch) (start : Ledger)
    (result : ClaimResult) (before after : Ledger) : Prop :=
  match result with
  | .refused _ => after = before
  | .claimed _ => ∃ mailbox item owner, Eligible touch before owner ∧
      Persisted vouch touch mailbox start before after item owner

theorem brings_refuse (refusal : Refusal) :
    (outreach site vouch op).Brings held (do
      if touch.profile.budgeted then
        releaseBudget touch.tenant touch
      pure (ClaimResult.refused refusal))
      fun start result before after => Ruled vouch touch start result before after := by
  dsimp only
  split_ifs
  · exact brings_after (quiet_releaseBudget _ _) fun _ => brings_pure _ fun _ _ => rfl
  · exact brings_pure _ fun _ _ => rfl

theorem raises_refuse (refusal : Refusal) :
    (outreach site vouch op).Raises held (do
      if touch.profile.budgeted then
        releaseBudget touch.tenant touch
      pure (ClaimResult.refused refusal))
      fun _ _ before after => after.ledger = before.ledger := by
  dsimp only
  split_ifs
  · exact raises_quiet (quiet_bind (quiet_releaseBudget _ _) fun _ => quiet_pure _)
  · exact raises_pure _

theorem brings_capacityGates
    (locked : touch.profile.budgeted = true → RowLock.entity touch.entityId ∈ held) :
    (outreach site vouch op).Brings held (capacityGates (pgGateStore platform) touch results)
      fun start result before after => ∀ owner, Eligible touch before owner →
        Ruled vouch touch start result before after := by
  unfold capacityGates
  refine brings_after (quiet_pickMailbox _) fun picked => ?_
  cases picked with
  | none => exact (brings_refuse _).mono fun _ _ _ _ ruled _ _ => ruled
  | some mailbox =>
      dsimp only
      refine brings_after (quiet_confidenceSendable _ _) fun sendable => ?_
      cases sendable with
      | false => exact (brings_refuse _).mono fun _ _ _ _ ruled _ _ => ruled
      | true =>
          rw [if_pos rfl]
          refine (brings_map (brings_persistClaim locked) _).mono ?_
          rintro start _ before after ⟨_, rfl, persisted⟩ owner eligible
          obtain ⟨item, claimed⟩ := persisted owner fun budgeted =>
            eligible_entity eligible budgeted
          exact ⟨mailbox, item, owner, eligible, claimed⟩

theorem raises_capacityGates :
    (outreach site vouch op).Raises held (capacityGates (pgGateStore platform) touch results)
      fun _ _ before after => after.ledger = before.ledger := by
  unfold capacityGates
  refine raises_after (quiet_pickMailbox _) fun picked => ?_
  cases picked with
  | none => exact raises_refuse _
  | some mailbox =>
      dsimp only
      refine raises_after (quiet_confidenceSendable _ _) fun sendable => ?_
      cases sendable with
      | false => exact raises_refuse _
      | true =>
          rw [if_pos rfl]
          exact raises_map raises_persistClaim _

theorem brings_budgetGate
    (locked : touch.profile.budgeted = true → RowLock.entity touch.entityId ∈ held) :
    (outreach site vouch op).Brings held (budgetGate (pgGateStore platform) touch results)
      fun start result before after => ∀ owner, Eligible touch before owner →
        Ruled vouch touch start result before after := by
  unfold budgetGate
  refine brings_after (quiet_tryConsumeBudget _ _) fun consumed => ?_
  cases consumed with
  | false => exact brings_pure _ fun _ _ _ _ => rfl
  | true => exact brings_capacityGates locked

theorem raises_budgetGate :
    (outreach site vouch op).Raises held (budgetGate (pgGateStore platform) touch results)
      fun _ _ before after => after.ledger = before.ledger := by
  unfold budgetGate
  refine raises_after (quiet_tryConsumeBudget _ _) fun consumed => ?_
  cases consumed with
  | false => exact raises_pure _
  | true => exact raises_capacityGates

theorem brings_contactGates :
    (outreach site vouch op).Brings held (contactGates (pgGateStore platform) touch results)
      fun start result before after => Ruled vouch touch start result before after := by
  unfold contactGates
  refine brings_after (quiet_isSuppressed _ _ _) fun suppressed => ?_
  cases suppressed with
  | true => exact brings_pure _ fun _ _ => rfl
  | false =>
      dsimp only
      cases profile : touch.profile with
      | cold =>
          refine brings_taking (brings_frequencyOk touch.entityId).ensures ?_
            (takes_frequencyOk touch.entityId) fun passed => ?_
          · rintro start passed before after ⟨_, same⟩
            exact quiet_rely same
          cases passed with
          | false =>
              refine ensures_pure _ ?_
              rintro start view before ⟨_, same⟩
              exact same
          | true =>
              refine Ensures.mono (brings_budgetGate fun _ => by simp) ?_
              rintro start result middle after ruled before ⟨passed, same⟩
              obtain ⟨owner, found, free, below⟩ := passed rfl
              rw [same] at ruled
              refine ruled owner ?_
              unfold Eligible
              rw [profile]
              exact ⟨found, free, below⟩
      | followup =>
          refine brings_taking (brings_sequenceContinuationOk touch.entityId touch.prospectId).ensures
            ?_ (takes_sequenceContinuationOk touch.entityId touch.prospectId) fun passed => ?_
          · rintro start passed before after ⟨_, same⟩
            exact quiet_rely same
          cases passed with
          | false =>
              refine ensures_pure _ ?_
              rintro start view before ⟨_, same⟩
              exact same
          | true =>
              refine Ensures.mono (brings_budgetGate fun _ => by simp) ?_
              rintro start result middle after ruled before ⟨passed, same⟩
              obtain ⟨owner, active, item, found, holds, said, theirs, below⟩ := passed rfl
              rw [same] at ruled
              refine ruled owner ?_
              unfold Eligible
              rw [profile]
              exact ⟨found, ⟨active, item, holds, said, theirs⟩, below⟩
      | reply =>
          have unlocked : touch.profile.budgeted = true →
              RowLock.entity touch.entityId ∈ held := by
            rw [profile]
            exact nofun
          refine (brings_capacityGates unlocked).mono ?_
          intro start result before after ruled
          refine ruled { tenantId := touch.entityId, displayName := none } ?_
          unfold Eligible
          rw [profile]
          trivial

theorem raises_contactGates :
    (outreach site vouch op).Raises held (contactGates (pgGateStore platform) touch results)
      fun _ _ before after => after.ledger = before.ledger := by
  unfold contactGates
  refine raises_after (quiet_isSuppressed _ _ _) fun suppressed => ?_
  cases suppressed with
  | true => exact raises_pure _
  | false =>
      dsimp only
      cases touch.profile with
      | cold =>
          refine raises_after (quiet_frequencyOk _) fun passed => ?_
          cases passed with
          | false => exact raises_pure _
          | true => exact raises_budgetGate
      | followup =>
          refine raises_after (quiet_sequenceContinuationOk _ _) fun passed => ?_
          cases passed with
          | false => exact raises_pure _
          | true => exact raises_budgetGate
      | reply => exact raises_capacityGates

theorem brings_gates (runtime : Runtime) :
    (outreach site vouch op).Brings held (gates runtime (pgGateStore platform) touch)
      fun start result before after => Ruled vouch touch start result before after := by
  unfold gates
  refine brings_after (quiet_haltedScopes _) fun halted => ?_
  by_cases stopped : halted ≠ []
  · rw [if_pos stopped]
    exact brings_pure _ fun _ _ => rfl
  rw [if_neg stopped]
  by_cases altered : contentHash runtime.platform touch.draft ≠ touch.storedContentHash
  · rw [if_pos altered]
    exact brings_pure _ fun _ _ => rfl
  rw [if_neg altered]
  cases validate runtime touch.draft touch.validatorCtx with
  | error error => exact brings_throw error
  | ok findings =>
      dsimp only
      split_ifs
      · exact brings_pure _ fun _ _ => rfl
      · exact brings_pure _ fun _ _ => rfl
      · exact brings_contactGates

theorem raises_gates (runtime : Runtime) :
    (outreach site vouch op).Raises held (gates runtime (pgGateStore platform) touch)
      fun _ _ before after => after.ledger = before.ledger := by
  unfold gates
  refine raises_after (quiet_haltedScopes _) fun halted => ?_
  by_cases stopped : halted ≠ []
  · rw [if_pos stopped]
    exact raises_pure _
  rw [if_neg stopped]
  by_cases altered : contentHash runtime.platform touch.draft ≠ touch.storedContentHash
  · rw [if_pos altered]
    exact raises_pure _
  rw [if_neg altered]
  cases validate runtime touch.draft touch.validatorCtx with
  | error error => exact raises_throw error fun _ _ => rfl
  | ok findings =>
      dsimp only
      split_ifs
      · exact raises_pure _
      · exact raises_pure _
      · exact raises_contactGates

/-- A claim commits what it rules: an exception is a refusal too. -/
theorem brings_claim (runtime : Runtime) :
    (outreach site vouch op).Brings held (claim runtime (pgGateStore platform) touch)
      fun start result before after => Ruled vouch touch start result before after := by
  unfold claim
  refine ensures_handle (brings_gates runtime).ensures (raises_gates runtime)
    (fun _ _ _ _ same => quiet_rely same) fun error => ensures_pure _ ?_
  rintro start view before same
  exact same

/-- The rows that a claim has locked. -/
def locksOf (touch : DraftTouch) : ClaimResult → List RowLock
  | .claimed _ =>
      RowLock.touch touch.touchId ::
        if touch.profile.budgeted then [RowLock.entity touch.entityId] else []
  | .refused _ => []

theorem entity_locked {claimed : ClaimedTouch} (budgeted : touch.profile ≠ .reply) :
    RowLock.entity touch.entityId ∈ locksOf touch (.claimed claimed) := by
  have counted : touch.profile.budgeted = true := by
    cases profile : touch.profile <;> first | rfl | exact absurd profile budgeted
  simp [locksOf, counted]

theorem takes_frequency {a b : Point Database RowLock Mark Call}
    (frequency : FrequencyPassed (Program.observation (outreach site vouch op).rely)
      (pgGateStore platform) touch a b) (budgeted : touch.profile.budgeted = true) :
    RowLock.entity touch.entityId ∈ b.txn.held.map Prod.fst := by
  unfold FrequencyPassed at frequency
  cases profile : touch.profile with
  | cold =>
      rw [profile] at frequency
      exact takes_frequencyOk touch.entityId a b true frequency List.mem_cons_self
  | followup =>
      rw [profile] at frequency
      exact takes_sequenceContinuationOk touch.entityId touch.prospectId a b true frequency
        List.mem_cons_self
  | reply =>
      rw [profile] at budgeted
      cases budgeted

theorem takes_claim (runtime : Runtime) :
    (outreach site vouch op).Takes (claim runtime (pgGateStore platform) touch)
      (locksOf touch) := by
  intro a b result exec
  cases result with
  | refused refusal => exact List.nil_subset _
  | claimed claimed =>
      have passed : Passed (Program.observation (outreach site vouch op).rely) runtime
          (pgGateStore platform) touch a b claimed := claim_passed exec
      obtain ⟨_, _, contactable, funded, _, _, _, frequency, budget, capacity⟩ := passed
      obtain ⟨_, _, picked, confident, pick, confidence, persisted, _⟩ := capacity
      have claims := takes_persistClaim confident b () persisted
      refine List.cons_subset.2 ⟨claims List.mem_cons_self, ?_⟩
      by_cases budgeted : touch.profile.budgeted = true
      · rw [if_pos budgeted]
        refine List.cons_subset.2 ⟨?_, List.nil_subset _⟩
        have order := (outreach site vouch op).rely_order
        unfold BudgetPassed at budget
        rw [if_pos budgeted] at budget
        have funding := (Program.exec_extends order budget).held
        have picking := (Program.exec_extends order pick).held
        have trusting := (Program.exec_extends order confidence).held
        have writing := (Program.exec_extends order persisted).held
        have whole := List.Subset.trans (List.Subset.trans (List.Subset.trans funding picking) trusting) writing
        exact List.map_subset Prod.fst whole (takes_frequency frequency budgeted)
      · rw [if_neg budgeted]
        exact List.nil_subset _

end Claims

section Loading

/-- The draft that is claimed is of the touch, of its prospect and of its tenant. -/
structure Fits (touchId : Uuid) (draft : DraftTouch) (l : Ledger) (item : Touch)
    (lead : Prospect) : Prop where
  named : draft.touchId = touchId
  touch : l.touches touchId = some item
  prospect : l.prospects item.prospectId = some lead
  prospectId : draft.prospectId = item.prospectId
  entityId : draft.entityId = lead.entityId
  profile : draft.profile = profileOf item.kind
  step : draft.draft.stepIndex = item.stepIndex
  tenant : l.tenants lead.tenantId = some draft.tenant

theorem fits_later {touchId : Uuid} {draft : DraftTouch} {old new : Ledger} {item : Touch}
    {lead : Prospect} (fits : Fits touchId draft old item lead) (later : Later old new) :
    ∃ next person, Fits touchId draft new next person := by
  obtain ⟨next, touch, said⟩ := later.touches touchId item fits.touch
  obtain ⟨person, prospect, whose⟩ := later.prospects _ lead fits.prospect
  refine ⟨next, person, fits.named, touch, ?_, ?_, ?_, ?_, ?_, ?_⟩
  · rw [said.prospectId]
    exact prospect
  · rw [said.prospectId]
    exact fits.prospectId
  · rw [whose.entityId]
    exact fits.entityId
  · rw [said.kind]
    exact fits.profile
  · rw [said.stepIndex]
    exact fits.step
  · rw [later.tenants, whose.tenantId]
    exact fits.tenant

theorem brings_loadGateDraft (touchId : Uuid) (ctx : ValidatorContext) :
    (outreach site vouch op).Brings held (loadGateDraft touchId ctx)
      fun _ loaded before after =>
        (∀ draft, loaded = some draft → ∃ item lead, Fits touchId draft before item lead) ∧
        after = before := by
  unfold loadGateDraft
  refine brings_from (ensures_query _) ?_ fun row => ?_
  · rintro start row before after ⟨_, _, _, _, rfl⟩
    exact later_refl _
  cases row with
  | none =>
      refine ensures_pure _ ?_
      rintro start view before ⟨_, _, _, _, rfl⟩
      exact ⟨nofun, rfl⟩
  | some row =>
      obtain ⟨touch, prospect, slug⟩ := row
      dsimp only
      by_cases drafted : touch.status ≠ .drafted
      · rw [if_pos drafted]
        refine ensures_pure _ ?_
        rintro start view before ⟨_, _, _, _, rfl⟩
        exact ⟨nofun, rfl⟩
      rw [if_neg drafted]
      cases prospect.emailCanonical with
      | none => exact ensures_throw _
      | some email =>
          refine ensures_pure _ ?_
          rintro start view before ⟨seen, busy, glimpse, same, rfl⟩
          refine ⟨fun draft loaded => ?_, rfl⟩
          obtain rfl := Option.some.inj loaded
          unfold joinedTouch at same
          obtain ⟨item, there, rest⟩ := Option.bind_eq_some_iff.1 same.symm
          obtain ⟨lead, person, rest⟩ := Option.bind_eq_some_iff.1 rest
          obtain ⟨tenant, named, rest⟩ := Option.map_eq_some_iff.1 rest
          cases rest
          exact fits_later ⟨rfl, there, person, rfl, rfl, rfl, rfl, named⟩ glimpse.until_

end Loading

section Dispatch

variable {touchId : Uuid} {draft : DraftTouch}

/-- The touch is locked and is its prospect's. -/
theorem glimpse_fits {start before seen : Database} {item : Touch} {lead : Prospect}
    (glimpse : (outreach site vouch op).Glimpse held start before seen)
    (locked : RowLock.touch touchId ∈ held) (fits : Fits touchId draft before.ledger item lead) :
    ∃ person, seen.ledger.touches touchId = some item ∧
      seen.ledger.prospects item.prospectId = some person ∧ person.Later lead := by
  have same : seen.ledger.touches touchId = some item :=
    (glimpse.row Tables.touches locked).symm.trans fits.touch
  have linked := linked_later glimpse.sound glimpse.since
  obtain ⟨person, there⟩ := Option.isSome_iff_exists.1 (linked.prospectOf touchId item same)
  obtain ⟨next, found, step⟩ := glimpse.until_.prospects _ person there
  obtain rfl := Option.some.inj (found.symm.trans fits.prospect)
  exact ⟨person, same, there, step⟩

theorem brings_endSequence (prospectId : Uuid) (touchLocked : RowLock.touch touchId ∈ held)
    (entityLocked : RowLock.entity draft.entityId ∈ held) :
    (outreach site vouch op).Brings held (releaseSequence prospectId)
      fun _ _ before after => Later before after ∧ ∀ item lead owner,
        Fits touchId draft before item lead → item.prospectId = prospectId →
        before.entities lead.entityId = some owner →
        owner.activeSequenceTouchId = some touchId →
        after = before.setEntity lead.entityId { owner with activeSequenceTouchId := none } := by
  refine (ensures_releaseSequence prospectId).mono ?_
  rintro start _ before after (⟨same, seen, glimpse, spared⟩ | ⟨lead, owner, active, item, owns, wrote⟩)
  · change Later before.ledger after.ledger ∧ _
    rw [same]
    refine ⟨later_refl _, fun item lead owner fits theirs entity held => ?_⟩
    obtain ⟨person, said, there, step⟩ := glimpse_fits glimpse touchLocked fits
    have locked := glimpse.row Tables.entities entityLocked
    rw [fits.entityId] at locked
    have row : seen.ledger.entities lead.entityId = some owner := locked.symm.trans entity
    have bare := spared lead.entityId owner row
    have owned : ownsSequence seen prospectId lead.entityId owner = true := by
      unfold ownsSequence activeProspect
      rw [← theirs, held]
      have said : seen.touches.lookup touchId = some item := said
      have there : seen.prospects.lookup item.prospectId = some person := there
      simp [said, there, step.entityId]
    rw [owned] at bare
    cases bare
  · change Later before.ledger after.ledger ∧ _
    rw [wrote]
    refine ⟨later_released (.free lead owner active item owns), ?_⟩
    intro mine person other fits theirs entity held
    have whose : some person = some lead := by
      rw [← fits.prospect, theirs]
      exact owns.prospect
    obtain rfl := Option.some.inj whose
    obtain rfl := Option.some.inj (entity.symm.trans owns.entity)
    exact wrote

/-- The next step is planned for the touch that was sent. -/
theorem brings_planNextStep (prospectId : Uuid) (touchLocked : RowLock.touch touchId ∈ held)
    (entityLocked : draft.profile ≠ .reply → RowLock.entity draft.entityId ∈ held) :
    (outreach site vouch op).Brings held (planNextStep site prospectId draft)
      fun start _ before after => Later before after ∧ ∀ item lead,
        Fits touchId draft before item lead → item.prospectId = prospectId →
        (draft.profile ≠ .reply → ∃ owner, before.entities lead.entityId = some owner ∧
          owner.activeSequenceTouchId = some touchId) →
        Planned site start.clock item lead before after := by
  unfold planNextStep
  by_cases off : (site.sequences.isNone || draft.profile = .reply) = true
  · rw [if_pos off]
    refine brings_pure _ fun start before => ⟨later_refl _, fun item lead fits _ _ => .idle ?_⟩
    rcases Bool.or_eq_true_iff.1 off with none | reply
    · right
      unfold Ledger.sequence sequenceFor
      rw [Option.isNone_iff_eq_none.1 none, fits.tenant]
      rfl
    · left
      have profile := fits.profile.symm.trans (of_decide_eq_true reply)
      cases kind : item.kind <;> rw [kind] at profile <;> first | rfl | cases profile
  rw [if_neg off]
  have budgeted : draft.profile ≠ .reply := by
    intro reply
    rw [reply] at off
    simp at off
  have chosen : (outreach site vouch op).Brings held
      (Program.query fun _ db => (db.prospects.lookup prospectId).map Prospect.personaId :
        Prog (Option String))
      fun _ persona before after => (∀ item lead, Fits touchId draft before item lead →
        item.prospectId = prospectId → persona = some lead.personaId) ∧ after = before := by
    refine (ensures_query _).mono ?_
    rintro start persona before after ⟨seen, busy, glimpse, rfl, rfl⟩
    refine ⟨fun item lead fits theirs => ?_, rfl⟩
    obtain ⟨person, _, there, step⟩ := glimpse_fits glimpse touchLocked fits
    have there : seen.prospects.lookup item.prospectId = some person := there
    rw [← theirs, there, step.personaId]
    rfl
  refine brings_seen chosen fun persona => ?_
  have sequence : ∀ {l : Ledger} {item : Touch} {lead : Prospect},
      Fits touchId draft l item lead → persona = some lead.personaId →
        l.sequence site lead = sequenceFor site draft.tenant (persona.getD "None") := by
    intro l item lead fits same
    unfold Ledger.sequence
    rw [fits.tenant, same]
    rfl
  dsimp only
  have replies : ∀ {item : Touch}, draft.profile = profileOf item.kind →
      item.kind ≠ .agenticReply := by
    intro item profile reply
    rw [reply] at profile
    exact budgeted profile
  cases planned : sequenceFor site draft.tenant (persona.getD "None") with
  | none =>
      refine brings_pure _ fun start before seen => ⟨later_refl _, fun item lead fits theirs _ => ?_⟩
      exact .idle (Or.inr ((sequence fits (seen item lead fits theirs)).trans planned))
  | some spec =>
      dsimp only
      by_cases ended : spec.steps ≤ draft.draft.stepIndex + 1
      · rw [if_pos ended]
        refine (brings_map (brings_endSequence prospectId touchLocked (entityLocked budgeted)) fun _ =>
          ()).mono ?_
        rintro start _ before after ⟨_, _, later, ends⟩ seen
        refine ⟨later, fun item lead fits theirs held => ?_⟩
        obtain ⟨owner, entity, active⟩ := held budgeted
        rw [ends item lead owner fits theirs entity active]
        refine .last spec (replies fits.profile)
          ((sequence fits (seen item lead fits theirs)).trans planned) ?_ owner entity
        rw [← fits.step]
        exact ended
      · rw [if_neg ended]
        refine (brings_map (brings_enqueue _ _ _ _) fun _ => ()).mono ?_
        rintro start _ before after ⟨_, _, enqueued⟩ seen
        refine ⟨enqueued_later enqueued, fun item lead fits theirs _ => ?_⟩
        rw [← theirs, fits.step] at enqueued
        rw [fits.step] at ended
        exact .next spec (replies fits.profile)
          ((sequence fits (seen item lead fits theirs)).trans planned) (by omega) enqueued

/-- What a plan is about. -/
theorem planned_of_same {time : Time} {item next : Touch} {lead person : Prospect}
    {l after : Ledger} (planned : Planned site time next person l after) (said : item.Later next)
    (whose : lead.Later person) : Planned site time item lead l after := by
  have sequence : l.sequence site person = l.sequence site lead := by
    unfold Ledger.sequence
    rw [whose.tenantId, whose.personaId]
  cases planned with
  | idle none =>
      rw [said.kind, sequence] at none
      exact .idle none
  | last spec budgeted found ended owner present =>
      rw [said.kind] at budgeted
      rw [sequence] at found
      rw [said.stepIndex] at ended
      rw [whose.entityId] at present ⊢
      exact .last spec budgeted found ended owner present
  | next spec budgeted found more enqueued =>
      rw [said.kind] at budgeted
      rw [sequence] at found
      rw [said.stepIndex] at more
      rw [said.stepIndex, said.prospectId] at enqueued
      exact .next spec budgeted found more enqueued

/-- The touch once its message is out. -/
def Touch.sentOut (item : Touch) (time : Time) (ref : Payload) : Touch :=
  { item with status := .dispatched, sentAt := some time, providerRef := some ref }

theorem Touch.later_sentOut (item : Touch) (time : Time) (ref : Payload) :
    item.Later (item.sentOut time ref) :=
  ⟨rfl, rfl, rfl, rfl, rfl, item.status.stage_le, fading_refl _, fading_refl _⟩

/-- From the mark of the dispatch to the next step. -/
theorem brings_sentOut (prospectId : Uuid) (ref : Payload)
    (touchLocked : RowLock.touch touchId ∈ held)
    (entityLocked : draft.profile ≠ .reply → RowLock.entity draft.entityId ∈ held) :
    (outreach site vouch op).Brings held (do
      let _ ← setTouchStatus .dispatched none (fun _ _ id _ => id = touchId)
        fun moment row => { row with
          sentAt := some moment.start.clock, providerRef := some ref }
      planNextStep site prospectId draft)
      fun start _ before after => Later before after ∧ ∀ item lead,
        Fits touchId draft before item lead → item.prospectId = prospectId →
        (draft.profile ≠ .reply → ∃ owner, before.entities lead.entityId = some owner ∧
          owner.activeSequenceTouchId = some touchId) →
        Planned site start.clock item lead
          (before.setTouch touchId (item.sentOut start.clock ref)) after := by
  have marks : (outreach site vouch op).Brings held
      (setTouchStatus .dispatched none (fun _ _ id _ => id = touchId)
        fun moment row => { row with
          sentAt := some moment.start.clock, providerRef := some ref })
      fun start _ before after => Later before after ∧ ∀ item lead,
        Fits touchId draft before item lead →
          after = before.setTouch touchId (item.sentOut start.clock ref) := by
    refine (ensures_setTouchStatus .dispatched none touchId _ _ fun _ _ _ _ =>
      of_decide_eq_true).mono ?_
    rintro start rows before after (⟨_, rfl, seen, busy, glimpse, spared⟩ | ⟨row, seen, busy, _, marked⟩)
    · refine ⟨later_refl _, fun item lead fits => ?_⟩
      obtain ⟨_, there, _⟩ := glimpse_fits glimpse touchLocked fits
      exact absurd (spared item there) (by simp)
    · change Later before.ledger after.ledger ∧ _
      refine ⟨later_marked marked fun moment row => row.later_sentOut _ _, ?_⟩
      intro item lead fits
      obtain rfl := Option.some.inj (fits.touch.symm.trans marked.found)
      exact marked.wrote
  refine brings_bind marks (fun _ _ _ _ marked => marked.1) fun _ => ?_
  refine (brings_planNextStep prospectId touchLocked entityLocked).mono ?_
  rintro start _ middle after ⟨later, plan⟩ before ⟨early, marked⟩
  refine ⟨later_trans early later, fun item lead fits theirs held => ?_⟩
  obtain rfl := marked item lead fits
  have next : Fits touchId draft (before.setTouch touchId (item.sentOut start.clock ref))
      (item.sentOut start.clock ref) lead :=
    { fits with touch := Function.update_self _ _ _ }
  exact planned_of_same (plan _ lead next theirs held) (item.later_sentOut _ _) lead.later_refl

/-- A dispatched touch, and its prospect where that counts as contacted. -/
def Ledger.sentOut (l : Ledger) (time : Time) (touchId : Uuid) (item : Touch) (lead : Prospect)
    (met : Bool) (ref : Payload) : Ledger :=
  { l with
    touches := Function.update l.touches touchId (some (item.sentOut time ref))
    prospects := if met then
      Function.update l.prospects item.prospectId (some { lead with state := .contacted })
      else l.prospects }

/-- What the dispatch of a claimed touch commits. -/
def SentOut (site : Deployment) (touchId : Uuid) (draft : DraftTouch) (ref : Payload)
    (start before after : Ledger) : Prop :=
  Later before after ∧ ∀ item lead, Fits touchId draft before item lead →
    (draft.profile ≠ .reply → ∃ owner, before.entities lead.entityId = some owner ∧
      owner.activeSequenceTouchId = some touchId) →
    ∃ met : Bool, (met = true → lead.state = .queued) ∧ Planned site start.clock item lead
      (before.sentOut start.clock touchId item lead met ref) after

/-- The touch is read as it is: it is locked. -/
theorem ensures_readTouch (draft : DraftTouch) (touchLocked : RowLock.touch touchId ∈ held) :
    (outreach site vouch op).Ensures held
      (Program.query fun _ db => db.touches.lookup touchId : Prog (Option Touch))
      fun _ row before after => (∀ item lead, Fits touchId draft before.ledger item lead →
        row = some item) ∧ after = before := by
  refine (ensures_query _).mono ?_
  rintro start row before after ⟨seen, busy, glimpse, rfl, rfl⟩
  refine ⟨fun item lead fits => ?_, rfl⟩
  obtain ⟨_, there, _⟩ := glimpse_fits glimpse touchLocked fits
  exact there

/-- What `dispatch` does once the trial of the variant is counted. -/
def dispatchRow (site : Deployment) (touchId : Uuid) (draft : DraftTouch) (ref : Payload) :
    Prog Unit := do
  let row ← Program.query fun _ db => db.touches.lookup touchId
  match row with
  | none => pure ()
  | some row =>
      let prospectId := row.prospectId
      let current ← Program.query fun _ db => (db.prospects.lookup prospectId).map Prospect.state
      if current = some .queued then
        transition prospectId .contacted "system:deliver"
      let _ ← setTouchStatus .dispatched none (fun _ _ id _ => id = touchId)
        fun moment row => { row with sentAt := some moment.start.clock, providerRef := some ref }
      planNextStep site prospectId draft

theorem ensures_dispatchRow (ref : Payload) (touchLocked : RowLock.touch touchId ∈ held)
    (entityLocked : draft.profile ≠ .reply → RowLock.entity draft.entityId ∈ held) :
    (outreach site vouch op).Ensures held (dispatchRow site touchId draft ref)
      fun start _ before after =>
        SentOut site touchId draft ref start.ledger before.ledger after.ledger ∧
          Unscored before after := by
  have ordinary : Ordinary (unscored.discipline : Conduct).allowed := ordinary_unscored
  have moves := unscored_moves "system:deliver"
  unfold dispatchRow
  refine Unscored.ensures ?inside (Brings.ensures (?sends :
    (outreach site vouch op).Brings held _ fun start _ before after =>
      SentOut site touchId draft ref start before after))
  case inside =>
    refine keeps_bind (keeps_within (Program.within_query _)) fun row => ?_
    cases row with
    | none => exact keeps_pure _
    | some row =>
        have alive : ProspectState.contacted ≠ .forgotten := by decide
        have rest : ∀ change, (unscored.discipline : Conduct).keeps (do
            let _ ← setTouchStatus .dispatched none (fun _ _ id _ => id = touchId) change
            planNextStep site row.prospectId draft : Prog Unit) := fun change =>
          keeps_within (Program.within_bind
            (ordinary.within_setTouchStatus _ _ _ (Allowance.marks_none _))
            fun _ => ordinary.within_planNextStep _ _)
        refine keeps_bind (keeps_within (Program.within_query _)) fun current => ?_
        dsimp only
        by_cases queued : current = some .queued
        · rw [if_pos queued]
          exact keeps_bind (moves _ _ _ alive) fun _ => rest _
        · rw [if_neg queued]
          exact rest _
  have read : (outreach site vouch op).Brings held
      (Program.query fun _ db => db.touches.lookup touchId : Prog (Option Touch))
      fun _ row before after => (∀ item lead, Fits touchId draft before item lead →
        row = some item) ∧ after = before := by
    refine (ensures_readTouch draft touchLocked).mono ?_
    intro start row before after ⟨reads, same⟩
    exact ⟨reads, congrArg Database.ledger same⟩
  refine brings_seen read fun row => ?_
  cases row with
  | none =>
      refine brings_pure _ fun start before seen => ⟨later_refl _, fun item lead fits _ => ?_⟩
      cases seen item lead fits
  | some row =>
      dsimp only
      refine brings_after (quiet_query _) fun current => ?_
      by_cases queued : current = some .queued
      · rw [if_pos queued]
        refine brings_bind (brings_transition _ _) (fun _ _ _ _ => later_moved) fun _ => ?_
        refine (brings_sentOut row.prospectId ref touchLocked entityLocked).mono ?_
        rintro start _ middle after ⟨later, plan⟩ before moved seen
        refine ⟨later_trans (later_moved moved) later, fun item lead fits held => ?_⟩
        obtain rfl := Option.some.inj (seen item lead fits)
        obtain ⟨other, found, edge, rfl⟩ := moved
        obtain rfl := Option.some.inj (found.symm.trans fits.prospect)
        refine ⟨true, fun _ => ?_, ?_⟩
        · revert edge
          cases other.state <;> first | (intro; rfl) | exact fun edge => absurd edge (by decide)
        · have next : Fits touchId draft
              (before.setProspect row.prospectId { other with state := .contacted }) row
              { other with state := .contacted } :=
            { fits with prospect := Function.update_self _ _ _ }
          exact planned_of_same (plan row _ next rfl held) row.later_refl
            (Prospect.later_edge edge)
      · rw [if_neg queued]
        refine (brings_sentOut row.prospectId ref touchLocked entityLocked).mono ?_
        rintro start _ before after ⟨later, plan⟩ seen
        refine ⟨later, fun item lead fits held => ?_⟩
        obtain rfl := Option.some.inj (seen item lead fits)
        have unmoved : false = true → lead.state = .queued := fun moved => by cases moved
        exact ⟨false, unmoved, plan row lead fits rfl held⟩

/-- The variant of the touch has one more trial. -/
def Tried (touchId : Uuid) (draft : DraftTouch) (before after : Database) : Prop :=
  ∀ item lead, Fits touchId draft before.ledger item lead →
    after.variantStats = counted VariantStats.tried
      ((nonEmpty item.variantId).map fun variantId => (draft.tenant, variantId))
      before.variantStats

theorem ensures_dispatch (ref : Payload) (touchLocked : RowLock.touch touchId ∈ held)
    (entityLocked : draft.profile ≠ .reply → RowLock.entity draft.entityId ∈ held) :
    (outreach site vouch op).Ensures held (dispatch site touchId draft ref)
      fun start _ before after =>
        SentOut site touchId draft ref start.ledger before.ledger after.ledger ∧
          Tried touchId draft before after := by
  unfold dispatch
  refine ensures_bind (ensures_readTouch draft touchLocked) ?_ fun touch => ?_
  · rintro start touch before after ⟨_, rfl⟩
    exact later_refl _
  have untried : nonEmpty (touch.bind Touch.variantId) = none →
      ∀ start before after, SentOut site touchId draft ref start before.ledger after.ledger ∧
        Unscored before after → (∀ item lead, Fits touchId draft before.ledger item lead →
          touch = some item) → SentOut site touchId draft ref start before.ledger after.ledger ∧
            Tried touchId draft before after := by
    intro none start before after ⟨sent, stats⟩ reads
    refine ⟨sent, fun item lead fits => ?_⟩
    rw [reads item lead fits, Option.bind_some] at none
    rw [none]
    exact stats
  dsimp only
  split
  · next variantId named =>
      by_cases some_ : variantId ≠ ""
      · rw [if_pos some_]
        refine ensures_bind (ensures_countUp _ _ _) ?_ fun _ =>
          (ensures_dispatchRow ref touchLocked entityLocked).mono ?_
        · rintro start _ before after rfl
          exact later_refl _
        rintro start _ middle after ⟨sent, stats⟩ last rfl before ⟨reads, rfl⟩
        refine ⟨sent, fun item lead fits => ?_⟩
        rw [reads item lead fits, Option.bind_some] at named
        have full : nonEmpty item.variantId = some variantId := by
          rw [named]
          simp [nonEmpty, some_]
        rw [full]
        exact stats
      · rw [if_neg some_]
        refine (ensures_dispatchRow ref touchLocked entityLocked).mono ?_
        rintro start _ middle after kept before ⟨reads, rfl⟩
        refine untried ?_ _ _ _ kept reads
        rw [named]
        simp [nonEmpty, not_not.1 some_]
  · next named =>
      refine (ensures_dispatchRow ref touchLocked entityLocked).mono ?_
      rintro start _ middle after kept before ⟨reads, rfl⟩
      refine untried ?_ _ _ _ kept reads
      rw [named]
      rfl

theorem brings_dispatch (ref : Payload) (touchLocked : RowLock.touch touchId ∈ held)
    (entityLocked : draft.profile ≠ .reply → RowLock.entity draft.entityId ∈ held) :
    (outreach site vouch op).Brings held (dispatch site touchId draft ref)
      fun start _ before after => SentOut site touchId draft ref start before after :=
  (ensures_dispatch ref touchLocked entityLocked).mono fun _ _ _ _ sent => sent.1

end Dispatch

section Deliver

variable {touchId : Uuid}

/-- The touch is past its delivery. -/
def Ledger.past (l : Ledger) (touchId : Uuid) : Prop :=
  ∃ item, l.touches touchId = some item ∧ item.status.stage = 2

theorem past_later {old new : Ledger} (past : old.past touchId) (later : Later old new) :
    new.past touchId := by
  obtain ⟨item, found, stage⟩ := past
  obtain ⟨next, kept, moved⟩ := later.touches touchId item found
  have least := moved.stage
  have most := next.status.stage_le
  exact ⟨next, kept, by omega⟩

theorem past_set (l : Ledger) {item : Touch} (stage : item.status.stage = 2) :
    (l.setTouch touchId item).past touchId :=
  ⟨item, Function.update_self touchId _ _, stage⟩

/-- How a handled delivery ends: the touch is past it, if it was there to begin with. -/
def Handled (site : Deployment) (vouch : Mark → Ledger → Prop) (op : Op) (touchId : Uuid)
    (start before after : Ledger) : Prop :=
  Relation.ReflTransGen (Deed site vouch op start) before after ∧
    (start.touches touchId ≠ none → after.past touchId)

theorem ensures_deliveryStatus :
    (outreach site vouch op).Ensures held
      (Program.query fun _ db => (db.touches.lookup touchId).map Touch.status :
        Prog (Option TouchStatus))
      fun _ status before after =>
        (status = some .dispatched ∨ status = some .sent → before.ledger.past touchId) ∧
          after = before := by
  refine (ensures_query _).mono ?_
  rintro start status before after ⟨seen, busy, glimpse, rfl, rfl⟩
  refine ⟨fun ended => past_later ?_ glimpse.until_, rfl⟩
  have found : ∃ item, seen.touches.lookup touchId = some item ∧ item.status.stage = 2 := by
    rcases ended with out | out
    · obtain ⟨item, found, status⟩ := Option.map_eq_some_iff.1 out
      exact ⟨item, found, by rw [status]; rfl⟩
    · obtain ⟨item, found, status⟩ := Option.map_eq_some_iff.1 out
      exact ⟨item, found, by rw [status]; rfl⟩
  exact found

theorem brings_releaseRefused (refusal : Refusal) (which : op.delivers touchId) :
    (outreach site vouch op).Brings held (releaseRefused touchId refusal)
      fun start _ before after => Handled site vouch op touchId start before after ∧
        Unsent touchId before after := by
  have set : (outreach site vouch op).Brings held
      (setTouchStatus .released (some (.terminalRefusal touchId)) fun _ _ id _ => id = touchId :
        Prog (List (Uuid × Touch)))
      fun start _ before after => Handled site vouch op touchId start before after ∧
        Unsent touchId before after := by
    refine (ensures_setTouchStatus .released _ touchId _ _ fun _ _ _ _ => of_decide_eq_true).mono ?_
    rintro start rows before after (⟨_, rfl, seen, busy, glimpse, none⟩ | ⟨row, seen, busy, _, marked⟩)
    · refine ⟨⟨Relation.ReflTransGen.refl, fun there => ?_⟩, fun item found out => ⟨item, found, out⟩⟩
      obtain ⟨item, found⟩ := Option.ne_none_iff_exists'.1 there
      obtain ⟨next, kept, _⟩ := glimpse.since.touches touchId item found
      have missed := none next kept
      rw [decide_eq_true rfl] at missed
      cases missed
    · have wrote : (outreach site vouch op).of after = _ := marked.wrote
      rw [wrote]
      refine ⟨⟨.single (.refuse touchId row which marked.found
        ⟨seen.ledger, marked.vouched _ rfl, marked.same.trans marked.found.symm⟩), fun _ => ?_⟩, ?_⟩
      · exact past_set _ rfl
      · intro item found out
        have same : some item = some { row with status := .released } :=
          found.symm.trans (Function.update_self touchId _ _)
        obtain rfl := Option.some.inj same
        exact ⟨row, marked.found, out⟩
  unfold releaseRefused
  exact brings_before set fun _ => quiet_audit _ _ _ _ _

theorem admits_of_eligible {draft : DraftTouch} {l : Ledger} {item : Touch} {lead : Prospect}
    {owner : Entity} (fits : Fits touchId draft l item lead) (eligible : Eligible draft l owner) :
    l.admits item lead owner := by
  unfold Eligible at eligible
  rw [fits.profile, fits.entityId, fits.prospectId] at eligible
  unfold Ledger.admits
  cases profile : profileOf item.kind with
  | cold =>
      rw [profile] at eligible
      exact eligible
  | followup =>
      rw [profile] at eligible
      exact eligible
  | reply => trivial

theorem dispatched_of_persisted {draft : DraftTouch} {start before middle : Ledger} {item : Touch}
    {lead : Prospect} {owner : Entity} {mailbox : String} (fits : Fits touchId draft before item lead)
    (persisted : Persisted vouch draft mailbox start before middle item owner) (met : Bool)
    (ref : Payload) :
    middle.sentOut start.clock touchId { item with
      status := .claimed, claimedAt := some start.clock, mailbox := some mailbox } lead met ref =
      before.dispatched start.clock touchId item lead owner met mailbox ref := by
  have budgeted : item.kind.budgeted = draft.profile.budgeted := by
    rw [fits.profile]
    rfl
  rw [persisted.wrote]
  unfold Ledger.sentOut Ledger.dispatched
  rw [budgeted, fits.named, fits.entityId]
  simp only [Function.update_idem]
  rfl

/-- The draft fits the touch that it has claimed. -/
theorem fits_claimed {draft : DraftTouch} {start before middle : Ledger} {item : Touch}
    {lead : Prospect} {owner : Entity} {mailbox : String} (fits : Fits touchId draft before item lead)
    (persisted : Persisted vouch draft mailbox start before middle item owner) :
    Fits touchId draft middle { item with
      status := .claimed, claimedAt := some start.clock, mailbox := some mailbox } lead := by
  rw [persisted.wrote]
  refine { fits with touch := ?_ }
  rw [fits.named]
  exact Function.update_self _ _ _

/-- A claim and its dispatch are one deed. -/
theorem sent_of_ruled {draft : DraftTouch} {ref : Payload} {start before middle after : Ledger}
    {claimed : ClaimedTouch} {touch : Touch} {lead : Prospect} (which : op.delivers touchId)
    (fits : Fits touchId draft before touch lead)
    (ruled : Ruled vouch draft start (.claimed claimed) before middle)
    (sent : SentOut site touchId draft ref start middle after) :
    ∃ owner met mailbox, Sendable op before touchId touch lead owner ∧
      (met = true → lead.state = .queued) ∧
      (∃ seen : Ledger, vouch (.persistClaim touchId) seen) ∧
      Planned site start.clock touch lead
        (before.dispatched start.clock touchId touch lead owner met mailbox ref) after ∧
      Fits touchId draft middle { touch with
        status := .claimed, claimedAt := some start.clock, mailbox := some mailbox } lead := by
  obtain ⟨mailbox, item, owner, eligible, persisted⟩ := ruled
  have found := persisted.found
  rw [fits.named] at found
  obtain rfl := Option.some.inj (fits.touch.symm.trans found)
  have claims := fits_claimed fits persisted
  have holds : draft.profile ≠ .reply → ∃ owner, middle.entities lead.entityId = some owner ∧
      owner.activeSequenceTouchId = some touchId := by
    intro budgeted
    have counted : draft.profile.budgeted = true := by
      cases profile : draft.profile <;> first | rfl | exact absurd profile budgeted
    refine ⟨owner.claimed start.clock draft.touchId, ?_, congrArg some fits.named⟩
    rw [persisted.wrote]
    dsimp only
    rw [if_pos counted, fits.entityId]
    exact Function.update_self _ _ _
  obtain ⟨met, queued, planned⟩ := sent.2 _ lead claims holds
  rw [dispatched_of_persisted fits persisted met ref] at planned
  have plan : Planned site start.clock touch lead _ after :=
    planned_of_same planned ⟨rfl, rfl, rfl, rfl, rfl, touch.status.stage_le, fading_refl _,
      fading_refl _⟩ lead.later_refl
  have vouched := persisted.vouched
  rw [fits.named] at vouched
  exact ⟨owner, met, mailbox,
    ⟨which, fits.touch, persisted.drafted, fits.prospect, admits_of_eligible fits eligible⟩,
    queued, vouched, plan, claims⟩

theorem later_ruled {draft : DraftTouch} {start before after : Ledger} {result : ClaimResult}
    (ruled : Ruled vouch draft start result before after) : Later before after := by
  cases result with
  | refused refusal =>
      rw [show after = before from ruled]
      exact later_refl _
  | claimed claimed =>
      obtain ⟨mailbox, item, owner, eligible, persisted⟩ := ruled
      have touch := later_move_touch persisted.found (show item.Later { item with
          status := .claimed, claimedAt := some start.clock, mailbox := some mailbox } from
        ⟨rfl, rfl, rfl, rfl, rfl, item.status.stage_le, fading_refl _, fading_refl _⟩)
      rw [persisted.wrote]
      by_cases budgeted : draft.profile.budgeted = true
      · rw [if_pos budgeted]
        have step : owner.Later (owner.claimed start.clock draft.touchId) :=
          ⟨rfl, Nat.le_succ _, id, id⟩
        have entity := eligible_entity eligible budgeted
        refine later_trans touch (later_set_entity (kept_some ?_ step))
        exact entity
      · rw [if_neg budgeted]
        exact touch

/-- What a delivery does, to the ledger and to the statistics. -/
def Handles (site : Deployment) (vouch : Mark → Ledger → Prop) (op : Op) (touchId : Uuid)
    (start before after : Database) : Prop :=
  Handled site vouch op touchId start.ledger before.ledger after.ledger ∧
    Delivered touchId before after

/-- A delivery is of the touches and of the statistics that it finds. -/
theorem handles_before {start last before after : Database} (level : before.ledger = last.ledger)
    (same : Unscored last before) (handles : Handles site vouch op touchId start before after) :
    Handles site vouch op touchId start last after := by
  obtain ⟨handled, delivered⟩ := handles
  rw [level] at handled
  refine ⟨handled, ?_⟩
  cases delivered with
  | unsent stats kept =>
      rw [level] at kept
      exact .unsent (unscored_timeline.trans same stats) kept
  | sent item next touch drafted found status out stats =>
      rw [level] at touch stats
      rw [same] at stats
      exact .sent item next touch drafted found status out stats

theorem handles_of_sent {draft : DraftTouch} {ref : Payload} {start before middle after : Database}
    {claimed : ClaimedTouch} (which : op.delivers touchId)
    (fits : ∃ item lead, Fits touchId draft before.ledger item lead)
    (ruled : Ruled vouch draft start.ledger (.claimed claimed) before.ledger middle.ledger)
    (same : Unscored before middle)
    (sent : SentOut site touchId draft ref start.ledger middle.ledger after.ledger)
    (tried : Tried touchId draft middle after) :
    Handles site vouch op touchId start before after := by
  obtain ⟨item, lead, fits⟩ := fits
  obtain ⟨owner, met, mailbox, sendable, queued, vouched, planned, claims⟩ :=
    sent_of_ruled which fits ruled sent
  obtain ⟨_, _, _, frame⟩ := planned_frame planned
  have found : after.ledger.touches touchId = some { item with
      status := .dispatched, claimedAt := some start.clock, mailbox := some mailbox
      sentAt := some start.clock, providerRef := some ref } := by
    rw [frame]
    exact Function.update_self touchId _ _
  constructor
  · refine ⟨.single (.send touchId item lead owner met mailbox ref sendable queued vouched planned),
      fun _ => ⟨_, found, rfl⟩⟩
  · refine .sent item _ fits.touch sendable.drafted found rfl rfl ?_
    rw [tried _ lead claims, same, counts_of_touch fits.touch fits.prospect fits.tenant]

/-- What `deliver` does once it knows that the touch is drafted and whose it is. -/
def deliverLoaded (site : Deployment) (touchId : Uuid) (ctx : ValidatorContext) : Prog Unit := do
  match ← loadGateDraft touchId ctx with
  | none => raise .permanentJobError "touch not loadable as drafted"
  | some gateDraft =>
      match ← claim site.runtime (pgGateStore site.platform) gateDraft with
      | .refused refusal =>
          if refusal.terminal then
            releaseRefused touchId refusal
          else
            raise .runtimeError ("retryable refusal: " ++ refusal.reason.text)
      | .claimed touch =>
          let providerRef ← site.provider.send touch gateDraft.draft.subject gateDraft.draft.body
          dispatch site touchId gateDraft providerRef

theorem ensures_deliver (which : op.delivers touchId) :
    (outreach site vouch op).Ensures held (deliver site touchId) fun start _ before after =>
      Handles site vouch op touchId start before after := by
  unfold deliver
  refine ensures_bind ensures_deliveryStatus ?_ fun status => ?_
  · rintro start status before after ⟨_, rfl⟩
    exact later_refl _
  by_cases ended : status = some .dispatched ∨ status = some .sent
  · rw [if_pos ended]
    refine ensures_pure _ ?_
    rintro start view before ⟨past, rfl⟩
    exact ⟨⟨Relation.ReflTransGen.refl, fun _ => past ended⟩,
      .unsent rfl fun item found out => ⟨item, found, out⟩⟩
  rw [if_neg ended]
  by_cases drafted : status ≠ some .drafted
  · rw [if_pos drafted]
    exact ensures_throw _
  rw [if_neg drafted]
  refine ensures_bind (ensures_query _) ?_ fun tenant => ?_
  · rintro start tenant before after ⟨_, _, _, _, rfl⟩
    exact later_refl _
  split
  · exact ensures_throw _
  · next ctx _ =>
      have loads : (outreach site vouch op).Ensures held (deliverLoaded site touchId ctx)
          fun start _ before after => Handles site vouch op touchId start before after := by
        unfold deliverLoaded
        refine ensures_bind (Unscored.ensures ?_ (brings_loadGateDraft touchId ctx).ensures) ?_
          fun loaded => ?_
        · exact keeps_within (Ordinary.within_loadGateDraft _ _)
        · rintro start loaded before after ⟨⟨_, same⟩, _⟩
          exact quiet_rely same
        cases loaded with
        | none => exact ensures_throw _
        | some draft =>
            dsimp only
            refine ensures_bind_taking (Unscored.ensures ?_ (brings_claim site.runtime).ensures) ?_
              (takes_claim site.runtime) fun result => ?_
            · exact keeps_within (Ordinary.within_claim (ordinary_unscored.gated _) _ _)
            · exact fun start result before after ruled => later_ruled ruled.1
            cases result with
            | refused refusal =>
                dsimp only
                split_ifs
                · refine (Unscored.ensures (keeps_within ?_)
                    (brings_releaseRefused refusal which).ensures).mono ?_
                  · exact ordinary_unscored.within_releaseRefused _ _
                  rintro start _ middle after ⟨⟨handled, unsent⟩, stats⟩ before ⟨ruled, same⟩ last
                    ⟨⟨_, level⟩, equal⟩
                  exact handles_before level equal
                    (handles_before ruled same ⟨handled, .unsent stats unsent⟩)
                · exact ensures_throw _
            | claimed claimed =>
                by_cases named : draft.touchId = touchId
                · have touchLocked : RowLock.touch touchId ∈
                      held ++ locksOf draft (.claimed claimed) := by
                    rw [← named]
                    exact List.mem_append_right _ List.mem_cons_self
                  have entityLocked : draft.profile ≠ .reply →
                      RowLock.entity draft.entityId ∈ held ++ locksOf draft (.claimed claimed) :=
                    fun budgeted => List.mem_append_right _ (entity_locked budgeted)
                  refine ensures_bind (Unscored.ensures (keeps_within ?_)
                    (ensures_quiet (quiet_send _ _ _ _))) ?_ fun ref => ?_
                  · exact Ordinary.within_send _ _ _ _
                  · exact fun start ref before after sent => quiet_rely sent.1
                  refine (ensures_dispatch ref touchLocked entityLocked).mono ?_
                  rintro start _ middle after ⟨sent, tried⟩ second ⟨quiet, still⟩ before
                    ⟨ruled, same⟩ last ⟨⟨loaded, level⟩, equal⟩
                  have first : middle.ledger = second.ledger := quiet
                  have rules : Ruled vouch draft start.ledger (.claimed claimed) before.ledger
                      middle.ledger := by
                    rw [first]
                    exact ruled
                  refine handles_before level equal (handles_of_sent which ?_ rules
                    (unscored_timeline.trans same still) sent tried)
                  rw [show before.ledger = last.ledger from level]
                  exact loaded draft rfl
                · intro _ _ _ _ _ _ _ _ _ before _ last ⟨⟨loaded, _⟩, _⟩
                  obtain ⟨_, _, fits⟩ := loaded draft rfl
                  exact absurd fits.named named
      refine loads.mono ?_
      rintro start _ middle after handles before ⟨_, _, _, _, rfl⟩ last ⟨_, rfl⟩
      exact handles

theorem brings_deliver (which : op.delivers touchId) :
    (outreach site vouch op).Brings held (deliver site touchId) fun start _ before after =>
      Handled site vouch op touchId start before after :=
  (ensures_deliver which).mono fun _ _ _ _ handles => handles.1

theorem follows_deliver (which : op.delivers touchId) :
    (outreach site vouch op).Follows held (deliver site touchId) :=
  (brings_deliver which).mono fun _ _ _ _ handled => handled.1

end Deliver

end OpenReachout
