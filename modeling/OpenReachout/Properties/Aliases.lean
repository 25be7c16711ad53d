import OpenReachout.Properties.Screening

/-!
# Suppression covers aliases, and nothing else

Suppressing or forgetting one form of an address stops every form of it, at every reader.
Suppressing it changes nothing for an address that is no alias of it.
-/

namespace OpenReachout

open Relational Relational.Program Text

set_option autoImplicit false

section Elsewhere

variable {touchId : Uuid} {email : String}

/-- The states differ in jobs and in suppressions of other addresses at most, and the touch
is one of a prospect with the address. -/
structure Elsewhere (touchId : Uuid) (email : String) (first second : Database) : Prop where
  tables : ∃ suppressions jobs index, second = { first with
    suppressions := suppressions, jobs := jobs, jobIndex := index }
  held : ∀ scope, second.suppressions.lookup (email, scope) =
    first.suppressions.lookup (email, scope)
  owner : ∃ row prospect, first.touches.lookup touchId = some row ∧
    first.prospects.lookup row.prospectId = some prospect ∧ prospect.emailCanonical = some email

theorem shared_entities : Shared (Elsewhere touchId email) Tables.entities where
  same := by
    rintro first second ⟨⟨_, _, _, rfl⟩, _, _⟩
    rfl
  kept := by
    rintro first second table ⟨⟨suppressions, jobs, index, rfl⟩, held, owner⟩
    exact ⟨⟨suppressions, jobs, index, rfl⟩, held, owner⟩

theorem shared_counters : Shared (Elsewhere touchId email) Tables.counters where
  same := by
    rintro first second ⟨⟨_, _, _, rfl⟩, _, _⟩
    rfl
  kept := by
    rintro first second table ⟨⟨suppressions, jobs, index, rfl⟩, held, owner⟩
    exact ⟨⟨suppressions, jobs, index, rfl⟩, held, owner⟩

theorem shared_decisionTraces : Shared (Elsewhere touchId email) Tables.decisionTraces where
  same := by
    rintro first second ⟨⟨_, _, _, rfl⟩, _, _⟩
    rfl
  kept := by
    rintro first second table ⟨⟨suppressions, jobs, index, rfl⟩, held, owner⟩
    exact ⟨⟨suppressions, jobs, index, rfl⟩, held, owner⟩

theorem agrees_audit (subjectType subjectId event : String) (payload : Payload) (actor : String) :
    Agrees (Elsewhere touchId email) (audit subjectType subjectId event payload actor) := by
  apply agrees_appendRow
  rintro first second row ⟨⟨suppressions, jobs, index, rfl⟩, held, owner⟩
  exact ⟨⟨suppressions, jobs, index, rfl⟩, held, owner⟩

theorem heldUnder_congr {first second : Database} (alike : Elsewhere touchId email first second)
    (time : Time) (kind : String → Prop) :
    HeldUnder first time email kind ↔ HeldUnder second time email kind := by
  unfold HeldUnder
  constructor
  · rintro ⟨scope, row, holds, found, active⟩
    exact ⟨scope, row, holds, (alike.held scope).trans found, active⟩
  · rintro ⟨scope, row, holds, found, active⟩
    exact ⟨scope, row, holds, (alike.held scope).symm.trans found, active⟩

theorem suppressedIn_congr {first second : Database} (alike : Elsewhere touchId email first second)
    (time : Time) (tenant hash : String) :
    suppressedIn first time email tenant hash = suppressedIn second time email tenant hash := by
  rw [Bool.eq_iff_iff, suppressedIn_iff, suppressedIn_iff, heldUnder_congr alike]
  obtain ⟨_, _, _, rfl⟩ := alike.tables
  rfl

theorem agrees_isSuppressed (platform : Platform) (tenant : String) :
    Agrees (Elsewhere touchId email) (isSuppressed platform email tenant) := by
  unfold isSuppressed
  refine agrees_bind (agrees_ofExcept _) fun hash => agrees_markedQuery _ ?_
  intro moment first second alike
  exact suppressedIn_congr alike _ tenant hash

theorem agrees_haltedScopes (tenant : String) :
    Agrees (Elsewhere touchId email) (haltedScopes tenant) := by
  apply agrees_markedQuery
  rintro moment first second ⟨⟨_, _, _, rfl⟩, _, _⟩
  rfl

theorem agrees_frequencyOk (entityId : Uuid) :
    Agrees (Elsewhere touchId email) (frequencyOk entityId) := by
  unfold frequencyOk
  refine agrees_bind (agrees_lockRows shared_entities fun _ _ _ _ => rfl) fun rows => ?_
  cases rows with
  | nil => exact agrees_pure _
  | cons entry others =>
      dsimp only
      split_ifs
      · exact agrees_pure _
      · exact agrees_pure _
      · cases entry.2.lastCampaignContactAt with
        | none => exact agrees_pure _
        | some contact => exact agrees_bind (agrees_ask _) fun _ => agrees_pure _

theorem agrees_sequenceContinuationOk (entityId prospectId : Uuid) :
    Agrees (Elsewhere touchId email) (sequenceContinuationOk entityId prospectId) := by
  unfold sequenceContinuationOk
  refine agrees_bind (agrees_reading ?_) fun rows => ?_
  · rintro moment first second ⟨⟨_, _, _, rfl⟩, _, _⟩
    exact ⟨_, _, rfl, rfl, rfl, rfl, rfl⟩
  · cases rows with
    | nil => exact agrees_pure _
    | cons entry others => exact agrees_pure _

theorem agrees_consume (scope : ScopeType) (id : String) :
    Agrees (Elsewhere touchId email) (consume scope id) := by
  unfold consume
  refine agrees_bind (agrees_ask _) fun _ => agrees_bind ?_ fun _ => agrees_pure _
  exact agrees_update shared_counters (fun _ _ _ _ => rfl) _

theorem agrees_adjust (scope : ScopeType) (id : String) (delta : Int) (why : String) :
    Agrees (Elsewhere touchId email) (adjust scope id delta why) := by
  unfold adjust
  refine agrees_bind (agrees_ask _) fun _ => agrees_bind ?_ fun _ => agrees_audit _ _ _ _ _
  exact agrees_update shared_counters (fun _ _ _ _ => rfl) _

theorem agrees_tryConsumeBudget (tenant : String) (touch : DraftTouch) :
    Agrees (Elsewhere touchId email) (tryConsumeBudget tenant touch) := by
  unfold tryConsumeBudget
  refine agrees_bind (agrees_consume _ _) fun consumed => ?_
  split_ifs
  · refine agrees_bind (agrees_consume _ _) fun also => ?_
    split_ifs
    · exact agrees_pure _
    · exact agrees_bind (agrees_adjust _ _ _ _) fun _ => agrees_pure _
  · exact agrees_pure _

theorem agrees_releaseBudget (tenant : String) (touch : DraftTouch) :
    Agrees (Elsewhere touchId email) (releaseBudget tenant touch) := by
  unfold releaseBudget
  exact agrees_bind (agrees_adjust _ _ _ _) fun _ => agrees_adjust _ _ _ _

theorem agrees_pickMailbox (tenant : String) :
    Agrees (Elsewhere touchId email) (pickMailbox tenant) := by
  unfold pickMailbox
  refine agrees_bind (agrees_ask _) fun first => ?_
  refine agrees_bind (agrees_query ?_) fun mailboxes => ?_
  · rintro moment first second ⟨⟨_, _, _, rfl⟩, _, _⟩
    rfl
  refine agrees_bind (agrees_forM (fun entry => ?_) _) fun _ => ?_
  · exact agrees_bind (agrees_insertNew shared_counters _ _) fun _ => agrees_pure _
  refine agrees_bind (agrees_ask _) fun second => ?_
  refine agrees_bind (agrees_reading ?_) fun picked => ?_
  · rintro moment first other ⟨⟨suppressions, jobs, index, rfl⟩, _, _⟩
    have same : openMailboxes { first with
        suppressions := suppressions, jobs := jobs, jobIndex := index } moment.busy tenant
          (dayOf second) = openMailboxes first moment.busy tenant (dayOf second) := rfl
    rw [same]
    cases leastUsed (openMailboxes first moment.busy tenant (dayOf second)) with
    | none => exact ⟨_, _, rfl, rfl, rfl, rfl, rfl⟩
    | some entry => exact ⟨_, _, rfl, rfl, rfl, rfl, rfl⟩
  · cases picked with
    | none => exact agrees_pure _
    | some mailbox =>
        refine agrees_bind (agrees_ask _) fun _ => agrees_bind ?_ fun _ => agrees_pure _
        exact agrees_update shared_counters (fun _ _ _ _ => rfl) _

theorem agrees_confidenceSendable (address tenant : String) :
    Agrees (Elsewhere touchId email) (confidenceSendable address tenant) := by
  apply agrees_query
  rintro moment first second ⟨⟨_, _, _, rfl⟩, _, _⟩
  rfl

/-- The trigger looks for the address of the touch's own prospect. -/
theorem rejects_congr {first second : Database} (alike : Elsewhere touchId email first second)
    {row : Touch} (found : first.touches.lookup touchId = some row) (time : Time) :
    rejectSuppressedTouch .claimed time first row =
      rejectSuppressedTouch .claimed time second row := by
  obtain ⟨other, prospect, present, owner, address⟩ := alike.owner
  obtain rfl := Option.some.inj (found.symm.trans present)
  have owner_too : second.prospects.lookup row.prospectId = some prospect := by
    obtain ⟨_, _, _, rfl⟩ := alike.tables
    exact owner
  have same : (rejectSuppressedTouch .claimed time first row).isSome =
      (rejectSuppressedTouch .claimed time second row).isSome := by
    rw [Bool.eq_iff_iff, rejects_claim_iff owner address, rejects_claim_iff owner_too address]
    exact heldUnder_congr alike time _
  have either : ∀ db, rejectSuppressedTouch .claimed time db row = none ∨
      rejectSuppressedTouch .claimed time db row =
        some ⟨.databaseError, "suppressed address (invariant I-3)"⟩ := by
    intro db
    unfold rejectSuppressedTouch
    dsimp only
    split_ifs
    · exact Or.inr rfl
    · exact Or.inl rfl
  rcases either first with one | one <;> rcases either second with two | two <;>
    rw [one, two] at same ⊢ <;> cases same

theorem agrees_persistClaim {touch : DraftTouch} (named : touch.touchId = touchId)
    (mailbox : String) (results : Payload) :
    Agrees (Elsewhere touchId email) (persistClaim touch mailbox results) := by
  unfold persistClaim
  refine agrees_bind ?_ fun claimed => ?_
  · unfold setTouchStatus
    refine agrees_updateChecked _ ?_ (fun _ _ _ _ => rfl) ?_ ?_
    · rintro first second ⟨⟨_, _, _, rfl⟩, _, _⟩
      rfl
    · rintro moment first second alike ⟨id, row⟩ member
      obtain ⟨found, chosen⟩ := (Table.mem_select_iff _ _ _ _).1 member
      rw [Bool.and_eq_true, decide_eq_true_eq] at chosen
      obtain rfl := chosen.1.trans named
      dsimp only
      rw [rejects_congr alike found]
    · rintro moment first second ⟨⟨suppressions, jobs, index, rfl⟩, held, row, prospect, found,
        owner, address⟩
      refine ⟨⟨suppressions, jobs, index, rfl⟩, held, ?_⟩
      have changed : (first.touches.modify (fun id row =>
          id = touch.touchId && row.status = .drafted) fun row =>
            { row with status := .claimed, claimedAt := some moment.start.clock,
                       mailbox := some mailbox }).lookup touchId =
          some (if (decide (touchId = touch.touchId) && decide (row.status = .drafted)) = true then
            { row with status := .claimed, claimedAt := some moment.start.clock,
                       mailbox := some mailbox } else row) := by
        rw [Table.lookup_modify, found, Option.map_some]
      refine ⟨_, prospect, changed, ?_, address⟩
      split_ifs
      · exact owner
      · exact owner
  · have traced : Agrees (Elsewhere touchId email) (do
        Program.upsertRow Tables.decisionTraces none touch.touchId
          (fun _ => ⟨results, some touch.validatorCtx.claimRegistryVersion⟩)
          (fun _ _ => ⟨results, some touch.validatorCtx.claimRegistryVersion⟩)
        audit "touch" (toString touch.touchId) "claimed" [] "system:gatekeeper") :=
      agrees_bind (agrees_upsertRow shared_decisionTraces _ _ _ _) fun _ => agrees_audit _ _ _ _ _
    have counted : Agrees (Elsewhere touchId email) (do
        let _ ← Program.update Tables.entities (fun _ _ id _ => id = touch.entityId)
          fun moment row =>
            { row with
              activeSequenceTouchId := some touch.touchId
              lastCampaignContactAt := some moment.start.clock
              touches12mo := row.touches12mo + 1 }
        Program.upsertRow Tables.decisionTraces none touch.touchId
          (fun _ => ⟨results, some touch.validatorCtx.claimRegistryVersion⟩)
          (fun _ _ => ⟨results, some touch.validatorCtx.claimRegistryVersion⟩)
        audit "touch" (toString touch.touchId) "claimed" [] "system:gatekeeper") :=
      agrees_bind (agrees_update shared_entities (fun _ _ _ _ => rfl) _) fun _ => traced
    split_ifs
    all_goals first
      | exact counted
      | exact traced
      | exact agrees_bind (agrees_throw _) fun _ => counted
      | exact agrees_bind (agrees_throw _) fun _ => traced

/-- A claim goes by nothing that is written for other addresses. -/
theorem agrees_claim (runtime : Runtime) {touch : DraftTouch} (named : touch.touchId = touchId)
    (address : touch.emailCanonical = email) :
    Agrees (Elsewhere touchId email) (claim runtime (pgGateStore runtime.platform) touch) := by
  have capacity : ∀ results, Agrees (Elsewhere touchId email)
      (capacityGates (pgGateStore runtime.platform) touch results) := by
    intro results
    unfold capacityGates
    refine agrees_bind (agrees_pickMailbox _) fun picked => ?_
    cases picked with
    | none =>
        dsimp only
        split_ifs
        · exact agrees_bind (agrees_releaseBudget _ _) fun _ => agrees_pure _
        · exact agrees_pure _
    | some mailbox =>
        refine agrees_bind (agrees_confidenceSendable _ _) fun sendable => ?_
        split_ifs
        · exact agrees_bind (agrees_persistClaim named _ _) fun _ => agrees_pure _
        · exact agrees_bind (agrees_releaseBudget _ _) fun _ => agrees_pure _
        · exact agrees_pure _
  have budget : ∀ results, Agrees (Elsewhere touchId email)
      (budgetGate (pgGateStore runtime.platform) touch results) := by
    intro results
    unfold budgetGate
    refine agrees_bind (agrees_tryConsumeBudget _ _) fun consumed => ?_
    split_ifs
    · exact capacity _
    · exact agrees_pure _
  have contact : ∀ results, Agrees (Elsewhere touchId email)
      (contactGates (pgGateStore runtime.platform) touch results) := by
    intro results
    unfold contactGates
    rw [address]
    refine agrees_bind (agrees_isSuppressed _ _) fun suppressed => ?_
    split_ifs
    · exact agrees_pure _
    · cases touch.profile with
      | cold =>
          refine agrees_bind (agrees_frequencyOk _) fun allowed => ?_
          split_ifs
          · exact budget _
          · exact agrees_pure _
      | followup =>
          refine agrees_bind (agrees_sequenceContinuationOk _ _) fun allowed => ?_
          split_ifs
          · exact budget _
          · exact agrees_pure _
      | reply => exact capacity _
  unfold claim
  refine agrees_handle ?_ fun _ => agrees_pure _
  unfold gates
  refine agrees_bind (agrees_haltedScopes _) fun halted => ?_
  by_cases stopped : halted ≠ []
  · rw [if_pos stopped]
    exact agrees_pure _
  by_cases changed : contentHash runtime.platform touch.draft ≠ touch.storedContentHash
  · rw [if_neg stopped, if_pos changed]
    exact agrees_pure _
  rw [if_neg stopped, if_neg changed]
  cases validate runtime touch.draft touch.validatorCtx with
  | error error => exact agrees_throw _
  | ok findings =>
      dsimp only
      split_ifs
      · exact agrees_pure _
      · exact agrees_pure _
      · exact contact _

end Elsewhere

section Forget

variable {oracle : Nat → (call : Call) → call.Answer} {fault : Exc}
variable {moment : Moment Database RowLock} {platform : Platform}
variable {db : Database} {answered : Nat}

/-- A scrubbed prospect has no address. -/
theorem ready_scrubbed (ready : Ready platform oracle db answered) (ids : List Uuid)
    {later : Database}
    (prospects : later.prospects = db.prospects.modify (fun _ row => ids.contains row.entityId)
      fun row => { row with
        emailRaw := none, emailCanonical := none, sourceRef := [], state := .forgotten })
    (replies : ∀ id, db.replies.lookup id = none → later.replies.lookup id = none)
    (escalations : later.escalations = db.escalations) (jobs : later.jobs = db.jobs)
    (jobIndex : later.jobIndex = db.jobIndex) : Ready platform oracle later answered where
  canonical id row email found stored := by
    rw [prospects, Table.lookup_modify] at found
    obtain ⟨old, present, changed⟩ := Option.map_eq_some_iff.1 found
    by_cases scrubbed : ids.contains old.entityId = true
    · rw [if_pos scrubbed] at changed
      rw [← changed] at stored
      cases stored
    · rw [if_neg scrubbed] at changed
      rw [← changed] at stored
      exact ready.canonical id old email present stored
  replies index later := replies _ (ready.replies index later)
  escalations := by rw [escalations]; exact ready.escalations
  jobs := by rw [jobs]; exact ready.jobs
  classify := by rw [jobIndex]; exact ready.classify

theorem completes_scrub (ready : Ready platform oracle db answered) (ids : List Uuid) :
    Completes oracle fault moment (scrub ids) db answered fun _ later taken =>
      Ready platform oracle later taken ∧ later.forgetTombstones = db.forgetTombstones := by
  unfold scrub
  refine completes_bind (completes_update _ _ _ ?_)
  refine completes_bind (completes_update _ _ _ ?_)
  refine completes_bind (completes_perform rfl ?_)
  refine completes_bind (completes_update _ _ _ ?_)
  refine completes_bind (completes_perform rfl ?_)
  refine completes_bind (completes_update _ _ _ ?_)
  refine completes_pure _ ⟨ready_scrubbed ready ids rfl ?_ rfl rfl rfl, rfl⟩
  intro id absent
  refine (Table.lookup_modify ..).trans ?_
  rw [absent]
  rfl

theorem tombstoneHash_of_canonical {address : String}
    (canonical : canonicalize platform address = .ok address) :
    tombstoneHash platform address = .ok (platform.sha256 address.toList) := by
  unfold tombstoneHash
  rw [canonical]
  rfl

theorem mem_sortedSet (text : String) (texts : List String) :
    text ∈ sortedSet texts ↔ text ∈ texts := by
  unfold sortedSet
  rw [List.mem_mergeSort, List.mem_eraseDups]

/-- The tombstones of all addresses. -/
theorem completes_bury (receiptId : Uuid) {addresses : List String}
    (canonicals : ∀ address ∈ addresses, canonicalize platform address = .ok address)
    (ready : Ready platform oracle db answered) :
    Completes oracle fault moment (addresses.forM (m := Prog) fun address => do
      let hash ← MonadExcept.ofExcept (tombstoneHash platform address)
      let _ ← Program.insertNew Tables.forgetTombstones hash
        fun moment => ⟨receiptId, moment.start.clock, none⟩) db answered
      fun _ later taken => Ready platform oracle later taken ∧
        ∀ address ∈ addresses, Forgotten platform later address := by
  refine (completes_forM_each addresses ?_ db answered ready).mono
    fun _ _ _ _ reached => ⟨reached.1, reached.2.1⟩
  intro address member db answered ready
  rw [tombstoneHash_of_canonical (canonicals address member)]
  refine completes_bind (completes_ofExcept _ ?_)
  refine completes_bind (completes_insertNew _ _ _ ?_ ?_)
  · intro old found
    refine completes_pure _ ⟨ready, ?_, fun _ holds => holds⟩
    unfold Forgotten
    rw [show db.forgetTombstones.lookup (platform.sha256 address.toList) = some old from found]
    rfl
  · intro absent
    refine completes_pure _ ⟨ready.of_tables (same_prospects_refl _) rfl rfl rfl rfl, ?_, ?_⟩
    · unfold Forgotten
      rw [Table.lookup_insert, if_pos rfl]
      rfl
    · intro other holds
      unfold Forgotten
      rw [Table.lookup_insert]
      split_ifs
      · rfl
      · exact holds

/-- What comes after the tombstones leaves them. -/
theorem completes_cleanup (distinct : Distinct oracle) (receiptId : Uuid) (payload : Payload)
    {addresses : List String}
    (canonicals : ∀ address ∈ addresses, canonicalize platform address = .ok address)
    (ready : Ready platform oracle db answered) {canonical : String}
    (buried : Forgotten platform db canonical) :
    Completes oracle fault moment (do
      addresses.forM (m := Prog) fun address => do
        let _ ← Program.deleteRows Tables.suppressions fun _ _ key _ => key.1 = address
      audit "forget" (toString receiptId) "executed" payload "operator:forget"
      addresses.forM fun address => do
        let hash ← MonadExcept.ofExcept (tombstoneHash platform address)
        let _ ← enqueue .control (.deleteLead address receiptId) (.forget hash)) db answered
      fun _ later _ => Forgotten platform later canonical := by
  have unsuppressed : Completes oracle fault moment (addresses.forM (m := Prog) fun address => do
      let _ ← Program.deleteRows Tables.suppressions fun _ _ key _ => key.1 = address) db answered
      fun _ later taken => Ready platform oracle later taken ∧
        Forgotten platform later canonical := by
    refine completes_forM_keeps addresses ?_ db answered ⟨ready, buried⟩
    intro address _ db answered held
    refine completes_bind (completes_perform rfl (completes_pure _ ⟨?_, held.2⟩))
    exact held.1.of_tables (same_prospects_refl _) rfl rfl rfl rfl
  refine completes_bind (unsuppressed.mono ?_)
  intro _ cleared taken _ held
  refine completes_bind ((completes_audit _ _ _ _ _).mono ?_)
  rintro _ audited total - ⟨rfl, same⟩
  have still : Ready platform oracle audited total ∧ Forgotten platform audited canonical := by
    rw [same]
    exact ⟨held.1.of_tables (same_prospects_refl _) rfl rfl rfl rfl, held.2⟩
  have propagated : Completes oracle fault moment (addresses.forM (m := Prog) fun address => do
      let hash ← MonadExcept.ofExcept (tombstoneHash platform address)
      let _ ← enqueue .control (.deleteLead address receiptId) (.forget hash)) audited total
      fun _ later taken => Ready platform oracle later taken ∧
        Forgotten platform later canonical := by
    refine completes_forM_keeps addresses ?_ audited total still
    intro address member db answered held
    rw [tombstoneHash_of_canonical (canonicals address member)]
    have apart : ∀ index, answered ≤ index →
        JobKey.forget (platform.sha256 address.toList) ≠ .classify (oracle index .uuid) :=
      fun _ _ => nofun
    refine completes_bind (completes_ofExcept _ ?_)
    refine completes_bind ((completes_enqueue distinct held.1 _ _ _ _ _ apart).mono ?_)
    rintro _ later _ - ⟨-, kept, jobs, index, rfl, -⟩
    exact completes_pure _ ⟨kept, held.2⟩
  exact propagated.mono fun _ _ _ _ reached => reached.2

/-- Forgetting an address leaves its tombstone. -/
theorem completes_forget (distinct : Distinct oracle) (ready : Ready platform oracle db answered)
    {text canonical : String} (readable : canonicalize platform text = .ok canonical)
    (again : canonicalize platform canonical = .ok canonical) :
    Completes oracle fault moment (forget platform (.address text)) db answered
      fun _ later _ => Forgotten platform later canonical := by
  unfold forget subjects
  dsimp only
  rw [readable]
  refine completes_bind (completes_bind (completes_ofExcept _ ?_))
  refine completes_bind (completes_query _ ?_)
  refine completes_pure _ ?_
  generalize (_ : List Uuid).eraseDups = ids
  dsimp only
  rw [List.isEmpty_cons, Bool.and_false, if_neg Bool.false_ne_true]
  refine completes_bind (completes_ask _ ?_)
  refine completes_bind (completes_query _ ?_)
  generalize gathered : sortedSet _ = addresses
  have stored : canonical ∈ addresses ∧ ∀ address ∈ addresses,
      canonicalize platform address = .ok address := by
    subst gathered
    constructor
    · exact (mem_sortedSet _ _).2 List.mem_cons_self
    · intro address member
      rcases List.mem_cons.1 ((mem_sortedSet _ _).1 member) with rfl | known
      · exact again
      · obtain ⟨⟨id, row⟩, selected, email⟩ := List.mem_filterMap.1 known
        exact ready.canonical id row address ((Table.mem_select_iff _ _ _ _).1 selected).1 email
  obtain ⟨named, canonicals⟩ := stored
  refine completes_bind ((completes_bury _ canonicals (ready.advance (Nat.le_succ _))).mono ?_)
  intro _ tombed taken _ held
  split_ifs
  · refine completes_bind ((completes_scrub held.1 ids).mono ?_)
    intro _ scrubbed _ _ kept
    refine completes_cleanup distinct _ _ canonicals kept.1 ?_
    unfold Forgotten
    rw [kept.2]
    exact held.2 canonical named
  · exact completes_cleanup distinct _ _ canonicals held.1 (held.2 canonical named)

end Forget

section Complete

variable {runtime : Runtime}

/-- The address is stopped at every reader, whenever and for whomever it is read. -/
structure Silenced (runtime : Runtime) (email canonical : String) (db : Database) : Prop where
  blocked : ∀ oracle fault moment answered tenant,
    solo oracle fault moment (isSuppressed runtime.platform canonical tenant)
      ⟨db, answered, false⟩ = (.ok true, ⟨db, answered, false⟩)
  screened : ∀ oracle fault moment answered tenant,
    solo oracle fault moment (screenAtIngest runtime.platform email tenant)
      ⟨db, answered, false⟩ = (.ok false, ⟨db, answered, false⟩)
  refused : ∀ oracle fault moment answered (touch : DraftTouch), touch.emailCanonical = canonical →
    ∃ refusal later, solo oracle fault moment (claim runtime (pgGateStore runtime.platform) touch)
      ⟨db, answered, false⟩ = (.ok (.refused refusal), later)

/-- The touch is one of a prospect that was enriched with the address. -/
def EnrichedWith (platform : Platform) (email : String) (db : Database) (touch : DraftTouch) :
    Prop :=
  ∃ row prospect, db.touches.lookup touch.touchId = some row ∧
    db.prospects.lookup row.prospectId = some prospect ∧
    prospect.emailCanonical = canon platform email ∧
    canon platform email = some touch.emailCanonical

/-- No reader answers otherwise for the address in one state than in the other. -/
structure Unmoved (runtime : Runtime) (email canonical : String) (db later : Database) : Prop where
  suppressed : ∀ oracle fault moment answered tenant,
    (solo oracle fault moment (isSuppressed runtime.platform canonical tenant)
        ⟨later, answered, false⟩).1 =
      (solo oracle fault moment (isSuppressed runtime.platform canonical tenant)
        ⟨db, answered, false⟩).1
  screened : ∀ oracle fault moment answered tenant,
    (solo oracle fault moment (screenAtIngest runtime.platform email tenant)
        ⟨later, answered, false⟩).1 =
      (solo oracle fault moment (screenAtIngest runtime.platform email tenant)
        ⟨db, answered, false⟩).1
  claimed : ∀ oracle fault moment answered touch, EnrichedWith runtime.platform email db touch →
    (solo oracle fault moment (claim runtime (pgGateStore runtime.platform) touch)
        ⟨later, answered, false⟩).1 =
      (solo oracle fault moment (claim runtime (pgGateStore runtime.platform) touch)
        ⟨db, answered, false⟩).1

theorem silenced_of_suppressed {email canonical : String} {db : Database}
    (readable : canonicalize runtime.platform email = .ok canonical)
    (again : canonicalize runtime.platform canonical = .ok canonical)
    (stopped : ∀ time tenant, suppressedIn db time canonical tenant
      (runtime.platform.sha256 canonical.toList) = true) :
    Silenced runtime email canonical db := by
  have blocked : ∀ (oracle : Nat → (call : Call) → call.Answer) (fault : Exc)
      (moment : Moment Database RowLock) (answered : Nat) (tenant : String),
      solo oracle fault moment (isSuppressed runtime.platform canonical tenant)
        ⟨db, answered, false⟩ = (.ok true, ⟨db, answered, false⟩) := by
    intro oracle fault moment answered tenant
    rw [solo_isSuppressed_canonical again, stopped]
  refine ⟨blocked, ?_, ?_⟩
  · intro oracle fault moment answered tenant
    unfold screenAtIngest
    rw [readable]
    dsimp only
    rw [solo_bind, blocked]
    rfl
  · intro oracle fault moment answered touch address
    have suppressed : solo oracle fault moment ((pgGateStore runtime.platform).isSuppressed
        touch.emailCanonical touch.tenant) ⟨db, answered, false⟩ =
          (.ok true, ⟨db, answered, false⟩) := by
      rw [address]
      exact blocked oracle fault moment answered touch.tenant
    have halts : solo oracle fault moment ((pgGateStore runtime.platform).haltedScopes touch.tenant)
        ⟨db, answered, false⟩ = (.ok (haltedScopesIn db touch.tenant), ⟨db, answered, false⟩) :=
      solo_perform _ _ db answered
    unfold claim gates contactGates
    rw [solo_handle, solo_bind, halts]
    dsimp only
    by_cases held : haltedScopesIn db touch.tenant ≠ []
    · rw [if_pos held]
      exact ⟨_, _, rfl⟩
    by_cases changed : contentHash runtime.platform touch.draft ≠ touch.storedContentHash
    · rw [if_neg held, if_pos changed]
      exact ⟨_, _, rfl⟩
    rw [if_neg held, if_neg changed]
    cases validate runtime touch.draft touch.validatorCtx with
    | error error => exact ⟨_, _, rfl⟩
    | ok findings =>
        dsimp only
        split_ifs
        · exact ⟨_, _, rfl⟩
        · exact ⟨_, _, rfl⟩
        · rw [solo_bind, suppressed]
          exact ⟨_, _, rfl⟩

theorem suppressedIn_of_upsert {db later : Database} {canonical reason : String} {start : Time}
    (written : later.suppressions = db.suppressions.upsert (canonical, globalScope)
      ⟨reason, none, start⟩ fun _ => ⟨reason, none, start⟩) (time : Time)
    (tenant hash : String) : suppressedIn later time canonical tenant hash = true := by
  rw [suppressedIn_iff]
  refine Or.inl ⟨globalScope, ⟨reason, none, start⟩, Or.inl rfl, ?_, rfl⟩
  rw [written, Table.lookup_upsert, if_pos rfl]
  cases db.suppressions.lookup (canonical, globalScope) <;> rfl

theorem unmoved_of_upsert {email canonical other reason : String} {start : Time}
    {db later : Database} (readable : canonicalize runtime.platform email = .ok canonical)
    (apart : canonical ≠ other)
    (tables : ∃ jobs index, later = { db with
      suppressions := db.suppressions.upsert (other, globalScope) ⟨reason, none, start⟩
        fun _ => ⟨reason, none, start⟩
      jobs := jobs, jobIndex := index }) : Unmoved runtime email canonical db later := by
  obtain ⟨jobs, index, rfl⟩ := tables
  have held : ∀ scope, (db.suppressions.upsert (other, globalScope) ⟨reason, none, start⟩
      fun _ => ⟨reason, none, start⟩).lookup (canonical, scope) =
        db.suppressions.lookup (canonical, scope) := by
    intro scope
    rw [Table.lookup_upsert, if_neg]
    exact fun same => apart (congrArg Prod.fst same)
  have suppressed : ∀ (oracle : Nat → (call : Call) → call.Answer) (fault : Exc)
      (moment : Moment Database RowLock) (answered : Nat) (tenant : String),
      (solo oracle fault moment (isSuppressed runtime.platform canonical tenant)
        ⟨{ db with
          suppressions := db.suppressions.upsert (other, globalScope) ⟨reason, none, start⟩
            fun _ => ⟨reason, none, start⟩
          jobs := jobs, jobIndex := index }, answered, false⟩).1 =
      (solo oracle fault moment (isSuppressed runtime.platform canonical tenant)
        ⟨db, answered, false⟩).1 := by
    intro oracle fault moment answered tenant
    rw [solo_isSuppressed, solo_isSuppressed]
    cases tombstoneHash runtime.platform canonical with
    | error error => rfl
    | ok hash =>
        apply congrArg Except.ok
        rw [Bool.eq_iff_iff, suppressedIn_iff, suppressedIn_iff]
        unfold HeldUnder
        simp only [held]
  refine ⟨suppressed, ?_, ?_⟩
  · intro oracle fault moment answered tenant
    have same := suppressed oracle fault moment answered tenant
    unfold screenAtIngest
    rw [readable]
    dsimp only
    rw [solo_bind, solo_bind]
    rw [solo_isSuppressed, solo_isSuppressed] at same ⊢
    cases hashed : tombstoneHash runtime.platform canonical with
    | error error => rfl
    | ok hash =>
        rw [hashed] at same
        have value := Except.ok.inj same
        dsimp only at value ⊢
        rw [value]
        rfl
  · rintro oracle fault moment answered touch ⟨row, prospect, found, owner, address, stored⟩
    have canonical_stored : canon runtime.platform email = some canonical := by
      unfold canon
      rw [readable]
      rfl
    rw [canonical_stored] at address stored
    have alike : Elsewhere touch.touchId canonical db { db with
        suppressions := db.suppressions.upsert (other, globalScope) ⟨reason, none, start⟩
          fun _ => ⟨reason, none, start⟩
        jobs := jobs, jobIndex := index } :=
      ⟨⟨_, _, _, rfl⟩, held, row, prospect, found, owner, address⟩
    exact (solo_agrees (agrees_claim runtime rfl (Option.some.inj stored).symm) alike answered
      false).1.symm

end Complete

section Related

variable {oracle : Nat → (call : Call) → call.Answer} {fault : Exc}
variable {moment : Moment Database RowLock} {runtime : Runtime}
variable {db : Database} {answered : Nat}

/-- Suppressing or forgetting one address silences each alias of it, and suppressing it
changes no answer for an address that is none. -/
theorem alias_complete_suppression (laws : AsciiLaws runtime.platform) (distinct : Distinct oracle)
    (ready : Ready runtime.platform oracle db answered) {first second canonical other : String}
    (first_ascii : Ascii first.toList) (second_ascii : Ascii second.toList)
    (first_accepted : canonicalize runtime.platform first = .ok canonical)
    (second_accepted : canonicalize runtime.platform second = .ok other) (reason : String) :
    (∃ value later taken, solo oracle fault moment (suppress runtime.platform first reason)
        ⟨db, answered, false⟩ = (.ok value, ⟨later, taken, false⟩) ∧
      (Alias first.toList second.toList → Silenced runtime second other later) ∧
      (¬ Alias first.toList second.toList → Unmoved runtime second other db later)) ∧
    (∃ later taken, solo oracle fault moment (forget runtime.platform (.address first))
        ⟨db, answered, false⟩ = (.ok (), ⟨later, taken, false⟩) ∧
      (Alias first.toList second.toList → Silenced runtime second other later)) := by
  have kernel := alias_iff_canonical laws first_ascii second_ascii first_accepted second_accepted
  have again := canonicalize_canonical laws second_ascii second_accepted
  constructor
  · have run : Completes oracle fault moment (suppress runtime.platform first reason) db answered _ :=
      completes_suppress distinct ready first_accepted reason
    obtain ⟨value, later, taken, ended, -, -, jobs, index, written, -⟩ := run
    have stored : later.suppressions = db.suppressions.upsert (canonical, globalScope)
        ⟨reason, none, moment.start.clock⟩ fun _ => ⟨reason, none, moment.start.clock⟩ := by
      rw [written]
    refine ⟨value, later, taken, ended, fun alike => ?_, fun unrelated => ?_⟩
    · obtain rfl := kernel.1 alike
      refine silenced_of_suppressed second_accepted again fun time tenant => ?_
      exact suppressedIn_of_upsert stored time tenant _
    · have apart : other ≠ canonical := fun same => unrelated (kernel.2 same.symm)
      exact unmoved_of_upsert second_accepted apart ⟨jobs, index, written⟩
  · have first_again := canonicalize_canonical laws first_ascii first_accepted
    have run : Completes oracle fault moment (forget runtime.platform (.address first)) db answered
        _ := completes_forget distinct ready first_accepted first_again
    obtain ⟨_, later, taken, ended, -, buried⟩ := run
    refine ⟨later, taken, ended, fun alike => ?_⟩
    obtain rfl := kernel.1 alike
    refine silenced_of_suppressed second_accepted again fun time tenant => ?_
    rw [suppressedIn_iff]
    exact Or.inr buried

theorem sample_laws : AsciiLaws samplePlatform where
  lower _ _ := rfl
  idna_kept _ _ _ encoded := (Option.some.inj encoded).symm
  idna_short _ _ _ := rfl

/-- One form of the sample address is suppressed, another is silenced. -/
theorem sample_alias_silenced : ∃ value later taken,
    solo sampleOracle integrityError sampleMoment
      (suppress samplePlatform "Ana+news@clinic.example" "unsubscribe")
      ⟨dispatchedDatabase, 0, false⟩ = (.ok value, ⟨later, taken, false⟩) ∧
    Silenced { platform := samplePlatform } " ana@CLINIC.example " sampleAddress later := by
  have first_ascii : Ascii "Ana+news@clinic.example".toList := by
    exact every_of_all (by decide)
  have second_ascii : Ascii " ana@CLINIC.example ".toList := by
    exact every_of_all (by decide)
  have first_accepted : canonicalize samplePlatform "Ana+news@clinic.example" =
      .ok sampleAddress := by
    decide +kernel
  have second_accepted : canonicalize samplePlatform " ana@CLINIC.example " =
      .ok sampleAddress := by
    decide +kernel
  have alike := (alias_iff_canonical sample_laws first_ascii second_ascii first_accepted
    second_accepted).2 rfl
  have complete := @alias_complete_suppression sampleOracle integrityError sampleMoment
    { platform := samplePlatform } dispatchedDatabase 0 sample_laws sample_distinct sample_ready
    _ _ _ _ first_ascii second_ascii first_accepted second_accepted "unsubscribe"
  obtain ⟨⟨value, later, taken, ended, silenced, _⟩, _⟩ := complete
  exact ⟨value, later, taken, ended, silenced alike⟩

end Related

end OpenReachout
