import OpenReachout.Outreach.People

/-!
# Erasure

`forget` and the control job that follows it: what an erasure finds is erased in
one deed, its addresses are buried first, and only buried addresses lose their
suppressions.
-/

namespace OpenReachout

open Relational Relational.Abstraction Text

set_option autoImplicit false

variable {site : Deployment} {vouch : Mark → Ledger → Prop} {op : Op} {held : List RowLock}

section Scrub

variable {ids : List Uuid}

theorem Ledger.concerns_later {old new : Ledger} (later : Later old new) {prospectId : Uuid}
    (concerned : old.concerns ids prospectId) : new.concerns ids prospectId := by
  obtain ⟨lead, found, member⟩ := concerned
  obtain ⟨next, there, step⟩ := later.prospects prospectId lead found
  refine ⟨next, there, ?_⟩
  rw [step.entityId]
  exact member

theorem ofEntities_iff (db : Database) (prospectId : Uuid) :
    ofEntities ids db prospectId = true ↔ db.ledger.concerns ids prospectId := by
  unfold ofEntities Ledger.concerns
  rw [Option.any_eq_true]
  simp only [List.contains_iff_mem]
  rfl

theorem changed_of_rows {Key Row : Type} {old new : Key → Option Row} {picked : Key → Bool}
    {change : Row → Row}
    (rows : ∀ key, new key = if picked key then (old key).bind fun row => some (change row)
      else old key) : new = changed old picked change := by
  funext key
  rw [rows]
  unfold changed
  rw [Option.map_eq_bind]
  rfl

theorem cleared_of_rows {Key Row : Type} {old new : Key → Option Row} {picked : Key → Bool}
    (rows : ∀ key, new key = if picked key then (old key).bind fun _ => none else old key) :
    new = cleared old picked := by
  funext key
  rw [rows]
  unfold cleared
  rw [Option.bind_fun_none]

theorem brings_scrubTouches :
    (outreach site vouch op).Brings held
      (Program.update Tables.touches (fun _ db _ row => ofEntities ids db row.prospectId)
        fun _ row => { row with subject := none, body := none, scrubbed := true } :
        Prog (List (Uuid × Touch)))
      fun start _ before after => ∃ touches : Uuid → Bool,
        (∀ id item, start.touches id = some item → start.concerns ids item.prospectId →
          touches id = true) ∧
        after = { before with touches := changed before.touches touches Touch.erased } := by
  refine (ensures_change Tables.touches _ _).mono ?_
  rintro start _ before after ⟨seen, busy, picked, table, change⟩
  refine ⟨picked, ?_, ?_⟩
  · intro id item found concerned
    obtain ⟨next, there, step⟩ := change.glimpse.since.touches id item found
    apply change.hit id next there
    rw [ofEntities_iff, step.prospectId]
    exact Ledger.concerns_later change.glimpse.since concerned
  · rw [change.wrote]
    have rows := changed_of_rows change.rows
    simp only [Database.ledger, rows]
    rfl

theorem brings_scrubReplies :
    (outreach site vouch op).Brings held
      (Program.update Tables.replies (fun _ db _ row => ofEntities ids db row.prospectId)
        fun _ row => { row with body := none, scrubbed := true } : Prog (List (Uuid × Reply)))
      fun start _ before after => ∃ replies : Uuid → Bool,
        (∀ id reply, start.replies id = some reply → start.concerns ids reply.prospectId →
          replies id = true) ∧
        after = { before with replies := changed before.replies replies Reply.erased } := by
  refine (ensures_change Tables.replies _ _).mono ?_
  rintro start _ before after ⟨seen, busy, picked, table, change⟩
  refine ⟨picked, ?_, ?_⟩
  · intro id reply found concerned
    obtain ⟨next, there, step⟩ := change.glimpse.since.replies id reply found
    apply change.hit id next there
    rw [ofEntities_iff, step.prospectId]
    exact Ledger.concerns_later change.glimpse.since concerned
  · rw [change.wrote]
    have rows := changed_of_rows change.rows
    simp only [Database.ledger, rows]
    rfl

theorem brings_scrubFacts :
    (outreach site vouch op).Brings held
      (Program.deleteRows Tables.evidenceFacts
        (fun _ db _ row => ofEntities ids db row.prospectId) : Prog (List (Uuid × EvidenceFact)))
      fun start _ before after => ∃ facts : Uuid → Bool,
        (∃ seen, Later start seen ∧ ∀ id fact, seen.facts id = some fact →
          start.concerns ids fact.prospectId → facts id = true) ∧
        after = { before with facts := cleared before.facts facts } := by
  refine (ensures_clear Tables.evidenceFacts _).mono ?_
  rintro start _ before after ⟨seen, busy, picked, table, change⟩
  refine ⟨picked, ⟨seen.ledger, change.glimpse.since, ?_⟩, ?_⟩
  · intro id fact found concerned
    apply change.hit id fact found
    rw [ofEntities_iff]
    exact Ledger.concerns_later change.glimpse.since concerned
  · rw [change.wrote]
    have rows := cleared_of_rows change.rows
    simp only [Database.ledger, rows]

theorem brings_scrubProspects :
    (outreach site vouch op).Brings held
      (Program.update Tables.prospects (fun _ _ _ row => ids.contains row.entityId)
        fun _ row => { row with
          emailRaw := none, emailCanonical := none, sourceRef := [], state := .forgotten } :
        Prog (List (Uuid × Prospect)))
      fun start _ before after => ∃ leads : Uuid → Bool,
        (∀ id, start.concerns ids id → leads id = true) ∧
        (∀ id, leads id = true → before.concerns ids id) ∧
        after = { before with prospects := changed before.prospects leads Prospect.erased } := by
  refine (ensures_change Tables.prospects _ _).mono ?_
  rintro start _ before after ⟨seen, busy, picked, table, change⟩
  refine ⟨picked, ?_, ?_, ?_⟩
  · intro id concerned
    obtain ⟨lead, found, member⟩ := Ledger.concerns_later change.glimpse.since concerned
    exact change.hit id lead found (List.contains_iff_mem.2 member)
  · intro id chosen
    obtain ⟨lead, found, _, member⟩ := change.inside id chosen
    exact ⟨lead, found, List.contains_iff_mem.1 member⟩
  · rw [change.wrote]
    have rows := changed_of_rows change.rows
    simp only [Database.ledger, rows]
    rfl

theorem brings_scrubEntities :
    (outreach site vouch op).Brings held
      (Program.update Tables.entities (fun _ _ id _ => ids.contains id)
        fun _ row => { row with displayName := none, forgotten := true } :
        Prog (List (Uuid × Entity)))
      fun start _ before after => ∃ owners : Uuid → Bool,
        (∀ id ∈ ids, (start.entities id).isSome = true → owners id = true) ∧
        after = { before with entities := changed before.entities owners Entity.erased } := by
  refine (ensures_change Tables.entities _ _).mono ?_
  rintro start _ before after ⟨seen, busy, picked, table, change⟩
  refine ⟨picked, ?_, ?_⟩
  · intro id member there
    obtain ⟨owner, found⟩ := Option.isSome_iff_exists.1 there
    obtain ⟨next, there, _⟩ := change.glimpse.since.entities id owner found
    exact change.hit id next there (List.contains_iff_mem.2 member)
  · rw [change.wrote]
    have rows := changed_of_rows change.rows
    simp only [Database.ledger, rows]
    rfl

/-- Five statements that erase what they find are one deed. -/
theorem follows_scrub (ids : List Uuid) (ref : ForgetRef) (which : op = .forget ref) :
    (outreach site vouch op).Follows held (scrub ids) := by
  unfold scrub
  refine brings_bind brings_scrubTouches ?_ fun _ => ?_
  · rintro start _ before _ ⟨touches, _, rfl⟩
    exact later_changed_touches _ Touch.later_erased
  refine brings_bind brings_scrubReplies ?_ fun _ => ?_
  · rintro start _ before _ ⟨replies, _, rfl⟩
    exact later_changed_replies _ Reply.later_erased
  refine brings_bind brings_scrubFacts ?_ fun _ => ?_
  · rintro start _ before _ ⟨facts, _, rfl⟩
    exact { later_refl before with }
  refine brings_bind brings_scrubProspects ?_ fun _ => ?_
  · rintro start _ before _ ⟨leads, _, _, rfl⟩
    exact later_changed_prospects _ Prospect.later_erased
  refine brings_after (quiet_deleteRows Tables.entityKeys (fun _ _ => rfl) _) fun _ => ?_
  refine (brings_map brings_scrubEntities fun _ => ()).mono ?_
  rintro start _ before after ⟨_, _, owners, owned, rfl⟩
  rintro _ ⟨leads, people, inside, rfl⟩ _ ⟨facts, known, rfl⟩ _ ⟨replies, answered, rfl⟩ first
    ⟨touches, said, rfl⟩
  exact .single (.forget ref ids leads owners touches replies facts which
    ⟨people, owned, said, answered, known, inside⟩)

end Scrub

section Forget

/-- An address that has a tombstone. -/
def Ledger.buried (platform : Platform) (l : Ledger) (address : String) : Prop :=
  ∃ hash, tombstoneHash platform address = .ok hash ∧ (l.tombstones hash).isSome = true

theorem Ledger.buried_later (platform : Platform) (address : String) (old new : Ledger)
    (later : Later old new) (buried : old.buried platform address) :
    new.buried platform address := by
  obtain ⟨hash, same, there⟩ := buried
  exact ⟨hash, same, kept_isSome (later.tombstones hash) there⟩

theorem brings_bury (address hash : String) (receiptId : Uuid) (which : ∃ ref, op = .forget ref)
    (hashed : tombstoneHash site.platform address = .ok hash) :
    (outreach site vouch op).Brings held
      (Program.insertNew Tables.forgetTombstones hash
        (fun moment => ⟨receiptId, moment.start.clock, none⟩) : Prog Bool)
      fun start _ before after => Relation.ReflTransGen (Deed site vouch op start) before after ∧
        after.buried site.platform address := by
  refine (ensures_insertNew Tables.forgetTombstones hash _).mono ?_
  rintro start _ before after (⟨busy, _, absent, replaced⟩ | ⟨seen, old, _, glimpse, found, rfl⟩)
  · have burial := ledger_replaced_tombstone replaced
    refine ⟨.single ?_, hash, hashed, ?_⟩
    · change Deed site vouch op start.ledger before.ledger after.ledger
      rw [burial]
      exact .tombstone hash _ which absent rfl
    · change (after.ledger.tombstones hash).isSome = true
      rw [burial]
      simp
  · refine ⟨Relation.ReflTransGen.refl, hash, hashed, ?_⟩
    apply kept_isSome (glimpse.until_.tombstones hash)
    change (seen.forgetTombstones.lookup hash).isSome = true
    rw [found]
    rfl

/-- Only what is buried loses its suppressions. -/
theorem brings_unsuppress (address : String) (ref : ForgetRef) (which : op = .forget ref) :
    (outreach site vouch op).Brings held
      (Program.deleteRows Tables.suppressions (fun _ _ key _ => key.1 = address) :
        Prog (List ((String × String) × Suppression)))
      fun start _ before after => Later before after ∧
        (before.buried site.platform address → Deed site vouch op start before after) := by
  refine (ensures_clear Tables.suppressions _).mono ?_
  rintro start _ before after ⟨seen, busy, picked, table, change⟩
  have theirs : ∀ key, picked key = true → key.1 = address := by
    intro key chosen
    obtain ⟨_, _, _, mine⟩ := change.inside key chosen
    exact of_decide_eq_true mine
  have rows := cleared_of_rows change.rows
  have wrote : after.ledger =
      { before.ledger with suppressions := cleared before.ledger.suppressions picked } := by
    rw [change.wrote]
    simp only [Database.ledger, rows]
  change Later before.ledger after.ledger ∧ (before.ledger.buried site.platform address →
    Deed site vouch op start.ledger before.ledger after.ledger)
  rw [wrote]
  refine ⟨{ later_refl before.ledger with }, ?_⟩
  rintro ⟨hash, hashed, there⟩
  exact .unsuppress ref address hash picked which theirs hashed there

/-- What comes after the addresses are buried and their people erased. -/
theorem brings_cleanup (addresses : List String) (receiptId : Uuid) (count : Payload)
    (ref : ForgetRef) (which : op = .forget ref) :
    (outreach site vouch op).Brings held (do
      addresses.forM fun address => do
        let _ ← Program.deleteRows Tables.suppressions fun _ _ key _ => key.1 = address
      audit "forget" (toString receiptId) "executed" count "operator:forget"
      addresses.forM fun address => do
        let hash ← MonadExcept.ofExcept (tombstoneHash site.platform address)
        let _ ← enqueue .control (.deleteLead address receiptId) (.forget hash))
      fun start _ middle after => (∀ address ∈ addresses, middle.buried site.platform address) →
        Relation.ReflTransGen (Deed site vouch op start) middle after := by
  have clear : ∀ address, (outreach site vouch op).Brings held (do
      let _ ← Program.deleteRows Tables.suppressions fun _ _ key _ => key.1 = address : Prog PUnit)
      fun start _ before after => Later before after ∧ (before.buried site.platform address →
        Relation.ReflTransGen (Deed site vouch op start) before after) := by
    intro address
    refine (brings_map (brings_unsuppress address ref which) fun _ => PUnit.unit).mono ?_
    rintro start _ before after ⟨_, _, later, deed⟩
    exact ⟨later, fun buried => .single (deed buried)⟩
  have tell : ∀ address, (outreach site vouch op).Brings held (do
      let hash ← MonadExcept.ofExcept (tombstoneHash site.platform address)
      let _ ← enqueue .control (.deleteLead address receiptId) (.forget hash) : Prog PUnit)
      fun start _ before after => Later before after ∧ (before.buried site.platform address →
        Relation.ReflTransGen (Deed site vouch op start) before after) := by
    intro address
    cases hashed : tombstoneHash site.platform address with
    | error error => exact brings_throw error
    | ok hash =>
        refine (brings_map (brings_enqueue .control (.deleteLead address receiptId) (.forget hash) 0)
          fun _ => PUnit.unit).mono ?_
        rintro start _ before after ⟨_, _, enqueued⟩
        refine ⟨enqueued_later enqueued, ?_⟩
        rintro ⟨other, same, there⟩
        obtain rfl := Except.ok.inj (hashed.symm.trans same)
        exact .single (.notify address hash receiptId hashed there enqueued)
  refine brings_bind (brings_forM_given (fun _ => Ledger.buried_later site.platform) clear addresses)
    (fun _ _ _ _ done => done.1) fun _ => ?_
  refine brings_after (quiet_audit _ _ _ _ _) fun _ => ?_
  refine (brings_forM_given (fun _ => Ledger.buried_later site.platform) tell addresses).mono ?_
  rintro start _ middle after ⟨_, second⟩ before ⟨later, first⟩ buried
  refine (first buried).trans (second fun address member => ?_)
  exact Ledger.buried_later site.platform address _ _ later (buried address member)

/-- A forget request once its addresses are known. -/
theorem follows_executed (ids : List Uuid) (addresses : List String) (receiptId : Uuid)
    (count : Payload) (ref : ForgetRef) (which : op = .forget ref) :
    (outreach site vouch op).Follows held (do
      addresses.forM fun address => do
        let hash ← MonadExcept.ofExcept (tombstoneHash site.platform address)
        let _ ← Program.insertNew Tables.forgetTombstones hash
          fun moment => ⟨receiptId, moment.start.clock, none⟩
      if !ids.isEmpty then
        scrub ids
      addresses.forM fun address => do
        let _ ← Program.deleteRows Tables.suppressions fun _ _ key _ => key.1 = address
      audit "forget" (toString receiptId) "executed" count "operator:forget"
      addresses.forM fun address => do
        let hash ← MonadExcept.ofExcept (tombstoneHash site.platform address)
        let _ ← enqueue .control (.deleteLead address receiptId) (.forget hash)) := by
  have bury : ∀ address, (outreach site vouch op).Brings held (do
      let hash ← MonadExcept.ofExcept (tombstoneHash site.platform address)
      let _ ← Program.insertNew Tables.forgetTombstones hash
        fun moment => ⟨receiptId, moment.start.clock, none⟩ : Prog PUnit)
      fun start _ before after => Relation.ReflTransGen (Deed site vouch op start) before after ∧
        after.buried site.platform address := by
    intro address
    cases hashed : tombstoneHash site.platform address with
    | error error => exact brings_throw error
    | ok hash =>
        refine (brings_map (brings_bury address hash receiptId ⟨ref, which⟩ hashed) fun _ => PUnit.unit).mono ?_
        rintro start _ before after ⟨_, _, done⟩
        exact done
  refine brings_bind (brings_forM_settled (Ledger.buried_later site.platform) bury addresses)
    (fun _ _ _ _ done => later_of_path done.1) fun _ => ?_
  by_cases none : ids.isEmpty = true
  · rw [if_neg (by simp [none])]
    refine (brings_cleanup addresses receiptId count ref which).mono ?_
    rintro start _ middle after rest before ⟨early, buried⟩
    exact early.trans (rest buried)
  · rw [if_pos (by simp [none])]
    refine brings_bind (follows_scrub ids ref which) (fun _ _ _ _ => later_of_path) fun _ => ?_
    refine (brings_cleanup addresses receiptId count ref which).mono ?_
    rintro start _ third after rest middle scrubbed before ⟨early, buried⟩
    have lasting := fun address member => Ledger.buried_later site.platform address _ _
      (later_of_path scrubbed) (buried address member)
    exact early.trans (scrubbed.trans (rest lasting))

theorem follows_forget (ref : ForgetRef) (which : op = .forget ref) :
    (outreach site vouch op).Follows held (forget site.platform ref) := by
  unfold forget
  refine follows_bind (follows_quiet (quiet_subjects _ _)) fun found => ?_
  obtain ⟨ids, named⟩ := found
  dsimp only
  by_cases unknown : (ids.isEmpty && named.isEmpty) = true
  · rw [if_pos unknown]
    exact follows_throw _
  · rw [if_neg unknown]
    refine follows_bind (follows_quiet (quiet_ask _)) fun receiptId => ?_
    refine follows_bind (follows_quiet (quiet_query _)) fun known => ?_
    exact follows_executed ids (sortedSet (named ++ known)) receiptId _ ref which

/-- The only tombstones a control job stamps are those of its receipt. -/
theorem follows_controlOp (payload : JobPayload)
    (which : ∃ job : Job, op = .handle job ∧ job.queue = .control ∧ job.payload = payload) :
    (outreach site vouch op).Follows held (controlOp site payload) := by
  cases payload with
  | pauseLead email scope => exact follows_quiet (quiet_pauseLead _ _)
  | pauseAllCampaigns scope => exact follows_quiet (quiet_pauseAllCampaigns _ _)
  | deleteLead email receiptId =>
      refine follows_bind (follows_quiet (quiet_pauseLead _ _)) fun _ => ?_
      refine follows_bind ?_ fun _ => follows_pure _
      have stamp : (outreach site vouch op).Brings held
          (Program.updateChecked Tables.forgetTombstones none (fun _ _ _ _ => (none : Option Exc))
            (fun _ _ _ row => row.receiptId = receiptId)
            fun moment row => { row with providerPropagatedAt := some moment.start.clock } :
            Prog (List (String × Tombstone)))
          fun start _ before after => Deed site vouch op start before after := by
        refine (ensures_updateChecked Tables.forgetTombstones none _ _ _).mono ?_
        rintro start rows before after ⟨seen, busy, updated⟩
        obtain ⟨table, wrote, lookups⟩ := updated.table
        have theirs : ∀ hash row, decide (hash ∈ rows.map Prod.fst) = true →
            before.ledger.tombstones hash = some row → row.receiptId = receiptId := by
          intro hash row chosen found
          obtain ⟨⟨_, old⟩, member, rfl⟩ := List.mem_map.1 (of_decide_eq_true chosen)
          have present : before.ledger.tombstones _ = some old := updated.present _ member
          obtain rfl := Option.some.inj (present.symm.trans found)
          exact of_decide_eq_true (updated.picked member).2
        have deed : Deed site vouch op start.ledger before.ledger _ :=
          .propagate email receiptId (fun hash => hash ∈ rows.map Prod.fst) which theirs
        have changes := changed_of_lookups lookups
        change Deed site vouch op start.ledger before.ledger after.ledger
        rw [wrote]
        simp only [Database.ledger, changes]
        exact deed
      exact follows_of_brings stamp fun _ _ _ _ deed => .single deed
  | _ => exact follows_throw _

end Forget

end OpenReachout
