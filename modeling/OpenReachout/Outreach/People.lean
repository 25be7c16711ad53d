import OpenReachout.Outreach.Drafts

/-!
# People

How a person enters the ledger, is enriched and qualified, and is forgotten.
-/

namespace OpenReachout

open Relational Relational.Abstraction Text

set_option autoImplicit false

variable {site : Deployment} {vouch : Mark → Ledger → Prop} {op : Op} {held : List RowLock}

section Suppressed

theorem suppressed_iff (db : Database) (time : Time) (address tenant hash : String) :
    suppressedIn db time address tenant hash = true ↔
      db.ledger.suppressed time address tenant hash := by
  unfold suppressedIn Ledger.suppressed
  rw [Bool.or_eq_true]
  refine or_congr ?_ Iff.rfl
  rw [Bool.not_eq_true', List.isEmpty_eq_false_iff_exists_mem]
  constructor
  · rintro ⟨⟨⟨email, scope⟩, row⟩, member⟩
    obtain ⟨present, picked⟩ := (Table.mem_select_iff _ _ _ _).1 member
    simp only [Bool.and_eq_true, Bool.or_eq_true, decide_eq_true_eq] at picked
    obtain ⟨⟨rfl, covers⟩, active⟩ := picked
    exact ⟨scope, row, covers, present, active⟩
  · rintro ⟨scope, row, covers, present, active⟩
    refine ⟨((address, scope), row), (Table.mem_select_iff _ _ _ _).2 ⟨present, ?_⟩⟩
    simp [covers, active]

/-- An address that was not suppressed when it was looked up. -/
def Cleared (vouch : Mark → Ledger → Prop) (platform : Platform) (address tenant : String)
    (start : Ledger) : Prop :=
  ∃ hash seen, tombstoneHash platform address = .ok hash ∧ Later start seen ∧
    vouch (.isSuppressed address tenant) seen ∧ ¬ seen.suppressed start.clock address tenant hash

theorem brings_isSuppressed (platform : Platform) (address tenant : String) :
    (outreach site vouch op).Brings held (isSuppressed platform address tenant)
      fun start found before after =>
        (found = false → Cleared vouch platform address tenant start) ∧ after = before := by
  unfold isSuppressed
  have hashed : (outreach site vouch op).Brings held
      (MonadExcept.ofExcept (tombstoneHash platform address) : Prog String)
      fun _ hash before after => tombstoneHash platform address = .ok hash ∧ after = before :=
    brings_ofExcept _ fun hash same _ _ => ⟨same, rfl⟩
  refine brings_bind hashed ?_ fun hash => ?_
  · rintro start hash before _ ⟨_, rfl⟩
    exact later_refl _
  · refine (ensures_markedQuery _ _).mono ?_
    rintro start found db after ⟨seen, busy, glimpse, rfl, vouched, rfl⟩ before ⟨same, rfl⟩
    refine ⟨fun absent => ⟨hash, seen.ledger, same, glimpse.since, vouched, ?_⟩, rfl⟩
    rw [← suppressed_iff]
    exact Bool.eq_false_iff.1 absent

theorem brings_screenAtIngest (platform : Platform) (raw tenant : String) :
    (outreach site vouch op).Brings held (screenAtIngest platform raw tenant)
      fun start passed before after =>
        (passed = true → ∃ canonical, canonicalize platform raw = .ok canonical ∧
          Cleared vouch platform canonical tenant start) ∧ after = before := by
  unfold screenAtIngest
  split
  · exact brings_pure _ fun _ _ => ⟨nofun, rfl⟩
  · rename_i canonical same
    refine (brings_map (brings_isSuppressed platform canonical tenant) _).mono ?_
    rintro start passed before after ⟨found, rfl, cleared, unchanged⟩
    exact ⟨fun absent => ⟨canonical, same, cleared (by simpa using absent)⟩, unchanged⟩

end Suppressed

section Ingest

/-- The entity of a candidate, found or made. -/
def Resolved (entityId : Uuid) (before after : Ledger) : Prop :=
  (after.entities entityId).isSome = true ∧ (after = before ∨ ∃ owner : Entity,
    before.entities entityId = none ∧ owner.activeSequenceTouchId = none ∧
    owner.touches12mo = 0 ∧ owner.forgotten = false ∧ after = before.setEntity entityId owner)

theorem resolved_later {entityId : Uuid} {before after : Ledger}
    (resolved : Resolved entityId before after) : Later before after := by
  obtain ⟨_, rfl | ⟨owner, absent, _, _, _, rfl⟩⟩ := resolved
  · exact later_refl _
  · apply later_set_entity
    rw [absent]
    exact kept_none _

theorem path_of_resolved {entityId : Uuid} {start before after : Ledger}
    (resolved : Resolved entityId before after) :
    Relation.ReflTransGen (Deed site vouch op start) before after := by
  obtain ⟨_, rfl | ⟨owner, absent, free, fresh, known, rfl⟩⟩ := resolved
  · exact .refl
  · exact .single (.entity entityId owner absent free fresh known)

theorem brings_newEntity (entityId tenantId : Uuid) (name : String) :
    (outreach site vouch op).Brings held
      (Program.insertRow Tables.entities none integrityError (fun _ _ _ => none) entityId
        fun _ => { tenantId, displayName := some name } : Prog Unit)
      fun _ _ before after => Resolved entityId before after := by
  refine (ensures_insertRow Tables.entities none _ _ entityId _).mono ?_
  rintro start _ before after ⟨_, _, _, _, absent, replaced⟩
  rw [show (outreach site vouch op).of after = _ from ledger_replaced_entity replaced]
  refine ⟨?_, Or.inr ⟨_, absent, rfl, rfl, rfl, rfl⟩⟩
  simp

/-- The keys of a candidate are noted for its entity. -/
theorem brings_noteKeys (keys : List (String × String)) (resolution : Resolution) :
    (outreach site vouch op).Brings held
      (keys.forM (fun key => do
        let _ ← Program.insertNew Tables.entityKeys key fun _ => resolution.entityId
        pure () : _ → Prog PUnit) >>= fun _ => pure resolution)
      fun _ result before after => result = resolution ∧ after = before := by
  refine brings_after (quiet_forM (fun key => ?_) _) fun _ => brings_pure _ fun _ _ => ⟨rfl, rfl⟩
  exact quiet_bind (quiet_insertNew Tables.entityKeys (fun _ _ => rfl) _ _) fun _ => quiet_pure _

theorem brings_resolveEntity (platform : Platform) (tenantId : Uuid) (candidate : Candidate) :
    (outreach site vouch op).Brings held (resolveEntity platform tenantId candidate)
      fun _ resolution before after => Resolved resolution.entityId before after := by
  unfold resolveEntity
  refine brings_from (ensures_query _) ?_ fun found => ?_
  · rintro start found before after ⟨_, _, _, _, rfl⟩
    exact later_refl _
  dsimp only
  match same : found.eraseDups with
  | [] =>
      dsimp only
      refine ensures_bind (ensures_quiet (quiet_ask _)) (fun _ _ _ _ => quiet_rely) fun fresh =>
        ensures_bind (brings_newEntity fresh tenantId candidate.displayName).ensures
          (fun _ _ _ _ => resolved_later) fun _ => ?_
      refine (brings_noteKeys _ ⟨fresh, _⟩).ensures.mono ?_
      rintro start _ final after ⟨rfl, noted⟩ made resolved asked quiet before ⟨_, _, _, _, rfl⟩
      change after.ledger = _ at noted
      change made.ledger = asked.ledger at quiet
      rw [noted, ← quiet]
      exact resolved
  | first :: rest =>
      dsimp only
      refine (brings_noteKeys _ ⟨first, _⟩).ensures.mono ?_
      rintro start _ middle after ⟨rfl, noted⟩ before ⟨seen, busy, glimpse, rfl, rfl⟩
      have member : first ∈ (List.filterMap seen.entityKeys.lookup
          (deterministicKeys platform candidate)).filter fun id =>
            (seen.entities.lookup id).any fun row => row.tenantId = tenantId := by
        rw [← List.mem_eraseDups, same]
        exact List.mem_cons_self
      have picked := (List.mem_filter.1 member).2
      refine ⟨?_, Or.inl noted⟩
      change after.ledger = middle.ledger at noted
      rw [noted]
      apply kept_isSome (glimpse.until_.entities first)
      obtain ⟨row, there, _⟩ := Option.any_eq_true .. |>.1 picked
      exact Option.isSome_iff_exists.2 ⟨row, there⟩

/-- A prospect that is taken in is screened, unless it has no address. -/
def Screened (vouch : Mark → Ledger → Prop) (platform : Platform) (raw : Option String)
    (tenant : String) (start : Ledger) : Prop :=
  ∀ text, nonEmpty raw = some text → ∃ canonical, canonicalize platform text = .ok canonical ∧
    Cleared vouch platform canonical tenant start

theorem brings_newProspect (prospectId : Uuid) (row : Prospect) :
    (outreach site vouch op).Brings held
      (Program.insertRow Tables.prospects none integrityError
        (fun _ db row =>
          if (db.entities.lookup row.entityId).isNone then some integrityError else none)
        prospectId fun _ => row : Prog Unit)
      fun _ _ before after => before.prospects prospectId = none ∧
        (before.entities row.entityId).isSome = true ∧ after = before.setProspect prospectId row := by
  refine (ensures_insertRow Tables.prospects none _ _ prospectId _).mono ?_
  rintro start _ before after ⟨seen, _, glimpse, accepted, absent, replaced⟩
  have owner : (seen.entities.lookup row.entityId).isSome = true := by
    cases there : seen.entities.lookup row.entityId with
    | some owner => rfl
    | none =>
        rw [there] at accepted
        simp at accepted
  exact ⟨absent, kept_isSome (glimpse.until_.entities _) owner, ledger_replaced_prospect replaced⟩

/-- The last part of `ingest_candidate`, once the entity is known. -/
theorem brings_takeIn (runtime : TenantRuntime) (persona : PersonaSpec) (cohortId : String)
    (candidate : Candidate) (entityId : Uuid) (discovers : op.discovers)
    (known : ∃ name, (name, runtime) ∈ site.runtimes) :
    (outreach site vouch op).Brings held
      (do
        let existing ← Program.query fun _ db => db.prospectIndex.lookup (cohortId, entityId)
        if existing.isSome then
          pure none
        else
          let prospectId ← freshUuid
          if !(← Program.insertNew Tables.prospectIndex (cohortId, entityId)
              fun _ => prospectId) then
            throw integrityError
          Program.insertRow Tables.prospects none integrityError
            (fun _ db row =>
              if (db.entities.lookup row.entityId).isNone then some integrityError else none)
            prospectId fun _ =>
              { tenantId := runtime.tenantId, entityId, cohortId
                personaId := persona.id, state := .discovered, emailRaw := candidate.emailRaw
                sourceAdapter := candidate.sourceAdapter, sourceRef := candidate.sourceRef
                dataBasis := candidate.dataBasis }
          let _ ← enqueue .enrich (.prospect prospectId) (.enrich prospectId)
          pure (some prospectId) : Prog (Option Uuid))
      fun start _ before after => Screened vouch site.platform candidate.emailRaw runtime.tenant start →
          Relation.ReflTransGen (Deed site vouch op start) before after := by
  refine brings_after (quiet_query _) fun existing => ?_
  by_cases present : existing.isSome = true
  · rw [if_pos present]
    exact brings_pure _ fun _ _ _ => Relation.ReflTransGen.refl
  rw [if_neg present]
  refine brings_after (quiet_ask _) fun prospectId =>
    brings_after (quiet_insertNew Tables.prospectIndex (fun _ _ => rfl) _ _) fun fresh => ?_
  dsimp only
  by_cases stale : (!fresh) = true
  · rw [if_pos stale]
    exact brings_throw _
  rw [if_neg stale]
  refine brings_bind (brings_newProspect prospectId _) ?_ fun _ => ?_
  · rintro start _ before _ ⟨absent, owner, rfl⟩
    apply later_set_prospect
    · rw [absent]
      exact kept_none _
    · exact fun _ => owner
  · refine (follows_bind (follows_enqueue .enrich (.prospect prospectId) (.enrich prospectId) _ rfl
      ⟨by simp, by simp, by simp⟩) fun _ => follows_pure _).brings.mono ?_
    rintro start _ middle after rest before ⟨absent, owner, rfl⟩ screened
    refine .head (.prospect prospectId _ runtime discovers known rfl absent rfl rfl owner ?_) rest
    intro raw same
    obtain ⟨canonical, canonical_ok, hash, seen, hash_ok, since, vouched, clear⟩ :=
      screened raw same
    exact ⟨canonical, hash, seen, canonical_ok, hash_ok, since, vouched, clear⟩

theorem follows_ingestCandidate (runtime : TenantRuntime) (persona : PersonaSpec)
    (cohortId : String) (candidate : Candidate) (discovers : op.discovers)
    (known : ∃ name, (name, runtime) ∈ site.runtimes) :
    (outreach site vouch op).Follows held
      (ingestCandidate site runtime persona cohortId candidate) := by
  unfold ingestCandidate
  dsimp only
  split_ifs
  · exact follows_pure _
  have resolved : ∀ tail : Resolution → Prog (Option Uuid),
      (∀ resolution, (outreach site vouch op).Brings held (tail resolution)
        fun start _ before after =>
          Screened vouch site.platform candidate.emailRaw runtime.tenant start →
            Relation.ReflTransGen (Deed site vouch op start) before after) →
      (outreach site vouch op).Brings held
        (resolveEntity site.platform runtime.tenantId candidate >>= tail)
        fun start _ before after =>
          Screened vouch site.platform candidate.emailRaw runtime.tenant start →
            Relation.ReflTransGen (Deed site vouch op start) before after := by
    intro tail follows
    refine brings_bind (brings_resolveEntity _ _ _) (fun _ _ _ _ => resolved_later) fun resolution =>
      (follows resolution).mono ?_
    intro start _ middle after rest before resolved screened
    exact (path_of_resolved resolved).trans (rest screened)
  split
  · rename_i raw same
    refine brings_seen (brings_screenAtIngest site.platform raw runtime.tenant) fun passed => ?_
    by_cases refused : (!passed) = true
    · rw [if_pos refused]
      exact brings_pure _ fun _ _ _ => Relation.ReflTransGen.refl
    rw [if_neg refused]
    refine (resolved _ fun resolution => ?_).mono ?_
    · by_cases conflict : resolution.mergeConflict = true
      · rw [if_pos conflict]
        exact brings_after (quiet_escalate _ _ _ _ _) fun _ =>
          brings_takeIn runtime persona cohortId candidate resolution.entityId discovers known
      · rw [if_neg conflict]
        exact brings_takeIn runtime persona cohortId candidate resolution.entityId discovers known
    · intro start _ before after path screened
      refine path fun text other => ?_
      obtain rfl := Option.some.inj (same.symm.trans other)
      exact screened (by simpa using refused)
  · rename_i same
    refine (resolved _ fun resolution => ?_).mono ?_
    · by_cases conflict : resolution.mergeConflict = true
      · rw [if_pos conflict]
        exact brings_after (quiet_escalate _ _ _ _ _) fun _ =>
          brings_takeIn runtime persona cohortId candidate resolution.entityId discovers known
      · rw [if_neg conflict]
        exact brings_takeIn runtime persona cohortId candidate resolution.entityId discovers known
    · intro start _ before after path
      exact path fun text other => absurd (same.symm.trans other) (by simp)

theorem follows_discover (tenant personaId cohortId : String) (extraFilters : Payload)
    (cursor : Option String) (discovers : op.discovers) :
    (outreach site vouch op).Follows held
      (discover site tenant personaId cohortId extraFilters cursor) := by
  unfold discover
  split
  · exact follows_throw _
  rename_i runtime found
  have known : ∃ name, (name, runtime) ∈ site.runtimes := by
    obtain ⟨_, _, split, _⟩ := List.lookup_eq_some_iff.1 found
    refine ⟨tenant, ?_⟩
    rw [split]
    simp
  split
  · exact follows_throw _
  rename_i persona _
  split
  · exact follows_throw _
  rename_i cohort _
  split
  · exact follows_throw _
  refine follows_bind (follows_quiet (quiet_attempt _ _)) fun result =>
    follows_bind (follows_forM (fun candidate => ?_) _) fun _ => ?_
  · exact follows_bind
      (follows_ingestCandidate runtime persona cohort.id candidate discovers known) fun _ =>
        follows_pure _
  · split
    · exact follows_pure _
    · exact follows_bind (follows_enqueue _ _ _ _ rfl ⟨by simp, by simp, by simp⟩) fun _ => follows_pure _

theorem follows_seedDiscovery (runtime : TenantRuntime) :
    (outreach site vouch op).Follows held (seedDiscovery runtime) := by
  refine follows_forM (fun persona => follows_forM (fun cohort => ?_) _) _
  split_ifs
  · exact follows_pure _
  · exact follows_bind (follows_enqueue _ _ _ _ rfl ⟨by simp, by simp, by simp⟩) fun _ => follows_pure _

end Ingest

section Enrichment

/-- Facts of one prospect are replaced. -/
def FactsOf (prospectId : Uuid) (before after : Ledger) : Prop :=
  ∃ facts, after = { before with facts } ∧ ∀ id, facts id = before.facts id ∨
    (∀ fact, facts id = some fact → fact.prospectId = prospectId) ∧
      ∀ fact, before.facts id = some fact → fact.prospectId = prospectId

theorem facts_refl (prospectId : Uuid) (l : Ledger) : FactsOf prospectId l l :=
  ⟨l.facts, rfl, fun _ => Or.inl rfl⟩

theorem facts_trans {prospectId : Uuid} {first second third : Ledger}
    (one : FactsOf prospectId first second) (two : FactsOf prospectId second third) :
    FactsOf prospectId first third := by
  obtain ⟨early, rfl, before⟩ := one
  obtain ⟨late, rfl, after⟩ := two
  refine ⟨late, rfl, fun id => ?_⟩
  rcases before id with same | theirs
  · rcases after id with equal | others
    · exact Or.inl (equal.trans same)
    · refine Or.inr ⟨others.1, fun fact present => others.2 fact ?_⟩
      exact same.trans present
  · rcases after id with equal | others
    · refine Or.inr ⟨fun fact present => theirs.1 fact ?_, theirs.2⟩
      exact equal.symm.trans present
    · exact Or.inr ⟨others.1, theirs.2⟩

theorem later_facts {prospectId : Uuid} {before after : Ledger}
    (facts : FactsOf prospectId before after) : Later before after := by
  obtain ⟨_, rfl, _⟩ := facts
  exact { later_refl before with }

theorem brings_storeEvidence (prospectId : Uuid) (card : List Fact) :
    (outreach site vouch op).Brings held (storeEvidence prospectId card)
      fun _ _ before after => FactsOf prospectId before after := by
  unfold storeEvidence
  have deletes : (outreach site vouch op).Brings held
      (Program.deleteRows Tables.evidenceFacts (fun _ _ _ row => row.prospectId = prospectId) :
        Prog (List (Uuid × EvidenceFact)))
      fun _ _ before after => FactsOf prospectId before after := by
    refine (ensures_deleteRows Tables.evidenceFacts _).mono ?_
    rintro start rows before after ⟨seen, busy, glimpse, chosen, kept, table, rfl, lookups⟩
    refine ⟨table.lookup, rfl, fun id => ?_⟩
    by_cases picked : id ∈ rows.map Prod.fst
    · refine Or.inr ⟨fun fact present => ?_, fun fact present => ?_⟩
      · rw [lookups, if_pos picked] at present
        cases present
      · obtain ⟨⟨_, row⟩, member, rfl⟩ := List.mem_map.1 picked
        obtain rfl := Option.some.inj ((kept _ member).symm.trans present)
        rw [chosen] at member
        exact of_decide_eq_true ((Table.mem_select_iff _ _ _ _).1 member).2
    · exact Or.inl ((lookups id).trans (if_neg picked))
  have insert : ∀ fact : Fact, (outreach site vouch op).Brings held
      (do
        let id ← freshUuid
        Program.insertRow Tables.evidenceFacts none integrityError (fun _ _ _ => none) id
          fun _ => ⟨prospectId, fact.factType, fact.content, fact.sourceUrl, fact.observedAt⟩ :
        Prog PUnit)
      fun _ _ before after => FactsOf prospectId before after := by
    intro fact
    refine brings_after (quiet_ask _) fun id => ?_
    refine (ensures_insertRow Tables.evidenceFacts none _ _ id _).mono ?_
    rintro start _ before after ⟨_, _, _, _, absent, table, rfl, lookups⟩
    refine ⟨table.lookup, rfl, fun other => ?_⟩
    rw [lookups]
    by_cases same : other = id
    · subst same
      refine Or.inr ⟨fun row present => ?_, fun row present => ?_⟩
      · rw [Function.update_self] at present
        obtain rfl := Option.some.inj present
        rfl
      · have free : before.ledger.facts other = none := absent
        have there : before.ledger.facts other = some row := present
        rw [free] at there
        cases there
    · exact Or.inl (Function.update_of_ne same _ _)
  have inserts := ensures_forM card (fun fact _ => (insert fact).ensures)
    (fun _ _ => facts_refl _ _) (fun one two => facts_trans one two) later_facts
  refine brings_bind deletes (fun _ _ _ _ => later_facts) fun _ => inserts.mono ?_
  exact fun _ _ _ _ late _ early => facts_trans early late

/-- The address of a prospect is set, whatever its state. -/
def Readdressed (vouch : Mark → Ledger → Prop) (platform : Platform) (prospectId : Uuid)
    (address : String) (bucket : ConfidenceBucket) (start before after : Ledger) : Prop :=
  (after = before ∧ ∃ seen, Later start seen ∧ seen.prospects prospectId = none) ∨
    ∃ lead, before.prospects prospectId = some lead ∧
      (∃ seen : Ledger, vouch (.attach prospectId address) seen ∧
        seen.prospects prospectId = some lead) ∧
      after = before.setProspect prospectId { lead with
        emailRaw := some address, emailCanonical := canon platform address
        emailConfidence := some bucket }

theorem later_readdressed {platform : Platform} {prospectId : Uuid} {address : String}
    {bucket : ConfidenceBucket} {start before after : Ledger}
    (set : Readdressed vouch platform prospectId address bucket start before after) :
    Later before after := by
  rcases set with ⟨rfl, _⟩ | ⟨lead, found, _, rfl⟩
  · exact later_refl _
  · exact later_move_prospect found ⟨rfl, rfl, rfl, rfl, .refl⟩

theorem brings_attachAddress (prospectId : Uuid) (address : String) (bucket : ConfidenceBucket) :
    (outreach site vouch op).Brings held (attachAddress site prospectId address bucket)
      fun start _ before after =>
        Readdressed vouch site.platform prospectId address bucket start before after := by
  unfold attachAddress
  have wrote : (outreach site vouch op).Brings held
      (Program.updateChecked Tables.prospects (some (.attach prospectId address))
        (fun _ _ _ _ => (none : Option Exc)) (fun _ _ id _ => id = prospectId)
        fun _ row =>
          { row with
            emailRaw := some address
            emailCanonical := canon site.platform address
            emailConfidence := some bucket } : Prog (List (Uuid × Prospect)))
      fun start _ before after =>
        Readdressed vouch site.platform prospectId address bucket start before after := by
    refine (ensures_updateChecked Tables.prospects (some (Mark.attach prospectId address))
      _ _ _).mono ?_
    rintro start rows before after ⟨seen, busy, updated⟩
    rcases updated.single one_key with ⟨empty, same⟩ | ⟨key, row, _, present, there, picked, replaced⟩
    · have same : after.ledger = before.ledger := by rw [same]
      refine Or.inl ⟨same, seen.ledger, updated.glimpse.since, ?_⟩
      cases there : seen.prospects.lookup prospectId with
      | none => exact there
      | some row =>
          have hit := updated.hit there (decide_eq_true rfl)
          rw [empty] at hit
          cases hit
    · obtain rfl := of_decide_eq_true picked
      exact Or.inr ⟨row, present, ⟨seen.ledger, updated.vouched _ rfl, there⟩,
        ledger_replaced_prospect replaced⟩
  refine (brings_map wrote fun _ => ()).mono ?_
  rintro start _ before after ⟨_, _, done⟩
  exact done

/-- An enrichment, from the facts to the new state, is one deed. -/
theorem deed_of_enriched {prospectId : Uuid} {start before middle after : Ledger}
    {address : String} {bucket : ConfidenceBucket} {target : ProspectState}
    (which : op.works .enrich prospectId) (facts : FactsOf prospectId before middle)
    {between : Ledger}
    (set : Readdressed vouch site.platform prospectId address bucket start middle between)
    (moved : Moved prospectId target between after)
    (verdict : target = if bucket = .verified then .enriched else .unenrichable) :
    Deed site vouch op start before after := by
  obtain ⟨rows, rfl, theirs⟩ := facts
  obtain ⟨lead, found, edge, rfl⟩ := moved
  have fresh : lead.state = .discovered := by
    rw [verdict] at edge
    revert edge
    cases lead.state <;> split_ifs <;> first | (intro; rfl) | exact fun edge => absurd edge (by decide)
  rcases set with ⟨rfl, seen, since, absent⟩ | ⟨old, there, vouched, rfl⟩
  · refine .enrich prospectId lead _ rows which found fresh ?_ theirs
    rw [verdict]
    split_ifs
    · exact Or.inr (Or.inr ⟨seen, since, absent, rfl⟩)
    · exact Or.inl rfl
  · have same : some lead = some { old with
        emailRaw := some address, emailCanonical := canon site.platform address
        emailConfidence := some bucket } := found.symm.trans (Function.update_self _ _ _)
    obtain rfl := Option.some.inj same
    obtain ⟨seen, vouched, shown⟩ := vouched
    have deed : Deed site vouch op start before _ := .enrich prospectId old
      (old.addressed site.platform address bucket) rows which there fresh
      (Or.inr (Or.inl ⟨address, bucket, rfl, seen, vouched, shown.trans there.symm⟩)) theirs
    unfold Ledger.setProspect
    rw [Function.update_idem, verdict]
    exact deed

/-- A prospect without an address. -/
theorem deed_of_unaddressed {prospectId : Uuid} {start before middle after : Ledger}
    (which : op.works .enrich prospectId) (facts : FactsOf prospectId before middle)
    (moved : Moved prospectId .unenrichable middle after) :
    Deed site vouch op start before after := by
  obtain ⟨rows, rfl, theirs⟩ := facts
  obtain ⟨lead, found, edge, rfl⟩ := moved
  have fresh : lead.state = .discovered := by
    revert edge
    cases lead.state <;> first | (intro; rfl) | exact fun edge => absurd edge (by decide)
  exact .enrich prospectId lead _ rows which found fresh (Or.inl rfl) theirs

/-- From the verified address to the queue of qualification. -/
theorem brings_enriched (prospectId : Uuid) (address : String) (bucket : ConfidenceBucket)
    (which : op.works .enrich prospectId) :
    (outreach site vouch op).Brings held (do
      attachAddress site prospectId address bucket
      if bucket ≠ .verified then
        transition prospectId .unenrichable "system:enrich"
      else
        transition prospectId .enriched "system:enrich"
        let _ ← enqueue .qualify (.prospect prospectId) (.qualify prospectId))
      fun start _ middle after => ∀ before, FactsOf prospectId before middle →
        Relation.ReflTransGen (Deed site vouch op start) before after := by
  refine brings_bind (brings_attachAddress prospectId address bucket)
    (fun _ _ _ _ => later_readdressed) fun _ => ?_
  by_cases verified : bucket = .verified
  · rw [if_neg (not_not.2 verified)]
    have enqueued : (outreach site vouch op).Follows held _ := follows_enqueue .qualify
      (.prospect prospectId) (.qualify prospectId) 0 rfl ⟨by simp, by simp, by simp⟩
    refine brings_bind (brings_transition "system:enrich" "") (fun _ _ _ _ => later_moved)
      fun _ => (follows_bind enqueued fun _ => follows_pure _).mono ?_
    intro start _ middle after rest between moved early set before facts
    have verdict : ProspectState.enriched = if bucket = .verified then .enriched else .unenrichable :=
      (if_pos verified).symm
    exact .head (deed_of_enriched which facts set moved verdict) rest
  · rw [if_pos verified]
    refine (brings_transition "system:enrich" "").mono ?_
    intro start _ between after moved middle set before facts
    have verdict : ProspectState.unenrichable =
      if bucket = .verified then .enriched else .unenrichable := (if_neg verified).symm
    exact .single (deed_of_enriched which facts set moved verdict)

/-- An enrichment once an address was looked for. -/
theorem brings_addressed (prospectId : Uuid) (address : Option String)
    (which : op.works .enrich prospectId) :
    (outreach site vouch op).Brings held (match address with
      | none => transition prospectId .unenrichable "system:enrich"
      | some address => do
          let bucket ← attempt (.verify address) rfl
          attachAddress site prospectId address bucket
          if bucket ≠ .verified then
            transition prospectId .unenrichable "system:enrich"
          else
            transition prospectId .enriched "system:enrich"
            let _ ← enqueue .qualify (.prospect prospectId) (.qualify prospectId))
      fun start _ middle after => ∀ before, FactsOf prospectId before middle →
        Relation.ReflTransGen (Deed site vouch op start) before after := by
  cases address with
  | none =>
      refine (brings_transition "system:enrich" "").mono ?_
      intro start _ middle after moved before facts
      exact .single (deed_of_unaddressed which facts moved)
  | some address =>
      exact brings_after (quiet_attempt _ _) fun bucket =>
        brings_enriched prospectId address bucket which

theorem follows_enrich (prospectId : Uuid) (which : op.works .enrich prospectId) :
    (outreach site vouch op).Follows held (enrich site prospectId) := by
  unfold enrich
  refine follows_bind (follows_quiet (quiet_query _)) fun loaded => ?_
  dsimp only
  split
  · exact follows_pure _
  · next candidate =>
      refine follows_bind (follows_quiet (quiet_attempt _ _)) fun card => ?_
      refine brings_bind (brings_storeEvidence prospectId card) (fun _ _ _ _ => later_facts)
        fun _ => ?_
      split
      · exact brings_after (quiet_pure _) fun address => brings_addressed prospectId address which
      · exact brings_after (quiet_attempt _ _) fun address =>
          brings_addressed prospectId address which

end Enrichment

section Qualification

/-- The two transitions of a qualified prospect are one deed. -/
theorem deed_of_qualified {prospectId : Uuid} {start before middle after : Ledger}
    (which : op.works .qualify prospectId) (qualified : Moved prospectId .qualified before middle)
    (queued : Moved prospectId .queued middle after) : Deed site vouch op start before after := by
  obtain ⟨lead, found, edge, rfl⟩ := qualified
  obtain ⟨other, there, _, rfl⟩ := queued
  have same : some other = some { lead with state := .qualified } :=
    there.symm.trans (Function.update_self _ _ _)
  obtain rfl := Option.some.inj same
  have ready : lead.state = .enriched := by
    revert edge
    cases lead.state <;> first | (intro; rfl) | exact fun edge => absurd edge (by decide)
  have deed : Deed site vouch op start before _ := .qualify prospectId lead which found ready
  unfold Ledger.setProspect
  rw [Function.update_idem]
  exact deed

theorem follows_qualified (prospectId : Uuid) (reason : String)
    (which : op.works .qualify prospectId) :
    (outreach site vouch op).Follows held (do
      transition prospectId .qualified "system:qualify" reason
      transition prospectId .queued "system:qualify" "qualified: entering the compose queue"
      let _ ← enqueue .compose (.compose prospectId 0) (.compose prospectId)) := by
  have enqueued : (outreach site vouch op).Follows held _ := follows_enqueue .compose
    (.compose prospectId 0) (.compose prospectId) 0 rfl ⟨rfl, rfl⟩
  refine brings_bind (brings_transition _ _) (fun _ _ _ _ => later_moved) fun _ => ?_
  refine brings_bind (brings_transition _ _) (fun _ _ _ _ => later_moved) fun _ => ?_
  refine (follows_bind enqueued fun _ => follows_pure _).mono ?_
  intro start _ third after rest second queued before qualified
  exact .head (deed_of_qualified which qualified queued) rest

theorem follows_qualify (prospectId : Uuid) (which : op.works .qualify prospectId) :
    (outreach site vouch op).Follows held (qualify site prospectId) := by
  unfold qualify
  refine follows_bind (follows_quiet (quiet_personaAndCandidate _ _ _)) fun loaded => ?_
  refine follows_bind (follows_quiet (quiet_loadCard _)) fun card => ?_
  dsimp only
  split
  · refine follows_bind (follows_quiet (quiet_attempt _ _)) fun verdict => ?_
    by_cases suspect : verdict.escalate = true
    · rw [if_pos suspect]
      exact follows_bind (follows_quiet (quiet_escalate _ _ _ _ _)) fun _ =>
        follows_transition _ _ rfl
    · rw [if_neg suspect]
      by_cases unfit : (!verdict.qualified) = true
      · rw [if_pos unfit]
        exact follows_transition _ _ rfl
      · rw [if_neg unfit]
        exact follows_qualified prospectId _ which
  · exact follows_pure _

end Qualification

end OpenReachout
