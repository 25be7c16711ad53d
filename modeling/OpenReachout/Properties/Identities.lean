import OpenReachout.Outreach.Keeping
import OpenReachout.Properties.Recipients

/-!
# Addresses and evidence

The address of a prospect and its evidence are written when it is enriched. From then on
both stay as they are until the prospect is forgotten.
-/

namespace OpenReachout

open Relational Text

set_option autoImplicit false

variable {site : Deployment} {vouch : Mark → Ledger → Prop} {op : Op} {start l after : Ledger}
variable {world later : World}

section Addresses

/-- What a prospect is written to under. -/
def Prospect.contact (lead : Prospect) :
    Option String × Option String × Option ConfidenceBucket :=
  (lead.emailRaw, lead.emailCanonical, lead.emailConfidence)

/-- The canonical address is that of the raw one, there is none before the enrichment, and
neither is left of a prospect that is forgotten. -/
structure Identified (site : Deployment) (l : Ledger) : Prop where
  canonical : ∀ id lead address, l.prospects id = some lead →
    lead.emailCanonical = some address →
      ∃ raw, lead.emailRaw = some raw ∧ canon site.platform raw = some address
  fresh : ∀ id lead, l.prospects id = some lead → lead.state = .discovered →
    lead.emailCanonical = none
  gone : ∀ id lead, l.prospects id = some lead → lead.state = .forgotten →
    lead.emailRaw = none ∧ lead.emailCanonical = none

theorem identified_deed (deed : Deed site vouch op start l after)
    (identified : Identified site l) : Identified site after := by
  refine ⟨fun id lead address present known => ?_, fun id lead present fresh => ?_,
    fun id lead present gone => ?_⟩
  · rcases prospect_of_deed deed present with same | ⟨_, _, taken⟩ | ⟨old, found, step⟩
    · exact identified.canonical id lead address same known
    · rw [taken.unresolved] at known
      cases known
    · cases step with
      | move target alive stable edges => exact identified.canonical id old address found known
      | address raw bucket which fresh vouched => exact ⟨raw, rfl, known⟩
      | erase ref which => cases known
  · rcases prospect_of_deed deed present with same | ⟨_, _, taken⟩ | ⟨old, found, step⟩
    · exact identified.fresh id lead same fresh
    · exact taken.unresolved
    · cases step with
      | move target alive stable edges =>
          exact identified.fresh id old found (discovered_before edges fresh)
      | address raw bucket which young vouched =>
          change (if bucket = .verified then ProspectState.enriched else .unenrichable) = _ at fresh
          split_ifs at fresh
      | erase ref which => rfl
  · rcases prospect_of_deed deed present with same | ⟨_, _, taken⟩ | ⟨old, found, step⟩
    · exact identified.gone id lead same gone
    · rw [taken.state] at gone
      cases gone
    · cases step with
      | move target alive stable edges => exact absurd gone alive
      | address raw bucket which young vouched =>
          change (if bucket = .verified then ProspectState.enriched else .unenrichable) = _ at gone
          split_ifs at gone
      | erase ref which => exact ⟨rfl, rfl⟩

theorem persists_identified : Persists site (Identified site) where
  deeds _ deed identified := identified_deed deed identified
  ticks _ _ identified := ⟨identified.canonical, identified.fresh, identified.gone⟩

end Addresses

section Evidence

/-- The prospect is being enriched. -/
def Op.enriching (op : Op) (l : Ledger) (prospectId : Uuid) : Prop :=
  op.works .enrich prospectId ∧
    ∀ lead, l.prospects prospectId = some lead → lead.state = .discovered

/-- A fact after a deed was there before, or is a finding of the enrichment. -/
theorem fact_of_deed (deed : Deed site vouch op start l after) {id : Uuid} {fact : EvidenceFact}
    (present : after.facts id = some fact) :
    l.facts id = some fact ∨ op.enriching l fact.prospectId := by
  cases deed with
  | enqueue queue payload key delay plain orders enqueued =>
      obtain ⟨_, _, rfl⟩ := enqueued_frame enqueued
      exact Or.inl present
  | trigger eventId prospectId which seen since lead found state enqueued =>
      obtain ⟨_, _, rfl⟩ := enqueued_frame enqueued
      exact Or.inl present
  | draft touchId item inserted drafting met enqueued =>
      obtain ⟨_, _, rfl⟩ := enqueued_frame enqueued
      exact Or.inl present
  | approve touchId actor item which found held enqueued =>
      obtain ⟨_, _, rfl⟩ := enqueued_frame enqueued
      exact Or.inl present
  | send touchId item lead owner met mailbox ref sendable queued vouched planned =>
      obtain ⟨_, _, _, rfl⟩ := planned_frame planned
      exact Or.inl present
  | settle taskId actor finished note task item which found pending touch counted =>
      obtain ⟨_, rfl⟩ := counted_frame counted
      exact Or.inl present
  | suppress address scope reason idle enqueued =>
      obtain ⟨_, _, rfl⟩ := enqueued_frame enqueued
      exact Or.inl present
  | halt scope actor flag which enqueued =>
      obtain ⟨_, _, rfl⟩ := enqueued_frame enqueued
      exact Or.inl present
  | notify address hash receiptId hashed buried enqueued =>
      obtain ⟨_, _, rfl⟩ := enqueued_frame enqueued
      exact Or.inl present
  | enrich prospectId lead row facts which found fresh outcome theirs =>
      rcases theirs id with same | ⟨mine, _⟩
      · exact Or.inl (same.symm.trans present)
      · refine Or.inr ?_
        rw [mine fact present]
        refine ⟨which, fun other there => ?_⟩
        rw [← Option.some.inj (found.symm.trans there)]
        exact fresh
  | forget ref ids leads owners touches replies facts which erased =>
      change cleared l.facts facts id = some fact at present
      unfold cleared at present
      split_ifs at present
      exact Or.inl present
  | _ => exact Or.inl present

/-- A fact goes with an enrichment or an erasure only. -/
theorem fact_kept (deed : Deed site vouch op start l after) {id : Uuid} {fact : EvidenceFact}
    (found : l.facts id = some fact) :
    after.facts id = some fact ∨ op.enriching l fact.prospectId ∨ ∃ ref, op = .forget ref := by
  cases deed with
  | enqueue queue payload key delay plain orders enqueued =>
      obtain ⟨_, _, rfl⟩ := enqueued_frame enqueued
      exact Or.inl found
  | trigger eventId prospectId which seen since lead there state enqueued =>
      obtain ⟨_, _, rfl⟩ := enqueued_frame enqueued
      exact Or.inl found
  | draft touchId item inserted drafting met enqueued =>
      obtain ⟨_, _, rfl⟩ := enqueued_frame enqueued
      exact Or.inl found
  | approve touchId actor item which there held enqueued =>
      obtain ⟨_, _, rfl⟩ := enqueued_frame enqueued
      exact Or.inl found
  | send touchId item lead owner met mailbox ref sendable queued vouched planned =>
      obtain ⟨_, _, _, rfl⟩ := planned_frame planned
      exact Or.inl found
  | settle taskId actor finished note task item which there pending touch counted =>
      obtain ⟨_, rfl⟩ := counted_frame counted
      exact Or.inl found
  | suppress address scope reason idle enqueued =>
      obtain ⟨_, _, rfl⟩ := enqueued_frame enqueued
      exact Or.inl found
  | halt scope actor flag which enqueued =>
      obtain ⟨_, _, rfl⟩ := enqueued_frame enqueued
      exact Or.inl found
  | notify address hash receiptId hashed buried enqueued =>
      obtain ⟨_, _, rfl⟩ := enqueued_frame enqueued
      exact Or.inl found
  | enrich prospectId lead row facts which there fresh outcome theirs =>
      rcases theirs id with same | ⟨_, mine⟩
      · exact Or.inl (same.trans found)
      · refine Or.inr (Or.inl ?_)
        rw [mine fact found]
        refine ⟨which, fun other present => ?_⟩
        rw [← Option.some.inj (there.symm.trans present)]
        exact fresh
  | forget ref ids leads owners touches replies facts which erased =>
      exact Or.inr (Or.inr ⟨ref, which⟩)
  | _ => exact Or.inl found

end Evidence

section Runs

/-- A prospect that has left its discovery keeps its address until it is forgotten, and has
no evidence but what it had. -/
structure Unrevised (old new : Ledger) : Prop where
  onward : Later old new
  people : ∀ id lead next, old.prospects id = some lead → lead.state ≠ .discovered →
    new.prospects id = some next → next.contact = lead.contact ∨ next.state = .forgotten
  facts : ∀ id fact lead, new.facts id = some fact → old.prospects fact.prospectId = some lead →
    lead.state ≠ .discovered → old.facts id = some fact

theorem unrevised_refl (l : Ledger) : Unrevised l l where
  onward := later_refl l
  people := by
    intro id lead next found _ there
    rw [Option.some.inj (found.symm.trans there)]
    exact Or.inl rfl
  facts _ _ _ present _ _ := present

/-- A prospect that has left its discovery does not return to it. -/
theorem past_discovery {id : Uuid} {lead next : Prospect} (onward : Later l after)
    (found : l.prospects id = some lead) (past : lead.state ≠ .discovered)
    (there : after.prospects id = some next) : next.state ≠ .discovered := by
  obtain ⟨other, same, moved⟩ := onward.prospects id lead found
  obtain rfl := Option.some.inj (there.symm.trans same)
  exact fun fresh => past (discovered_before moved.path fresh)

theorem unrevised_trans {first second third : Ledger} (one : Unrevised first second)
    (two : Unrevised second third) : Unrevised first third where
  onward := later_trans one.onward two.onward
  people := by
    intro id lead next found past there
    obtain ⟨middle, between, _⟩ := one.onward.prospects id lead found
    have still := past_discovery one.onward found past between
    rcases one.people id lead middle found past between with same | gone
    · rcases two.people id middle next between still there with kept | gone
      · exact Or.inl (kept.trans same)
      · exact Or.inr gone
    · obtain ⟨last, present, moved⟩ := two.onward.prospects id middle between
      obtain rfl := Option.some.inj (there.symm.trans present)
      exact Or.inr (forgotten_of_path moved.path gone)
  facts := by
    intro id fact lead present found past
    obtain ⟨middle, between, _⟩ := one.onward.prospects _ lead found
    have still := past_discovery one.onward found past between
    exact one.facts id fact lead (two.facts id fact middle present between still) found past

theorem unrevised_deed (deed : Deed site vouch op start l after) : Unrevised l after where
  onward := deed_later _ _ _ _ deed
  people := by
    intro id lead next found past there
    rcases prospect_of_deed deed there with same | ⟨absent, _⟩ | ⟨old, present, step⟩
    · rw [Option.some.inj (found.symm.trans same)]
      exact Or.inl rfl
    · rw [found] at absent
      cases absent
    · obtain rfl := Option.some.inj (found.symm.trans present)
      cases step with
      | move target alive stable edges => exact Or.inl rfl
      | address raw bucket which fresh vouched => exact absurd fresh past
      | erase ref which => exact Or.inr rfl
  facts := by
    intro id fact lead present found past
    rcases fact_of_deed deed present with same | ⟨_, fresh⟩
    · exact same
    · exact absurd (fresh lead found) past

theorem persists_unrevised (old : Ledger) : Persists site (Unrevised old) where
  deeds _ deed settled := unrevised_trans settled (unrevised_deed deed)
  ticks l _ settled :=
    ⟨later_trans settled.onward { later_refl l with }, settled.people, settled.facts⟩

/-- Who may write an address or a fact. -/
structure Revises (op : Op) (l after : Ledger) : Prop where
  onward : Later l after
  people : ∀ id lead next, l.prospects id = some lead → after.prospects id = some next →
    next.contact = lead.contact ∨ op.enriching l id ∨ ∃ ref, op = .forget ref
  found : ∀ id fact, after.facts id = some fact →
    l.facts id = some fact ∨ op.enriching l fact.prospectId
  kept : ∀ id fact, l.facts id = some fact →
    after.facts id = some fact ∨ op.enriching l fact.prospectId ∨ ∃ ref, op = .forget ref

theorem enriching_before {prospectId : Uuid} (onward : Later l after)
    (enriching : op.enriching after prospectId) : op.enriching l prospectId := by
  refine ⟨enriching.1, fun lead found => ?_⟩
  obtain ⟨next, there, moved⟩ := onward.prospects prospectId lead found
  exact discovered_before moved.path (enriching.2 next there)

theorem revises_refl (l : Ledger) : Revises op l l where
  onward := later_refl l
  people := by
    intro id lead next found there
    rw [Option.some.inj (found.symm.trans there)]
    exact Or.inl rfl
  found _ _ present := Or.inl present
  kept _ _ present := Or.inl present

theorem revises_trans {first second third : Ledger} (one : Revises op first second)
    (two : Revises op second third) : Revises op first third where
  onward := later_trans one.onward two.onward
  people := by
    intro id lead next found there
    obtain ⟨middle, between, _⟩ := one.onward.prospects id lead found
    rcases one.people id lead middle found between with same | changed
    · rcases two.people id middle next between there with kept | enriching | forgets
      · exact Or.inl (kept.trans same)
      · exact Or.inr (Or.inl (enriching_before one.onward enriching))
      · exact Or.inr (Or.inr forgets)
    · exact Or.inr changed
  found := by
    intro id fact present
    rcases two.found id fact present with earlier | enriching
    · exact one.found id fact earlier
    · exact Or.inr (enriching_before one.onward enriching)
  kept := by
    intro id fact present
    rcases one.kept id fact present with still | changed
    · rcases two.kept id fact still with kept | enriching | forgets
      · exact Or.inl kept
      · exact Or.inr (Or.inl (enriching_before one.onward enriching))
      · exact Or.inr (Or.inr forgets)
    · exact Or.inr changed

theorem revises_deed (deed : Deed site vouch op start l after) : Revises op l after where
  onward := deed_later _ _ _ _ deed
  people := by
    intro id lead next found there
    rcases prospect_of_deed deed there with same | ⟨absent, _⟩ | ⟨old, present, step⟩
    · rw [Option.some.inj (found.symm.trans same)]
      exact Or.inl rfl
    · rw [found] at absent
      cases absent
    · obtain rfl := Option.some.inj (found.symm.trans present)
      cases step with
      | move target alive stable edges => exact Or.inl rfl
      | address raw bucket which fresh vouched =>
          refine Or.inr (Or.inl ⟨which, fun other known => ?_⟩)
          rw [← Option.some.inj (found.symm.trans known)]
          exact fresh
      | erase ref which => exact Or.inr (Or.inr ⟨ref, which⟩)
  found _ _ present := fact_of_deed deed present
  kept _ _ present := fact_kept deed present

theorem guides_revises : Guides site (Identified site) Revises where
  persists := persists_identified
  order _ := ⟨revises_refl, revises_trans⟩
  deeds _ _ deed := revises_deed deed

variable {allowed : World → Act → Prop} {start : World}

/-- In every run the stored addresses fit together: the canonical one is the canonical form
of the raw one, a prospect has none before it is enriched, and nothing is left of it once it
is forgotten. An address or a fact is written by the enrichment of its prospect only, while
that is still discovered, and lost by forgetting only; a prospect that has left its discovery
keeps its address until it is forgotten, and its evidence grows no more. -/
theorem identities_settled (quiet : start.sessions = []) (linked : Linked start.committed.ledger)
    (identified : Identified site start.committed.ledger) (run : Run site allowed start world) :
    Identified site world.committed.ledger ∧
    (∀ action later, (service site).act action world = some later →
      Stepping Revises world later action) ∧
    ∀ later, Run site allowed world later →
      Unrevised world.committed.ledger later.committed.ledger := by
  obtain ⟨sane, kept⟩ := holds_run persists_identified quiet linked identified run
  refine ⟨kept, fun action later step => stepping_of_step guides_revises sane kept step,
    fun later onward => ?_⟩
  exact (holds_onward (persists_unrevised world.committed.ledger) sane (unrevised_refl _) onward).2

end Runs

section Sample

theorem discovered_identified :
    Identified enrichingDeployment discoveredWorld.committed.ledger := by
  refine ⟨fun id lead address found known => ?_, fun id lead found fresh => ?_,
    fun id lead found gone => ?_⟩
  all_goals
    simp [Database.ledger, discoveredWorld, discoveredProspect, sampleProspect] at found
    obtain ⟨rfl, rfl⟩ := found
  · cases known
  · rfl
  · cases gone

/-- The sample prospect is enriched, and its address stays. -/
theorem sample_identity_settled : ∃ world lead,
    Run enrichingDeployment unrestricted discoveredWorld world ∧
    world.committed.prospects.lookup 3 = some lead ∧ lead.emailCanonical = some sampleAddress ∧
    ∀ later next, Run enrichingDeployment unrestricted world later →
      later.committed.prospects.lookup 3 = some next →
        next.contact = lead.contact ∨ next.state = .forgotten := by
  have tried : ((service enrichingDeployment).script
      [begin (.lease .enrich), go 0 13 200, .inl (.finish 0)] discoveredWorld).any
      (fun world => (world.committed.prospects.lookup 3).any fun lead =>
        lead.emailCanonical = some sampleAddress && lead.state = .enriched) = true := by
    decide +kernel
  obtain ⟨world, played, seen⟩ := (Option.any_eq_true _ _).1 tried
  obtain ⟨lead, found, holds⟩ := (Option.any_eq_true _ _).1 seen
  simp only [Bool.and_eq_true, decide_eq_true_eq] at holds
  have run : Run enrichingDeployment unrestricted discoveredWorld world := run_of_further played
  obtain ⟨_, _, onward⟩ :=
    identities_settled rfl discovered_linked discovered_identified run
  refine ⟨world, lead, run, found, holds.1, fun later next further there => ?_⟩
  have past : lead.state ≠ .discovered := by
    rw [holds.2]
    nofun
  exact (onward later further).people 3 lead next found past there

end Sample

end OpenReachout
