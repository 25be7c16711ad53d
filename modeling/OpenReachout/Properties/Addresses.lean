import OpenReachout.Properties.Suppressions

/-!
# Addresses of prospects

A discovery screens every address it takes in. An enrichment attaches the address of
the candidate or of the finder without a look at the suppressions or the tombstones.
-/

namespace OpenReachout

open Relational Text

set_option autoImplicit false

variable {site : Deployment} {op : Op} {committed start l after : Ledger} {world : World}

section Clear

/-- Nothing bars an address: no suppression in force for the tenant, and no tombstone. -/
structure Ledger.Clear (l : Ledger) (platform : Platform) (time : Time)
    (address tenant : String) : Prop where
  unsuppressed : ∀ scope row, Covers scope tenant → l.suppressions (address, scope) = some row →
    row.active time = false
  unburied : ¬ l.buried platform address

theorem clear_iff {platform : Platform} {time : Time} {address tenant hash : String}
    (hashed : tombstoneHash platform address = .ok hash) :
    l.Clear platform time address tenant ↔ ¬ l.suppressed time address tenant hash := by
  constructor
  · rintro clear (⟨scope, row, covers, present, active⟩ | there)
    · rw [clear.unsuppressed scope row covers present] at active
      cases active
    · exact clear.unburied ⟨hash, hashed, there⟩
  · intro free
    refine ⟨fun scope row covers present => ?_, ?_⟩
    · rw [Bool.eq_false_iff]
      intro active
      exact free (Or.inl ⟨scope, row, covers, present, active⟩)
    · rintro ⟨other, same, there⟩
      obtain rfl := Except.ok.inj (same.symm.trans hashed)
      exact free (Or.inr there)

/-- What `is_suppressed` answers of an address that is clear. -/
theorem suppressedIn_clear {db : Database} {platform : Platform} {time : Time}
    {address tenant hash : String} (hashed : tombstoneHash platform address = .ok hash) :
    suppressedIn db time address tenant hash = false ↔
      db.ledger.Clear platform time address tenant := by
  rw [clear_iff hashed, ← suppressed_iff, Bool.not_eq_true]

end Clear

section Attached

/-- The address that a prospect was found with, or is sent to. -/
def Prospect.canonicalRaw (platform : Platform) (lead : Prospect) : Option String :=
  (nonEmpty lead.emailRaw).bind (canon platform)

/-- One of the columns of a prospect has come to hold an address. -/
structure Attached (platform : Platform) (before after : Ledger) (id : Uuid) (lead : Prospect)
    (address : String) : Prop where
  present : after.prospects id = some lead
  wrote : (lead.canonicalRaw platform = some address ∧
      ∀ old, before.prospects id = some old → old.emailRaw ≠ lead.emailRaw) ∨
    (lead.emailCanonical = some address ∧
      ∀ old, before.prospects id = some old → old.emailCanonical ≠ some address)

/-- Every address that is new in `after` is clear in the state before. -/
def AttachedClear (site : Deployment) (before after : Ledger) : Prop :=
  ∀ id lead address slug, Attached site.platform before after id lead address →
    before.tenants lead.tenantId = some slug →
    before.Clear site.platform before.clock address slug

/-- The tenant of every runtime has its row. -/
def Registered (site : Deployment) (l : Ledger) : Prop :=
  ∀ name runtime, (name, runtime) ∈ site.runtimes → l.tenants runtime.tenantId = some runtime.tenant

theorem registered_later (registered : Registered site l) (later : Later l after) :
    Registered site after := by
  intro name runtime known
  rw [later.tenants]
  exact registered name runtime known

theorem attachedClear_of_same (same : after.prospects = l.prospects) : AttachedClear site l after := by
  rintro id lead address slug ⟨present, wrote⟩ tenant
  rw [same] at present
  rcases wrote with ⟨_, changed⟩ | ⟨written, changed⟩
  · exact absurd rfl (changed lead present)
  · exact absurd written (changed lead present)

/-- What a transaction has to have seen: the address that an enrichment takes, of the
candidate or of the finder, is clear at the commit, and what a discovery has found
clear still is. -/
def addressClear (site : Deployment) (op : Op) (committed start : Ledger) : Mark → Ledger → Prop
  | .attach id raw, seen => ∀ lead address slug, seen.prospects id = some lead →
      canon site.platform raw = some address → committed.tenants lead.tenantId = some slug →
      committed.Clear site.platform committed.clock address slug
  | .isSuppressed address tenant, seen => op.discovers →
      seen.Clear site.platform start.clock address tenant →
      committed.Clear site.platform committed.clock address tenant
  | _, _ => True

theorem attachedClear_deed (registered : Registered site committed) (earlier : Later committed l)
    (deed : Deed site (addressClear site op committed start) op start l after)
    (clear : AttachedClear site committed l) : AttachedClear site committed after := by
  rintro id lead address slug ⟨present, wrote⟩ tenant
  rcases prospect_of_deed deed present with same | ⟨_, runtime, taken⟩ | ⟨old, found, step⟩
  · exact clear id lead address slug ⟨same, wrote⟩ tenant
  · obtain ⟨name, known⟩ := taken.known
    have slugs : slug = runtime.tenant := by
      rw [taken.tenant, registered name runtime known] at tenant
      exact (Option.some.inj tenant).symm
    rcases wrote with ⟨raw, _⟩ | ⟨canonical, _⟩
    · obtain ⟨text, some_text, canon_text⟩ := Option.bind_eq_some_iff.1 raw
      obtain ⟨canonical, hash, seen, canonical_ok, hash_ok, _, vouched, free⟩ :=
        taken.screened text some_text
      have same : canonical = address := by
        unfold canon at canon_text
        rw [canonical_ok] at canon_text
        exact Option.some.inj canon_text
      rw [slugs, ← same]
      exact vouched taken.discovers ((clear_iff hash_ok).2 free)
    · rw [taken.unresolved] at canonical
      cases canonical
  · cases step with
    | move target alive stable edges => exact clear id old address slug ⟨found, wrote⟩ tenant
    | address text bucket which fresh vouched =>
        obtain ⟨seen, rule, shown⟩ := vouched
        have canon_text : canon site.platform text = some address := by
          rcases wrote with ⟨raw, _⟩ | ⟨canonical, _⟩
          · obtain ⟨other, some_other, canon_other⟩ := Option.bind_eq_some_iff.1 raw
            have same : text = other := (Option.filter_eq_some_iff.1 some_other).1 |> Option.some.inj
            rw [same]
            exact canon_other
          · exact canonical
        exact rule old address slug shown canon_text tenant
    | erase ref which =>
        rcases wrote with ⟨raw, _⟩ | ⟨canonical, _⟩
        · cases raw
        · cases canonical

theorem attachedClear_path (registered : Registered site committed)
    (path : Relation.ReflTransGen (Deed site (addressClear site op committed start) op start)
      committed after) : AttachedClear site committed after := by
  induction path with
  | refl => exact attachedClear_of_same rfl
  | tail path deed induction => exact attachedClear_deed registered (path_later path) deed induction

end Attached

section Runs

/-- Every address that the step takes over is clear when it commits. -/
def AddressesClear (site : Deployment) (world : World) (action : Act) : Prop :=
  ∀ index session out, action = .finish index → world.session index = some session →
    Committing session out → ∀ entry ∈ session.txn.seen,
      addressClear site session.op world.committed.ledger session.txn.start.ledger entry.1
        entry.2.ledger

theorem attachedClear_step {action : Act} {later : World} (sane : Sane site world)
    (registered : Registered site world.committed.ledger)
    (permitted : AddressesClear site world action)
    (step : (service site).act action world = some later) :
    AttachedClear site world.committed.ledger later.committed.ledger := by
  have free : Vouched (fun _ _ _ _ => True) world action := fun _ _ _ _ _ _ _ _ => trivial
  cases advance_of_step sane.sound sane.begun free step with
  | idle same =>
      apply attachedClear_of_same
      rw [same]
  | clock ticks moved =>
      apply attachedClear_of_same
      rw [moved]
      rfl
  | commit index session out found commits since wrote path =>
      have seen : ∀ entry ∈ session.txn.seen, addressClear site session.op world.committed.ledger
          session.txn.start.ledger entry.1 entry.2.ledger := permitted index session out rfl found commits
      obtain ⟨_, path⟩ := brings_commit sane.sound sane.begun found commits seen
        (follows_program session.op)
      rw [wrote]
      exact attachedClear_path registered path

/-- An address that a prospect is sent to was there from the start, or attached by a
step that found it clear. -/
def Attaching (site : Deployment) (start world : World) (id : Uuid) (lead : Prospect)
    (address : String) : Prop :=
  (∃ old, start.committed.ledger.prospects id = some old ∧ old.emailCanonical = some address) ∨
    ∃ early action next first, Run site (AddressesClear site) start early ∧
      (service site).act action early = some next ∧ Run site (AddressesClear site) next world ∧
      Attached site.platform early.committed.ledger next.committed.ledger id first address ∧
      ∀ slug, early.committed.ledger.tenants lead.tenantId = some slug →
        early.committed.ledger.Clear site.platform early.committed.clock address slug

theorem attaching_step {start later : World} {action : Act} {id : Uuid} {lead old : Prospect}
    {address : String} (attaching : Attaching site start world id old address)
    (tenant : lead.tenantId = old.tenantId) (permitted : AddressesClear site world action)
    (step : (service site).act action world = some later) :
    Attaching site start later id lead address := by
  rcases attaching with there | ⟨early, first, next, row, run, attached, onward, wrote, clear⟩
  · exact Or.inl there
  · rw [← tenant] at clear
    have further : Run site (AddressesClear site) next later :=
      onward.tail ⟨action, permitted, step⟩
    exact Or.inr ⟨early, first, next, row, run, attached, further, wrote, clear⟩

theorem attaching_run {start : World} (quiet : start.sessions = [])
    (linked : Linked start.committed.ledger) (registered : Registered site start.committed.ledger)
    (run : Run site (AddressesClear site) start world) :
    Sane site world ∧ Registered site world.committed.ledger ∧
      ∀ id lead address, world.committed.ledger.prospects id = some lead →
        lead.emailCanonical = some address → Attaching site start world id lead address := by
  induction run with
  | refl =>
      refine ⟨sane_start quiet linked, registered, fun id lead address present canonical => ?_⟩
      exact Or.inl ⟨lead, present, canonical⟩
  | @tail middle later run step induction =>
      obtain ⟨action, permitted, step⟩ := step
      obtain ⟨sane, known, attaching⟩ := induction
      have free : Vouched (fun _ _ _ _ => True) middle action := fun _ _ _ _ _ _ _ _ => trivial
      have onward := later_advance (advance_of_step sane.sound sane.begun free step)
      have clear := attachedClear_step sane known permitted step
      refine ⟨sane_step sane step onward, registered_later known onward, ?_⟩
      intro id lead address present canonical
      by_cases had : ∃ old, middle.committed.ledger.prospects id = some old ∧
          old.emailCanonical = some address
      · obtain ⟨old, there, same⟩ := had
        obtain ⟨next, found, kept⟩ := onward.prospects id old there
        obtain rfl := Option.some.inj (found.symm.trans present)
        exact attaching_step (attaching id old address there same) kept.tenantId permitted step
      · have attached : Attached site.platform middle.committed.ledger later.committed.ledger id lead
            address := by
          refine ⟨present, Or.inr ⟨canonical, fun old there same => had ⟨old, there, same⟩⟩⟩
        exact Or.inr ⟨middle, action, later, lead, run, step, .refl, attached,
          fun slug tenant => clear id lead address slug attached tenant⟩

/-- A deployment that enriches. -/
def enrichingDeployment : Deployment := { sampleDeployment with handlers := [.enrich] }

/-- The sample prospect as a discovery takes it in. -/
def discoveredProspect : Prospect :=
  { sampleProspect with state := .discovered, emailCanonical := none, emailConfidence := none }

def enrichJob : JobRow where
  queue := .enrich
  payload := .prospect 3
  idempotencyKey := .enrich 3
  runAfter := sampleClock

/-- The sample world before its prospect is enriched. -/
def discoveredWorld : World :=
  { committed := { sampleDatabase with
      prospects := Table.empty.insert 3 discoveredProspect
      touches := Table.empty
      jobs := Table.empty.insert 5 enrichJob
      jobIndex := Table.empty.insert (.enrich 3) 5 } }

theorem discovered_linked : Linked discoveredWorld.committed.ledger := by
  refine ⟨?_, ?_, ?_, ?_⟩
  all_goals
    intro id row found
    simp [Database.ledger, discoveredWorld, sampleDatabase, discoveredProspect, sampleProspect]
      at found ⊢
  obtain ⟨rfl, rfl⟩ := found
  rfl

theorem discovered_registered : Registered enrichingDeployment discoveredWorld.committed.ledger := by
  intro name runtime known
  simp only [enrichingDeployment, sampleDeployment, List.mem_singleton, Prod.mk.injEq] at known
  obtain ⟨rfl, rfl⟩ := known
  decide

/-- The address of the prospect is suppressed, and its enrichment comes to its commit. -/
def suppressesAndEnriches : List Move :=
  [begin (.suppress sampleAddress "manual"), go 0 5, begin (.lease .enrich), go 1 13 200]

end Runs

end OpenReachout
