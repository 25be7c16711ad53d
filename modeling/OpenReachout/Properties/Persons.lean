import OpenReachout.Properties.Recipients

/-!
# One person, one entity

What limits how often a person is written to belongs to its entity. An enrichment gives an
address to a prospect without asking whether another entity has it.
-/

namespace OpenReachout

open Relational Text

set_option autoImplicit false

section Addresses

/-- The prospects of one tenant that share an address and are not forgotten are of one entity. -/
def OneEntity (l : Ledger) : Prop :=
  ∀ id other lead row address, l.prospects id = some lead → l.prospects other = some row →
    lead.state ≠ .forgotten → row.state ≠ .forgotten → row.tenantId = lead.tenantId →
    lead.emailCanonical = some address → row.emailCanonical = some address →
    row.entityId = lead.entityId

/-- No prospect of another entity of the tenant has the address that this one is given. -/
def Ledger.Unshared (l : Ledger) (platform : Platform) (id : Uuid) (raw : String) : Prop :=
  ∀ lead other row address, l.prospects id = some lead → l.prospects other = some row →
    row.state ≠ .forgotten → row.tenantId = lead.tenantId → canon platform raw = some address →
    row.emailCanonical = some address → row.entityId = lead.entityId

/-- What an enrichment has to find when it commits. -/
def unsharedRule (site : Deployment) (committed _start : Ledger) : Mark → Ledger → Prop
  | .attach id raw, _ => committed.Unshared site.platform id raw
  | _, _ => True

variable {site : Deployment} {op : Op} {committed start l after : Ledger}

/-- Where the address of a prospect comes from, after what an operation has done. -/
inductive AddressFrom (site : Deployment) (op : Op) (committed : Ledger) (id : Uuid)
    (lead : Prospect) : Prop where
  | kept (old : Prospect) (found : committed.prospects id = some old)
      (same : lead.emailCanonical = old.emailCanonical)
  | erased (old : Prospect) (found : committed.prospects id = some old)
      (none : lead.emailCanonical = none)
  | fresh (discovers : op.discovers) (none : lead.emailCanonical = none)
  | given (old : Prospect) (found : committed.prospects id = some old)
      (which : op.works .enrich id) (raw : String)
      (address : lead.emailCanonical = canon site.platform raw)
      (unshared : committed.Unshared site.platform id raw)

theorem Op.works_unique {queue : QueueName} {id other : Uuid} (first : op.works queue id)
    (second : op.works queue other) : id = other := by
  obtain ⟨job, rfl, _, payload⟩ := first
  obtain ⟨same, which, _, again⟩ := second
  obtain rfl := Op.handle.inj which
  exact JobPayload.prospect.inj (payload.symm.trans again)

theorem Op.works_of_discovers {id : Uuid} (discovers : op.discovers) : ¬ op.works .enrich id := by
  intro works
  obtain ⟨job, rfl, queue⟩ := discovers
  obtain ⟨same, which, other, _⟩ := works
  obtain rfl := Op.handle.inj which
  cases queue.symm.trans other

theorem addressFrom_path
    (path : Relation.ReflTransGen (Deed site (unsharedRule site committed start) op start)
      committed after) :
    ∀ id lead, after.prospects id = some lead → AddressFrom site op committed id lead := by
  induction path with
  | refl => exact fun id lead present => .kept lead present rfl
  | tail path deed induction =>
      intro id lead present
      rcases prospect_of_deed deed present with same | ⟨_, runtime, taken⟩ | ⟨old, found, step⟩
      · exact induction id lead same
      · exact .fresh taken.discovers taken.unresolved
      · have before := induction id old found
        cases step with
        | move target alive stable edges =>
            cases before with
            | kept first there same => exact .kept first there same
            | erased first there none => exact .erased first there none
            | fresh discovers none => exact .fresh discovers none
            | given first there which raw address unshared =>
                exact .given first there which raw address unshared
        | address raw bucket which discovered vouched =>
            obtain ⟨seen, unshared, _⟩ := vouched
            cases before with
            | kept first there _ | erased first there _ | given first there _ _ _ _ =>
                exact .given first there which raw rfl unshared
            | fresh discovers _ => exact absurd which (Op.works_of_discovers discovers)
        | erase ref which =>
            cases before with
            | kept first there _ | erased first there _ | given first there _ _ _ _ =>
                exact .erased first there rfl
            | fresh discovers _ => exact .fresh discovers rfl

/-- A prospect that is not forgotten was not before. -/
theorem living_before {old new : Prospect} (kept : old.Later new) (living : new.state ≠ .forgotten) :
    old.state ≠ .forgotten := by
  intro gone
  have path := kept.path
  rw [gone] at path
  have stays : new.state = .forgotten := by
    generalize new.state = last at path
    induction path with
    | refl => rfl
    | @tail middle last _ edge induction =>
        rw [induction] at edge
        revert edge
        cases last <;> decide
  exact living stays

/-- What holds before a commit that gives no shared address holds after it. -/
theorem oneEntity_path (one : OneEntity committed)
    (path : Relation.ReflTransGen (Deed site (unsharedRule site committed start) op start)
      committed after) : OneEntity after := by
  intro id other lead row address present there living alive tenant first second
  -- a prospect that was there has kept its tenant and its entity
  have before : ∀ {key : Uuid} {old new : Prospect}, committed.prospects key = some old →
      after.prospects key = some new → old.Later new := by
    intro key old new found now
    obtain ⟨next, same, kept⟩ := (path_later path).prospects key old found
    obtain rfl := Option.some.inj (same.symm.trans now)
    exact kept
  cases addressFrom_path path id lead present with
  | erased _ _ none | fresh _ none =>
      rw [none] at first
      cases first
  | kept old found same =>
      have kept_lead := before found present
      cases addressFrom_path path other row there with
      | erased _ _ none | fresh _ none =>
          rw [none] at second
          cases second
      | kept next known again =>
          have kept_row := before known there
          rw [kept_row.entityId, kept_lead.entityId]
          refine one id other old next address found known (living_before kept_lead living)
            (living_before kept_row alive) ?_ (same.symm.trans first) (again.symm.trans second)
          rw [← kept_row.tenantId, ← kept_lead.tenantId, tenant]
      | given next known which raw canonical unshared =>
          have kept_row := before known there
          rw [kept_row.entityId, kept_lead.entityId]
          symm
          refine unshared next id old address known found (living_before kept_lead living) ?_
            (canonical.symm.trans second) (same.symm.trans first)
          rw [← kept_row.tenantId, ← kept_lead.tenantId, tenant]
  | given old found which raw canonical unshared =>
      have kept_lead := before found present
      cases addressFrom_path path other row there with
      | erased _ _ none | fresh _ none =>
          rw [none] at second
          cases second
      | kept next known again =>
          have kept_row := before known there
          rw [kept_row.entityId, kept_lead.entityId]
          refine unshared old other next address found known (living_before kept_row alive) ?_
            (canonical.symm.trans first) (again.symm.trans second)
          rw [← kept_row.tenantId, ← kept_lead.tenantId, tenant]
      | given _ _ again _ _ _ =>
          obtain rfl := Op.works_unique which again
          obtain rfl := Option.some.inj (present.symm.trans there)
          rfl

end Addresses

section Runs

variable {site : Deployment} {start world : World}

/-- The step gives no prospect an address that a prospect of another entity has. -/
def AttachesUnshared (site : Deployment) (world : World) (action : Act) : Prop :=
  ∀ index session out, action = .finish index → world.session index = some session →
    Committing session out → ∀ entry ∈ session.txn.seen,
      unsharedRule site world.committed.ledger session.txn.start.ledger entry.1 entry.2.ledger

/-- In a run in which no prospect is given an address that a prospect of another entity of its
tenant has, prospects of one tenant with one address are of one entity. -/
theorem address_of_one_entity (quiet : start.sessions = [])
    (linked : Linked start.committed.ledger) (one : OneEntity start.committed.ledger)
    (run : Run site (AttachesUnshared site) start world) : OneEntity world.committed.ledger := by
  have vouched : ∀ world action, AttachesUnshared site world action →
      Vouched (unsharedRule site) world action := fun _ _ permitted => permitted
  refine (invariant_of_advances (fun world => OneEntity world.committed.ledger) vouched ?_ quiet
    linked one run).2
  intro middle action after sane holds permitted step advance
  cases advance with
  | idle same =>
      rw [same]
      exact holds
  | clock ticks moved =>
      rw [moved]
      exact holds
  | commit index session out found commits since wrote path => exact oneEntity_path holds path

end Runs

section Sample

/-- `Unshared`, tried on the rows. -/
def unsharedHere (site : Deployment) (db : Database) (id : Uuid) (raw : String) : Bool :=
  (db.prospects.lookup id).all fun lead => db.prospects.rows.all fun entry =>
    entry.2.state = .forgotten || entry.2.tenantId ≠ lead.tenantId ||
      (canon site.platform raw).all (fun address => entry.2.emailCanonical ≠ some address) ||
      entry.2.entityId = lead.entityId

def attachesHere (site : Deployment) (world : World) : Act → Bool
  | .finish index => (world.session index).all fun session => session.txn.seen.all fun entry =>
      match entry.1 with
      | .attach id raw => unsharedHere site world.committed id raw
      | _ => true
  | _ => true

theorem unsharedHere_sound {site : Deployment} {db : Database} {id : Uuid} {raw : String}
    (checked : unsharedHere site db id raw = true) : db.ledger.Unshared site.platform id raw := by
  intro lead other row address found there living tenant canonical same
  have rows := (Option.all_eq_true _ _).1 checked lead found
  have member : (other, row) ∈ db.prospects.rows := (Table.lookup_eq_some_iff _ _ _).1 there
  have each := List.all_eq_true.1 rows _ member
  simpa [living, tenant, canonical, same] using each

theorem attachesHere_sound (site : Deployment) (world : World) (action : Act)
    (checked : attachesHere site world action = true) : AttachesUnshared site world action := by
  intro index session out which found _ entry member
  rw [which] at checked
  have each := List.all_eq_true.1 ((Option.all_eq_true _ _).1 checked session found) entry member
  obtain ⟨mark, seen⟩ := entry
  cases mark with
  | attach id raw => exact unsharedHere_sound each
  | _ => trivial

theorem oneEntity_of_unaddressed {db : Database}
    (unaddressed : ∀ entry ∈ db.prospects.rows, entry.2.emailCanonical = none) :
    OneEntity db.ledger := by
  intro id other lead row address found _ _ _ _ canonical _
  have member : (id, lead) ∈ db.prospects.rows := (Table.lookup_eq_some_iff _ _ _).1 found
  rw [unaddressed _ member] at canonical
  cases canonical

theorem discovered_oneEntity : OneEntity discoveredWorld.committed.ledger :=
  oneEntity_of_unaddressed (by decide)

/-- The enrichment of a prospect that is alone with its address. -/
theorem lone_address_attached : ∃ world lead,
    Run pipelineDeployment (AttachesUnshared pipelineDeployment) discoveredWorld world ∧
    world.committed.prospects.lookup 3 = some lead ∧ lead.emailCanonical = some sampleAddress ∧
    OneEntity world.committed.ledger := by
  have tried : ((service pipelineDeployment).scriptChecked (attachesHere pipelineDeployment)
      [begin (.lease .enrich), go 0 16] discoveredWorld).any (fun world =>
        (world.committed.prospects.lookup 3).any fun lead =>
          lead.emailCanonical = some sampleAddress) = true := by
    decide +kernel
  obtain ⟨world, played, seen⟩ := (Option.any_eq_true _ _).1 tried
  obtain ⟨lead, found, address⟩ := (Option.any_eq_true _ _).1 seen
  have run : Run pipelineDeployment (AttachesUnshared pipelineDeployment) discoveredWorld world :=
    run_of_scriptChecked (service pipelineDeployment) (attachesHere_sound pipelineDeployment) played
  exact ⟨world, lead, run, found, of_decide_eq_true address,
    address_of_one_entity rfl discovered_linked discovered_oneEntity run⟩

/-- A second prospect, of another entity, of which no address is known. -/
def addresslessProspect : Prospect :=
  { discoveredProspect with entityId := 12, cohortId := "dallas", emailRaw := none }

def namesakesWorld : World :=
  { committed := { discoveredWorld.committed with
      entities := (Table.empty.insert 2 { tenantId := 1, displayName := some "Ana" }).insert 12
        { tenantId := 1, displayName := some "Ana" }
      prospects := (Table.empty.insert 3 discoveredProspect).insert 13 addresslessProspect
      jobs := (Table.empty.insert 5 enrichJob).insert 6
        { enrichJob with
          payload := .prospect 13, idempotencyKey := .enrich 13, runAfter := sampleClock + seconds 9 }
      jobIndex := (Table.empty.insert (.enrich 3) 5).insert (.enrich 13) 6 } }

/-- The finder knows the address of the first prospect only. -/
def finds (index count id : Nat) : Move :=
  .inr (fun
    | .findEmail _ => .ok (some sampleAddress)
    | query => sampleReply sampleClock id query, index, count)

/-- Both are enriched. -/
def enrichesBoth : List Move :=
  [begin (.lease .enrich), finds 0 16 100, .inl (.advance (seconds 9)), begin (.lease .enrich),
    finds 1 16 200]

theorem namesakes_oneEntity : OneEntity namesakesWorld.committed.ledger :=
  oneEntity_of_unaddressed (by decide)

/-- The finder gives the second prospect the address of the first, and keeps its entity. -/
theorem namesake_of_other_entity : OneEntity namesakesWorld.committed.ledger ∧ ∃ world,
    Run pipelineDeployment unrestricted namesakesWorld world ∧
    ¬ OneEntity world.committed.ledger := by
  refine ⟨namesakes_oneEntity, ?_⟩
  have tried : ((service pipelineDeployment).script enrichesBoth namesakesWorld).any (fun world =>
      (world.committed.prospects.lookup 3).any (fun lead => lead.entityId = 2 &&
        lead.tenantId = 1 && lead.emailCanonical = some sampleAddress && lead.state = .enriched) &&
      (world.committed.prospects.lookup 13).any (fun row => row.entityId = 12 &&
        row.tenantId = 1 && row.emailCanonical = some sampleAddress && row.state = .enriched)) =
        true := by
    decide +kernel
  obtain ⟨world, played, seen⟩ := (Option.any_eq_true _ _).1 tried
  rw [Bool.and_eq_true] at seen
  obtain ⟨lead, found, first⟩ := (Option.any_eq_true _ _).1 seen.1
  obtain ⟨row, there, second⟩ := (Option.any_eq_true _ _).1 seen.2
  simp only [Bool.and_eq_true, decide_eq_true_eq] at first second
  obtain ⟨⟨⟨entity, tenant⟩, address⟩, state⟩ := first
  obtain ⟨⟨⟨other, same⟩, again⟩, late⟩ := second
  refine ⟨world, run_of_further played, ?_⟩
  intro one
  have equal := one 3 13 lead row sampleAddress found there (by rw [state]; nofun)
    (by rw [late]; nofun) (same.trans tenant.symm) address again
  rw [entity, other] at equal
  cases equal

end Sample

end OpenReachout
