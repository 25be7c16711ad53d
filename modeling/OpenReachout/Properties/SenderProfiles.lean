import OpenReachout.Core.SenderProfile
import OpenReachout.Relational.Discipline
import OpenReachout.Relational.Hearing

/-!
# The trusted profile

An approval supersedes the approved profiles that it sees. What another approval has not
committed by then it does not see, and neither does the other see this one.
-/

namespace OpenReachout.SenderProfile

open Relational Relational.Abstraction Relational.Program Text

set_option autoImplicit false

variable {runtime : Runtime} {tenant actor : String} {id other : Uuid} {time : Time}

section Profiles

/-- The facts of the profile are trusted. -/
def Trusted (tenant : String) (id : Uuid) (db : Store) : Prop :=
  ∃ row, db.senderProfiles.lookup id = some row ∧ row.tenant = tenant ∧ row.status = .approved

/-- No tenant has two approved profiles. -/
def Single (db : Store) : Prop :=
  ∀ tenant id other, Trusted tenant id db → Trusted tenant other db → id = other

def Profile.trustedBy (profile : Profile) (actor : String) (time : Time) : Profile :=
  { profile with status := .approved, approvedBy := some actor, resolvedAt := some time }

def Profile.superseded (profile : Profile) (time : Time) : Profile :=
  { profile with status := .superseded, resolvedAt := some time }

/-- What an approval makes of the profiles; `seen` is the state in which it superseded the
others. -/
structure Approval (id : Uuid) (actor : String) (time : Time) (mine : Profile)
    (before after seen : Store) : Prop where
  found : before.senderProfiles.lookup id = some mine
  proposed : mine.status = .proposed
  own : after.senderProfiles.lookup id = some (mine.trustedBy actor time)
  others : ∀ other, other ≠ id →
    after.senderProfiles.lookup other = before.senderProfiles.lookup other ∨
    ∃ old, before.senderProfiles.lookup other = some old ∧ old.tenant = mine.tenant ∧
      old.status = .approved ∧ after.senderProfiles.lookup other = some (old.superseded time)
  hit : ∀ other, other ≠ id → Trusted mine.tenant other seen →
    ∃ old, before.senderProfiles.lookup other = some old ∧
      after.senderProfiles.lookup other = some (old.superseded time)

/-- What an approval returns and writes. -/
inductive Approving (vouch : Mark → Store → Prop) (id : Uuid) (actor : String) (time : Time)
    (before : Store) : Bool → Store → Prop where
  | refused : Approving vouch id actor time before false before
  | approved (mine : Profile) (after seen : Store) (vouched : vouch (.supersede id) seen)
      (approval : Approval id actor time mine before after seen) :
      Approving vouch id actor time before true after

variable {vouch : Mark → Store → Prop} {held : List Lock}

/-- The second statement of an approval. -/
theorem ensures_supersede (id : Uuid) (tenant : String) :
    (attested vouch).Ensures held
      (Program.updateChecked Tables.senderProfiles (some (.supersede id)) (fun _ _ _ _ => none)
        (fun _ _ other row => row.tenant = tenant && row.status = .approved && other ≠ id)
        (fun moment row => row.superseded moment.start.clock) : Prog (List (Uuid × Profile)))
      fun start _ before after => ∃ seen, vouch (.supersede id) seen ∧
        after.senderProfiles.lookup id = before.senderProfiles.lookup id ∧
        (∀ other, after.senderProfiles.lookup other = before.senderProfiles.lookup other ∨
          ∃ old, before.senderProfiles.lookup other = some old ∧ old.tenant = tenant ∧
            old.status = .approved ∧
            after.senderProfiles.lookup other = some (old.superseded start.clock)) ∧
        ∀ other, other ≠ id → Trusted tenant other seen →
          ∃ old, before.senderProfiles.lookup other = some old ∧
            after.senderProfiles.lookup other = some (old.superseded start.clock) := by
  refine (ensures_updateChecked Tables.senderProfiles _ _ _ _).mono ?_
  rintro start rows before after ⟨seen, busy, updated⟩
  obtain ⟨table, rfl, lookups⟩ := updated.table
  have changed : ∀ other row, (other, row) ∈ rows →
      before.senderProfiles.lookup other = some row ∧
        table.lookup other = some (row.superseded start.clock) := by
    intro other row member
    have present : before.senderProfiles.lookup other = some row := updated.present _ member
    have inside : other ∈ rows.map Prod.fst := List.mem_map_of_mem member
    refine ⟨present, ?_⟩
    rw [lookups, if_pos inside, present]
    rfl
  refine ⟨seen, updated.vouched _ rfl, ?_, ?_, ?_⟩
  · have outside : id ∉ rows.map Prod.fst := by
      intro inside
      obtain ⟨⟨_, row⟩, member, rfl⟩ := List.mem_map.1 inside
      have picked := (updated.picked member).2
      simp at picked
    change table.lookup id = _
    rw [lookups, if_neg outside]
  · intro other
    by_cases inside : other ∈ rows.map Prod.fst
    · obtain ⟨⟨_, row⟩, member, rfl⟩ := List.mem_map.1 inside
      have picked := (updated.picked member).2
      simp only [Bool.and_eq_true, decide_eq_true_eq] at picked
      exact Or.inr ⟨row, (changed _ row member).1, picked.1.1, picked.1.2,
        (changed _ row member).2⟩
    · left
      change table.lookup other = _
      rw [lookups, if_neg inside]
  · rintro other apart ⟨row, present, theirs, approved⟩
    have member : (other, row) ∈ rows := updated.hit present (by simp [theirs, approved, apart])
    exact ⟨row, changed other row member⟩

/-- What follows the first statement of an approval that has found its profile. -/
theorem ensures_superseded (id : Uuid) (tenant actor : String) :
    (attested vouch).Ensures held (do
        let _ ← Program.updateChecked Tables.senderProfiles (some (.supersede id))
          (fun _ _ _ _ => none)
          (fun _ _ other row => row.tenant = tenant && row.status = .approved && other ≠ id)
          (fun moment row => row.superseded moment.start.clock)
        Program.appendRow Tables.auditEvents fun _ =>
          { subjectType := "sender_profile", subjectId := toString id, event := "approved", actor }
        pure true : Prog Bool)
      fun start success before after => success = true ∧ ∃ seen, vouch (.supersede id) seen ∧
        after.senderProfiles.lookup id = before.senderProfiles.lookup id ∧
        (∀ other, after.senderProfiles.lookup other = before.senderProfiles.lookup other ∨
          ∃ old, before.senderProfiles.lookup other = some old ∧ old.tenant = tenant ∧
            old.status = .approved ∧
            after.senderProfiles.lookup other = some (old.superseded start.clock)) ∧
        ∀ other, other ≠ id → Trusted tenant other seen →
          ∃ old, before.senderProfiles.lookup other = some old ∧
            after.senderProfiles.lookup other = some (old.superseded start.clock) := by
  refine ensures_bind (ensures_supersede id tenant) (fun _ _ _ _ _ => trivial) fun rows => ?_
  refine ensures_bind (ensures_appendRow Tables.auditEvents _) (fun _ _ _ _ _ => trivial)
    fun _ => ensures_pure _ ?_
  rintro start _ middle ⟨_, rfl⟩ before ⟨seen, vouched, own, others, hit⟩
  exact ⟨rfl, seen, vouched, own, others, hit⟩

theorem ensures_approve (id : Uuid) (actor : String) :
    (attested vouch).Ensures held (approve id actor) fun start success before after =>
      Approving vouch id actor start.clock before success after := by
  have one : ∀ (key other : Uuid) (row next : Profile),
      (decide (key = id) && decide (row.status = .proposed)) = true →
      (decide (other = id) && decide (next.status = .proposed)) = true → key = other := by
    intro key other row next first second
    simp only [Bool.and_eq_true, decide_eq_true_eq] at first second
    exact first.1.trans second.1.symm
  unfold approve
  dsimp only
  split
  · exact ensures_throw _
  refine ensures_bind (ensures_update Tables.senderProfiles _ _) (fun _ _ _ _ _ => trivial)
    fun rows => ?_
  cases rows with
  | nil =>
      refine ensures_pure _ ?_
      rintro start after before ⟨seen, busy, updated⟩
      rcases updated.single one with ⟨_, rfl⟩ | ⟨key, row, impossible, _⟩
      · exact .refused
      · cases impossible
  | cons entry rest =>
      obtain ⟨key, mine⟩ := entry
      refine (ensures_superseded id mine.tenant actor).mono ?_
      rintro start success middle after ⟨rfl, seen, vouched, own, others, hit⟩ before
        ⟨look, busy, updated⟩
      rcases updated.single one with ⟨impossible, _⟩ |
        ⟨found, row, same, present, _, picked, table, rfl, lookups⟩
      · cases impossible
      cases same
      simp only [Bool.and_eq_true, decide_eq_true_eq] at picked
      obtain ⟨rfl, proposed⟩ := picked
      have apart : ∀ other, other ≠ key →
          table.lookup other = before.senderProfiles.lookup other := by
        intro other apart
        rw [lookups, Function.update_of_ne apart]
      refine .approved mine after seen vouched ⟨present, proposed, ?_, ?_, ?_⟩
      · rw [own]
        change table.lookup key = _
        rw [lookups, Function.update_self]
        rfl
      · intro other different
        rw [← apart other different]
        exact others other
      · intro other different trusted
        rw [← apart other different]
        exact hit other different trusted

end Profiles

section Steps

variable {world next past start : World runtime} {action : Act runtime}
variable {before after : Store} {mine : Profile} {vouch : Mark → Store → Prop} {held : List Lock}

/-- What a transaction makes of the profiles. -/
inductive Settling (vouch : Mark → Store → Prop) (op : Op runtime) (out : Out)
    (before after : Store) : Prop where
  | idle (same : after.senderProfiles = before.senderProfiles)
  | filed (id : Uuid) (row : Profile) (absent : before.senderProfiles.lookup id = none)
      (proposed : row.status = .proposed)
      (wrote : after.senderProfiles.lookup =
        Function.update before.senderProfiles.lookup id (some row))
  | approved (id : Uuid) (actor : String) (time : Time) (mine : Profile) (seen : Store)
      (which : op = .approve id actor) (success : out = .decided true)
      (vouched : vouch (.supersede id) seen)
      (approval : Approval id actor time mine before after seen)

/-- A profile is put on file. -/
def Filed (before after : Store) : Prop :=
  ∃ id row, before.senderProfiles.lookup id = none ∧ row.status = .proposed ∧
    after.senderProfiles.lookup =
      Function.update before.senderProfiles.lookup id (some row)

theorem ensures_propose (config : TenantConfig runtime) (siteText : String) :
    (attested vouch).Ensures held (propose config siteText) fun _ _ before after =>
      Filed before after := by
  have silent : ∀ answer : Except Exc SenderProfileOutput,
      (attested vouch).Ensures held (MonadExcept.ofExcept answer : Prog SenderProfileOutput)
        fun _ _ before after => after = before :=
    fun answer => ensures_ofExcept answer fun _ _ _ _ => rfl
  have researched : ∀ query : Call, (attested vouch).Ensures held
      (Program.ask query : Prog query.Answer) fun _ _ before after => after = before :=
    fun query => ensures_ask query fun _ _ _ => rfl
  unfold propose
  refine ensures_bind (researched _) (fun _ _ _ _ _ => trivial) fun answer => ?_
  refine ensures_bind (silent answer) (fun _ _ _ _ _ => trivial) fun result => ?_
  refine ensures_bind (researched .uuid) (fun _ _ _ _ _ => trivial) fun id => ?_
  refine ensures_bind (ensures_insertRow Tables.senderProfiles _ _ _ _ _)
    (fun _ _ _ _ _ => trivial) fun _ => ensures_pure _ ?_
  rintro start _ last ⟨seen, busy, _, _, absent, table, rfl, lookups⟩ _ rfl _ rfl before rfl
  exact ⟨id, _, absent, rfl, lookups⟩

theorem ensures_approvedFacts (tenant : String) :
    (attested vouch).Ensures held (approvedFacts tenant) fun _ _ before after =>
      after = before := by
  have looks : (attested vouch).Ensures held
      (Program.query fun _ db => (db.senderProfiles.select fun _ row =>
        row.tenant = tenant && row.status = .approved).mergeSort resolvedLater :
        Prog (List (Uuid × Profile))) fun _ _ before after => after = before := by
    refine (ensures_query _).mono ?_
    rintro start rows before after ⟨seen, busy, _, _, same⟩
    exact same
  unfold approvedFacts
  refine ensures_bind looks (fun _ _ _ _ _ => trivial) fun rows => ?_
  split
  · exact ensures_pure _ fun _ _ _ same => same
  · exact ensures_pure _ fun _ _ _ same => same

theorem ensures_program (vouch : Mark → Store → Prop) (op : Op runtime) :
    (attested vouch).Ensures [] op.program fun _ out before after =>
      Settling vouch op out before after := by
  cases op with
  | propose config siteText =>
      refine ensures_bind (ensures_propose config siteText) (fun _ _ _ _ _ => trivial) fun id =>
        ensures_pure _ ?_
      rintro start after before ⟨id, row, absent, proposed, wrote⟩
      exact .filed id row absent proposed wrote
  | approve id actor =>
      refine ensures_bind (ensures_approve id actor) (fun _ _ _ _ _ => trivial) fun success =>
        ensures_pure _ ?_
      intro start after before approving
      cases approving with
      | refused => exact .idle rfl
      | approved mine after seen vouched approval =>
          exact .approved id actor _ mine seen rfl rfl vouched approval
  | approvedFacts tenant =>
      refine ensures_bind (ensures_approvedFacts tenant) (fun _ _ _ _ _ => trivial) fun dict =>
        ensures_pure _ ?_
      rintro start _ before rfl
      exact .idle rfl

/-- The step commits an approval of the profile. -/
def Approves (world : World runtime) (action : Act runtime) (id : Uuid) : Prop :=
  ∃ index actor txn, action = .finish index ∧ txn.failed = false ∧
    world.session index = some ⟨.approve id actor, .done (.decided true), txn⟩

/-- Whatever profile of the tenant is approved by the time an approval commits was so when the
approval superseded the others. -/
def Unraced (world : World runtime) (action : Act runtime) : Prop :=
  ∀ index id actor txn mine, action = .finish index → txn.failed = false →
    world.session index = some ⟨.approve id actor, .done (.decided true), txn⟩ →
    world.committed.senderProfiles.lookup id = some mine →
    ∀ entry ∈ txn.seen, entry.1 = .supersede id →
      ∀ other, Trusted mine.tenant other world.committed → Trusted mine.tenant other entry.2

/-- What a step makes of the profiles. -/
inductive Turn (world : World runtime) (action : Act runtime) (after : Store) : Prop where
  | idle (same : after.senderProfiles = world.committed.senderProfiles)
  | filed (filed : Filed world.committed after)
  | approved (id : Uuid) (actor : String) (time : Time) (mine : Profile) (seen : Store)
      (approves : Approves world action id)
      (unraced : Unraced world action → ∀ other,
        Trusted mine.tenant other world.committed → Trusted mine.tenant other seen)
      (approval : Approval id actor time mine world.committed after seen)

/-- A committed approval, and the state that its second statement saw. -/
theorem approval_of_approves (sound : world.Sound service fun _ _ => True)
    (approves : Approves world action id) (step : service.act action world = some next) :
    ∃ actor time mine seen, Approval id actor time mine world.committed next.committed seen ∧
      (Unraced world action → ∀ other,
        Trusted mine.tenant other world.committed → Trusted mine.tenant other seen) := by
  obtain ⟨index, actor, txn, rfl, intact, present⟩ := approves
  have call : (attested fun mark seen => (mark, seen) ∈ txn.seen).Ensures []
      (service.program (.approve id actor : Op runtime)) fun start out before after =>
        ∃ success, out = .decided success ∧
          Approving (fun mark seen => (mark, seen) ∈ txn.seen) id actor start.clock before success
            after :=
    ensures_bind (ensures_approve id actor) (fun _ _ _ _ _ => trivial) fun success =>
      ensures_pure _ fun _ _ _ approving => ⟨success, rfl, approving⟩
  obtain ⟨success, same, approving⟩ := attested_commit sound present intact
    (fun entry member => member) call
  cases same
  rw [← committed_of_finish present intact step] at approving
  cases approving with
  | approved mine after seen vouched approval =>
      refine ⟨actor, _, mine, seen, approval, fun unraced => ?_⟩
      exact unraced index id actor txn mine rfl intact present approval.found _ vouched rfl

theorem turn_of_step (sound : world.Sound service fun _ _ => True)
    (step : service.act action world = some next) : Turn world action next.committed := by
  rcases act_committed step with same | ⟨ticks, _, moved⟩ |
    ⟨index, op, out, txn, rfl, present, intact, wrote⟩
  · exact .idle (by rw [same])
  · exact .idle (by rw [moved]; rfl)
  have settling := attested_commit sound present intact
    (fun entry member => member) (ensures_program (fun mark seen => (mark, seen) ∈ txn.seen) op)
  rw [← wrote] at settling
  cases settling with
  | idle same => exact .idle same
  | filed id row absent proposed wrote => exact .filed ⟨id, row, absent, proposed, wrote⟩
  | approved id actor time mine seen which success vouched approval =>
      subst which success
      refine .approved id actor time mine seen ⟨index, actor, txn, rfl, intact, present⟩ ?_ approval
      intro unraced
      exact unraced index id actor txn mine rfl intact present approval.found _ vouched rfl

end Steps

section Approvals

variable {before after seen : Store} {mine : Profile}

theorem Approval.trusts (approval : Approval id actor time mine before after seen) :
    Trusted mine.tenant id after :=
  ⟨mine.trustedBy actor time, approval.own, rfl, rfl⟩

/-- Nothing else becomes trusted. -/
theorem Approval.kept (approval : Approval id actor time mine before after seen)
    (apart : other ≠ id) (trusted : Trusted tenant other after) : Trusted tenant other before := by
  obtain ⟨row, found, theirs, approved⟩ := trusted
  rcases approval.others other apart with same | ⟨old, _, _, _, superseded⟩
  · rw [same] at found
    exact ⟨row, found, theirs, approved⟩
  · rw [superseded] at found
    obtain rfl := Option.some.inj found
    cases approved

/-- An approval that saw the trusted profiles of the tenant has superseded them. -/
theorem Approval.alone (approval : Approval id actor time mine before after seen)
    (saw : ∀ other, Trusted mine.tenant other before → Trusted mine.tenant other seen)
    (trusted : Trusted mine.tenant other after) : other = id := by
  by_contra apart
  obtain ⟨old, _, superseded⟩ := approval.hit other apart (saw other (approval.kept apart trusted))
  obtain ⟨row, found, _, approved⟩ := trusted
  rw [superseded] at found
  obtain rfl := Option.some.inj found
  cases approved

theorem Approval.tenant_eq (approval : Approval id actor time mine before after seen)
    (trusted : Trusted tenant id after) : tenant = mine.tenant := by
  obtain ⟨row, found, theirs, _⟩ := trusted
  rw [approval.own] at found
  obtain rfl := Option.some.inj found
  exact theirs.symm

/-- The profiles of other tenants are as they were. -/
theorem Approval.elsewhere (approval : Approval id actor time mine before after seen)
    (foreign : tenant ≠ mine.tenant) : Trusted tenant other after ↔ Trusted tenant other before := by
  by_cases same : other = id
  · subst same
    constructor
    · intro trusted
      exact absurd (approval.tenant_eq trusted) foreign
    · rintro ⟨row, found, _, approved⟩
      obtain rfl := Option.some.inj (approval.found.symm.trans found)
      rw [approval.proposed] at approved
      cases approved
  · constructor
    · exact approval.kept same
    · rintro ⟨row, found, theirs, approved⟩
      rcases approval.others other same with kept | ⟨old, there, ours, _, _⟩
      · exact ⟨row, kept.trans found, theirs, approved⟩
      · obtain rfl := Option.some.inj (there.symm.trans found)
        exact absurd (theirs.symm.trans ours) foreign

theorem Approval.single (approval : Approval id actor time mine before after seen)
    (saw : ∀ other, Trusted mine.tenant other before → Trusted mine.tenant other seen)
    (single : Single before) : Single after := by
  intro tenant first second one two
  by_cases own : tenant = mine.tenant
  · subst own
    exact (approval.alone saw one).trans (approval.alone saw two).symm
  · exact single tenant first second ((approval.elsewhere own).1 one) ((approval.elsewhere own).1 two)

theorem Filed.trusted_iff (filed : Filed before after) :
    Trusted tenant other after ↔ Trusted tenant other before := by
  obtain ⟨id, row, absent, proposed, wrote⟩ := filed
  unfold Trusted
  rw [wrote]
  by_cases same : other = id
  · rw [same, Function.update_self, absent]
    simp [proposed]
  · rw [Function.update_of_ne same]

/-- What is superseded is left as it is. -/
theorem Approval.superseded (approval : Approval id actor time mine before after seen)
    {row : Profile} (found : before.senderProfiles.lookup other = some row)
    (superseded : row.status = .superseded) : after.senderProfiles.lookup other = some row := by
  by_cases same : other = id
  · subst same
    obtain rfl := Option.some.inj (approval.found.symm.trans found)
    rw [approval.proposed] at superseded
    cases superseded
  · rcases approval.others other same with kept | ⟨old, there, _, approved, _⟩
    · exact kept.trans found
    · obtain rfl := Option.some.inj (there.symm.trans found)
      rw [approved] at superseded
      cases superseded

end Approvals

section Runs

variable {world next past start : World runtime} {action : Act runtime} {mine : Profile}

theorem single_of_turn (turn : Turn world action next.committed) (unraced : Unraced world action)
    (single : Single world.committed) : Single next.committed := by
  cases turn with
  | idle same =>
      intro tenant first second
      unfold Trusted
      rw [same]
      exact single tenant first second
  | filed filed =>
      intro tenant first second one two
      exact single tenant first second (filed.trusted_iff.1 one) (filed.trusted_iff.1 two)
  | approved id actor time mine seen approves saw approval =>
      exact approval.single (saw unraced) single

theorem superseded_of_turn {row : Profile} (turn : Turn world action next.committed)
    (found : world.committed.senderProfiles.lookup id = some row)
    (superseded : row.status = .superseded) :
    next.committed.senderProfiles.lookup id = some row := by
  cases turn with
  | idle same => exact same ▸ found
  | filed filed =>
      obtain ⟨new, _, absent, _, wrote⟩ := filed
      have apart : id ≠ new := by
        intro same
        rw [same, absent] at found
        cases found
      rw [wrote, Function.update_of_ne apart]
      exact found
  | approved approvedId actor time mine seen approves saw approval =>
      exact approval.superseded found superseded

/-- The step commits an approval of a profile of the tenant. -/
def ApprovesFor (tenant : String) (world : World runtime) (action : Act runtime) : Prop :=
  ∃ id row, Approves world action id ∧ world.committed.senderProfiles.lookup id = some row ∧
    row.tenant = tenant

theorem trusted_of_turn (turn : Turn world action next.committed)
    (idle : ¬ ApprovesFor tenant world action) :
    Trusted tenant other next.committed ↔ Trusted tenant other world.committed := by
  cases turn with
  | idle same =>
      unfold Trusted
      rw [same]
  | filed filed => exact filed.trusted_iff
  | approved id actor time mine seen approves saw approval =>
      apply approval.elsewhere
      intro same
      exact idle ⟨id, mine, approves, approval.found, same.symm⟩

/-- What a profile says under a slug is one of its facts. -/
theorem fact_of_dict {profile : Profile} {slug text : String}
    (found : profile.dict.lookup slug = some text) :
    ∃ fact ∈ profile.facts, fact.slug = slug ∧ fact.fact = text := by
  have folded : ∀ (facts : List SenderFact) (dict : Table String String),
      (facts.foldl (fun dict fact => dict.upsert fact.slug fact.fact fun _ => fact.fact)
        dict).lookup slug = some text →
      dict.lookup slug = some text ∨ ∃ fact ∈ facts, fact.slug = slug ∧ fact.fact = text := by
    intro facts
    induction facts with
    | nil => exact fun dict found => Or.inl found
    | cons first rest induction =>
        intro dict found
        rcases induction _ found with early | ⟨fact, member, told⟩
        · rw [Table.lookup_upsert] at early
          by_cases same : slug = first.slug
          · rw [if_pos same] at early
            have told : first.fact = text := by
              cases old : dict.lookup first.slug <;> simp_all
            exact Or.inr ⟨first, List.mem_cons_self, same.symm, told⟩
          · rw [if_neg same] at early
            exact Or.inl early
        · exact Or.inr ⟨fact, List.mem_cons_of_mem _ member, told⟩
  rcases folded profile.facts .empty found with impossible | fact
  · cases impossible
  · exact fact

/-- A call of `approved_facts` that sees the state returns the facts. -/
def Reads (tenant : String) (db : Store) (dict : Table String String) : Prop :=
  ∃ rely a b, Exec rely (approvedFacts tenant) a (.ok dict) b ∧ a.txn.view b.committed = db

theorem read_of_single {db : Store} {dict : Table String String} (single : Single db)
    (reads : Reads tenant db dict) :
    (∀ id row, db.senderProfiles.lookup id = some row → row.tenant = tenant →
      row.status = .approved → dict = row.dict) ∧
    ((∀ id, ¬ Trusted tenant id db) → dict = .empty) := by
  obtain ⟨rely, a, b, exec, rfl⟩ := reads
  unfold approvedFacts at exec
  rw [exec_bind_ok] at exec
  obtain ⟨rows, middle, looked, rest⟩ := exec
  obtain ⟨_, ⟨busy, same⟩, _⟩ := exec_query looked
  have member : ∀ id row, (id, row) ∈ rows ↔
      (a.txn.view middle.committed).senderProfiles.lookup id = some row ∧
        row.tenant = tenant ∧ row.status = .approved := by
    intro id row
    rw [same, List.mem_mergeSort, Table.mem_select_iff]
    simp
  cases rows with
  | nil =>
      obtain ⟨value, rfl⟩ := rest
      rw [Except.ok.inj value]
      refine ⟨fun id row found theirs approved => ?_, fun _ => rfl⟩
      cases (member id row).2 ⟨found, theirs, approved⟩
  | cons entry others =>
      obtain ⟨value, rfl⟩ := rest
      rw [Except.ok.inj value]
      have there := (member entry.1 entry.2).1 List.mem_cons_self
      have trusted : Trusted tenant entry.1 (a.txn.view b.committed) := ⟨entry.2, there⟩
      refine ⟨fun id row found theirs approved => ?_, fun none => absurd trusted (none _)⟩
      obtain rfl := single tenant entry.1 id trusted ⟨row, found, theirs, approved⟩
      rw [Option.some.inj (there.1.symm.trans found)]

theorem turn_of_run {allowed : World runtime → Act runtime → Prop}
    (invariant : World runtime → Prop)
    (kept : ∀ world action next, invariant world → allowed world action →
      Turn world action next.committed → invariant next)
    (sound : start.Sound service fun _ _ => True) (holds : invariant start)
    (run : Run allowed start world) : world.Sound service (fun _ _ => True) ∧ invariant world := by
  have free : Timeline fun _ _ : Store => True := ⟨fun _ => trivial, fun _ _ => trivial⟩
  induction run with
  | refl => exact ⟨sound, holds⟩
  | tail _ step induction =>
      obtain ⟨action, permitted, step⟩ := step
      obtain ⟨sound, holds⟩ := induction
      exact ⟨act_sound free sound step trivial,
        kept _ _ _ holds permitted (turn_of_step sound step)⟩

theorem sound_of_quiet (quiet : start.sessions = []) :
    start.Sound service fun _ _ => True := by
  refine ⟨?_, ?_⟩ <;> simp [System.session, quiet]

/-- Where no approval commits over one that it has not seen, a tenant has one approved profile at
most, which is the one approved last, and `approved_facts` returns its facts; and what has been
superseded stays so. -/
theorem one_trusted_profile (quiet : start.sessions = []) (single : Single start.committed)
    (run : Run Unraced start past) (onward : Run Unraced past world) :
    Single world.committed ∧
    (∀ id row, past.committed.senderProfiles.lookup id = some row → row.status = .superseded →
      world.committed.senderProfiles.lookup id = some row) ∧
    (∀ tenant dict, Reads tenant world.committed dict →
      (∀ id row, world.committed.senderProfiles.lookup id = some row → row.tenant = tenant →
        row.status = .approved → dict = row.dict ∧ ∀ slug text, dict.lookup slug = some text →
          ∃ fact ∈ row.facts, fact.slug = slug ∧ fact.fact = text) ∧
      ((∀ id, ¬ Trusted tenant id world.committed) → dict = .empty)) ∧
    ∀ action id mine next, Unraced past action → Approves past action id →
      past.committed.senderProfiles.lookup id = some mine →
      service.act action past = some next →
      Run (fun world action => Unraced world action ∧ ¬ ApprovesFor mine.tenant world action)
        next world →
      ∀ other, Trusted mine.tenant other world.committed ↔ other = id := by
  have first := turn_of_run (fun world => Single world.committed)
    (fun _ _ _ holds unraced turn => single_of_turn turn unraced holds) (sound_of_quiet quiet)
    single run
  obtain ⟨sound, single_past⟩ := first
  have single_world := (turn_of_run (fun world => Single world.committed)
    (fun _ _ _ holds unraced turn => single_of_turn turn unraced holds) sound single_past
    onward).2
  refine ⟨single_world, ?_, ?_, ?_⟩
  · intro id row found superseded
    exact (turn_of_run (fun world => world.committed.senderProfiles.lookup id = some row)
      (fun _ _ _ holds _ turn => superseded_of_turn turn holds superseded) sound found onward).2
  · intro tenant dict reads
    obtain ⟨facts, none⟩ := read_of_single single_world reads
    refine ⟨fun id row found theirs approved => ?_, none⟩
    have same := facts id row found theirs approved
    refine ⟨same, fun slug text entry => ?_⟩
    rw [same] at entry
    exact fact_of_dict entry
  · intro action id mine next unraced approves found step further
    have trusted : ∀ other, Trusted mine.tenant other next.committed ↔ other = id := by
      obtain ⟨actor, time, row, seen, approval, saw⟩ := approval_of_approves sound approves step
      obtain rfl := Option.some.inj (approval.found.symm.trans found)
      intro other
      constructor
      · exact approval.alone (saw unraced)
      · rintro rfl
        exact approval.trusts
    have free : Timeline fun _ _ : Store => True := ⟨fun _ => trivial, fun _ _ => trivial⟩
    exact (turn_of_run (fun world => ∀ other, Trusted mine.tenant other world.committed ↔ other = id)
      (fun _ _ _ holds permitted turn other => (trusted_of_turn turn permitted.2).trans (holds other))
      (act_sound free sound step trivial) trusted further).2

end Runs

section Samples

def sampleRuntime : Runtime where
  platform := Platform.ascii []

abbrev Move := Act sampleRuntime ⊕ (((query : Call) → query.Answer) × Nat × Nat)

def answers (id : Uuid) : (query : Call) → query.Answer
  | .uuid => id
  | .senderResearch _ _ _ _ _ => .ok { facts := [] }

def begin (op : Op sampleRuntime) : Move := .inl (.start op)

def go (index count : Nat) : Move := .inr (answers 100, index, count)

def sampleProfile (fact : SenderFact) : Profile where
  tenant := "acme"
  facts := [fact]
  createdAt := 0

/-- Two profiles of one tenant are proposed. -/
def proposedWorld : World sampleRuntime where
  committed :=
    { clock := 10
      senderProfiles := (Table.empty.insert 1 (sampleProfile
        { slug := "experience", fact := "8 years booking rooms" })).insert 2 (sampleProfile
          { slug := "experience", fact := "20 years booking rooms" }) }

theorem proposed_single : Single proposedWorld.committed := by
  rintro tenant id other ⟨row, found, _, approved⟩
  have none_approved : ∀ entry ∈ proposedWorld.committed.senderProfiles.rows,
      entry.2.status = .proposed := by decide
  have member := (Table.lookup_eq_some_iff _ _ _).1 found
  rw [none_approved _ member] at approved
  cases approved

/-- What is approved by now was there, and so, for every statement that supersedes. -/
def seesTrusted (world : World sampleRuntime) : Act sampleRuntime → Bool
  | .finish index =>
      match world.session index with
      | some session => session.txn.seen.all fun entry =>
          world.committed.senderProfiles.rows.all fun other =>
            other.2.status ≠ .approved || entry.2.senderProfiles.lookup other.1 = some other.2
      | none => true
  | _ => true

theorem unraced_of_sees {world : World sampleRuntime} {action : Act sampleRuntime}
    (sees : seesTrusted world action = true) : Unraced world action := by
  rintro index id actor txn mine rfl intact present found entry member which other
    ⟨row, there, theirs, approved⟩
  unfold seesTrusted at sees
  dsimp only at sees
  rw [present] at sees
  have seen := List.all_eq_true.1 sees entry member
  have one := List.all_eq_true.1 seen (other, row) ((Table.lookup_eq_some_iff _ _ _).1 there)
  simp only [approved, ne_eq, not_true_eq_false, decide_false, Bool.false_or,
    decide_eq_true_eq] at one
  exact ⟨row, one, theirs, approved⟩

def approved (world : World sampleRuntime) (id : Uuid) : Bool :=
  (world.committed.senderProfiles.lookup id).any fun row =>
    row.tenant = "acme" && row.status = .approved

theorem trusted_of_approved {world : World sampleRuntime} (holds : approved world id = true) :
    Trusted "acme" id world.committed := by
  obtain ⟨row, found, both⟩ := (Option.any_eq_true _ _).1 holds
  simp only [Bool.and_eq_true, decide_eq_true_eq] at both
  exact ⟨row, found, both.1, both.2⟩

/-- Of two approvals, one after the other, the second supersedes what the first has approved. -/
theorem approvals_in_turn : ∃ world : World sampleRuntime, Run Unraced proposedWorld world ∧
    Trusted "acme" 2 world.committed ∧ Single world.committed := by
  have tried : (service.scriptChecked seesTrusted
      [begin (.approve 1 "operator:maya"), go 0 4, begin (.approve 2 "operator:tomas"), go 1 4]
      proposedWorld).any (fun world => approved world 2) = true := by
    decide +kernel
  obtain ⟨world, played, last⟩ := (Option.any_eq_true _ _).1 tried
  have run : Run Unraced proposedWorld world :=
    run_of_scriptChecked service (fun _ _ => unraced_of_sees) played
  exact ⟨world, run, trusted_of_approved last,
    (one_trusted_profile rfl proposed_single run .refl).1⟩

/-- Neither of two approvals at a time sees what the other approves. -/
theorem approvals_cross : Single proposedWorld.committed ∧ ∃ world : World sampleRuntime,
    Run (fun _ _ => True) proposedWorld world ∧ ¬ Single world.committed := by
  refine ⟨proposed_single, ?_⟩
  have tried : (service.script
      [begin (.approve 1 "operator:maya"), begin (.approve 2 "operator:tomas"), go 0 3, go 1 4,
        go 0 1] proposedWorld).any (fun world => approved world 1 && approved world 2) = true := by
    decide +kernel
  obtain ⟨world, played, both⟩ := (Option.any_eq_true _ _).1 tried
  obtain ⟨first, second⟩ := (Bool.and_eq_true _ _).mp both
  refine ⟨world, service.run_of_script (fun _ _ => trivial) played, fun single => ?_⟩
  have same := single "acme" 1 2 (trusted_of_approved first) (trusted_of_approved second)
  cases same

end Samples

end OpenReachout.SenderProfile
