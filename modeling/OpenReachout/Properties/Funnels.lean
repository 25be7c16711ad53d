import OpenReachout.Properties.Exchanges
import OpenReachout.Properties.Reports
import OpenReachout.Properties.Trails

/-!
# The furthest stage

The funnel counts the prospects by the states they are in, and promises to count them by
the furthest stage they have come to. Five transitions lead back to an earlier stage.
-/

namespace OpenReachout

open Relational Relational.Abstraction Relational.Program Relational.Discipline Text

set_option autoImplicit false

section States

/-- A transition to an earlier stage. -/
def ProspectState.Lowers (source target : ProspectState) : Prop :=
  target ∈ transitions source ∧ target ≠ .forgotten ∧ target.stage < source.stage

instance (source target : ProspectState) : Decidable (source.Lowers target) := by
  unfold ProspectState.Lowers
  infer_instance

/-- What is engaged can end like one that was only contacted, what did not respond can be
queued again, and what is queued can be disqualified. -/
theorem lowers_iff (source target : ProspectState) : source.Lowers target ↔
    source = .engaged ∧ (target = .declined ∨ target = .unsubscribed ∨ target = .noResponse) ∨
      source = .noResponse ∧ target = .queued ∨ source = .queued ∧ target = .disqualified := by
  cases source <;> cases target <;> decide

/-- All states that a row of the log can name. -/
def prospectStates : List ProspectState :=
  [.discovered, .enriched, .qualified, .queued, .contacted, .engaged, .converted, .disqualified,
    .unenrichable, .bounced, .declined, .unsubscribed, .noResponse, .forgotten]

theorem mem_prospectStates (state : ProspectState) : state ∈ prospectStates := by
  cases state <;> decide

/-- The row leads to the state. -/
def AuditEvent.reaches (row : AuditEvent) (state : ProspectState) : Bool :=
  row.payload.lookup "to" = some (.text state.text)

/-- The state that a transition has led to. -/
def AuditEvent.target (row : AuditEvent) : Option ProspectState :=
  prospectStates.find? row.reaches

theorem target_eq_some_iff (row : AuditEvent) (state : ProspectState) :
    row.target = some state ↔ row.payload.lookup "to" = some (.text state.text) := by
  unfold AuditEvent.target
  constructor
  · intro found
    have here : row.reaches state = true := List.find?_some found
    exact of_decide_eq_true here
  · intro named
    have here : row.reaches state = true := decide_eq_true named
    cases found : prospectStates.find? row.reaches with
    | none => exact absurd here (List.find?_eq_none.1 found state (mem_prospectStates state))
    | some other =>
        have there : row.reaches other = true := List.find?_some found
        have texts : some (Field.text other.text) = some (Field.text state.text) :=
          (of_decide_eq_true there).symm.trans named
        have same : other = state := by
          apply ProspectState.text_inj
          simpa using texts
        rw [same]

/-- The states that a prospect has been in. -/
def history (audits : List AuditEvent) (prospectId : Uuid) : List ProspectState :=
  .discovered :: (trail audits prospectId).filterMap AuditEvent.target

/-- The row tells of no transition to an earlier stage. -/
def AuditEvent.Climbs (row : AuditEvent) : Prop :=
  row.event = "transition" → ∀ source target : ProspectState,
    row.payload.lookup "from" = some (.text source.text) →
      row.payload.lookup "to" = some (.text target.text) → source.stage ≤ target.stage

/-- In a log without such rows nothing that was visited is later than where the trail ends,
and the end is visited. -/
theorem Chain.climbs {rows : List AuditEvent} {last : ProspectState}
    (chain : Chain .discovered rows last)
    (climbs : ∀ row ∈ rows, row.event = "transition" ∧ row.Climbs) :
    ∀ state ∈ ProspectState.discovered :: rows.filterMap AuditEvent.target,
      state.stage ≤ last.stage := by
  induction chain with
  | start =>
      intro state member
      obtain rfl := List.mem_singleton.1 member
      exact le_refl _
  | @step earlier middle next row before edge source target induction =>
      have early := induction fun row member => climbs row (List.mem_append_left _ member)
      have rise : middle.stage ≤ next.stage := by
        have row_climbs := climbs row (List.mem_append_right _ List.mem_cons_self)
        exact row_climbs.2 row_climbs.1 middle next source target
      have led : row.target = some next := (target_eq_some_iff row next).2 target
      intro state member
      rw [List.filterMap_append, ← List.cons_append] at member
      rcases List.mem_append.1 member with old | new
      · exact (early state old).trans rise
      · have here : state = next := by
          simpa [led] using new
        rw [here]

theorem Chain.last_mem {rows : List AuditEvent} {last : ProspectState}
    (chain : Chain .discovered rows last) :
    last ∈ ProspectState.discovered :: rows.filterMap AuditEvent.target := by
  cases chain with
  | start => exact List.mem_cons_self
  | @step earlier middle _ row before edge source target =>
      have led : row.target = some last := (target_eq_some_iff row last).2 target
      simp [led]

end States

section Logging

/-- The log goes on, without transitions to earlier stages. -/
def Climbing (before after : Database) : Prop :=
  ∃ rows, after.auditEvents = before.auditEvents ++ rows ∧ ∀ row ∈ rows, row.Climbs

theorem climbing_of_same {before after : Database} (same : after.auditEvents = before.auditEvents) :
    Climbing before after := by
  refine ⟨[], ?_, fun row member => absurd member List.not_mem_nil⟩
  rw [same, List.append_nil]

theorem climbing_timeline : Timeline Climbing where
  refl _ := climbing_of_same rfl
  trans := by
    intro first second third early late
    obtain ⟨old, added, climbs⟩ := early
    obtain ⟨new, further, higher⟩ := late
    refine ⟨old ++ new, ?_, ?_⟩
    · rw [further, added, List.append_assoc]
    · intro row member
      exact (List.mem_append.1 member).elim (climbs row) (higher row)

theorem climbing_append {row : AuditEvent} (climbs : row.Climbs) (db : Database) :
    Climbing db { db with auditEvents := db.auditEvents ++ [row] } := by
  refine ⟨[row], rfl, ?_⟩
  intro other member
  rw [List.mem_singleton.1 member]
  exact climbs

theorem climbs_of_other {row : AuditEvent} (other : row.event ≠ "transition") : row.Climbs :=
  fun moves => absurd moves other

/-- Of what a transition tells, only where it comes from and where it leads counts. -/
theorem climbs_transition {prospectId : Uuid} {source target : ProspectState}
    (actor reason : String) (rise : source.stage ≤ target.stage) :
    (AuditEvent.transition prospectId source target actor reason).Climbs := by
  intro _ from_ to_ named led
  have start : some (Field.text source.text) = some (Field.text from_.text) := named
  have finish : some (Field.text target.text) = some (Field.text to_.text) := led
  have begins : source = from_ := by
    apply ProspectState.text_inj
    simpa using start
  have ends : target = to_ := by
    apply ProspectState.text_inj
    simpa using finish
  rw [← begins, ← ends]
  exact rise

/-- The transition asked for is not one to an earlier stage. -/
def Onward : Mark → Database → Prop
  | .transition prospectId target _, seen =>
      ∀ lead, seen.prospects.lookup prospectId = some lead → ¬ lead.state.Lowers target
  | _, _ => True

theorem climbing_transition {prospectId : Uuid} {target : ProspectState} (actor reason : String)
    (alive : target ≠ .forgotten) :
    LeadsBy (attested Onward) Climbing (transition prospectId target actor reason) where
  returns := by
    unfold transition
    refine ensures_bind (ensures_lockRowsVouched Tables.prospects _ _)
      (fun _ _ _ _ _ => trivial) fun rows => ?_
    match rows with
    | [] => exact ensures_throw _
    | (id, row) :: rest =>
        dsimp only
        split_ifs with edge
        · refine ensures_bind (ensures_update Tables.prospects _ _) (fun _ _ _ _ _ => trivial)
            fun changed => ?_
          refine (ensures_appendRow Tables.auditEvents _).mono ?_
          rintro start _ middle after ⟨_, rfl⟩ before ⟨_, _, updated⟩ _
            ⟨seen, waiting, _, vouched, chosen, _, rfl⟩
          have member : (id, row) ∈ (id, row) :: rest := List.mem_cons_self
          rw [chosen] at member
          obtain ⟨found, named⟩ := (Table.mem_select_iff _ _ _ _).1 member
          obtain rfl : id = prospectId := of_decide_eq_true named
          have kept : ¬ row.state.Lowers target := vouched _ rfl row found
          have rise : row.state.stage ≤ target.stage := by
            by_contra fall
            exact kept ⟨edge, alive, by omega⟩
          obtain ⟨table, rfl, _⟩ := updated.table
          exact climbing_append (climbs_transition actor reason rise) _
        · exact ensures_throw _
  raises := by
    unfold transition
    refine raises_bind (ensures_lockRowsVouched Tables.prospects _ _) (fun _ _ _ _ _ => trivial)
      (raises_perform _ _) fun rows => ?_
    match rows with
    | [] =>
        refine raises_throw _ ?_
        rintro start db before ⟨_, _, _, _, _, _, rfl⟩
        exact climbing_timeline.refl _
    | (id, row) :: rest =>
        dsimp only
        split_ifs with edge
        · exact raises_of_sure (sure_bind (sure_perform _ _) fun _ => sure_perform _ _)
        · refine raises_throw _ ?_
          rintro start db before ⟨_, _, _, _, _, _, rfl⟩
          exact climbing_timeline.refl _

/-- What leaves the log going on is a discipline where no transition leads back. -/
def climbing : Conduct := leadingVouched Onward climbing_timeline

theorem ordinary_climbing : Ordinary climbing.allowed := by
  have idle : ∀ before after : Database, after.auditEvents = before.auditEvents →
      Climbing before after := fun _ _ same => climbing_of_same same
  constructor
  case marks => exact fun _ _ => trivial
  case audited => exact fun row other db => climbing_append (climbs_of_other other.1) db
  case touches => exact fun _ _ _ db => idle db _ rfl
  case counters => exact fun _ _ _ _ db => idle db _ rfl
  case mailboxCounters => exact fun _ _ _ db => idle db _ rfl
  case received => exact fun _ _ db => idle db _ rfl
  case exchanged => exact fun _ _ db => idle db _ rfl
  case providerEvents => exact fun _ _ db => idle db _ rfl
  case objections => exact fun _ db => idle db _ rfl
  all_goals exact fun _ _ _ _ db => idle db _ rfl

theorem climbing_prospects : climbing.allowed.Changes Tables.prospects :=
  fun _ _ _ _ _ => climbing_of_same rfl

theorem serves_climbing (site : Deployment) (op : Op) : Serves site climbing op where
  ordinary := ordinary_climbing
  catching := catching_leadingVouched Onward climbing_timeline
  keyed _ := ⟨fun _ _ _ _ _ => climbing_of_same rfl⟩
  counting _ := by
    refine ⟨fun row missed db => climbing_append (climbs_of_other ?_) db⟩
    rw [missed]
    decide
  inserting _ := ⟨fun _ _ _ => climbing_of_same rfl⟩
  moves actor _ := fun _ _ reason alive => climbing_transition actor reason alive
  tries _ := tries_of_changes fun _ _ _ _ _ => climbing_of_same rfl
  credits _ := credits_of_changes fun _ _ _ _ _ => climbing_of_same rfl
  guards _ := guards_of_changes (fun _ _ _ _ _ => climbing_of_same rfl) ordinary_climbing
  judges _ := judges_of_changes fun _ _ _ _ _ => climbing_of_same rfl
  brakes _ := by
    refine brakes_of_changes ordinary_climbing ⟨fun _ _ _ _ _ => climbing_of_same rfl, ?_⟩
    intro row which db
    refine climbing_append (climbs_of_other ?_) db
    rcases which with same | same
    all_goals
      rw [same]
      decide
  applies _ := applies_of_changes fun _ _ _ _ _ => climbing_of_same rfl
  enrols _ := by
    intro prospectId row _
    exact keeps_within (within_insertRow (Allowance.marks_none _) climbing_prospects _ _ _ _)
  scrubs _ := by
    intro ids
    refine scrubs_of_changes ordinary_climbing ⟨fun _ _ _ _ _ => climbing_of_same rfl⟩
      (fun _ _ _ _ _ => climbing_of_same rfl) ids ?_
    exact within_update climbing_prospects _ _
  attaches := by
    intro prospectId address bucket
    refine keeps_within (within_bind ?_ fun _ => within_pure _)
    exact within_updateChecked (fun _ _ => trivial) climbing_prospects _ _ _

end Logging

section Counts

variable {db before after : Database} {tenant : String}

/-- A prospect of the tenant that is not forgotten. -/
def Database.owns (db : Database) (tenant : String) (row : Prospect) : Bool :=
  db.tenants.lookup row.tenantId = some tenant && row.state ≠ .forgotten

/-- Such a prospect, that is at the stage or past it. -/
def Database.standsAt (db : Database) (tenant : String) (stage : Nat) (entry : Uuid × Prospect) :
    Bool :=
  db.owns tenant entry.2 && stage ≤ entry.2.state.stage

/-- Such a prospect, that has been at the stage or past it. -/
def Database.cameTo (db : Database) (tenant : String) (stage : Nat) (entry : Uuid × Prospect) :
    Bool :=
  db.owns tenant entry.2 &&
    (history db.auditEvents entry.1).any fun state => stage ≤ state.stage

/-- Each count of the funnel is how many have come to its stage or past it. -/
def CountsFurthest (db : Database) (tenant : String) : Prop :=
  (funnel db tenant none).reached =
    stages.map fun entry => (entry.1, db.prospects.rows.countP (db.cameTo tenant entry.2))

instance (db : Database) (tenant : String) : Decidable (CountsFurthest db tenant) :=
  inferInstanceAs (Decidable (_ = _))

/-- What the funnel counts are the prospects that are at a stage or past it. -/
theorem reached_eq (db : Database) (tenant : String) : (funnel db tenant none).reached =
    stages.map fun entry => (entry.1, db.prospects.rows.countP (db.standsAt tenant entry.2)) := by
  unfold funnel
  apply List.map_congr_left
  intro entry _
  have counted := sum_byState ((db.ofTenant tenant).filter fun row =>
    row.state ≠ .forgotten && inCohort none row) fun state => decide (entry.2 ≤ state.stage)
  have rows : ((db.ofTenant tenant).filter fun row =>
      row.state ≠ .forgotten && inCohort none row).countP
        (fun row => decide (entry.2 ≤ row.state.stage)) =
      db.prospects.rows.countP (db.standsAt tenant entry.2) := by
    unfold Database.ofTenant Table.select
    rw [List.countP_filter, List.countP_map, List.countP_filter]
    apply List.countP_congr
    intro row _
    simp only [Database.standsAt, Database.owns, inCohort, Function.comp_apply, Option.all_none,
      Bool.and_true, Bool.and_eq_true, decide_eq_true_eq]
    tauto
  rw [← rows, ← counted]

theorem stage_listed {state : ProspectState} (alive : state ≠ .forgotten) :
    ∃ label, (label, state.stage) ∈ stages := by
  cases state with
  | forgotten => exact absurd rfl alive
  | _ => simp [stages, ProspectState.stage]

/-- A prospect that is not forgotten is in a state of its history. -/
theorem state_mem_history (trailing : Trailing db) {prospectId : Uuid} {lead : Prospect}
    (found : db.prospects.lookup prospectId = some lead) (living : lead.state ≠ .forgotten) :
    lead.state ∈ history db.auditEvents prospectId := by
  have traced := (traced_iff trailing found).2 living
  exact traced.1.last_mem

/-- Where the trails lead to the prospects, the funnel counts what it promises for a tenant
exactly if each of its prospects stands at the furthest stage it has come to. -/
theorem counts_furthest_iff (trailing : Trailing db) : CountsFurthest db tenant ↔
    ∀ prospectId lead, db.prospects.lookup prospectId = some lead → db.owns tenant lead = true →
      ∀ state ∈ history db.auditEvents prospectId, state.stage ≤ lead.state.stage := by
  have stands : ∀ stage, ∀ entry ∈ db.prospects.rows, db.standsAt tenant stage entry = true →
      db.cameTo tenant stage entry = true := by
    intro stage entry member standing
    unfold Database.standsAt at standing
    rw [Bool.and_eq_true, decide_eq_true_eq] at standing
    obtain ⟨own, here⟩ := standing
    have living : entry.2.state ≠ .forgotten := by
      unfold Database.owns at own
      simpa using (Bool.and_eq_true_iff.1 own).2
    have found : db.prospects.lookup entry.1 = some entry.2 :=
      (Table.lookup_eq_some_iff _ _ _).2 member
    unfold Database.cameTo
    rw [own, Bool.true_and]
    exact List.any_eq_true.2 ⟨_, state_mem_history trailing found living, decide_eq_true here⟩
  have each : CountsFurthest db tenant ↔ ∀ entry ∈ stages, ∀ row ∈ db.prospects.rows,
      db.cameTo tenant entry.2 row = true → db.standsAt tenant entry.2 row = true := by
    unfold CountsFurthest
    rw [reached_eq, List.map_inj_left]
    apply forall₂_congr
    intro entry _
    rw [← countP_eq_iff_of_imp (stands entry.2), Prod.mk.injEq]
    exact and_iff_right rfl
  rw [each]
  constructor
  · intro counts prospectId lead found own state visited
    by_cases alive : state = .forgotten
    · rw [alive]
      exact Nat.zero_le _
    · obtain ⟨label, listed⟩ := stage_listed alive
      have member : (prospectId, lead) ∈ db.prospects.rows :=
        (Table.lookup_eq_some_iff _ _ _).1 found
      have came : db.cameTo tenant state.stage (prospectId, lead) = true := by
        unfold Database.cameTo
        rw [own, Bool.true_and]
        exact List.any_eq_true.2 ⟨state, visited, decide_eq_true (le_refl _)⟩
      have standing := counts _ listed _ member came
      unfold Database.standsAt at standing
      exact of_decide_eq_true (Bool.and_eq_true_iff.1 standing).2
  · intro furthest entry _ row member came
    unfold Database.cameTo at came
    obtain ⟨own, visited⟩ := Bool.and_eq_true_iff.1 came
    obtain ⟨state, there, late⟩ := List.any_eq_true.1 visited
    have found : db.prospects.lookup row.1 = some row.2 :=
      (Table.lookup_eq_some_iff _ _ _).2 member
    have reached := furthest row.1 row.2 found own state there
    unfold Database.standsAt
    rw [own, Bool.true_and, decide_eq_true_eq]
    exact (of_decide_eq_true late).trans reached

/-- The log tells of no transition to an earlier stage. -/
def Rising (db : Database) : Prop := ∀ row ∈ db.auditEvents, row.Climbs

theorem rising_climbing (rising : Rising before) (climbing : Climbing before after) :
    Rising after := by
  obtain ⟨rows, added, climbs⟩ := climbing
  intro row member
  rw [added] at member
  exact (List.mem_append.1 member).elim (rising row) (climbs row)

theorem counts_of_rising (trailing : Trailing db) (rising : Rising db) (tenant : String) :
    CountsFurthest db tenant := by
  rw [counts_furthest_iff trailing]
  intro prospectId lead found own
  have living : lead.state ≠ .forgotten := by
    unfold Database.owns at own
    simpa using (Bool.and_eq_true_iff.1 own).2
  have traced := (traced_iff trailing found).2 living
  apply traced.1.climbs
  intro row member
  obtain ⟨logged, about⟩ := List.mem_filter.1 member
  exact ⟨of_decide_eq_true (Bool.and_eq_true_iff.1 about).2, rising row logged⟩

/-- What leaves the counts of the funnel no lower. -/
structure Raising (before after : Database) : Prop where
  climbing : Climbing before after
  later : Later before.ledger after.ledger
  sparing : Sparing before after

theorem raising_timeline : Timeline Raising where
  refl db := ⟨climbing_timeline.refl db, later_refl _, sparing_timeline.refl db⟩
  trans first second := ⟨climbing_timeline.trans first.climbing second.climbing,
    later_trans first.later second.later, sparing_timeline.trans first.sparing second.sparing⟩

theorem history_climbing (climbing : Climbing before after) (prospectId : Uuid) :
    history before.auditEvents prospectId ⊆ history after.auditEvents prospectId := by
  obtain ⟨rows, added, _⟩ := climbing
  have longer : trail after.auditEvents prospectId =
      trail before.auditEvents prospectId ++ trail rows prospectId := by
    unfold trail
    rw [added, List.filter_append]
  unfold history
  rw [longer, List.filterMap_append, ← List.cons_append]
  exact List.subset_append_left _ _

theorem cameTo_le (raising : Raising before after) (tenant : String) (stage : Nat) :
    before.prospects.rows.countP (before.cameTo tenant stage) ≤
      after.prospects.rows.countP (after.cameTo tenant stage) := by
  apply Table.countP_le
  intro prospectId lead found came
  obtain ⟨next, there, kept⟩ := raising.later.prospects prospectId lead found
  refine ⟨next, there, ?_⟩
  unfold Database.cameTo Database.owns at came ⊢
  simp only [Bool.and_eq_true, decide_eq_true_eq] at came ⊢
  obtain ⟨⟨named, living⟩, visited⟩ := came
  have tenants : after.tenants.lookup = before.tenants.lookup := raising.later.tenants
  refine ⟨⟨?_, ?_⟩, ?_⟩
  · rw [tenants, kept.tenantId]
    exact named
  · intro gone
    obtain ⟨old, here, before_gone⟩ := raising.sparing prospectId next there gone
    obtain rfl := Option.some.inj (here.symm.trans found)
    exact living before_gone
  · obtain ⟨state, member, late⟩ := List.any_eq_true.1 visited
    exact List.any_eq_true.2 ⟨state, history_climbing raising.climbing prospectId member, late⟩

end Counts

section Runs

variable {site : Deployment} {allowed : World → Act → Prop} {start world later : World}

/-- The step commits no transition to an earlier stage. -/
def Forward (world : World) (action : Act) : Prop :=
  ∀ index session out, action = .finish index → world.session index = some session →
    Committing session out → ∀ entry ∈ session.txn.seen, Onward entry.1 entry.2

theorem climbing_of_step {action : Act} (sound : world.Sound (service site) anything)
    (step : (service site).act action world = some later) (forward : Forward world action) :
    Climbing world.committed later.committed := by
  rcases act_committed step with same | ⟨ticks, _, moved⟩ | ⟨index, op, out, txn, which, present,
    intact, wrote⟩
  · rw [same]
    exact climbing_timeline.refl _
  · rw [moved]
    exact climbing_of_same rfl
  · have leads : LeadsBy (attested Onward) Climbing (op.program site) :=
      keeps_program (serves_climbing site op)
    have vouched : ∀ entry ∈ txn.seen, Onward entry.1 entry.2 :=
      forward index ⟨op, .done out, txn⟩ out which present ⟨rfl, intact⟩
    rw [wrote]
    exact Relational.attested_commit sound present intact vouched leads.returns

/-- Neither to an earlier stage nor out of the count. -/
def Gaining (world : World) (action : Act) : Prop := Forward world action ∧ ¬ Erasing world action

theorem sane_forward (quiet : start.sessions = []) (linked : Linked start.committed.ledger)
    (run : Run site Forward start world) :
    Sane site world ∧ Climbing start.committed world.committed := by
  have free : ∀ world action, Forward world action → Vouched (fun _ _ _ _ => True) world action :=
    vouched_free
  refine invariant_of_advances (fun world => Climbing start.committed world.committed) free ?_ quiet
    linked (climbing_timeline.refl _) run
  intro middle action after sane climbing forward step _
  have sound : middle.Sound (service site) anything := sane.sound.weaken fun _ _ _ => trivial
  exact climbing_timeline.trans climbing (climbing_of_step sound step forward)

theorem raising_run (sane : Sane site world) (run : Run site Gaining world later) :
    Raising world.committed later.committed := by
  have free : ∀ world action, Gaining world action → Vouched (fun _ _ _ _ => True) world action :=
    vouched_free
  refine (invariant_onward (fun later => Raising world.committed later.committed) free ?_ sane
    (raising_timeline.refl _) run).2
  intro middle action after sane raising gaining step advance
  have sound : middle.Sound (service site) anything := sane.sound.weaken fun _ _ _ => trivial
  exact raising_timeline.trans raising ⟨climbing_of_step sound step gaining.1,
    later_advance advance, sparing_of_step sound step gaining.2⟩

/-- In a run without transitions to an earlier stage, the funnel counts the prospects of
each tenant by the furthest stage they have come to, and without an erasure no count
decreases from then on. -/
theorem funnel_counts_furthest (quiet : start.sessions = [])
    (linked : Linked start.committed.ledger) (trailing : Trailing start.committed)
    (rising : Rising start.committed) (run : Run site Forward start world) (tenant : String) :
    CountsFurthest world.committed tenant ∧
      ∀ later, Run site Gaining world later →
        List.Forall₂ (fun old new => old.1 = new.1 ∧ old.2 ≤ new.2)
          (funnel world.committed tenant none).reached
          (funnel later.committed tenant none).reached := by
  obtain ⟨sane, climbing⟩ := sane_forward quiet linked run
  have counts : CountsFurthest world.committed tenant :=
    counts_of_rising (trailing_of_run quiet trailing run) (rising_climbing rising climbing) tenant
  refine ⟨counts, ?_⟩
  intro later onward
  have wider : (service site).Step Gaining ≤ (service site).Step Forward := by
    intro first second moved
    obtain ⟨action, gaining, step⟩ := moved
    exact ⟨action, gaining.1, step⟩
  have forward : Run site Forward world later := Relation.ReflTransGen.mono wider world later onward
  have whole : Run site Forward start later := run.trans forward
  obtain ⟨_, climbs⟩ := sane_forward quiet linked whole
  have counts_later : CountsFurthest later.committed tenant :=
    counts_of_rising (trailing_of_run quiet trailing whole) (rising_climbing rising climbs) tenant
  rw [counts, counts_later, List.forall₂_map_left_iff, List.forall₂_map_right_iff,
    List.forall₂_same]
  intro entry _
  exact ⟨rfl, cameTo_le (raising_run sane onward) tenant entry.2⟩

end Runs

section Sample

/-- How the sample prospect has come to be contacted. -/
def trackedLog : List AuditEvent :=
  [.transition 3 .discovered .enriched "system:enrich" "",
    .transition 3 .enriched .qualified "system:qualify" "",
    .transition 3 .qualified .queued "system:qualify" "",
    .transition 3 .queued .contacted "system:deliver" ""]

/-- The world in which the touch has been sent, with its log. -/
def trackedWorld : World := { committed := { dispatchedDatabase with auditEvents := trackedLog } }

theorem tracked_trailing : Trailing trackedWorld.committed := by
  intro prospectId
  change Tracked (trail trackedLog prospectId)
    ((Table.empty.insert 3 { sampleProspect with state := .contacted }).lookup prospectId)
  rw [Table.lookup_insert]
  split_ifs with same
  · have whole : trail trackedLog 3 = trackedLog := by
      decide +kernel
    have enriched : Chain .discovered (trackedLog.take 1) .enriched :=
      .step _ .start (by decide) rfl rfl
    have qualified : Chain .discovered (trackedLog.take 2) .qualified :=
      .step _ enriched (by decide) rfl rfl
    have queued : Chain .discovered (trackedLog.take 3) .queued :=
      .step _ qualified (by decide) rfl rfl
    have chain : Chain .discovered trackedLog .contacted := .step _ queued (by decide) rfl rfl
    rw [same, whole]
    exact .present _ .contacted nofun chain (Or.inl rfl)
  · apply Tracked.absent
    apply List.filter_eq_nil_iff.2
    intro row member mine
    have subject : ∀ row ∈ trackedLog, row.subjectId = toString 3 := by
      decide
    simp only [Bool.and_eq_true, decide_eq_true_eq] at mine
    have mine_too : toString prospectId = toString 3 := mine.1.2.symm.trans (subject row member)
    exact same (toString_inj mine_too)

theorem tracked_rising : Rising trackedWorld.committed := by
  have each : ∀ source target actor, source.stage ≤ target.stage →
      (AuditEvent.transition 3 source target actor "").Climbs :=
    fun _ _ actor rise => climbs_transition actor "" rise
  intro row member
  have listed : row ∈ trackedLog := member
  unfold trackedLog at listed
  simp only [List.mem_cons, List.not_mem_nil, or_false] at listed
  rcases listed with same | same | same | same
  all_goals
    rw [same]
    exact each _ _ _ (by decide)

/-- The prospect replies, and its reply is read as a refusal. -/
def sendsReply : List Move := [begin (.ingestEvents [sampleEvent "event-2" .reply]), go 0 11 400]
def declinesReply : List Move := [begin (.lease .classify), go 1 13 500]

/-- `Onward`, tried on one statement. -/
def onwardHere (entry : Mark × Database) : Bool :=
  match entry.1 with
  | .transition prospectId target _ =>
      (entry.2.prospects.lookup prospectId).all fun lead => !decide (lead.state.Lowers target)
  | _ => true

def forwardHere (world : World) : Act → Bool
  | .finish index => (world.session index).all fun session => session.txn.seen.all onwardHere
  | _ => true

def sparesHere (world : World) : Act → Bool
  | .finish index => (world.session index).all fun session =>
      match session.op with
      | .forget _ => false
      | _ => true
  | _ => true

theorem onwardHere_sound {entry : Mark × Database} (checked : onwardHere entry = true) :
    Onward entry.1 entry.2 := by
  obtain ⟨mark, seen⟩ := entry
  cases mark with
  | transition prospectId target actor =>
      intro lead found
      have kept := (Option.all_eq_true _ _).1 checked lead found
      simpa using kept
  | _ => trivial

theorem forward_of_here (world : World) (action : Act) (checked : forwardHere world action = true) :
    Forward world action := by
  intro index session out which found _ entry member
  rw [which] at checked
  have each := (Option.all_eq_true _ _).1 checked session found
  exact onwardHere_sound (List.all_eq_true.1 each entry member)

theorem unerased_of_here (world : World) (action : Act) (checked : sparesHere world action = true) :
    ¬ Erasing world action := by
  intro erasing
  obtain ⟨index, ref, out, txn, which, found, _⟩ := erasing
  rw [which] at checked
  have each := (Option.all_eq_true _ _).1 checked _ found
  cases each

/-- What was contacted and replies is engaged, and counted so. -/
theorem reply_counted : ∃ world, Run sampleDeployment Forward trackedWorld world ∧
    CountsFurthest world.committed "acme" ∧
    (funnel world.committed "acme" none).reached.lookup "engaged" = some 1 := by
  have tried : ((service sampleDeployment).scriptChecked forwardHere sendsReply trackedWorld).any
      (fun world => (funnel world.committed "acme" none).reached.lookup "engaged" = some 1) =
        true := by
    decide +kernel
  obtain ⟨world, played, engaged⟩ := (Option.any_eq_true _ _).1 tried
  have run : Run sampleDeployment Forward trackedWorld world :=
    run_of_scriptChecked (service sampleDeployment) forward_of_here played
  have linked : Linked trackedWorld.committed.ledger := dispatched_linked
  have counts := funnel_counts_furthest rfl linked tracked_trailing tracked_rising run "acme"
  exact ⟨world, run, counts.1, of_decide_eq_true engaged⟩

/-- Once its reply is read as a refusal, nothing is counted as engaged. -/
theorem engaged_lost : Trailing trackedWorld.committed ∧ Rising trackedWorld.committed ∧
    ∃ world later, Run sampleDeployment (fun world action => ¬ Erasing world action) trackedWorld
        world ∧
      Run sampleDeployment (fun world action => ¬ Erasing world action) world later ∧
      CountsFurthest world.committed "acme" ∧ ¬ CountsFurthest later.committed "acme" ∧
      (funnel world.committed "acme" none).reached.lookup "engaged" = some 1 ∧
      (funnel later.committed "acme" none).reached.lookup "engaged" = some 0 := by
  refine ⟨tracked_trailing, tracked_rising, ?_⟩
  have tried : ((service sampleDeployment).scriptChecked sparesHere sendsReply trackedWorld).any
      (fun world => ((service sampleDeployment).scriptChecked sparesHere declinesReply world).any
        fun later : World => decide (CountsFurthest world.committed "acme") &&
          !decide (CountsFurthest later.committed "acme") &&
          ((funnel world.committed "acme" none).reached.lookup "engaged" == some 1) &&
          ((funnel later.committed "acme" none).reached.lookup "engaged" == some 0)) = true := by
    decide +kernel
  obtain ⟨world, played, onward⟩ := (Option.any_eq_true _ _).1 tried
  obtain ⟨later, further, seen⟩ := (Option.any_eq_true _ _).1 onward
  simp only [Bool.and_eq_true, Bool.not_eq_true', decide_eq_true_eq, decide_eq_false_iff_not,
    beq_iff_eq] at seen
  obtain ⟨⟨⟨counts, miscounts⟩, engaged⟩, lost⟩ := seen
  exact ⟨world, later, run_of_scriptChecked (service sampleDeployment) unerased_of_here played,
    run_of_scriptChecked (service sampleDeployment) unerased_of_here further, counts, miscounts,
    engaged, lost⟩

end Sample

end OpenReachout
