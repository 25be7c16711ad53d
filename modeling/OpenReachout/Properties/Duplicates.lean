import OpenReachout.Properties.Proposals

/-!
# Duplicate proposals

Nothing but its own look at the others keeps a proposal from being recorded twice. A key has
one open proposal at most, and none is recorded in the time for which a decline is
remembered, as long as no other proposal of the key is committed while one is under way.
-/

namespace OpenReachout

open Relational Relational.Abstraction Text

set_option autoImplicit false

variable {site : Deployment} {op : Op} {held : List RowLock} {world next : World}
  {tenant key : String}

section Proposing

/-- A proposal of the tenant under the key. -/
structure ProposalRow.Under (row : ProposalRow) (tenant key : String) : Prop where
  tenant : row.tenant = tenant
  dedupeKey : row.dedupeKey = some key

/-- Nothing stands against a new proposal under the key. -/
def Unopposed (l : Ledger) (tenant key : String) (time : Time) : Prop :=
  ∀ id row, l.proposals id = some row → row.Under tenant key → row.remembered time = false

/-- What a proposal has looked up. -/
def Looked (tenant : String) (dedupeKey : Option String) (start before : Ledger) : Prop :=
  ∀ key, dedupeKey = some key → key ≠ "" →
    ∃ seen, Later start seen ∧ Later seen before ∧ Unopposed seen tenant key start.clock

/-- What a call of `propose` records. -/
inductive Proposing (tenant : String) (kind : ProposalKind) (payload : ProposalPayload)
    (dedupeKey : Option String) (start before : Ledger) : Ledger → Prop where
  | suppressed : Proposing tenant kind payload dedupeKey start before before
  | recorded (id : Uuid) (absent : before.proposals id = none)
      (looked : Looked tenant dedupeKey start before) :
      Proposing tenant kind payload dedupeKey start before (before.setProposal id
        { tenant, kind, payload, dedupeKey, createdAt := start.clock })

variable {vouch : Mark → Ledger → Prop} (kind : ProposalKind) (payload : ProposalPayload)
  (dedupeKey : Option String)

theorem brings_record :
    (outreach site vouch op).Brings held (do
        let id ← freshUuid
        Program.insertRow Tables.proposals none integrityError (fun _ _ _ => none) id
          fun moment => { tenant, kind, payload, dedupeKey, createdAt := moment.start.clock }
        pure (some id) : Prog (Option Uuid))
      fun start _ before after => Looked tenant dedupeKey start before →
        Proposing tenant kind payload dedupeKey start before after := by
  refine brings_after (quiet_ask _) fun id => ?_
  have inserts : (outreach site vouch op).Brings held
      (Program.insertRow Tables.proposals none integrityError (fun _ _ _ => none) id
        fun moment => { tenant, kind, payload, dedupeKey, createdAt := moment.start.clock } :
        Prog Unit)
      fun start _ before after => Looked tenant dedupeKey start before →
        Proposing tenant kind payload dedupeKey start before after := by
    refine (ensures_insertRow Tables.proposals none _ _ id _).mono ?_
    rintro start _ before after ⟨_, busy, _, _, absent, replaced⟩ looked
    rw [show (outreach site vouch op).of after = _ from ledger_replaced_proposal replaced]
    exact .recorded id absent looked
  exact brings_before inserts fun _ => quiet_pure _

theorem brings_propose :
    (outreach site vouch op).Brings held (propose tenant kind payload dedupeKey)
      fun start _ before after => Proposing tenant kind payload dedupeKey start before after := by
  have answered : ∀ existing : List (Uuid × ProposalRow),
      (outreach site vouch op).Brings held (if !existing.isEmpty then pure none
        else do
          let id ← freshUuid
          Program.insertRow Tables.proposals none integrityError (fun _ _ _ => none) id
            fun moment => { tenant, kind, payload, dedupeKey, createdAt := moment.start.clock }
          pure (some id) : Prog (Option Uuid))
        fun start _ before after => (existing = [] → Looked tenant dedupeKey start before) →
          Proposing tenant kind payload dedupeKey start before after := by
    intro existing
    cases existing with
    | nil =>
        refine (brings_record kind payload dedupeKey).mono ?_
        exact fun start _ before after recorded looked => recorded (looked rfl)
    | cons first rest => exact brings_pure _ fun _ _ _ => .suppressed
  unfold propose
  split
  next key found =>
    refine brings_seen ?_ answered
    refine (ensures_query _).mono ?_
    rintro start existing before after ⟨seen, busy, glimpse, rfl, rfl⟩
    refine ⟨?_, rfl⟩
    intro none_found other named some_key
    refine ⟨seen.ledger, glimpse.since, glimpse.until_, ?_⟩
    have same : other = key := by
      rw [named, Option.filter_some, if_pos (bne_iff_ne.2 some_key)] at found
      exact Option.some.inj found
    intro id row present under
    rw [← Bool.not_eq_true]
    intro remembered
    have chosen : (id, row) ∈ seen.proposals.select fun _ row =>
        decide (row.tenant = tenant) && decide (row.dedupeKey = some key) &&
          row.remembered start.clock := by
      refine (Table.mem_select_iff _ _ _ _).2 ⟨present, ?_⟩
      rw [decide_eq_true under.tenant, decide_eq_true (same ▸ under.dedupeKey), Bool.true_and,
        Bool.true_and]
      exact remembered
    rw [none_found] at chosen
    cases chosen
  next unnamed =>
    refine brings_seen ?_ answered
    refine brings_pure _ fun start before => ⟨fun _ other named some_key => ?_, rfl⟩
    rw [named, Option.filter_some, if_pos (bne_iff_ne.2 some_key)] at unnamed
    cases unnamed

end Proposing

section Commits

variable {start seen before after : Ledger} {time : Time} {id : Uuid} {row : ProposalRow}

theorem remembered_of_open (opened : row.status = .opened) : row.remembered time = true := by
  unfold ProposalRow.remembered
  rw [decide_eq_true opened, Bool.true_or]

theorem unremembered_of_approved (approved : row.status = .approved) :
    row.remembered time = false := by
  unfold ProposalRow.remembered
  rw [approved]
  rfl

/-- Proposals that were not in the way are not in the way later. -/
theorem unopposed_of_later (since : Later start seen) (until_ : Later seen before)
    (there : ∀ id row, before.proposals id = some row → row.Under tenant key →
      start.proposals id ≠ none)
    (unopposed : Unopposed seen tenant key time) : Unopposed before tenant key time := by
  intro id row present under
  obtain ⟨first, early⟩ := Option.ne_none_iff_exists'.1 (there id row present under)
  obtain ⟨middle, found, _⟩ := since.proposals id first early
  obtain ⟨last, present_too, later⟩ := until_.proposals id middle found
  obtain rfl := Option.some.inj (present_too.symm.trans present)
  have forgotten := unopposed id middle found
    ⟨later.tenant.symm.trans under.tenant, later.dedupeKey.symm.trans under.dedupeKey⟩
  have closed : middle.status ≠ .opened := by
    intro opened
    rw [remembered_of_open opened] at forgotten
    cases forgotten
  rcases later.decided closed with approved | rfl
  · exact unremembered_of_approved approved
  · exact forgotten

variable {vouch : Mark → Ledger → Prop}

/-- Only a call of `propose` records a proposal. -/
theorem old_of_path
    (path : Relation.ReflTransGen (Deed site vouch op start) before after)
    (idle : ∀ row, ¬ op.files start.clock row) (present : after.proposals id = some row) :
    before.proposals id ≠ none := by
  induction path generalizing row with
  | refl => simp [present]
  | tail _ deed induction =>
      rcases proposal_of_deed deed present with same | ⟨_, _, files⟩ | ⟨old, there, _⟩
      · exact induction same
      · exact absurd files (idle row)
      · exact induction there

/-- What a commit records. -/
inductive Recording (start before after : Ledger) : Prop where
  | nothing (old : ∀ id row, after.proposals id = some row → before.proposals id ≠ none)
  | one (id : Uuid) (row : ProposalRow) (absent : before.proposals id = none)
      (wrote : after = before.setProposal id row) (now : row.createdAt = start.clock)
      (looked : Looked row.tenant row.dedupeKey start before)

theorem recording_of_proposing {kind : ProposalKind} {payload : ProposalPayload}
    {dedupeKey : Option String}
    (proposing : Proposing tenant kind payload dedupeKey start before after) :
    Recording start before after := by
  cases proposing with
  | suppressed => exact .nothing fun id row present => by simp [present]
  | recorded id absent looked => exact .one id _ absent rfl rfl looked

theorem recording_of_commit {out : Out} {index : Nat}
    {session : Session Database RowLock Exc Mark Call Call.Answer Op Out}
    (sane : Sane site world) (found : world.session index = some session)
    (commits : Committing session out) :
    Recording session.txn.start.ledger world.committed.ledger
      (session.txn.view world.committed).ledger := by
  obtain ⟨op, program, txn⟩ := session
  have anything : ∀ entry ∈ txn.seen, (fun (_ : Mark) (_ : Ledger) => True) entry.1 entry.2.ledger :=
    fun _ _ => trivial
  have follows : (outreach site (fun _ _ => True) op).Follows [] (op.program site) :=
    follows_program op
  obtain ⟨_, path⟩ := brings_commit sane.sound sane.begun found commits anything follows
  cases op with
  | propose tenant kind payload dedupeKey =>
      have call : (outreach site (fun _ _ => True) (.propose tenant kind payload dedupeKey)).Brings
          [] (Op.program site (.propose tenant kind payload dedupeKey))
          fun start _ before after =>
            Proposing tenant kind payload dedupeKey start before after :=
        brings_before (brings_propose kind payload dedupeKey) fun _ => quiet_pure _
      obtain ⟨_, proposing⟩ := brings_commit sane.sound sane.begun found commits anything call
      exact recording_of_proposing proposing
  | _ =>
      refine .nothing fun id row present => old_of_path path ?_ present
      rintro row ⟨which, _⟩
      cases which

end Commits

section Runs

variable {action : Act} {start past : World}

/-- A key has one open proposal at most. -/
def Deduplicated (l : Ledger) : Prop :=
  ∀ tenant key id other row otherRow, l.proposals id = some row →
    l.proposals other = some otherRow → row.Under tenant key → otherRow.Under tenant key →
    row.status = .opened → otherRow.status = .opened → id = other

/-- What is new in `after` is not recorded in the time for which a decline of `past` is
remembered. -/
def Recalls (past before after : Ledger) : Prop :=
  ∀ tenant key id declinedId row declined resolved, after.proposals id = some row →
    before.proposals id = none → row.Under tenant key →
    past.proposals declinedId = some declined → declined.Under tenant key →
    declined.status = .declined → declined.resolvedAt = some resolved →
    resolved + days declineMemoryDays ≤ row.createdAt

/-- Decisions are not overwritten, and a proposal is recorded under a key that is not empty,
where each proposal of the key was there when its transaction began. -/
structure Unraced (world : World) (action : Act) : Prop where
  decisions : ApprovesOpen world action
  alone : ∀ index session id row tenant key, action = .finish index →
    world.session index = some session → world.committed.ledger.proposals id = none →
    (session.txn.view world.committed).ledger.proposals id = some row → row.Under tenant key →
    key ≠ "" ∧ ∀ other old, world.committed.ledger.proposals other = some old →
      old.Under tenant key → session.txn.start.ledger.proposals other ≠ none

/-- A step leaves the proposals alone, or moves them on, or records one that nothing stands
against. -/
inductive Records (before after : Ledger) : Prop where
  | moved (later : Later before after)
      (old : ∀ id row, after.proposals id = some row → before.proposals id ≠ none)
  | one (id : Uuid) (row : ProposalRow) (absent : before.proposals id = none)
      (wrote : after.proposals = Function.update before.proposals id (some row))
      (unopposed : ∀ tenant key, row.Under tenant key →
        Unopposed before tenant key row.createdAt)

theorem records_of_step (sane : Sane site world) (unraced : Unraced world action)
    (step : (service site).act action world = some next) :
    Records world.committed.ledger next.committed.ledger := by
  rcases commit_or_idle step with ⟨index, session, out, which, found, commits, wrote⟩ |
    ⟨idle, time, moved⟩
  · obtain ⟨since, path⟩ := brings_commit sane.sound sane.begun found commits
      (unraced.decisions index session out which found commits) (follows_program session.op)
    rw [← wrote] at path
    have recording := recording_of_commit sane found commits
    cases recording with
    | nothing old =>
        rw [← wrote] at old
        exact .moved (path_later path) old
    | one id row absent filed now looked =>
        have present : (session.txn.view world.committed).ledger.proposals id = some row := by
          rw [filed]
          exact Function.update_self _ _ _
        refine .one id row absent ?_ fun tenant key under => ?_
        · rw [wrote, filed]
        · obtain ⟨some_key, alone⟩ := unraced.alone index session id row tenant key which found absent
            present under
          rw [under.tenant] at looked
          obtain ⟨seen, early, late, unopposed⟩ := looked key under.dedupeKey some_key
          rw [now]
          exact unopposed_of_later early late alone unopposed
  · refine .moved ?_ ?_
    · rw [moved]
      exact { later_refl world.committed.ledger with }
    · rw [moved]
      intro id row present absent
      rw [show world.committed.ledger.proposals id = some row from present] at absent
      cases absent

variable {before after : Ledger} {id : Uuid} {row : ProposalRow}

/-- A proposal that is there already was open before if it is now. -/
theorem open_of_later (later : Later before after)
    (old : before.proposals id ≠ none) (present : after.proposals id = some row)
    (under : row.Under tenant key) (opened : row.status = .opened) :
    ∃ first, before.proposals id = some first ∧ first.Under tenant key ∧
      first.status = .opened := by
  obtain ⟨first, there⟩ := Option.ne_none_iff_exists'.1 old
  obtain ⟨last, present_too, moved⟩ := later.proposals id first there
  obtain rfl := Option.some.inj (present_too.symm.trans present)
  refine ⟨first, there, ⟨moved.tenant.symm.trans under.tenant,
    moved.dedupeKey.symm.trans under.dedupeKey⟩, ?_⟩
  by_contra closed
  exact moved.resolved closed opened

theorem deduplicated_of_records (records : Records before after) (holds : Deduplicated before) :
    Deduplicated after := by
  intro tenant key id other row otherRow found found_other under under_other opened opened_other
  cases records with
  | moved later old =>
      obtain ⟨first, there, first_under, first_open⟩ :=
        open_of_later later (old id row found) found under opened
      obtain ⟨second, there_too, second_under, second_open⟩ :=
        open_of_later later (old other otherRow found_other) found_other under_other opened_other
      exact holds tenant key id other first second there there_too first_under second_under first_open
        second_open
  | one new newRow absent wrote unopposed =>
      have apart : ∀ id row, after.proposals id = some row → row.Under tenant key →
          row.status = .opened → newRow.Under tenant key → id = new := by
        intro id row found under opened new_under
        by_contra different
        rw [wrote, Function.update_of_ne different] at found
        have forgotten := unopposed tenant key new_under id row found under
        rw [remembered_of_open opened] at forgotten
        cases forgotten
      by_cases first_new : id = new
      · have same : newRow = row := by
          rw [wrote, first_new, Function.update_self] at found
          exact Option.some.inj found
        rw [← same] at under
        exact first_new.trans (apart other otherRow found_other under_other opened_other under).symm
      · by_cases second_new : other = new
        · have same : newRow = otherRow := by
            rw [wrote, second_new, Function.update_self] at found_other
            exact Option.some.inj found_other
          rw [← same] at under_other
          exact (apart id row found under opened under_other).trans second_new.symm
        · rw [wrote, Function.update_of_ne first_new] at found
          rw [wrote, Function.update_of_ne second_new] at found_other
          exact holds tenant key id other row otherRow found found_other under under_other opened
            opened_other

theorem recalls_of_records (records : Records before after) : Recalls before before after := by
  intro tenant key id declinedId row declined resolved found absent under there theirs decline at_
  cases records with
  | moved later old => exact absurd absent (old id row found)
  | one new newRow gone wrote unopposed =>
      have same : id = new := by
        by_contra different
        rw [wrote, Function.update_of_ne different, absent] at found
        cases found
      have same_row : newRow = row := by
        rw [wrote, same, Function.update_self] at found
        exact Option.some.inj found
      rw [← same_row] at under ⊢
      have forgotten := unopposed tenant key under declinedId declined there theirs
      unfold ProposalRow.remembered at forgotten
      rw [decline, at_, Option.any_some, Bool.or_eq_false_iff, decide_eq_true rfl, Bool.true_and]
        at forgotten
      exact Nat.le_of_not_lt (of_decide_eq_false forgotten.2)

theorem sane_unraced (sane : Sane site start) (run : Run site Unraced start world) :
    Sane site world := by
  have decided : Run site ApprovesOpen start world := by
    induction run with
    | refl => exact .refl
    | tail _ step induction =>
        obtain ⟨action, unraced, step⟩ := step
        exact induction.tail ⟨action, unraced.decisions, step⟩
  exact sane_run sane decided

/-- What is declined stays declined. -/
theorem declined_of_run (sane : Sane site past) (run : Run site Unraced past world)
    (found : past.committed.ledger.proposals id = some row) (declined : row.status = .declined) :
    world.committed.ledger.proposals id = some row := by
  induction run with
  | refl => exact found
  | tail before step induction =>
      obtain ⟨action, unraced, step⟩ := step
      rcases decided_step (sane_unraced sane before) unraced.decisions step induction with
        ⟨_, opened, _⟩ | ⟨_, same⟩
      · rw [declined] at opened
        cases opened
      · exact same

theorem deduplicated_of_run (sane : Sane site start)
    (first : Deduplicated start.committed.ledger) (run : Run site Unraced start world) :
    Deduplicated world.committed.ledger := by
  induction run with
  | refl => exact first
  | tail before step induction =>
      obtain ⟨action, unraced, step⟩ := step
      exact deduplicated_of_records (records_of_step (sane_unraced sane before) unraced step)
        induction

/-- Where no proposal is recorded next to one that was committed since its transaction began,
a key has one open proposal at most, and none is recorded after a decline while that is
remembered. -/
theorem proposals_deduplicated (quiet : start.sessions = [])
    (linked : Linked start.committed.ledger) (first : Deduplicated start.committed.ledger)
    (run : Run site Unraced start past) (onward : Run site Unraced past world)
    (unraced : Unraced world action)
    (step : (service site).act action world = some next) :
    Deduplicated world.committed.ledger ∧ Deduplicated next.committed.ledger ∧
      Recalls past.committed.ledger world.committed.ledger next.committed.ledger := by
  have sane : Sane site start := sane_start quiet linked
  have sane_past := sane_unraced sane run
  have holds := deduplicated_of_run sane first (run.trans onward)
  have records := records_of_step (sane_unraced sane_past onward) unraced step
  refine ⟨holds, deduplicated_of_records records holds, ?_⟩
  intro tenant key id declinedId row declined resolved found absent under there theirs decline at_
  exact recalls_of_records records tenant key id declinedId row declined resolved found absent under
    (declined_of_run sane_past onward there decline) theirs decline at_

end Runs

section Sample

def rebalanceCall : Op := .propose "acme" .rebalance (.pause "austin") (some "rebalance:austin")

/-- No proposal is committed, and none is about to be under an empty key. -/
def loneHere (world : World) : Act → Bool
  | .finish index => (world.committed.proposals.select fun _ _ => true).isEmpty &&
      (world.session index).all fun session => session.txn.seen.isEmpty &&
        ((session.txn.view world.committed).proposals.select fun _ row =>
          row.dedupeKey = some "").isEmpty
  | _ => true

theorem unraced_of_lone {action : Act} (lone : loneHere world action = true) :
    Unraced world action := by
  cases action with
  | finish index =>
      unfold loneHere at lone
      rw [Bool.and_eq_true, List.isEmpty_iff] at lone
      obtain ⟨none_there, checked⟩ := lone
      have each : ∀ session, world.session index = some session → session.txn.seen = [] ∧
          ((session.txn.view world.committed).proposals.select fun _ row =>
            row.dedupeKey = some "") = [] := by
        intro session found
        rw [found, Option.all_some, Bool.and_eq_true, List.isEmpty_iff, List.isEmpty_iff] at checked
        exact checked
      constructor
      · rintro other session out which found commits entry member
        cases which
        rw [(each session found).1] at member
        cases member
      · rintro other session id row tenant key which found absent present under
        cases which
        refine ⟨?_, fun old oldRow there _ => ?_⟩
        · rintro rfl
          have member := (Table.mem_select_iff _ (fun _ (row : ProposalRow) =>
            decide (row.dedupeKey = some "")) id row).2 ⟨present, decide_eq_true under.dedupeKey⟩
          rw [(each session found).2] at member
          cases member
        · have member := (Table.mem_select_iff world.committed.proposals (fun _ _ => true) old
            oldRow).2 ⟨there, rfl⟩
          rw [none_there] at member
          cases member
  | _ =>
      constructor
      · intro index session out which
        cases which
      · intro index session id row tenant key which
        cases which

theorem lone_proposal_deduplicated : ∃ world next,
    Run sampleDeployment Unraced sampleWorld world ∧
    (service sampleDeployment).act (.finish 0) world = some next ∧
    (next.committed.proposals.select fun _ row => row.status = .opened).length = 1 ∧
    Deduplicated next.committed.ledger := by
  have tried : ((service sampleDeployment).scriptChecked loneHere [begin rebalanceCall, go 0 3]
      sampleWorld).any (fun world => loneHere world (.finish 0) &&
        ((service sampleDeployment).act (.finish 0) world).any fun next : World =>
          (next.committed.proposals.select fun _ row => row.status = .opened).length = 1) = true := by
    decide +kernel
  obtain ⟨world, played, tried⟩ := (Option.any_eq_true _ _).1 tried
  rw [Bool.and_eq_true] at tried
  obtain ⟨next, step, recorded⟩ := (Option.any_eq_true _ _).1 tried.2
  have run : Run sampleDeployment Unraced sampleWorld world :=
    run_of_scriptChecked (service sampleDeployment) (fun _ _ => unraced_of_lone) played
  have none_yet : Deduplicated sampleWorld.committed.ledger := by
    intro tenant key id other row otherRow found
    cases found
  exact ⟨world, next, run, step, of_decide_eq_true recorded,
    (proposals_deduplicated rfl sample_linked none_yet .refl run (unraced_of_lone tried.1) step).2.1⟩

/-- A second scan looks before the first has committed. -/
def scansTwice : List Move :=
  [begin rebalanceCall, go 0 1, begin rebalanceCall, go 1 4 21, go 0 3 22]

theorem scans_propose_twice : ∃ world, Run sampleDeployment unrestricted sampleWorld world ∧
    Deduplicated sampleWorld.committed.ledger ∧ ¬ Deduplicated world.committed.ledger := by
  have tried : ((service sampleDeployment).script scansTwice sampleWorld).any (fun world : World =>
      (world.committed.proposals.lookup 21).any (fun row => row.status = .opened &&
          row.tenant = "acme" && row.dedupeKey = some "rebalance:austin") &&
        (world.committed.proposals.lookup 22).any (fun row => row.status = .opened &&
          row.tenant = "acme" && row.dedupeKey = some "rebalance:austin")) = true := by
    decide +kernel
  obtain ⟨world, played, seen⟩ := (Option.any_eq_true _ _).1 tried
  rw [Bool.and_eq_true] at seen
  obtain ⟨first, found, first_open⟩ := (Option.any_eq_true _ _).1 seen.1
  obtain ⟨second, found_too, second_open⟩ := (Option.any_eq_true _ _).1 seen.2
  simp only [Bool.and_eq_true, decide_eq_true_eq] at first_open second_open
  obtain ⟨⟨first_open, first_tenant⟩, first_key⟩ := first_open
  obtain ⟨⟨second_open, second_tenant⟩, second_key⟩ := second_open
  refine ⟨world, run_of_further played, ?_, fun deduplicated => ?_⟩
  · intro tenant key id other row otherRow found
    cases found
  · have same := deduplicated "acme" "rebalance:austin" 21 22 first second found found_too
      ⟨first_tenant, first_key⟩ ⟨second_tenant, second_key⟩ first_open second_open
    cases same

end Sample

end OpenReachout
