import OpenReachout.Properties.Audits
import OpenReachout.Properties.Sentiment

/-!
# Caps

The caps of tenants and of mailboxes stay as they are. The cap of a cohort is changed by
the brake, which tells of it in the audit log and raises none above one, and by the
approval of a proposal.
-/

namespace OpenReachout

open Relational Relational.Program Relational.Abstraction Relational.Discipline Text

set_option autoImplicit false

variable {site : Deployment}

section Views

/-- The month's cap of a cohort. -/
def capOf (db : Database) (key : String × Period) : Option Nat :=
  (db.counters.lookup (.cohortMonth, key)).map Counter.cap

/-- Counters stay, all their caps but those of cohorts do, and only mailboxes get new ones. -/
structure Founded (before after : Database) : Prop where
  stays : ∀ key row, before.counters.lookup key = some row → ∃ next,
    after.counters.lookup key = some next ∧ (key.1 ≠ .cohortMonth → next.cap = row.cap)
  opened : ∀ key, before.counters.lookup key = none → after.counters.lookup key ≠ none →
    key.1 = .mailboxDay

/-- The row of the audit log that tells of a brake on a cohort in a month. -/
def tellsBrake (key : String × Period) (cap : Option Nat) (row : AuditEvent) : Prop :=
  row.subjectType = "cohort" ∧ row.subjectId = key.1 ∧ row.actor = "system:sentiment" ∧
    row.payload.lookup "period" = some (alreadyActed.periodField key.2) ∧
    (row.event = "sentiment_pause" ∧ cap = some 0 ∨
      row.event = "sentiment_throttle" ∧ ∃ rate, cap = some rate ∧ 1 ≤ rate)

/-- A cap that has changed is told of, and none is raised above one. -/
structure Brakings (before after : Database) : Prop where
  accounts : Accounts Tables.auditEvents capOf tellsBrake before after
  lower : ∀ key cap, capOf after key = some cap →
    ∃ old, capOf before key = some old ∧ cap ≤ max old 1

theorem founded_timeline : Timeline Founded where
  refl db := ⟨fun _ row found => ⟨row, found, fun _ => rfl⟩, fun _ absent there => absurd absent there⟩
  trans {first second third} one two := by
    refine ⟨fun key row found => ?_, fun key absent there => ?_⟩
    · obtain ⟨middle, present, same⟩ := one.stays key row found
      obtain ⟨next, there, kept⟩ := two.stays key middle present
      exact ⟨next, there, fun other => (kept other).trans (same other)⟩
    · cases middle : second.counters.lookup key with
      | none => exact two.opened key middle there
      | some row => exact one.opened key absent (by rw [middle]; simp)

theorem brakings_timeline : Timeline Brakings where
  refl db := ⟨accounts_timeline.refl db, fun _ cap found => ⟨cap, found, le_max_left cap 1⟩⟩
  trans {first second third} one two := by
    refine ⟨accounts_timeline.trans one.accounts two.accounts, fun key cap found => ?_⟩
    obtain ⟨middle, present, less⟩ := two.lower key cap found
    obtain ⟨old, there, bounded⟩ := one.lower key middle present
    refine ⟨old, there, ?_⟩
    omega

theorem brakings_of_aside {before after : Database}
    (aside : Aside Tables.auditEvents capOf before after) : Brakings before after := by
  refine ⟨aside.accounts, fun key cap found => ⟨cap, ?_, le_max_left cap 1⟩⟩
  rw [← aside.same]
  exact found

end Views

section Programs

/-- What a relation permits of the counters, if it is about nothing but these and the
growth of the audit log. -/
structure Metered (along : Database → Database → Prop) : Prop where
  order : Timeline along
  apart : ∀ {before after}, after.counters = before.counters →
    Lengthened Tables.auditEvents before after → along before after
  used : ∀ keys chosen change, Uncapped change → ∀ db,
    along db ((Write.modify Tables.counters keys chosen change).apply db)
  mailbox : ∀ mailbox period row db,
    along db ((Write.insert Tables.counters (.mailboxDay, mailbox, period) row).apply db)

variable {along : Database → Database → Prop} (metered : Metered along)

include metered

theorem Metered.same (db after : Database) (counters : after.counters = db.counters)
    (audits : after.auditEvents = db.auditEvents) : along db after := by
  apply metered.apart counters
  simp [Lengthened, Tables.auditEvents, audits]

theorem Metered.appends (row : AuditEvent) :
    (following metered.order : Allowed).Appends Tables.auditEvents row :=
  fun _ => metered.apart rfl (lengthened_append Tables.auditEvents rfl)

theorem ordinary_metered : Ordinary (following metered.order : Allowed) := by
  have idle := fun (db after : Database) counters audits => metered.same db after counters audits
  constructor
  case marks => exact fun _ _ => trivial
  case audited => exact fun row _ => metered.appends row
  case touches => exact fun _ _ _ db => idle db _ rfl rfl
  case counters => exact fun keys chosen change uncapped => metered.used keys chosen change uncapped
  case mailboxCounters => exact metered.mailbox
  case received => exact fun _ _ db => idle db _ rfl rfl
  case exchanged => exact fun _ _ db => idle db _ rfl rfl
  case providerEvents => exact fun _ _ db => idle db _ rfl rfl
  case objections => exact fun _ db => idle db _ rfl rfl
  all_goals exact fun _ _ _ _ db => idle db _ rfl rfl

theorem prospects_metered : (following metered.order : Allowed).Changes Tables.prospects :=
  fun _ _ _ _ db => metered.same db _ rfl rfl

theorem moves_metered (actor : String) : Moves (leading metered.order : Conduct) actor := by
  intro prospectId target reason _
  have recorded : ∀ payload, Within (following metered.order)
      (audit "prospect" (toString prospectId) "transition" payload actor) :=
    fun payload => within_appendRow fun _ => metered.appends _
  refine keeps_within ?_
  unfold transition
  refine within_bind (within_lockRowsMarked (fun _ _ => trivial) _ _) fun rows => ?_
  split
  · exact Ordinary.within_raise _ _
  · dsimp only
    split
    · exact Ordinary.within_raise_bind _ _ _
    · exact within_bind (within_update (prospects_metered metered) _ _) fun _ => recorded _

/-- All that is left to be permitted are the brake and the effects of proposals. -/
theorem serves_metered {op : Op} (brakes : op.caps → Brakes (leading metered.order))
    (applies : op.caps → Applies (leading metered.order)) : Serves site (leading metered.order) op where
  ordinary := ordinary_metered metered
  catching := catching_leading metered.order
  keyed _ := ⟨fun _ _ _ _ db => metered.same db _ rfl rfl⟩
  counting _ := ⟨fun row _ => metered.appends row⟩
  inserting _ := ⟨fun _ _ db => metered.same db _ rfl rfl⟩
  moves actor _ := moves_metered metered actor
  tries _ := tries_of_changes fun _ _ _ _ db => metered.same db _ rfl rfl
  credits _ := credits_of_changes fun _ _ _ _ db => metered.same db _ rfl rfl
  guards _ := guards_of_changes (fun _ _ _ _ db => metered.same db _ rfl rfl)
    (ordinary_metered metered)
  judges _ := judges_of_changes fun _ _ _ _ db => metered.same db _ rfl rfl
  brakes := brakes
  applies := applies
  enrols _ := by
    intro prospectId row _
    have inside : Within (following metered.order) (insertRow Tables.prospects none integrityError
        (fun _ db row =>
          if (db.entities.lookup row.entityId).isNone then some integrityError else none)
        prospectId fun _ => row : Prog Unit) :=
      within_insertRow (fun _ _ => trivial) (prospects_metered metered) _ _ _ _
    exact keeps_within inside
  scrubs _ := by
    intro ids
    have keyed : Keyed (following metered.order : Allowed) :=
      ⟨fun _ _ _ _ db => metered.same db _ rfl rfl⟩
    have replies : (following metered.order : Allowed).Changes Tables.replies :=
      fun _ _ _ _ db => metered.same db _ rfl rfl
    exact scrubs_of_changes (ordinary_metered metered) keyed replies ids
      (within_update (prospects_metered metered) _ _)
  attaches := by
    intro prospectId address bucket
    refine keeps_within (within_bind ?_ fun _ => within_pure _)
    exact within_updateChecked (fun _ _ => trivial) (prospects_metered metered) _ _ _

end Programs

section Counters

/-- The month's cap of a cohort is what a change of a counter leaves, if it leaves all caps. -/
theorem metered_caps : Metered (Aside Tables.auditEvents capOf) where
  order := aside_timeline
  apart := by
    intro before after counters grown
    refine ⟨grown, ?_⟩
    funext key
    simp [capOf, counters]
  used := by
    intro keys chosen change uncapped db
    refine ⟨lengthened_refl Tables.auditEvents db, ?_⟩
    funext key
    change ((db.counters.modify _ change).lookup _).map Counter.cap = _
    rw [Table.lookup_modify]
    unfold capOf
    cases found : db.counters.lookup (.cohortMonth, key) with
    | none => rfl
    | some row =>
        simp only [Option.map_some]
        split_ifs
        · rw [uncapped row]
        · rfl
  mailbox := by
    intro mailbox period row db
    refine ⟨lengthened_refl Tables.auditEvents db, ?_⟩
    funext key
    change ((db.counters.insert _ row).lookup _).map Counter.cap = _
    rw [Table.lookup_insert, if_neg (by simp)]
    rfl

theorem metered_brakings : Metered Brakings where
  order := brakings_timeline
  apart counters grown := brakings_of_aside (metered_caps.apart counters grown)
  used keys chosen change uncapped db :=
    brakings_of_aside (metered_caps.used keys chosen change uncapped db)
  mailbox mailbox period row db :=
    brakings_of_aside (metered_caps.mailbox mailbox period row db)

/-- Rows of counters are changed, and caps of cohorts only. -/
theorem founded_modify (keys : List (ScopeType × String × Period))
    (chosen : ScopeType × String × Period → Counter → Bool) (change : Counter → Counter)
    (kept : ∀ key row, chosen key row = true → key.1 ≠ .cohortMonth → (change row).cap = row.cap)
    (db : Database) : Founded db ((Write.modify Tables.counters keys chosen change).apply db) := by
  refine ⟨fun key row found => ?_, fun key absent there => ?_⟩
  · change ∃ next, (db.counters.modify _ change).lookup key = some next ∧ _
    rw [Table.lookup_modify, found]
    refine ⟨_, rfl, fun other => ?_⟩
    dsimp only
    split_ifs with hit
    · exact kept key row ((Bool.and_eq_true _ _).mp hit).2 other
    · rfl
  · change (db.counters.modify _ change).lookup key ≠ none at there
    rw [Table.lookup_modify, absent] at there
    exact absurd rfl there

theorem metered_founded : Metered Founded where
  order := founded_timeline
  apart := by
    intro before after counters _
    refine ⟨fun key row found => ⟨row, by rw [counters]; exact found, fun _ => rfl⟩,
      fun key absent there => ?_⟩
    rw [counters] at there
    exact absurd absent there
  used keys chosen change uncapped db := founded_modify keys chosen change (fun _ row _ _ => uncapped row) db
  mailbox := by
    intro mailbox period row db
    have lookups : ∀ key, ((Write.insert Tables.counters (.mailboxDay, mailbox, period) row).apply
        db).counters.lookup key = if key = (.mailboxDay, mailbox, period) then
          some ((db.counters.lookup (.mailboxDay, mailbox, period)).getD row)
        else db.counters.lookup key := by
      intro key
      change (db.counters.insert _ row).lookup key = _
      rw [Table.lookup_insert]
    refine ⟨fun key old found => ⟨old, ?_, fun _ => rfl⟩, fun key absent there => ?_⟩
    · rw [lookups]
      split_ifs with same
      · rw [← same, found]
        rfl
      · exact found
    · rw [lookups] at there
      split_ifs at there with same
      · rw [same]
      · exact absurd absent there

theorem caps_founded : Caps (following founded_timeline : Allowed) := by
  intro cohortId period change
  refine within_perform (fun _ _ => trivial) fun moment db effect success => ?_
  dsimp only at success
  split at success
  · cases success
  · obtain rfl := Except.ok.inj success
    refine founded_modify _ _ _ fun key row picked other => ?_
    obtain rfl := of_decide_eq_true picked
    exact absurd rfl other

theorem leads_founded (op : Op) : Leads Founded (op.program site) := by
  have ordinary := ordinary_metered metered_founded
  have serves : Serves site (leading metered_founded.order) op := serves_metered metered_founded
    (fun _ => brakes_of_caps ordinary caps_founded fun row _ => metered_founded.appends row)
    fun _ => applies_of_caps caps_founded
  exact keeps_program serves

theorem leads_caps {op : Op} (idle : ¬ op.caps) :
    Leads (Aside Tables.auditEvents capOf) (op.program site) := by
  have serves : Serves site (leading metered_caps.order) op := serves_metered metered_caps
    (fun caps => absurd caps idle) fun caps => absurd caps idle
  exact keeps_program serves

end Counters

section Brake

/-- What a brake on a cohort leaves in the log. -/
def notesBrake (cohortId : String) (period : Period) (event : String) (row : AuditEvent) : Prop :=
  row.subjectType = "cohort" ∧ row.subjectId = cohortId ∧ row.actor = "system:sentiment" ∧
    row.payload.lookup "period" = some (alreadyActed.periodField period) ∧ row.event = event

theorem ensures_setCohortCap (cohortId : String) (period : Period) (change : Nat → Nat) :
    bare.Ensures [] (setCohortCap cohortId period change) fun _ _ before after =>
      after.auditEvents = before.auditEvents ∧ (after = before ∨
        ∃ old, capOf before (cohortId, period) = some old ∧
          capOf after = Function.update (capOf before) (cohortId, period)
            (some (change old))) := by
  unfold setCohortCap
  refine ensures_bind (ensures_update Tables.counters _ _) (fun _ _ _ _ _ => trivial) fun rows => ?_
  refine ensures_pure _ ?_
  rintro start after before ⟨seen, busy, updated⟩
  have one : ∀ (key other : ScopeType × String × Period) (row next : Counter),
      decide (key = (ScopeType.cohortMonth, cohortId, period)) = true →
      decide (other = (ScopeType.cohortMonth, cohortId, period)) = true → key = other := by
    intro key other row next first second
    exact (of_decide_eq_true first).trans (of_decide_eq_true second).symm
  rcases updated.single one with ⟨_, rfl⟩ | ⟨key, row, _, present, _, picked, table, rfl, lookups⟩
  · exact ⟨rfl, Or.inl rfl⟩
  · obtain rfl := of_decide_eq_true picked
    have found : before.counters.lookup (.cohortMonth, cohortId, period) = some row := present
    refine ⟨rfl, Or.inr ⟨row.cap, by simp [capOf, found], ?_⟩⟩
    funext other
    change (table.lookup (.cohortMonth, other)).map Counter.cap = _
    rw [lookups]
    by_cases same : other = (cohortId, period)
    · subst same
      simp
    · rw [Function.update_of_ne same, Function.update_of_ne (by simpa using same)]
      rfl

/-- A change of a cap, and the row that tells of it. -/
theorem ensures_brake {cohortId event : String} {period : Period} {change : Nat → Nat}
    {rest : Option Nat → Prog Unit} (lowers : ∀ cap, change cap ≤ max cap 1)
    (tells : ∀ cap, event = "sentiment_pause" ∧ change cap = 0 ∨
      event = "sentiment_throttle" ∧ 1 ≤ change cap)
    (noted : ∀ prior, bare.Ensures [] (rest prior) fun _ _ before after =>
      Aside Tables.auditEvents capOf before after ∧
        Entered Tables.auditEvents (notesBrake cohortId period event) before after) :
    bare.Ensures [] (setCohortCap cohortId period change >>= rest) fun _ _ before after =>
      Brakings before after := by
  refine ensures_bind (ensures_setCohortCap cohortId period change) (fun _ _ _ _ _ => trivial)
    fun prior => ?_
  refine (noted prior).mono ?_
  rintro start last middle after ⟨aside, told⟩ before ⟨unlogged, same | ⟨old, found, changed⟩⟩
  · rw [← same]
    exact brakings_of_aside aside
  · have grown : Lengthened Tables.auditEvents before middle := by
      simp [Lengthened, Tables.auditEvents, unlogged]
    have shown : capOf after = Function.update (capOf before) (cohortId, period)
        (some (change old)) := aside.same.trans changed
    refine ⟨⟨lengthened_trans grown aside.grown, fun key => ?_⟩, fun key cap there => ?_⟩
    · rw [shown]
      by_cases mine : key = (cohortId, period)
      · subst mine
        rw [Function.update_self]
        refine Or.inr ((told.earlier grown).mono ?_)
        rintro row ⟨kind, subject, actor, period, named⟩
        refine ⟨kind, subject, actor, period, ?_⟩
        rcases tells old with ⟨rfl, none_left⟩ | ⟨rfl, rate⟩
        · exact Or.inl ⟨named, by rw [none_left]⟩
        · exact Or.inr ⟨named, change old, rfl, rate⟩
      · rw [Function.update_of_ne mine]
        exact Or.inl rfl
    · rw [shown] at there
      by_cases mine : key = (cohortId, period)
      · subst mine
        rw [Function.update_self] at there
        refine ⟨old, found, ?_⟩
        rw [← Option.some.inj there]
        exact lowers old
      · rw [Function.update_of_ne mine] at there
        exact ⟨cap, there, le_max_left cap 1⟩

theorem ensures_record {cohortId event : String} {period : Period} {payload : Payload}
    (named : payload.lookup "period" = some (alreadyActed.periodField period)) :
    bare.Ensures [] (audit "cohort" cohortId event payload "system:sentiment")
      fun _ _ before after => Aside Tables.auditEvents capOf before after ∧
        Entered Tables.auditEvents (notesBrake cohortId period event) before after := by
  refine (ensures_appendRow Tables.auditEvents _).mono ?_
  rintro start _ before after ⟨busy, rfl⟩
  exact ⟨⟨lengthened_append Tables.auditEvents rfl, rfl⟩,
    entered_append Tables.auditEvents rfl ⟨rfl, rfl, rfl, named, rfl⟩⟩

theorem within_aside_escalate (tenant : Option String) (subjectType subjectId reason : String)
    (payload : Payload) :
    Within (asideOf capOf) (escalate tenant subjectType subjectId reason payload) := by
  have escalations : (asideOf capOf).Changes Tables.escalations :=
    fun _ _ _ _ db => ⟨lengthened_refl _ db, rfl⟩
  unfold escalate
  grind

theorem sure_setCohortCap (cohortId : String) (period : Period) (change : Nat → Nat) :
    bare.Sure (setCohortCap cohortId period change) :=
  sure_bind (sure_perform _ _) fun _ => sure_pure _

theorem sure_escalate (tenant : Option String) (subjectType subjectId reason : String)
    (payload : Payload) : bare.Sure (escalate tenant subjectType subjectId reason payload) :=
  sure_bind (sure_ask Call.uuid) fun _ => sure_perform _ _

theorem leads_evaluateCohort (tenant cohortId : String) :
    Leads Brakings (evaluateCohort tenant cohortId) := by
  have reading : ∀ {Value : Type} {program : Prog Value}, Within (asideOf capOf) program →
      Leads Brakings program := by
    intro Value program inside
    have leads : Leads (Aside Tables.auditEvents capOf) program :=
      (leading aside_timeline).within inside
    exact ⟨leads.returns.mono fun _ _ _ _ aside => brakings_of_aside aside,
      fun a b error standing exec clean db later stable =>
        brakings_of_aside (leads.raises a b error standing exec clean db later stable)⟩
  have bind := fun {Value Other : Type} {program : Prog Value} {rest : Value → Prog Other}
    (first : Leads Brakings program) (second : ∀ value, Leads Brakings (rest value)) =>
      leads_bind brakings_timeline first second
  unfold evaluateCohort
  refine bind (reading (within_markedQuery trivial _)) fun intents => ?_
  refine bind (reading (within_ask _)) fun score => ?_
  split
  · exact reading (within_pure _)
  · refine bind (reading (within_ask _)) fun time => ?_
    dsimp only
    split
    · refine bind (reading (within_query _)) fun acted => ?_
      split
      · exact reading (within_pure _)
      · refine ⟨?_, ?_⟩
        · refine ensures_brake (fun cap => Nat.zero_le _) (fun cap => Or.inl ⟨rfl, rfl⟩) fun prior => ?_
          refine ensures_bind (ensures_record rfl) (fun _ _ _ _ _ => trivial) fun _ => ?_
          refine (aside_of_within (within_aside_escalate _ _ _ _ _)).mono ?_
          intro start last middle after aside before early
          exact ⟨aside_timeline.trans early.1 aside, early.2.later aside.grown⟩
        · refine raises_of_sure (sure_bind (sure_setCohortCap _ _ _) fun prior => ?_)
          exact sure_bind (sure_perform _ _) fun _ => sure_escalate _ _ _ _ _
    · split
      · refine bind (reading (within_query _)) fun acted => ?_
        split
        · exact reading (within_pure _)
        · refine ⟨?_, ?_⟩
          · refine ensures_brake (fun cap => ?_) (fun cap => Or.inr ⟨rfl, ?_⟩) fun prior => ?_
            · omega
            · exact le_max_right _ _
            · exact ensures_record rfl
          · exact raises_of_sure (sure_bind (sure_setCohortCap _ _ _) fun _ => sure_perform _ _)
      · exact reading (within_pure _)

end Brake

section Runs

variable {allowed : World → Act → Prop} {start world later : World}

theorem leads_classify {job : Job} (queue : job.queue = .classify) :
    Leads Brakings ((Op.handle job).program site) := by
  have ordinary := ordinary_metered metered_brakings
  have keeps : (leading brakings_timeline : Conduct).keeps (handler site job) := by
    unfold handler
    split
    case h_3 replyId _ _ =>
      exact keeps_classify ordinary (moves_metered metered_brakings _)
        (catching_leading brakings_timeline)
        (credits_of_changes fun _ _ _ _ db => metered_brakings.same db _ rfl rfl)
        (judges_of_changes fun _ _ _ _ db => metered_brakings.same db _ rfl rfl)
        leads_evaluateCohort ⟨fun _ _ db => metered_brakings.same db _ rfl rfl⟩ replyId
    case h_12 => exact keeps_within (Ordinary.within_raise _ _)
    all_goals simp_all
  exact keeps_bind keeps fun _ => keeps_pure _

/-- What becomes of the caps of cohorts in a step. -/
inductive Capped (world later : World) (action : Act) : Prop where
  | kept (same : capOf later.committed = capOf world.committed)
  | braked (index : Nat) (job : Job)
      (session : Session Database RowLock Exc Mark Call Call.Answer Op Out)
      (which : action = .finish index) (found : world.session index = some session)
      (judges : session.op = .handle job) (queue : job.queue = .classify)
      (brakings : Brakings world.committed later.committed)
  | decided (index : Nat) (session : Session Database RowLock Exc Mark Call Call.Answer Op Out)
      (which : action = .finish index) (found : world.session index = some session)
      (approves : session.op.approves)

theorem capped_step {action : Act} (sound : world.Sound (service site) anything)
    (step : (service site).act action world = some later) : Capped world later action := by
  rcases act_committed step with same | ⟨ticks, _, moved⟩ | ⟨index, op, out, txn, which, present,
    intact, wrote⟩
  · exact .kept (by rw [same])
  · exact .kept (by rw [moved]; rfl)
  · by_cases caps : op.caps
    · cases op with
      | approveProposal proposalId actor =>
          exact .decided index _ which present (Or.inl ⟨proposalId, actor, rfl⟩)
      | autoReview tenant cohortLaunch =>
          exact .decided index _ which present (Or.inr ⟨tenant, cohortLaunch, rfl⟩)
      | handle job =>
          have brakings := bare_commit sound present intact (leads_classify caps).returns
          rw [← wrote] at brakings
          exact .braked index job _ which present rfl caps brakings
      | _ => exact caps.elim
    · have aside := bare_commit sound present intact (leads_caps caps).returns
      rw [← wrote] at aside
      exact .kept aside.same

theorem Capped.brakings {action : Act} (capped : Capped world later action)
    (grown : Lengthened Tables.auditEvents world.committed later.committed)
    (undecided : ∀ index session, action = .finish index → world.session index = some session →
      ¬ session.op.approves) : Brakings world.committed later.committed := by
  cases capped with
  | kept same => exact brakings_of_aside ⟨grown, same⟩
  | braked index job session which found judges queue brakings => exact brakings
  | decided index session which found approves =>
      exact absurd approves (undecided index session which found)

theorem lengthened_step {action : Act} (sound : world.Sound (service site) anything)
    (step : (service site).act action world = some later) :
    Lengthened Tables.auditEvents world.committed later.committed := by
  refine along_of_step lengthened_timeline (fun op => ?_) (fun _ _ => lengthened_refl _ _) sound step
  exact (leading lengthened_timeline).within (within_lengthened op)

/-- In every run the counters and the caps of tenants and mailboxes stay. A step changes the
cap of a cohort by a brake, which tells of it in the log and raises none above one, or by
the approval of proposals. In a run without approvals all changes are told of, and no cap
comes to be above what it was and above one. -/
theorem caps_curbed (quiet : start.sessions = []) (run : Run site allowed start world) :
    Founded start.committed world.committed ∧
    (∀ action later, (service site).act action world = some later → Capped world later action) ∧
    ((∀ before action index session, allowed before action → action = .finish index →
      before.session index = some session → ¬ session.op.approves) →
        Brakings start.committed world.committed) := by
  refine ⟨?_, fun action later step => capped_step (sound_of_run quiet run) step,
    fun undecided => ?_⟩
  · exact along_of_run founded_timeline leads_founded (fun _ db => metered_founded.same db _ rfl rfl)
      quiet run
  · induction run with
    | refl => exact brakings_timeline.refl _
    | @tail before after earlier step induction =>
        obtain ⟨action, permitted, step⟩ := step
        have sound := sound_of_run quiet earlier
        have capped := capped_step sound step
        refine brakings_timeline.trans induction (capped.brakings (lengthened_step sound step) ?_)
        exact fun index session which found => undecided before action index session permitted which found

end Runs

section Sample

/-- No approval is committed. -/
def Undecided (world : World) (action : Act) : Prop :=
  ∀ index session, action = .finish index → world.session index = some session →
    ¬ session.op.approves

def undecidedHere (world : World) : Act → Bool
  | .finish index => (world.session index).all fun session => !session.op.closes
  | _ => true

theorem undecidedHere_sound (world : World) (action : Act)
    (checked : undecidedHere world action = true) : Undecided world action := by
  rintro index session rfl found approves
  have closes := closes_of_approves approves
  have open_ := (Option.all_eq_true _ _).1 checked session found
  rw [closes] at open_
  cases open_

/-- The services answer, with a score of the replies that is too low. -/
def sours (index count id : Nat) : Move :=
  .inr (fun
    | .sentiment _ => -2
    | query => sampleReply sampleClock id query, index, count)

/-- A cohort that is paused. -/
theorem pause_told : ∃ world, Run sampleDeployment Undecided (sourWorld 9 1) world ∧
    capOf (sourWorld 9 1).committed ("austin", sampleMonth) = some 50 ∧
    capOf world.committed ("austin", sampleMonth) = some 0 ∧
    Entered Tables.auditEvents (tellsBrake ("austin", sampleMonth) (some 0))
      (sourWorld 9 1).committed world.committed := by
  have tried : ((sortedService sampleDeployment).scriptChecked undecidedHere
      [begin (.lease .classify), go 0 2, sours 0 17 300] (sourWorld 9 1)).any (fun world =>
        decide (capOf world.committed ("austin", sampleMonth) = some 0)) = true := by
    decide +kernel
  rw [← service_sorted] at tried
  obtain ⟨world, played, seen⟩ := (Option.any_eq_true _ _).1 tried
  have paused := of_decide_eq_true seen
  have run : Run sampleDeployment Undecided (sourWorld 9 1) world :=
    run_of_scriptChecked (service sampleDeployment) undecidedHere_sound played
  obtain ⟨_, _, told⟩ := caps_curbed rfl run
  have brakings := told fun before action index session undecided =>
    undecided index session
  have before : capOf (sourWorld 9 1).committed ("austin", sampleMonth) = some 50 := by decide +kernel
  have changed : some 0 ≠ capOf (sourWorld 9 1).committed ("austin", sampleMonth) := by
    rw [before]
    simp
  exact ⟨world, run, before, paused, entered_of_changed brakings.accounts paused changed⟩

end Sample

end OpenReachout
