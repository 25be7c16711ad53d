import OpenReachout.Outreach.Discipline
import OpenReachout.Outreach.Steps
import OpenReachout.Properties.Recipients

/-!
# The trail of a prospect

Every transition of a prospect leaves a row in the audit log, and these rows lead from its
discovery to where it is. The erasure of a person changes the state without one.
-/

namespace OpenReachout

open Relational Relational.Abstraction Relational.Program Relational.Discipline Text

set_option autoImplicit false

section Chains

/-- The rows of the audit log about the transitions of a prospect, in their order. -/
def trail (audits : List AuditEvent) (prospectId : Uuid) : List AuditEvent :=
  audits.filter fun row => row.subjectType = "prospect" && row.subjectId = toString prospectId &&
    row.event = "transition"

/-- Each row starts where the row before it has led. -/
inductive Chain (first : ProspectState) : List AuditEvent → ProspectState → Prop where
  | start : Chain first [] first
  | step {rows : List AuditEvent} {last next : ProspectState} (row : AuditEvent)
      (before : Chain first rows last) (edge : last.Edge next)
      (source : row.payload.lookup "from" = some (.text last.text))
      (target : row.payload.lookup "to" = some (.text next.text)) : Chain first (rows ++ [row]) next

theorem ProspectState.text_inj {one other : ProspectState} (same : one.text = other.text) :
    one = other := by
  cases one <;> cases other <;> first | rfl | exact absurd same (by decide)

variable {first last other : ProspectState} {rows : List AuditEvent}

theorem Chain.unique (chain : Chain first rows last) (second : Chain first rows other) :
    last = other := by
  cases chain with
  | start =>
      generalize shape : ([] : List AuditEvent) = whole at second
      cases second with
      | start => rfl
      | step row before edge source target => simp at shape
  | @step earlier middle _ row before edge source target =>
      generalize shape : earlier ++ [row] = whole at second
      cases second with
      | start => simp at shape
      | step mine _ _ _ aimed =>
          obtain rfl := List.singleton_inj.1 (List.append_inj' shape rfl).2
          have texts : some (Field.text last.text) = some (Field.text other.text) :=
            target.symm.trans aimed
          apply ProspectState.text_inj
          simpa using texts

/-- Nothing leads back to the discovery. -/
theorem Chain.empty_iff (chain : Chain .discovered rows last) : rows = [] ↔ last = .discovered := by
  cases chain with
  | start => exact ⟨fun _ => rfl, fun _ => rfl⟩
  | @step _ middle _ row _ edge =>
      have away : last ≠ .discovered := by
        rintro rfl
        revert edge
        cases middle <;> decide
      simp [away]

theorem toString_inj {one other : Uuid} (same : toString one = toString other) : one = other := by
  have texts := congrArg String.toList same
  rw [Nat.toString_eq_ofList_toDigits, Nat.toString_eq_ofList_toDigits, String.toList_ofList,
    String.toList_ofList] at texts
  rw [← Nat.ofDigitChars_ten_toDigits (n := one), texts, Nat.ofDigitChars_ten_toDigits]

theorem trail_other {audits : List AuditEvent} {row : AuditEvent} {prospectId : Uuid}
    (elsewhere : row.event = "transition" → row.subjectId ≠ toString prospectId) :
    trail (audits ++ [row]) prospectId = trail audits prospectId := by
  unfold trail
  rw [List.filter_append, List.filter_cons_of_neg, List.filter_nil, List.append_nil]
  simp only [Bool.and_eq_true, decide_eq_true_eq]
  rintro ⟨⟨_, mine⟩, moves⟩
  exact elsewhere moves mine

end Chains

section Trailing

/-- The log tells how a prospect has come to its state. -/
def Traced (db : Database) (prospectId : Uuid) (lead : Prospect) : Prop :=
  Chain .discovered (trail db.auditEvents prospectId) lead.state ∧
    (trail db.auditEvents prospectId = [] ↔ lead.state = .discovered)

/-- The trail of a prospect leads to its state, or to the one in which it was erased. -/
inductive Tracked (rows : List AuditEvent) : Option Prospect → Prop where
  | absent (empty : rows = []) : Tracked rows none
  | present (lead : Prospect) (last : ProspectState) (alive : last ≠ .forgotten)
      (chain : Chain .discovered rows last) (state : lead.state = last ∨ lead.state = .forgotten) :
      Tracked rows (some lead)

def Trailing (db : Database) : Prop :=
  ∀ prospectId, Tracked (trail db.auditEvents prospectId) (db.prospects.lookup prospectId)

/-- What keeps the trails. -/
def Trails (before after : Database) : Prop := Trailing before → Trailing after

theorem trails_timeline : Timeline Trails :=
  ⟨fun _ trailing => trailing, fun first second trailing => second (first trailing)⟩

theorem traced_iff {db : Database} (trailing : Trailing db) {prospectId : Uuid} {lead : Prospect}
    (found : db.prospects.lookup prospectId = some lead) :
    Traced db prospectId lead ↔ lead.state ≠ .forgotten := by
  have tracked := trailing prospectId
  rw [found] at tracked
  cases tracked with
  | present lead last alive chain state =>
      constructor
      · intro traced gone
        have ended := chain.unique traced.1
        exact alive (ended.trans gone)
      · intro here
        obtain rfl := state.resolve_right here
        exact ⟨chain, chain.empty_iff⟩

variable {before after : Database}

/-- A row that is no transition leaves the trails alone. -/
theorem trailing_append {row : AuditEvent} (other : row.event ≠ "transition")
    (trailing : Trailing before) :
    Trailing { before with auditEvents := before.auditEvents ++ [row] } := by
  intro prospectId
  have kept : trail (before.auditEvents ++ [row]) prospectId =
      trail before.auditEvents prospectId := trail_other fun moves => absurd moves other
  change Tracked (trail (before.auditEvents ++ [row]) prospectId)
    (before.prospects.lookup prospectId)
  rw [kept]
  exact trailing prospectId

/-- So do changes of prospects that stay in their states or are erased. -/
theorem trailing_modify {keys : List Uuid} {chosen : Uuid → Prospect → Bool}
    {change : Prospect → Prospect}
    (states : ∀ row, (change row).state = row.state ∨ (change row).state = .forgotten)
    (trailing : Trailing before) :
    Trailing ((Write.modify Tables.prospects keys chosen change).apply before) := by
  intro prospectId
  change Tracked (trail before.auditEvents prospectId) ((before.prospects.modify _ change).lookup _)
  rw [Table.lookup_modify]
  have tracked := trailing prospectId
  cases found : before.prospects.lookup prospectId with
  | none =>
      rw [found] at tracked
      exact tracked
  | some row =>
      rw [found] at tracked
      cases tracked with
      | present lead last alive chain state =>
          rw [Option.map_some]
          split_ifs
          · refine .present _ last alive chain ?_
            rcases states row with same | gone
            · rw [same]
              exact state
            · exact Or.inr gone
          · exact .present _ last alive chain state

theorem trailing_enrol {prospectId : Uuid} {row : Prospect} (discovered : row.state = .discovered)
    (absent : before.prospects.lookup prospectId = none)
    (replaced : Replaced Tables.prospects prospectId row before after)
    (trailing : Trailing before) : Trailing after := by
  obtain ⟨table, rfl, rows⟩ := replaced
  intro other
  have tracked := trailing other
  change Tracked (trail before.auditEvents other) (table.lookup other)
  rw [rows]
  by_cases same : other = prospectId
  · subst same
    rw [Function.update_self]
    rw [absent] at tracked
    cases tracked with
    | absent empty =>
        rw [empty]
        exact .present row .discovered nofun .start (Or.inl discovered)
  · rw [Function.update_of_ne same]
    exact tracked

/-- The row that a transition leaves. -/
def AuditEvent.transition (prospectId : Uuid) (source target : ProspectState)
    (actor reason : String) : AuditEvent where
  subjectType := "prospect"
  subjectId := toString prospectId
  event := "transition"
  payload := [("from", .text source.text), ("to", .text target.text), ("reason", .text reason)]
  actor := actor

/-- A transition takes the prospect on, and adds the row that says so. -/
theorem trailing_move {prospectId : Uuid} {lead : Prospect} {target : ProspectState}
    {actor reason : String} (alive : target ≠ .forgotten)
    (found : before.prospects.lookup prospectId = some lead) (edge : lead.state.Edge target)
    (replaced : Replaced Tables.prospects prospectId { lead with state := target } before after)
    (trailing : Trailing before) :
    Trailing { after with auditEvents := after.auditEvents ++
      [.transition prospectId lead.state target actor reason] } := by
  obtain ⟨table, rfl, rows⟩ := replaced
  intro other
  have tracked := trailing other
  change Tracked (trail (before.auditEvents ++ _) other) (table.lookup other)
  generalize added : AuditEvent.transition prospectId lead.state target actor reason = row
  rw [rows]
  by_cases same : other = prospectId
  · subst same
    rw [found] at tracked
    rw [Function.update_self]
    cases tracked with
    | present lead last living chain state =>
        have here : lead.state = last := by
          refine state.resolve_right fun gone => ?_
          rw [gone] at edge
          revert edge
          cases target <;> decide
        subst added here
        have longer : trail (before.auditEvents ++
            [.transition other lead.state target actor reason]) other =
            trail before.auditEvents other ++
              [.transition other lead.state target actor reason] := by
          unfold trail
          rw [List.filter_append, List.filter_cons_of_pos, List.filter_nil]
          simp [AuditEvent.transition]
        rw [longer]
        exact .present _ target alive (.step _ chain edge rfl rfl) (Or.inl rfl)
  · have kept : trail (before.auditEvents ++ [row]) other = trail before.auditEvents other := by
      subst added
      exact trail_other fun _ mine => same (toString_inj mine.symm)
    rw [Function.update_of_ne same, kept]
    exact tracked

end Trailing

section Programs

theorem trails_transition {prospectId : Uuid} {target : ProspectState} (actor reason : String)
    (alive : target ≠ .forgotten) : Leads Trails (transition prospectId target actor reason) where
  returns := by
    unfold transition
    refine ensures_bind_taking (ensures_lockRowsMarked Tables.prospects _ _) ?_
      (takes_lockRowsMarked Tables.prospects _ _) fun rows => ?_
    · exact fun _ _ _ _ _ => trivial
    match rows with
    | [] => exact ensures_throw _
    | (id, row) :: rest =>
        dsimp only
        split_ifs with edge
        · refine ensures_bind (ensures_update Tables.prospects _ _) (fun _ _ _ _ _ => trivial)
            fun changed => ?_
          refine (ensures_appendRow Tables.auditEvents _).mono ?_
          rintro start _ middle after ⟨_, rfl⟩ before ⟨seen, busy, updated⟩ _
            ⟨locked, waiting, glimpse, chosen, present, rfl⟩
          obtain ⟨found, replaced⟩ := replaced_of_locked chosen (present _ List.mem_cons_self)
            (by simp) updated
          exact trailing_move alive found edge replaced
        · exact ensures_throw _
  raises := by
    unfold transition
    refine raises_bind (ensures_lockRowsMarked Tables.prospects _ _) (fun _ _ _ _ _ => trivial)
      (raises_perform _ _) fun rows => ?_
    match rows with
    | [] =>
        refine raises_throw _ ?_
        rintro start db before ⟨_, _, _, _, _, rfl⟩
        exact trails_timeline.refl _
    | (id, row) :: rest =>
        dsimp only
        split_ifs with edge
        · exact raises_of_sure (sure_bind (sure_perform _ _) fun _ => sure_perform _ _)
        · refine raises_throw _ ?_
          rintro start db before ⟨_, _, _, _, _, rfl⟩
          exact trails_timeline.refl _

/-- What keeps the trails is a discipline. -/
def trailed : Conduct := leading trails_timeline

theorem ordinary_trailed : Ordinary trailed.allowed := by
  constructor
  case marks => exact fun _ _ => trivial
  case audited =>
    intro row idle db
    exact trailing_append idle.1
  case touches => exact fun _ _ _ _ kept => kept
  case counters => exact fun _ _ _ _ _ kept => kept
  case mailboxCounters => exact fun _ _ _ _ kept => kept
  case received => exact fun _ _ _ kept => kept
  case exchanged => exact fun _ _ _ kept => kept
  case providerEvents => exact fun _ _ _ kept => kept
  case objections => exact fun _ _ kept => kept
  all_goals exact fun _ _ _ _ _ kept => kept

theorem serves_trailed (site : Deployment) (op : Op) : Serves site trailed op where
  ordinary := ordinary_trailed
  catching := catching_leading trails_timeline
  keyed _ := ⟨fun _ _ _ _ _ kept => kept⟩
  counting _ := ⟨fun row missed db => trailing_append (by rw [missed]; decide)⟩
  inserting _ := ⟨fun _ _ _ kept => kept⟩
  moves actor _ := fun prospectId target reason alive => trails_transition actor reason alive
  tries _ := tries_of_changes fun _ _ _ _ _ kept => kept
  credits _ := credits_of_changes fun _ _ _ _ _ kept => kept
  guards _ := guards_of_changes (fun _ _ _ _ _ kept => kept) ordinary_trailed
  judges _ := judges_of_changes fun _ _ _ _ _ kept => kept
  brakes _ := brakes_of_changes ordinary_trailed
    { capped := fun _ _ _ _ _ kept => kept
      braked := fun row which db => by
        refine trailing_append ?_
        rcases which with same | same
        all_goals
          rw [same]
          decide }
  applies _ := applies_of_changes fun _ _ _ _ _ kept => kept
  enrols _ := by
    intro prospectId row discovered
    refine ⟨?_, raises_perform _ _⟩
    refine (ensures_insertRow Tables.prospects none _ _ _ _).mono ?_
    rintro start _ before after ⟨_, _, _, _, absent, replaced⟩
    exact trailing_enrol discovered absent replaced
  scrubs _ := by
    intro ids
    refine scrubs_of_changes ordinary_trailed ⟨fun _ _ _ _ _ kept => kept⟩
      (fun _ _ _ _ _ kept => kept) ids ?_
    refine within_changing (Allowance.marks_none _) ?_ _ _
    intro moment keys chosen db
    exact trailing_modify fun _ => Or.inr rfl
  attaches := by
    intro prospectId address bucket
    refine keeps_within (within_bind ?_ fun _ => within_pure _)
    refine within_changing (fun _ _ => trivial) ?_ _ _
    intro moment keys chosen db
    exact trailing_modify fun _ => Or.inl rfl

/-- The prospects that are forgotten were so before. -/
def Sparing (before after : Database) : Prop :=
  ∀ prospectId lead, after.prospects.lookup prospectId = some lead → lead.state = .forgotten →
    ∃ old, before.prospects.lookup prospectId = some old ∧ old.state = .forgotten

theorem sparing_timeline : Timeline Sparing where
  refl _ _ lead found gone := ⟨lead, found, gone⟩
  trans first second prospectId lead found gone := by
    obtain ⟨middle, there, still⟩ := second prospectId lead found gone
    exact first prospectId middle there still

def sparing : Conduct := leading sparing_timeline

theorem sparing_modify {keys : List Uuid} {chosen : Uuid → Prospect → Bool}
    {change : Prospect → Prospect}
    (states : ∀ row, (change row).state = .forgotten → row.state = .forgotten) (db : Database) :
    Sparing db ((Write.modify Tables.prospects keys chosen change).apply db) := by
  intro prospectId lead found gone
  change (db.prospects.modify _ change).lookup prospectId = some lead at found
  rw [Table.lookup_modify] at found
  obtain ⟨old, there, same⟩ := Option.map_eq_some_iff.1 found
  refine ⟨old, there, ?_⟩
  split_ifs at same
  · rw [← same] at gone
    exact states old gone
  · rw [same]
    exact gone

theorem ordinary_sparing : Ordinary sparing.allowed := by
  have idle : ∀ db, Sparing db db := sparing_timeline.refl
  constructor
  case marks => exact fun _ _ => trivial
  case audited => exact fun _ _ db => idle db
  case touches => exact fun _ _ _ db => idle db
  case counters => exact fun _ _ _ _ db => idle db
  case mailboxCounters => exact fun _ _ _ db => idle db
  case received => exact fun _ _ db => idle db
  case exchanged => exact fun _ _ db => idle db
  case providerEvents => exact fun _ _ db => idle db
  case objections => exact fun _ db => idle db
  all_goals exact fun _ _ _ _ db => idle db

/-- Nothing but an erasure makes a prospect a forgotten one. -/
theorem serves_sparing (site : Deployment) {op : Op} (spares : ¬ op.erases) :
    Serves site sparing op where
  ordinary := ordinary_sparing
  catching := catching_leading sparing_timeline
  keyed _ := ⟨fun _ _ _ _ db => sparing_timeline.refl db⟩
  counting _ := ⟨fun _ _ db => sparing_timeline.refl db⟩
  inserting _ := ⟨fun _ _ db => sparing_timeline.refl db⟩
  moves actor _ := by
    intro prospectId target reason alive
    refine keeps_within ?_
    unfold transition
    refine within_bind (within_lockRowsMarked (fun _ _ => trivial) _ _) fun rows => ?_
    split
    · exact Ordinary.within_raise _ _
    · dsimp only
      split
      · exact Ordinary.within_raise_bind _ _ _
      · refine within_bind (within_changing (Allowance.marks_none _) ?_ _ _) fun _ => ?_
        · exact fun moment keys chosen db => sparing_modify (fun _ gone => absurd gone alive) db
        · exact within_appendRow fun _ db => sparing_timeline.refl db
  tries _ := tries_of_changes fun _ _ _ _ db => sparing_timeline.refl db
  credits _ := credits_of_changes fun _ _ _ _ db => sparing_timeline.refl db
  guards _ := guards_of_changes (fun _ _ _ _ db => sparing_timeline.refl db) ordinary_sparing
  judges _ := judges_of_changes fun _ _ _ _ db => sparing_timeline.refl db
  brakes _ := brakes_of_changes ordinary_sparing
    ⟨fun _ _ _ _ db => sparing_timeline.refl db, fun _ _ db => sparing_timeline.refl db⟩
  applies _ := applies_of_changes fun _ _ _ _ db => sparing_timeline.refl db
  enrols _ := by
    intro prospectId row discovered
    refine ⟨?_, raises_perform _ _⟩
    refine (ensures_insertRow Tables.prospects none _ _ _ _).mono ?_
    rintro start _ before after ⟨_, _, _, _, _, table, rfl, rows⟩ other lead found gone
    change table.lookup other = some lead at found
    rw [rows] at found
    by_cases same : other = prospectId
    · rw [same, Function.update_self] at found
      obtain rfl := Option.some.inj found
      rw [discovered] at gone
      cases gone
    · rw [Function.update_of_ne same] at found
      exact ⟨lead, found, gone⟩
  scrubs erases := absurd erases spares
  attaches := by
    intro prospectId address bucket
    refine keeps_within (within_bind ?_ fun _ => within_pure _)
    refine within_changing (fun _ _ => trivial) ?_ _ _
    intro moment keys chosen db
    apply sparing_modify
    exact fun _ gone => gone

end Programs

section Runs

variable {site : Deployment} {allowed : World → Act → Prop} {start world : World}

/-- The step commits an erasure. -/
def Erasing (world : World) (action : Act) : Prop :=
  ∃ index ref out txn, action = .finish index ∧
    world.session index = some ⟨.forget ref, .done out, txn⟩ ∧ txn.failed = false

theorem sparing_of_step {action : Act} {later : World}
    (sound : world.Sound (service site) anything)
    (step : (service site).act action world = some later) (spares : ¬ Erasing world action) :
    Sparing world.committed later.committed := by
  rcases act_committed step with same | ⟨ticks, _, moved⟩ | ⟨index, op, out, txn, which, present,
    intact, wrote⟩
  · rw [same]
    exact sparing_timeline.refl _
  · rw [moved]
    exact sparing_timeline.refl world.committed
  · have idle : ¬ op.erases := by
      intro erases
      cases op with
      | forget ref => exact spares ⟨index, ref, out, txn, which, present, intact⟩
      | _ => exact erases
    have leads : Leads Sparing (op.program site) := keeps_program (serves_sparing site idle)
    rw [wrote]
    exact bare_commit sound present intact leads.returns

theorem trailing_of_run (quiet : start.sessions = []) (trailing : Trailing start.committed)
    (run : Run site allowed start world) : Trailing world.committed := by
  have programs : ∀ op, Leads Trails ((service site).program op) :=
    fun op => keeps_program (serves_trailed site op)
  have clock : ∀ ticks db, Trails db ((service site).advance ticks db) := fun _ _ kept => kept
  exact along_of_run trails_timeline programs clock quiet run trailing

/-- In every state that a run reaches, the audit log tells how a prospect came to its state
exactly as long as the prospect is not forgotten, and no step but one that commits an
erasure makes a prospect a forgotten one. -/
theorem trail_of_living (quiet : start.sessions = []) (trailing : Trailing start.committed)
    (run : Run site allowed start world) :
    (∀ prospectId lead, world.committed.prospects.lookup prospectId = some lead →
      (Traced world.committed prospectId lead ↔ lead.state ≠ .forgotten)) ∧
    ∀ action later, (service site).act action world = some later → ¬ Erasing world action →
      Sparing world.committed later.committed := by
  have kept := trailing_of_run quiet trailing run
  refine ⟨fun prospectId lead found => traced_iff kept found, ?_⟩
  intro action later step spares
  exact sparing_of_step (sound_of_run quiet run) step spares

end Runs

section Sample

/-- A prospect that has just been discovered, and nothing in the audit log. -/
theorem discovered_trailing : Trailing discoveredWorld.committed := by
  intro prospectId
  change Tracked [] ((Table.empty.insert 3 discoveredProspect).lookup prospectId)
  rw [Table.lookup_insert]
  split_ifs
  · exact .present discoveredProspect .discovered nofun .start (Or.inl rfl)
  · exact .absent rfl

/-- The prospect is enriched. -/
def enriches : List Move := [begin (.lease .enrich), go 0 16]

theorem enriched_trail : ∃ world lead, Run pipelineDeployment unrestricted discoveredWorld world ∧
    world.committed.prospects.lookup 3 = some lead ∧ lead.state = .enriched ∧
    Traced world.committed 3 lead := by
  have tried : ((service pipelineDeployment).script enriches discoveredWorld).any (fun world =>
      (world.committed.prospects.lookup 3).any fun lead => lead.state = .enriched) = true := by
    decide +kernel
  obtain ⟨world, played, seen⟩ := (Option.any_eq_true _ _).1 tried
  obtain ⟨lead, found, state⟩ := (Option.any_eq_true _ _).1 seen
  have run : Run pipelineDeployment unrestricted discoveredWorld world := run_of_further played
  have enriched : lead.state = .enriched := of_decide_eq_true state
  have living : lead.state ≠ .forgotten := by
    rw [enriched]
    exact nofun
  refine ⟨world, lead, run, found, enriched, ?_⟩
  exact ((trail_of_living rfl discovered_trailing run).1 3 lead found).2 living

theorem forgotten_trail : ∃ world lead, Run pipelineDeployment unrestricted discoveredWorld world ∧
    (∀ prospectId lead, discoveredWorld.committed.prospects.lookup prospectId = some lead →
      Traced discoveredWorld.committed prospectId lead) ∧
    world.committed.prospects.lookup 3 = some lead ∧ ¬ Traced world.committed 3 lead := by
  have tried : ((service pipelineDeployment).script [begin (.forget (.entity 2)), go 0 10]
      discoveredWorld).any (fun world =>
      (world.committed.prospects.lookup 3).any (fun lead => lead.state = .forgotten) &&
        (trail world.committed.auditEvents 3).isEmpty) = true := by
    decide +kernel
  obtain ⟨world, played, seen⟩ := (Option.any_eq_true _ _).1 tried
  rw [Bool.and_eq_true] at seen
  obtain ⟨lead, found, state⟩ := (Option.any_eq_true _ _).1 seen.1
  refine ⟨world, lead, run_of_further played, ?_, found, ?_⟩
  · intro prospectId old there
    change (Table.empty.insert 3 discoveredProspect).lookup prospectId = some old at there
    rw [Table.lookup_insert] at there
    split_ifs at there
    · obtain rfl := Option.some.inj there
      exact ⟨.start, ⟨fun _ => rfl, fun _ => rfl⟩⟩
    · cases there
  · intro traced
    have empty : trail world.committed.auditEvents 3 = [] := List.isEmpty_iff.1 seen.2
    have discovered := traced.2.1 empty
    rw [of_decide_eq_true state] at discovered
    cases discovered

end Sample

end OpenReachout
