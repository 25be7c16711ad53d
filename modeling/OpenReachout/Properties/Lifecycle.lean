import OpenReachout.Outreach.Discipline
import OpenReachout.Outreach.Rows

/-!
# The lifecycle of a prospect

Prospects move along the table of transitions only. An attempt that the table forbids
undoes its transaction, except where it is caught.
-/

namespace OpenReachout

open Relational Relational.Program Relational.Discipline Text

set_option autoImplicit false

variable {site : Deployment} {world later : World} {start : Ledger}

section Attempts

/-- A transition that was attempted although the table forbids it. -/
def Illegal (entry : Mark × Database) : Prop :=
  ∃ id target actor row, entry.1 = .transition id target actor ∧
    entry.2.prospects.lookup id = some row ∧ ¬ row.state.Edge target

/-- `_safe_transition` and `process_no_show` catch the error. -/
def Mark.caught : Mark → Bool
  | .transition _ _ actor => actor = "system:events" || actor = "system:noshow"
  | _ => false

/-- What the program attempts and returns from is legal. -/
def Lawful {Value : Type} (program : Prog Value) : Prop :=
  ∀ a b value, Exec Progress program a (.ok value) b →
    ∀ entry ∈ b.txn.seen, entry ∈ a.txn.seen ∨ ¬ Illegal entry

variable {Value Other : Type}

theorem lawful_pure (value : Value) : Lawful (pure value : Prog Value) := by
  intro a b other exec entry member
  obtain ⟨_, rfl⟩ := exec
  exact Or.inl member

theorem lawful_bind {program : Prog Value} {rest : Value → Prog Other} (first : Lawful program)
    (second : ∀ value, Lawful (rest value)) : Lawful (program >>= rest) := by
  intro a b other exec entry member
  obtain ⟨value, middle, early, late⟩ := (exec_bind_ok program rest a b other).1 exec
  rcases second value middle b other late entry member with earlier | legal
  · exact first a middle value early entry earlier
  · exact Or.inr legal

/-- The allowance of what attempts no transition. -/
def unmoving : Allowed := marking fun mark => mark.moves = false

theorem liberal_unmoving : Liberal unmoving := liberal_marking fun _ idle => idle

theorem lawful_of_within {program : Prog Value} (within_ : Within unmoving program) :
    Lawful program := by
  intro a b value exec entry member
  rcases marked_of_within within_ exec entry member with earlier | idle
  · exact Or.inl earlier
  · refine Or.inr ?_
    rintro ⟨id, target, actor, row, named, _⟩
    have idle : entry.1.moves = false := idle
    rw [named] at idle
    cases idle

/-- Past the check of the table nothing is attempted any more. -/
theorem lawful_transition (prospectId : Uuid) (target : ProspectState) (actor reason : String) :
    Lawful (transition prospectId target actor reason) := by
  intro a b value exec entry member
  unfold transition at exec
  obtain ⟨rows, middle, locked, exec⟩ := (exec_bind_ok _ _ a b value).1 exec
  obtain ⟨db, _, _, _, busy, effect, success, rows_eq, rfl⟩ :=
    (exec_perform_ok _ _ _ _ _).1 locked
  obtain rfl := Except.ok.inj success
  cases rows with
  | nil => cases exec.1
  | cons first rest =>
      obtain ⟨id, row⟩ := first
      have selected := rows_eq
      dsimp only at exec
      split_ifs at exec with edge
      · have audited : Lawful (do
            let _ ← Program.update Tables.prospects (fun _ _ id _ => id = prospectId)
              fun _ row => { row with state := target }
            audit "prospect" (toString prospectId) "transition"
              [("from", .text row.state.text), ("to", .text target.text),
                ("reason", .text reason)] actor) := by
          refine lawful_of_within (within_bind (within_update liberal_unmoving.prospects _ _) ?_)
          exact fun _ => within_appendRow fun _ => liberal_unmoving.moved _ rfl
        rcases audited _ b value exec entry member with earlier | legal
        · simp only [Txn.record, Option.toList_some, List.map_cons, List.map_nil, List.mem_append,
            List.mem_singleton] at earlier
          rcases earlier with earlier | rfl
          · exact Or.inl earlier
          · refine Or.inr ?_
            rintro ⟨other, aim, by_, lead, named, found, forbidden⟩
            have present : (id, row) ∈ (a.txn.view db).prospects.select
                fun id _ => decide (id = prospectId) := by
              have shown : (id, row) ∈ (id, row) :: rest := List.mem_cons_self
              rw [selected] at shown
              exact shown
            have picked := (Table.mem_select_iff _ _ _ _).1 present
            have key : id = prospectId := of_decide_eq_true picked.2
            cases named
            rw [← key] at found
            obtain rfl := Option.some.inj (picked.1.symm.trans found)
            exact forbidden edge
        · exact Or.inr legal
      · cases exec.1

/-- So is what a program made of such parts attempts and returns from. -/
def lawful : Conduct where
  allowed := unmoving
  keeps := Lawful
  within := lawful_of_within
  bind := lawful_bind

theorem lawful_moves (actor : String) : Moves lawful actor :=
  fun _ _ _ _ => lawful_transition _ _ _ _

theorem lawful_tries : Tries lawful :=
  fun _ _ => lawful_of_within (liberal_unmoving.within_tries _ _)

theorem lawful_attaches : Attaches site lawful :=
  fun _ _ _ => lawful_of_within (liberal_unmoving.within_attaches _ _ _)

/-- A transition that raises has failed its transaction, or written nothing. -/
theorem unwritten_of_transition {prospectId : Uuid} {target : ProspectState}
    {actor reason : String} {a b : Spot} {error : Exc}
    (exec : Exec Progress (transition prospectId target actor reason) a (.error error) b) :
    b.txn.failed = true ∨ b.txn.view = a.txn.view := by
  unfold transition at exec
  rcases (exec_bind _ _ a b _).1 exec with ⟨rows, middle, locked, exec⟩ | ⟨_, _, unlocked⟩
  · have unwritten : middle.txn.view = a.txn.view := by
      obtain ⟨db, _, _, _, busy, effect, success, _, rfl⟩ := (exec_perform_ok _ _ _ _ _).1 locked
      obtain rfl := Except.ok.inj success
      funext other
      rw [Txn.view_record]
      rfl
    match rows with
    | [] =>
        obtain ⟨_, rfl⟩ := exec
        exact Or.inr unwritten
    | (id, row) :: rest =>
        dsimp only at exec
        split_ifs at exec
        · rcases (exec_bind _ _ middle b _).1 exec with ⟨_, updated, _, audited⟩ | ⟨_, _, refused⟩
          · have failed := exec_perform_error _ _ _ _ _ audited
            exact Or.inl (by rw [failed]; rfl)
          · have failed := exec_perform_error _ _ _ _ _ refused
            exact Or.inl (by rw [failed]; rfl)
        · obtain ⟨_, rfl⟩ := exec
          exact Or.inr unwritten
  · have failed := exec_perform_error _ _ _ _ _ unlocked
    exact Or.inl (by rw [failed]; rfl)

/-- What `recordConversion` does once the prospect has moved. -/
def creditConversion (touchId : Uuid) (touch : Touch) (tenant : String) : Prog Bool := do
  match nonEmpty touch.variantId with
  | some variantId => recordSuccess tenant variantId
  | none => pure ()
  let _ ← enqueue .referral (.prospect touch.prospectId) (.referral touch.prospectId)
  audit "touch" (toString touchId) "converted" [] "system:attribution"
  pure true

/-- A conversion that was attempted in vain has written nothing. -/
theorem unwritten_of_conversion {touchId : Uuid} {a b : Spot}
    {converts : Bool} (exec : Exec Progress (recordConversion touchId) a (.ok converts) b)
    (intact : b.txn.failed = false) :
    (∀ entry ∈ b.txn.seen, entry ∈ a.txn.seen ∨ ¬ Illegal entry) ∨ b.txn.view = a.txn.view := by
  unfold recordConversion at exec
  obtain ⟨row, middle, looked, exec⟩ := (exec_bind_ok _ _ a b _).1 exec
  have queried : Lawful (Program.query fun _ db => joinedTouch db touchId :
      Prog (Option (Touch × Prospect × String))) := lawful_of_within (within_query _)
  have unwritten : middle.txn.view = a.txn.view := by
    obtain ⟨db, _, _, _, busy, effect, success, _, rfl⟩ := (exec_perform_ok _ _ _ _ _).1 looked
    obtain rfl := Except.ok.inj success
    funext other
    rw [Txn.view_record]
    rfl
  cases row with
  | none =>
      obtain ⟨_, rfl⟩ := exec
      exact Or.inr unwritten
  | some joined =>
      obtain ⟨touch, prospect, tenant⟩ := joined
      dsimp only at exec
      split_ifs at exec
      · obtain ⟨_, rfl⟩ := exec
        exact Or.inr unwritten
      · obtain ⟨converted, last, tried, exec⟩ := (exec_bind_ok _ _ middle b _).1 exec
        rcases (exec_handle _ _ middle last _).1 tried with ⟨_, _, moved⟩ | ⟨error, raised, attempted,
          handled⟩
        · -- the prospect has moved, and nothing is attempted after that
          refine Or.inl fun entry member => ?_
          have moves : Lawful (do
              transition touch.prospectId .converted "system:attribution" s!"touch {touchId}"
              pure true) := lawful_bind (lawful_transition _ _ _ _) fun _ => lawful_pure _
          have counts : Lawful
              (if converted = true then creditConversion touchId touch tenant else pure false) := by
            have ordinary := liberal_unmoving.toOrdinary
            have success := liberal_unmoving.within_credits
            apply lawful_of_within
            split_ifs
            · unfold creditConversion
              dsimp only
              split
              · refine within_bind (success _ _) fun _ => ?_
                grind
              · grind
            · exact within_pure _
          rcases counts last b _ exec entry member with earlier | legal
          · rcases moves middle last _ moved entry earlier with earlier | legal
            · exact queried a middle _ looked entry earlier
            · exact Or.inr legal
          · exact Or.inr legal
        · have attempted : raised.txn.failed = true ∨ raised.txn.view = middle.txn.view := by
            rcases (exec_bind _ _ middle raised _).1 attempted with ⟨_, _, _, impossible, _⟩ |
              ⟨_, _, attempted⟩
            · cases impossible
            · exact unwritten_of_transition attempted
          split_ifs at handled
          · obtain ⟨value, rfl⟩ := handled
            obtain rfl := Except.ok.inj value
            obtain ⟨_, rfl⟩ := exec
            rcases attempted with failed | same
            · rw [failed] at intact
              cases intact
            · exact Or.inr (same.trans unwritten)
          · cases handled.1

end Attempts

section Runs

/-- A session that commits has executed its program. -/
theorem exec_of_commit {index : Nat} {out : Out}
    {session : Session Database RowLock Exc Mark Call Call.Answer Op Out} (sane : Sane site world)
    (found : world.session index = some session) (commits : Committing session out) :
    ∃ last, Exec Progress (session.op.program site) (Point.begin session.txn.start) (.ok out)
      ⟨last, session.txn⟩ := by
  obtain ⟨op, program, txn⟩ := session
  obtain ⟨rfl, intact⟩ := commits
  obtain ⟨last, _, exec⟩ := (commits_of_done sane.sound found intact).exec
  exact ⟨last, exec⟩

/-- What an operation attempts, where errors of transitions are caught and where there are none. -/
theorem caught_of_within {op : Op} {a b : Spot} {out : Out}
    (exec : Exec Progress (op.program site) a (.ok out) b)
    (mover : ∀ actor, op.mover = some actor → actor = "system:events" ∨ actor = "system:noshow") :
    ∀ entry ∈ b.txn.seen, entry ∈ a.txn.seen ∨ ¬ (Illegal entry ∧ entry.1.caught = false) := by
  have liberal := liberal_marking fun (named : Mark) (idle : named.moves = false) =>
    (Or.inl idle : named.moves = false ∨ named.caught = true)
  have within_ : Within (marking fun named => named.moves = false ∨ named.caught = true)
      (op.program site) := by
    refine within_program liberal op (fun _ => keyed_marking _) (fun _ => counting_marking _)
      (fun _ => inserting_marking _) ?_
    intro actor which id target
    refine Or.inr ?_
    rcases mover actor which with rfl | rfl <;> rfl
  intro entry member
  rcases marked_of_within within_ exec entry member with earlier | idle | caught
  · exact Or.inl earlier
  · refine Or.inr ?_
    rintro ⟨⟨id, target, actor, row, named, _⟩, _⟩
    rw [named] at idle
    cases idle
  · refine Or.inr ?_
    rintro ⟨_, loud⟩
    rw [loud] at caught
    cases caught

theorem lawful_unit {Value : Type} {program : Prog Value} (lawful : Lawful program) :
    Lawful (unitOut program) :=
  lawful_bind lawful fun _ => lawful_pure _

theorem lawful_handler (job : Job)
    (which : job.queue = .deliver ∨ job.queue = .enrich ∨ job.queue = .qualify) :
    Lawful (handler site job) := by
  obtain ⟨id, queue, payload, attempts, limit⟩ := job
  have refused : Lawful (raise .keyError "payload" : Prog Unit) :=
    lawful_of_within (Ordinary.within_raise _ _)
  have ordinary : Ordinary lawful.allowed := liberal_unmoving.toOrdinary
  rcases which with rfl | rfl | rfl
  · cases payload with
    | touch touchId => exact keeps_deliver ordinary (lawful_moves _) lawful_tries touchId
    | _ => exact refused
  · cases payload with
    | prospect prospectId => exact keeps_enrich ordinary (lawful_moves _) lawful_attaches prospectId
    | _ => exact refused
  · cases payload with
    | prospect prospectId => exact keeps_qualify ordinary (lawful_moves _) prospectId
    | _ => exact refused

/-- A session that commits although it has attempted an illegal transition, and has not
caught it on purpose, has written nothing. -/
theorem unwritten_of_illegal {index : Nat} {out : Out}
    {session : Session Database RowLock Exc Mark Call Call.Answer Op Out} (sane : Sane site world)
    (found : world.session index = some session) (commits : Committing session out)
    {entry : Mark × Database} (member : entry ∈ session.txn.seen) (illegal : Illegal entry)
    (loud : entry.1.caught = false) : session.txn.view world.committed = world.committed := by
  obtain ⟨last, exec⟩ := exec_of_commit sane found commits
  have contrary : (∀ entry ∈ session.txn.seen, entry ∈ ([] : List (Mark × Database)) ∨
      ¬ (Illegal entry ∧ entry.1.caught = false)) →
      session.txn.view world.committed = world.committed := by
    intro legal
    rcases legal entry member with none | legal
    · cases none
    · exact absurd ⟨illegal, loud⟩ legal
  have lawful : Lawful (session.op.program site) →
      session.txn.view world.committed = world.committed := by
    intro lawful
    refine contrary fun entry member => ?_
    rcases lawful _ _ _ exec entry member with none | legal
    · exact Or.inl none
    · exact Or.inr fun holds => legal holds.1
  obtain ⟨op, program, txn⟩ := session
  cases op with
  | recordConversion touchId =>
      obtain ⟨value, middle, converted, ended⟩ := (exec_bind_ok _ _ _ _ _).1 exec
      obtain ⟨_, rfl⟩ := ended
      rcases unwritten_of_conversion converted commits.intact with legal | same
      · refine contrary fun entry member => ?_
        rcases legal entry member with none | legal
        · exact Or.inl none
        · exact Or.inr fun holds => legal holds.1
      · exact congrFun same world.committed
  | handle job =>
      by_cases which : job.queue = .deliver ∨ job.queue = .enrich ∨ job.queue = .qualify
      · exact lawful (lawful_unit (lawful_handler job which))
      · refine contrary (caught_of_within exec ?_)
        intro actor mover
        unfold Op.mover at mover
        dsimp only at mover
        cases queue : job.queue <;> simp_all
  | ingestEvents events =>
      refine contrary (caught_of_within exec ?_)
      rintro actor mover
      exact Or.inl (Option.some.inj mover).symm
  | _ => exact contrary (caught_of_within exec nofun)

/-- States that are left for `forgotten` only. -/
def ProspectState.terminal : ProspectState → Bool
  | .converted | .disqualified | .unenrichable | .bounced | .declined | .unsubscribed => true
  | _ => false

theorem path_of_forgotten {state target : ProspectState}
    (path : Relation.ReflTransGen ProspectState.Edge state target) (ended : state = .forgotten) :
    target = .forgotten := by
  induction path with
  | refl => exact ended
  | tail _ edge induction =>
      subst induction
      cases edge

theorem edge_of_terminal {state target : ProspectState} (edge : state.Edge target)
    (ended : state.terminal = true) : target = .forgotten := by
  cases state <;> simp_all [ProspectState.terminal, ProspectState.Edge, transitions]

theorem path_of_terminal {state target : ProspectState}
    (path : Relation.ReflTransGen ProspectState.Edge state target) (ended : state.terminal = true) :
    target = state ∨ target = .forgotten := by
  induction path with
  | refl => exact Or.inl rfl
  | tail before edge induction =>
      rcases induction with same | forgotten
      · rw [same] at edge
        exact Or.inr (edge_of_terminal edge ended)
      · exact Or.inr (path_of_forgotten (.single edge) forgotten)

/-- A prospect that is new has come from `discovered`. -/
theorem discovered_of_path {op : Op} {vouch : Mark → Ledger → Prop} {l after : Ledger} {id : Uuid}
    {new : Prospect} (path : Relation.ReflTransGen (Deed site vouch op start) l after)
    (absent : l.prospects id = none) (present : after.prospects id = some new) :
    Relation.ReflTransGen ProspectState.Edge .discovered new.state := by
  induction path generalizing new with
  | refl =>
      rw [absent] at present
      cases present
  | tail _ deed induction =>
      rcases prospect_of_deed deed present with same | ⟨_, runtime, taken⟩ | ⟨old, there, _⟩
      · exact induction same
      · rw [taken.state]
      · obtain ⟨last, shown, later⟩ := (deed_later _ _ _ _ deed).prospects id old there
        obtain rfl := Option.some.inj (shown.symm.trans present)
        exact (induction there).trans later.path

/-- In every run the prospects go along the table of transitions, from `discovered` on; so
the terminal states are left for `forgotten` only, and `forgotten` never. A transaction
that has attempted an illegal transition, and does not catch it on purpose, leaves nothing
behind. -/
theorem prospect_lifecycle {start : World} (quiet : start.sessions = [])
    (linked : Linked start.committed.ledger) (run : Run site unrestricted start world) :
    (∀ later, Run site unrestricted world later → ∀ id old,
      world.committed.prospects.lookup id = some old →
      ∃ new, later.committed.prospects.lookup id = some new ∧
        Relation.ReflTransGen ProspectState.Edge old.state new.state ∧
        (old.state.terminal = true → new.state = old.state ∨ new.state = .forgotten) ∧
        (old.state = .forgotten → new.state = .forgotten)) ∧
    (∀ action later, (service site).act action world = some later → ∀ id new,
      world.committed.prospects.lookup id = none →
      later.committed.prospects.lookup id = some new →
      Relation.ReflTransGen ProspectState.Edge .discovered new.state) ∧
    ∀ index later, (service site).act (.finish index) world = some later → ∀ session,
      world.session index = some session → ∀ entry ∈ session.txn.seen, Illegal entry →
      entry.1.caught = false → later.committed = world.committed := by
  obtain ⟨sane, _⟩ := invariant_of_advances (fun _ => True) vouched_free
    (fun _ _ _ _ _ _ _ _ => trivial) quiet linked trivial run
  refine ⟨?_, ?_, ?_⟩
  · intro later onward id old found
    obtain ⟨_, since⟩ := invariant_onward
      (fun later => Later world.committed.ledger later.committed.ledger) vouched_free
      (fun _ _ _ _ since _ _ advance => later_trans since (later_advance advance)) sane
      (later_refl _) onward
    obtain ⟨new, present, moved⟩ := since.prospects id old found
    exact ⟨new, present, moved.path, path_of_terminal moved.path, path_of_forgotten moved.path⟩
  · intro action later step id new absent present
    have vouched : Vouched (fun _ _ _ _ => True) world action := fun _ _ _ _ _ _ _ _ => trivial
    cases advance_of_step sane.sound sane.begun vouched step with
    | idle same =>
        rw [same, absent] at present
        cases present
    | clock ticks moved =>
        rw [moved] at present
        rw [show (advanceClock ticks world.committed).prospects = world.committed.prospects from rfl,
          absent] at present
        cases present
    | commit index session out found commits since wrote path =>
        exact discovered_of_path path absent present
  · intro index later step session found entry member illegal loud
    rcases act_committed step with same | ⟨ticks, which, _⟩ | ⟨other, op, out, txn, which, present,
      intact, wrote⟩
    · exact same
    · cases which
    · obtain rfl := Action.finish.inj which
      obtain rfl := Option.some.inj (found.symm.trans present)
      have commits : Committing ⟨op, .done out, txn⟩ out := ⟨rfl, intact⟩
      rw [wrote]
      exact unwritten_of_illegal sane found commits member illegal loud

/-- A deployment that qualifies, and that hears of missed bookings. -/
def qualifyingDeployment : Deployment := { sampleDeployment with handlers := [.trigger, .qualify] }

/-- The sample world with a prospect that has signed up, and nothing to do. -/
def convertedWorld : World :=
  { committed := { sampleDatabase with
      prospects := Table.empty.insert 3 { sampleProspect with state := .converted }
      touches := Table.empty
      jobs := Table.empty
      jobIndex := Table.empty } }

theorem converted_linked : Linked convertedWorld.committed.ledger := by
  refine ⟨?_, ?_, ?_, ?_⟩
  all_goals
    intro id row found
    simp [Database.ledger, convertedWorld, sampleDatabase, sampleProspect] at found ⊢
  obtain ⟨rfl, rfl⟩ := found
  rfl

theorem converted_stays : Linked convertedWorld.committed.ledger ∧
    ∀ later, Run qualifyingDeployment unrestricted convertedWorld later →
      ∃ new, later.committed.prospects.lookup 3 = some new ∧
        (new.state = .converted ∨ new.state = .forgotten) := by
  refine ⟨converted_linked, ?_⟩
  intro later run
  obtain ⟨new, present, _, terminal, _⟩ := (prospect_lifecycle rfl converted_linked
    Relation.ReflTransGen.refl).1 later run 3 { sampleProspect with state := .converted } rfl
  exact ⟨new, present, terminal rfl⟩

def qualifyJob : JobRow where
  queue := .qualify
  payload := .prospect 3
  idempotencyKey := .qualify 3
  runAfter := sampleClock

/-- The sample world before its prospect is qualified. -/
def enrichedWorld : World :=
  { committed := { sampleDatabase with
      prospects := Table.empty.insert 3 { sampleProspect with state := .enriched }
      touches := Table.empty
      jobs := Table.empty.insert 5 qualifyJob
      jobIndex := Table.empty.insert (.qualify 3) 5 } }

def missed (key : String) : Op :=
  .operatorEvent noshowEvent [("entity_email", .text sampleAddress)] (some key)

/-- The prospect misses two bookings; the second job comes to its commit. -/
def missesTwice : List Move :=
  [begin (missed "first"), go 0 7 10, begin (.lease .trigger), go 1 12 20,
    begin (missed "second"), go 2 7 30, begin (.lease .trigger), go 3 9 40]

/-- A second missed booking has attempted to decline a prospect that cannot be declined. -/
def declining (entry : Mark × Database) : Bool :=
  entry.1 = .transition 3 .declined "system:noshow" &&
    (entry.2.prospects.lookup 3).any fun row => row.state = .converted

theorem illegal_of_declining {entry : Mark × Database} (holds : declining entry = true) :
    Illegal entry := by
  unfold declining at holds
  simp only [Bool.and_eq_true, decide_eq_true_eq] at holds
  obtain ⟨row, found, state⟩ := (Option.any_eq_true _ _).1 holds.2
  refine ⟨3, .declined, "system:noshow", row, holds.1, found, ?_⟩
  rw [of_decide_eq_true state]
  decide

/-- One commit makes two transitions, and one keeps its effects past an illegal one. -/
theorem lifecycle_breached :
    (∃ world later, Run qualifyingDeployment unrestricted enrichedWorld world ∧
      (service qualifyingDeployment).act (.finish 0) world = some later ∧
      (world.committed.prospects.lookup 3).map Prospect.state = some .enriched ∧
      (later.committed.prospects.lookup 3).map Prospect.state = some .queued ∧
      ¬ ProspectState.Edge .enriched .queued) ∧
    ∃ world later session entry, Run qualifyingDeployment unrestricted convertedWorld world ∧
      (service qualifyingDeployment).act (.finish 3) world = some later ∧
      world.session 3 = some session ∧ entry ∈ session.txn.seen ∧ Illegal entry ∧
      world.committed.suppressions.lookup (sampleAddress, globalScope) = none ∧
      later.committed.suppressions.lookup (sampleAddress, globalScope) ≠ none := by
  constructor
  · have tried : ((service qualifyingDeployment).script [begin (.lease .qualify), go 0 14 20]
        enrichedWorld).any (fun world =>
          ((service qualifyingDeployment).script [.inl (.finish 0)] world).any fun later : World =>
            decide ((world.committed.prospects.lookup 3).map Prospect.state = some .enriched) &&
            decide ((later.committed.prospects.lookup 3).map Prospect.state = some .queued)) =
        true := by
      decide +kernel
    obtain ⟨world, later, run, played, seen⟩ := scripts_of_tried tried
    simp only [Bool.and_eq_true, decide_eq_true_eq] at seen
    exact ⟨world, later, run, step_of_script played, seen.1, seen.2, by decide⟩
  · have tried : ((service qualifyingDeployment).script missesTwice convertedWorld).any
        (fun world =>
          ((service qualifyingDeployment).script [.inl (.finish 3)] world).any fun later : World =>
            (world.session 3).any (fun session => session.txn.seen.any declining) &&
            (world.committed.suppressions.lookup (sampleAddress, globalScope)).isNone &&
            (later.committed.suppressions.lookup (sampleAddress, globalScope)).isSome) = true := by
      decide +kernel
    obtain ⟨world, later, run, played, seen⟩ := scripts_of_tried tried
    simp only [Bool.and_eq_true] at seen
    obtain ⟨⟨attempted, absent⟩, present⟩ := seen
    obtain ⟨session, found, attempted⟩ := (Option.any_eq_true _ _).1 attempted
    obtain ⟨entry, member, holds⟩ := List.any_eq_true.1 attempted
    exact ⟨world, later, session, entry, run, step_of_script played, found, member,
      illegal_of_declining holds, Option.isNone_iff_eq_none.1 absent,
      Option.isSome_iff_ne_none.1 present⟩

end Runs

end OpenReachout
