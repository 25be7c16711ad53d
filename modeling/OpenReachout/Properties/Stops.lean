import OpenReachout.Outreach.Rows

/-!
# Halts and suppressions

What a stop does beside the row that records it: the job that tells the sending
provider, which is new only where its key is.
-/

namespace OpenReachout

open Relational Text

set_option autoImplicit false

variable {site : Deployment} {vouch : Mark → Ledger → Prop} {op : Op} {start l after : Ledger}

section Propagation

/-- A step has put a job for the provider into the control queue. -/
def Propagated (before after : Ledger) (payload : JobPayload) : Prop :=
  ∃ id work, before.jobs id = none ∧ after.jobs id = some work ∧ work.queue = .control ∧
    work.payload = payload ∧ work.status = .ready

/-- A job that is enqueued is the one that its key is new to. -/
theorem propagated_iff_enqueued {time : Time} {payload : JobPayload} {key : JobKey} {delay : Nat}
    (enqueued : Enqueued time .control payload key delay l after) :
    Propagated l after payload ↔ l.jobIndex key = none := by
  cases enqueued with
  | fresh id unknown unused =>
      have made : (l.setJob id { queue := .control, payload, idempotencyKey := key
                                 runAfter := time + seconds delay }).jobs id = some _ :=
        Function.update_self id _ _
      exact ⟨fun _ => unknown, fun _ => ⟨id, _, unused, made, rfl, rfl, rfl⟩⟩
  | known present =>
      constructor
      · rintro ⟨id, work, unused, made, _⟩
        rw [unused] at made
        cases made
      · exact fun unknown => absurd unknown present

/-- What a commit suppresses for good it has the provider told about, unless the key
of the job is taken. -/
theorem suppressing_of_path (path : Relation.ReflTransGen (Deed site vouch op start) l after)
    {key : String × String} {row : Suppression} (present : after.suppressions key = some row)
    (changed : l.suppressions key ≠ some row) (lasting : row.expiresAt = none) :
    op.settles = false ∧ after.jobIndex (.pause key.1 key.2 row.reason) ≠ none := by
  induction path with
  | refl => exact absurd present changed
  | tail path deed induction =>
      rcases suppression_of_deed deed present with same | written
      · obtain ⟨idle, told⟩ := induction same
        refine ⟨idle, ?_⟩
        obtain ⟨id, known⟩ := Option.ne_none_iff_exists'.1 told
        obtain ⟨_, kept, _⟩ := (deed_later _ _ _ _ deed).jobIndex _ id known
        rw [kept]
        nofun
      · cases written with
        | lasting reason idle told => exact ⟨idle, told⟩
        | cooldown reason months row scope vouched until_ =>
            rw [until_] at lasting
            cases lasting

theorem propagated_of_path (path : Relation.ReflTransGen (Deed site vouch op start) l after)
    {address scope reason : String} (idle : op.settles = false)
    (told : after.jobIndex (.pause address scope reason) ≠ none)
    (unknown : l.jobIndex (.pause address scope reason) = none) :
    Propagated l after (.pauseLead address scope) := by
  obtain ⟨id, known⟩ := Option.ne_none_iff_exists'.1 told
  rcases indexed_of_path path known with old | ⟨_, unused, work, found, key⟩
  · rw [unknown] at old
    cases old
  · rcases job_of_idle idle path found with old | ⟨_, fresh⟩
    · rw [unused] at old
      cases old
    · have orders := fresh.orders
      rw [key] at orders
      exact ⟨id, work, unused, found, orders.1, orders.2, fresh.status⟩

variable {world later : World}

/-- In every run, each halt is followed by its own job exactly if no halt of the scope
with the same flag has ever been, and an address that is suppressed for good by one
if it has never been suppressed in the scope for the same reason. -/
theorem stops_propagated {begin_ : World} (quiet : begin_.sessions = [])
    (linked : Linked begin_.committed.ledger) (run : Run site unrestricted begin_ world)
    {action : Act} (step : (service site).act action world = some later) :
    (∀ index session out scope actor flag, action = .finish index →
      world.session index = some session → Committing session out →
      session.op = .halt scope actor flag →
      (Propagated world.committed.ledger later.committed.ledger (.pauseAllCampaigns scope) ↔
        world.committed.jobIndex.lookup (.halt scope flag) = none)) ∧
    ∀ address scope row, later.committed.suppressions.lookup (address, scope) = some row →
      world.committed.suppressions.lookup (address, scope) ≠ some row → row.expiresAt = none →
      world.committed.jobIndex.lookup (.pause address scope row.reason) = none →
      Propagated world.committed.ledger later.committed.ledger (.pauseLead address scope) := by
  obtain ⟨sane, _⟩ := invariant_of_advances (fun _ => True) vouched_free
    (fun _ _ _ _ _ _ _ _ => trivial) quiet linked trivial run
  have free : unrestricted world action := trivial
  have advance := advance_of_step sane.sound sane.begun (vouched_free world action free) step
  constructor
  · rintro index ⟨op, program, txn⟩ out scope actor flag rfl found ⟨rfl, intact⟩ rfl
    have commits : Committing ⟨.halt scope actor flag, .done out, txn⟩ out := ⟨rfl, intact⟩
    have brings : (outreach site (fun _ _ => True) (.halt scope actor flag)).Brings [] _ _ :=
      Abstraction.brings_map (brings_halt scope actor flag) fun _ => Out.unit
    obtain ⟨_, value, _, enqueued⟩ := brings_commit sane.sound sane.begun found commits
      (fun _ _ => trivial) brings
    rw [committed_of_finish found intact step]
    have propagated := propagated_iff_enqueued enqueued
    exact propagated
  · intro address scope row present changed lasting unknown
    cases advance with
    | idle same =>
        rw [same] at present
        exact absurd present changed
    | clock ticks moved =>
        rw [moved] at present
        exact absurd present changed
    | commit index session out found commits since wrote path =>
        obtain ⟨idle, told⟩ := suppressing_of_path path present changed lasting
        exact propagated_of_path path idle told unknown

/-- A halt of everything is about to be committed. -/
def halting (index : Nat) (world : World) : Bool :=
  (world.session index).any fun session =>
    match session.op, session.program with
    | .halt scope _ flag, .done _ =>
        scope = globalScope && flag = "halted" && session.txn.failed = false
    | _, _ => false

theorem commits_of_halting {index : Nat} (seen : halting index world = true) :
    ∃ session out actor, world.session index = some session ∧ Committing session out ∧
      session.op = .halt globalScope actor "halted" := by
  obtain ⟨⟨op, program, txn⟩, found, holds⟩ := (Option.any_eq_true _ _).1 seen
  dsimp only at holds
  split at holds
  · simp only [Bool.and_eq_true, decide_eq_true_eq] at holds
    obtain ⟨⟨rfl, rfl⟩, intact⟩ := holds
    exact ⟨_, _, _, found, ⟨rfl, intact⟩, rfl⟩
  · cases holds

/-- A halt of everything. -/
def halted : List Move := [begin (.halt globalScope "operator:maya" "halted"), go 0 4]

theorem first_halt_propagated : ∃ world later : World, Run sampleDeployment unrestricted sampleWorld world ∧
    Propagated world.committed.ledger later.committed.ledger (.pauseAllCampaigns globalScope) := by
  have tried : (play halted).any (fun world =>
      ((service sampleDeployment).script [.inl (.finish 0)] world).any fun _ => halting 0 world &&
        (world.committed.jobIndex.lookup (.halt globalScope "halted")).isNone) = true := by
    decide +kernel
  obtain ⟨world, later, run, played, seen⟩ := runs_of_tried tried
  obtain ⟨halts, unknown⟩ := (Bool.and_eq_true _ _).mp seen
  obtain ⟨session, out, actor, found, commits, which⟩ := commits_of_halting halts
  have propagated := (stops_propagated rfl sample_linked run (step_of_script played)).1
    0 session out globalScope actor "halted" rfl found commits which
  exact ⟨world, later, run, propagated.2 (Option.isNone_iff_eq_none.1 unknown)⟩

/-- Two halts of everything, with a human between them who resumes. -/
def haltedTwice : List Move :=
  halted ++ [go 0 1, begin (.resume globalScope "operator:maya"), go 1 3,
    begin (.halt globalScope "operator:maya" "halted"), go 2 3]

theorem second_halt_not_propagated : ∃ world later session out actor,
    Run sampleDeployment unrestricted sampleWorld world ∧
    (service sampleDeployment).act (.finish 2) world = some later ∧
    world.session 2 = some session ∧ Committing session out ∧
    session.op = .halt globalScope actor "halted" ∧
    ¬ Propagated world.committed.ledger later.committed.ledger
      (.pauseAllCampaigns globalScope) := by
  have tried : (play haltedTwice).any (fun world =>
      ((service sampleDeployment).script [.inl (.finish 2)] world).any fun later : World =>
        halting 2 world && decide (later.committed.jobs.rows = world.committed.jobs.rows)) =
      true := by
    decide +kernel
  obtain ⟨world, later, run, played, seen⟩ := runs_of_tried tried
  obtain ⟨halts, same⟩ := (Bool.and_eq_true _ _).mp seen
  obtain ⟨session, out, actor, found, commits, which⟩ := commits_of_halting halts
  refine ⟨world, later, session, out, actor, run, step_of_script played, found, commits, which, ?_⟩
  rintro ⟨id, work, unused, made, _⟩
  have rows := Table.ext_rows (of_decide_eq_true same)
  change later.committed.jobs.lookup id = some work at made
  rw [rows, show world.committed.jobs.lookup id = none from unused] at made
  cases made

end Propagation

section Halts

/-- No human resumes the scope. -/
def Unresumed (scope : String) (world : World) (action : Act) : Prop :=
  ∀ index session out actor, action = .finish index → world.session index = some session →
    Committing session out → session.op = .resume scope actor →
    humanActorPrefix.toList.isPrefixOf actor.toList = false

def Halted (scope : String) (db : Database) : Prop := db.controlFlags.lookup scope ≠ none

/-- What others may commit while the scope is halted. -/
def whileHalted (scope : String) (_ new : Database) : Prop := Halted scope new

def Covers (scope tenant : String) : Prop := scope = globalScope ∨ scope = tenant

/-- The flags that a claim and a reissue look for are those that cover the tenant. -/
theorem mem_haltedScopes_iff (db : Database) (scope tenant : String) :
    scope ∈ haltedScopesIn db tenant ↔ Halted scope db ∧ Covers scope tenant := by
  unfold haltedScopesIn Halted Covers
  rw [List.mem_map]
  constructor
  · rintro ⟨⟨other, flag⟩, member, rfl⟩
    obtain ⟨found, picked⟩ := (Table.mem_select_iff _ _ _ _).1 member
    simp only [Bool.or_eq_true, decide_eq_true_eq] at picked
    rw [found]
    exact ⟨nofun, picked⟩
  · rintro ⟨set, covers⟩
    obtain ⟨flag, found⟩ := Option.ne_none_iff_exists'.1 set
    refine ⟨(scope, flag), (Table.mem_select_iff _ _ _ _).2 ⟨found, ?_⟩, rfl⟩
    simpa using covers

variable {scope tenant : String} {a b : Spot}

theorem halted_answer (covers : Covers scope tenant)
    (unwritten : ∀ db, (a.txn.view db).controlFlags = db.controlFlags)
    {scopes : List String}
    (exec : Program.Exec (whileHalted scope) (haltedScopes tenant) a (.ok scopes) b) :
    scopes ≠ [] := by
  obtain ⟨db, halted, _, _, _, effect, success, rfl, _⟩ :=
    (Program.exec_perform_ok _ _ _ _ _).1 exec
  obtain rfl := Except.ok.inj success
  have seen : Halted scope (a.txn.view db) := by
    unfold Halted
    rw [unwritten]
    exact halted
  have member := (mem_haltedScopes_iff _ _ _).2 ⟨seen, covers⟩
  exact List.ne_nil_of_mem member

theorem claim_halted {runtime : Runtime} {platform : Platform} {touch : DraftTouch}
    (covers : Covers scope touch.tenant)
    (unwritten : ∀ db, (a.txn.view db).controlFlags = db.controlFlags)
    {outcome : Except Exc ClaimResult}
    (exec : Program.Exec (whileHalted scope) (claim runtime (pgGateStore platform) touch) a
      outcome b) : ∃ refusal, outcome = .ok (.refused refusal) := by
  have run : (Program.observation (whileHalted scope)).runs
      (claim runtime (pgGateStore platform) touch) a outcome b := exec
  cases outcome with
  | error error => exact (claim_never_raises run).elim
  | ok result =>
      cases result with
      | refused refusal => exact ⟨refusal, rfl⟩
      | claimed claimed =>
          obtain ⟨unhalted, _, _, _, _, halt, _⟩ := claim_passed run
          exact absurd rfl (halted_answer covers unwritten halt)

theorem load_halted {platform : Platform} {touchId : Uuid} {snapshot : ClaimedSnapshot}
    (unwritten : ∀ db, (a.txn.view db).controlFlags = db.controlFlags)
    (exec : Program.Exec (whileHalted scope) (loadClaimed platform touchId) a
      (.ok (some snapshot)) b) : ¬ Covers scope snapshot.tenant := by
  intro covers
  unfold loadClaimed at exec
  rw [Program.exec_bind_ok] at exec
  obtain ⟨row, middle, first, exec⟩ := exec
  obtain ⟨db, _, _, _, _, effect, success, rfl, rfl⟩ := (Program.exec_perform_ok _ _ _ _ _).1 first
  obtain rfl := Except.ok.inj success
  split at exec
  · cases Except.ok.inj exec.1
  · next row tenant mailbox contentHash email found =>
      rw [Program.exec_bind_ok] at exec
      obtain ⟨scopes, later, asked, exec⟩ := exec
      by_cases stopped : scopes ≠ []
      · rw [if_pos stopped] at exec
        cases Except.ok.inj exec.1
      · rw [if_neg stopped] at exec
        cases email with
        | none => cases Except.ok.inj exec.1
        | some email =>
            dsimp only at exec
            rw [Program.exec_bind_ok] at exec
            obtain ⟨suppressed, last, _, exec⟩ := exec
            split_ifs at exec
            · cases Except.ok.inj exec.1
            · obtain rfl := Option.some.inj (Except.ok.inj exec.1)
              refine stopped (halted_answer covers (fun db => ?_) asked)
              rw [Txn.view_record]
              exact unwritten db

/-- Nothing that is reissued is covered. -/
theorem reissue_halted {platform : Platform} {touchId : Uuid} {outcome : Except Exc ClaimResult}
    (unwritten : ∀ db, (a.txn.view db).controlFlags = db.controlFlags)
    (exec : Program.Exec (whileHalted scope) (reissue (pgDispatchStore platform) touchId) a
      outcome b) :
    (∃ refusal, outcome = .ok (.refused refusal)) ∨
      ∃ claimed, outcome = .ok (.claimed claimed) ∧ ¬ Covers scope claimed.tenant := by
  unfold reissue at exec
  rw [Program.exec_bind] at exec
  rcases exec with ⟨loaded, middle, first, exec⟩ | ⟨error, _, first⟩
  · cases loaded with
    | error error => exact Or.inl ⟨_, exec.1⟩
    | ok snapshot =>
        cases snapshot with
        | none => exact Or.inl ⟨_, exec.1⟩
        | some snapshot =>
            refine Or.inr ⟨_, exec.1, ?_⟩
            rw [Program.exec_handle] at first
            rcases first with ⟨value, same, loads⟩ | ⟨error, failed, _, handles⟩
            · obtain rfl := Except.ok.inj same
              rw [Program.exec_bind_ok] at loads
              obtain ⟨found, last, loads, rest⟩ := loads
              obtain rfl := Except.ok.inj (Except.ok.inj rest.1)
              exact load_halted unwritten loads
            · cases Except.ok.inj handles.1
  · rw [Program.exec_handle] at first
    rcases first with ⟨_, impossible, _⟩ | ⟨_, _, _, handles⟩
    · cases impossible
    · cases handles.1

theorem halted_step {rule : Condition} {action : Act} {world after : World}
    (unresumed : Unresumed scope world action)
    (halted : Halted scope world.committed) (advance : Advance site rule world after action) :
    Halted scope after.committed := by
  cases advance with
  | idle same =>
      rw [same]
      exact halted
  | clock ticks moved =>
      rw [moved]
      exact halted
  | commit index session out found commits since wrote path =>
      exact flag_of_path path halted fun actor which =>
        unresumed index session out actor rfl found commits which

/-- From a halt of everything or of a tenant until a human resumes it, whatever runs,
no claim and no reissue hands out a touch of that tenant. -/
theorem halt_holds {start halt world : World} (quiet : start.sessions = [])
    (linked : Linked start.committed.ledger) (run : Run site unrestricted start halt)
    (halted : Halted scope halt.committed) (onward : Run site (Unresumed scope) halt world) :
    Halted scope world.committed ∧
    (∀ db tenant, scope ∈ haltedScopesIn db tenant ↔ Halted scope db ∧ Covers scope tenant) ∧
    ∀ a b : Spot, (∀ db, (a.txn.view db).controlFlags = db.controlFlags) →
      (∀ touch outcome, Covers scope touch.tenant →
        Program.Exec (whileHalted scope)
          (claim site.runtime (pgGateStore site.platform) touch) a outcome b →
        ∃ refusal, outcome = .ok (.refused refusal)) ∧
      ∀ touchId outcome,
        Program.Exec (whileHalted scope) (reissue (pgDispatchStore site.platform) touchId) a
          outcome b →
        (∃ refusal, outcome = .ok (.refused refusal)) ∨
          ∃ claimed, outcome = .ok (.claimed claimed) ∧ ¬ Covers scope claimed.tenant := by
  obtain ⟨sane, _⟩ := invariant_of_advances (fun _ => True) vouched_free
    (fun _ _ _ _ _ _ _ _ => trivial) quiet linked trivial run
  obtain ⟨_, kept⟩ := invariant_onward (fun world => Halted scope world.committed) vouched_free
    (fun _ _ _ _ halted unresumed _ advance => halted_step unresumed halted advance)
    sane halted onward
  refine ⟨kept, fun db tenant => mem_haltedScopes_iff db scope tenant, ?_⟩
  intro a b unwritten
  exact ⟨fun touch outcome covers exec => claim_halted covers unwritten exec,
    fun touchId outcome exec => reissue_halted unwritten exec⟩

/-- A halt of everything holds in the sample world. -/
theorem halt_holds_globally : ∃ world, Run sampleDeployment unrestricted sampleWorld world ∧
    Halted globalScope world.committed ∧
    ∀ a b : Spot, (∀ db, (a.txn.view db).controlFlags = db.controlFlags) →
      ∀ touch outcome, Covers globalScope touch.tenant →
        Program.Exec (whileHalted globalScope)
          (claim sampleDeployment.runtime (pgGateStore sampleDeployment.platform) touch) a
          outcome b →
        ∃ refusal, outcome = .ok (.refused refusal) := by
  have tried : (play (halted ++ [go 0 1])).any (fun world =>
      (world.committed.controlFlags.lookup globalScope).isSome) = true := by decide +kernel
  obtain ⟨world, run, seen⟩ := run_of_tried tried
  have set : Halted globalScope world.committed := by
    obtain ⟨flag, found⟩ := Option.isSome_iff_exists.1 seen
    unfold Halted
    rw [found]
    nofun
  obtain ⟨holds, _, refused⟩ := halt_holds rfl sample_linked run set Relation.ReflTransGen.refl
  exact ⟨world, run, holds, fun a b unwritten => (refused a b unwritten).1⟩

/-- A kill switch halts the domain of the sample mailbox. -/
def domainHalted : List Move :=
  [begin (.halt "acme.example" "system:killswitch" "halted"), go 0 5]

/-- Nobody has resumed anything. -/
def neverResumed (world : World) : Bool :=
  world.log.all fun op =>
    match op with
    | .resume _ _ => false
    | _ => true

theorem domain_halt_ignored : ∃ halt world,
    Run sampleDeployment unrestricted sampleWorld halt ∧
    Run sampleDeployment unrestricted halt world ∧
    Halted "acme.example" halt.committed ∧ neverResumed world = true ∧
    (halt.committed.touches.lookup 4).map Touch.status = some .drafted ∧
    (world.committed.touches.lookup 4).map Touch.status = some .dispatched ∧
    (world.committed.touches.lookup 4).bind Touch.mailbox = some "m@acme.example" := by
  have tried : (play domainHalted).any (fun halt =>
      ((service sampleDeployment).script [begin (.lease .deliver), go 1 38 200] halt).any
        fun world : World =>
          (halt.committed.controlFlags.lookup "acme.example").isSome && neverResumed world &&
          decide ((halt.committed.touches.lookup 4).map Touch.status = some .drafted) &&
          decide ((world.committed.touches.lookup 4).map Touch.status = some .dispatched) &&
          decide ((world.committed.touches.lookup 4).bind Touch.mailbox =
            some "m@acme.example")) = true := by
    decide +kernel
  obtain ⟨halt, world, run, played, seen⟩ := runs_of_tried tried
  simp only [Bool.and_eq_true, decide_eq_true_eq] at seen
  obtain ⟨⟨⟨⟨set, unresumed⟩, drafted⟩, sent⟩, mailbox⟩ := seen
  refine ⟨halt, world, run, run_of_further played, ?_, unresumed, drafted, sent, mailbox⟩
  obtain ⟨flag, found⟩ := Option.isSome_iff_exists.1 set
  unfold Halted
  rw [found]
  nofun

end Halts

end OpenReachout
