import OpenReachout.Core.Bandit
import OpenReachout.Outreach.Laws

/-!
# Guardrails

A variant that is complained about, unsubscribed from or bounced too often is paused. The
limits are looked at when one of these is counted, not when a touch is: a variant that comes
to its tenth trial with something counted against it is over its limits and goes on.
-/

namespace OpenReachout

open Relational Relational.Abstraction Relational.Program Relational.Discipline Text

set_option autoImplicit false

section Limits

variable {row : VariantStats}

/-- One of the rates, as an exact fraction of the trials, is over its limit. -/
def VariantStats.Exceeds (row : VariantStats) : Prop :=
  2 / 1000 < (row.complaints : Rat) / row.trials ∨ 2 / 100 < (row.unsubs : Rat) / row.trials ∨
    5 / 100 < (row.bounces : Rat) / row.trials

/-- What the limits allow, or paused. -/
def VariantStats.Guarded (row : VariantStats) : Prop :=
  row.paused = true ∨ guardrailBreaches row = []

theorem rate_exceeds_iff (limit scale count : Nat) {trials : Nat} (some_ : 0 < trials)
    (positive : 0 < scale) :
    (limit : Rat) / scale < (count : Rat) / trials ↔ limit * trials < scale * count := by
  have trialled : (0 : Rat) < trials := Nat.cast_pos.2 some_
  have scaled : (0 : Rat) < scale := Nat.cast_pos.2 positive
  rw [div_lt_div_iff₀ scaled trialled, mul_comm (count : Rat)]
  exact_mod_cast Iff.rfl

theorem breaches_eq_nil : guardrailBreaches row = [] ↔ row.trials < guardrailMinTrials ∨
    1000 * row.complaints ≤ 2 * row.trials ∧ 100 * row.unsubs ≤ 2 * row.trials ∧
      100 * row.bounces ≤ 5 * row.trials := by
  unfold guardrailBreaches
  by_cases few : row.trials < guardrailMinTrials
  · rw [if_pos few]
    simp [few]
  · rw [if_neg few, List.append_eq_nil_iff, List.append_eq_nil_iff]
    simp [few, and_assoc]

/-- The limits of the code are those of the rates. -/
theorem breaches_iff (enough : guardrailMinTrials ≤ row.trials) :
    guardrailBreaches row ≠ [] ↔ row.Exceeds := by
  have some_ : 0 < row.trials := by
    unfold guardrailMinTrials at enough
    omega
  have complaints := rate_exceeds_iff 2 1000 row.complaints some_ (by decide)
  have unsubs := rate_exceeds_iff 2 100 row.unsubs some_ (by decide)
  have bounces := rate_exceeds_iff 5 100 row.bounces some_ (by decide)
  push_cast at complaints unsubs bounces
  unfold VariantStats.Exceeds
  rw [complaints, unsubs, bounces, Ne, breaches_eq_nil]
  omega

theorem guarded_fresh : VariantStats.Guarded {} := Or.inr rfl

/-- What is counted besides the trials. -/
def VariantStats.Spotless (row : VariantStats) : Prop :=
  row.complaints = 0 ∧ row.unsubs = 0 ∧ row.bounces = 0

/-- A further trial breaks a limit only where it is the tenth. -/
theorem guarded_tried (guarded : row.Guarded)
    (timely : row.trials + 1 = guardrailMinTrials → row.paused = false → row.Spotless) :
    row.tried.Guarded := by
  by_cases paused : row.paused = true
  · exact Or.inl paused
  have within_ := breaches_eq_nil.1 (guarded.resolve_left paused)
  right
  rw [breaches_eq_nil]
  unfold VariantStats.tried
  dsimp only
  by_cases tenth : row.trials + 1 = guardrailMinTrials
  · obtain ⟨complaints, unsubs, bounces⟩ := timely tenth (by simpa using paused)
    omega
  · omega

end Limits

section Guarding

/-- What becomes of a variant when nothing is tried: it stays paused, and within the limits. -/
structure Steady (old new : VariantStats) : Prop where
  paused : old.paused = true → new.paused = true
  trials : new.trials = old.trials
  guarded : old.Guarded → new.Guarded

def Guarding (before after : Database) : Prop :=
  ∀ key, Steady (before.standing key) (after.standing key)

theorem steady_refl (row : VariantStats) : Steady row row := ⟨id, rfl, id⟩

theorem guarding_timeline : Timeline Guarding where
  refl _ _ := steady_refl _
  trans first second key :=
    ⟨fun paused => (second key).paused ((first key).paused paused),
      (second key).trials.trans (first key).trials,
      fun guarded => (second key).guarded ((first key).guarded guarded)⟩

theorem guarding_of_unscored {before after : Database} (same : Unscored before after) :
    Guarding before after := by
  intro key
  unfold Database.standing
  rw [same]
  exact steady_refl _

theorem guarding_of_key {before after : Database} (key : String × String)
    (same : ∀ other, other ≠ key → after.standing other = before.standing other)
    (steady : Steady (before.standing key) (after.standing key)) : Guarding before after := by
  intro other
  by_cases named : other = key
  · rw [named]
    exact steady
  · rw [same other named]
    exact steady_refl _

theorem guarding_counted {before after : Database} {key : String × String}
    {change : VariantStats → VariantStats}
    (stats : after.variantStats = counted change (some key) before.variantStats)
    (steady : ∀ row, Steady row (change row)) : Guarding before after := by
  refine guarding_of_key key (fun other apart => ?_) ?_
  · rw [standing_counted stats, if_neg fun same => apart (Option.some.inj same).symm]
  · rw [standing_counted stats, if_pos rfl]
    exact steady _

theorem steady_credited (row : VariantStats) : Steady row row.credited := ⟨id, rfl, id⟩

theorem credits_guarding (tenant variantId : String) :
    Leads Guarding (recordSuccess tenant variantId) where
  returns := by
    refine (ensures_countUp tenant variantId VariantStats.credited).mono ?_
    rintro start _ before after rfl
    exact guarding_counted rfl steady_credited
  raises := raises_perform _ _

theorem count_steady (kind : Guardrail) (row : VariantStats) :
    ((kind.count row).paused = row.paused) ∧ (kind.count row).trials = row.trials := by
  cases kind <;> exact ⟨rfl, rfl⟩

/-- The row of a variant with one more count against it. -/
structure Observed (kind : Guardrail) (key : String × String) (before after : Database) : Prop where
  row : after.variantStats.lookup key = some (kind.count (before.standing key))
  others : ∀ other, other ≠ key → after.standing other = before.standing other

theorem ensures_observe (tenant variantId : String) (kind : Guardrail) :
    bare.Ensures [] (countUp tenant variantId kind.count) fun _ _ before after =>
      Observed kind (tenant, variantId) before after := by
  refine (ensures_countUp tenant variantId kind.count).mono ?_
  intro start _ before after wrote
  have stats : after.variantStats =
      counted kind.count (some (tenant, variantId)) before.variantStats := by
    rw [wrote]
  refine ⟨?_, fun other apart => ?_⟩
  · rw [stats]
    exact lookup_counted _ _ _
  · rw [standing_counted stats, if_neg fun same => apart (Option.some.inj same).symm]

variable {kind : Guardrail} {key : String × String} {before middle after : Database}

/-- What is observed is found: the row is locked. -/
theorem Observed.read {model : Abstraction Database RowLock Mark} {start seen : Database}
    {held : List RowLock} (observed : Observed kind key before middle)
    (locked : RowLock.variantStats key ∈ held)
    (glimpse : model.Glimpse held start middle seen) :
    seen.variantStats.lookup key = some (kind.count (before.standing key)) :=
  (glimpse.row Tables.variantStats locked).symm.trans observed.row

theorem Observed.guarding (observed : Observed kind key before middle)
    (row : VariantStats) (same : after.standing key = row)
    (others : ∀ other, other ≠ key → after.standing other = middle.standing other)
    (trials : row.trials = (kind.count (before.standing key)).trials)
    (paused : (before.standing key).paused = true → row.paused = true) (guarded : row.Guarded) :
    Guarding before after := by
  refine guarding_of_key key (fun other apart => ?_) ?_
  · rw [others other apart, observed.others other apart]
  · rw [same]
    exact ⟨paused, trials.trans (count_steady kind _).2, fun _ => guarded⟩

/-- What counts against a variant looks at the limits, and pauses it where one is broken. -/
theorem guards_guarding (tenant variantId : String) (kind : Guardrail) :
    Leads Guarding (recordGuardrail tenant variantId kind) where
  returns := by
    unfold recordGuardrail
    refine ensures_bind_taking (ensures_observe tenant variantId kind)
      (fun _ _ _ _ _ => trivial) (takes_upsertRow Tables.variantStats _ _ _ _) fun _ => ?_
    refine ensures_bind (ensures_query _) (fun _ _ _ _ _ => trivial) fun read => ?_
    cases read with
    | none =>
        refine ensures_pure _ ?_
        rintro start _ middle ⟨seen, busy, glimpse, none, rfl⟩ before observed
        rw [observed.read (by simp) glimpse] at none
        cases none
    | some row =>
        dsimp only
        split_ifs with broken
        · refine ensures_bind (ensures_update Tables.variantStats _ _) (fun _ _ _ _ _ => trivial)
            fun rows => ?_
          refine (ensures_appendRow Tables.auditEvents _).mono ?_
          rintro start _ last after ⟨_, rfl⟩ middle ⟨seen, busy, updated⟩ _
            ⟨first, _, glimpse, found, rfl⟩ before observed
          rw [observed.read (by simp) glimpse] at found
          obtain rfl := Option.some.inj found
          have there := observed.read (by simp) updated.glimpse
          have hit := updated.hit there (decide_eq_true rfl)
          rcases updated.single one_key with
            ⟨none_hit, _⟩ | ⟨key, old, _, kept, _, picked, table, rfl, lookups⟩
          · rw [none_hit] at hit
            cases hit
          · obtain rfl := of_decide_eq_true picked
            obtain rfl := Option.some.inj (kept.symm.trans observed.row)
            refine observed.guarding
              { kind.count (before.standing (tenant, variantId)) with paused := true } ?_
              (fun other apart => ?_) rfl (fun _ => rfl) (Or.inl rfl)
            · change (table.lookup _).getD {} = _
              rw [lookups, Function.update_self]
              rfl
            · change (table.lookup _).getD {} = _
              rw [lookups, Function.update_of_ne apart]
              rfl
        · refine ensures_pure _ ?_
          rintro start _ middle ⟨seen, busy, glimpse, found, rfl⟩ before observed
          rw [observed.read (by simp) glimpse] at found
          obtain rfl := Option.some.inj found
          refine observed.guarding _ ?_ (fun _ _ => rfl) rfl ?_ ?_
          · unfold Database.standing
            rw [observed.row]
            rfl
          · rw [(count_steady kind _).1]
            exact id
          · by_cases paused : (kind.count (before.standing (tenant, variantId))).paused = true
            · exact Or.inl paused
            · right
              simpa [paused] using broken
  raises := by
    unfold recordGuardrail
    refine raises_of_sure (sure_bind (sure_perform _ _) fun _ => sure_bind (sure_perform _ _)
      fun row => ?_)
    cases row with
    | none => exact sure_pure _
    | some row =>
        dsimp only
        split_ifs
        · exact sure_bind (sure_perform _ _) fun _ => sure_perform _ _
        · exact sure_pure _

def guarding : Conduct := leading guarding_timeline

theorem permissive_guarding : Permissive guarding.allowed :=
  permissive_following guarding_timeline fun _ _ => guarding_of_unscored

/-- Nothing but a delivery tries a variant. -/
theorem serves_guarding (site : Deployment) {op : Op} (untried : ¬ op.tries) :
    Serves site guarding op :=
  (show Permissive guarding.allowed from permissive_guarding).serves
    (catching_leading guarding_timeline)
    (fun _ => ⟨fun _ _ _ _ db => guarding_timeline.refl db⟩)
    (fun _ => ⟨fun _ _ db => guarding_timeline.refl db⟩)
    (fun _ => ⟨fun _ _ db => guarding_timeline.refl db⟩) (fun _ _ _ _ => trivial)
    (fun tries => absurd tries untried) (fun _ => credits_guarding) (fun _ => guards_guarding)
    (fun _ => judges_of_changes fun _ _ _ _ db => guarding_timeline.refl db)
    (fun _ _ _ _ _ db => guarding_timeline.refl db)

end Guarding

section Runs

variable {site : Deployment} {world : World}

/-- The step commits a delivery of the touch that sends it out. -/
def Dispatching (world : World) (action : Act) (touchId : Uuid) : Prop :=
  ∃ index session out item next, action = .finish index ∧ world.session index = some session ∧
    Committing session out ∧ session.op.delivers touchId ∧
    world.committed.touches.lookup touchId = some item ∧ item.status = .drafted ∧
    (session.txn.view world.committed).touches.lookup touchId = some next ∧
    next.status = .dispatched

/-- A step leaves the variants within their limits, or it counts one trial. -/
theorem guarding_or_tried {action : Act} {after : World} (sane : Sane site world)
    (step : (service site).act action world = some after) :
    Guarding world.committed after.committed ∨ ∃ touchId, Dispatching world action touchId ∧
      after.committed.variantStats = counted VariantStats.tried
        (world.committed.ledger.counts touchId) world.committed.variantStats := by
  rcases commit_or_idle step with ⟨index, session, out, rfl, found, commits, wrote⟩ |
    ⟨_, time, moved⟩
  · by_cases tries : session.op.tries
    · obtain ⟨op, program, txn⟩ := session
      cases op with
      | handle job =>
          have delivery : (outreach site (fun _ _ => True) (.handle job)).Ensures [] _ _ :=
            ensures_delivery tries
          obtain ⟨_, touchId, which, _, delivered⟩ := ensures_commit sane.sound sane.begun found
            commits (fun _ _ => trivial) delivery
          rw [wrote]
          cases delivered with
          | unsent stats kept => exact Or.inl (guarding_of_unscored stats)
          | sent item next touch drafted there dispatched _ stats =>
              exact Or.inr ⟨touchId, ⟨index, _, out, item, next, rfl, found, commits, which, touch,
                drafted, there, dispatched⟩, stats⟩
      | _ => exact tries.elim
    · obtain ⟨op, program, txn⟩ := session
      obtain ⟨rfl, intact⟩ := commits
      have leads : Leads Guarding (op.program site) := keeps_program (serves_guarding site tries)
      have sound := sane.sound.weaken fun _ _ _ => trivial
      have goes := bare_commit sound found intact leads.returns
      rw [wrote]
      exact Or.inl goes
  · rw [moved]
    exact Or.inl (guarding_of_unscored rfl)

/-- Every variant over its limits is paused. -/
def Limited (db : Database) : Prop :=
  ∀ key row, db.variantStats.lookup key = some row → guardrailMinTrials ≤ row.trials →
    row.Exceeds → row.paused = true

theorem limited_iff {db : Database} : Limited db ↔ ∀ key, (db.standing key).Guarded := by
  constructor
  · intro limited key
    unfold Database.standing
    cases found : db.variantStats.lookup key with
    | none => exact guarded_fresh
    | some row =>
        change row.Guarded
        by_cases few : row.trials < guardrailMinTrials
        · exact Or.inr (breaches_eq_nil.2 (Or.inl few))
        · by_cases exceeds : row.Exceeds
          · exact Or.inl (limited key row found (by omega) exceeds)
          · right
            by_contra broken
            exact exceeds ((breaches_iff (by omega)).1 broken)
  · intro guarded key row found enough exceeds
    have fine := guarded key
    unfold Database.standing at fine
    rw [found] at fine
    exact fine.resolve_right ((breaches_iff enough).2 exceeds)

/-- Paused variants stay paused. -/
def Pausing (before after : Database) : Prop :=
  ∀ key, (before.standing key).paused = true → (after.standing key).paused = true

/-- A delivery that brings a variant to its tenth trial finds nothing counted against it. -/
def Timely (world : World) (action : Act) : Prop :=
  ∀ touchId key, Dispatching world action touchId →
    world.committed.ledger.counts touchId = some key →
    (world.committed.standing key).trials + 1 = guardrailMinTrials →
    (world.committed.standing key).paused = false → (world.committed.standing key).Spotless

theorem pausing_of_step {action : Act} {after : World} (sane : Sane site world)
    (step : (service site).act action world = some after) :
    Pausing world.committed after.committed := by
  rcases guarding_or_tried sane step with guarding | ⟨touchId, _, stats⟩
  · exact fun key => (guarding key).paused
  · intro key paused
    rw [standing_counted stats]
    split_ifs
    · exact paused
    · exact paused

theorem limited_of_step {action : Act} {after : World} (sane : Sane site world)
    (limited : Limited world.committed) (timely : Timely world action)
    (step : (service site).act action world = some after) : Limited after.committed := by
  rw [limited_iff] at limited ⊢
  intro key
  rcases guarding_or_tried sane step with guarding | ⟨touchId, dispatching, stats⟩
  · exact (guarding key).guarded (limited key)
  · rw [standing_counted stats]
    split_ifs with counts
    · exact guarded_tried (limited key) (timely touchId key dispatching counts)
    · exact limited key

/-- Of the arms that a selection reads, those of paused variants are paused. -/
theorem selection_unpaused {db : Database} {tenant : String} {pool : List VariantSpec}
    {arms : List (String × VariantStats)} {successes trials : Nat}
    {b : Point Database RowLock Mark Call}
    (asks : Asks Pausing (selectVariant tenant pool) (Point.begin db)
      (.thompson arms successes trials) b) {arm : VariantArm}
    (inside : (arm.variantId, arm.stats) ∈ arms) (live : arm.stats.paused = false) :
    (db.standing (tenant, arm.variantId)).paused = false := by
  obtain ⟨first, _, pausing, _, rfl, _⟩ := selection_asks asks
  obtain ⟨variant, _, same⟩ := List.mem_map.1 inside
  obtain ⟨named, stats⟩ := Prod.mk.inj same
  change first.standing (tenant, variant.id) = arm.stats at stats
  rw [named] at stats
  cases paused : (db.standing (tenant, arm.variantId)).paused with
  | false => rfl
  | true =>
      have still := pausing (tenant, arm.variantId) paused
      rw [stats, live] at still
      cases still

/-- Where no delivery brings a variant to its tenth trial after something was counted against
it, every variant over its limits is paused in every state that is reached. No step ends a
pause, and whatever the sampler draws, no paused variant is selected. -/
theorem guardrails_hold {start : World} (quiet : start.sessions = [])
    (linked : Linked start.committed.ledger) (limited : Limited start.committed)
    (run : Run site Timely start world) :
    Limited world.committed ∧
    (∀ action after, (service site).act action world = some after →
      Pausing world.committed after.committed) ∧
    ∀ tenant pool arms successes trials b,
      Asks Pausing (selectVariant tenant pool) (Point.begin world.committed)
        (.thompson arms successes trials) b →
      ∀ candidates : List VariantArm,
        candidates.map (fun arm => (arm.variantId, arm.stats)) = arms →
        ∀ effects draw arm,
          select effects (globalSuccessRate successes trials) draw candidates = .ok arm →
            (world.committed.standing (tenant, arm.variantId)).paused = false := by
  have free : ∀ world action, Timely world action →
      Vouched (fun _ _ _ _ => True) world action := vouched_free
  obtain ⟨sane, limited⟩ := invariant_of_advances (fun world => Limited world.committed) free
    (fun world action after sane limited timely step _ =>
      limited_of_step sane limited timely step) quiet linked limited run
  refine ⟨limited, fun action after step => pausing_of_step sane step, ?_⟩
  intro tenant pool arms successes trials b asks candidates same effects draw arm selected
  obtain ⟨inside, live⟩ := select_live selected
  refine selection_unpaused asks ?_ live
  rw [← same]
  exact List.mem_map_of_mem inside

end Runs

section Sample

/-- Nine touches of the variant are out, and one of them may be complained about. -/
def triedDatabase : Database :=
  { sampleDatabase with
    entities := sampleDatabase.entities.insert 12 { tenantId := 1, displayName := some "Bo" }
    prospects := sampleDatabase.prospects.insert 13 { sampleProspect with
      entityId := 12, state := .contacted
      emailRaw := some "bo@clinic.example", emailCanonical := some "bo@clinic.example" }
    touches := sampleDatabase.touches.insert 14
      { sampleTouch with prospectId := 13, status := .dispatched }
    variantStats := Table.empty.insert ("acme", "v0") { trials := 9 } }

def triedWorld : World := { committed := triedDatabase }

def complains : List Move :=
  [begin (.ingestEvents [⟨"e1", .complaint, some 14, []⟩]), go 0 12]

def tenthTrial (index : Nat) : List Move := [begin (.lease .deliver), go index 38 300]

theorem tried_linked : Linked triedDatabase.ledger where
  entityOf id lead found := by
    change ((Table.empty.insert 3 sampleProspect).insert 13 _).lookup id = some lead at found
    rw [Table.lookup_insert] at found
    split_ifs at found
    · obtain rfl := Option.some.inj found
      rfl
    · rw [Table.lookup_insert] at found
      split_ifs at found
      · obtain rfl := Option.some.inj found
        rfl
      · cases found
  prospectOf id item found := by
    change ((Table.empty.insert 4 sampleTouch).insert 14 _).lookup id = some item at found
    rw [Table.lookup_insert] at found
    split_ifs at found
    · obtain rfl := Option.some.inj found
      rfl
    · rw [Table.lookup_insert] at found
      split_ifs at found
      · obtain rfl := Option.some.inj found
        rfl
      · cases found
  taskProspect id task found := by cases found
  taskTouch id task found := by cases found

theorem tried_limited : Limited triedDatabase := by
  intro key row found enough _
  change (Table.empty.insert ("acme", "v0") _).lookup key = some row at found
  rw [Table.lookup_insert] at found
  split_ifs at found
  · obtain rfl := Option.some.inj found
    exact absurd enough (by decide)
  · cases found

/-- No variant is about to come to its tenth trial with something counted against it. -/
def timelyHere (world : World) (_ : Act) : Bool :=
  (world.committed.variantStats.select fun _ row =>
    row.trials + 1 = guardrailMinTrials && !row.paused &&
      !(row.complaints = 0 && row.unsubs = 0 && row.bounces = 0)).isEmpty

theorem timely_of_here {world : World} {action : Act} (here : timelyHere world action = true) :
    Timely world action := by
  intro touchId key _ _ tenth live
  cases found : world.committed.variantStats.lookup key with
  | none =>
      unfold Database.standing
      rw [found]
      exact ⟨rfl, rfl, rfl⟩
  | some row =>
      have standing : world.committed.standing key = row := by
        unfold Database.standing
        rw [found]
        rfl
      rw [standing] at tenth live ⊢
      by_contra spotted
      unfold timelyHere at here
      have member := (Table.mem_select_iff world.committed.variantStats (fun _ row =>
        row.trials + 1 = guardrailMinTrials && !row.paused &&
          !(row.complaints = 0 && row.unsubs = 0 && row.bounces = 0)) key row).2 ⟨found, by
            unfold VariantStats.Spotless at spotted
            simp [tenth, live]
            tauto⟩
      rw [List.isEmpty_iff.1 here] at member
      cases member

/-- The tenth trial of a variant that nothing is counted against. -/
theorem tenth_trial : ∃ world, Run sampleDeployment Timely triedWorld world ∧
    (world.committed.standing ("acme", "v0")).trials = guardrailMinTrials ∧
    Limited world.committed := by
  have tried : ((service sampleDeployment).scriptChecked timelyHere (tenthTrial 0) triedWorld).any
      (fun world => (world.committed.standing ("acme", "v0")).trials = guardrailMinTrials) = true := by
    decide +kernel
  obtain ⟨world, played, trials⟩ := (Option.any_eq_true _ _).1 tried
  have run : Run sampleDeployment Timely triedWorld world :=
    run_of_scriptChecked (service sampleDeployment) (fun _ _ => timely_of_here) played
  exact ⟨world, run, of_decide_eq_true trials,
    (guardrails_hold rfl tried_linked tried_limited run).1⟩

/-- The tenth trial of one that is complained about before: it is over its limit, and goes on. -/
theorem late_trial : ∃ world, Run sampleDeployment unrestricted triedWorld world ∧
    ¬ Limited world.committed := by
  have tried : ((service sampleDeployment).script (complains ++ tenthTrial 1) triedWorld).any
      (fun world => (world.committed.variantStats.lookup ("acme", "v0")).any fun row =>
        row.trials = 10 && row.complaints = 1 && !row.paused) = true := by
    decide +kernel
  obtain ⟨world, played, seen⟩ := (Option.any_eq_true _ _).1 tried
  obtain ⟨row, found, counts⟩ := (Option.any_eq_true _ _).1 seen
  simp only [Bool.and_eq_true, decide_eq_true_eq, Bool.not_eq_true'] at counts
  obtain ⟨⟨trials, complaints⟩, live⟩ := counts
  refine ⟨world, run_of_further played, fun limited => ?_⟩
  have exceeds : row.Exceeds := by
    left
    rw [trials, complaints]
    norm_num
  have paused := limited ("acme", "v0") row found (by rw [trials]; decide) exceeds
  rw [live] at paused
  cases paused

end Sample

end OpenReachout
