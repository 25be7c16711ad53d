import OpenReachout.Properties.Stops

/-!
# Suppressed addresses

A suppression without an end holds for good, as long as a cooldown is not written over
a row that outlasts it: the two cooldowns replace the row they find, whatever it says.
-/

namespace OpenReachout

open Relational Text

set_option autoImplicit false

variable {site : Deployment} {op : Op} {committed start l after : Ledger} {key : String × String}

section Rows

/-- Whenever the old row bars an address, so does the new one. -/
def Suppression.Outlasts (new old : Suppression) : Prop :=
  ∀ time, old.active time = true → new.active time = true

theorem outlasts_trans {first second third : Suppression} (one : second.Outlasts first)
    (two : third.Outlasts second) : third.Outlasts first :=
  fun time active => two time (one time active)

theorem outlasts_of_lasting (old : Suppression) {new : Suppression} (lasting : new.expiresAt = none) :
    new.Outlasts old := by
  intro time _
  unfold Suppression.active
  rw [lasting]
  rfl

theorem active_of_lasting {row : Suppression} (lasting : row.expiresAt = none) (time : Time) :
    row.active time = true := by
  unfold Suppression.active
  rw [lasting]
  rfl

/-- Only a row without an end outlasts one. -/
theorem lasting_of_outlasts {new old : Suppression} (outlasts : new.Outlasts old)
    (lasting : old.expiresAt = none) : new.expiresAt = none := by
  cases ends : new.expiresAt with
  | none => rfl
  | some until_ =>
      have active := outlasts until_ (active_of_lasting lasting until_)
      unfold Suppression.active at active
      rw [ends] at active
      simp at active

/-- A cooldown finds no row of its address that bars it now and for longer. -/
def cooldownOutlasts (_ start : Ledger) : Mark → Ledger → Prop
  | .cooldown address months, seen =>
      ∀ row, seen.suppressions (address, globalScope) = some row → row.active start.clock = true →
        ∃ until_, row.expiresAt = some until_ ∧ until_ ≤ addMonths months start.clock
  | _, _ => True

theorem outlasts_of_until {old new : Suppression} {until_ later : Time}
    (old_until : old.expiresAt = some until_) (new_until : new.expiresAt = some later)
    (ahead : until_ ≤ later) : new.Outlasts old := by
  intro time active
  unfold Suppression.active at active ⊢
  rw [old_until] at active
  rw [new_until]
  simp only [Option.all_some, decide_eq_true_eq] at active ⊢
  exact Nat.lt_of_lt_of_le active ahead

end Rows

section Permanence

/-- What becomes of a row that bars its address: it is replaced by one that outlasts
it, or deleted by a forget that has buried the address. -/
structure Upheld (site : Deployment) (op : Op) (key : String × String) (old : Suppression)
    (after : Ledger) : Prop where
  replaced : ∀ new, after.suppressions key = some new → new.Outlasts old
  deleted : after.suppressions key = none →
    after.buried site.platform key.1 ∧ ∃ ref, op = .forget ref

theorem upheld_deed {old : Suppression} (upheld : Upheld site op key old l)
    (active : old.active start.clock = true)
    (deed : Deed site (cooldownOutlasts committed start) op start l after) : Upheld site op key old after := by
  have onward : Later l after := deed_later _ _ _ _ deed
  have buried := Ledger.buried_later site.platform key.1 l after onward
  have kept : after.suppressions key = l.suppressions key → Upheld site op key old after := by
    intro same
    refine ⟨fun new present => ?_, fun absent => ?_⟩
    · rw [same] at present
      exact upheld.replaced new present
    · rw [same] at absent
      obtain ⟨tomb, forgets⟩ := upheld.deleted absent
      exact ⟨buried tomb, forgets⟩
  cases barring_of_deed deed with
  | same same => exact kept (congrFun same key)
  | suppress address scope reason idle told wrote =>
      by_cases same : key = (address, scope)
      · rw [← same] at wrote
        have written := congrFun wrote key
        rw [Function.update_self] at written
        refine ⟨fun new present => ?_, fun absent => ?_⟩
        · obtain rfl := Option.some.inj (written.symm.trans present)
          exact outlasts_of_lasting old rfl
        · rw [written] at absent
          cases absent
      · apply kept
        rw [wrote, Function.update_of_ne same]
  | cooldown address reason months handles vouched wrote =>
      by_cases same : key = (address, globalScope)
      · obtain ⟨seen, rule, shown⟩ := vouched
        rw [← same] at wrote shown
        have written := congrFun wrote key
        rw [Function.update_self] at written
        refine ⟨fun new present => ?_, fun absent => ?_⟩
        · obtain rfl := Option.some.inj (written.symm.trans present)
          cases there : l.suppressions key with
          | none =>
              obtain ⟨_, ref, forgets⟩ := upheld.deleted there
              obtain ⟨job, which⟩ := handles
              rw [which] at forgets
              cases forgets
          | some middle =>
              have outlasts := upheld.replaced middle there
              rw [there, same] at shown
              obtain ⟨until_, ends, ahead⟩ := rule middle shown (outlasts start.clock active)
              exact outlasts_trans outlasts
                (outlasts_of_until ends (Suppression.cooled_until _ _ _ _) ahead)
        · rw [written] at absent
          cases absent
      · apply kept
        rw [wrote, Function.update_of_ne same]
  | unsuppress ref address hash chosen which theirs hashed tomb wrote =>
      by_cases picked : chosen key = true
      · have cleared_ : after.suppressions key = none := by
          rw [wrote]
          unfold cleared
          rw [if_pos picked]
        refine ⟨fun new present => ?_, fun _ => ⟨⟨hash, ?_, tomb⟩, ref, which⟩⟩
        · rw [cleared_] at present
          cases present
        · rw [theirs key picked]
          exact hashed
      · apply kept
        rw [wrote]
        unfold cleared
        rw [if_neg picked]

theorem upheld_path {old : Suppression} (found : l.suppressions key = some old)
    (active : old.active start.clock = true)
    (path : Relation.ReflTransGen (Deed site (cooldownOutlasts committed start) op start) l after) :
    Upheld site op key old after := by
  induction path with
  | refl =>
      refine ⟨fun new present => ?_, fun absent => ?_⟩
      · obtain rfl := Option.some.inj (found.symm.trans present)
        exact fun _ same => same
      · rw [found] at absent
        cases absent
  | tail _ deed induction => exact upheld_deed induction active deed

/-- The address is barred for good: by a row without an end, or as forgotten. -/
def Barred (site : Deployment) (key : String × String) (l : Ledger) : Prop :=
  (∃ row, l.suppressions key = some row ∧ row.expiresAt = none) ∨ l.buried site.platform key.1

theorem barred_path (barred : Barred site key l)
    (path : Relation.ReflTransGen (Deed site (cooldownOutlasts committed start) op start) l after) :
    Barred site key after := by
  rcases barred with ⟨row, found, lasting⟩ | buried
  · have upheld := upheld_path found (active_of_lasting lasting start.clock) path
    cases present : after.suppressions key with
    | none => exact Or.inr (upheld.deleted present).1
    | some new =>
        have outlasts := upheld.replaced new present
        exact Or.inl ⟨new, present, lasting_of_outlasts outlasts lasting⟩
  · exact Or.inr (Ledger.buried_later site.platform key.1 l after (path_later path) buried)

/-- What `is_suppressed` answers of an address that is barred. -/
theorem suppressedIn_of_barred {db : Database} {tenant hash : String} (time : Time)
    (barred : Barred site key db.ledger) (covers : Covers key.2 tenant)
    (hashed : tombstoneHash site.platform key.1 = .ok hash) :
    suppressedIn db time key.1 tenant hash = true := by
  unfold suppressedIn
  rw [Bool.or_eq_true]
  rcases barred with ⟨row, found, lasting⟩ | ⟨other, same, there⟩
  · left
    have picked : (key, row) ∈ db.suppressions.select fun other row =>
        other.1 = key.1 && (other.2 = globalScope || other.2 = tenant) && row.active time := by
      refine (Table.mem_select_iff _ _ _ _).2 ⟨found, ?_⟩
      simp only [Bool.and_eq_true, Bool.or_eq_true, decide_eq_true_eq]
      exact ⟨⟨trivial, covers⟩, active_of_lasting lasting time⟩
    cases rows : db.suppressions.select fun other row =>
        other.1 = key.1 && (other.2 = globalScope || other.2 = tenant) && row.active time with
    | nil =>
        rw [rows] at picked
        cases picked
    | cons entry rest => rfl
  · right
    obtain rfl := Except.ok.inj (same.symm.trans hashed)
    exact there

end Permanence

section Claims

variable {a b : Spot}

/-- What others may commit while the address is barred. -/
def whileBarred (site : Deployment) (key : String × String) (_ new : Database) : Prop :=
  Barred site key new.ledger

/-- The transaction has not touched what bars addresses. -/
def Unwritten (p : Spot) : Prop :=
  ∀ db, (p.txn.view db).suppressions = db.suppressions ∧
    (p.txn.view db).forgetTombstones = db.forgetTombstones

theorem barred_view (unwritten : Unwritten a) {db : Database} (barred : Barred site key db.ledger) :
    Barred site key (a.txn.view db).ledger := by
  obtain ⟨rows, tombs⟩ := unwritten db
  unfold Barred Ledger.buried Database.ledger at barred ⊢
  rw [rows, tombs]
  exact barred

theorem barred_answer {tenant : String} (covers : Covers key.2 tenant) (unwritten : Unwritten a)
    {answer : Bool}
    (exec : Program.Exec (whileBarred site key) (isSuppressed site.platform key.1 tenant) a
      (.ok answer) b) : answer = true := by
  unfold isSuppressed at exec
  rw [Program.exec_bind_ok] at exec
  obtain ⟨hash, middle, first, exec⟩ := exec
  cases hashed : tombstoneHash site.platform key.1 with
  | error error =>
      rw [hashed] at first
      cases first.1
  | ok other =>
      rw [hashed] at first
      obtain ⟨same, rfl⟩ := first
      obtain rfl := Except.ok.inj same
      obtain ⟨db, barred, _, _, _, effect, success, rfl, _⟩ :=
        (Program.exec_perform_ok _ _ _ _ _).1 exec
      obtain rfl := Except.ok.inj success
      exact suppressedIn_of_barred _ (barred_view unwritten barred) covers hashed

theorem unwritten_haltedScopes {rely : Database → Database → Prop} {tenant : String}
    {scopes : List String} (unwritten : Unwritten a)
    (exec : Program.Exec rely (haltedScopes tenant) a (.ok scopes) b) : Unwritten b := by
  obtain ⟨db, _, _, _, _, effect, success, _, rfl⟩ := (Program.exec_perform_ok _ _ _ _ _).1 exec
  obtain rfl := Except.ok.inj success
  intro other
  rw [Txn.view_record]
  exact unwritten other

/-- A claim that begins while the address is barred is refused. -/
theorem claim_barred {runtime : Runtime} {touch : DraftTouch} (address : touch.emailCanonical = key.1)
    (covers : Covers key.2 touch.tenant) (unwritten : Unwritten a)
    {outcome : Except Exc ClaimResult}
    (exec : Program.Exec (whileBarred site key) (claim runtime (pgGateStore site.platform) touch) a
      outcome b) : ∃ refusal, outcome = .ok (.refused refusal) := by
  have run : (Program.observation (whileBarred site key)).runs
      (claim runtime (pgGateStore site.platform) touch) a outcome b := exec
  cases outcome with
  | error error => exact (claim_never_raises run).elim
  | ok result =>
      cases result with
      | refused refusal => exact ⟨refusal, rfl⟩
      | claimed claimed =>
          obtain ⟨unhalted, unsuppressed, _, _, _, halt, suppression, _⟩ := claim_passed run
          rw [address] at suppression
          cases barred_answer covers (unwritten_haltedScopes unwritten halt) suppression

/-- While its row stands the trigger bars the address as well. -/
theorem rejected_of_lasting {db : Database} {row : Suppression} {item : Touch} (time : Time)
    (found : db.suppressions.lookup key = some row) (lasting : row.expiresAt = none)
    (addressed : (db.prospects.lookup item.prospectId).bind Prospect.emailCanonical = some key.1) :
    rejectSuppressedTouch .claimed time db item ≠ none := by
  have picked : (key, row) ∈ db.suppressions.select fun other row =>
      other.1 = key.1 && row.active time := by
    refine (Table.mem_select_iff _ _ _ _).2 ⟨found, ?_⟩
    simp only [Bool.and_eq_true, decide_eq_true_eq]
    exact ⟨trivial, active_of_lasting lasting time⟩
  unfold rejectSuppressedTouch
  rw [addressed]
  cases rows : db.suppressions.select fun other row => other.1 = key.1 && row.active time with
  | nil =>
      rw [rows] at picked
      cases picked
  | cons entry rest => simp [rows]

/-- What others may commit while the row stands. -/
def whileSuppressed (key : String × String) (_ new : Database) : Prop :=
  ∃ row, new.suppressions.lookup key = some row ∧ row.expiresAt = none

/-- A claim that has come past its gates before the address was suppressed fails. -/
theorem persistClaim_barred {touch : DraftTouch} {mailbox : String} {results : Payload}
    (unwritten : Unwritten a)
    (addressed : ∀ db item, (a.txn.view db).touches.lookup touch.touchId = some item →
      ((a.txn.view db).prospects.lookup item.prospectId).bind Prospect.emailCanonical = some key.1)
    {outcome : Except Exc Unit}
    (exec : Program.Exec (whileSuppressed key) (persistClaim touch mailbox results) a outcome b) :
    ∃ error, outcome = .error error := by
  cases outcome with
  | error error => exact ⟨error, rfl⟩
  | ok value =>
      exfalso
      unfold persistClaim at exec
      rw [Program.exec_bind_ok] at exec
      obtain ⟨rows, middle, first, exec⟩ := exec
      obtain ⟨db, ⟨row, found, lasting⟩, _, _, busy, effect, success, rfl, _⟩ :=
        (Program.exec_perform_ok _ _ _ _ _).1 first
      dsimp only at success
      split at success
      · cases success
      · next accepted =>
          obtain rfl := Except.ok.inj success
          cases chosen : (a.txn.view db).touches.select fun id row =>
              id = touch.touchId && row.status = .drafted with
          | nil =>
              simp only [Effect.writing, chosen] at exec
              cases exec.1
          | cons entry rest =>
              have member : entry ∈ (a.txn.view db).touches.select fun id row =>
                  id = touch.touchId && row.status = .drafted := by
                rw [chosen]
                exact List.mem_cons_self
              obtain ⟨present, picked⟩ := (Table.mem_select_iff _ _ _ _).1 member
              simp only [Bool.and_eq_true, decide_eq_true_eq] at picked
              rw [picked.1] at present
              have lookup : (a.txn.view db).suppressions.lookup key = some row := by
                rw [(unwritten db).1]
                exact found
              have rejected := rejected_of_lasting a.txn.start.clock lookup lasting
                (addressed db entry.2 present)
              have passed := List.findSome?_eq_none_iff.1 accepted entry member
              cases trigger : rejectSuppressedTouch .claimed a.txn.start.clock (a.txn.view db)
                  entry.2 with
              | none => exact rejected trigger
              | some error =>
                  rw [trigger] at passed
                  cases passed

end Claims

section Runs

variable {world later : World}

/-- No cooldown that is committed has been written over a row that outlasts it. -/
def CooldownsOutlast (world : World) (action : Act) : Prop := Vouched cooldownOutlasts world action

/-- A step that writes rows replaces those that bar an address by rows that outlast
them, and deletes them with a tombstone only. -/
def Upholds (site : Deployment) (world later : World) (action : Act) : Prop :=
  (∀ key, later.committed.suppressions.lookup key = world.committed.suppressions.lookup key) ∨
    ∃ index session out, action = .finish index ∧ world.session index = some session ∧
      Committing session out ∧
      ∀ key old, world.committed.suppressions.lookup key = some old →
        old.active session.txn.start.clock = true →
        (∀ new, later.committed.suppressions.lookup key = some new → new.Outlasts old) ∧
          (later.committed.suppressions.lookup key = none →
            later.committed.ledger.buried site.platform key.1)

theorem upholds_of_advance {action : Act}
    (advance : Advance site cooldownOutlasts world later action) :
    Upholds site world later action := by
  cases advance with
  | idle same =>
      rw [Upholds, same]
      exact Or.inl fun _ => rfl
  | clock ticks moved =>
      rw [Upholds, moved]
      exact Or.inl fun _ => rfl
  | commit index session out found commits since wrote path =>
      refine Or.inr ⟨index, session, out, rfl, found, commits, fun key old there active => ?_⟩
      have upheld : Upheld site session.op key old later.committed.ledger :=
        upheld_path there active path
      exact ⟨upheld.replaced, fun absent => (upheld.deleted absent).1⟩

theorem barred_step {action : Act} (barred : Barred site key world.committed.ledger)
    (advance : Advance site cooldownOutlasts world later action) :
    Barred site key later.committed.ledger := by
  cases advance with
  | idle same =>
      rw [same]
      exact barred
  | clock ticks moved =>
      rw [moved]
      exact barred
  | commit index session out found commits since wrote path => exact barred_path barred path

/-- As long as no cooldown is written over a row that outlasts it, an address that is
suppressed without an end is suppressed ever after, and no claim of it succeeds. -/
theorem suppression_permanent {start : World} (quiet : start.sessions = [])
    (linked : Linked start.committed.ledger) (run : Run site CooldownsOutlast start world) :
    (∀ action later, CooldownsOutlast world action →
      (service site).act action world = some later → Upholds site world later action) ∧
    (∀ row, world.committed.suppressions.lookup key = some row → row.expiresAt = none →
      ∀ later, Run site CooldownsOutlast world later → Barred site key later.committed.ledger) ∧
    (∀ db, Barred site key db.ledger → ∀ time tenant hash, Covers key.2 tenant →
      tombstoneHash site.platform key.1 = .ok hash →
      suppressedIn db time key.1 tenant hash = true) ∧
    ∀ a b : Spot, Unwritten a → ∀ touch : DraftTouch,
      (∀ outcome, touch.emailCanonical = key.1 → Covers key.2 touch.tenant →
        Program.Exec (whileBarred site key)
          (claim site.runtime (pgGateStore site.platform) touch) a outcome b →
        ∃ refusal, outcome = .ok (.refused refusal)) ∧
      ∀ mailbox results outcome,
        (∀ db item, (a.txn.view db).touches.lookup touch.touchId = some item →
          ((a.txn.view db).prospects.lookup item.prospectId).bind Prospect.emailCanonical =
            some key.1) →
        Program.Exec (whileSuppressed key) (persistClaim touch mailbox results) a outcome b →
        ∃ error, outcome = .error error := by
  have vouched : ∀ world action, CooldownsOutlast world action →
      Vouched cooldownOutlasts world action := fun _ _ outlast => outlast
  obtain ⟨sane, _⟩ := invariant_of_advances (fun _ => True) vouched
    (fun _ _ _ _ _ _ _ _ => trivial) quiet linked trivial run
  refine ⟨?_, ?_, ?_, ?_⟩
  · intro action later outlast step
    exact upholds_of_advance (advance_of_step sane.sound sane.begun outlast step)
  · intro row found lasting later onward
    have barred : Barred site key world.committed.ledger := Or.inl ⟨row, found, lasting⟩
    obtain ⟨_, holds⟩ := invariant_onward (fun world => Barred site key world.committed.ledger)
      vouched (fun _ _ _ _ barred _ _ advance => barred_step barred advance) sane barred onward
    exact holds
  · intro db barred time tenant hash covers hashed
    exact suppressedIn_of_barred time barred covers hashed
  · intro a b unwritten touch
    exact ⟨fun outcome address covers exec => claim_barred address covers unwritten exec,
      fun mailbox results outcome addressed exec => persistClaim_barred unwritten addressed exec⟩

/-- The sample world after an unsubscribe. -/
def unsubscribedWorld : World :=
  { sampleWorld with
    committed := { sampleDatabase with
      suppressions := Table.empty.insert (sampleAddress, globalScope)
        ⟨"unsubscribe", none, sampleClock⟩ } }

theorem unsubscribed_barred : Linked unsubscribedWorld.committed.ledger ∧
    ∀ later, Run sampleDeployment CooldownsOutlast unsubscribedWorld later →
      Barred sampleDeployment (sampleAddress, globalScope) later.committed.ledger := by
  have linked : Linked unsubscribedWorld.committed.ledger :=
    ⟨sample_linked.entityOf, sample_linked.prospectOf, sample_linked.taskProspect,
      sample_linked.taskTouch⟩
  have run : Run sampleDeployment CooldownsOutlast unsubscribedWorld unsubscribedWorld :=
    Relation.ReflTransGen.refl
  refine ⟨linked, ?_⟩
  exact (suppression_permanent rfl linked run).2.1 ⟨"unsubscribe", none, sampleClock⟩ rfl rfl

/-- What the provider reports of the sample touch. -/
def sampleEvent (id : String) (kind : EventKind) : ProviderEvent :=
  ⟨id, kind, some 4, [("body", .text "no thanks")]⟩

/-- The sample touch is delivered, and its prospect unsubscribes. -/
def unsubscribes : List Move :=
  [begin (.lease .deliver), go 0 40 200,
    begin (.ingestEvents [sampleEvent "event-1" .unsubscribe]), go 1 12 300]

/-- A reply, its classification as a polite decline, and a year. -/
def declines : List Move :=
  [begin (.ingestEvents [sampleEvent "event-2" .reply]), go 2 10 400, begin (.lease .classify),
    go 3 13 500, .inl (.advance (days 400))]

theorem unsubscribe_forgotten : ∃ world later,
    Run sampleDeployment unrestricted sampleWorld world ∧
    Run sampleDeployment unrestricted world later ∧
    (∃ row, world.committed.suppressions.lookup (sampleAddress, globalScope) = some row ∧
      row.expiresAt = none) ∧
    tombstoneHash samplePlatform sampleAddress = .ok "sha256-of-address" ∧
    suppressedIn later.committed later.committed.clock sampleAddress "acme"
      "sha256-of-address" = false := by
  have tried : (play unsubscribes).any (fun world =>
      ((service sampleDeployment).script declines world).any fun later : World =>
        (world.committed.suppressions.lookup (sampleAddress, globalScope)).any
          (fun row => row.expiresAt.isNone) &&
        !suppressedIn later.committed later.committed.clock sampleAddress "acme"
          "sha256-of-address") = true := by
    decide +kernel
  obtain ⟨world, later, run, played, seen⟩ := runs_of_tried tried
  obtain ⟨barred, free⟩ := (Bool.and_eq_true _ _).mp seen
  obtain ⟨row, found, lasting⟩ := (Option.any_eq_true _ _).1 barred
  exact ⟨world, later, run, run_of_further played, ⟨row, found, Option.isNone_iff_eq_none.1 lasting⟩,
    by decide +kernel, (Bool.not_eq_true' _).mp free⟩

end Runs

end OpenReachout
