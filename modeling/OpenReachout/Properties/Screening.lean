import OpenReachout.Properties.Refusals
import OpenReachout.Properties.Replies
import OpenReachout.Outreach.Aliases
import OpenReachout.Relational.Agreement

/-!
# The guard in the database and the service

The trigger on `touches.status` and `is_suppressed` state one rule twice. They agree
exactly where an address is suppressed for the tenant or for everybody, or where it is
suppressed for some other tenant just when it has been forgotten.
-/

namespace OpenReachout

open Relational Relational.Program Text

set_option autoImplicit false

section Guard

variable {oracle : Nat → (call : Call) → call.Answer} {fault : Exc}
variable {moment : Moment Database RowLock} {platform : Platform}
variable {db : Database} {answered : Nat}

/-- The address has an active suppression under a scope of the kind given. -/
def HeldUnder (db : Database) (time : Time) (email : String) (kind : String → Prop) : Prop :=
  ∃ scope row, kind scope ∧ db.suppressions.lookup (email, scope) = some row ∧
    row.active time = true

/-- The scopes that `is_suppressed` looks at. -/
def ScopeOf (tenant scope : String) : Prop := scope = globalScope ∨ scope = tenant

def Forgotten (platform : Platform) (db : Database) (email : String) : Prop :=
  (db.forgetTombstones.lookup (platform.sha256 email.toList)).isSome = true

theorem suppressedIn_iff (time : Time) (email tenant hash : String) :
    suppressedIn db time email tenant hash = true ↔
      HeldUnder db time email (ScopeOf tenant) ∨
        (db.forgetTombstones.lookup hash).isSome = true := by
  unfold suppressedIn
  rw [Bool.or_eq_true, Bool.not_eq_true', List.isEmpty_eq_false_iff_exists_mem]
  apply or_congr_left
  constructor
  · rintro ⟨⟨⟨address, scope⟩, row⟩, member⟩
    have chosen := (Table.mem_select_iff _ _ _ _).1 member
    have holds := chosen.2
    simp only [Bool.and_eq_true, Bool.or_eq_true, decide_eq_true_eq] at holds
    obtain ⟨⟨rfl, kind⟩, active⟩ := holds
    exact ⟨scope, row, kind, chosen.1, active⟩
  · rintro ⟨scope, row, kind, found, active⟩
    refine ⟨((email, scope), row), (Table.mem_select_iff _ _ _ _).2 ⟨found, ?_⟩⟩
    simp only [Bool.and_eq_true, Bool.or_eq_true, decide_eq_true_eq]
    exact ⟨⟨trivial, kind⟩, active⟩

/-- The trigger takes every scope for a reason. -/
theorem rejects_claim_iff {row : Touch} {prospect : Prospect} {email : String}
    (owner : db.prospects.lookup row.prospectId = some prospect)
    (address : prospect.emailCanonical = some email) (time : Time) :
    (rejectSuppressedTouch .claimed time db row).isSome = true ↔
      HeldUnder db time email fun _ => True := by
  unfold rejectSuppressedTouch
  rw [owner, Option.bind_some, address]
  dsimp only
  rw [Option.any_some]
  constructor
  · intro rejected
    by_cases empty : (db.suppressions.select fun key row =>
        key.1 = email && row.active time).isEmpty = true
    · simp [empty] at rejected
    · rw [Bool.not_eq_true, List.isEmpty_eq_false_iff_exists_mem] at empty
      obtain ⟨⟨⟨other, scope⟩, held⟩, member⟩ := empty
      have chosen := (Table.mem_select_iff _ _ _ _).1 member
      have holds := chosen.2
      simp only [Bool.and_eq_true, decide_eq_true_eq] at holds
      obtain ⟨rfl, active⟩ := holds
      exact ⟨scope, held, trivial, chosen.1, active⟩
  · rintro ⟨scope, held, -, found, active⟩
    have member : ((email, scope), held) ∈ db.suppressions.select fun key row =>
        key.1 = email && row.active time := by
      rw [Table.mem_select_iff]
      exact ⟨found, by simp [active]⟩
    have occupied := List.isEmpty_eq_false_iff_exists_mem.2 ⟨_, member⟩
    simp [occupied]

/-- An `UPDATE` that makes the touch `claimed`, and no other, goes through. -/
def LetsClaim (oracle : Nat → (call : Call) → call.Answer) (fault : Exc)
    (moment : Moment Database RowLock) (mark : Option Mark)
    (chosen : Moment Database RowLock → Database → Uuid → Touch → Bool)
    (also : Moment Database RowLock → Touch → Touch) (touchId : Uuid) (db : Database)
    (answered : Nat) : Prop :=
  ∃ rows later, solo oracle fault moment (setTouchStatus .claimed mark chosen also)
    ⟨db, answered, false⟩ = (.ok rows, ⟨later, answered, false⟩) ∧
    (later.touches.lookup touchId).map Touch.status = some .claimed

/-- The service finds nothing against the address. -/
def FindsClear (oracle : Nat → (call : Call) → call.Answer) (fault : Exc)
    (moment : Moment Database RowLock) (platform : Platform) (email tenant : String)
    (db : Database) (answered : Nat) : Prop :=
  solo oracle fault moment (isSuppressed platform email tenant) ⟨db, answered, false⟩ =
    (.ok false, ⟨db, answered, false⟩)

theorem solo_isSuppressed_canonical {email : String} (canonical : canonicalize platform email = .ok email)
    (tenant : String) :
    solo oracle fault moment (isSuppressed platform email tenant) ⟨db, answered, false⟩ =
      (.ok (suppressedIn db moment.start.clock email tenant (platform.sha256 email.toList)),
        ⟨db, answered, false⟩) := by
  rw [solo_isSuppressed, tombstoneHash, canonical]
  rfl

theorem findsClear_iff {email : String} (canonical : canonicalize platform email = .ok email)
    (tenant : String) :
    FindsClear oracle fault moment platform email tenant db answered ↔
      ¬ (HeldUnder db moment.start.clock email (ScopeOf tenant) ∨ Forgotten platform db email) := by
  unfold FindsClear
  unfold Forgotten
  rw [solo_isSuppressed_canonical canonical, ← suppressedIn_iff]
  constructor
  · intro clear
    have value := Except.ok.inj (congrArg Prod.fst clear)
    rw [value]
    exact Bool.false_ne_true
  · intro held
    rw [Bool.not_eq_true] at held
    rw [held]

theorem letsClaim_iff {mark : Option Mark}
    {chosen : Moment Database RowLock → Database → Uuid → Touch → Bool}
    {also : Moment Database RowLock → Touch → Touch} {touchId : Uuid} {row : Touch}
    {prospect : Prospect} {email : String} (found : db.touches.lookup touchId = some row)
    (owner : db.prospects.lookup row.prospectId = some prospect)
    (address : prospect.emailCanonical = some email)
    (picked : chosen moment db touchId row = true)
    (only : ∀ id other, chosen moment db id other = true → id = touchId) :
    LetsClaim oracle fault moment mark chosen also touchId db answered ↔
      ¬ HeldUnder db moment.start.clock email fun _ => True := by
  rw [← rejects_claim_iff owner address moment.start.clock]
  have member : (touchId, row) ∈ db.touches.select (chosen moment db) :=
    (Table.mem_select_iff _ _ _ _).2 ⟨found, picked⟩
  unfold LetsClaim
  constructor
  · rintro ⟨rows, later, ended, -⟩ rejected
    unfold setTouchStatus at ended
    rw [solo_updateChecked] at ended
    cases refused : (db.touches.select (chosen moment db)).findSome? fun entry =>
        rejectSuppressedTouch .claimed moment.start.clock db entry.2 <|>
          enforceClaimLineage .claimed entry.2 with
    | none =>
        have accepted := List.findSome?_eq_none_iff.1 refused (touchId, row) member
        obtain ⟨error, raised⟩ := Option.isSome_iff_exists.1 rejected
        rw [raised] at accepted
        cases accepted
    | some error =>
        rw [refused] at ended
        cases congrArg Prod.fst ended
  · intro accepted
    have run : Completes oracle fault moment (setTouchStatus .claimed mark chosen also) db answered
        fun _ later taken =>
          taken = answered ∧ (later.touches.lookup touchId).map Touch.status = some .claimed := by
      unfold setTouchStatus
      refine completes_updateChecked _ _ _ _ _ ?_ ⟨rfl, ?_⟩
      · rintro ⟨id, other⟩ selected
        obtain ⟨present, taken⟩ := (Table.mem_select_iff _ _ _ _).1 selected
        obtain rfl := only id other taken
        obtain rfl := Option.some.inj (found.symm.trans present)
        have none_raised : rejectSuppressedTouch .claimed moment.start.clock db row = none :=
          Option.not_isSome_iff_eq_none.1 accepted
        rw [none_raised]
        rfl
      · have changed : (db.touches.modify (chosen moment db) fun row =>
            { also moment row with status := .claimed }).lookup touchId =
            some { also moment row with status := .claimed } := by
          rw [Table.lookup_modify, found, Option.map_some, if_pos picked]
        exact congrArg (Option.map Touch.status) changed
    obtain ⟨rows, later, taken, ended, -, rfl, claimed⟩ := run
    exact ⟨rows, later, ended, claimed⟩

/-- The trigger lets a touch become `claimed` just when the service finds nothing against
its address, if and only if the address is held under a scope that both look at, or is held
under another scope just when it has been forgotten. -/
theorem guard_agrees_iff {mark : Option Mark}
    {chosen : Moment Database RowLock → Database → Uuid → Touch → Bool}
    {also : Moment Database RowLock → Touch → Touch} {touchId : Uuid} {row : Touch}
    {prospect : Prospect} {email : String} (found : db.touches.lookup touchId = some row)
    (owner : db.prospects.lookup row.prospectId = some prospect)
    (address : prospect.emailCanonical = some email)
    (canonical : canonicalize platform email = .ok email)
    (picked : chosen moment db touchId row = true)
    (only : ∀ id other, chosen moment db id other = true → id = touchId) (tenant : String) :
    (LetsClaim oracle fault moment mark chosen also touchId db answered ↔
      FindsClear oracle fault moment platform email tenant db answered) ↔
      HeldUnder db moment.start.clock email (ScopeOf tenant) ∨
        (HeldUnder db moment.start.clock email (fun scope => ¬ ScopeOf tenant scope) ↔
          Forgotten platform db email) := by
  have either : HeldUnder db moment.start.clock email (fun _ => True) ↔
      HeldUnder db moment.start.clock email (ScopeOf tenant) ∨
        HeldUnder db moment.start.clock email fun scope => ¬ ScopeOf tenant scope := by
    constructor
    · rintro ⟨scope, held, -, present, active⟩
      by_cases seen : ScopeOf tenant scope
      · exact Or.inl ⟨scope, held, seen, present, active⟩
      · exact Or.inr ⟨scope, held, seen, present, active⟩
    · rintro (⟨scope, held, _, present, active⟩ | ⟨scope, held, _, present, active⟩)
      · exact ⟨scope, held, trivial, present, active⟩
      · exact ⟨scope, held, trivial, present, active⟩
  rw [letsClaim_iff found owner address picked only, findsClear_iff canonical, either]
  tauto

/-- The statement of `persist_claim` on the sample touch. -/
def samplePick (_ : Moment Database RowLock) (_ : Database) (id : Uuid) (row : Touch) : Bool :=
  id = 4 && row.status = .drafted

theorem samplePick_only (moment : Moment Database RowLock) (db : Database) (id : Uuid)
    (row : Touch) (picked : samplePick moment db id row = true) : id = 4 := by
  unfold samplePick at picked
  rw [Bool.and_eq_true, decide_eq_true_eq] at picked
  exact picked.1

theorem sample_canonical : canonicalize samplePlatform sampleAddress = .ok sampleAddress := by
  decide +kernel

/-- The sample prospect suppressed for another tenant only. -/
def heldElsewhere : Database :=
  { sampleDatabase with
    suppressions := Table.empty.insert (sampleAddress, "globex") ⟨"manual", none, sampleClock⟩ }

/-- The sample prospect found again after its address has been forgotten. -/
def foundAgain : Database :=
  { sampleDatabase with
    forgetTombstones := Table.empty.insert "sha256-of-address" ⟨9, sampleClock, none⟩ }

theorem sample_guard_agrees :
    (LetsClaim sampleOracle integrityError sampleMoment none samplePick (fun _ row => row) 4
        sampleDatabase 0 ↔
      FindsClear sampleOracle integrityError sampleMoment samplePlatform sampleAddress "acme"
        sampleDatabase 0) ↔
      HeldUnder sampleDatabase sampleClock sampleAddress (ScopeOf "acme") ∨
        (HeldUnder sampleDatabase sampleClock sampleAddress (fun scope => ¬ ScopeOf "acme" scope) ↔
          Forgotten samplePlatform sampleDatabase sampleAddress) :=
  @guard_agrees_iff sampleOracle integrityError sampleMoment samplePlatform sampleDatabase 0 none
    samplePick (fun _ row => row) 4 sampleTouch sampleProspect sampleAddress rfl rfl rfl
    sample_canonical rfl (samplePick_only sampleMoment sampleDatabase) "acme"

/-- A suppression for another tenant stops the claim in the database, though the service
allows it; a tombstone stops the service, and the database lets the claim through. -/
theorem guard_disagrees :
    (FindsClear sampleOracle integrityError sampleMoment samplePlatform sampleAddress "acme"
        heldElsewhere 0 ∧
      ¬ LetsClaim sampleOracle integrityError sampleMoment none samplePick (fun _ row => row) 4
        heldElsewhere 0) ∧
    (¬ FindsClear sampleOracle integrityError sampleMoment samplePlatform sampleAddress "acme"
        foundAgain 0 ∧
      LetsClaim sampleOracle integrityError sampleMoment none samplePick (fun _ row => row) 4
        foundAgain 0) := by
  have lets : ∀ db : Database, db.touches = sampleDatabase.touches →
      db.prospects = sampleDatabase.prospects →
      (LetsClaim sampleOracle integrityError sampleMoment none samplePick (fun _ row => row) 4
        db 0 ↔ ¬ HeldUnder db sampleClock sampleAddress fun _ => True) := by
    intro db touches prospects
    have found : db.touches.lookup 4 = some sampleTouch := by rw [touches]; rfl
    have owner : db.prospects.lookup sampleTouch.prospectId = some sampleProspect := by
      rw [prospects]
      rfl
    exact letsClaim_iff found owner rfl rfl (samplePick_only sampleMoment db)
  have held : ∀ scope row, heldElsewhere.suppressions.lookup (sampleAddress, scope) = some row →
      scope = "globex" := by
    intro scope row present
    by_cases same : scope = "globex"
    · exact same
    · have apart : (sampleAddress, scope) ≠ (sampleAddress, "globex") :=
        fun equal => same (congrArg Prod.snd equal)
      have absent : heldElsewhere.suppressions.lookup (sampleAddress, scope) = none :=
        (Table.lookup_insert ..).trans (if_neg apart)
      rw [absent] at present
      cases present
  refine ⟨⟨?_, ?_⟩, ?_, ?_⟩
  · rw [findsClear_iff sample_canonical]
    rintro (⟨scope, row, kind, present, -⟩ | buried)
    · obtain rfl := held scope row present
      rcases kind with everybody | tenant
      · exact absurd everybody (by decide)
      · exact absurd tenant (by decide)
    · cases buried
  · rw [lets heldElsewhere rfl rfl, not_not]
    exact ⟨"globex", ⟨"manual", none, sampleClock⟩, trivial, rfl, rfl⟩
  · rw [findsClear_iff sample_canonical, not_not]
    have buried : (foundAgain.forgetTombstones.lookup
        (samplePlatform.sha256 sampleAddress.toList)).isSome = true := by
      decide +kernel
    exact Or.inr buried
  · rw [lets foundAgain rfl rfl]
    rintro ⟨scope, row, -, present, -⟩
    cases present

end Guard

end OpenReachout
