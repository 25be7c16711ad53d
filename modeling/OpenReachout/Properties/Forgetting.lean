import OpenReachout.Outreach.Laws
import OpenReachout.Properties.Addresses
import OpenReachout.Properties.Aliases
import OpenReachout.Relational.Calls
import OpenReachout.Relational.Discipline

/-!
# The forgotten addresses

`forget` buries the address it is given and the canonical addresses of the prospects it
erases. An address as it was found, or as a key of the entity, it only deletes.
-/

namespace OpenReachout

open Relational Relational.Program Text

set_option autoImplicit false

section Subjects

variable (platform : Platform) (db : Database)

/-- The entities that have a canonical address, or a key of it. -/
def holdersOf (canonical : String) : List Uuid :=
  (((db.prospects.select fun _ row => row.emailCanonical = some canonical).map fun entry =>
      entry.2.entityId) ++
    ((db.entityKeys.select fun key _ => key = ("email_canonical", canonical)).map
      Prod.snd)).eraseDups

/-- The entities that a reference names. -/
def subjectIds : ForgetRef → List Uuid
  | .entity id => [id]
  | .address text => (canon platform text).elim [] (holdersOf db)

/-- The address that a reference names. -/
def named : ForgetRef → List String
  | .entity _ => []
  | .address text => (canon platform text).toList

/-- The addresses that `forget` buries. -/
def gathered (ref : ForgetRef) : List String :=
  named platform ref ++ (db.prospects.select fun _ row =>
    (subjectIds platform db ref).contains row.entityId).filterMap fun entry =>
      entry.2.emailCanonical

/-- An address that the system knows of the person. -/
inductive TiedTo (ref : ForgetRef) (address : String) : Prop where
  | named (text : String) (which : ref = .address text)
      (accepted : canonicalize platform text = .ok address)
  | canonical (id : Uuid) (row : Prospect) (found : db.prospects.lookup id = some row)
      (theirs : row.entityId ∈ subjectIds platform db ref)
      (same : row.emailCanonical = some address)
  | found (id : Uuid) (row : Prospect) (raw : String) (found : db.prospects.lookup id = some row)
      (theirs : row.entityId ∈ subjectIds platform db ref) (given : row.emailRaw = some raw)
      (accepted : canonicalize platform raw = .ok address)
  | key (entityId : Uuid)
      (found : db.entityKeys.lookup ("email_canonical", address) = some entityId)
      (theirs : entityId ∈ subjectIds platform db ref)

/-- Nobody reads the address as one that can be written to, in whatever form it is found. -/
structure Uncontactable (address : String) : Prop where
  buried : db.ledger.buried platform address
  blocked : ∀ oracle fault moment answered tenant,
    solo oracle fault moment (isSuppressed platform address tenant) ⟨db, answered, false⟩ =
      (.ok true, ⟨db, answered, false⟩)
  screened : ∀ email, canonicalize platform email = .ok address →
    ∀ oracle fault moment answered tenant,
      solo oracle fault moment (screenAtIngest platform email tenant) ⟨db, answered, false⟩ =
        (.ok false, ⟨db, answered, false⟩)

/-- The tombstone of the address is there, or it is that of an address that is buried. -/
def Interred (ref : ForgetRef) (address : String) : Prop :=
  ∃ hash, tombstoneHash platform address = .ok hash ∧
    ((db.forgetTombstones.lookup hash).isSome = true ∨
      ∃ other ∈ gathered platform db ref, tombstoneHash platform other = .ok hash)

/-- So it is for the addresses as they were found, and for those of the keys. -/
structure Collected (ref : ForgetRef) : Prop where
  found : ∀ id row raw address, db.prospects.lookup id = some row →
    row.entityId ∈ subjectIds platform db ref → row.emailRaw = some raw →
    canonicalize platform raw = .ok address → Interred platform db ref address
  keys : ∀ entityId address, db.entityKeys.lookup ("email_canonical", address) = some entityId →
    entityId ∈ subjectIds platform db ref → Interred platform db ref address

end Subjects

section Calls

variable {oracle : Nat → (call : Call) → call.Answer} {fault : Exc}
variable {moment : Moment Database RowLock} {platform : Platform}
variable {db later : Database} {answered taken : Nat}

theorem uncontactable_of_buried {address : String} (buried : db.ledger.buried platform address) :
    Uncontactable platform db address := by
  obtain ⟨hash, hashed, there⟩ := buried
  have blocked : ∀ (oracle : Nat → (call : Call) → call.Answer) (fault : Exc)
      (moment : Moment Database RowLock) (answered : Nat) (tenant : String),
      solo oracle fault moment (isSuppressed platform address tenant) ⟨db, answered, false⟩ =
        (.ok true, ⟨db, answered, false⟩) := by
    intro oracle fault moment answered tenant
    rw [solo_isSuppressed, hashed]
    have suppressed : suppressedIn db moment.start.clock address tenant hash = true := by
      rw [suppressedIn_iff]
      exact Or.inr there
    dsimp only
    rw [suppressed]
  refine ⟨⟨hash, hashed, there⟩, blocked, ?_⟩
  intro email accepted oracle fault moment answered tenant
  unfold screenAtIngest
  rw [accepted]
  dsimp only
  rw [solo_bind, blocked]
  rfl

/-- One more tombstone. -/
theorem bury_one {receiptId : Uuid} {address : String}
    (ended : solo oracle fault moment (do
      let hash ← MonadExcept.ofExcept (tombstoneHash platform address)
      let _ ← Program.insertNew Tables.forgetTombstones hash
        fun moment => ⟨receiptId, moment.start.clock, none⟩ : Prog Unit) ⟨db, answered, false⟩ =
      (.ok (), ⟨later, taken, false⟩)) :
    ∃ hash, tombstoneHash platform address = .ok hash ∧
      ∀ other, (later.forgetTombstones.lookup other).isSome = true ↔
        other = hash ∨ (db.forgetTombstones.lookup other).isSome = true := by
  obtain ⟨hash, middle, total, hashed, inserted⟩ := ok_of_solo_bind ended
  rw [solo_ofExcept] at hashed
  obtain ⟨computed, same⟩ := Prod.mk.inj hashed
  obtain ⟨rfl, rfl, _⟩ := Alone.mk.inj same
  refine ⟨hash, computed, ?_⟩
  obtain ⟨fresh, written, sum, insertion, finished⟩ := ok_of_solo_bind inserted
  rw [solo_insertNew] at insertion
  obtain ⟨_, wrote⟩ := Prod.mk.inj insertion
  obtain ⟨wrote, _, _⟩ := Alone.mk.inj wrote
  obtain ⟨_, kept⟩ := Prod.mk.inj finished
  obtain ⟨rfl, _, _⟩ := Alone.mk.inj kept
  intro other
  rw [← wrote]
  cases present : (Tables.forgetTombstones.get db).lookup hash with
  | some row =>
      have there : db.forgetTombstones.lookup hash = some row := present
      rw [Option.isNone_some, if_neg Bool.false_ne_true]
      constructor
      · exact Or.inr
      · intro holds
        rcases holds with same | kept
        · rw [same, there]
          rfl
        · exact kept
  | none =>
      rw [Option.isNone_none, if_pos rfl]
      change ((db.forgetTombstones.insert hash _).lookup other).isSome = true ↔ _
      rw [Table.lookup_insert]
      have absent : db.forgetTombstones.lookup hash = none := present
      by_cases same : other = hash
      · simp [same, absent]
      · simp [same]

/-- The loop that buries the addresses. -/
theorem bury_tombstones {receiptId : Uuid} {addresses : List String}
    (ended : solo oracle fault moment (addresses.forM (m := Prog) fun address => do
      let hash ← MonadExcept.ofExcept (tombstoneHash platform address)
      let _ ← Program.insertNew Tables.forgetTombstones hash
        fun moment => ⟨receiptId, moment.start.clock, none⟩) ⟨db, answered, false⟩ =
      (.ok (), ⟨later, taken, false⟩)) :
    (∀ address ∈ addresses, ∃ hash, tombstoneHash platform address = .ok hash) ∧
      ∀ hash, (later.forgetTombstones.lookup hash).isSome = true ↔
        (db.forgetTombstones.lookup hash).isSome = true ∨
          ∃ address ∈ addresses, tombstoneHash platform address = .ok hash := by
  induction addresses generalizing db answered with
  | nil =>
      obtain ⟨_, same⟩ := Prod.mk.inj ended
      obtain ⟨rfl, _, _⟩ := Alone.mk.inj same
      simp
  | cons first rest induction =>
      obtain ⟨_, middle, total, buried, onward⟩ := ok_of_solo_bind ended
      obtain ⟨hash, hashed, tombstones⟩ := bury_one buried
      obtain ⟨others, all⟩ := induction onward
      constructor
      · intro address member
        rcases List.mem_cons.1 member with rfl | later
        · exact ⟨hash, hashed⟩
        · exact others address later
      · intro other
        rw [all, tombstones, List.exists_mem_cons_iff, hashed, Except.ok.injEq]
        tauto

/-- What leaves the tombstones as they are. -/
def SameTombstones (before after : Database) : Prop :=
  after.forgetTombstones = before.forgetTombstones

theorem sameTombstones_timeline : Timeline SameTombstones where
  refl _ := rfl
  trans first second := second.trans first

def unburying : Allowed := following sameTombstones_timeline

theorem within_unburying_enqueue (queue : QueueName) (payload : JobPayload) (key : JobKey)
    (delay attempts : Nat) : Within unburying (enqueue queue payload key delay attempts) := by
  have jobs : unburying.Changes Tables.jobs := fun _ _ _ _ _ => rfl
  have index : unburying.Changes Tables.jobIndex := fun _ _ _ _ _ => rfl
  unfold enqueue
  grind

theorem within_unburying_scrub (ids : List Uuid) : Within unburying (scrub ids) := by
  have touches : unburying.Changes Tables.touches := fun _ _ _ _ _ => rfl
  have replies : unburying.Changes Tables.replies := fun _ _ _ _ _ => rfl
  have facts : unburying.Changes Tables.evidenceFacts := fun _ _ _ _ _ => rfl
  have prospects : unburying.Changes Tables.prospects := fun _ _ _ _ _ => rfl
  have keys : unburying.Changes Tables.entityKeys := fun _ _ _ _ _ => rfl
  have entities : unburying.Changes Tables.entities := fun _ _ _ _ _ => rfl
  unfold scrub
  refine within_bind (within_update touches _ _) fun _ => ?_
  refine within_bind (within_update replies _ _) fun _ => ?_
  refine within_bind (within_deleteRows facts _) fun _ => ?_
  refine within_bind (within_update prospects _ _) fun _ => ?_
  refine within_bind (within_deleteRows keys _) fun _ => ?_
  exact within_bind (within_update entities _ _) fun _ => within_pure _

theorem within_unburying_unlisted (addresses : List String) :
    Within unburying (addresses.forM (m := Prog) fun address => do
      let _ ← Program.deleteRows Tables.suppressions fun _ _ key _ => key.1 = address) := by
  have suppressions : unburying.Changes Tables.suppressions := fun _ _ _ _ _ => rfl
  refine within_forM (fun address => ?_) addresses
  exact within_bind (within_deleteRows suppressions _) fun _ => within_pure _

theorem within_unburying_propagate (receiptId : Uuid) (addresses : List String) :
    Within unburying (addresses.forM (m := Prog) fun address => do
      let hash ← MonadExcept.ofExcept (tombstoneHash platform address)
      let _ ← enqueue .control (.deleteLead address receiptId) (.forget hash)) := by
  refine within_forM (fun address => ?_) addresses
  refine within_bind (within_ofExcept _) fun hash => ?_
  exact within_bind (within_unburying_enqueue _ _ _ _ _) fun _ => within_pure _

/-- What a transaction on its own does to the tombstones, if none of its statements does. -/
theorem sameTombstones_of_solo {Value : Type} {program : Prog Value} {value : Value}
    (inside : Within unburying program)
    (ended : solo oracle fault moment program ⟨db, answered, false⟩ =
      (.ok value, ⟨later, taken, false⟩)) : SameTombstones db later := by
  have stable : (Point.begin moment.start : Point Database RowLock Mark Call).txn.Stable db :=
    fun entry member => absurd member List.not_mem_nil
  obtain ⟨last, exec, viewed, _⟩ := exec_of_solo anything_timeline rfl rfl stable rfl ended
  have same := view_of_following sameTombstones_timeline inside exec db
  rw [viewed] at same
  exact same

theorem solo_subjects {ref : ForgetRef} {ids : List Uuid} {names : List String}
    (ended : solo oracle fault moment (subjects platform ref) ⟨db, answered, false⟩ =
      (.ok (ids, names), ⟨later, taken, false⟩)) :
    ids = subjectIds platform db ref ∧ names = named platform ref ∧ later = db := by
  cases ref with
  | entity id =>
      obtain ⟨same, kept⟩ := Prod.mk.inj ended
      obtain ⟨rfl, rfl⟩ := Prod.mk.inj (Except.ok.inj same)
      obtain ⟨rfl, _, _⟩ := Alone.mk.inj kept
      exact ⟨rfl, rfl, rfl⟩
  | address text =>
      obtain ⟨canonical, middle, total, accepted, onward⟩ := ok_of_solo_bind ended
      rw [solo_ofExcept] at accepted
      obtain ⟨computed, kept⟩ := Prod.mk.inj accepted
      obtain ⟨rfl, _, _⟩ := Alone.mk.inj kept
      obtain ⟨found, last, sum, looked, finished⟩ := ok_of_solo_bind onward
      rw [solo_query] at looked
      obtain ⟨rows, still⟩ := Prod.mk.inj looked
      obtain ⟨rfl, _, _⟩ := Alone.mk.inj still
      obtain ⟨same, end_⟩ := Prod.mk.inj finished
      obtain ⟨rfl, _, _⟩ := Alone.mk.inj end_
      obtain ⟨rfl, rfl⟩ := Prod.mk.inj (Except.ok.inj same)
      have canonical_text : canon platform text = some canonical := by
        unfold canon
        rw [computed]
        rfl
      have ids : subjectIds platform db (.address text) = holdersOf db canonical := by
        unfold subjectIds
        dsimp only
        rw [canonical_text]
        rfl
      have names : named platform (.address text) = [canonical] := by
        unfold named
        dsimp only
        rw [canonical_text]
        rfl
      rw [ids, names, ← Except.ok.inj rows]
      exact ⟨rfl, rfl, rfl⟩

/-- A call that returns has buried what it has gathered, and nothing else. -/
theorem forget_tombstones {ref : ForgetRef}
    (ended : solo oracle fault moment (forget platform ref) ⟨db, answered, false⟩ =
      (.ok (), ⟨later, taken, false⟩)) :
    (∀ address ∈ gathered platform db ref, ∃ hash, tombstoneHash platform address = .ok hash) ∧
      ∀ hash, (later.forgetTombstones.lookup hash).isSome = true ↔
        (db.forgetTombstones.lookup hash).isSome = true ∨
          ∃ address ∈ gathered platform db ref, tombstoneHash platform address = .ok hash := by
  unfold forget at ended
  obtain ⟨⟨ids, names⟩, start, asked, subject, ended⟩ := ok_of_solo_bind ended
  obtain ⟨rfl, rfl, rfl⟩ := solo_subjects subject
  dsimp only at ended
  split at ended
  · obtain ⟨_, _, _, raised, _⟩ := ok_of_solo_bind ended
    cases congrArg Prod.fst raised
  · obtain ⟨receiptId, early, drawn, fresh, ended⟩ := ok_of_solo_bind ended
    obtain ⟨_, same⟩ := Prod.mk.inj fresh
    obtain ⟨rfl, rfl, _⟩ := Alone.mk.inj same
    obtain ⟨known, middle, total, read, ended⟩ := ok_of_solo_bind ended
    rw [solo_query] at read
    obtain ⟨rows, same⟩ := Prod.mk.inj read
    obtain ⟨rfl, rfl, _⟩ := Alone.mk.inj same
    obtain rfl := Except.ok.inj rows
    obtain ⟨_, buried, sum, loop, ended⟩ := ok_of_solo_bind ended
    obtain ⟨hashes, tombstones⟩ := bury_tombstones loop
    have rest : SameTombstones buried later := by
      refine sameTombstones_of_solo ?_ ended
      split
      · refine within_bind (within_unburying_scrub _) fun _ => ?_
        refine within_bind (within_unburying_unlisted _) fun _ => ?_
        refine within_bind (within_appendRow fun _ _ => rfl) fun _ => ?_
        exact within_unburying_propagate _ _
      · refine within_bind (within_unburying_unlisted _) fun _ => ?_
        refine within_bind (within_appendRow fun _ _ => rfl) fun _ => ?_
        exact within_unburying_propagate _ _
    have same : ∀ address, address ∈ sortedSet (gathered platform start ref) ↔
        address ∈ gathered platform start ref := fun address => mem_sortedSet address _
    constructor
    · intro address member
      exact hashes address ((same address).2 member)
    · intro hash
      have kept : later.forgetTombstones = buried.forgetTombstones := rest
      rw [kept]
      refine (tombstones hash).trans (or_congr_right (exists_congr fun address => ?_))
      exact and_congr_left' (same address)

/-- Which addresses of the person are buried then. -/
theorem buried_iff_interred {ref : ForgetRef} {address : String}
    (ended : solo oracle fault moment (forget platform ref) ⟨db, answered, false⟩ =
      (.ok (), ⟨later, taken, false⟩)) :
    later.ledger.buried platform address ↔ Interred platform db ref address := by
  obtain ⟨_, tombstones⟩ := forget_tombstones ended
  exact exists_congr fun hash => and_congr_right fun _ => tombstones hash

theorem interred_of_gathered {ref : ForgetRef} {address : String}
    (ended : solo oracle fault moment (forget platform ref) ⟨db, answered, false⟩ =
      (.ok (), ⟨later, taken, false⟩)) (member : address ∈ gathered platform db ref) :
    Interred platform db ref address := by
  obtain ⟨hash, hashed⟩ := (forget_tombstones ended).1 address member
  exact ⟨hash, hashed, Or.inr ⟨address, member, hashed⟩⟩

theorem gathered_of_named {text address : String}
    (accepted : canonicalize platform text = .ok address) :
    address ∈ gathered platform db (.address text) := by
  have there : address ∈ named platform (.address text) := by
    unfold named canon
    dsimp only
    rw [accepted]
    exact List.mem_singleton_self address
  exact List.mem_append_left _ there

theorem gathered_of_canonical {ref : ForgetRef} {id : Uuid} {row : Prospect} {address : String}
    (found : db.prospects.lookup id = some row)
    (theirs : row.entityId ∈ subjectIds platform db ref)
    (same : row.emailCanonical = some address) : address ∈ gathered platform db ref := by
  have selected : (id, row) ∈ db.prospects.select fun _ row =>
      (subjectIds platform db ref).contains row.entityId :=
    (Table.mem_select_iff _ _ _ _).2 ⟨found, List.contains_iff_mem.2 theirs⟩
  exact List.mem_append_right _ (List.mem_filterMap.2 ⟨_, selected, same⟩)

/-- All addresses of the person are interred if those are that `forget` does not gather. -/
theorem interred_iff_collected {ref : ForgetRef}
    (ended : solo oracle fault moment (forget platform ref) ⟨db, answered, false⟩ =
      (.ok (), ⟨later, taken, false⟩)) :
    (∀ address, TiedTo platform db ref address → Interred platform db ref address) ↔
      Collected platform db ref := by
  constructor
  · intro interred
    constructor
    · intro id row raw address found theirs given accepted
      exact interred address (.found id row raw found theirs given accepted)
    · intro entityId address found theirs
      exact interred address (.key entityId found theirs)
  · intro collected address tied
    cases tied with
    | named text which accepted =>
        rw [which] at ended ⊢
        exact interred_of_gathered ended (gathered_of_named accepted)
    | canonical id row found theirs same =>
        exact interred_of_gathered ended (gathered_of_canonical found theirs same)
    | found id row raw found theirs given accepted =>
        exact collected.found id row raw address found theirs given accepted
    | key entityId found theirs => exact collected.keys entityId address found theirs

end Calls

section Runs

variable {oracle : Nat → (call : Call) → call.Answer} {fault : Exc}
variable {moment : Moment Database RowLock} {site : Deployment}
variable {db later : Database} {answered taken : Nat}

/-- The tombstones of a world are there in every later one. -/
theorem buried_onward {start middle world : World} {address : String}
    (quiet : start.sessions = []) (linked : Linked start.committed.ledger)
    (before : Run site unrestricted start middle) (onward : Run site unrestricted middle world)
    (buried : middle.committed.ledger.buried site.platform address) :
    world.committed.ledger.buried site.platform address := by
  have sane : Sane site middle :=
    (invariant_onward (fun _ => True) vouched_free (fun _ _ _ _ _ _ _ _ => trivial)
      (sane_start quiet linked) trivial before).1
  refine (invariant_onward (fun world => world.committed.ledger.buried site.platform address)
    vouched_free ?_ sane buried onward).2
  intro world action after _ buried _ _ advance
  exact Ledger.buried_later _ _ _ _ (later_advance advance) buried

/-- No address of the person can be written to any more, in this state and in every state
of the runs that pass through it. -/
def ForgottenIn (site : Deployment) (db later : Database) (ref : ForgetRef) : Prop :=
  ∀ address, TiedTo site.platform db ref address →
    Uncontactable site.platform later address ∧
      ∀ start middle world : World, start.sessions = [] → Linked start.committed.ledger →
        Run site unrestricted start middle → middle.committed = later →
          Run site unrestricted middle world →
            Uncontactable site.platform world.committed address

/-- A person is forgotten if and only if the addresses as they were found, and those of the
keys, are buried with the canonical ones. -/
theorem forgotten_iff_collected {ref : ForgetRef}
    (ended : solo oracle fault moment (forget site.platform ref) ⟨db, answered, false⟩ =
      (.ok (), ⟨later, taken, false⟩)) :
    ForgottenIn site db later ref ↔ Collected site.platform db ref := by
  rw [← interred_iff_collected ended]
  constructor
  · intro forgotten address tied
    exact (buried_iff_interred ended).1 (forgotten address tied).1.buried
  · intro interred address tied
    have buried : later.ledger.buried site.platform address :=
      (buried_iff_interred ended).2 (interred address tied)
    refine ⟨uncontactable_of_buried buried, ?_⟩
    intro start middle world quiet linked before passed onward
    rw [← passed] at buried
    exact uncontactable_of_buried (buried_onward quiet linked before onward buried)

end Runs

section Sample

/-- The only address of the sample prospect, which is named. -/
theorem sample_collected :
    Collected samplePlatform dispatchedDatabase (.address sampleAddress) := by
  have interred : Interred samplePlatform dispatchedDatabase (.address sampleAddress)
      sampleAddress := by
    have readable : canonicalize samplePlatform sampleAddress = .ok sampleAddress := by
      decide +kernel
    have hashed := tombstoneHash_of_canonical readable
    exact ⟨_, hashed, Or.inr ⟨_, gathered_of_named readable, hashed⟩⟩
  constructor
  · intro id row raw address found _ given accepted
    have each : ∀ entry ∈ dispatchedDatabase.prospects.rows, ∀ raw, entry.2.emailRaw = some raw →
        canonicalize samplePlatform raw = .ok sampleAddress := by
      intro entry member raw given
      obtain rfl := List.mem_singleton.1 member
      obtain rfl := Option.some.inj given
      decide +kernel
    have same := each _ ((Table.lookup_eq_some_iff _ _ _).1 found) raw given
    obtain rfl := Except.ok.inj (accepted.symm.trans same)
    exact interred
  · intro entityId address found _
    cases found

/-- An address that names its person is forgotten with them. -/
theorem sample_forgotten : ∃ later taken,
    solo sampleOracle integrityError sampleMoment
      (forget samplePlatform (.address sampleAddress)) ⟨dispatchedDatabase, 0, false⟩ =
        (.ok (), ⟨later, taken, false⟩) ∧
    ForgottenIn sampleDeployment dispatchedDatabase later (.address sampleAddress) := by
  have readable : canonicalize samplePlatform sampleAddress = .ok sampleAddress := by
    decide +kernel
  obtain ⟨_, later, taken, ended, _⟩ : Completes sampleOracle integrityError sampleMoment
      (forget samplePlatform (.address sampleAddress)) dispatchedDatabase 0 _ :=
    completes_forget sample_distinct sample_ready readable readable
  exact ⟨later, taken, ended, (forgotten_iff_collected ended).2 sample_collected⟩

/-- The prospect as it was found, with its key, and before it is enriched. -/
def foundDatabase : Database :=
  { discoveredWorld.committed with
    entityKeys := Table.empty.insert ("email_canonical", sampleAddress) 2 }

/-- The erasure of the entity, and then the screening of the address as it was found. -/
def erasedAlone : Except Exc Unit × Alone Database :=
  solo sampleOracle integrityError ⟨foundDatabase, fun _ => false⟩
    (forget samplePlatform (.entity 2)) ⟨foundDatabase, 0, false⟩

def screenedAlone : Except Exc Bool × Alone Database :=
  solo sampleOracle integrityError ⟨erasedAlone.2.db, fun _ => false⟩
    (screenAtIngest samplePlatform sampleAddress "acme") ⟨erasedAlone.2.db, 0, false⟩

/-- A person who was found and not enriched is forgotten, and may be taken in again at the
same address. -/
theorem found_address_screened : erasedAlone.1.toOption = some () ∧ erasedAlone.2.failed = false ∧
    screenedAlone.1.toOption = some true ∧
    ¬ ForgottenIn sampleDeployment foundDatabase erasedAlone.2.db (.entity 2) := by
  have screened : screenedAlone.1.toOption = some true := by
    decide +kernel
  refine ⟨by decide +kernel, by decide +kernel, screened, ?_⟩
  intro forgotten
  have readable : canonicalize samplePlatform sampleAddress = .ok sampleAddress := by
    decide +kernel
  have tied : TiedTo samplePlatform foundDatabase (.entity 2) sampleAddress :=
    .found 3 discoveredProspect sampleAddress rfl (List.mem_singleton_self 2) rfl readable
  have dropped : screenedAlone = (.ok false, ⟨erasedAlone.2.db, 0, false⟩) :=
    (forgotten _ tied).1.screened sampleAddress readable _ _ _ _ _
  rw [dropped] at screened
  cases screened

end Sample

end OpenReachout
