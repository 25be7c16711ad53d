import OpenReachout.Adapters.Inbound
import OpenReachout.Relational.Completion

/-!
# What completes

The operations on one prospect return, with nobody else at work, from every state
in which stored addresses are canonical and the identifier sources give ids that
are not in use. Each theorem names the tables its operation has written.
-/

namespace OpenReachout

open Relational Relational.Program Text

set_option autoImplicit false

/-- No two answers of the identifier sources are the same. -/
structure Distinct (oracle : Nat → (call : Call) → call.Answer) : Prop where
  uuid : ∀ first second, oracle first .uuid = oracle second .uuid → first = second
  serial : ∀ first second, oracle first .serial = oracle second .serial → first = second

/-- The ids still to come are not in use, and stored addresses are canonical. -/
structure Ready (platform : Platform) (oracle : Nat → (call : Call) → call.Answer)
    (db : Database) (answered : Nat) : Prop where
  canonical : ∀ id row email, db.prospects.lookup id = some row →
    row.emailCanonical = some email → canonicalize platform email = .ok email
  replies : ∀ index, answered ≤ index → db.replies.lookup (oracle index .uuid) = none
  escalations : ∀ index, answered ≤ index → db.escalations.lookup (oracle index .uuid) = none
  jobs : ∀ index, answered ≤ index → db.jobs.lookup (oracle index .serial) = none
  classify : ∀ index, answered ≤ index →
    db.jobIndex.lookup (.classify (oracle index .uuid)) = none

variable {oracle : Nat → (call : Call) → call.Answer} {fault : Exc}
variable {moment : Moment Database RowLock} {platform : Platform}
variable {db : Database} {answered : Nat}

/-- A row with its state taken out of sight. -/
def Prospect.stateless (row : Prospect) : Prospect := { row with state := .discovered }

/-- Two prospect tables that differ in states at most. -/
def SameProspects (before after : Table Uuid Prospect) : Prop :=
  ∀ id, (after.lookup id).map Prospect.stateless = (before.lookup id).map Prospect.stateless

theorem SameProspects.found {before after : Table Uuid Prospect}
    (same : SameProspects before after) {id : Uuid} {row : Prospect}
    (found : before.lookup id = some row) :
    ∃ other, after.lookup id = some other ∧ other.stateless = row.stateless := by
  have equal := same id
  rw [found, Option.map_some, Option.map_eq_some_iff] at equal
  exact equal

theorem same_prospects_modify (table : Table Uuid Prospect) (prospectId : Uuid)
    (target : ProspectState) :
    SameProspects table
      (table.modify (fun id _ => id = prospectId) fun row => { row with state := target }) := by
  intro id
  rw [Table.lookup_modify]
  cases table.lookup id with
  | none => rfl
  | some row => by_cases chosen : id = prospectId <;> simp [chosen, Prospect.stateless]

theorem SameProspects.symm {before after : Table Uuid Prospect}
    (same : SameProspects before after) : SameProspects after before :=
  fun id => (same id).symm

namespace Ready

theorem advance {taken : Nat} (ready : Ready platform oracle db answered)
    (counted : answered ≤ taken) : Ready platform oracle db taken where
  canonical := ready.canonical
  replies index later := ready.replies index (Nat.le_trans counted later)
  escalations index later := ready.escalations index (Nat.le_trans counted later)
  jobs index later := ready.jobs index (Nat.le_trans counted later)
  classify index later := ready.classify index (Nat.le_trans counted later)

/-- What `Ready` reads, in another state. -/
theorem of_tables {later : Database} (ready : Ready platform oracle db answered)
    (prospects : SameProspects db.prospects later.prospects)
    (replies : later.replies = db.replies) (escalations : later.escalations = db.escalations)
    (jobs : later.jobs = db.jobs) (jobIndex : later.jobIndex = db.jobIndex) :
    Ready platform oracle later answered where
  canonical id row email found stored := by
    obtain ⟨old, present, same⟩ := prospects.symm.found found
    refine ready.canonical id old email present ?_
    have equal := congrArg Prospect.emailCanonical same
    rw [← stored]
    exact equal
  replies := by rw [replies]; exact ready.replies
  escalations := by rw [escalations]; exact ready.escalations
  jobs := by rw [jobs]; exact ready.jobs
  classify := by rw [jobIndex]; exact ready.classify

end Ready

/-- A row at the answer that comes next takes none of the ids to come after it. -/
theorem unused_insert {Row : Type} {table : Table Nat Row} {source : Nat → Nat}
    (distinct : ∀ first second, source first = source second → first = second)
    (unused : ∀ index, answered ≤ index → table.lookup (source index) = none) (row : Row) :
    ∀ index, answered + 1 ≤ index → (table.insert (source answered) row).lookup (source index) =
      none := by
  intro index later
  have apart : source index ≠ source answered := by
    intro equal
    have same := distinct index answered equal
    omega
  rw [Table.lookup_insert, if_neg apart]
  exact unused index (by omega)

theorem same_prospects_refl (table : Table Uuid Prospect) : SameProspects table table :=
  fun _ => rfl

/-- Every job that has been added is in this queue. -/
def NewJobs (queue : QueueName) (before after : Table Nat JobRow) : Prop :=
  ∀ id row, after.lookup id = some row → before.lookup id = none → row.queue = queue

theorem newJobs_refl (queue : QueueName) (jobs : Table Nat JobRow) : NewJobs queue jobs jobs :=
  fun _ _ present absent => absurd (present.symm.trans absent) nofun

section Small

theorem completes_audit (subjectType subjectId event actor : String) (payload : Payload) :
    Completes oracle fault moment (audit subjectType subjectId event payload actor) db answered
      fun _ later taken => taken = answered ∧
        later = { db with auditEvents :=
          db.auditEvents ++ [⟨subjectType, subjectId, event, payload, actor⟩] } :=
  completes_appendRow _ _ ⟨rfl, rfl⟩

theorem completes_freshUuid :
    Completes oracle fault moment freshUuid db answered fun id later taken =>
      taken = answered + 1 ∧ later = db ∧ id = oracle answered .uuid :=
  completes_ask _ ⟨rfl, rfl, rfl⟩

/-- The two tables of jobs once a job has been asked for: a known key leaves them as they
are. -/
structure JobAsked (queue : QueueName) (payload : JobPayload) (key : JobKey)
    (old : Table Nat JobRow) (known : Table JobKey Nat) (jobs : Table Nat JobRow)
    (index : Table JobKey Nat) : Prop where
  only : ∀ id row, jobs.lookup id = some row → old.lookup id = none →
    row.queue = queue ∧ row.payload = payload
  fresh : known.lookup key = none → ∃ id row, old.lookup id = none ∧
    jobs.lookup id = some row ∧ row.queue = queue ∧ row.payload = payload
  again : (known.lookup key).isSome = true → jobs = old ∧ index = known
  indexed : (index.lookup key).isSome = true
  keys : ∀ other, (known.lookup other).isSome = true → (index.lookup other).isSome = true
  others : ∀ other, other ≠ key → index.lookup other = known.lookup other
  mine : ∀ id row, jobs.lookup id = some row → old.lookup id = none → row.idempotencyKey = key
  rows : ∀ id row, old.lookup id = some row → jobs.lookup id = some row

theorem JobAsked.newJobs {queue : QueueName} {payload : JobPayload} {key : JobKey}
    {old jobs : Table Nat JobRow} {known index : Table JobKey Nat}
    (asked : JobAsked queue payload key old known jobs index) : NewJobs queue old jobs :=
  fun id row present unknown => (asked.only id row present unknown).1

theorem completes_enqueue (distinct : Distinct oracle) (ready : Ready platform oracle db answered)
    (queue : QueueName) (payload : JobPayload) (key : JobKey) (delay attempts : Nat)
    (apart : ∀ index, answered ≤ index → key ≠ .classify (oracle index .uuid)) :
    Completes oracle fault moment (enqueue queue payload key delay attempts) db answered
      fun _ later taken => taken = answered + 1 ∧ Ready platform oracle later taken ∧
        ∃ jobs index, later = { db with jobs := jobs, jobIndex := index } ∧
          JobAsked queue payload key db.jobs db.jobIndex jobs index := by
  have fresh := ready.jobs answered (Nat.le_refl _)
  unfold enqueue
  refine completes_bind (completes_ask _ ?_)
  refine completes_bind (completes_insertNew _ _ _ ?_ ?_)
  · intro old found
    have known : (db.jobIndex.lookup key).isSome = true := by
      rw [show db.jobIndex.lookup key = some old from found]
      rfl
    exact completes_pure _ ⟨rfl, ready.advance (Nat.le_succ _), db.jobs, db.jobIndex, rfl,
      fun _ _ present absent => absurd (present.symm.trans absent) nofun,
      fun absent => absurd (found.symm.trans absent) nofun, fun _ => ⟨rfl, rfl⟩, known,
      fun _ before => before, fun _ _ => rfl,
      fun _ _ present absent => absurd (present.symm.trans absent) nofun,
      fun _ _ present => present⟩
  · intro absent
    rw [if_pos rfl]
    refine completes_bind (completes_insertRow _ _ _ _ _ _ rfl fresh ?_)
    have inserted : ∀ (row : JobRow) id, (db.jobs.insert (oracle answered .serial) row).lookup id =
        if id = oracle answered .serial then some row else db.jobs.lookup id := by
      intro row id
      rw [Table.lookup_insert, fresh]
      rfl
    have indexed : ∀ other, (db.jobIndex.insert key (oracle answered .serial)).lookup other =
        if other = key then some (oracle answered .serial) else db.jobIndex.lookup other := by
      intro other
      rw [Table.lookup_insert, show db.jobIndex.lookup key = none from absent]
      rfl
    refine completes_pure _ ⟨rfl, ?_, _, _, rfl, ?_, fun _ => ?_, fun before => ?_, ?_, ?_, ?_, ?_,
      ?_⟩
    · have moved := ready.advance (Nat.le_succ answered)
      refine ⟨moved.canonical, moved.replies, moved.escalations,
        unused_insert distinct.serial ready.jobs _, ?_⟩
      intro index later
      have earlier : answered ≤ index := by omega
      exact (indexed _).trans
        ((if_neg fun same => apart index earlier same.symm).trans (moved.classify index later))
    · intro id row present unknown
      rw [show _ = _ from inserted _ id] at present
      by_cases same : id = oracle answered .serial
      · rw [if_pos same] at present
        obtain rfl := Option.some.inj present
        exact ⟨rfl, rfl⟩
      · rw [if_neg same] at present
        exact absurd (present.symm.trans unknown) nofun
    · exact ⟨oracle answered .serial, _, fresh, (inserted _ _).trans (if_pos rfl), rfl, rfl⟩
    · rw [show db.jobIndex.lookup key = none from absent] at before
      cases before
    · exact (congrArg Option.isSome ((indexed key).trans (if_pos rfl))).trans rfl
    · intro other before
      refine (congrArg Option.isSome (indexed other)).trans ?_
      by_cases same : other = key
      · rw [if_pos same]
        rfl
      · rw [if_neg same]
        exact before
    · intro other apart
      exact (indexed other).trans (if_neg apart)
    · intro id row present unknown
      rw [show _ = _ from inserted _ id] at present
      by_cases same : id = oracle answered .serial
      · rw [if_pos same] at present
        obtain rfl := Option.some.inj present
        rfl
      · rw [if_neg same] at present
        exact absurd (present.symm.trans unknown) nofun
    · intro id row present
      have other : id ≠ oracle answered .serial := by
        rintro rfl
        exact absurd (fresh.symm.trans present) nofun
      exact (inserted _ id).trans ((if_neg other).trans present)

theorem select_of_lookup {Key Row : Type} [DecidableEq Key] {table : Table Key Row} {key : Key}
    {row : Row} (found : table.lookup key = some row) :
    (table.select fun other _ => other = key) = [(key, row)] := by
  have selected := table.select_key key fun _ _ => true
  rw [found] at selected
  simpa [Option.filter] using selected

/-- The table that `_safe_transition` leaves. -/
def safelyMoved (table : Table Uuid Prospect) (prospectId : Uuid) (target : ProspectState) :
    Table Uuid Prospect :=
  match table.lookup prospectId with
  | none => table
  | some row =>
      if target ∈ transitions row.state then
        table.modify (fun id _ => id = prospectId) fun row => { row with state := target }
      else table

theorem safelyMoved_of_legal {table : Table Uuid Prospect} {prospectId : Uuid} {row : Prospect}
    {target : ProspectState} (found : table.lookup prospectId = some row)
    (legal : target ∈ transitions row.state) : safelyMoved table prospectId target =
      table.modify (fun id _ => id = prospectId) fun row => { row with state := target } := by
  unfold safelyMoved
  rw [found]
  exact if_pos legal

theorem safelyMoved_of_illegal {table : Table Uuid Prospect} {prospectId : Uuid} {row : Prospect}
    {target : ProspectState} (found : table.lookup prospectId = some row)
    (illegal : target ∉ transitions row.state) : safelyMoved table prospectId target = table := by
  unfold safelyMoved
  rw [found]
  exact if_neg illegal

theorem same_prospects_safelyMoved (table : Table Uuid Prospect) (prospectId : Uuid)
    (target : ProspectState) : SameProspects table (safelyMoved table prospectId target) := by
  unfold safelyMoved
  cases table.lookup prospectId with
  | none => exact same_prospects_refl table
  | some row =>
      dsimp only
      split
      · exact same_prospects_modify table prospectId target
      · exact same_prospects_refl table

theorem solo_transition_refused {prospectId : Uuid} {row : Prospect} {target : ProspectState}
    (found : db.prospects.lookup prospectId = some row)
    (illegal : target ∉ transitions row.state) (actor reason : String) :
    solo oracle fault moment (transition prospectId target actor reason) ⟨db, answered, false⟩ =
      (.error ⟨.transitionError, "illegal transition " ++ row.state.text ++ " -> " ++ target.text⟩,
        ⟨db, answered, false⟩) := by
  unfold transition lockRowsMarked
  rw [solo_bind, solo_perform]
  dsimp only
  rw [select_of_lookup found]
  simp only [Effect.locking, illegal, not_false_eq_true, if_true, raise, solo_bind, solo_throw]
  rfl

theorem completes_transition {prospectId : Uuid} {row : Prospect} {target : ProspectState}
    (found : db.prospects.lookup prospectId = some row) (legal : target ∈ transitions row.state)
    (actor reason : String) :
    Completes oracle fault moment (transition prospectId target actor reason) db answered
      fun _ later taken => taken = answered ∧ ∃ entry : AuditEvent,
        entry.subjectType = "prospect" ∧ later =
          { db with
            prospects := db.prospects.modify (fun id _ => id = prospectId)
              fun row => { row with state := target }
            auditEvents := db.auditEvents ++ [entry] } := by
  unfold transition
  refine completes_bind (completes_lockRowsMarked _ _ _ ?_)
  rw [select_of_lookup found]
  dsimp only
  rw [if_neg (not_not_intro legal)]
  refine completes_bind (completes_update _ _ _ ?_)
  refine (completes_audit _ _ _ _ _).mono ?_
  intro _ later taken _ ended
  exact ⟨ended.1, _, rfl, ended.2⟩

theorem completes_safeTransition {prospectId : Uuid}
    (present : ∃ row, db.prospects.lookup prospectId = some row) (target : ProspectState) :
    Completes oracle fault moment (safeTransition prospectId target) db answered
      fun _ later taken => taken = answered ∧ ∃ entry : AuditEvent,
        entry.subjectType = "prospect" ∧ later =
          { db with
            prospects := safelyMoved db.prospects prospectId target
            auditEvents := db.auditEvents ++ [entry] } := by
  obtain ⟨row, found⟩ := present
  unfold safeTransition
  by_cases legal : target ∈ transitions row.state
  · refine completes_handle ?_
    rw [safelyMoved_of_legal found legal]
    exact completes_transition found legal _ _
  · refine completes_handle_raised (solo_transition_refused found legal _ _) ?_
    rw [if_pos rfl, safelyMoved_of_illegal found legal]
    refine (completes_audit _ _ _ _ _).mono ?_
    intro _ later taken _ ended
    exact ⟨ended.1, _, rfl, ended.2⟩

/-- The counter of a variant once an event of this kind is counted; it may be paused by that. -/
def VariantCounted (tenant variantId : String) (kind : Guardrail)
    (old new : Table (String × String) VariantStats) : Prop :=
  ∃ paused, new.lookup (tenant, variantId) =
    some { kind.count ((old.lookup (tenant, variantId)).getD {}) with paused := paused }

theorem completes_recordGuardrail (tenant variantId : String) (kind : Guardrail) :
    Completes oracle fault moment (recordGuardrail tenant variantId kind) db answered
      fun _ later taken => taken = answered ∧ ∃ stats audits,
        VariantCounted tenant variantId kind db.variantStats stats ∧
        later = { db with variantStats := stats, auditEvents := audits } := by
  have counted : (db.variantStats.upsert (tenant, variantId) (kind.count {}) fun row =>
      kind.count row).lookup (tenant, variantId) =
        some (kind.count ((db.variantStats.lookup (tenant, variantId)).getD {})) := by
    rw [Table.lookup_upsert, if_pos rfl]
    cases db.variantStats.lookup (tenant, variantId) <;> rfl
  unfold recordGuardrail countUp
  refine completes_bind (completes_upsertRow _ _ _ _ _ ?_)
  refine completes_bind (completes_query _ ?_)
  split
  · exact completes_pure _ ⟨rfl, _, _, ⟨_, counted⟩, rfl⟩
  · dsimp only
    split
    · refine completes_bind (completes_update _ _ _ ?_)
      refine (completes_audit _ _ _ _ _).mono ?_
      intro _ later taken _ ended
      refine ⟨ended.1, _, _, ⟨true, ?_⟩, ended.2⟩
      refine (Table.lookup_modify ..).trans ?_
      refine (congrArg (Option.map _) counted).trans ?_
      rw [Option.map_some, if_pos (decide_eq_true rfl)]
    · exact completes_pure _ ⟨rfl, _, _, ⟨_, counted⟩, rfl⟩

/-- The suppression that an event at this moment writes. -/
theorem completes_suppress (distinct : Distinct oracle)
    (ready : Ready platform oracle db answered) {email canonical : String}
    (readable : canonicalize platform email = .ok canonical) (reason : String) :
    Completes oracle fault moment (suppress platform email reason) db answered
      fun _ later taken => Ready platform oracle later taken ∧ ∃ jobs index, later =
        { db with
          suppressions := db.suppressions.upsert (canonical, globalScope)
            ⟨reason, none, moment.start.clock⟩ fun _ => ⟨reason, none, moment.start.clock⟩
          jobs := jobs, jobIndex := index } ∧
            JobAsked .control (.pauseLead canonical globalScope)
              (.pause canonical globalScope reason) db.jobs db.jobIndex jobs index := by
  unfold suppress
  rw [readable]
  refine completes_bind (completes_ofExcept _ ?_)
  refine completes_bind (completes_upsertRow _ _ _ _ _ ?_)
  dsimp only
  rw [if_pos rfl]
  have still : Ready platform oracle { db with
      suppressions := db.suppressions.upsert (canonical, globalScope)
        ⟨reason, none, moment.start.clock⟩ fun _ => ⟨reason, none, moment.start.clock⟩ }
      answered :=
    ready.of_tables (same_prospects_refl _) rfl rfl rfl rfl
  have apart : ∀ index, answered ≤ index →
      JobKey.pause canonical globalScope reason ≠ .classify (oracle index .uuid) :=
    fun _ _ => nofun
  refine completes_bind ((completes_enqueue distinct still _ _ _ _ _ apart).mono ?_)
  intro _ later taken _ ended
  obtain ⟨-, kept, jobs, index, written, asked⟩ := ended
  exact completes_pure _ ⟨kept, jobs, index, written, asked⟩

end Small

section Ingest

variable {deployment : Deployment}

/-- What the ingestion of mail leaves as it is. -/
structure Grown (db later : Database) : Prop where
  tenants : later.tenants = db.tenants
  touches : later.touches = db.touches
  prospects : SameProspects db.prospects later.prospects
  replies : ∀ id row, db.replies.lookup id = some row → later.replies.lookup id = some row
  suppressions : ∀ key row, db.suppressions.lookup key = some row → row.expiresAt = none →
    ∃ other, later.suppressions.lookup key = some other ∧ other.expiresAt = none
  providerEvents : ∀ key row, db.providerEvents.lookup key = some row →
    later.providerEvents.lookup key = some row

namespace Grown

theorem refl (db : Database) : Grown db db :=
  ⟨rfl, rfl, same_prospects_refl _, fun _ _ found => found,
    fun _ row found lasting => ⟨row, found, lasting⟩, fun _ _ found => found⟩

theorem trans {first second third : Database} (early : Grown first second)
    (late : Grown second third) : Grown first third where
  tenants := late.tenants.trans early.tenants
  touches := late.touches.trans early.touches
  prospects id := (late.prospects id).trans (early.prospects id)
  replies id row found := late.replies id row (early.replies id row found)
  suppressions key row found lasting := by
    obtain ⟨other, present, still⟩ := early.suppressions key row found lasting
    exact late.suppressions key other present still
  providerEvents key row found := late.providerEvents key row (early.providerEvents key row found)

/-- The join behind an event finds the same rows, up to the prospect's state. -/
theorem joined {db later : Database} (grown : Grown db later) {touchId : Uuid} {touch : Touch}
    {prospect : Prospect} {tenant : String}
    (found : joinedTouch db touchId = some (touch, prospect, tenant)) :
    ∃ other, joinedTouch later touchId = some (touch, other, tenant) ∧
      other.stateless = prospect.stateless := by
  unfold joinedTouch at found ⊢
  simp only [Option.bind_eq_some_iff, Option.map_eq_some_iff, Prod.mk.injEq] at found ⊢
  obtain ⟨_, hit, row, present, slug, named, rfl, rfl, rfl⟩ := found
  obtain ⟨other, same_row, same⟩ := grown.prospects.found present
  have tenant := congrArg Prospect.tenantId same
  refine ⟨other, ⟨_, ?_, other, same_row, slug, ?_, rfl, rfl, rfl⟩, same⟩
  · rw [grown.touches]
    exact hit
  · rw [grown.tenants, show other.tenantId = row.tenantId from tenant]
    exact named

end Grown

/-- One reply has come in for this touch, with a job to classify it. -/
structure ReplyRecorded (touchId prospectId : Uuid) (body : List Char) (time : Time) (id : Uuid)
    (db later : Database) : Prop where
  fresh : db.replies.lookup id = none
  present : later.replies.lookup id =
    some { prospectId, touchId, body := some body, receivedAt := time }
  others : ∀ other, other ≠ id → later.replies.lookup other = db.replies.lookup other
  job : ∃ jobId row, db.jobs.lookup jobId = none ∧ later.jobs.lookup jobId = some row ∧
    row.queue = .classify ∧ row.payload = .reply id
  jobs : ∀ jobId row, later.jobs.lookup jobId = some row → db.jobs.lookup jobId = none →
    row.queue = .classify ∧ row.payload = .reply id

theorem completes_actReply (distinct : Distinct oracle)
    (ready : Ready platform oracle db answered) {touch : Touch} {prospect : Prospect}
    (found : db.prospects.lookup touch.prospectId = some prospect) (tenant : String)
    (touchId : Uuid) (payload : Payload) :
    Completes oracle fault moment (actReply (touch, prospect, tenant) touchId payload) db answered
      fun _ later taken => Ready platform oracle later taken ∧ Grown db later ∧
        later.providerEvents = db.providerEvents ∧ later.suppressions = db.suppressions ∧
        ∃ id, ReplyRecorded touchId touch.prospectId (actReply.bodyOf payload) moment.start.clock
          id db later ∧ JobAsked .classify (.reply id) (.classify id) db.jobs db.jobIndex later.jobs
            later.jobIndex := by
  have fresh := ready.replies answered (Nat.le_refl _)
  unfold actReply
  refine completes_bind (completes_ask _ ?_)
  refine completes_bind (completes_insertRow _ _ _ _ _ _ rfl fresh ?_)
  have moved := ready.advance (Nat.le_succ answered)
  have still : Ready platform oracle { db with
      replies := db.replies.insert (oracle answered .uuid)
        { prospectId := touch.prospectId, touchId, body := some (actReply.bodyOf payload)
          receivedAt := moment.start.clock } } (answered + 1) :=
    ⟨moved.canonical, unused_insert distinct.uuid ready.replies _, moved.escalations, moved.jobs,
      moved.classify⟩
  have apart : ∀ index, answered + 1 ≤ index →
      JobKey.classify (oracle answered .uuid) ≠ .classify (oracle index .uuid) := by
    intro index later same
    have equal := distinct.uuid _ _ (JobKey.classify.inj same)
    omega
  refine completes_bind ((completes_enqueue distinct still _ _ _ _ _ apart).mono ?_)
  rintro _ middle taken - ⟨-, kept, jobs, index, rfl, asked⟩
  have job := asked.fresh (ready.classify answered (Nat.le_refl _))
  refine Completes.mono (completes_safeTransition ?_ .engaged) ?_
  · exact ⟨prospect, found⟩
  rintro _ later total counted ⟨rfl, entry, -, rfl⟩
  have inserted : ∀ other, (db.replies.insert (oracle answered .uuid)
      { prospectId := touch.prospectId, touchId, body := some (actReply.bodyOf payload)
        receivedAt := moment.start.clock }).lookup other =
      if other = oracle answered .uuid then
        some { prospectId := touch.prospectId, touchId, body := some (actReply.bodyOf payload)
               receivedAt := moment.start.clock }
      else db.replies.lookup other := by
    intro other
    rw [Table.lookup_insert, show db.replies.lookup (oracle answered .uuid) = none from fresh]
    rfl
  refine ⟨kept.of_tables (same_prospects_safelyMoved _ _ _) rfl rfl rfl rfl, ?_, rfl, rfl,
    oracle answered .uuid, ⟨fresh, ?_, ?_, job, asked.only⟩, asked⟩
  · refine ⟨rfl, rfl, same_prospects_safelyMoved _ _ _, ?_, fun _ row present lasting =>
      ⟨row, present, lasting⟩, fun _ _ present => present⟩
    intro id old present
    have other : id ≠ oracle answered .uuid := by
      rintro rfl
      exact absurd (fresh.symm.trans present) nofun
    exact (inserted id).trans ((if_neg other).trans present)
  · exact (inserted _).trans (if_pos rfl)
  · intro other apart
    exact (inserted other).trans (if_neg apart)

theorem nonEmpty_eq_some {text : Option String} {value : String}
    (holds : nonEmpty text = some value) : text = some value :=
  (Option.filter_eq_some_iff.1 holds).1

/-- The suppressions once the address, where there is one, is suppressed for good. -/
def suppressing (table : Table (String × String) Suppression) (email : Option String)
    (reason : String) (time : Time) : Table (String × String) Suppression :=
  match email with
  | none => table
  | some email =>
      table.upsert (email, globalScope) ⟨reason, none, time⟩ fun _ => ⟨reason, none, time⟩

theorem suppressing_lasting (table : Table (String × String) Suppression) (email : Option String)
    (reason : String) (time : Time) (key : String × String) (row : Suppression)
    (found : table.lookup key = some row) (lasting : row.expiresAt = none) :
    ∃ other, (suppressing table email reason time).lookup key = some other ∧
      other.expiresAt = none := by
  cases email with
  | none => exact ⟨row, found, lasting⟩
  | some email =>
      by_cases same : key = (email, globalScope)
      · refine ⟨⟨reason, none, time⟩, (Table.lookup_upsert ..).trans ?_, rfl⟩
        rw [if_pos same, ← same, found]
        rfl
      · refine ⟨row, (Table.lookup_upsert ..).trans ?_, lasting⟩
        rw [if_neg same, found]

/-- The pause of the address, where there is one, has been asked for. -/
def PauseAsked (email : Option String) (reason : String) (db : Database) (jobs : Table Nat JobRow)
    (index : Table JobKey Nat) : Prop :=
  match email with
  | none => jobs = db.jobs ∧ index = db.jobIndex
  | some email => JobAsked .control (.pauseLead email globalScope)
      (.pause email globalScope reason) db.jobs db.jobIndex jobs index

theorem PauseAsked.newJobs {email : Option String} {reason : String} {jobs : Table Nat JobRow}
    {index : Table JobKey Nat} (asked : PauseAsked email reason db jobs index) :
    NewJobs .control db.jobs jobs := by
  cases email with
  | none =>
      rw [asked.1]
      exact newJobs_refl _ _
  | some email => exact JobAsked.newJobs asked

/-- The counter of the touch's variant, where it has one. -/
def GuardrailCounted (touch : Touch) (tenant : String) (kind : Guardrail)
    (old new : Table (String × String) VariantStats) : Prop :=
  match nonEmpty touch.variantId with
  | none => new = old
  | some variantId => VariantCounted tenant variantId kind old new

/-- What `safetyEvent` does once the address is suppressed. -/
def guardVariant (touch : Touch) (tenant : String) (kind : Guardrail) (target : ProspectState) :
    Prog Unit := do
  match nonEmpty touch.variantId with
  | some variantId => recordGuardrail tenant variantId kind
  | none => pure ()
  safeTransition touch.prospectId target

theorem completes_safetyEvent (distinct : Distinct oracle)
    (ready : Ready deployment.platform oracle db answered) {touch : Touch} {prospect : Prospect}
    (found : db.prospects.lookup touch.prospectId = some prospect) (tenant reason : String)
    (kind : Guardrail) (target : ProspectState) :
    Completes oracle fault moment
      (safetyEvent deployment (touch, prospect, tenant) reason kind target) db answered
      fun _ later taken => Ready deployment.platform oracle later taken ∧ Grown db later ∧
        later.providerEvents = db.providerEvents ∧ later.replies = db.replies ∧
        later.suppressions = suppressing db.suppressions (nonEmpty prospect.emailCanonical) reason
          moment.start.clock ∧
        PauseAsked (nonEmpty prospect.emailCanonical) reason db later.jobs later.jobIndex ∧
        later.prospects = safelyMoved db.prospects touch.prospectId target ∧
        GuardrailCounted touch tenant kind db.variantStats later.variantStats := by
  -- what follows the suppression, from a state with other suppressions and jobs
  have rest : ∀ suppressions jobs index taken,
      PauseAsked (nonEmpty prospect.emailCanonical) reason db jobs index →
      suppressions = suppressing db.suppressions (nonEmpty prospect.emailCanonical) reason
        moment.start.clock →
      Ready deployment.platform oracle
        { db with suppressions := suppressions, jobs := jobs, jobIndex := index } taken →
      Completes oracle fault moment
        (guardVariant touch tenant kind target)
        { db with suppressions := suppressions, jobs := jobs, jobIndex := index } taken
        fun _ later taken => Ready deployment.platform oracle later taken ∧ Grown db later ∧
          later.providerEvents = db.providerEvents ∧ later.replies = db.replies ∧
          later.suppressions = suppressing db.suppressions (nonEmpty prospect.emailCanonical)
            reason moment.start.clock ∧
          PauseAsked (nonEmpty prospect.emailCanonical) reason db later.jobs later.jobIndex ∧
          later.prospects = safelyMoved db.prospects touch.prospectId target ∧
          GuardrailCounted touch tenant kind db.variantStats later.variantStats := by
    intro suppressions jobs index taken asked written still
    have grown : ∀ stats audits, Grown db { db with
        suppressions := suppressions, jobs := jobs, jobIndex := index, variantStats := stats
        auditEvents := audits, prospects := safelyMoved db.prospects touch.prospectId target } := by
      intro stats audits
      refine ⟨rfl, rfl, same_prospects_safelyMoved _ _ _, fun _ _ present => present, ?_,
        fun _ _ present => present⟩
      rw [written]
      exact suppressing_lasting _ _ _ _
    unfold guardVariant GuardrailCounted
    cases nonEmpty touch.variantId with
    | none =>
        refine Completes.mono (completes_safeTransition ?_ target) ?_
        · exact ⟨prospect, found⟩
        rintro _ later total counted ⟨rfl, entry, -, rfl⟩
        exact ⟨still.of_tables (same_prospects_safelyMoved _ _ _) rfl rfl rfl rfl,
          grown db.variantStats _, rfl, rfl, written, asked, rfl, rfl⟩
    | some variantId =>
        refine completes_bind ((completes_recordGuardrail tenant variantId kind).mono ?_)
        rintro _ middle _ - ⟨rfl, stats, _, counted, rfl⟩
        refine Completes.mono (completes_safeTransition ?_ target) ?_
        · exact ⟨prospect, found⟩
        rintro _ later total - ⟨rfl, entry, -, rfl⟩
        exact ⟨still.of_tables (same_prospects_safelyMoved _ _ _) rfl rfl rfl rfl,
          grown stats _, rfl, rfl, written, asked, rfl, counted⟩
  unfold safetyEvent
  dsimp only
  cases stored : nonEmpty prospect.emailCanonical with
  | none =>
      rw [stored] at rest
      exact rest db.suppressions db.jobs db.jobIndex answered ⟨rfl, rfl⟩ rfl ready
  | some email =>
      rw [stored] at rest
      have readable := ready.canonical _ _ _ found (nonEmpty_eq_some stored)
      refine completes_bind ((completes_suppress distinct ready readable reason).mono ?_)
      rintro _ middle taken - ⟨kept, jobs, index, rfl, asked⟩
      exact rest _ jobs index taken asked rfl kept

def InboundPayload.text : InboundPayload → List Char
  | .body (.text value) => value
  | _ => []

theorem bodyOf_json {payload : InboundPayload} {fields : Payload}
    (dumped : payload.json = some fields) : actReply.bodyOf fields = payload.text := by
  cases payload with
  | transport =>
      obtain rfl := Option.some.inj dumped
      rfl
  | body content =>
      cases content with
      | text value =>
          obtain rfl := Option.some.inj dumped
          exact String.toList_ofList
      | bytes shown => cases dumped
      | unreadable => cases dumped

def InboundEvent.key (event : InboundEvent) : String × String :=
  (providerName, event.providerEventId)

/-- What an event has done, going by the state it was ingested in: nothing where its id
is known or its touch is not, and else what its kind asks for. -/
def Ingested (event : InboundEvent) (time : Time) (db later : Database) : Prop :=
  match db.providerEvents.lookup event.key, joinedTouch db event.touchId with
  | none, some (touch, prospect, tenant) =>
      (event.kind = .reply ∧ later.suppressions = db.suppressions ∧
        ∃ id, ReplyRecorded event.touchId touch.prospectId event.payload.text time id db later) ∨
      (event.kind = .bounce ∧ NewJobs .control db.jobs later.jobs ∧
        later.replies = db.replies ∧ later.suppressions =
          suppressing db.suppressions (nonEmpty prospect.emailCanonical) "bounce" time ∧
        later.prospects = safelyMoved db.prospects touch.prospectId .bounced ∧
        GuardrailCounted touch tenant .bounce db.variantStats later.variantStats)
  | _, _ => later.jobs = db.jobs ∧ later.suppressions = db.suppressions

theorem Ingested.acted {event : InboundEvent} {time : Time} {db later : Database} {touch : Touch}
    {prospect : Prospect} {tenant : String} (ingested : Ingested event time db later)
    (unseen : db.providerEvents.lookup event.key = none)
    (joined : joinedTouch db event.touchId = some (touch, prospect, tenant)) :
    (event.kind = .reply ∧ later.suppressions = db.suppressions ∧
      ∃ id, ReplyRecorded event.touchId touch.prospectId event.payload.text time id db later) ∨
    (event.kind = .bounce ∧ NewJobs .control db.jobs later.jobs ∧ later.replies = db.replies ∧
      later.suppressions =
        suppressing db.suppressions (nonEmpty prospect.emailCanonical) "bounce" time ∧
      later.prospects = safelyMoved db.prospects touch.prospectId .bounced ∧
      GuardrailCounted touch tenant .bounce db.variantStats later.variantStats) := by
  unfold Ingested at ingested
  rw [unseen, joined] at ingested
  exact ingested

theorem Ingested.idle {event : InboundEvent} {time : Time} {db later : Database}
    (ingested : Ingested event time db later)
    (passed : (db.providerEvents.lookup event.key).isSome = true ∨
      joinedTouch db event.touchId = none) :
    later.jobs = db.jobs ∧ later.suppressions = db.suppressions := by
  unfold Ingested at ingested
  rcases passed with seen | unknown
  · obtain ⟨row, found⟩ := Option.isSome_iff_exists.1 seen
    rw [found] at ingested
    exact ingested
  · rw [unknown] at ingested
    cases found : db.providerEvents.lookup event.key with
    | none =>
        rw [found] at ingested
        exact ingested
    | some row =>
        rw [found] at ingested
        exact ingested

theorem found_of_joined {touchId : Uuid} {touch : Touch} {prospect : Prospect} {tenant : String}
    (joined : joinedTouch db touchId = some (touch, prospect, tenant)) :
    db.prospects.lookup touch.prospectId = some prospect := by
  unfold joinedTouch at joined
  simp only [Option.bind_eq_some_iff, Option.map_eq_some_iff, Prod.mk.injEq] at joined
  obtain ⟨_, _, _, present, _, _, rfl, rfl, _⟩ := joined
  exact present

theorem named_of_joined {touchId : Uuid} {touch : Touch} {prospect : Prospect} {tenant : String}
    (joined : joinedTouch db touchId = some (touch, prospect, tenant)) :
    db.tenants.lookup prospect.tenantId = some tenant := by
  unfold joinedTouch at joined
  simp only [Option.bind_eq_some_iff, Option.map_eq_some_iff, Prod.mk.injEq] at joined
  obtain ⟨_, _, _, _, _, named, _, rfl, rfl⟩ := joined
  exact named

/-- An event with an id and a payload that the database takes. -/
structure Storable (event : InboundEvent) : Prop where
  json : event.payload.json.isSome = true
  plain : (storable event.providerEventId.toList && event.payload.storable) = true

instance (event : InboundEvent) : Decidable (Storable event) :=
  decidable_of_iff (event.payload.json.isSome = true ∧
      (storable event.providerEventId.toList && event.payload.storable) = true)
    ⟨fun both => ⟨both.1, both.2⟩, fun stored => ⟨stored.json, stored.plain⟩⟩

/-- The event is on record from here on. -/
theorem completes_actOn (distinct : Distinct oracle)
    (ready : Ready deployment.platform oracle db answered) {event : InboundEvent}
    {fields : Payload} (dumped : event.payload.json = some fields)
    (kind : event.kind = .reply ∨ event.kind = .bounce)
    (absent : db.providerEvents.lookup event.key = none) (row : ProviderEventRow) :
    Completes oracle fault moment
      (actOn deployment ⟨event.providerEventId, event.kind, some event.touchId, fields⟩)
      { db with providerEvents := db.providerEvents.insert event.key row } answered
      fun _ later taken => Ready deployment.platform oracle later taken ∧
        Grown { db with providerEvents := db.providerEvents.insert event.key row } later ∧
        later.providerEvents = db.providerEvents.insert event.key row ∧
        Ingested event moment.start.clock db later := by
  have still : Ready deployment.platform oracle
      { db with providerEvents := db.providerEvents.insert event.key row } answered :=
    ready.of_tables (same_prospects_refl _) rfl rfl rfl rfl
  unfold actOn
  dsimp only
  refine completes_bind (completes_query _ ?_)
  have same : joinedTouch
      { db with providerEvents := db.providerEvents.insert event.key row } event.touchId =
      joinedTouch db event.touchId := rfl
  unfold Ingested
  rw [same, absent]
  cases joined : joinedTouch db event.touchId with
  | none =>
      rcases kind with kind | kind <;> rw [kind] <;>
        exact completes_pure _ ⟨still, Grown.refl _, rfl, rfl, rfl⟩
  | some joins =>
      obtain ⟨touch, prospect, tenant⟩ := joins
      have found := found_of_joined joined
      rcases kind with kind | kind <;> rw [kind]
      · refine (completes_actReply distinct still found tenant event.touchId fields).mono ?_
        rintro _ later taken - ⟨kept, grown, events, unchanged, id, recorded, -⟩
        rw [bodyOf_json dumped] at recorded
        exact ⟨kept, grown, events, Or.inl ⟨rfl, unchanged, id, recorded.fresh, recorded.present,
          recorded.others, recorded.job, recorded.jobs⟩⟩
      · refine (completes_safetyEvent distinct still found tenant "bounce" .bounce .bounced).mono ?_
        rintro _ later taken - ⟨kept, grown, events, replies, suppressions, asked, moved, counted⟩
        exact ⟨kept, grown, events, Or.inr ⟨rfl, PauseAsked.newJobs asked, replies, suppressions,
          moved, counted⟩⟩

theorem completes_ingestInbound (distinct : Distinct oracle)
    (ready : Ready deployment.platform oracle db answered) {event : InboundEvent}
    (kind : event.kind = .reply ∨ event.kind = .bounce) (stored : Storable event) :
    Completes oracle fault moment (ingestInbound deployment event) db answered
      fun _ later taken => Ready deployment.platform oracle later taken ∧ Grown db later ∧
        (∀ key, (later.providerEvents.lookup key).isSome ↔
          (db.providerEvents.lookup key).isSome ∨ key = event.key) ∧
        Ingested event moment.start.clock db later := by
  obtain ⟨fields, dumped⟩ := Option.isSome_iff_exists.1 stored.json
  unfold ingestInbound
  rw [dumped]
  dsimp only
  rw [if_pos stored.plain]
  unfold ingestEvent
  refine completes_bind (completes_insertNew _ _ _ ?_ ?_)
  · intro old found
    rw [if_neg Bool.false_ne_true]
    refine completes_pure _ ⟨ready, Grown.refl db, ?_, ?_⟩
    · intro key
      constructor
      · exact Or.inl
      · rintro (known | rfl)
        · exact known
        · exact Option.isSome_iff_exists.2 ⟨old, found⟩
    · unfold Ingested
      rw [show db.providerEvents.lookup event.key = some old from found]
      exact ⟨rfl, rfl⟩
  · intro absent
    rw [if_pos rfl]
    refine (completes_actOn distinct ready dumped kind absent _).mono ?_
    rintro _ later taken - ⟨kept, grown, events, handled⟩
    have inserted : ∀ key, later.providerEvents.lookup key =
        if key = event.key then some ⟨event.kind.text, fields⟩
        else db.providerEvents.lookup key := by
      intro key
      rw [events, Table.lookup_insert, show db.providerEvents.lookup event.key = none from absent]
      rfl
    refine ⟨kept, ?_, ?_, handled⟩
    · refine ⟨grown.tenants, grown.touches, grown.prospects, grown.replies, grown.suppressions, ?_⟩
      intro key old found
      have other : key ≠ event.key := by
        rintro rfl
        exact absurd (found.symm.trans absent) nofun
      rw [inserted, if_neg other]
      exact found
    · intro key
      rw [inserted]
      by_cases same : key = event.key
      · simp [same]
      · simp [same]

end Ingest

section Classify

variable {deployment : Deployment}

theorem completes_escalate (distinct : Distinct oracle)
    (ready : Ready platform oracle db answered) (tenant : Option String)
    (subjectType subjectId reason : String) (payload : Payload) :
    Completes oracle fault moment (escalate tenant subjectType subjectId reason payload) db answered
      fun _ later taken => Ready platform oracle later taken ∧ later =
        { db with
          escalations := db.escalations.insert (oracle answered .uuid)
            ⟨tenant, subjectType, subjectId, reason, payload, none⟩ } := by
  have fresh := ready.escalations answered (Nat.le_refl _)
  have moved := ready.advance (Nat.le_succ answered)
  unfold escalate
  refine completes_bind (completes_ask _ ?_)
  refine completes_insertRow _ _ _ _ _ _ rfl fresh ⟨?_, rfl⟩
  exact ⟨moved.canonical, moved.replies, unused_insert distinct.uuid ready.escalations _, moved.jobs,
    moved.classify⟩

theorem completes_setCohortCap (cohortId : String) (period : Period) (change : Nat → Nat) :
    Completes oracle fault moment (setCohortCap cohortId period change) db answered
      fun _ later taken => taken = answered ∧ ∃ counters, later = { db with counters := counters } := by
  unfold setCohortCap
  refine completes_bind (completes_update _ _ _ ?_)
  exact completes_pure _ ⟨rfl, _, rfl⟩

/-- The replies that an evaluation of the cohort looks at. -/
def recentIntents (db : Database) (tenant cohortId : String) : List Intent :=
  ((classified db tenant cohortId).take window).reverse

/-- An evaluation is due, and it comes out below the threshold for a pause. -/
def Sours (score : List Intent → Rat) (db : Database) (tenant cohortId : String) : Prop :=
  (classified db tenant cohortId).length ≠ 0 ∧
    (classified db tenant cohortId).length % evaluateEvery = 0 ∧
    minReplies ≤ (recentIntents db tenant cohortId).length ∧
    score (recentIntents db tenant cohortId) < pauseBelow

/-- The cohort has been paused in this period. -/
def pausedIn (db : Database) (cohortId : String) (period : Period) : Bool :=
  alreadyActed db cohortId "sentiment_pause" period

theorem pausedIn_append (db : Database) (cohortId : String) (period : Period)
    (entry : AuditEvent) :
    pausedIn { db with auditEvents := db.auditEvents ++ [entry] } cohortId period =
      (pausedIn db cohortId period || (entry.subjectType = "cohort" &&
        entry.subjectId = cohortId && entry.event = "sentiment_pause" &&
        entry.payload.lookup "period" = some (alreadyActed.periodField period))) := by
  unfold pausedIn alreadyActed
  rw [List.any_append, List.any_cons, List.any_nil, Bool.or_false]

theorem pausedIn_pause (db : Database) (cohortId : String) (period month : Period)
    (rest : Payload) (actor : String) :
    pausedIn { db with auditEvents := db.auditEvents ++ [⟨"cohort", cohortId, "sentiment_pause",
        ("period", alreadyActed.periodField month) :: rest, actor⟩] } cohortId period = true ↔
      pausedIn db cohortId period = true ∨
        alreadyActed.periodField period = alreadyActed.periodField month := by
  rw [pausedIn_append, Bool.or_eq_true]
  simp only [decide_true, Bool.true_and, decide_eq_true_eq, List.lookup_cons_self,
    Option.some.injEq]
  exact or_congr_right eq_comm

theorem pausedIn_congr (db : Database) (cohortId : String) {period other : Period}
    (same : alreadyActed.periodField period = alreadyActed.periodField other) :
    pausedIn db cohortId period = pausedIn db cohortId other := by
  unfold pausedIn alreadyActed
  rw [same]

/-- What the evaluation of a cohort leaves when the clock shows `time`. -/
structure Evaluated (score : List Intent → Rat) (tenant cohortId : String) (time : Time)
    (db later : Database) : Prop where
  paused : Sours score db tenant cohortId → pausedIn db cohortId (monthOf time) = false →
    ∃ id, db.escalations.lookup id = none ∧ (later.escalations.lookup id).isSome = true
  calm : ¬ (Sours score db tenant cohortId ∧ pausedIn db cohortId (monthOf time) = false) →
    later.escalations = db.escalations
  noted : ∀ period, pausedIn later cohortId period = true ↔
    pausedIn db cohortId period = true ∨ Sours score db tenant cohortId ∧
      alreadyActed.periodField period = alreadyActed.periodField (monthOf time)

/-- Every row that was there is there still. -/
def StillThere {Row : Type} (before after : Table Uuid Row) : Prop :=
  ∀ id, (before.lookup id).isSome = true → (after.lookup id).isSome = true

theorem still_there_refl {Row : Type} (table : Table Uuid Row) : StillThere table table :=
  fun _ there => there

theorem still_there_insert {Row : Type} (table : Table Uuid Row) (id : Uuid) (row : Row) :
    StillThere table (table.insert id row) := by
  intro other there
  rw [Table.lookup_insert]
  by_cases same : other = id
  · rw [if_pos same]
    rfl
  · rw [if_neg same]
    exact there

theorem evaluated_of_well {score : List Intent → Rat} {tenant cohortId : String} {time : Time}
    {db later : Database} (well : ¬ Sours score db tenant cohortId)
    (escalations : later.escalations = db.escalations)
    (audits : ∀ period, pausedIn later cohortId period = pausedIn db cohortId period) :
    Evaluated score tenant cohortId time db later := by
  refine ⟨fun sour => absurd sour well, fun _ => escalations, ?_⟩
  intro period
  rw [audits period]
  constructor
  · exact Or.inl
  · rintro (before | ⟨sour, _⟩)
    · exact before
    · exact absurd sour well

/-- What the clock shows between two answers. -/
def ClockReads (oracle : Nat → (call : Call) → call.Answer) (answered taken : Nat)
    (time : Time) : Prop :=
  ∀ index, answered ≤ index → index < taken → oracle index .now = time

theorem ClockReads.within {answered taken first last : Nat} {time : Time}
    (reads : ClockReads oracle answered taken time) (early : answered ≤ first)
    (late : last ≤ taken) : ClockReads oracle first last time :=
  fun index lower upper => reads index (Nat.le_trans early lower) (Nat.lt_of_lt_of_le upper late)

theorem completes_maybeEvaluate (distinct : Distinct oracle)
    (ready : Ready platform oracle db answered) (tenant cohortId : String) :
    Completes oracle fault moment (maybeEvaluate tenant cohortId) db answered
      fun _ later taken => Ready platform oracle later taken ∧
        (∃ counters audits escalations, StillThere db.escalations escalations ∧ later = { db with
          counters := counters, auditEvents := audits, escalations := escalations }) ∧
        ∀ score time, (∀ index intents, oracle index (.sentiment intents) = score intents) →
          ClockReads oracle answered taken time →
          Evaluated score tenant cohortId time db later := by
  unfold maybeEvaluate
  refine completes_bind (completes_markedQuery _ _ ?_)
  split
  next due =>
    unfold evaluateCohort
    refine completes_bind (completes_markedQuery _ _ ?_)
    refine completes_bind (completes_ask _ ?_)
    have onward := ready.advance (Nat.le_succ answered)
    have further := onward.advance (Nat.le_succ _)
    change Completes oracle fault moment (if (recentIntents db tenant cohortId).length < _ then _ else _) _ _ _
    split
    next few =>
      refine completes_pure _ ⟨onward, ⟨_, _, _, still_there_refl _, rfl⟩, fun score time _ _ =>
        evaluated_of_well ?_ rfl fun _ => rfl⟩
      rintro ⟨_, _, enough, _⟩
      omega
    next enough =>
      refine completes_bind (completes_ask _ ?_)
      dsimp only
      split
      next low =>
        refine completes_bind (completes_query _ ?_)
        split
        next acted =>
          refine completes_pure _ ⟨further, ⟨_, _, _, still_there_refl _, rfl⟩, fun score time scored reads => ?_⟩
          rw [reads _ (Nat.le_succ _) (Nat.lt_succ_self _)] at acted
          refine ⟨fun _ calm => absurd (calm.symm.trans acted) nofun, fun _ => rfl, ?_⟩
          intro period
          constructor
          · exact Or.inl
          · rintro (before | ⟨_, same⟩)
            · exact before
            · exact (pausedIn_congr db cohortId same).trans acted
        next idle =>
          refine completes_bind ((completes_setCohortCap _ _ _).mono ?_)
          rintro prior middle _ - ⟨rfl, counters, rfl⟩
          refine completes_bind ((completes_audit _ _ _ _ _).mono ?_)
          rintro _ _ _ - ⟨rfl, rfl⟩
          have still : ∀ audits, Ready platform oracle { db with
              counters := counters, auditEvents := audits } (answered + 1 + 1) :=
            fun _ => further.of_tables (same_prospects_refl _) rfl rfl rfl rfl
          refine (completes_escalate distinct (still _) _ _ _ _ _).mono ?_
          rintro _ later taken counted ⟨kept, rfl⟩
          refine ⟨kept, ⟨_, _, _, still_there_insert _ _ _, rfl⟩, fun score time scored reads => ?_⟩
          have shown : oracle (answered + 1) .now = time :=
            reads _ (Nat.le_succ _) (by omega)
          rw [shown] at idle
          have sour : Sours score db tenant cohortId := by
            rw [scored answered] at low
            exact ⟨due.1, due.2, by omega, low⟩
          have fresh := further.escalations (answered + 1 + 1) (Nat.le_refl _)
          refine ⟨fun _ _ => ⟨oracle (answered + 1 + 1) .uuid, fresh, ?_⟩, fun spared => ?_, ?_⟩
          · exact (congrArg Option.isSome (Table.lookup_insert ..)).trans
              ((congrArg Option.isSome (if_pos rfl)).trans rfl)
          · exact absurd ⟨sour, by simpa [pausedIn] using idle⟩ spared
          · intro period
            subst shown
            refine (pausedIn_pause db cohortId period _ _ _).trans ?_
            simp only [sour, true_and]
      next high =>
        have well : ∀ score, (∀ index intents, oracle index (.sentiment intents) = score intents) →
            ¬ Sours score db tenant cohortId := by
          rintro score scored ⟨_, _, _, low⟩
          rw [← scored answered] at low
          exact high low
        split
        · refine completes_bind (completes_query _ ?_)
          split
          · exact completes_pure _ ⟨further, ⟨_, _, _, still_there_refl _, rfl⟩, fun score time scored _ =>
              evaluated_of_well (well score scored) rfl fun _ => rfl⟩
          · refine completes_bind ((completes_setCohortCap _ _ _).mono ?_)
            rintro prior middle _ - ⟨rfl, counters, rfl⟩
            refine (completes_audit _ _ _ _ _).mono ?_
            rintro _ _ _ - ⟨rfl, rfl⟩
            refine ⟨further.of_tables (same_prospects_refl _) rfl rfl rfl rfl, ⟨_, _, _, still_there_refl _, rfl⟩,
              fun score time scored _ => evaluated_of_well (well score scored) rfl fun period => ?_⟩
            refine (pausedIn_append _ _ _ _).trans ?_
            simp [pausedIn, alreadyActed]
        · exact completes_pure _ ⟨further, ⟨_, _, _, still_there_refl _, rfl⟩, fun score time scored _ =>
            evaluated_of_well (well score scored) rfl fun _ => rfl⟩
  next undue =>
    refine completes_pure _ ⟨ready, ⟨_, _, _, still_there_refl _, rfl⟩, fun score time _ _ =>
      evaluated_of_well ?_ rfl fun _ => rfl⟩
    rintro ⟨some, multiple, _⟩
    exact undue ⟨some, multiple⟩

/-- The decision of the pre-pass. -/
def optOutDecision : RouteDecision :=
  ⟨.suppressUnsubscribe, .unsubscribe, 1, "deterministic pre-pass", none⟩

theorem completes_applyOptOut (distinct : Distinct oracle)
    (ready : Ready deployment.platform oracle db answered) (replyId : Uuid) {prospectId : Uuid}
    {prospect : Prospect} (found : db.prospects.lookup prospectId = some prospect)
    (tenant : String) :
    Completes oracle fault moment
      (applyDecision deployment optOutDecision replyId prospectId prospect.emailCanonical tenant) db
      answered fun _ later taken => Ready deployment.platform oracle later taken ∧
        SameProspects db.prospects later.prospects ∧ later.suppressions =
          suppressing db.suppressions (nonEmpty prospect.emailCanonical) "unsubscribe"
            moment.start.clock := by
  unfold applyDecision optOutDecision
  dsimp only
  cases stored : nonEmpty prospect.emailCanonical with
  | none => exact completes_pure _ ⟨ready, same_prospects_refl _, rfl⟩
  | some email =>
      have readable := ready.canonical _ _ _ found (nonEmpty_eq_some stored)
      refine completes_bind ((completes_suppress distinct ready readable "unsubscribe").mono ?_)
      rintro _ middle taken - ⟨kept, jobs, index, rfl, -⟩
      refine Completes.mono (completes_safeTransition ?_ .unsubscribed) ?_
      · exact ⟨prospect, found⟩
      rintro _ later total - ⟨rfl, entry, -, rfl⟩
      exact ⟨kept.of_tables (same_prospects_safelyMoved _ _ _) rfl rfl rfl rfl,
        same_prospects_safelyMoved _ _ _, rfl⟩

/-- A reply that the pre-pass takes for an opt-out is dealt with whatever a model would
have answered. -/
theorem completes_classify_optOut (distinct : Distinct oracle)
    (ready : Ready deployment.platform oracle db answered) {replyId : Uuid} {reply : Reply}
    (replied : db.replies.lookup replyId = some reply) {body : List Char}
    (text : reply.body = some body) {prospect : Prospect}
    (found : db.prospects.lookup reply.prospectId = some prospect) {tenant : String}
    (named : db.tenants.lookup prospect.tenantId = some tenant)
    (asks : (deployment.platform.search unsubscribeRe body).isSome = true) :
    Completes oracle fault moment (classify deployment replyId) db answered fun _ later _ =>
      later.suppressions = suppressing db.suppressions (nonEmpty prospect.emailCanonical)
        "unsubscribe" moment.start.clock := by
  unfold classify
  refine completes_bind (completes_query _ ?_)
  rw [replied, Option.bind_some, found, Option.bind_some, named, Option.map_some]
  dsimp only
  rw [text]
  dsimp only
  unfold releaseSequence
  refine completes_bind (completes_bind (completes_update _ _ _ (completes_pure _ ?_)))
  unfold route
  rw [if_pos asks]
  refine completes_bind (completes_pure _ ?_)
  rw [if_neg nofun]
  refine completes_bind (completes_update _ _ _ ?_)
  have still : ∀ entities chosen change, Ready deployment.platform oracle
      { db with entities := entities, replies := db.replies.modify chosen change } answered := by
    intro entities chosen change
    refine ⟨ready.canonical, ?_, ready.escalations, ready.jobs, ready.classify⟩
    intro index later
    exact (Table.lookup_modify ..).trans (by rw [ready.replies index later]; rfl)
  refine completes_bind ((completes_applyOptOut distinct (still _ _ _) replyId ?_ tenant).mono ?_)
  · exact found
  rintro _ middle taken - ⟨kept, -, written⟩
  rw [if_neg nofun, if_neg nofun]
  refine (completes_maybeEvaluate distinct kept tenant prospect.cohortId).mono ?_
  rintro _ later total - ⟨-, ⟨counters, audits, escalations, -, rfl⟩, -⟩
  exact written

/-- A reply that only a model can classify comes to nothing while there is none. -/
theorem solo_classify_unanswered {replyId : Uuid} {reply : Reply}
    (replied : db.replies.lookup replyId = some reply) {body : List Char}
    (text : reply.body = some body) {prospect : Prospect}
    (found : db.prospects.lookup reply.prospectId = some prospect) {tenant : String}
    (named : db.tenants.lookup prospect.tenantId = some tenant)
    (silent : (deployment.platform.search unsubscribeRe body).isSome = false) {error : Exc}
    (down : ∀ index, oracle index (.classifyReply body) = .error error) :
    ∃ later, solo oracle fault moment (classify deployment replyId) ⟨db, answered, false⟩ =
      (.error error, later) := by
  unfold classify
  rw [solo_bind, solo_query, replied, Option.bind_some, found, Option.bind_some, named,
    Option.map_some]
  dsimp only
  rw [text]
  dsimp only
  unfold releaseSequence
  rw [solo_bind, solo_bind, solo_update]
  dsimp only
  rw [solo_pure]
  dsimp only
  rw [solo_bind]
  unfold route
  rw [silent, if_neg Bool.false_ne_true]
  unfold attempt
  rw [solo_bind, solo_bind, solo_ask]
  dsimp only
  rw [down]
  exact ⟨_, rfl⟩

end Classify

end OpenReachout
