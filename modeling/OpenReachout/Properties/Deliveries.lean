import OpenReachout.Properties.Aliases
import OpenReachout.Outreach.Rows

/-!
# Deliveries of provider events

Any sequence of deliveries, with any repetitions in it, comes to what its first
occurrences come to. No delivery raises, and after a first bounce, complaint or
unsubscribe the person is suppressed for good and a pause of the lead is on record.
-/

namespace OpenReachout

open Relational Relational.Program Text

set_option autoImplicit false

section Firsts

/-- The events whose id is not among those seen, each id once. -/
def firstsOf (seen : List String) : List ProviderEvent → List ProviderEvent
  | [] => []
  | event :: rest =>
      if event.providerEventId ∈ seen then firstsOf seen rest
      else event :: firstsOf (event.providerEventId :: seen) rest

abbrev Delivery : Type := Moment Database RowLock × List ProviderEvent

/-- The same deliveries with the first occurrences only. -/
def firstDeliveries (seen : List String) : List Delivery → List Delivery
  | [] => []
  | (moment, events) :: rest =>
      (moment, firstsOf seen events) ::
        firstDeliveries (events.map ProviderEvent.providerEventId ++ seen) rest

theorem firstsOf_congr {seen other : List String} (same : ∀ id, id ∈ seen ↔ id ∈ other)
    (events : List ProviderEvent) : firstsOf seen events = firstsOf other events := by
  induction events generalizing seen other with
  | nil => rfl
  | cons event rest induction =>
      unfold firstsOf
      by_cases known : event.providerEventId ∈ seen
      · rw [if_pos known, if_pos ((same _).1 known)]
        exact induction same
      · rw [if_neg known, if_neg fun there => known ((same _).2 there)]
        apply congrArg
        apply induction
        intro id
        rw [List.mem_cons, List.mem_cons, same]

theorem firstDeliveries_congr {seen other : List String} (same : ∀ id, id ∈ seen ↔ id ∈ other)
    (deliveries : List Delivery) :
    firstDeliveries seen deliveries = firstDeliveries other deliveries := by
  induction deliveries generalizing seen other with
  | nil => rfl
  | cons delivery rest induction =>
      obtain ⟨moment, events⟩ := delivery
      unfold firstDeliveries
      rw [firstsOf_congr same]
      apply congrArg
      apply induction
      intro id
      rw [List.mem_append, List.mem_append, same]

end Firsts

section Ingest

variable {oracle : Nat → (call : Call) → call.Answer} {fault : Exc}
variable {moment : Moment Database RowLock} {deployment : Deployment}
variable {db : Database} {answered : Nat}

/-- A row with its status taken out of sight. -/
def Touch.statusless (row : Touch) : Touch := { row with status := .drafted }

/-- Each key in use is that of a job. -/
def Filed (db : Database) : Prop :=
  ∀ key, (db.jobIndex.lookup key).isSome = true → ∃ id row, db.jobs.lookup id = some row ∧
    row.idempotencyKey = key ∧ key.orders row.queue row.payload

/-- What the ingestion of provider events leaves as it is. -/
structure Fed (db later : Database) : Prop where
  tenants : later.tenants = db.tenants
  touches : ∀ id, (later.touches.lookup id).map Touch.statusless =
    (db.touches.lookup id).map Touch.statusless
  prospects : SameProspects db.prospects later.prospects
  suppressions : ∀ key row, db.suppressions.lookup key = some row → row.expiresAt = none →
    ∃ other, later.suppressions.lookup key = some other ∧ other.expiresAt = none
  jobs : ∀ id row, db.jobs.lookup id = some row → later.jobs.lookup id = some row

namespace Fed

theorem refl (db : Database) : Fed db db :=
  ⟨rfl, fun _ => rfl, same_prospects_refl _, fun _ row found lasting => ⟨row, found, lasting⟩,
    fun _ _ found => found⟩

theorem trans {first second third : Database} (early : Fed first second)
    (late : Fed second third) : Fed first third where
  tenants := late.tenants.trans early.tenants
  touches id := (late.touches id).trans (early.touches id)
  prospects id := (late.prospects id).trans (early.prospects id)
  suppressions key row found lasting := by
    obtain ⟨other, present, still⟩ := early.suppressions key row found lasting
    exact late.suppressions key other present still
  jobs id row found := late.jobs id row (early.jobs id row found)

theorem of_grown {db later : Database} (grown : Grown db later)
    (jobs : ∀ id row, db.jobs.lookup id = some row → later.jobs.lookup id = some row) :
    Fed db later where
  tenants := grown.tenants
  touches id := by rw [grown.touches]
  prospects := grown.prospects
  suppressions := grown.suppressions
  jobs := jobs

/-- The join behind an event finds the same rows, up to the states. -/
theorem joined {db later : Database} (fed : Fed db later) {touchId : Uuid} {touch : Touch}
    {prospect : Prospect} {tenant : String}
    (found : joinedTouch db touchId = some (touch, prospect, tenant)) :
    ∃ row other, joinedTouch later touchId = some (row, other, tenant) ∧
      row.statusless = touch.statusless ∧ other.stateless = prospect.stateless := by
  unfold joinedTouch at found ⊢
  simp only [Option.bind_eq_some_iff, Option.map_eq_some_iff, Prod.mk.injEq] at found ⊢
  obtain ⟨_, hit, old, present, slug, named, rfl, rfl, rfl⟩ := found
  have equal := fed.touches touchId
  rw [hit, Option.map_some, Option.map_eq_some_iff] at equal
  obtain ⟨row, there, alike⟩ := equal
  have owner := congrArg Touch.prospectId alike
  obtain ⟨other, same_row, same⟩ := fed.prospects.found present
  have tenant := congrArg Prospect.tenantId same
  refine ⟨row, other, ⟨row, there, other, ?_, slug, ?_, rfl, rfl, rfl⟩, alike, same⟩
  · rw [show row.prospectId = _ from owner]
    exact same_row
  · rw [fed.tenants, show other.tenantId = old.tenantId from tenant]
    exact named

end Fed

theorem Filed.asked {queue : QueueName} {payload : JobPayload} {key : JobKey} {later : Database}
    (filed : Filed db) (orders : key.orders queue payload)
    (asked : JobAsked queue payload key db.jobs db.jobIndex later.jobs later.jobIndex) :
    Filed later := by
  intro other known
  by_cases before : (db.jobIndex.lookup other).isSome = true
  · obtain ⟨id, row, found, keyed, ordered⟩ := filed other before
    exact ⟨id, row, asked.rows id row found, keyed, ordered⟩
  · have same : other = key := by
      by_cases same : other = key
      · exact same
      · rw [asked.others other same] at known
        exact absurd known before
    subst same
    obtain ⟨id, row, absent, found, queued, carried⟩ :=
      asked.fresh (Option.not_isSome_iff_eq_none.1 before)
    refine ⟨id, row, found, asked.mine id row found absent, ?_⟩
    rw [queued, carried]
    exact orders

theorem Filed.paused {email : Option String} {reason : String} {later : Database}
    (filed : Filed db) (asked : PauseAsked email reason db later.jobs later.jobIndex) :
    Filed later ∧ (∀ id row, db.jobs.lookup id = some row → later.jobs.lookup id = some row) ∧
      ∀ address, email = some address → ∃ id row, later.jobs.lookup id = some row ∧
        row.queue = .control ∧ row.payload = .pauseLead address globalScope := by
  cases email with
  | none =>
      obtain ⟨jobs, index⟩ := asked
      refine ⟨?_, ?_, nofun⟩
      · unfold Filed
        rw [jobs, index]
        exact filed
      · intro id row found
        rw [jobs]
        exact found
  | some address =>
      have ordered : (JobKey.pause address globalScope reason).orders .control
          (.pauseLead address globalScope) := ⟨rfl, rfl⟩
      have kept : Filed later := Filed.asked filed ordered asked
      refine ⟨kept, JobAsked.rows asked, ?_⟩
      intro other same
      obtain rfl := Option.some.inj same
      obtain ⟨id, row, found, _, ordered⟩ := kept _ (JobAsked.indexed asked)
      exact ⟨id, row, found, ordered.1, ordered.2⟩

/-- The reason under which an event suppresses. -/
def EventKind.safety : EventKind → Option String
  | .bounce => some "bounce"
  | .complaint => some "complaint"
  | .unsubscribe => some "unsubscribe"
  | _ => none

/-- The person is suppressed for good, everywhere, and a pause of the lead is on record. -/
structure Stopped (address : String) (db : Database) : Prop where
  suppressed : ∃ row, db.suppressions.lookup (address, globalScope) = some row ∧
    row.expiresAt = none
  paused : ∃ id row, db.jobs.lookup id = some row ∧ row.queue = .control ∧
    row.payload = .pauseLead address globalScope

theorem Stopped.fed {address : String} {later : Database} (stopped : Stopped address db)
    (fed : Fed db later) : Stopped address later := by
  obtain ⟨row, found, lasting⟩ := stopped.suppressed
  obtain ⟨id, job, present, queued, carried⟩ := stopped.paused
  exact ⟨fed.suppressions _ row found lasting, id, job, fed.jobs id job present, queued, carried⟩

/-- What one event leaves behind when its id is new. -/
structure ActedOn (event : ProviderEvent) (db later : Database) : Prop where
  fed : Fed db later
  filed : Filed later
  events : later.providerEvents = db.providerEvents
  stopped : ∀ touchId touch prospect tenant address, event.touchId = some touchId →
    joinedTouch db touchId = some (touch, prospect, tenant) →
    nonEmpty prospect.emailCanonical = some address → event.kind.safety.isSome = true →
    Stopped address later

theorem stopped_of_suppressing {later : Database} {email : Option String} {address reason : String}
    {time : Time} (named : email = some address)
    (written : later.suppressions = suppressing db.suppressions email reason time)
    (paused : ∃ id row, later.jobs.lookup id = some row ∧ row.queue = .control ∧
      row.payload = .pauseLead address globalScope) : Stopped address later := by
  subst named
  refine ⟨⟨⟨reason, none, time⟩, ?_, rfl⟩, paused⟩
  rw [written]
  refine (Table.lookup_upsert ..).trans ((if_pos rfl).trans ?_)
  cases db.suppressions.lookup (address, globalScope) <;> rfl

theorem completes_safety (distinct : Distinct oracle)
    (ready : Ready deployment.platform oracle db answered) (filed : Filed db)
    {event : ProviderEvent} {touchId : Uuid} (about : event.touchId = some touchId)
    {touch : Touch} {prospect : Prospect} {tenant : String}
    (joined : joinedTouch db touchId = some (touch, prospect, tenant)) (reason : String)
    (kind : Guardrail) (target : ProspectState) :
    Completes oracle fault moment
      (safetyEvent deployment (touch, prospect, tenant) reason kind target) db answered
      fun _ later taken => Ready deployment.platform oracle later taken ∧ ActedOn event db later := by
  have found := found_of_joined joined
  refine (completes_safetyEvent distinct ready found tenant reason kind target).mono ?_
  rintro _ later taken - ⟨kept, grown, events, -, written, asked, -⟩
  obtain ⟨filed_later, rows, paused⟩ := filed.paused asked
  refine ⟨kept, Fed.of_grown grown rows, filed_later, events, ?_⟩
  intro other_id other_touch other_prospect other_tenant address named other_joined stored _
  obtain rfl := Option.some.inj (about.symm.trans named)
  obtain ⟨rfl, rfl, rfl⟩ : touch = other_touch ∧ prospect = other_prospect ∧
      tenant = other_tenant := by
    have same := Option.some.inj (joined.symm.trans other_joined)
    exact ⟨congrArg Prod.fst same, congrArg (fun row => row.2.1) same,
      congrArg (fun row => row.2.2) same⟩
  exact stopped_of_suppressing stored written (paused address stored)

/-- An event that changes nothing stops nobody. -/
theorem actedOn_idle (filed : Filed db) {event : ProviderEvent}
    (idle : ∀ touchId touch prospect tenant, event.touchId = some touchId →
      joinedTouch db touchId = some (touch, prospect, tenant) → event.kind.safety = none) :
    ActedOn event db db := by
  refine ⟨Fed.refl db, filed, rfl, ?_⟩
  intro touchId touch prospect tenant address named joined _ safety
  rw [idle touchId touch prospect tenant named joined] at safety
  cases safety

theorem completes_markSent (ready : Ready deployment.platform oracle db answered) (filed : Filed db)
    {event : ProviderEvent} (kind : event.kind = .sent) (touchId : Uuid) :
    Completes oracle fault moment
      (setTouchStatus .sent none fun _ _ id row => id = touchId && row.status = .dispatched) db
      answered fun _ later taken =>
        Ready deployment.platform oracle later taken ∧ ActedOn event db later := by
  unfold setTouchStatus
  refine completes_updateChecked _ _ _ _ _ (fun _ _ => rfl) ⟨?_, ?_⟩
  · exact ready.of_tables (same_prospects_refl _) rfl rfl rfl rfl
  · refine ⟨⟨rfl, ?_, same_prospects_refl _, fun _ row found lasting => ⟨row, found, lasting⟩,
      fun _ _ found => found⟩, filed, rfl, ?_⟩
    · intro id
      refine (congrArg (Option.map Touch.statusless) (Table.lookup_modify ..)).trans ?_
      cases db.touches.lookup id with
      | none => rfl
      | some row =>
          rw [Option.map_some, Option.map_some, Option.map_some]
          by_cases chosen : (decide (id = touchId) && decide (row.status = .dispatched)) = true
          · rw [if_pos chosen]
            rfl
          · rw [if_neg chosen]
    · intro _ _ _ _ _ _ _ _ safety
      rw [kind] at safety
      cases safety

theorem completes_act (distinct : Distinct oracle)
    (ready : Ready deployment.platform oracle db answered) (filed : Filed db)
    (event : ProviderEvent) :
    Completes oracle fault moment (actOn deployment event) db answered fun _ later taken =>
      Ready deployment.platform oracle later taken ∧ ActedOn event db later := by
  unfold actOn
  cases about : event.touchId with
  | none =>
      refine completes_pure _ ⟨ready, actedOn_idle filed ?_⟩
      intro _ _ _ _ named
      rw [about] at named
      cases named
  | some touchId =>
      refine completes_bind (completes_query _ ?_)
      cases joined : joinedTouch db touchId with
      | none =>
          have unknown : ActedOn event db db := by
            apply actedOn_idle filed
            intro other _ _ _ named found
            obtain rfl := Option.some.inj (about.symm.trans named)
            rw [joined] at found
            cases found
          cases kind : event.kind with
          | sent =>
              refine completes_bind ((completes_markSent ready filed kind touchId).mono ?_)
              exact fun _ _ _ _ held => completes_pure _ held
          | reply => exact completes_pure _ ⟨ready, unknown⟩
          | bounce => exact completes_pure _ ⟨ready, unknown⟩
          | complaint => exact completes_pure _ ⟨ready, unknown⟩
          | unsubscribe => exact completes_pure _ ⟨ready, unknown⟩
          | delivered => exact completes_pure _ ⟨ready, unknown⟩
      | some row =>
          obtain ⟨touch, prospect, tenant⟩ := row
          cases kind : event.kind with
          | sent =>
              refine completes_bind ((completes_markSent ready filed kind touchId).mono ?_)
              exact fun _ _ _ _ held => completes_pure _ held
          | bounce => exact completes_safety distinct ready filed about joined _ _ _
          | complaint => exact completes_safety distinct ready filed about joined _ _ _
          | unsubscribe => exact completes_safety distinct ready filed about joined _ _ _
          | delivered =>
              refine completes_pure _ ⟨ready, actedOn_idle filed fun _ _ _ _ _ _ => ?_⟩
              rw [kind]
              rfl
          | reply =>
              have found := found_of_joined joined
              refine (completes_actReply distinct ready found tenant touchId event.payload).mono ?_
              rintro _ later taken - ⟨kept, grown, events, -, id, -, asked⟩
              have ordered : (JobKey.classify id).orders .classify (.reply id) := ⟨nofun, nofun, nofun⟩
              refine ⟨kept, Fed.of_grown grown asked.rows, filed.asked ordered asked, events, ?_⟩
              intro _ _ _ _ _ _ _ _ safety
              rw [kind] at safety
              cases safety

/-- The ids seen are on record. -/
def Recorded (seen : List String) (db : Database) : Prop :=
  ∀ id ∈ seen, (db.providerEvents.lookup (providerName, id)).isSome = true

/-- An event whose id is on record is passed over. -/
theorem solo_ingestEvent_known {event : ProviderEvent}
    (known : (db.providerEvents.lookup (providerName, event.providerEventId)).isSome = true) :
    solo oracle fault moment (ingestEvent deployment event) ⟨db, answered, false⟩ =
      (.ok (), ⟨db, answered, false⟩) := by
  obtain ⟨row, found⟩ := Option.isSome_iff_exists.1 known
  unfold ingestEvent
  rw [solo_bind, solo_insertNew, show db.providerEvents.lookup (providerName,
    event.providerEventId) = some row from found]
  rfl

/-- The state in which a sequence of deliveries goes on. -/
structure Receiving (oracle : Nat → (call : Call) → call.Answer) (deployment : Deployment)
    (seen : List String) (db : Database) (answered : Nat) : Prop where
  ready : Ready deployment.platform oracle db answered
  filed : Filed db
  recorded : Recorded seen db

/-- Everybody whose safety event comes first under its id, which is new, is stopped. -/
def Stops (events : List ProviderEvent) (db later : Database) : Prop :=
  ∀ event touchId touch prospect tenant address,
    (events.find? fun other => other.providerEventId = event.providerEventId) = some event →
    db.providerEvents.lookup (providerName, event.providerEventId) = none →
    event.touchId = some touchId → joinedTouch db touchId = some (touch, prospect, tenant) →
    nonEmpty prospect.emailCanonical = some address → event.kind.safety.isSome = true →
    Stopped address later

/-- What has been received, from one state to another. -/
structure Received (events : List ProviderEvent) (db later : Database) : Prop where
  fed : Fed db later
  records : ∀ id, later.providerEvents.lookup (providerName, id) = none ↔
    db.providerEvents.lookup (providerName, id) = none ∧
      id ∉ events.map ProviderEvent.providerEventId
  stops : Stops events db later

theorem Received.nil (db : Database) : Received [] db db :=
  ⟨Fed.refl db, fun _ => by simp, fun _ _ _ _ _ _ first => by cases first⟩

theorem Received.append {early late : List ProviderEvent} {middle later : Database}
    (first : Received early db middle) (second : Received late middle later) :
    Received (early ++ late) db later where
  fed := first.fed.trans second.fed
  records id := by
    rw [second.records, first.records, List.map_append, List.mem_append, not_or, and_assoc]
  stops := by
    intro event touchId touch prospect tenant address found unknown named joined stored safety
    rw [List.find?_append, Option.or_eq_some_iff] at found
    rcases found with here | ⟨absent, there⟩
    · exact (first.stops event touchId touch prospect tenant address here unknown named joined stored
        safety).fed second.fed
    · obtain ⟨row, other, joined_later, _, alike⟩ := first.fed.joined joined
      have email := congrArg Prospect.emailCanonical alike
      rw [← show other.emailCanonical = prospect.emailCanonical from email] at stored
      refine second.stops event touchId row other tenant address there ?_ named joined_later stored
        safety
      refine (first.records _).2 ⟨unknown, fun member => ?_⟩
      obtain ⟨twin, inside, same⟩ := List.mem_map.1 member
      have apart := List.find?_eq_none.1 absent twin inside
      rw [same] at apart
      simp at apart

theorem unknown_after_insert {later : Database} {id : String} {row : ProviderEventRow}
    (unknown : db.providerEvents.lookup (providerName, id) = none)
    (events : later.providerEvents = db.providerEvents.insert (providerName, id) row)
    (other : String) : later.providerEvents.lookup (providerName, other) = none ↔
      db.providerEvents.lookup (providerName, other) = none ∧ other ≠ id := by
  rw [events, Table.lookup_insert]
  by_cases same : other = id
  · subst same
    simp
  · have apart : (providerName, other) ≠ (providerName, id) := fun equal =>
      same (congrArg Prod.snd equal)
    rw [if_neg apart]
    exact ⟨fun absent => ⟨absent, same⟩, fun both => both.1⟩

/-- One event, whether its id is new or not. -/
theorem completes_ingest (distinct : Distinct oracle) {seen : List String}
    (receiving : Receiving oracle deployment seen db answered) (event : ProviderEvent) :
    Completes oracle fault moment (ingestEvent deployment event) db answered fun _ later taken =>
      Receiving oracle deployment (event.providerEventId :: seen) later taken ∧
        Received [event] db later := by
  cases known : db.providerEvents.lookup (providerName, event.providerEventId) with
  | some row =>
      have present : (db.providerEvents.lookup (providerName, event.providerEventId)).isSome =
          true := by
        rw [known]
        rfl
      refine ⟨(), db, answered, solo_ingestEvent_known present, Nat.le_refl _, ?_, Fed.refl db, ?_,
        ?_⟩
      · refine ⟨receiving.ready, receiving.filed, fun id member => ?_⟩
        rcases List.mem_cons.1 member with rfl | before
        · exact present
        · exact receiving.recorded id before
      · intro id
        constructor
        · intro absent
          refine ⟨absent, fun member => ?_⟩
          rw [List.map_singleton, List.mem_singleton] at member
          rw [member, known] at absent
          cases absent
        · exact fun both => both.1
      · intro other _ _ _ _ _ found unknown
        have same := List.mem_singleton.1 (List.mem_of_find?_eq_some found)
        rw [same, known] at unknown
        cases unknown
  | none =>
      have ready : Ready deployment.platform oracle { db with
          providerEvents := db.providerEvents.insert (providerName, event.providerEventId)
            ⟨event.kind.text, event.payload⟩ } answered :=
        receiving.ready.of_tables (same_prospects_refl _) rfl rfl rfl rfl
      have filed : Filed { db with
          providerEvents := db.providerEvents.insert (providerName, event.providerEventId)
            ⟨event.kind.text, event.payload⟩ } := receiving.filed
      unfold ingestEvent
      refine completes_bind (completes_insertNew _ _ _ (fun old found => ?_) fun _ => ?_)
      · rw [show db.providerEvents.lookup (providerName, event.providerEventId) = some old
          from found] at known
        cases known
      · rw [if_pos rfl]
        refine (completes_act distinct ready filed event).mono ?_
        rintro _ later taken - ⟨kept, acted⟩
        have records := unknown_after_insert known acted.events
        refine ⟨⟨kept, acted.filed, fun id member => ?_⟩, ?_, ?_, ?_⟩
        · rw [Option.isSome_iff_ne_none, ne_eq, records]
          rintro ⟨absent, apart⟩
          rcases List.mem_cons.1 member with same | before
          · exact apart same
          · have present := receiving.recorded id before
            rw [absent] at present
            cases present
        · exact ⟨acted.fed.tenants, acted.fed.touches, acted.fed.prospects, acted.fed.suppressions,
            acted.fed.jobs⟩
        · intro id
          rw [records, List.map_singleton, List.mem_singleton]
        · intro other touchId touch prospect tenant address found _ named joined stored safety
          have same := List.mem_singleton.1 (List.mem_of_find?_eq_some found)
          subst same
          exact acted.stopped touchId touch prospect tenant address named joined stored safety

theorem Receiving.congr {seen other : List String}
    (receiving : Receiving oracle deployment seen db answered)
    (same : ∀ id, id ∈ other → id ∈ seen) : Receiving oracle deployment other db answered :=
  ⟨receiving.ready, receiving.filed, fun id member => receiving.recorded id (same id member)⟩

theorem solo_ingestEvents_cons (event : ProviderEvent) (rest : List ProviderEvent)
    (alone : Alone Database) :
    solo oracle fault moment (ingestEvents deployment (event :: rest)) alone =
      match solo oracle fault moment (ingestEvent deployment event) alone with
      | (.ok _, middle) => solo oracle fault moment (ingestEvents deployment rest) middle
      | (.error error, middle) => (.error error, middle) := by
  change solo oracle fault moment (ingestEvent deployment event >>= fun _ =>
    ingestEvents deployment rest) alone = _
  rw [solo_bind]
  rcases solo oracle fault moment (ingestEvent deployment event) alone with ⟨error | value, middle⟩
  · rfl
  · rfl

/-- One delivery, and the same with the first occurrences only. -/
theorem delivery_of_firsts (distinct : Distinct oracle) (events : List ProviderEvent)
    {seen : List String} {db : Database} {answered : Nat}
    (receiving : Receiving oracle deployment seen db answered) :
    ∃ later taken, solo oracle fault moment (ingestEvents deployment events) ⟨db, answered, false⟩ =
        (.ok (), ⟨later, taken, false⟩) ∧
      solo oracle fault moment (ingestEvents deployment (firstsOf seen events))
        ⟨db, answered, false⟩ = (.ok (), ⟨later, taken, false⟩) ∧
      Receiving oracle deployment (events.map ProviderEvent.providerEventId ++ seen) later taken ∧
      Received events db later := by
  induction events generalizing seen db answered with
  | nil => exact ⟨db, answered, rfl, rfl, receiving, Received.nil db⟩
  | cons event rest induction =>
      have run : Completes oracle fault moment (ingestEvent deployment event) db answered _ :=
        completes_ingest distinct receiving event
      obtain ⟨_, middle, total, first, -, going, one⟩ := run
      have whole : solo oracle fault moment (ingestEvents deployment (event :: rest))
          ⟨db, answered, false⟩ = _ := solo_ingestEvents_cons event rest _
      rw [first] at whole
      obtain ⟨later, taken, ended, ended_too, received, more⟩ := induction going
      have all_seen : ∀ id, id ∈ (event :: rest).map ProviderEvent.providerEventId ++ seen →
          id ∈ rest.map ProviderEvent.providerEventId ++ event.providerEventId :: seen := by
        intro id member
        simp only [List.map_cons, List.mem_append, List.mem_cons] at member ⊢
        tauto
      refine ⟨later, taken, whole.trans ended, ?_, received.congr all_seen, one.append more⟩
      unfold firstsOf
      by_cases known : event.providerEventId ∈ seen
      · have idle : solo oracle fault moment (ingestEvent deployment event) ⟨db, answered, false⟩ =
            (.ok (), ⟨db, answered, false⟩) := solo_ingestEvent_known (receiving.recorded _ known)
        rw [idle] at first
        obtain ⟨rfl, rfl⟩ : db = middle ∧ answered = total := by
          have same := congrArg Prod.snd first
          exact ⟨congrArg Alone.db same, congrArg Alone.answered same⟩
        have same : ∀ id, id ∈ seen ↔ id ∈ event.providerEventId :: seen := by
          intro id
          rw [List.mem_cons]
          constructor
          · exact Or.inr
          · rintro (rfl | inside)
            · exact known
            · exact inside
        rw [if_pos known, firstsOf_congr same]
        exact ended_too
      · rw [if_neg known, solo_ingestEvents_cons, first]
        exact ended_too

end Ingest

section Deliveries

variable (oracle : Nat → (call : Call) → call.Answer) (fault : Exc) (deployment : Deployment)

/-- Each delivery is a transaction; the first that raises ends the sequence. -/
def deliveries : List Delivery → Database → Nat → Except Exc (Database × Nat)
  | [], db, answered => .ok (db, answered)
  | (moment, events) :: rest, db, answered =>
      match solo oracle fault moment (ingestEvents deployment events) ⟨db, answered, false⟩ with
      | (.ok _, after) => deliveries rest (after.committed db) after.answered
      | (.error error, _) => .error error

variable {oracle fault deployment}

theorem deliveries_of_firsts (distinct : Distinct oracle) (batches : List Delivery)
    {seen : List String} {db : Database} {answered : Nat}
    (receiving : Receiving oracle deployment seen db answered) :
    ∃ final total, deliveries oracle fault deployment batches db answered = .ok (final, total) ∧
      deliveries oracle fault deployment (firstDeliveries seen batches) db answered =
        .ok (final, total) ∧
      Received (batches.flatMap Prod.snd) db final := by
  induction batches generalizing seen db answered with
  | nil => exact ⟨db, answered, rfl, rfl, Received.nil db⟩
  | cons delivery rest induction =>
      obtain ⟨moment, events⟩ := delivery
      obtain ⟨later, taken, ended, ended_too, received, here⟩ :=
        @delivery_of_firsts oracle fault moment deployment distinct events seen db answered receiving
      obtain ⟨final, total, all, all_too, further⟩ := induction received
      refine ⟨final, total, ?_, ?_, here.append further⟩
      · unfold deliveries
        rw [ended]
        exact all
      · unfold firstDeliveries deliveries
        rw [ended_too]
        exact all_too

theorem sample_filed : Filed dispatchedDatabase := by
  intro key known
  by_cases same : key = .deliver 4
  · subst same
    exact ⟨5, sampleJob, rfl, rfl, rfl, rfl⟩
  · have absent : dispatchedDatabase.jobIndex.lookup key = none :=
      (Table.lookup_insert ..).trans (if_neg same)
    rw [absent] at known
    cases known

/-- Two deliveries of an unsubscribe, with repetitions and a late complaint. -/
def sampleDeliveries : List Delivery :=
  [(sampleMoment, [⟨"e1", .unsubscribe, some 4, []⟩, ⟨"e1", .unsubscribe, some 4, []⟩]),
    (sampleMoment, [⟨"e1", .unsubscribe, some 4, []⟩, ⟨"e2", .complaint, some 4, []⟩])]

end Deliveries

end OpenReachout
