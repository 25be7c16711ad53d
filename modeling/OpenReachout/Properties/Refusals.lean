import OpenReachout.Properties.ClaimGates
import OpenReachout.Relational.Solo
import OpenReachout.Properties.Runs

/-!
# What a refused claim leaves behind

The claim as a function of the state it begins in, of the clock readings it makes
and of the counter rows it finds locked. A refusal that is committed leaves the
counters as they were exactly where what was counted is given back in the period
it was counted in.
-/

namespace OpenReachout

open Relational Relational.Program Text

set_option autoImplicit false

abbrev Counters := Table (ScopeType × String × Period) Counter

/-- The state of a claim before it persists: only counters and audit rows differ
from the state in which it began. -/
def charged (db : Database) (counters : Counters) (audits : List AuditEvent) : Database :=
  { db with counters := counters, auditEvents := audits }

section Counters

def underCap (counters : Counters) (key : ScopeType × String × Period) : Bool :=
  (counters.lookup key).any fun row => row.used < row.cap

/-- The guarded increment of the budget gates. -/
def charge (counters : Counters) (key : ScopeType × String × Period) : Counters :=
  counters.modify (fun other row => other = key && row.used < row.cap)
    fun row => { row with used := row.used + 1 }

/-- The increment of a picked mailbox, and the decrement of a release. -/
def recount (counters : Counters) (key : ScopeType × String × Period) (change : Nat → Nat) :
    Counters :=
  counters.modify (fun other _ => other = key) fun row => { row with used := change row.used }

def tenantCounter (tenant : String) (time : Time) : ScopeType × String × Period :=
  (.tenantMonth, tenant, monthOf time)

def cohortCounter (cohortId : String) (time : Time) : ScopeType × String × Period :=
  (.cohortMonth, cohortId, monthOf time)

def mailboxCounter (mailbox : String) (time : Time) : ScopeType × String × Period :=
  (.mailboxDay, mailbox, dayOf time)

def mailboxesOf (db : Database) (tenant : String) : List (String × Mailbox) :=
  db.mailboxes.select fun _ mailbox => mailbox.tenant = tenant

/-- The counters once every mailbox of the tenant has a row for the day. -/
def withDayRows (mailboxes : List (String × Mailbox)) (time : Time) (counters : Counters) :
    Counters :=
  mailboxes.foldl (fun table entry =>
    table.insert (mailboxCounter entry.1 time) ⟨0, entry.2.dailyCap⟩) counters

/-- The mailbox that is picked when the clock reads `first`, then `second`. -/
def openMailbox (db : Database) (counters : Counters) (busy : RowLock → Bool) (tenant : String)
    (first second : Time) : Option String :=
  (leastUsed (openMailboxes (charged db (withDayRows (mailboxesOf db tenant) first counters) [])
    busy tenant (dayOf second))).map Prod.fst

def released (counters : Counters) (touch : DraftTouch) (first second : Time) : Counters :=
  recount (recount counters (tenantCounter touch.tenant first) (· - 1))
    (cohortCounter touch.cohortId second) (· - 1)

@[simp] theorem lookup_charge (counters : Counters) (key other : ScopeType × String × Period) :
    (charge counters key).lookup other = (counters.lookup other).map fun row =>
      if other = key && row.used < row.cap then { row with used := row.used + 1 } else row := by
  simp [charge]

@[simp] theorem lookup_recount (counters : Counters) (key other : ScopeType × String × Period)
    (change : Nat → Nat) :
    (recount counters key change).lookup other = (counters.lookup other).map fun row =>
      if other = key then { row with used := change row.used } else row := by
  simp [recount]

theorem lookup_charge_of_ne (counters : Counters) {key other : ScopeType × String × Period}
    (apart : other ≠ key) : (charge counters key).lookup other = counters.lookup other := by
  rw [lookup_charge]
  simp [apart]

theorem lookup_recount_of_ne (counters : Counters) {key other : ScopeType × String × Period}
    (apart : other ≠ key) (change : Nat → Nat) :
    (recount counters key change).lookup other = counters.lookup other := by
  rw [lookup_recount]
  simp [apart]

/-- The rows for the day leave every row that exists as it is. -/
theorem lookup_with_day_rows (mailboxes : List (String × Mailbox)) (time : Time)
    (counters : Counters) (key : ScopeType × String × Period) :
    (withDayRows mailboxes time counters).lookup key = match counters.lookup key with
      | some row => some row
      | none => (mailboxes.find? fun entry => mailboxCounter entry.1 time = key).map
          fun entry => ⟨0, entry.2.dailyCap⟩ := by
  unfold withDayRows
  induction mailboxes generalizing counters with
  | nil =>
      rw [List.foldl_nil]
      cases counters.lookup key <;> rfl
  | cons entry mailboxes induction =>
      rw [List.foldl_cons, induction, Table.lookup_insert]
      by_cases same : key = mailboxCounter entry.1 time
      · subst same
        rw [if_pos rfl]
        cases counters.lookup (mailboxCounter entry.1 time) with
        | none => simp
        | some row => rfl
      · rw [if_neg same]
        cases counters.lookup key with
        | none => simp [Ne.symm same]
        | some row => rfl

/-- Which mailbox is picked depends on the mailbox counters only. -/
theorem open_mailbox_congr (db : Database) {counters others : Counters}
    (same : ∀ mailbox period, counters.lookup (.mailboxDay, mailbox, period) =
      others.lookup (.mailboxDay, mailbox, period)) (busy : RowLock → Bool) (tenant : String)
    (first second : Time) :
    openMailbox db counters busy tenant first second =
      openMailbox db others busy tenant first second := by
  unfold openMailbox openMailboxes
  congr 2
  apply List.filterMap_congr
  intro entry _
  have rows : ∀ period,
      (withDayRows (mailboxesOf db tenant) first counters).lookup
        (.mailboxDay, entry.1, period) =
      (withDayRows (mailboxesOf db tenant) first others).lookup
        (.mailboxDay, entry.1, period) := by
    intro period
    rw [lookup_with_day_rows, lookup_with_day_rows, same]
  simp only [charged, counterScope, rows]

end Counters

section Balance

/-- What may become of a counter row: nothing, or it is new and stands at zero. -/
structure SameRow (old new : Option Counter) : Prop where
  kept : ∀ row, old = some row → new = some row
  fresh : ∀ row, old = none → new = some row → row.used = 0

def SameCounters (counters others : Counters) : Prop :=
  ∀ key, SameRow (counters.lookup key) (others.lookup key)

theorem same_row_refl (row : Option Counter) : SameRow row row :=
  ⟨fun _ present => present, fun row absent present => by rw [absent] at present; cases present⟩

/-- Only counters and audit rows differ; no row was counted. -/
structure NoTrace (before after : Database) : Prop where
  rest : after = charged before after.counters after.auditEvents
  audits : before.auditEvents <+: after.auditEvents
  counters : SameCounters before.counters after.counters

theorem no_trace_refl (db : Database) : NoTrace db db :=
  ⟨rfl, List.prefix_rfl, fun key => same_row_refl _⟩

theorem no_trace_charged (db : Database) (counters : Counters) (more : List AuditEvent) :
    NoTrace db (charged db counters (db.auditEvents ++ more)) ↔
      SameCounters db.counters counters :=
  ⟨fun trace => trace.counters, fun same => ⟨rfl, List.prefix_append _ _, same⟩⟩

theorem same_counters_day_rows (counters : Counters) (mailboxes : List (String × Mailbox))
    (time : Time) : SameCounters counters (withDayRows mailboxes time counters) := by
  intro key
  rw [lookup_with_day_rows]
  cases counters.lookup key with
  | some row => exact same_row_refl _
  | none =>
      constructor
      · intro row present
        cases present
      · intro row _ present
        obtain ⟨_, _, rfl⟩ := Option.map_eq_some_iff.1 present
        rfl

theorem lookup_day_rows_of_ne (counters : Counters) (mailboxes : List (String × Mailbox))
    (time : Time) {key : ScopeType × String × Period} (apart : key.1 ≠ .mailboxDay) :
    (withDayRows mailboxes time counters).lookup key = counters.lookup key := by
  rw [lookup_with_day_rows]
  cases counters.lookup key with
  | some row => rfl
  | none =>
      have missing : (mailboxes.find? fun entry => mailboxCounter entry.1 time = key) = none := by
        rw [List.find?_eq_none]
        intro entry _ same
        exact apart (by rw [← of_decide_eq_true same]; rfl)
      rw [missing]
      rfl

theorem charge_closed {counters : Counters} {key : ScopeType × String × Period}
    (closed : underCap counters key = false) (other : ScopeType × String × Period) :
    (charge counters key).lookup other = counters.lookup other := by
  rw [lookup_charge]
  by_cases hit : other = key
  · subst hit
    unfold underCap at closed
    cases found : counters.lookup other with
    | none => rfl
    | some row =>
        rw [found, Option.any_some, decide_eq_false_iff_not] at closed
        simp [closed]
  · simp [hit]

variable {counters : Counters} {first second back again : ScopeType × String × Period}

/-- A row that was counted up is as before exactly if the same row is counted
down. -/
theorem same_row_given_back {key : ScopeType × String × Period}
    (opened : underCap counters key = true) :
    (∀ other, SameRow (counters.lookup other)
      ((recount (charge counters key) back (· - 1)).lookup other)) ↔ back = key := by
  obtain ⟨row, found, under⟩ := (Option.any_eq_true _ _).1 opened
  rw [decide_eq_true_eq] at under
  constructor
  · intro same
    by_contra apart
    have kept := (same key).kept row found
    rw [lookup_recount, lookup_charge, found] at kept
    have moved := congrArg (Option.map Counter.used) kept
    simp [under, Ne.symm apart] at moved
  · rintro rfl other
    rw [lookup_recount, lookup_charge]
    by_cases hit : other = back
    · subst hit
      rw [found]
      simpa [under] using same_row_refl (some row)
    · simpa [hit] using same_row_refl (counters.lookup other)

/-- Counters of one scope are balanced on their own. -/
theorem given_back_in_scope {key : ScopeType × String × Period} (opened : underCap counters key = true)
    (scope : back.1 = key.1) {final : Counters}
    (part : ∀ other, other.1 = key.1 →
      final.lookup other = (recount (charge counters key) back (· - 1)).lookup other) :
    (∀ other, other.1 = key.1 → SameRow (counters.lookup other) (final.lookup other)) ↔
      back = key := by
  rw [← same_row_given_back opened]
  constructor
  · intro same other
    by_cases inside : other.1 = key.1
    · rw [← part other inside]
      exact same other inside
    · have apart : other ≠ key := fun equal => inside (by rw [equal])
      have away : other ≠ back := fun equal => inside (by rw [equal, scope])
      rw [lookup_recount_of_ne _ away, lookup_charge_of_ne _ apart]
      exact same_row_refl _
  · intro same other inside
    rw [part other inside]
    exact same other

/-- After both budgets were counted and released, what is left is the mailbox. -/
theorem same_released (touch : DraftTouch) {one other third fourth : Time}
    (tenant_open : underCap counters (tenantCounter touch.tenant one) = true)
    (cohort_open : underCap counters (cohortCounter touch.cohortId other) = true)
    {picked : Counters}
    (months : ∀ key, key.1 ≠ .mailboxDay → picked.lookup key =
      (charge (charge counters (tenantCounter touch.tenant one))
        (cohortCounter touch.cohortId other)).lookup key) :
    SameCounters counters (released picked touch third fourth) ↔
      (monthOf third = monthOf one ∧ monthOf fourth = monthOf other) ∧
        ∀ key, key.1 = .mailboxDay → SameRow (counters.lookup key) (picked.lookup key) := by
  have tenant_part : ∀ key : ScopeType × String × Period, key.1 = .tenantMonth →
      (released picked touch third fourth).lookup key =
        (recount (charge counters (tenantCounter touch.tenant one))
          (tenantCounter touch.tenant third) (· - 1)).lookup key := by
    intro key scope
    have apart : ∀ time, key ≠ cohortCounter touch.cohortId time := by
      rintro time rfl
      exact absurd scope (by simp [cohortCounter])
    rw [released, lookup_recount_of_ne _ (apart fourth), lookup_recount, lookup_recount,
      months key (by simp [scope]), lookup_charge_of_ne _ (apart other)]
  have cohort_part : ∀ key : ScopeType × String × Period, key.1 = .cohortMonth →
      (released picked touch third fourth).lookup key =
        (recount (charge counters (cohortCounter touch.cohortId other))
          (cohortCounter touch.cohortId fourth) (· - 1)).lookup key := by
    intro key scope
    have apart : ∀ time, key ≠ tenantCounter touch.tenant time := by
      rintro time rfl
      exact absurd scope (by simp [tenantCounter])
    rw [released, lookup_recount, lookup_recount_of_ne _ (apart third), lookup_recount,
      months key (by simp [scope]), lookup_charge, lookup_charge_of_ne _ (apart one),
      ← lookup_charge]
  have mailbox_part : ∀ key : ScopeType × String × Period, key.1 = .mailboxDay →
      (released picked touch third fourth).lookup key = picked.lookup key := by
    intro key scope
    have apart_tenant : key ≠ tenantCounter touch.tenant third := by
      rintro rfl
      exact absurd scope (by simp [tenantCounter])
    have apart_cohort : key ≠ cohortCounter touch.cohortId fourth := by
      rintro rfl
      exact absurd scope (by simp [cohortCounter])
    rw [released, lookup_recount_of_ne _ apart_cohort, lookup_recount_of_ne _ apart_tenant]
  have tenant_scope : (tenantCounter touch.tenant third).1 = (tenantCounter touch.tenant one).1 :=
    rfl
  have cohort_scope : (cohortCounter touch.cohortId fourth).1 =
      (cohortCounter touch.cohortId other).1 := rfl
  have tenant_side := given_back_in_scope tenant_open tenant_scope tenant_part
  have cohort_side := given_back_in_scope cohort_open cohort_scope cohort_part
  have tenant_months : tenantCounter touch.tenant third = tenantCounter touch.tenant one ↔
      monthOf third = monthOf one := by simp [tenantCounter]
  have cohort_months : cohortCounter touch.cohortId fourth = cohortCounter touch.cohortId other ↔
      monthOf fourth = monthOf other := by simp [cohortCounter]
  rw [← tenant_months, ← cohort_months, ← tenant_side, ← cohort_side]
  constructor
  · intro same
    refine ⟨⟨fun key _ => same key, fun key _ => same key⟩, fun key scope => ?_⟩
    rw [← mailbox_part key scope]
    exact same key
  · rintro ⟨⟨tenant_same, cohort_same⟩, mailbox_same⟩ key
    cases scope : key.1 with
    | tenantMonth => exact tenant_same key scope
    | cohortMonth => exact cohort_same key scope
    | mailboxDay =>
        rw [mailbox_part key scope]
        exact mailbox_same key scope

/-- A budget that was counted and kept shows. -/
theorem not_same_kept {key : ScopeType × String × Period} (opened : underCap counters key = true)
    {final : Counters} (row : final.lookup key = (charge counters key).lookup key) :
    ¬ SameCounters counters final := by
  obtain ⟨old, found, under⟩ := (Option.any_eq_true _ _).1 opened
  rw [decide_eq_true_eq] at under
  intro same
  have kept := (same key).kept old found
  rw [row, lookup_charge, found] at kept
  have moved := congrArg (Option.map Counter.used) kept
  simp [under] at moved

/-- The mailbox that was counted shows where it has a row for the day. -/
theorem same_mailbox_counted {others : Counters} (mailboxes : List (String × Mailbox))
    (time : Time) (key : ScopeType × String × Period) (scope : key.1 = .mailboxDay)
    (days_same : ∀ other, other.1 = .mailboxDay → others.lookup other = counters.lookup other) :
    (∀ other, other.1 = .mailboxDay → SameRow (counters.lookup other)
      ((recount (withDayRows mailboxes time others) key (· + 1)).lookup other)) ↔
      (withDayRows mailboxes time counters).lookup key = none := by
  have rows : ∀ other, other.1 = .mailboxDay → (withDayRows mailboxes time others).lookup other =
      (withDayRows mailboxes time counters).lookup other := by
    intro other inside
    rw [lookup_with_day_rows, lookup_with_day_rows, days_same other inside]
  constructor
  · intro same
    have row := same key scope
    rw [lookup_recount, rows key scope, lookup_with_day_rows] at row
    rw [lookup_with_day_rows]
    cases found : counters.lookup key with
    | some old =>
        rw [found] at row
        have kept := congrArg (Option.map Counter.used) (row.kept old rfl)
        simp at kept
    | none =>
        rw [found] at row
        cases entry : mailboxes.find? fun entry => mailboxCounter entry.1 time = key with
        | none => rfl
        | some entry =>
            simp only [entry] at row
            have zero := row.fresh _ rfl rfl
            simp at zero
  · intro absent other inside
    by_cases hit : other = key
    · subst hit
      rw [lookup_recount, rows other scope, absent]
      rw [lookup_with_day_rows] at absent
      cases found : counters.lookup other with
      | none => exact same_row_refl none
      | some old =>
          rw [found] at absent
          exact absurd absent (by simp)
    · rw [lookup_recount_of_ne _ hit, rows other inside]
      exact same_counters_day_rows counters mailboxes time other

end Balance

section Gates

variable (oracle : Nat → (query : Call) → query.Answer) (fault : Exc)
variable (moment : Moment Database RowLock)
variable (db : Database) (counters : Counters) (audits : List AuditEvent) (answered : Nat)

/-- Whether a guarded increment hits a row. -/
theorem select_under_cap (key : ScopeType × String × Period) :
    (!(counters.select fun other row => other = key && row.used < row.cap).isEmpty) =
      underCap counters key := by
  rw [Table.select_key counters key fun _ row => row.used < row.cap]
  unfold underCap
  cases counters.lookup key with
  | none => rfl
  | some row => by_cases under : row.used < row.cap <;> simp [Option.filter, under]

theorem solo_consume (scope : ScopeType) (id : String) :
    solo oracle fault moment (consume scope id) ⟨charged db counters audits, answered, false⟩ =
      (.ok (underCap counters (scope, id, monthOf (oracle answered .now))),
        ⟨charged db (charge counters (scope, id, monthOf (oracle answered .now))) audits,
          answered + 1, false⟩) := by
  unfold consume now
  simp only [solo_bind, solo_ask, solo_update, solo_pure]
  rw [← select_under_cap]
  rfl

/-- The audit row of a compensation. -/
def adjustment (scope : ScopeType) (id why : String) : AuditEvent :=
  { subjectType := "counter", subjectId := scopeName scope ++ ":" ++ id, event := "adjustment"
    payload := [("delta", .number (-1)), ("why", .text why)], actor := "system:gatekeeper" }

theorem solo_adjust (scope : ScopeType) (id why : String) :
    solo oracle fault moment (adjust scope id (-1) why)
        ⟨charged db counters audits, answered, false⟩ =
      (.ok (), ⟨charged db (recount counters (scope, id, monthOf (oracle answered .now)) (· - 1))
        (audits ++ [adjustment scope id why]), answered + 1, false⟩) := by
  have pred : ∀ used : Nat, ((used : Int) + -1).toNat = used - 1 := by omega
  unfold adjust now
  simp only [solo_bind, solo_ask, solo_update]
  unfold recount
  simp only [← pred]
  rfl

/-- Gate 5, on the readings number `answered` to `answered + 2`. -/
theorem solo_tryConsumeBudget (tenant : String) (touch : DraftTouch) :
    solo oracle fault moment (tryConsumeBudget tenant touch)
        ⟨charged db counters audits, answered, false⟩ =
      let tenantKey := tenantCounter tenant (oracle answered .now)
      let cohortKey := cohortCounter touch.cohortId (oracle (answered + 1) .now)
      let both := charge (charge counters tenantKey) cohortKey
      if underCap counters tenantKey then
        if underCap (charge counters tenantKey) cohortKey then
          (.ok true, ⟨charged db both audits, answered + 2, false⟩)
        else
          (.ok false, ⟨charged db (recount both
            (tenantCounter tenant (oracle (answered + 2) .now)) (· - 1))
            (audits ++ [adjustment .tenantMonth tenant "cohort cap refusal"]),
            answered + 3, false⟩)
      else (.ok false, ⟨charged db (charge counters tenantKey) audits, answered + 1, false⟩) := by
  unfold tryConsumeBudget
  simp only [solo_bind, solo_consume]
  by_cases tenant_open : underCap counters (tenantCounter tenant (oracle answered .now)) = true
  · rw [tenantCounter] at tenant_open
    simp only [tenantCounter, cohortCounter, tenant_open, if_true, solo_bind, solo_consume]
    by_cases cohort_open : underCap (charge counters (ScopeType.tenantMonth, tenant,
        monthOf (oracle answered .now))) (ScopeType.cohortMonth, touch.cohortId,
        monthOf (oracle (answered + 1) .now)) = true
    · simp only [cohort_open, if_true, solo_pure]
    · simp only [cohort_open, Bool.false_eq_true, if_false, solo_bind, solo_adjust, solo_pure]
  · rw [tenantCounter] at tenant_open
    simp only [tenantCounter, tenant_open, Bool.false_eq_true, if_false, solo_pure]

theorem solo_releaseBudget (tenant : String) (touch : DraftTouch) :
    solo oracle fault moment (releaseBudget tenant touch)
        ⟨charged db counters audits, answered, false⟩ =
      (.ok (), ⟨charged db (recount (recount counters
          (tenantCounter tenant (oracle answered .now)) (· - 1))
          (cohortCounter touch.cohortId (oracle (answered + 1) .now)) (· - 1))
        (audits ++ [adjustment .tenantMonth tenant "downstream refusal"] ++
          [adjustment .cohortMonth touch.cohortId "downstream refusal"]),
        answered + 2, false⟩) := by
  unfold releaseBudget
  simp only [solo_bind, solo_adjust]
  rfl

theorem solo_day_rows (mailboxes : List (String × Mailbox)) (time : Time) :
    solo oracle fault moment ((mailboxes.forM fun entry => do
        let _ ← Program.insertNew Tables.counters
          (counterScope .mailboxDay entry.1 (dayOf time)) fun _ => ⟨0, entry.2.dailyCap⟩) :
        Prog PUnit) ⟨charged db counters audits, answered, false⟩ =
      (.ok (), ⟨charged db (withDayRows mailboxes time counters) audits, answered, false⟩) := by
  induction mailboxes generalizing counters with
  | nil => rfl
  | cons entry mailboxes induction =>
      have inserted : (if ((charged db counters audits).counters.lookup
            (mailboxCounter entry.1 time)).isNone then
          (Write.insert Tables.counters (mailboxCounter entry.1 time)
            ⟨0, entry.2.dailyCap⟩).apply (charged db counters audits)
          else charged db counters audits) =
          charged db (counters.insert (mailboxCounter entry.1 time) ⟨0, entry.2.dailyCap⟩)
            audits := by
        by_cases absent : (counters.lookup (mailboxCounter entry.1 time)).isNone = true
        · exact if_pos absent
        · have present : mailboxCounter entry.1 time ∈ counters.rows.map Prod.fst := by
            by_contra missing
            rw [← Table.lookup_eq_none_iff] at missing
            exact absent (by rw [missing]; rfl)
          have kept : counters.insert (mailboxCounter entry.1 time) ⟨0, entry.2.dailyCap⟩ =
              counters := Table.ext_rows (if_pos present)
          rw [kept]
          exact if_neg absent
      simp only [List.forM, solo_bind, solo_insertNew, solo_pure]
      unfold mailboxCounter at inserted
      unfold counterScope
      rw [inserted]
      exact induction _

/-- Gate 6, on the readings number `answered` to `answered + 2`. -/
theorem solo_pickMailbox (tenant : String) :
    solo oracle fault moment (pickMailbox tenant) ⟨charged db counters audits, answered, false⟩ =
      let first := oracle answered .now
      let rows := withDayRows (mailboxesOf db tenant) first counters
      match openMailbox db counters moment.busy tenant first (oracle (answered + 1) .now) with
      | none => (.ok none, ⟨charged db rows audits, answered + 2, false⟩)
      | some mailbox => (.ok (some mailbox), ⟨charged db
          (recount rows (mailboxCounter mailbox (oracle (answered + 2) .now)) (· + 1)) audits,
          answered + 3, false⟩) := by
  have body : (mailboxesOf db tenant) = (charged db counters audits).mailboxes.select
      fun _ mailbox => mailbox.tenant = tenant := rfl
  unfold pickMailbox now
  simp only [solo_bind, solo_ask, solo_query, ← body, solo_day_rows, solo_perform]
  have same : openMailboxes (charged db (withDayRows (mailboxesOf db tenant)
        (oracle answered .now) counters) audits) moment.busy tenant
        (dayOf (oracle (answered + 1) .now)) =
      openMailboxes (charged db (withDayRows (mailboxesOf db tenant)
        (oracle answered .now) counters) []) moment.busy tenant
        (dayOf (oracle (answered + 1) .now)) := rfl
  unfold openMailbox
  rw [same]
  cases leastUsed (openMailboxes (charged db (withDayRows (mailboxesOf db tenant)
      (oracle answered .now) counters) []) moment.busy tenant
      (dayOf (oracle (answered + 1) .now))) with
  | none => rfl
  | some picked =>
      obtain ⟨mailbox, row⟩ := picked
      simp only [Option.map_some, Effect.locking, solo_bind, solo_ask, solo_update, solo_pure]
      unfold recount mailboxCounter
      rfl

def verified (db : Database) (emailCanonical tenant : String) : Bool :=
  !(db.prospects.select fun _ row =>
    row.emailCanonical = some emailCanonical && db.tenants.lookup row.tenantId = some tenant &&
      row.emailConfidence = some .verified).isEmpty

theorem solo_confidenceSendable (emailCanonical tenant : String) :
    solo oracle fault moment (confidenceSendable emailCanonical tenant)
        ⟨charged db counters audits, answered, false⟩ =
      (.ok (verified db emailCanonical tenant), ⟨charged db counters audits, answered, false⟩) :=
  solo_query _ _ _

/-- The touch is still to be claimed. -/
def stillDrafted (db : Database) (touchId : Uuid) : Bool :=
  (db.touches.lookup touchId).any fun row => row.status = .drafted

theorem select_drafted (touchId : Uuid) :
    (db.touches.select fun id row => id = touchId && row.status = .drafted) =
      if stillDrafted db touchId then ((db.touches.lookup touchId).map (Prod.mk touchId)).toList
      else [] := by
  rw [Table.select_key db.touches touchId fun _ row => row.status = .drafted]
  unfold stillDrafted
  cases db.touches.lookup touchId with
  | none => rfl
  | some row => by_cases drafted : row.status = .drafted <;> simp [Option.filter, drafted]

/-- Gate 8 where it does not claim: it raises on a touch that is no longer
drafted, and the trigger rejects one that is. -/
theorem solo_persistClaim_error (touch : DraftTouch) (mailbox : String) (results : Payload)
    {error : Exc} {after : Alone Database}
    (raised : solo oracle fault moment (persistClaim touch mailbox results) ⟨db, answered, false⟩ =
      (.error error, after)) :
    (stillDrafted db touch.touchId = false ∧ after = ⟨db, answered, false⟩) ∨
      stillDrafted db touch.touchId = true ∧ after.failed = true := by
  have selected := select_drafted db touch.touchId
  unfold persistClaim setTouchStatus at raised
  simp only [solo_bind, solo_updateChecked, selected] at raised
  cases drafted : stillDrafted db touch.touchId with
  | false =>
      have unchanged : ∀ change : Touch → Touch,
          (db.touches.modify (fun id row => id = touch.touchId && row.status = .drafted) change) =
            db.touches := Table.modify_of_select_nil _ (by rw [selected, drafted]; rfl)
      simp only [drafted, Bool.false_eq_true, if_false, List.findSome?_nil, List.isEmpty_nil,
        if_true, unchanged, raise, solo_bind, solo_throw] at raised
      exact Or.inl ⟨rfl, (Prod.mk.inj raised).2.symm⟩
  | true =>
      refine Or.inr ⟨rfl, ?_⟩
      obtain ⟨row, found, _⟩ := (Option.any_eq_true _ _).1 drafted
      simp only [drafted, if_true, found, Option.map_some, Option.toList_some,
        List.findSome?_cons, List.findSome?_nil] at raised
      split at raised
      case h_1 later run =>
        split at run
        case h_1 => exact absurd run (by simp)
        case h_2 =>
          have value := Except.ok.inj (Prod.mk.inj run).1
          have state : ∃ claimed, later = ⟨claimed, answered, false⟩ :=
            ⟨_, (Prod.mk.inj run).2.symm⟩
          obtain ⟨claimed, rfl⟩ := state
          rw [← value] at raised
          simp only [List.isEmpty_cons, Bool.false_eq_true, if_false, audit] at raised
          by_cases budgeted : touch.profile.budgeted = true
          · simp only [budgeted, if_true, solo_bind, solo_update, solo_upsertRow,
              solo_appendRow] at raised
            exact absurd raised (by simp)
          · simp only [budgeted, Bool.false_eq_true, if_false, solo_bind, solo_upsertRow,
              solo_appendRow] at raised
            exact absurd raised (by simp)
      case h_2 error later run =>
        split at run
        case h_1 =>
          obtain ⟨_, rfl⟩ := Prod.mk.inj run
          rw [← (Prod.mk.inj raised).2]
        case h_2 => exact absurd run (by simp)

theorem solo_isSuppressed (platform : Platform) (emailCanonical tenant : String) :
    solo oracle fault moment (isSuppressed platform emailCanonical tenant) ⟨db, answered, false⟩ =
      match tombstoneHash platform emailCanonical with
      | .error error => (.error error, ⟨db, answered, false⟩)
      | .ok hash => (.ok (suppressedIn db moment.start.clock emailCanonical tenant hash),
          ⟨db, answered, false⟩) := by
  unfold isSuppressed
  simp only [solo_bind, solo_ofExcept]
  cases tombstoneHash platform emailCanonical with
  | error error => rfl
  | ok hash => exact solo_perform _ _ db answered

/-- What the first-contact gate decides where the clock reads `time`. -/
def firstContactOk (db : Database) (entityId : Uuid) (time : Time) : Bool :=
  (db.entities.lookup entityId).any fun row =>
    row.activeSequenceTouchId.isNone && row.touches12mo < defaultAnnualTouchCap &&
      row.lastCampaignContactAt.all fun contact =>
        defaultMinCampaignGapDays ≤ (time - contact) / days 1

/-- The gate reads the clock only where there was a contact before. -/
def firstContactReadings (db : Database) (entityId : Uuid) : Nat :=
  match db.entities.lookup entityId with
  | none => 0
  | some row =>
      if row.activeSequenceTouchId.isNone && row.touches12mo < defaultAnnualTouchCap &&
        row.lastCampaignContactAt.isSome then 1 else 0

theorem solo_frequencyOk (entityId : Uuid) :
    solo oracle fault moment (frequencyOk entityId) ⟨db, answered, false⟩ =
      (.ok (firstContactOk db entityId (oracle answered .now)),
        ⟨db, answered + firstContactReadings db entityId, false⟩) := by
  have selected := Table.select_key db.entities entityId fun _ _ => true
  simp only [Bool.and_true] at selected
  unfold frequencyOk firstContactOk firstContactReadings
  simp only [solo_bind, solo_lockRows, selected]
  cases db.entities.lookup entityId with
  | none => rfl
  | some row =>
      simp only [Option.filter, if_true, Option.map_some, Option.toList_some, Option.any_some]
      cases row.activeSequenceTouchId with
      | some active => simp
      | none =>
          by_cases capped : defaultAnnualTouchCap ≤ row.touches12mo
          · simp [capped, Nat.not_lt.2 capped]
          · cases row.lastCampaignContactAt with
            | none => simp [capped, Nat.not_le.1 capped]
            | some contact => simp [capped, Nat.not_le.1 capped, now]

def continuationOk (db : Database) (entityId prospectId : Uuid) : Bool :=
  (db.entities.lookup entityId).any fun row =>
    activeProspect db row = some prospectId && row.touches12mo < defaultAnnualTouchCap

theorem solo_sequenceContinuationOk (entityId prospectId : Uuid) :
    solo oracle fault moment (sequenceContinuationOk entityId prospectId) ⟨db, answered, false⟩ =
      (.ok (continuationOk db entityId prospectId), ⟨db, answered, false⟩) := by
  have selected := Table.select_key db.entities entityId fun _ _ => true
  simp only [Bool.and_true] at selected
  unfold sequenceContinuationOk continuationOk
  simp only [solo_bind, solo_perform, Effect.locking, selected]
  cases db.entities.lookup entityId with
  | none => rfl
  | some row => simp [Option.filter, Write.none]

/-- The claim has ended with these counters, and has only added audit rows. -/
def Left (after : Alone Database) : Prop :=
  ∃ more count, after = ⟨charged db counters (audits ++ more), count, false⟩

/-- What gates 6 to 8 leave where they do not claim. -/
theorem solo_capacity_refused (platform : Platform) (touch : DraftTouch) (results : Payload)
    {outcome : Except Exc ClaimResult} {after : Alone Database}
    (ended : solo oracle fault moment (capacityGates (pgGateStore platform) touch results)
      ⟨charged db counters audits, answered, false⟩ = (outcome, after))
    (refused : ∀ claimed, outcome ≠ .ok (.claimed claimed)) :
    let rows := withDayRows (mailboxesOf db touch.tenant) (oracle answered .now) counters
    match openMailbox db counters moment.busy touch.tenant (oracle answered .now)
        (oracle (answered + 1) .now) with
    | none => Left db (if touch.profile.budgeted then released rows touch
        (oracle (answered + 2) .now) (oracle (answered + 3) .now) else rows) audits after
    | some mailbox =>
        let counted := recount rows (mailboxCounter mailbox (oracle (answered + 2) .now)) (· + 1)
        if verified db touch.emailCanonical touch.tenant then
          if stillDrafted db touch.touchId then after.failed = true
          else Left db counted audits after
        else Left db (if touch.profile.budgeted then released counted touch
          (oracle (answered + 3) .now) (oracle (answered + 4) .now) else counted) audits after := by
  unfold capacityGates pgGateStore at ended
  simp only [solo_bind, solo_pickMailbox] at ended
  dsimp only
  cases picked : openMailbox db counters moment.busy touch.tenant (oracle answered .now)
      (oracle (answered + 1) .now) with
  | none =>
      simp only [picked] at ended
      by_cases budgeted : touch.profile.budgeted = true
      · simp only [budgeted, if_true, solo_bind, solo_releaseBudget, solo_pure] at ended
        simp only [budgeted, if_true]
        rw [List.append_assoc] at ended
        exact ⟨_, answered + 4, (Prod.mk.inj ended).2.symm⟩
      · simp only [budgeted, Bool.false_eq_true, if_false, solo_pure] at ended
        simp only [budgeted, Bool.false_eq_true, if_false]
        exact ⟨[], answered + 2, by rw [List.append_nil]; exact (Prod.mk.inj ended).2.symm⟩
  | some mailbox =>
      simp only [picked, solo_bind, solo_confidenceSendable] at ended
      dsimp only
      by_cases sendable : verified db touch.emailCanonical touch.tenant = true
      · simp only [sendable, if_true, solo_bind] at ended
        rw [if_pos sendable]
        split at ended
        case h_1 =>
          simp only [solo_pure] at ended
          exact absurd (Prod.mk.inj ended).1.symm (refused _)
        case h_2 error later raised =>
          rcases solo_persistClaim_error oracle fault moment _ _ _ _ _ raised with
            ⟨gone, same⟩ | ⟨drafted, failed⟩
          · have missing : ¬ stillDrafted db touch.touchId = true := by
              rw [show stillDrafted db touch.touchId = false from gone]
              simp
            rw [if_neg missing]
            refine ⟨[], answered + 3, ?_⟩
            rw [List.append_nil, ← (Prod.mk.inj ended).2]
            exact same
          · rw [if_pos (show stillDrafted db touch.touchId = true from drafted),
              ← (Prod.mk.inj ended).2]
            exact failed
      · simp only [sendable, Bool.false_eq_true, if_false] at ended
        rw [if_neg sendable]
        by_cases budgeted : touch.profile.budgeted = true
        · simp only [budgeted, if_true, solo_bind, solo_releaseBudget, solo_pure] at ended
          simp only [budgeted, if_true]
          rw [List.append_assoc] at ended
          exact ⟨_, answered + 5, (Prod.mk.inj ended).2.symm⟩
        · simp only [budgeted, Bool.false_eq_true, if_false, solo_pure] at ended
          simp only [budgeted, Bool.false_eq_true, if_false]
          exact ⟨[], answered + 3, by rw [List.append_nil]; exact (Prod.mk.inj ended).2.symm⟩

end Gates

section Claim

/-- Gates 1 to 4 let the touch pass, where the clock reads `time`. -/
structure Admitted (runtime : Runtime) (db : Database) (start time : Time) (touch : DraftTouch) :
    Prop where
  running : haltedScopesIn db touch.tenant = []
  vetted : Vetted runtime touch
  contactable : ∃ hash, tombstoneHash runtime.platform touch.emailCanonical = .ok hash ∧
    suppressedIn db start touch.emailCanonical touch.tenant hash = false
  due : (match touch.profile with
    | .cold => firstContactOk db touch.entityId time
    | .followup => continuationOk db touch.entityId touch.prospectId
    | .reply => true) = true

def contactReadings (db : Database) (touch : DraftTouch) : Nat :=
  match touch.profile with
  | .cold => firstContactReadings db touch.entityId
  | .followup | .reply => 0

section Condition

variable (db : Database) (busy : RowLock → Bool) (clock : Nat → Time) (touch : DraftTouch)

/-- The budget counted on the readings `taken` and `taken + 1` is given back in the
same months on the readings `back` and `back + 1`. -/
def GivenBack (taken back : Nat) : Prop :=
  touch.profile.budgeted = true →
    monthOf (clock back) = monthOf (clock taken) ∧
      monthOf (clock (back + 1)) = monthOf (clock (taken + 1))

/-- The mailbox counted on the third reading from `first` on has no row for that
day. -/
def Uncounted (mailbox : String) (first : Nat) : Prop :=
  (withDayRows (mailboxesOf db touch.tenant) (clock first) db.counters).lookup
    (mailboxCounter mailbox (clock (first + 2))) = none

/-- No mailbox is open and the budget is given back; or the picked mailbox was
not counted where a later gate refuses, and the budget is given back by it. -/
def CapacityBalanced (taken first : Nat) : Prop :=
  match openMailbox db db.counters busy touch.tenant (clock first) (clock (first + 1)) with
  | none => GivenBack clock touch taken (first + 2)
  | some mailbox =>
      if verified db touch.emailCanonical touch.tenant then
        stillDrafted db touch.touchId = true ∨
          touch.profile.budgeted = false ∧ Uncounted db clock touch mailbox first
      else GivenBack clock touch taken (first + 3) ∧ Uncounted db clock touch mailbox first

/-- The same from gate 5 on, where `taken` is the number of the next reading. -/
def BudgetBalanced (taken : Nat) : Prop :=
  if touch.profile.budgeted then
    underCap db.counters (tenantCounter touch.tenant (clock taken)) = true →
      if underCap db.counters (cohortCounter touch.cohortId (clock (taken + 1))) then
        CapacityBalanced db busy clock touch taken (taken + 2)
      else monthOf (clock (taken + 2)) = monthOf (clock taken)
  else CapacityBalanced db busy clock touch taken taken

/-- When a refused claim gives back all it has counted. -/
def Balanced (runtime : Runtime) (start : Time) : Prop :=
  Admitted runtime db start (clock 0) touch →
    BudgetBalanced db busy clock touch (contactReadings db touch)

end Condition

variable {oracle : Nat → (query : Call) → query.Answer} {fault : Exc}
variable {moment : Moment Database RowLock} {runtime : Runtime}
variable {db : Database} {touch : DraftTouch} {outcome : Except Exc ClaimResult}
variable {after : Alone Database} {counters : Counters}

theorem left_no_trace (left : Left db counters db.auditEvents after) :
    NoTrace db (after.committed db) ↔ SameCounters db.counters counters := by
  obtain ⟨more, count, rfl⟩ := left
  exact no_trace_charged db counters more

theorem failed_no_trace (failed : after.failed = true) : NoTrace db (after.committed db) := by
  unfold Alone.committed
  rw [if_pos failed]
  exact no_trace_refl db

theorem cohort_closed_no_trace {one other third : Time}
    (tenant_open : underCap db.counters (tenantCounter touch.tenant one) = true)
    (cohort_closed : underCap db.counters (cohortCounter touch.cohortId other) = false) :
    SameCounters db.counters (recount (charge (charge db.counters (tenantCounter touch.tenant one))
      (cohortCounter touch.cohortId other)) (tenantCounter touch.tenant third) (· - 1)) ↔
      monthOf third = monthOf one := by
  have months : tenantCounter touch.tenant third = tenantCounter touch.tenant one ↔
      monthOf third = monthOf one := by simp [tenantCounter]
  rw [← months, ← same_row_given_back tenant_open]
  have rows : ∀ key, (recount (charge (charge db.counters (tenantCounter touch.tenant one))
      (cohortCounter touch.cohortId other)) (tenantCounter touch.tenant third) (· - 1)).lookup key =
      (recount (charge db.counters (tenantCounter touch.tenant one))
        (tenantCounter touch.tenant third) (· - 1)).lookup key := by
    intro key
    have closed : underCap (charge db.counters (tenantCounter touch.tenant one))
        (cohortCounter touch.cohortId other) = false := by
      have apart : cohortCounter touch.cohortId other ≠ tenantCounter touch.tenant one := by
        simp [cohortCounter, tenantCounter]
      unfold underCap
      rw [lookup_charge_of_ne _ apart]
      exact cohort_closed
    rw [lookup_recount, charge_closed closed, lookup_recount]
  constructor
  · intro same key
    rw [← rows key]
    exact same key
  · intro same key
    rw [rows key]
    exact same key

theorem underCap_cohort {one other : Time} :
    underCap (charge db.counters (tenantCounter touch.tenant one))
      (cohortCounter touch.cohortId other) =
        underCap db.counters (cohortCounter touch.cohortId other) := by
  have apart : cohortCounter touch.cohortId other ≠ tenantCounter touch.tenant one := by
    simp [cohortCounter, tenantCounter]
  unfold underCap
  rw [lookup_charge_of_ne _ apart]

/-- Gates 6 to 8, entered with the budget counted at the readings `taken` and
`taken + 1`. -/
theorem capacity_no_trace (budgeted : touch.profile.budgeted = true) {taken : Nat}
    {results : Payload} {platform : Platform}
    (tenant_open : underCap db.counters
      (tenantCounter touch.tenant (oracle taken .now)) = true)
    (cohort_open : underCap db.counters
      (cohortCounter touch.cohortId (oracle (taken + 1) .now)) = true)
    (ended : solo oracle fault moment (capacityGates (pgGateStore platform) touch results)
      ⟨charged db (charge (charge db.counters (tenantCounter touch.tenant (oracle taken .now)))
        (cohortCounter touch.cohortId (oracle (taken + 1) .now))) db.auditEvents, taken + 2,
        false⟩ = (outcome, after))
    (refused : ∀ claimed, outcome ≠ .ok (.claimed claimed)) :
    NoTrace db (after.committed db) ↔
      CapacityBalanced db moment.busy (fun reading => oracle reading .now) touch taken
        (taken + 2) := by
  have result := solo_capacity_refused oracle fault moment db _ db.auditEvents (taken + 2)
    platform touch results ended refused
  have mailbox_rows : ∀ key : ScopeType × String × Period, key.1 = .mailboxDay →
      (charge (charge db.counters (tenantCounter touch.tenant (oracle taken .now)))
        (cohortCounter touch.cohortId (oracle (taken + 1) .now))).lookup key =
          db.counters.lookup key := by
    intro key scope
    have apart_cohort : key ≠ cohortCounter touch.cohortId (oracle (taken + 1) .now) := by
      rintro rfl
      exact absurd scope (by simp [cohortCounter])
    have apart_tenant : key ≠ tenantCounter touch.tenant (oracle taken .now) := by
      rintro rfl
      exact absurd scope (by simp [tenantCounter])
    rw [lookup_charge_of_ne _ apart_cohort, lookup_charge_of_ne _ apart_tenant]
  have same_pick := open_mailbox_congr db (fun mailbox period => mailbox_rows
    (.mailboxDay, mailbox, period) rfl) moment.busy touch.tenant (oracle (taken + 2) .now)
    (oracle (taken + 3) .now)
  rw [same_pick] at result
  generalize both_def : charge (charge db.counters (tenantCounter touch.tenant (oracle taken .now)))
    (cohortCounter touch.cohortId (oracle (taken + 1) .now)) = both at result mailbox_rows
  have months : ∀ key : ScopeType × String × Period, key.1 ≠ .mailboxDay →
      (withDayRows (mailboxesOf db touch.tenant) (oracle (taken + 2) .now) both).lookup key =
        (charge (charge db.counters (tenantCounter touch.tenant (oracle taken .now)))
          (cohortCounter touch.cohortId (oracle (taken + 1) .now))).lookup key := by
    intro key apart
    rw [lookup_day_rows_of_ne _ _ _ apart, both_def]
  have counted_months : ∀ mailbox (key : ScopeType × String × Period), key.1 ≠ .mailboxDay →
      (recount (withDayRows (mailboxesOf db touch.tenant) (oracle (taken + 2) .now) both)
        (mailboxCounter mailbox (oracle (taken + 4) .now)) (· + 1)).lookup key =
        (charge (charge db.counters (tenantCounter touch.tenant (oracle taken .now)))
          (cohortCounter touch.cohortId (oracle (taken + 1) .now))).lookup key := by
    intro mailbox key apart
    have other : key ≠ mailboxCounter mailbox (oracle (taken + 4) .now) := by
      rintro rfl
      exact apart rfl
    rw [lookup_recount_of_ne _ other, months key apart]
  unfold CapacityBalanced GivenBack
  simp only [budgeted, forall_const, Bool.true_eq_false, false_and, or_false]
  cases picked : openMailbox db db.counters moment.busy touch.tenant (oracle (taken + 2) .now)
      (oracle (taken + 3) .now) with
  | none =>
      simp only [picked, budgeted, if_true] at result
      rw [left_no_trace result, same_released touch tenant_open cohort_open months]
      have days_kept : ∀ key : ScopeType × String × Period, key.1 = .mailboxDay →
          SameRow (db.counters.lookup key) ((withDayRows (mailboxesOf db touch.tenant)
            (oracle (taken + 2) .now) both).lookup key) := by
        intro key scope
        rw [← mailbox_rows key scope]
        exact same_counters_day_rows both _ _ key
      exact and_iff_left days_kept
  | some mailbox =>
      simp only [picked, budgeted, if_true] at result
      have mailbox_part := same_mailbox_counted (mailboxesOf db touch.tenant)
        (oracle (taken + 2) .now) (mailboxCounter mailbox (oracle (taken + 4) .now)) rfl mailbox_rows
      by_cases sendable : verified db touch.emailCanonical touch.tenant = true
      · simp only [sendable, if_true] at result ⊢
        by_cases drafted : stillDrafted db touch.touchId = true
        · rw [if_pos drafted] at result
          exact iff_of_true (failed_no_trace result) drafted
        · rw [if_neg drafted] at result
          rw [left_no_trace result]
          apply iff_of_false _ drafted
          apply not_same_kept tenant_open
          have apart : tenantCounter touch.tenant (oracle taken .now) ≠
              cohortCounter touch.cohortId (oracle (taken + 1) .now) := by
            simp [cohortCounter, tenantCounter]
          rw [counted_months mailbox _ (by simp [tenantCounter]), lookup_charge_of_ne _ apart]
      · simp only [sendable, Bool.false_eq_true, if_false] at result ⊢
        rw [left_no_trace result, same_released touch tenant_open cohort_open
          (counted_months mailbox), mailbox_part]
        rfl

/-- Gates 6 to 8 of a reply, which has no budget. -/
theorem reply_no_trace (unbudgeted : touch.profile.budgeted = false) {taken : Nat}
    {results : Payload} {platform : Platform}
    (ended : solo oracle fault moment (capacityGates (pgGateStore platform) touch results)
      ⟨db, taken, false⟩ = (outcome, after))
    (refused : ∀ claimed, outcome ≠ .ok (.claimed claimed)) :
    NoTrace db (after.committed db) ↔
      CapacityBalanced db moment.busy (fun reading => oracle reading .now) touch taken taken := by
  have result := solo_capacity_refused oracle fault moment db db.counters db.auditEvents taken
    platform touch results ended refused
  unfold CapacityBalanced GivenBack
  simp only [unbudgeted, Bool.false_eq_true, false_implies, true_and]
  cases picked : openMailbox db db.counters moment.busy touch.tenant (oracle taken .now)
      (oracle (taken + 1) .now) with
  | none =>
      simp only [picked, unbudgeted, Bool.false_eq_true, if_false] at result
      rw [left_no_trace result]
      exact iff_of_true (same_counters_day_rows _ _ _) trivial
  | some mailbox =>
      simp only [picked, unbudgeted, Bool.false_eq_true, if_false] at result
      have counted : SameCounters db.counters (recount (withDayRows (mailboxesOf db touch.tenant)
          (oracle taken .now) db.counters) (mailboxCounter mailbox (oracle (taken + 2) .now))
          (· + 1)) ↔ Uncounted db (fun reading => oracle reading .now) touch mailbox taken := by
        unfold Uncounted
        rw [← same_mailbox_counted (mailboxesOf db touch.tenant) (oracle taken .now)
          (mailboxCounter mailbox (oracle (taken + 2) .now)) rfl fun _ _ => rfl]
        constructor
        · exact fun same key _ => same key
        · intro same key
          by_cases scope : key.1 = .mailboxDay
          · exact same key scope
          · have apart : key ≠ mailboxCounter mailbox (oracle (taken + 2) .now) := by
              rintro rfl
              exact scope rfl
            rw [lookup_recount_of_ne _ apart, lookup_day_rows_of_ne _ _ _ scope]
            exact same_row_refl _
      by_cases sendable : verified db touch.emailCanonical touch.tenant = true
      · simp only [sendable, if_true] at result ⊢
        by_cases drafted : stillDrafted db touch.touchId = true
        · rw [if_pos drafted] at result
          exact iff_of_true (failed_no_trace result) (Or.inl drafted)
        · rw [if_neg drafted] at result
          rw [left_no_trace result, counted, or_iff_right drafted]
      · simp only [sendable, Bool.false_eq_true, if_false] at result ⊢
        rw [left_no_trace result, counted]

/-- Gate 5 and what follows it. -/
theorem budget_no_trace (budgeted : touch.profile.budgeted = true) {taken : Nat}
    {results : Payload} {platform : Platform}
    (ended : solo oracle fault moment (budgetGate (pgGateStore platform) touch results)
      ⟨db, taken, false⟩ = (outcome, after))
    (refused : ∀ claimed, outcome ≠ .ok (.claimed claimed)) :
    NoTrace db (after.committed db) ↔
      BudgetBalanced db moment.busy (fun reading => oracle reading .now) touch taken := by
  unfold BudgetBalanced
  rw [if_pos budgeted]
  have consumed := solo_tryConsumeBudget oracle fault moment db db.counters db.auditEvents taken
    touch.tenant touch
  dsimp only at consumed
  rw [underCap_cohort] at consumed
  change solo oracle fault moment ((pgGateStore platform).tryConsumeBudget touch.tenant touch)
    ⟨db, taken, false⟩ = _ at consumed
  unfold budgetGate at ended
  rw [solo_bind, consumed] at ended
  by_cases tenant_open : underCap db.counters
      (tenantCounter touch.tenant (oracle taken .now)) = true
  · by_cases cohort_open : underCap db.counters
        (cohortCounter touch.cohortId (oracle (taken + 1) .now)) = true
    · simp only [tenant_open, cohort_open, if_true] at ended
      simp only [tenant_open, cohort_open, if_true, forall_const]
      exact capacity_no_trace budgeted tenant_open cohort_open ended refused
    · simp only [tenant_open, cohort_open, if_true, Bool.false_eq_true, if_false,
        solo_pure] at ended
      simp only [tenant_open, cohort_open, Bool.false_eq_true, if_false, forall_const]
      have left : Left db (recount (charge (charge db.counters
          (tenantCounter touch.tenant (oracle taken .now)))
          (cohortCounter touch.cohortId (oracle (taken + 1) .now)))
          (tenantCounter touch.tenant (oracle (taken + 2) .now)) (· - 1)) db.auditEvents after :=
        ⟨_, taken + 3, (Prod.mk.inj ended).2.symm⟩
      rw [left_no_trace left]
      exact cohort_closed_no_trace tenant_open (Bool.not_eq_true _ ▸ cohort_open)
  · simp only [tenant_open, Bool.false_eq_true, if_false, solo_pure] at ended
    simp only [tenant_open, Bool.false_eq_true, false_implies, iff_true]
    have left : Left db (charge db.counters (tenantCounter touch.tenant (oracle taken .now)))
        db.auditEvents after :=
      ⟨[], taken + 1, by rw [List.append_nil]; exact (Prod.mk.inj ended).2.symm⟩
    rw [left_no_trace left]
    intro key
    rw [charge_closed (Bool.not_eq_true _ ▸ tenant_open)]
    exact same_row_refl _

/-- A refusal before anything is counted. -/
theorem turned_away {count : Nat} (same : after = ⟨db, count, false⟩)
    (closed : ¬ Admitted runtime db moment.start.clock (oracle 0 .now) touch) :
    NoTrace db (after.committed db) ↔
      Balanced db moment.busy (fun reading => oracle reading .now) touch runtime
        moment.start.clock := by
  subst same
  exact iff_of_true (no_trace_refl db) fun admitted => absurd admitted closed

/-- Gates 3 to 8. -/
theorem contact_no_trace (running : haltedScopesIn db touch.tenant = [])
    (vetted : Vetted runtime touch) {results : Payload}
    (ended : solo oracle fault moment (contactGates (pgGateStore runtime.platform) touch results)
      ⟨db, 0, false⟩ = (outcome, after))
    (refused : ∀ claimed, outcome ≠ .ok (.claimed claimed)) :
    NoTrace db (after.committed db) ↔
      Balanced db moment.busy (fun reading => oracle reading .now) touch runtime
        moment.start.clock := by
  have screened := solo_isSuppressed oracle fault moment db 0 runtime.platform
    touch.emailCanonical touch.tenant
  change solo oracle fault moment ((pgGateStore runtime.platform).isSuppressed
    touch.emailCanonical touch.tenant) ⟨db, 0, false⟩ = _ at screened
  unfold contactGates at ended
  rw [solo_bind, screened] at ended
  cases hashed : tombstoneHash runtime.platform touch.emailCanonical with
  | error error =>
      simp only [hashed] at ended
      apply turned_away (Prod.mk.inj ended).2.symm
      rintro ⟨_, _, ⟨hash, found, _⟩, _⟩
      rw [hashed] at found
      exact absurd found (by simp)
  | ok hash =>
      simp only [hashed] at ended
      cases suppressed : suppressedIn db moment.start.clock touch.emailCanonical touch.tenant
          hash with
      | true =>
          simp only [suppressed, if_true, solo_pure] at ended
          apply turned_away (Prod.mk.inj ended).2.symm
          rintro ⟨_, _, ⟨other, found, clear⟩, _⟩
          rw [hashed] at found
          obtain rfl := Except.ok.inj found
          rw [suppressed] at clear
          exact absurd clear (by simp)
      | false =>
          simp only [suppressed, Bool.false_eq_true, if_false] at ended
          have contactable : ∃ hash, tombstoneHash runtime.platform touch.emailCanonical =
              .ok hash ∧ suppressedIn db moment.start.clock touch.emailCanonical touch.tenant
                hash = false := ⟨hash, hashed, suppressed⟩
          cases profile : touch.profile with
          | cold =>
              have budgeted : touch.profile.budgeted = true := by rw [profile]; rfl
              have frequency := solo_frequencyOk oracle fault moment db 0 touch.entityId
              have readings : contactReadings db touch = firstContactReadings db touch.entityId := by
                rw [contactReadings, profile]
              change solo oracle fault moment ((pgGateStore runtime.platform).frequencyOk
                touch.entityId touch.tenant) ⟨db, 0, false⟩ = _ at frequency
              simp only [profile, solo_bind, frequency] at ended
              cases due : firstContactOk db touch.entityId (oracle 0 .now) with
              | false =>
                  simp only [due, Bool.false_eq_true, if_false, solo_pure] at ended
                  apply turned_away (Prod.mk.inj ended).2.symm
                  rintro ⟨_, _, _, allowed⟩
                  rw [profile] at allowed
                  exact absurd (due.symm.trans allowed) (by simp)
              | true =>
                  simp only [due, if_true, Nat.zero_add] at ended
                  have admitted : Admitted runtime db moment.start.clock (oracle 0 .now) touch :=
                    ⟨running, vetted, contactable, by rw [profile]; exact due⟩
                  unfold Balanced
                  rw [forall_prop_of_true admitted, readings]
                  exact budget_no_trace budgeted ended refused
          | followup =>
              have budgeted : touch.profile.budgeted = true := by rw [profile]; rfl
              have continuation := solo_sequenceContinuationOk oracle fault moment db 0
                touch.entityId touch.prospectId
              have readings : contactReadings db touch = 0 := by rw [contactReadings, profile]
              change solo oracle fault moment ((pgGateStore runtime.platform).sequenceContinuationOk
                touch.entityId touch.prospectId) ⟨db, 0, false⟩ = _ at continuation
              simp only [profile, solo_bind, continuation] at ended
              cases due : continuationOk db touch.entityId touch.prospectId with
              | false =>
                  simp only [due, Bool.false_eq_true, if_false, solo_pure] at ended
                  apply turned_away (Prod.mk.inj ended).2.symm
                  rintro ⟨_, _, _, allowed⟩
                  rw [profile] at allowed
                  exact absurd (due.symm.trans allowed) (by simp)
              | true =>
                  simp only [due, if_true] at ended
                  have admitted : Admitted runtime db moment.start.clock (oracle 0 .now) touch :=
                    ⟨running, vetted, contactable, by rw [profile]; exact due⟩
                  unfold Balanced
                  rw [forall_prop_of_true admitted, readings]
                  exact budget_no_trace budgeted ended refused
          | reply =>
              have unbudgeted : touch.profile.budgeted = false := by rw [profile]; rfl
              have readings : contactReadings db touch = 0 := by rw [contactReadings, profile]
              simp only [profile] at ended
              have admitted : Admitted runtime db moment.start.clock (oracle 0 .now) touch :=
                ⟨running, vetted, contactable, by rw [profile]⟩
              unfold Balanced BudgetBalanced
              rw [forall_prop_of_true admitted, readings, unbudgeted]
              exact reply_no_trace unbudgeted ended refused

theorem gates_no_trace
    (ended : solo oracle fault moment (gates runtime (pgGateStore runtime.platform) touch)
      ⟨db, 0, false⟩ = (outcome, after))
    (refused : ∀ claimed, outcome ≠ .ok (.claimed claimed)) :
    NoTrace db (after.committed db) ↔
      Balanced db moment.busy (fun reading => oracle reading .now) touch runtime
        moment.start.clock := by
  have halted : solo oracle fault moment
      ((pgGateStore runtime.platform).haltedScopes touch.tenant) ⟨db, 0, false⟩ =
        (.ok (haltedScopesIn db touch.tenant), ⟨db, 0, false⟩) := solo_perform _ _ db 0
  unfold gates at ended
  rw [solo_bind, halted] at ended
  by_cases running : haltedScopesIn db touch.tenant ≠ []
  · simp only [if_pos running, solo_pure] at ended
    exact turned_away (Prod.mk.inj ended).2.symm fun admitted => running admitted.running
  · simp only [if_neg running] at ended
    by_cases changed : contentHash runtime.platform touch.draft ≠ touch.storedContentHash
    · simp only [if_pos changed, solo_pure] at ended
      exact turned_away (Prod.mk.inj ended).2.symm fun admitted => changed admitted.vetted.hash
    · simp only [if_neg changed] at ended
      cases checked : validate runtime touch.draft touch.validatorCtx with
      | error error =>
          simp only [checked, solo_throw] at ended
          apply turned_away (Prod.mk.inj ended).2.symm
          intro admitted
          exact absurd (checked.symm.trans admitted.vetted.valid) (by simp)
      | ok findings =>
          simp only [checked] at ended
          by_cases found : findings ≠ []
          · simp only [if_pos found, solo_pure] at ended
            apply turned_away (Prod.mk.inj ended).2.symm
            intro admitted
            exact found (Except.ok.inj (checked.symm.trans admitted.vetted.valid))
          · simp only [if_neg found] at ended
            by_cases ungrounded : touch.groundednessPassedHash ≠ some touch.storedContentHash
            · simp only [if_pos ungrounded, solo_pure] at ended
              exact turned_away (Prod.mk.inj ended).2.symm
                fun admitted => ungrounded admitted.vetted.grounded
            · simp only [if_neg ungrounded] at ended
              rw [not_not] at running changed found ungrounded
              subst found
              exact contact_no_trace running ⟨changed, ungrounded, checked⟩ ended refused

/-- A refused claim that is committed leaves no trace exactly where it gives back
what it has counted. -/
theorem refused_claim_leaves_no_trace_iff (oracle : Nat → (query : Call) → query.Answer)
    (fault : Exc) (moment : Moment Database RowLock) (runtime : Runtime) (db : Database)
    (touch : DraftTouch) (refusal : Refusal) (after : Alone Database)
    (refused : solo oracle fault moment (claim runtime (pgGateStore runtime.platform) touch)
      ⟨db, 0, false⟩ = (.ok (.refused refusal), after)) :
    NoTrace db (after.committed db) ↔
      Balanced db moment.busy (fun reading => oracle reading .now) touch runtime
        moment.start.clock := by
  unfold claim at refused
  rw [solo_handle] at refused
  rcases ended : solo oracle fault moment (gates runtime (pgGateStore runtime.platform) touch)
      ⟨db, 0, false⟩ with ⟨outcome, later⟩
  rw [ended] at refused
  cases outcome with
  | error error =>
      obtain ⟨_, rfl⟩ := Prod.mk.inj refused
      exact gates_no_trace ended (by simp)
  | ok result =>
      obtain ⟨same, rfl⟩ := Prod.mk.inj refused
      apply gates_no_trace ended
      intro claimed equal
      rw [same] at equal
      exact absurd equal (by simp)

end Claim

section Sample

/-- The sample's address, not verified. -/
def riskyDatabase : Database :=
  { sampleDatabase with
    prospects := Table.empty.insert 3 { sampleProspect with emailConfidence := some .risky } }

/-- A claim of the sample touch, alone on a database. -/
def sampleClaim (db : Database) : Except Exc ClaimResult × Alone Database :=
  solo (fun _ => sampleReply sampleClock 100) integrityError ⟨db, fun _ => false⟩
    (claim sampleDeployment.runtime (pgGateStore samplePlatform) sampleDraftTouch) ⟨db, 0, false⟩

theorem risky_refused :
    (sampleClaim riskyDatabase).1 = .ok (.refused ⟨.confidence, "confidence", true⟩) := by
  decide +kernel

theorem risky_not_counted_before :
    riskyDatabase.counters.lookup (mailboxCounter "m@acme.example" sampleClock) = none := by
  decide +kernel

theorem risky_counted : ((sampleClaim riskyDatabase).2.committed riskyDatabase).counters.lookup
    (mailboxCounter "m@acme.example" sampleClock) = some ⟨1, 20⟩ := by decide +kernel

theorem risky_traced :
    ¬ NoTrace riskyDatabase ((sampleClaim riskyDatabase).2.committed riskyDatabase) := by
  intro trace
  have row := trace.counters (mailboxCounter "m@acme.example" sampleClock)
  exact absurd (row.fresh _ risky_not_counted_before risky_counted) (by decide)

/-- Refused for its confidence, the sample touch leaves its mailbox counted. -/
theorem unverified_claim_leaves_trace :
    (sampleClaim riskyDatabase).1 = .ok (.refused ⟨.confidence, "confidence", true⟩) ∧
      riskyDatabase.counters.lookup (mailboxCounter "m@acme.example" sampleClock) = none ∧
      ((sampleClaim riskyDatabase).2.committed riskyDatabase).counters.lookup
        (mailboxCounter "m@acme.example" sampleClock) = some ⟨1, 20⟩ ∧
      ¬ NoTrace riskyDatabase ((sampleClaim riskyDatabase).2.committed riskyDatabase) :=
  ⟨risky_refused, risky_not_counted_before, risky_counted, risky_traced⟩

/-- On the sample's refusal the condition fails. -/
theorem unverified_claim_unbalanced :
    ¬ Balanced riskyDatabase (fun _ => false) (fun _ => sampleClock) sampleDraftTouch
      sampleDeployment.runtime sampleClock := by
  have refused : sampleClaim riskyDatabase =
      (.ok (.refused ⟨.confidence, "confidence", true⟩), (sampleClaim riskyDatabase).2) := by
    rw [← risky_refused]
  have decided := refused_claim_leaves_no_trace_iff (fun _ => sampleReply sampleClock 100)
    integrityError ⟨riskyDatabase, fun _ => false⟩ sampleDeployment.runtime riskyDatabase
    sampleDraftTouch _ _ refused
  intro balanced
  exact risky_traced (decided.2 balanced)

end Sample

end OpenReachout
