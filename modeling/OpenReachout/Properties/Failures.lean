import OpenReachout.Core.Worker
import OpenReachout.Outreach.Completions
import OpenReachout.Properties.Correlation

/-!
# Handlers that raise

A worker reports what a handler raised in a transaction of its own. That report is made
from the text of the exception, and there are texts that it cannot be made from.
-/

namespace OpenReachout

open Relational Relational.Program Text

set_option autoImplicit false

/-- The taxonomy of exceptions: what is not worth another attempt. -/
def ExcKind.isPermanent (kind : ExcKind) : Bool :=
  kind = .complianceJobError || kind = .permanentJobError

def restingStatus (job : Job) (error : Exc) : JobStatus :=
  if job.exhausted error.kind.isPermanent then .dead else .ready

/-- The job is at rest as the taxonomy has it, and a compliance error has raised its alert. -/
structure Reported (job : Job) (error : Exc) (old new : Database) : Prop where
  rests : ∀ row, old.jobs.lookup job.id = some row →
    ∃ now, new.jobs.lookup job.id = some now ∧ now.status = restingStatus job error
  alerted : error.kind = .complianceJobError →
    ∃ payload, new.auditEvents = old.auditEvents ++
      [⟨"job", toString job.id, "compliance_alert", payload, "system:worker"⟩]

section Reports

variable (oracle : Nat → (call : Call) → call.Answer) (fault : Exc)
variable (moment : Moment Database RowLock) (deployment : Deployment)

/-- The worker comes back from reporting the exception, with the job at rest. -/
def Copes (job : Job) (error : Exc) (db : Database) : Prop :=
  ∃ op, Op.next (.handle job) (.error error) = some op ∧
    Completes oracle fault moment (op.program deployment) db 0 fun _ later _ =>
      Reported job error db later

/-- The text of the exception can be stored and, where it goes into an alert, the object made
from it is one that the database takes. -/
def Reportable (error : Exc) : Prop :=
  storable error.text.toList = true ∧
    (error.kind = .complianceJobError → deployment.castObject (alertText error.text) ≠ none)

variable {oracle fault moment deployment} {job : Job} {error : Exc} {db : Database}

theorem storable_compliance (text : String) :
    storable ("compliance: " ++ text).toList = storable text.toList := by
  unfold storable
  rw [String.toList_append, List.contains_append]
  rfl

/-- A failure that can be stored puts the job to rest. -/
theorem completes_fail {text : String} {permanent : Bool} (stored : storable text.toList = true)
    {answered : Nat} :
    Completes oracle fault moment (fail job text permanent) db answered fun _ later taken =>
      taken = answered ∧ later.auditEvents = db.auditEvents ∧
      ∀ row, db.jobs.lookup job.id = some row → ∃ now, later.jobs.lookup job.id = some now ∧
        now.status = if job.exhausted permanent then .dead else .ready := by
  have changed (change : Moment Database RowLock → JobRow → JobRow) (status : JobStatus)
      (resting : ∀ row, (change moment row).status = status) :
      Completes oracle fault moment (updateJob job.id change) db answered fun _ later taken =>
        taken = answered ∧ later.auditEvents = db.auditEvents ∧
        ∀ row, db.jobs.lookup job.id = some row → ∃ now, later.jobs.lookup job.id = some now ∧
          now.status = status := by
    refine completes_bind (completes_update _ _ _ (completes_pure _ ⟨rfl, rfl, ?_⟩))
    intro row present
    refine ⟨change moment row, ?_, resting row⟩
    change (Table.modify _ _ _).lookup job.id = _
    rw [Table.lookup_modify, present, Option.map_some, if_pos (decide_eq_true rfl)]
  unfold fail
  rw [stored]
  by_cases exhausted : job.exhausted permanent = true
  · rw [if_neg (by decide), if_pos exhausted, if_pos exhausted]
    exact changed _ _ fun row => rfl
  · rw [if_neg (by decide), if_neg exhausted, if_neg exhausted]
    exact changed _ _ fun row => rfl

/-- A failure that cannot be stored raises. -/
theorem solo_fail_raises {text : String} {permanent : Bool}
    (unstored : storable text.toList = false) (alone : Alone Database) :
    solo oracle fault moment (fail job text permanent) alone =
      (.error ⟨.databaseError, "NUL in a text"⟩, alone) := by
  unfold fail
  rw [unstored]
  rfl

theorem completes_unitOut {Value : Type} {program : Prog Value} {answered : Nat}
    {post : Database → Prop}
    (done : Completes oracle fault moment program db answered fun _ later _ => post later) :
    Completes oracle fault moment (unitOut program) db answered fun _ later _ => post later :=
  completes_bind (done.mono fun _ _ _ _ holds => completes_pure _ holds)

theorem not_completes_of_raises {Value : Type} {program : Prog Value} {later : Alone Database}
    {raised : Exc} (raises : solo oracle fault moment program ⟨db, 0, false⟩ = (.error raised, later))
    {post : Out → Database → Nat → Prop} :
    ¬ Completes oracle fault moment (unitOut program) db 0 post := by
  intro done
  obtain ⟨value, last, taken, ended, -⟩ := done
  unfold unitOut at ended
  rw [solo_bind, raises] at ended
  cases ended

/-- The third transaction, as the exception decides it. -/
def report (job : Job) (error : Exc) : Op :=
  if error.kind = .complianceJobError then .complianceAlert job error.text
  else .fail job error.text (error.kind = .permanentJobError)

theorem next_report (job : Job) (error : Exc) :
    Op.next (.handle job) (.error error) = some (report job error) := by
  obtain ⟨kind, text⟩ := error
  cases kind <;> rfl

theorem copes_iff_completes :
    Copes oracle fault moment deployment job error db ↔
      Completes oracle fault moment ((report job error).program deployment) db 0
        fun _ later _ => Reported job error db later := by
  constructor
  · intro copes
    obtain ⟨op, next, done⟩ := copes
    rw [next_report, Option.some.injEq] at next
    rw [next]
    exact done
  · intro done
    exact ⟨report job error, next_report job error, done⟩

/-- A text that is no JSON in its place cannot become an alert. -/
theorem solo_alert_raises {text : String} (stored : storable text.toList = true)
    (malformed : deployment.castObject (alertText text) = none) :
    ∃ later, solo oracle fault moment (complianceAlert deployment job text) ⟨db, 0, false⟩ =
      (.error ⟨.databaseError, "invalid input syntax for type json"⟩, later) := by
  have failing : Completes oracle fault moment (fail job ("compliance: " ++ text) true) db 0 _ :=
    completes_fail ((storable_compliance _).trans stored)
  obtain ⟨value, later, taken, ended, -⟩ := failing
  refine ⟨⟨later, taken, false⟩, ?_⟩
  unfold complianceAlert
  rw [solo_bind, ended]
  simp only [malformed]
  rfl

/-- A compliance alert needs both its texts. -/
theorem completes_alert_iff (kind : error.kind = .complianceJobError) :
    Completes oracle fault moment (unitOut (complianceAlert deployment job error.text)) db 0
        (fun _ later _ => Reported job error db later) ↔
      storable error.text.toList = true ∧ deployment.castObject (alertText error.text) ≠ none := by
  have permanent : error.kind.isPermanent = true := by
    rw [kind]
    rfl
  cases stored : storable error.text.toList with
  | false =>
      have raises : solo oracle fault moment (complianceAlert deployment job error.text)
          ⟨db, 0, false⟩ = (.error ⟨.databaseError, "NUL in a text"⟩, ⟨db, 0, false⟩) := by
        unfold complianceAlert
        rw [solo_bind, solo_fail_raises ((storable_compliance _).trans stored)]
      constructor
      · intro done
        exact absurd done (not_completes_of_raises raises)
      · intro both
        exact absurd both.1 Bool.false_ne_true
  | true =>
      cases cast : deployment.castObject (alertText error.text) with
      | none =>
          constructor
          · intro done
            obtain ⟨later, raises⟩ := solo_alert_raises stored cast
            exact absurd done (not_completes_of_raises raises)
          · intro both
            exact absurd rfl both.2
      | some payload =>
          have failing : Completes oracle fault moment (fail job ("compliance: " ++ error.text) true)
              db 0 _ := completes_fail ((storable_compliance _).trans stored)
          refine iff_of_true (completes_unitOut ?_) ⟨rfl, Option.some_ne_none payload⟩
          refine completes_bind (failing.mono ?_)
          intro value middle taken _ failed
          simp only [cast]
          refine (completes_audit _ _ _ _ _).mono ?_
          intro _ later _ _ audited
          obtain ⟨-, rfl⟩ := audited
          refine ⟨?_, ?_⟩
          · intro row present
            unfold restingStatus
            rw [permanent]
            exact failed.2.2 row present
          · intro _
            refine ⟨payload, ?_⟩
            rw [failed.2.1]

theorem completes_failure_iff (kind : error.kind ≠ .complianceJobError) :
    Completes oracle fault moment
        (unitOut (fail job error.text (error.kind = .permanentJobError))) db 0
        (fun _ later _ => Reported job error db later) ↔ storable error.text.toList = true := by
  have permanent : error.kind.isPermanent = decide (error.kind = .permanentJobError) := by
    unfold ExcKind.isPermanent
    rw [decide_eq_false kind, Bool.false_or]
  cases stored : storable error.text.toList with
  | false =>
      constructor
      · intro done
        exact absurd done (not_completes_of_raises (solo_fail_raises stored _))
      · intro impossible
        cases impossible
  | true =>
      refine iff_of_true (completes_unitOut ((completes_fail stored).mono ?_)) rfl
      intro _ later _ _ failed
      refine ⟨?_, fun compliance => absurd compliance kind⟩
      intro row present
      unfold restingStatus
      rw [permanent]
      exact failed.2.2 row present

end Reports

/-- The worker reports what a handler raised, and puts its job to rest, exactly where the text
of the exception can be reported. -/
theorem failing_handler_reported_iff (oracle : Nat → (call : Call) → call.Answer) (fault : Exc)
    (moment : Moment Database RowLock) (deployment : Deployment) (job : Job) (error : Exc)
    (db : Database) :
    Copes oracle fault moment deployment job error db ↔ Reportable deployment error := by
  rw [copes_iff_completes]
  unfold report Reportable
  by_cases kind : error.kind = .complianceJobError
  · rw [if_pos kind]
    apply (completes_alert_iff kind).trans
    constructor
    · intro both
      exact ⟨both.1, fun _ => both.2⟩
    · intro both
      exact ⟨both.1, both.2 kind⟩
  · rw [if_neg kind]
    apply (completes_failure_iff kind).trans
    constructor
    · intro stored
      exact ⟨stored, fun compliance => absurd compliance kind⟩
    · intro both
      exact both.1

section Sample

def consentError : Exc := ⟨.complianceJobError, "missing \"consent\""⟩

def leasedDeliver : Job := ⟨5, .deliver, .touch 4, 1, 5⟩

/-- The message of a compliance error stands in its alert as it is, quotes and all. -/
theorem quoted_error_escapes :
    Op.next (.handle leasedDeliver) (.error consentError) =
      some (.complianceAlert leasedDeliver consentError.text) ∧
    (solo sampleOracle ⟨.databaseError, "aborted"⟩ ⟨sampleDatabase, fun _ => false⟩
      (complianceAlert sampleDeployment leasedDeliver consentError.text)
      ⟨sampleDatabase, 0, false⟩).1 =
        .error ⟨.databaseError, "invalid input syntax for type json"⟩ ∧
    ¬ Copes sampleOracle ⟨.databaseError, "aborted"⟩ ⟨sampleDatabase, fun _ => false⟩
      sampleDeployment leasedDeliver consentError sampleDatabase := by
  have malformed : sampleDeployment.castObject (alertText consentError.text) = none := by
    decide +kernel
  have stored : storable consentError.text.toList = true := by
    decide +kernel
  refine ⟨rfl, ?_, ?_⟩
  · have raises : ∃ later, solo sampleOracle ⟨.databaseError, "aborted"⟩
        ⟨sampleDatabase, fun _ => false⟩
        (complianceAlert sampleDeployment leasedDeliver consentError.text)
        ⟨sampleDatabase, 0, false⟩ =
          (.error ⟨.databaseError, "invalid input syntax for type json"⟩, later) :=
      solo_alert_raises stored malformed
    obtain ⟨later, ended⟩ := raises
    rw [ended]
  · intro copes
    rw [copes_iff_completes] at copes
    exact ((completes_alert_iff rfl).1 copes).2 malformed

end Sample

end OpenReachout
