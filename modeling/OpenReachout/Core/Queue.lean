import OpenReachout.Environment
import OpenReachout.Core.Canonical
import Mathlib.Algebra.Ring.Nat

/-!
# Jobs, halts and suppressions

`core/queue.py`, `core/control.py` and `core/suppression.py`. Inside a
transaction `now()` is the time at which the transaction began.
-/

namespace OpenReachout

open Relational Text

set_option autoImplicit false

def leaseSeconds : Nat := 120
def maxAttemptsDefault : Nat := 5
def backoffBaseSeconds : Nat := 30

def globalScope : String := "global"
def humanActorPrefix : String := "operator:"

structure Job where
  id : Nat
  queue : QueueName
  payload : JobPayload
  attempts : Nat
  maxAttempts : Nat
  deriving DecidableEq

section Queue

/-- The id of the new job, or none where the key already exists. -/
def enqueue (queue : QueueName) (payload : JobPayload) (key : JobKey)
    (runAfterSeconds : Nat := 0) (maxAttempts : Nat := maxAttemptsDefault) :
    Prog (Option Nat) := do
  let id ← Program.ask Call.serial
  if ← Program.insertNew Tables.jobIndex key fun _ => id then
    Program.insertRow Tables.jobs none integrityError (fun _ _ _ => none) id fun moment =>
      { queue, payload, idempotencyKey := key, maxAttempts
        runAfter := moment.start.clock + seconds runAfterSeconds }
    pure (some id)
  else
    pure none

def earliest : List (Nat × JobRow) → Option (Nat × JobRow)
  | [] => none
  | entry :: rest =>
      match earliest rest with
      | some other => if other.1 < entry.1 then some other else some entry
      | none => some entry

def due (queue : QueueName) (time : Time) (row : JobRow) : Bool :=
  row.queue = queue && row.status = .ready && row.runAfter ≤ time

def JobRow.leased (time : Time) (row : JobRow) : JobRow :=
  { row with
    status := .leased
    leaseUntil := some (time + seconds leaseSeconds)
    attempts := row.attempts + 1 }

/-- Rows another transaction has locked are skipped. -/
def lease (queue : QueueName) : Prog (Option Job) :=
  Program.perform none fun moment db =>
    let ready := db.jobs.select fun id row =>
      due queue moment.start.clock row && !moment.busy (.job id)
    match earliest ready with
    | none => .ok (Effect.reading none)
    | some (id, row) => .ok (Effect.writing
        (some ⟨id, row.queue, row.payload, row.attempts + 1, row.maxAttempts⟩)
        (Write.modify Tables.jobs [id] (fun _ _ => true) (JobRow.leased moment.start.clock)))

def updateJob (id : Nat) (change : Moment Database RowLock → JobRow → JobRow) : Prog Unit := do
  let _ ← Program.update Tables.jobs (fun _ _ other _ => other = id) change

def complete (id : Nat) : Prog Unit :=
  updateJob id fun _ row => { row with status := .done, leaseUntil := none }

def Job.exhausted (job : Job) (permanent : Bool) : Bool :=
  permanent || job.maxAttempts ≤ job.attempts

def fail (job : Job) (error : String) (permanent : Bool) : Prog Unit :=
  if !storable error.toList then
    raise .databaseError "NUL in a text"
  else if job.exhausted permanent then
    updateJob job.id fun _ row =>
      { row with status := .dead, lastError := some error, leaseUntil := none }
  else
    updateJob job.id fun moment row =>
      { row with
        status := .ready
        lastError := some error
        leaseUntil := none
        runAfter := moment.start.clock + seconds (backoffBaseSeconds * 2 ^ job.attempts) }

def reapExpired : Prog Nat := do
  let rows ← Program.update Tables.jobs
    (fun moment _ _ row => row.status = .leased && row.leaseUntil.any (· < moment.start.clock))
    fun _ row => { row with status := .ready, leaseUntil := none }
  pure rows.length

end Queue

section Control

def halt (scope actor : String) (flag : String := "halted") : Prog Unit := do
  Program.upsertRow Tables.controlFlags none scope
    (fun moment => ⟨flag, actor, moment.start.clock⟩)
    (fun moment _ => ⟨flag, actor, moment.start.clock⟩)
  let _ ← enqueue .control (.pauseAllCampaigns scope) (.halt scope flag)

def resume (scope actor : String) : Prog Bool := do
  if !humanActorPrefix.toList.isPrefixOf actor.toList then
    raise .permissionError "resume requires a human operator actor"
  let rows ← Program.deleteRows Tables.controlFlags fun _ _ other _ => other = scope
  audit "control_flag" scope "resume" [] actor
  pure !rows.isEmpty

def haltedScopesIn (db : Database) (tenant : String) : List String :=
  (db.controlFlags.select fun scope _ => scope = globalScope || scope = tenant).map Prod.fst

def haltedScopes (tenant : String) : Prog (List String) :=
  Program.markedQuery (.haltedScopes tenant) fun _ db => haltedScopesIn db tenant

end Control

section Suppression

/-- `expires_at IS NULL OR expires_at > now()` -/
def Suppression.active (time : Time) (row : Suppression) : Bool :=
  row.expiresAt.all (time < ·)

def suppress (platform : Platform) (email reason : String) (scope : String := globalScope)
    (expiresAt : Option Time := none) (propagate : Bool := true) : Prog String := do
  let canonical ← MonadExcept.ofExcept (canonicalize platform email)
  Program.upsertRow Tables.suppressions none (canonical, scope)
    (fun moment => ⟨reason, expiresAt, moment.start.clock⟩)
    (fun moment _ => ⟨reason, expiresAt, moment.start.clock⟩)
  if propagate then
    let _ ← enqueue .control (.pauseLead canonical scope) (.pause canonical scope reason)
  pure canonical

/-- The rows `is_suppressed` looks for, at the time `time`. -/
def suppressedIn (db : Database) (time : Time) (emailCanonical tenant hash : String) : Bool :=
  !(db.suppressions.select fun key row =>
      key.1 = emailCanonical && (key.2 = globalScope || key.2 = tenant) &&
        row.active time).isEmpty ||
    (db.forgetTombstones.lookup hash).isSome

def isSuppressed (platform : Platform) (emailCanonical tenant : String) : Prog Bool := do
  let hash ← MonadExcept.ofExcept (tombstoneHash platform emailCanonical)
  Program.markedQuery (.isSuppressed emailCanonical tenant) fun moment db =>
    suppressedIn db moment.start.clock emailCanonical tenant hash

def screenAtIngest (platform : Platform) (emailRaw tenant : String) : Prog Bool :=
  match canonicalize platform emailRaw with
  | .error _ => pure false
  | .ok canonical => do pure !(← isSuppressed platform canonical tenant)

/-- The upsert by which a polite decline and a second no-show put an address
on hold for some months. -/
def cooldown (emailCanonical reason : String) (months : Nat) : Prog Unit :=
  Program.upsertRow Tables.suppressions (some (.cooldown emailCanonical months))
    (emailCanonical, globalScope)
    (fun moment => ⟨reason, some (addMonths months moment.start.clock), moment.start.clock⟩)
    (fun moment row =>
      { row with expiresAt := some (addMonths months moment.start.clock), reason := reason })

end Suppression

end OpenReachout
