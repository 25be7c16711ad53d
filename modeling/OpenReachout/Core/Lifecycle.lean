import OpenReachout.Core.Config
import OpenReachout.Core.StorePg

/-!
# Prospects, variants, escalations and human tasks

`core/states.py`, `core/lifecycle.py`, `stats/persistence.py`,
`core/escalations.py` and `core/human_tasks.py`.
-/

namespace OpenReachout

open Relational Text

set_option autoImplicit false

section States

def ProspectState.text : ProspectState → String
  | .discovered => "discovered"
  | .enriched => "enriched"
  | .qualified => "qualified"
  | .queued => "queued"
  | .contacted => "contacted"
  | .engaged => "engaged"
  | .converted => "converted"
  | .disqualified => "disqualified"
  | .unenrichable => "unenrichable"
  | .bounced => "bounced"
  | .declined => "declined"
  | .unsubscribed => "unsubscribed"
  | .noResponse => "no_response"
  | .forgotten => "forgotten"

/-- `TRANSITIONS` -/
def transitions : ProspectState → List ProspectState
  | .discovered => [.enriched, .unenrichable, .forgotten]
  | .enriched => [.qualified, .disqualified, .forgotten]
  | .qualified => [.queued, .forgotten]
  | .queued => [.contacted, .disqualified, .forgotten]
  | .contacted =>
      [.engaged, .converted, .bounced, .declined, .unsubscribed, .noResponse, .forgotten]
  | .engaged => [.converted, .declined, .unsubscribed, .noResponse, .forgotten]
  | .noResponse => [.queued, .forgotten]
  | .converted | .disqualified | .unenrichable | .bounced | .declined | .unsubscribed =>
      [.forgotten]
  | .forgotten => []

def transition (prospectId : Uuid) (target : ProspectState) (actor : String)
    (reason : String := "") : Prog Unit := do
  match ← Program.lockRowsMarked Tables.prospects (some (.transition prospectId target actor))
      fun _ _ id _ => id = prospectId with
  | [] => raise .lookupError "prospect not found"
  | (_, row) :: _ =>
      if target ∉ transitions row.state then
        raise .transitionError
          ("illegal transition " ++ row.state.text ++ " -> " ++ target.text)
      let _ ← Program.update Tables.prospects (fun _ _ id _ => id = prospectId)
        fun _ row => { row with state := target }
      audit "prospect" (toString prospectId) "transition"
        [("from", .text row.state.text), ("to", .text target.text), ("reason", .text reason)] actor

end States

section Stats

/-- `record_trial` and the upsert of `stats/persistence.py`. -/
def countUp (tenant variantId : String) (change : VariantStats → VariantStats) : Prog Unit :=
  Program.upsertRow Tables.variantStats none (tenant, variantId) (fun _ => change {})
    fun _ row => change row

def recordTrial (tenant variantId : String) : Prog Unit :=
  countUp tenant variantId fun row => { row with trials := row.trials + 1 }

def recordSuccess (tenant variantId : String) : Prog Unit :=
  countUp tenant variantId fun row => { row with successes := row.successes + 1 }

inductive Guardrail where
  | bounce | complaint | unsubscribe
  deriving DecidableEq

def Guardrail.count : Guardrail → VariantStats → VariantStats
  | .bounce, row => { row with bounces := row.bounces + 1 }
  | .complaint, row => { row with complaints := row.complaints + 1 }
  | .unsubscribe, row => { row with unsubs := row.unsubs + 1 }

def guardrailMinTrials : Nat := 10

/-- The limits are 0.002, 0.02 and 0.05. -/
def guardrailBreaches (row : VariantStats) : List String :=
  if row.trials < guardrailMinTrials then []
  else
    (if 2 * row.trials < 1000 * row.complaints then ["complaint_rate"] else []) ++
    (if 2 * row.trials < 100 * row.unsubs then ["unsub_rate"] else []) ++
    (if 5 * row.trials < 100 * row.bounces then ["bounce_rate"] else [])

def recordGuardrail (tenant variantId : String) (kind : Guardrail) : Prog Unit := do
  countUp tenant variantId kind.count
  let row ← Program.query fun _ db => db.variantStats.lookup (tenant, variantId)
  match row with
  | none => pure ()
  | some row =>
      let breaches := guardrailBreaches row
      if !row.paused && !breaches.isEmpty then
        let _ ← Program.update Tables.variantStats (fun _ _ key _ => key = (tenant, variantId))
          fun _ row => { row with paused := true }
        audit "variant" variantId "guardrail_paused"
          [("tenant", .text tenant), ("breaches", .text (",".intercalate breaches))]
          "system:learning"

/-- The arms of the given variants and the totals of the tenant go to the
sampler, which answers with a live variant of the pool or fails. -/
def selectVariant (tenant : String) (pool : List VariantSpec) : Prog VariantSpec := do
  let arms ← Program.query fun _ db => pool.map fun variant =>
    (variant.id, (db.variantStats.lookup (tenant, variant.id)).getD {})
  let rows ← Program.query fun _ db => db.variantStats.select fun key _ => key.1 = tenant
  let chosen ← attempt (.thompson arms (rows.map fun entry => entry.2.successes).sum
    (rows.map fun entry => entry.2.trials).sum) rfl
  match pool.find? fun variant => variant.id = chosen with
  | some variant => pure variant
  | none => raise .other "StopIteration"

end Stats

section Escalations

def escalate (tenant : Option String) (subjectType subjectId reason : String)
    (payload : Payload := []) : Prog Unit := do
  let id ← freshUuid
  Program.insertRow Tables.escalations none integrityError (fun _ _ _ => none) id
    fun _ => { tenant, subjectType, subjectId, reason, payload }

end Escalations

section HumanTasks

def expireDays : Nat := 14

def TouchStatus.text : TouchStatus → String
  | .pendingReview => "pending_review"
  | .drafted => "drafted"
  | .claimed => "claimed"
  | .dispatched => "dispatched"
  | .sent => "sent"
  | .released => "released"
  | .pendingHuman => "pending_human"

def TouchKind.text : TouchKind → String
  | .cold => "cold"
  | .followup => "followup"
  | .agenticReply => "agentic_reply"
  | .humanTask => "human_task"

def twoDigits (number : Nat) : String := (if number < 10 then "0" else "") ++ toString number

/-- `{:%Y-%m-%d}` -/
def isoDate (time : Time) : String :=
  let date := civil (time / days 1)
  toString date.1 ++ "-" ++ twoDigits date.2.1 ++ "-" ++ twoDigits date.2.2

/-- At most eight rows in the order of the given time; rows without one come last. -/
def firstEight {Row : Type} (time : Row → Option Time) (rows : List Row) : List Row :=
  (rows.mergeSort fun first second =>
    match time first, time second with
    | some one, some other => one ≤ other
    | some _, none => true
    | none, some _ => false
    | none, none => true).take 8

def assembleBrief (platform : Platform) (prospectId : Uuid) (instruction valueProp : String) :
    Prog String := do
  let row ← Program.query fun _ db =>
    (db.prospects.lookup prospectId).bind fun prospect =>
      (db.entities.lookup prospect.entityId).map fun entity =>
        (entity.displayName, prospect.emailCanonical, prospect.cohortId)
  let (name, email, cohort) := row.getD (some "(unknown)", none, "?")
  let facts ← Program.query fun _ db =>
    (db.evidenceFacts.select fun _ fact => fact.prospectId = prospectId).map Prod.snd
  let latest := ((facts.mergeSort fun first second =>
    second.observedAt ≤ first.observedAt).take 8).map fun fact =>
      "- [" ++ fact.factType ++ "] " ++ platform.json fact.content ++ " (" ++ fact.sourceUrl ++
        ", observed " ++ isoDate fact.observedAt ++ ")"
  let history ← Program.query fun _ db =>
    (db.touches.select fun _ touch => touch.prospectId = prospectId).map Prod.snd
  let contacts := (firstEight Touch.sentAt history).map fun touch =>
    "- " ++ touch.kind.text ++ "/" ++ touch.status.text ++ ": " ++
      (match touch.subject with
        | some (char :: rest) => String.ofList (char :: rest)
        | _ => "(no subject)") ++
      (match touch.sentAt with
        | some time => " sent " ++ isoDate time
        | none => "")
  pure ("\n".intercalate (
    ["TASK: " ++ instruction,
      "Who: " ++ name.getD "None" ++
        (match email with
          | some address => if address = "" then "" else " <" ++ address ++ ">"
          | none => ""),
      "Cohort: " ++ cohort,
      "Why we reach out: " ++ valueProp,
      "",
      "Evidence (cite-able, with provenance):"] ++
    (if latest.isEmpty then ["- (no evidence card yet)"] else latest) ++
    ["", "Prior contact:"] ++
    (if contacts.isEmpty then ["- (none)"] else contacts)))

def auditTask (taskId : Uuid) (event actor : String) (payload : Payload) : Prog Unit :=
  audit "human_task" (toString taskId) event payload actor

def createForStep (platform : Platform) (tenant : String) (prospectId : Uuid)
    (campaignId : String) (stepIndex : Nat) (instruction valueProp : String) : Prog Uuid := do
  let touchId ← freshUuid
  insertTouch touchId
    { prospectId, campaignId, variantId := none, stepIndex, kind := .humanTask
      status := .pendingHuman, subject := some instruction.toList, body := none
      contentHash := "human_task" }
  let brief ← assembleBrief platform prospectId instruction valueProp
  let taskId ← freshUuid
  Program.insertRow Tables.humanTasks none integrityError
    (fun _ db row => if (db.touches.lookup row.touchId).isNone then some integrityError else none)
    taskId fun moment =>
      { tenant, prospectId, touchId, instruction, brief, createdAt := moment.start.clock }
  auditTask taskId "created" "system:compose" [("touch_id", .number touchId)]
  pure taskId

/-- Done counts as contact, skipped releases the touch. -/
def resolve (taskId : Uuid) (actor : String) (finished : Bool) (note : String) : Prog Bool := do
  if !humanActorPrefix.toList.isPrefixOf actor.toList then
    raise .permissionError "resolving a human task requires a human actor"
  let rows ← Program.update Tables.humanTasks
    (fun _ _ id row => id = taskId && row.status = .pending)
    fun moment row =>
      { row with
        status := if finished then .done else .skipped
        resolvedAt := some moment.start.clock
        resolvedBy := some actor
        outcomeNote := some note }
  match rows with
  | [] => pure false
  | (_, task) :: _ =>
      if finished then
        let _ ← setTouchStatus .sent (some (.settleTask task.touchId))
          (fun _ _ id _ => id = task.touchId)
          fun moment row => { row with sentAt := some moment.start.clock }
        let _ ← Program.update Tables.entities
          (fun _ db id _ =>
            (db.prospects.lookup task.prospectId).any fun row => row.entityId = id)
          fun moment row =>
            { row with
              lastCampaignContactAt := some moment.start.clock
              touches12mo := row.touches12mo + 1 }
      else
        let _ ← setTouchStatus .released (some (.settleTask task.touchId))
          fun _ _ id _ => id = task.touchId
      auditTask taskId (if finished then "done" else "skipped") actor [("note", .text note)]
      pure true

def expire (maxAgeDays : Nat := expireDays) : Prog Nat := do
  let rows ← Program.update Tables.humanTasks
    (fun moment _ _ row =>
      row.status = .pending && row.createdAt + days maxAgeDays < moment.start.clock)
    fun moment row =>
      { row with
        status := .expired
        resolvedAt := some moment.start.clock
        resolvedBy := some "system:expiry" }
  rows.forM fun entry => do
    let _ ← setTouchStatus .released (some (.settleTask entry.2.touchId))
      fun _ _ id _ => id = entry.2.touchId
    auditTask entry.1 "expired" "system:expiry" []
  pure rows.length

end HumanTasks

end OpenReachout
