import OpenReachout.Core.Prospecting

/-!
# Events

`core/events.py`, `core/replies.py`, `core/noshow.py`, `core/forget.py`,
`core/attribution.py`, `stats/sentiment.py` and the operator events of
`api/app.py`: everything that reaches a prospect from outside.
-/

namespace OpenReachout

open Relational Text Text.Regex Text.Platform

set_option autoImplicit false

section Replies

def unsubscribeRe : Regex :=
  let mail := choice [.seq (opt (word "e")) (word "mail"), word "contact"]
  .sequence [.wordBoundary, choice [
    word "unsubscribe",
    .sequence [word "opt", opt (.set fun char => char = ' ' || char = '-'), word "out"],
    word "remove me",
    word "take me off",
    .sequence [word "stop ", choice [.seq (opt (word "e")) (word "mail"), word "contact",
      word "send"]],
    .seq (word "do not ") mail,
    .sequence [.lineStart, word "stop", .wordBoundary]]]

def injectionPatterns : List Regex :=
  [ .sequence [word "ignore ",
      .star (words ["all ", "any ", "your ", "the ", "previous ", "prior "]),
      words ["instructions", "prompts", "rules"]],
    .sequence [word "disregard ", words ["the", "all", "your"], word " ",
      words ["above", "previous", "prior"]],
    word "system prompt",
    word "you are now",
    .sequence [word "new instruction", opt (word "s"), word ":"],
    .sequence [word "reveal ", words ["your", "the"], word " ",
      words ["prompt", "instructions", "configuration", "api key"]],
    bounded (word "DAN"),
    .sequence [word "act as ", choice [.seq (word "a") (opt (word "n")), word "the"], word " ",
      words ["unrestricted", "jailbroken"]] ]

def injectionSuspects (platform : Platform) (content : List Char) : Bool :=
  injectionPatterns.any fun pattern => (platform.search pattern content).isSome

inductive ReplyAction where
  | suppressUnsubscribe | sendSignupLink | answerFaq | closePoliteSuppress | reenrich | none
  | escalate
  deriving DecidableEq

def ReplyAction.text : ReplyAction → String
  | .suppressUnsubscribe => "suppress_unsubscribe"
  | .sendSignupLink => "send_signup_link"
  | .answerFaq => "answer_faq"
  | .closePoliteSuppress => "close_polite_suppress"
  | .reenrich => "reenrich"
  | .none => "none"
  | .escalate => "escalate"

def Intent.text : Intent → String
  | .interested => "interested"
  | .question => "question"
  | .objection => "objection"
  | .notInterested => "not_interested"
  | .unsubscribe => "unsubscribe"
  | .outOfOffice => "out_of_office"
  | .wrongPerson => "wrong_person"
  | .hostile => "hostile"
  | .other => "other"

structure RouteDecision where
  action : ReplyAction
  intent : Intent
  confidence : Rat
  reason : String
  objectionClass : Option String := Option.none

def confidenceFloor : Rat := 7 / 10
def maxAgenticExchanges : Nat := 1

/-- `_INTENT_ACTIONS` -/
def intentAction : Intent → ReplyAction
  | .interested => .sendSignupLink
  | .question => .answerFaq
  | .objection => .answerFaq
  | .notInterested => .closePoliteSuppress
  | .unsubscribe => .suppressUnsubscribe
  | .outOfOffice => .none
  | .wrongPerson => .reenrich
  | .hostile => .escalate
  | .other => .escalate

/-- `OUTBOUND_ACTIONS` -/
def ReplyAction.outbound : ReplyAction → Bool
  | .sendSignupLink | .answerFaq | .closePoliteSuppress => true
  | _ => false

/-- What `route` decides once the model has answered. -/
def routeClassified (suspicious : Bool) (agenticExchanges : Nat) (output : ClassifyReplyOutput) :
    RouteDecision :=
  let action := intentAction output.intent
  let escalated (reason : String) : RouteDecision :=
    ⟨.escalate, output.intent, output.confidence, reason, Option.none⟩
  if suspicious || output.injectionSuspected then escalated "injection suspicion"
  else if output.intent = .hostile then escalated "hostile always escalates"
  else if output.confidence < confidenceFloor then escalated "below confidence floor"
  else if action.outbound && maxAgenticExchanges ≤ agenticExchanges then
    escalated "agentic exchange cap reached (FR-4.2)"
  else if action = .escalate then
    escalated ("action " ++ action.text ++ " not in tenant allowlist")
  else ⟨action, output.intent, output.confidence, "classified", output.objectionClass⟩

/-- A plain opt-out is decided without the model. -/
def route (platform : Platform) (body : List Char) (agenticExchanges : Nat) :
    Prog RouteDecision :=
  if (platform.search unsubscribeRe body).isSome then
    pure ⟨.suppressUnsubscribe, .unsubscribe, 1, "deterministic pre-pass", Option.none⟩
  else do
    let output ← attempt (.classifyReply body) rfl
    pure (routeClassified (injectionSuspects platform body) agenticExchanges output)

end Replies

section Ingest

variable (deployment : Deployment)

inductive EventKind where
  | reply | bounce | complaint | unsubscribe | sent | delivered
  deriving DecidableEq

def EventKind.text : EventKind → String
  | .reply => "reply"
  | .bounce => "bounce"
  | .complaint => "complaint"
  | .unsubscribe => "unsubscribe"
  | .sent => "sent"
  | .delivered => "delivered"

structure ProviderEvent where
  providerEventId : String
  kind : EventKind
  touchId : Option Uuid
  payload : Payload := []
  deriving DecidableEq

def providerName : String := "provider"

/-- A transition that the table forbids is skipped and audited. -/
def safeTransition (prospectId : Uuid) (target : ProspectState) : Prog Unit :=
  tryCatch (transition prospectId target "system:events") fun error =>
    if error.kind = .transitionError then
      audit "prospect" (toString prospectId) "transition_skipped"
        [("target", .text target.text), ("why", .text error.text)] "system:events"
    else throw error

/-- The three safety events: suppress, count, close. -/
def safetyEvent (row : Touch × Prospect × String) (reason : String) (kind : Guardrail)
    (target : ProspectState) : Prog Unit := do
  let (touch, prospect, tenant) := row
  match nonEmpty prospect.emailCanonical with
  | some email =>
      let _ ← suppress deployment.platform email reason
  | none => pure ()
  match nonEmpty touch.variantId with
  | some variantId => recordGuardrail tenant variantId kind
  | none => pure ()
  safeTransition touch.prospectId target

def actReply (row : Touch × Prospect × String) (touchId : Uuid) (payload : Payload) :
    Prog Unit := do
  let replyId ← freshUuid
  Program.insertRow Tables.replies none integrityError (fun _ _ _ => none) replyId fun moment =>
    { prospectId := row.1.prospectId, touchId, body := some (bodyOf payload)
      receivedAt := moment.start.clock }
  let _ ← enqueue .classify (.reply replyId) (.classify replyId)
  safeTransition row.1.prospectId .engaged
where
  bodyOf (payload : Payload) : List Char :=
    ((payload.lookup "body").map Field.str).getD "" |>.toList

/-- `_act` -/
def actOn (event : ProviderEvent) : Prog Unit :=
  match event.touchId with
  | none => pure ()
  | some touchId => do
      let row ← Program.query fun _ db => joinedTouch db touchId
      match event.kind, row with
      | .bounce, some row => safetyEvent deployment row "bounce" .bounce .bounced
      | .complaint, some row => safetyEvent deployment row "complaint" .complaint .declined
      | .unsubscribe, some row =>
          safetyEvent deployment row "unsubscribe" .unsubscribe .unsubscribed
      | .reply, some row => actReply row touchId event.payload
      | .sent, _ =>
          let _ ← setTouchStatus .sent none
            fun _ _ id row => id = touchId && row.status = .dispatched
      | _, _ => pure ()

/-- A duplicate delivery is a no-op. -/
def ingestEvent (event : ProviderEvent) : Prog Unit := do
  if ← Program.insertNew Tables.providerEvents (providerName, event.providerEventId)
      fun _ => ⟨event.kind.text, event.payload⟩ then
    actOn deployment event

def ingestEvents (events : List ProviderEvent) : Prog Unit :=
  events.forM fun event => ingestEvent deployment event

end Ingest

section Sentiment

def minReplies : Nat := 10
def throttleBelow : Rat := -1 / 2
def pauseBelow : Rat := -6 / 5
def evaluateEvery : Nat := 10
def window : Nat := 200

/-- The classified replies of a cohort, newest first. -/
def classified (db : Database) (tenant cohortId : String) : List Intent :=
  let rows := (db.replies.select fun _ row => row.intent.isSome &&
    (db.prospects.lookup row.prospectId).any fun prospect =>
      prospect.cohortId = cohortId && db.tenants.lookup prospect.tenantId = some tenant)
  ((rows.map Prod.snd).mergeSort fun first second =>
    second.receivedAt ≤ first.receivedAt).filterMap Reply.intent

def alreadyActed (db : Database) (cohortId event : String) (period : Period) : Bool :=
  db.auditEvents.any fun row =>
    row.subjectType = "cohort" && row.subjectId = cohortId && row.event = event &&
      row.payload.lookup "period" = some (periodField period)
where
  periodField : Period → Field
    | .month year month => .text s!"{year}-{twoDigits month}"
    | .day year month day => .text s!"{year}-{twoDigits month}-{twoDigits day}"

def setCohortCap (cohortId : String) (period : Period) (change : Nat → Nat) :
    Prog (Option Nat) := do
  let rows ← Program.update Tables.counters
    (fun _ _ key _ => key = (ScopeType.cohortMonth, cohortId, period))
    fun _ row => { row with cap := change row.cap }
  pure (rows.head?.map fun entry => entry.2.cap)

def evaluateCohort (tenant cohortId : String) : Prog Unit := do
  let intents ← Program.markedQuery (.evaluateCohort tenant cohortId) fun _ db =>
    ((classified db tenant cohortId).take window).reverse
  let score ← Program.ask (Call.sentiment intents)
  if intents.length < minReplies then
    pure ()
  else
    let time ← now
    let period := monthOf time
    let record (event : String) (prior : Payload) : Prog Unit :=
      audit "cohort" cohortId event
        ([("period", alreadyActed.periodField period), ("score", .decimal score),
          ("replies", .number intents.length)] ++ prior) "system:sentiment"
    if score < pauseBelow then
      if ← Program.query fun _ db => alreadyActed db cohortId "sentiment_pause" period then
        pure ()
      else
        let prior ← setCohortCap cohortId period fun _ => 0
        let priorField := (prior.map fun cap => Field.number cap).getD .null
        record "sentiment_pause" [("prior_cap", priorField)]
        escalate (some tenant) "cohort" cohortId "sentiment pause"
          [("score", .decimal score), ("prior_cap", priorField)]
    else if score < throttleBelow then
      if ← Program.query fun _ db => alreadyActed db cohortId "sentiment_throttle" period then
        pure ()
      else
        let _ ← setCohortCap cohortId period fun cap => max (cap / 2) 1
        record "sentiment_throttle" []

def maybeEvaluate (tenant cohortId : String) : Prog Unit := do
  let count ← Program.markedQuery (.countReplies tenant cohortId) fun _ db =>
    (classified db tenant cohortId).length
  if count ≠ 0 ∧ count % evaluateEvery = 0 then
    evaluateCohort tenant cohortId

end Sentiment

section Classify

variable (deployment : Deployment)

/-- `_queue_agentic_reply` -/
def queueAgenticReply (decision : RouteDecision) (replyId prospectId : Uuid) (tenant : String) :
    Prog Unit :=
  match deployment.runtimes.lookup tenant with
  | none => pure ()
  | some runtime => do
      let rows ← Program.update Tables.replies
        (fun _ _ id row => id = replyId && row.agenticExchanges = 0)
        fun _ row => { row with agenticExchanges := row.agenticExchanges + 1 }
      match rows with
      | [] => pure ()
      | (_, reply) :: _ =>
          let personaId ← Program.query fun _ db =>
            (db.prospects.lookup prospectId).map Prospect.personaId
          let persona := runtime.personas.find? fun persona => some persona.id = personaId
          let counter := persona.bind fun persona =>
            (nonEmpty decision.objectionClass).bind fun name => persona.objectionCounters.lookup name
          let signup :=
            if decision.action = .sendSignupLink then runtime.links.lookup "signup" else none
          match ← Program.ask
              (Call.composeReply (reply.body.getD "None".toList) counter signup) with
          | .error error =>
              if error.kind = .replyComposeError then
                escalate (some tenant) "reply" (toString replyId)
                  ("agentic reply failed: " ++ error.text)
              else throw error
          | .ok result =>
              let _ ← queueDraft deployment prospectId
                (personaId.getD "unknown" ++ ":agentic_reply") none 0 .agenticReply result.draft
                result.contentSha256

/-- The deterministic outcomes of a decision. -/
def applyDecision (decision : RouteDecision) (replyId : Uuid) (prospectId : Uuid)
    (emailCanonical : Option String) (tenant : String) : Prog Unit :=
  match decision.action, nonEmpty emailCanonical with
  | .suppressUnsubscribe, some email => do
      let _ ← suppress deployment.platform email "unsubscribe"
      safeTransition prospectId .unsubscribed
  | .closePoliteSuppress, some email => do
      cooldown email "declined" 12
      safeTransition prospectId .declined
  | .escalate, _ =>
      escalate (some tenant) "reply" (toString replyId) decision.reason
        [("intent", .text decision.intent.text), ("confidence", .decimal decision.confidence)]
  | _, _ => pure ()

def classify (replyId : Uuid) : Prog Unit := do
  let row ← Program.query fun _ db =>
    (db.replies.lookup replyId).bind fun reply =>
      (db.prospects.lookup reply.prospectId).bind fun prospect =>
        (db.tenants.lookup prospect.tenantId).map fun slug => (reply, prospect, slug)
  match row with
  | none => raise .permanentJobError "reply not found"
  | some (reply, prospect, tenant) =>
      match reply.body with
      | none => pure ()
      | some body =>
          let prospectId := reply.prospectId
          let _ ← releaseSequence prospectId
          let decision ← route deployment.platform body reply.agenticExchanges
          if decision.intent = .interested then
            let variantId ← Program.query fun _ db =>
              (db.touches.lookup reply.touchId).bind Touch.variantId
            match nonEmpty variantId with
            | some variantId => recordSuccess tenant variantId
            | none => pure ()
            let _ ← enqueue .referral (.prospect prospectId) (.referral prospectId)
          let _ ← Program.update Tables.replies (fun _ _ id _ => id = replyId)
            fun _ row =>
              { row with intent := some decision.intent, confidence := some decision.confidence }
          applyDecision deployment decision replyId prospectId prospect.emailCanonical tenant
          if decision.action = .answerFaq ∨ decision.action = .sendSignupLink then
            queueAgenticReply deployment decision replyId prospectId tenant
          if decision.intent = .objection then
            Program.appendRow Tables.objections fun _ =>
              ⟨tenant, (nonEmpty decision.objectionClass).getD "other", replyId, prospect.cohortId⟩
          maybeEvaluate tenant prospect.cohortId

def controlOp (payload : JobPayload) : Prog Unit :=
  match payload with
  | .pauseLead email _ => deployment.provider.pauseLead email
  | .deleteLead email receiptId => do
      deployment.provider.pauseLead email
      let _ ← Program.update Tables.forgetTombstones (fun _ _ _ row => row.receiptId = receiptId)
        fun moment row => { row with providerPropagatedAt := some moment.start.clock }
  | .pauseAllCampaigns scope => deployment.provider.pauseAllCampaigns scope
  | _ => raise .permanentJobError "unknown control op"

end Classify

section NoShow

variable (deployment : Deployment)

def noshowEvent : String := "booking.no_show"
def reengageDelayDays : Nat := 3
def cooldownMonths : Nat := 6
def eligibleStates : List ProspectState := [.engaged, .contacted, .converted]

def processNoShow (prospectId : Uuid) : Prog Unit := do
  let prior ← Program.query fun _ db => (db.auditEvents.filter fun row =>
    row.subjectType = "prospect" && row.subjectId = toString prospectId &&
      row.event = "no_show").length
  audit "prospect" (toString prospectId) "no_show" [] "system:noshow"
  if prior = 0 then
    let _ ← enqueue .reengage (.prospect prospectId) (.reengage prospectId)
      (reengageDelayDays * 86400)
  else
    let email ← Program.query fun _ db =>
      (db.prospects.lookup prospectId).bind Prospect.emailCanonical
    match nonEmpty email with
    | some address => cooldown address "no_show" cooldownMonths
    | none => pure ()
    tryCatch
      (transition prospectId .declined "system:noshow" "second no-show (FR-4.5)") fun error =>
        if error.kind = .transitionError then pure () else throw error

def handleNoShowEvent (tenantId : Uuid) (selector : Payload) : Prog Unit :=
  match (selector.lookup "entity_email").filter Field.truthy with
  | none => pure ()
  | some field =>
      match canon deployment.platform field.str with
      | none => pure ()
      | some email => do
          let rows ← Program.query fun _ db => db.prospects.select fun _ row =>
            row.tenantId = tenantId && row.emailCanonical = some email &&
              eligibleStates.contains row.state
          rows.forM fun entry => processNoShow entry.1

def reengage (prospectId : Uuid) : Prog Unit := do
  match ← personaAndCandidate deployment.runtimes prospectId eligibleStates with
  | some (runtime, some persona, candidate) =>
      match persona.reengagementPrompt with
      | none =>
          escalate (some runtime.tenant) "prospect" (toString prospectId)
            "booking no-show: re-engage manually (no reengagement_prompt configured, FR-4.5)"
      | some prompt =>
          let card ← loadCard prospectId
          match ← composeOrEscalate runtime.tenant prospectId "reengage compose failed: "
              { variantId := persona.id ++ "_reengage", variantPrompt := prompt, candidate, card
                persona := persona.id } with
          | none => pure ()
          | some result =>
              let _ ← queueDraft deployment prospectId (persona.id ++ ":reengage") none 0
                .agenticReply result.draft result.contentSha256
  | _ => pure ()

/-- `_fire_trigger` -/
def fireTrigger (runtime : TenantRuntime) (persona : PersonaSpec) (cohort : CohortSpec)
    (eventId : Uuid) (selector : Payload) : Prog Unit := do
  let hits := if runtime.sectorSensitivity = "none" then []
    else phiHits deployment.platform (payloadJson deployment.platform selector).toList
  if !hits.isEmpty then
    escalate (some runtime.tenant) "operator_event" (toString eventId)
      ("event selector rejected: PHI-shaped content (" ++ ", ".intercalate hits ++ ")")
  else
    let wanted := (selector.lookup "entity_email").filter Field.truthy
    let email := wanted.bind fun field => canon deployment.platform field.str
    if wanted.isSome && email.isNone then
      pure ()
    else
      let rows ← Program.query fun _ db => db.prospects.select fun _ row =>
        row.tenantId = runtime.tenantId && row.cohortId = cohort.id && row.state = .qualified &&
          (email.isNone || row.emailCanonical = email)
      rows.forM fun entry => do
        let _ ← enqueue .compose (.compose entry.1 0) (.triggerCompose eventId entry.1)
      let _ ← enqueue .discover
        (.discover runtime.tenant persona.id cohort.id
          (selector.filter fun entry => entry.1 != "entity_email") none)
        (.triggerDiscover eventId cohort.id)

def trigger (eventId : Uuid) : Prog Unit := do
  match ← Program.query fun _ db => db.operatorEvents.lookup eventId with
  | none => raise .permanentJobError "operator event not found"
  | some row =>
      if row.eventType = noshowEvent then
        deployment.runtimes.forM fun entry =>
          handleNoShowEvent deployment entry.2.tenantId row.selector
      else
        deployment.runtimes.forM fun entry =>
          entry.2.personas.forM fun persona =>
            persona.cohorts.forM fun cohort =>
              if cohort.trigger = some row.eventType then
                fireTrigger deployment entry.2 persona cohort eventId row.selector
              else pure ()

/-- `POST /v1/events`; a duplicate event is not recorded again. -/
def operatorEvent (eventType : String) (selector : Payload) (dedupeKey : Option String) :
    Prog Unit := do
  let eventId ← freshUuid
  let fresh ← match dedupeKey with
    | some key => Program.insertNew Tables.operatorEventIndex key fun _ => eventId
    | none => pure true
  if fresh then
    Program.insertRow Tables.operatorEvents none integrityError (fun _ _ _ => none) eventId
      fun _ => ⟨eventType, selector, dedupeKey⟩
    let _ ← enqueue .trigger (.event eventId) (.trigger eventId)

end NoShow

section Forget

variable (platform : Platform)

inductive ForgetRef where
  | address (text : String)
  | entity (id : Uuid)
  deriving DecidableEq

def textLe (first second : String) : Bool := first < second || first = second

/-- `sorted(set)` -/
def sortedSet (texts : List String) : List String := texts.eraseDups.mergeSort textLe

/-- The entities and the address that a reference names. -/
def subjects (ref : ForgetRef) : Prog (List Uuid × List String) :=
  match ref with
  | .entity id => pure ([id], [])
  | .address text => do
      let canonical ← MonadExcept.ofExcept (canonicalize platform text)
      let ids ← Program.query fun _ db =>
        ((db.prospects.select fun _ row => row.emailCanonical = some canonical).map fun entry =>
            entry.2.entityId) ++
          ((db.entityKeys.select fun key _ =>
            key = ("email_canonical", canonical)).map Prod.snd)
      pure (ids.eraseDups, [canonical])

def ofEntities (ids : List Uuid) (db : Database) (prospectId : Uuid) : Bool :=
  (db.prospects.lookup prospectId).any fun row => ids.contains row.entityId

def scrub (ids : List Uuid) : Prog Unit := do
  let _ ← Program.update Tables.touches (fun _ db _ row => ofEntities ids db row.prospectId)
    fun _ row => { row with subject := none, body := none, scrubbed := true }
  let _ ← Program.update Tables.replies (fun _ db _ row => ofEntities ids db row.prospectId)
    fun _ row => { row with body := none, scrubbed := true }
  let _ ← Program.deleteRows Tables.evidenceFacts
    fun _ db _ row => ofEntities ids db row.prospectId
  let _ ← Program.update Tables.prospects (fun _ _ _ row => ids.contains row.entityId)
    fun _ row => { row with
      emailRaw := none, emailCanonical := none, sourceRef := [], state := .forgotten }
  let _ ← Program.deleteRows Tables.entityKeys fun _ _ _ entityId => ids.contains entityId
  let _ ← Program.update Tables.entities (fun _ _ id _ => ids.contains id)
    fun _ row => { row with displayName := none, forgotten := true }

def forget (ref : ForgetRef) : Prog Unit := do
  let (ids, named) ← subjects platform ref
  if ids.isEmpty && named.isEmpty then
    raise .unknownSubjectError "no entity found"
  let receiptId ← freshUuid
  let known ← Program.query fun _ db =>
    (db.prospects.select fun _ row => ids.contains row.entityId).filterMap fun entry =>
      entry.2.emailCanonical
  let addresses := sortedSet (named ++ known)
  addresses.forM fun address => do
    let hash ← MonadExcept.ofExcept (tombstoneHash platform address)
    let _ ← Program.insertNew Tables.forgetTombstones hash
      fun moment => ⟨receiptId, moment.start.clock, none⟩
  if !ids.isEmpty then
    scrub ids
  addresses.forM fun address => do
    let _ ← Program.deleteRows Tables.suppressions fun _ _ key _ => key.1 = address
  audit "forget" (toString receiptId) "executed"
    [("entities", .number ids.length), ("addresses", .number addresses.length)] "operator:forget"
  addresses.forM fun address => do
    let hash ← MonadExcept.ofExcept (tombstoneHash platform address)
    let _ ← enqueue .control (.deleteLead address receiptId) (.forget hash)

end Forget

section Conversions

/-- A replayed token, or one whose prospect cannot convert, changes nothing. -/
def recordConversion (touchId : Uuid) : Prog Bool := do
  match ← Program.query fun _ db => joinedTouch db touchId with
  | none => pure false
  | some (touch, prospect, tenant) =>
      if prospect.state = .converted then
        pure false
      else
        let converted ← tryCatch
          (do
            transition touch.prospectId .converted "system:attribution" s!"touch {touchId}"
            pure true)
          fun error => if error.kind = .transitionError then pure false else throw error
        if converted then
          match nonEmpty touch.variantId with
          | some variantId => recordSuccess tenant variantId
          | none => pure ()
          let _ ← enqueue .referral (.prospect touch.prospectId) (.referral touch.prospectId)
          audit "touch" (toString touchId) "converted" [] "system:attribution"
          pure true
        else
          pure false

end Conversions

end OpenReachout
