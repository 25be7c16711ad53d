import OpenReachout.Core.Sendpath

/-!
# Prospecting

`core/entity.py`, `core/prospecting.py` and `core/referrals.py`: from a candidate
to a drafted touch. What the agents in `agents/` return is taken as given by the
calls to the model.
-/

namespace OpenReachout

open Relational Text Text.Platform

set_option autoImplicit false

section Entities

variable (platform : Platform)

def phoneDigits (phone : Option String) : List Char :=
  let digits := (phone.getD "").toList.filter platform.isDigit
  digits.drop (digits.length - 10)

def domainOf (website : Option String) : List Char :=
  let text := (website.getD "").toList
  let rest := match find "//".toList text with
    | some position => text.drop (position + 2)
    | none => text
  let host := platform.lower (rest.takeWhile fun char => char != '/')
  if "www.".toList.isPrefixOf host then host.drop 4 else host

def Field.str : Field → String
  | .text value => value
  | .number value => toString value
  | .decimal value => toString value
  | .flag value => if value then "True" else "False"
  | .null => "None"

def Field.truthy : Field → Bool
  | .text value => value != ""
  | .number value => value != 0
  | .decimal value => value != 0
  | .flag value => value
  | .null => false

def sourceKey (ref : Payload) (name : String) : List (String × String) :=
  match ref.lookup name with
  | some field => if field.truthy then [(name, field.str)] else []
  | none => []

def nonEmpty (text : Option String) : Option String := text.filter fun value => value != ""

def deterministicKeys (candidate : Candidate) : List (String × String) :=
  let email := match nonEmpty candidate.emailRaw with
    | some raw => ((canon platform raw).map fun address => ("email_canonical", address)).toList
    | none => []
  let domain := domainOf platform candidate.website
  let phone := phoneDigits platform candidate.phone
  email ++ sourceKey candidate.sourceRef "npi" ++ sourceKey candidate.sourceRef "place_id" ++
    (if !domain.isEmpty && !phone.isEmpty then
      [("domain_phone", String.ofList (domain ++ '|' :: phone))] else [])

structure Resolution where
  entityId : Uuid
  mergeConflict : Bool

def resolveEntity (tenantId : Uuid) (candidate : Candidate) : Prog Resolution := do
  let keys := deterministicKeys platform candidate
  let found ← Program.query fun _ db => (keys.filterMap db.entityKeys.lookup).filter fun id =>
    (db.entities.lookup id).any fun row => row.tenantId = tenantId
  let matched := found.eraseDups
  let entityId ← match matched with
    | first :: _ => pure first
    | [] => do
        let fresh ← freshUuid
        Program.insertRow Tables.entities none integrityError (fun _ _ _ => none) fresh
          fun _ => { tenantId, displayName := some candidate.displayName }
        pure fresh
  keys.forM fun key => do
    let _ ← Program.insertNew Tables.entityKeys key fun _ => entityId
  pure ⟨entityId, decide (1 < matched.length)⟩

end Entities

section Loading

def loadCard (prospectId : Uuid) : Prog (List Fact) := do
  let rows ← Program.query fun _ db =>
    db.evidenceFacts.select fun _ fact => fact.prospectId = prospectId
  pure ((rows.mergeSort fun first second =>
    first.2.observedAt ≤ second.2.observedAt).map fun entry =>
      ⟨entry.1, entry.2.factType, entry.2.content, entry.2.sourceUrl, entry.2.observedAt⟩)

/-- The prospect's runtime, its persona and itself as a candidate, where its state
is one of `states`; a tenant without a runtime raises. -/
def personaAndCandidate (runtimes : List (String × TenantRuntime)) (prospectId : Uuid)
    (states : List ProspectState) :
    Prog (Option (TenantRuntime × Option PersonaSpec × Candidate)) := do
  let row ← Program.query fun _ db =>
    (db.prospects.lookup prospectId).bind fun prospect =>
      if prospect.state ∈ states then
        (db.entities.lookup prospect.entityId).bind fun entity =>
          (db.tenants.lookup prospect.tenantId).map fun slug => (slug, prospect, entity)
      else none
  match row with
  | none => pure none
  | some (slug, prospect, entity) =>
      match runtimes.lookup slug with
      | none => raise .keyError slug
      | some runtime => pure (some (runtime,
          runtime.personas.find? fun persona => persona.id = prospect.personaId,
          { displayName := (nonEmpty entity.displayName).getD "Unknown"
            orgName := entity.displayName, emailRaw := prospect.emailRaw
            sourceAdapter := "db", sourceRef := prospect.sourceRef
            dataBasis := "government_public" }))

/-- `compose`, of which an escalation or a missing value ends in the queue of the
operator. -/
def composeOrEscalate (tenant : String) (prospectId : Uuid) (what : String)
    (inputs : ComposeInputs) : Prog (Option ComposeResult) := do
  match ← Program.ask (Call.compose inputs) with
  | .ok result => pure (some result)
  | .error error =>
      if error.kind = .composeEscalation || error.kind = .keyError then
        escalate (some tenant) "prospect" (toString prospectId) (what ++ error.text)
        pure none
      else
        throw error

end Loading

section Discovery

variable (deployment : Deployment)

def sourceDenylist : List String := ["psychologytoday.com", "yelp.com"]

def Field.json (platform : Platform) : Field → String
  | .text value => platform.json value
  | .number value => toString value
  | .decimal value => toString value
  | .flag value => if value then "true" else "false"
  | .null => "null"

def payloadJson (platform : Platform) (payload : Payload) : String :=
  "\x7b" ++ ", ".intercalate (payload.map fun entry =>
    platform.json entry.1 ++ ": " ++ entry.2.json platform) ++ "\x7d"

def denylisted (platform : Platform) (candidate : Candidate) : Bool :=
  let target := candidate.website.getD "" ++ " " ++ payloadJson platform candidate.sourceRef
  sourceDenylist.any fun bad => contains (platform.lower target.toList) bad.toList

def ingestCandidate (runtime : TenantRuntime) (persona : PersonaSpec) (cohortId : String)
    (candidate : Candidate) : Prog (Option Uuid) := do
  let platform := deployment.platform
  if denylisted platform candidate then
    pure none
  else
    let screened ← match nonEmpty candidate.emailRaw with
      | some raw => screenAtIngest platform raw runtime.tenant
      | none => pure true
    if !screened then
      pure none
    else
      let resolution ← resolveEntity platform runtime.tenantId candidate
      if resolution.mergeConflict then
        escalate (some runtime.tenant) "entity" (toString resolution.entityId)
          "merge conflict at ingest" [("candidate", .text candidate.displayName)]
      let existing ← Program.query fun _ db =>
        db.prospectIndex.lookup (cohortId, resolution.entityId)
      if existing.isSome then
        pure none
      else
        let prospectId ← freshUuid
        if !(← Program.insertNew Tables.prospectIndex (cohortId, resolution.entityId)
            fun _ => prospectId) then
          throw integrityError
        Program.insertRow Tables.prospects none integrityError
          (fun _ db row =>
            if (db.entities.lookup row.entityId).isNone then some integrityError else none)
          prospectId fun _ =>
            { tenantId := runtime.tenantId, entityId := resolution.entityId, cohortId
              personaId := persona.id, state := .discovered, emailRaw := candidate.emailRaw
              sourceAdapter := candidate.sourceAdapter, sourceRef := candidate.sourceRef
              dataBasis := candidate.dataBasis }
        let _ ← enqueue .enrich (.prospect prospectId) (.enrich prospectId)
        pure (some prospectId)

/-- `{**cohort.filters, **extra}` -/
def mergeFilters (filters extra : Payload) : Payload :=
  filters.filter (fun entry => (extra.lookup entry.1).isNone) ++ extra

def discover (tenant personaId cohortId : String) (extraFilters : Payload)
    (cursor : Option String) : Prog Unit :=
  match deployment.runtimes.lookup tenant with
  | none => raise .keyError tenant
  | some runtime =>
      match runtime.personas.find? fun persona => persona.id = personaId with
      | none => raise .other "StopIteration"
      | some persona =>
          match persona.cohorts.find? fun cohort => cohort.id = cohortId with
          | none => raise .other "StopIteration"
          | some cohort =>
              match cohort.sources.find? (deployment.sources.contains ·) with
              | none => raise .permanentJobError ("no source adapter for cohort " ++ cohort.id)
              | some source => do
                  let result ← attempt
                    (.discover source (mergeFilters cohort.filters extraFilters) cursor) rfl
                  result.candidates.forM fun candidate => do
                    let _ ← ingestCandidate deployment runtime persona cohort.id candidate
                  match nonEmpty result.cursor with
                  | none => pure ()
                  | some next =>
                      let _ ← enqueue .discover
                        (.discover tenant personaId cohortId extraFilters (some next))
                        (.discover cohort.id next)

def storeEvidence (prospectId : Uuid) (card : List Fact) : Prog Unit := do
  let _ ← Program.deleteRows Tables.evidenceFacts fun _ _ _ row => row.prospectId = prospectId
  card.forM fun fact => do
    let id ← freshUuid
    Program.insertRow Tables.evidenceFacts none integrityError (fun _ _ _ => none) id
      fun _ => ⟨prospectId, fact.factType, fact.content, fact.sourceUrl, fact.observedAt⟩

/-- `_load_candidate` -/
def loadCandidate (prospectId : Uuid) : Prog (Option Candidate) :=
  Program.query fun _ db =>
    (db.prospects.lookup prospectId).bind fun prospect =>
      if prospect.state = .discovered then
        (db.entities.lookup prospect.entityId).map fun entity =>
          { displayName := (nonEmpty entity.displayName).getD "Unknown"
            emailRaw := prospect.emailRaw, sourceAdapter := prospect.sourceAdapter
            sourceRef := prospect.sourceRef, dataBasis := prospect.dataBasis }
      else none

def attachAddress (prospectId : Uuid) (address : String) (bucket : ConfidenceBucket) :
    Prog Unit := do
  let _ ← Program.updateChecked Tables.prospects (some (.attach prospectId address))
    (fun _ _ _ _ => none) (fun _ _ id _ => id = prospectId)
    fun _ row =>
      { row with
        emailRaw := some address
        emailCanonical := canon deployment.platform address
        emailConfidence := some bucket }

def enrich (prospectId : Uuid) : Prog Unit := do
  match ← loadCandidate prospectId with
  | none => pure ()
  | some candidate =>
      let card ← attempt (.enrich candidate) rfl
      storeEvidence prospectId card
      let address ← match nonEmpty candidate.emailRaw with
        | some raw => pure (some raw)
        | none => attempt (.findEmail candidate) rfl
      match address with
      | none => transition prospectId .unenrichable "system:enrich"
      | some address =>
          let bucket ← attempt (.verify address) rfl
          attachAddress deployment prospectId address bucket
          if bucket ≠ .verified then
            transition prospectId .unenrichable "system:enrich"
          else
            transition prospectId .enriched "system:enrich"
            let _ ← enqueue .qualify (.prospect prospectId) (.qualify prospectId)

end Discovery

section Composing

variable (deployment : Deployment)

def qualify (prospectId : Uuid) : Prog Unit := do
  let loaded ← personaAndCandidate deployment.runtimes prospectId [.enriched]
  let card ← loadCard prospectId
  match loaded with
  | some (runtime, some persona, _) =>
      let verdict ← attempt (.qualify card persona.description) rfl
      let reason := String.ofList (verdict.rationale.toList.take 200)
      if verdict.escalate then
        escalate (some runtime.tenant) "prospect" (toString prospectId)
          "injection suspicion during qualification"
        transition prospectId .disqualified "system:qualify"
      else if !verdict.qualified then
        transition prospectId .disqualified "system:qualify" reason
      else
        transition prospectId .qualified "system:qualify" reason
        transition prospectId .queued "system:qualify" "qualified: entering the compose queue"
        let _ ← enqueue .compose (.compose prospectId 0) (.compose prospectId)
  | _ => pure ()

/-- Follow-ups have variants of their own: those of the step, else all of them. -/
def variantPool (persona : PersonaSpec) (stepIndex : Nat) : List VariantSpec :=
  if stepIndex = 0 then persona.variants
  else
    let followups := persona.variants.filter fun variant =>
      "followup".toList.isPrefixOf variant.surface.toList
    let specific := followups.filter fun variant => variant.surface = s!"followup_{stepIndex}"
    if specific.isEmpty then followups else specific

/-- The body of the compose handler once the prospect is loaded. -/
def composeStep (prospectId : Uuid) (stepIndex : Nat) (runtime : TenantRuntime)
    (persona : PersonaSpec) (candidate : Candidate) (card : List Fact) : Prog Unit := do
  match persona.sequence.humanTasks.lookup stepIndex with
  | some instruction =>
      let _ ← createForStep deployment.platform runtime.tenant prospectId
        (persona.id ++ ":human_task") stepIndex instruction persona.valueProp
  | none =>
      let pool := variantPool persona stepIndex
      if 0 < stepIndex ∧ pool.isEmpty then
        let _ ← releaseSequence prospectId
      else
        let variant ← selectVariant runtime.tenant pool
        match ← composeOrEscalate runtime.tenant prospectId "compose failed: "
            { variantId := variant.id, variantPrompt := variant.prompt, candidate, card
              persona := persona.id, senderFacts := runtime.senderFacts, stepIndex } with
        | none => pure ()
        | some result =>
            let _ ← queueDraft deployment prospectId (persona.id ++ ":" ++ variant.surface)
              (some variant.id) stepIndex (if stepIndex = 0 then .cold else .followup)
              result.draft result.contentSha256 persona.approveFirst

def composeHandler (prospectId : Uuid) (stepIndex : Nat) : Prog Unit := do
  let loaded ← personaAndCandidate deployment.runtimes prospectId
    (if stepIndex = 0 then [.queued] else [.contacted])
  let card ← loadCard prospectId
  match loaded with
  | some (runtime, some persona, candidate) =>
      composeStep deployment prospectId stepIndex runtime persona candidate card
  | _ =>
      -- a stop condition fired: end the drip and unlock the entity
      if 0 < stepIndex then
        let _ ← releaseSequence prospectId

end Composing

section Referrals

variable (deployment : Deployment)

/-- `process_positive_event`; the flag of the entity is set once, ever. -/
def processPositiveEvent (prospectId : Uuid) : Prog Unit := do
  let loaded ← personaAndCandidate deployment.runtimes prospectId
    [.converted, .engaged, .contacted]
  let card ← loadCard prospectId
  match loaded with
  | some (runtime, some persona, candidate) =>
      match persona.referral with
      | none => pure ()
      | some spec =>
          let claimed ← Program.update Tables.entities
            (fun _ db id row =>
              ((db.prospects.lookup prospectId).any fun prospect => prospect.entityId = id) &&
                !row.referralAsked && !row.forgotten)
            fun _ row => { row with referralAsked := true }
          if claimed.isEmpty then
            pure ()
          else
            match ← composeOrEscalate runtime.tenant prospectId "referral compose failed: "
                { variantId := persona.id ++ "_referral", variantPrompt := spec.prompt, candidate
                  card, persona := persona.id, senderFacts := runtime.senderFacts } with
            | none => pure ()
            | some result =>
                match spec.mode with
                | .onBehalfOf =>
                    let _ ← createForStep deployment.platform runtime.tenant prospectId
                      (persona.id ++ ":referral") 0
                      ("Deliver this colleague-invite draft to the provider; THEY send it (or " ++
                        "explicitly consent to visible on-behalf-of sending). Draft:\n" ++
                        String.ofList result.draft.body)
                      persona.valueProp
                | .direct =>
                    let _ ← queueDraft deployment prospectId (persona.id ++ ":referral") none 0
                      .agenticReply result.draft result.contentSha256
  | _ => pure ()

end Referrals

end OpenReachout
