import OpenReachout.Core.Config
import OpenReachout.Core.Evidence
import OpenReachout.Core.Variables

/-!
# What a composition starts from

`core/dryrun.py`, of which the composers use `validator_context`, `trusted_context` and
`build_values`.
-/

namespace OpenReachout.Dryrun

open Text Text.Platform Variables Evidence

set_option autoImplicit false

section Context

variable {runtime : Runtime}

/-- `claims.registry_version` -/
def registryVersion (aboutUs : AboutUs runtime) : String :=
  if aboutUs.claimsMode ≠ .allowlist then "deny-pack@1"
  else
    let phrases := aboutUs.approvedClaims.map fun claim =>
      String.ofList (runtime.platform.lower (strip claim.toList))
    let digest := runtime.platform.sha256 (['\x00'].intercalate
      ((phrases.mergeSort fun first second => !(second < first)).map String.toList))
    "allowlist@" ++ String.ofList (digest.toList.take 12)

def validatorContext (tenant : TenantConfig runtime) : ValidatorContext where
  physicalAddress := tenant.aboutUs.identity.physicalAddress.toList
  unsubscribeText := tenant.aboutUs.identity.unsubscribeText.toList
  senderIdentity := tenant.aboutUs.identity.sender.toList
  allowedUrlPrefixes := (tenant.aboutUs.links.map fun link => link.2.toList) ++
    tenant.aboutUs.assets.map fun asset => asset.url.toList
  claimMode := tenant.aboutUs.claimsMode.text
  approvedClaims := tenant.aboutUs.approvedClaims.map String.toList
  claimRegistryVersion := registryVersion tenant.aboutUs
  sectorSensitivity := tenant.aboutUs.sectorSensitivity.text
  complianceRegime := tenant.aboutUs.complianceRegime

def trustedContext (tenant : TenantConfig runtime) (persona : PersonaSpec) : List Char :=
  let identity := tenant.aboutUs.identity
  let links := ", ".intercalate (tenant.aboutUs.links.map fun link => link.1 ++ ": " ++ link.2)
  ['\n'].intercalate (([
    "Sender identity line (include verbatim): - " ++ identity.sender,
    "Physical address line (include verbatim): " ++ identity.physicalAddress,
    "Unsubscribe line (include verbatim): " ++ identity.unsubscribeText,
    "What we do: " ++ tenant.aboutUs.whatWeDo,
    "Value prop for this persona: " ++ persona.valueProp,
    "Allowed links: " ++ (if links = "" then "(none)" else links)] ++
    (if identity.discloseAutomation then
      ["Disclosure (work a brief honest version into the message): drafting is " ++
        "AI-assisted; a human reads every reply."]
    else [])).map String.toList)

end Context

section Values

variable {runtime : Runtime} (candidate : Candidate) (tenant : TenantConfig runtime)
variable (persona : PersonaSpec) (senderFacts : List (String × String))

def startsWith (start : String) (slot : List Char) : Bool := start.toList.isPrefixOf slot

/-- The text after `start`. -/
def after (start : String) (slot : List Char) : String :=
  String.ofList (slot.drop start.toList.length)

def trusted (slot value : List Char) : ResolvedValue := { slot, value, trust := .trusted }

def ofProspect (slot value : List Char) : ResolvedValue := { slot, value, trust := .prospect }

/-- The value of one slot, where there is one, and the facts that are left for the next
slots. -/
def slotValue (slot : List Char) (facts : List CardFact) :
    Except Exc (Option ResolvedValue × List CardFact) :=
  if startsWith "sender." slot then
    .ok ((senderFacts.lookup (after "sender." slot)).map fun fact => trusted slot fact.toList, facts)
  else if startsWith "asset." slot then
    let asset := tenant.aboutUs.assets.find? fun asset => asset.id = after "asset." slot
    .ok (asset.map fun asset => trusted slot asset.url.toList, facts)
  else if startsWith "evidence." slot then
    match facts with
    | [] => .ok (none, [])
    | fact :: others =>
        .ok (some { slot, value := fact.content, trust := .untrusted, factId := some fact.factId
                    sourceUrl := some fact.sourceUrl }, others)
  else if slot = "prospect.first_name".toList then
    match fields candidate.displayName.toList with
    | [] => .error ⟨.other, "list index out of range"⟩
    | first :: _ => .ok (some (ofProspect slot first), facts)
  else if slot = "prospect.org_name".toList then
    .ok (some (ofProspect slot
      ((candidate.orgName.filter (· ≠ "")).getD candidate.displayName).toList), facts)
  else if slot = "persona.value_prop".toList then
    .ok (some (trusted slot persona.valueProp.toList), facts)
  else if slot = "persona.voice_rules".toList then
    let voice := "; ".intercalate (persona.voice.map fun rule => rule.1 ++ ": " ++ rule.2)
    .ok (some (trusted slot (if voice = "" then "plain and warm" else voice).toList), facts)
  else if startsWith "tenant.links." slot then
    let link := tenant.aboutUs.links.lookup (String.ofList (rpartition '.' slot).2)
    .ok (some (trusted slot (link.getD "").toList), facts)
  else if slot = "tenant.name".toList then
    .ok (some (trusted slot tenant.aboutUs.name.toList), facts)
  else .ok (none, facts)

def slotValues : List (List Char) → List CardFact →
    Except Exc (List (List Char × ResolvedValue))
  | [], _ => .ok []
  | slot :: slots, facts => do
      let found ← slotValue candidate tenant persona senderFacts slot facts
      let others ← slotValues slots found.2
      return (found.1.map fun value => (slot, value)).toList ++ others

/-- `build_values` at the time `now`. -/
def buildValues (now : Time) (prompt : List Char) (card : EvidenceCard) :
    Except Exc (List (List Char × ResolvedValue)) :=
  slotValues candidate tenant persona senderFacts (extractSlots runtime.platform prompt)
    (freshFacts now card)

end Values

end OpenReachout.Dryrun
