import OpenReachout.Core.Queue

/-!
# Configuration

What the handlers read of `core/config.py`, and what a deployment wires them to.
-/

namespace OpenReachout

open Relational Text

set_option autoImplicit false

def maxFollowUps : Nat := 3
def minFollowUpGapDays : Nat := 3

/-- A validated sequence: the validators of `SequenceSpec` are its fields. -/
structure SequenceSpec where
  steps : Nat
  gapsDays : List Nat
  humanTasks : List (Nat × String) := []
  steps_pos : 1 ≤ steps
  steps_le : steps ≤ 1 + maxFollowUps
  gaps_length : gapsDays.length = steps - 1
  gaps_ge : ∀ gap ∈ gapsDays, minFollowUpGapDays ≤ gap
  tasks_inside : ∀ task ∈ humanTasks, task.1 < steps

structure VariantSpec where
  id : String
  surface : String
  prompt : String
  deriving DecidableEq

/-- Floors under the rates of a cohort: the bounds on its fields are fields too. -/
structure FloorSpec where
  conversionRate : Option Rat := none
  replyRate : Option Rat := none
  minTrials : Nat := 25
  conversion_rate : ∀ rate ∈ conversionRate, 0 ≤ rate ∧ rate ≤ 1 := by decide +kernel
  reply_rate : ∀ rate ∈ replyRate, 0 ≤ rate ∧ rate ≤ 1 := by decide +kernel
  trials_ge : 5 ≤ minTrials := by decide
  deriving DecidableEq

structure CohortSpec where
  id : String
  filters : Payload := []
  sources : List String
  trigger : Option String := none
  floors : Option FloorSpec := none
  deriving DecidableEq

inductive ReferralMode where
  | direct | onBehalfOf
  deriving DecidableEq

structure ReferralSpec where
  prompt : String
  mode : ReferralMode := .direct
  deriving DecidableEq

structure PersonaSpec where
  id : String
  description : String
  valueProp : String
  sequence : SequenceSpec
  cohorts : List CohortSpec
  variants : List VariantSpec
  approveFirst : Nat := 0
  referral : Option ReferralSpec := none
  objectionCounters : List (String × String) := []
  reengagementPrompt : Option String := none
  voice : List (String × String) := []

section Brief

def isSecure (link : String) : Bool := "https://".toList.isPrefixOf link.toList

structure IdentitySpec where
  sender : String
  physicalAddress : String
  discloseAutomation : Bool := true
  unsubscribeText : String := "Reply STOP and you'll never hear from us again."
  sender_long : 3 ≤ sender.length := by decide
  address_long : 8 ≤ physicalAddress.length := by decide
  unsubscribe_long : 10 ≤ unsubscribeText.length := by decide

structure AssetSpec where
  id : String
  url : String
  summary : String
  id_plain : id ≠ "" ∧ id.toList.all (fun char =>
    ('a' ≤ char && char ≤ 'z') || ('0' ≤ char && char ≤ '9') || char = '_') = true
  url_secure : isSecure url = true
  summary_long : 10 ≤ summary.length

inductive ClaimsMode where
  | denylist | allowlist
  deriving DecidableEq

def ClaimsMode.text : ClaimsMode → String
  | .denylist => "denylist"
  | .allowlist => "allowlist"

inductive SectorSensitivity where
  | none | healthcare
  deriving DecidableEq

def SectorSensitivity.text : SectorSensitivity → String
  | .none => "none"
  | .healthcare => "healthcare"

/-- A validated `AboutUs`: what its validators check are its fields. -/
structure AboutUs (runtime : Runtime) where
  name : String
  whatWeDo : String
  links : List (String × String) := []
  identity : IdentitySpec
  assets : List AssetSpec := []
  claimsMode : ClaimsMode := .denylist
  sectorSensitivity : SectorSensitivity := .none
  complianceRegime : String := "us_can_spam"
  approvedClaims : List String := []
  whatWeDo_long : 10 ≤ whatWeDo.length
  links_secure : ∀ link ∈ links, isSecure link.2 = true
  regime_known : (runtime.regimes.find? fun regime => regime.name = complianceRegime).isSome = true
  claims_some : claimsMode = .allowlist → approvedClaims ≠ []
  claims_long : ∀ claim ∈ approvedClaims, 5 ≤ (Platform.strip claim.toList).length
  assets_distinct : (assets.map AssetSpec.id).Nodup
  assets_linted : ∀ asset ∈ assets,
    forbiddenHits runtime.platform asset.summary.toList [] = .ok []
  assets_registered : claimsMode = .allowlist → ∀ asset ∈ assets,
    unregisteredClaims runtime.platform asset.summary.toList (approvedClaims.map String.toList) = []

/-- What of `TenantConfig` is read by the dry run, the composers and the discovery agent. -/
structure TenantConfig (runtime : Runtime) where
  tenant : String
  aboutUs : AboutUs runtime
  personas : List PersonaSpec := []

end Brief

/-- `TenantRuntime`, with the parts of the tenant's configuration that are read. -/
structure TenantRuntime where
  tenant : String
  tenantId : Uuid
  personas : List PersonaSpec
  links : List (String × String) := []
  sectorSensitivity : String := "none"
  validatorCtx : ValidatorContext
  senderFacts : Payload := []

structure MailboxConn where
  senderName : String := ""
  deriving DecidableEq

structure SmtpSendingProvider where
  mailboxes : List (String × MailboxConn)
  defaultSenderName : String := ""
  unsubscribeUrl : Option String := none

/-- `remote` is any provider outside the repository. -/
inductive Provider where
  | remote
  | smtp (provider : SmtpSendingProvider)

/-- The cast of an object with one text under `error`, which has nothing to escape. -/
def plainObject (text : String) : Option Payload :=
  let start := "\x7b\"error\": \"".toList
  let value := (text.toList.drop start.length).dropLast.dropLast
  if text.toList = start ++ value ++ "\"\x7d".toList &&
      value.all fun char => char != '"' && char != '\\' && 32 ≤ char.toNat then
    some [("error", .text (String.ofList value))]
  else none

structure Deployment where
  runtime : Runtime
  provider : Provider
  contexts : List (String × ValidatorContext)
  sequences : Option (List (String × List (String × SequenceSpec)))
  runtimes : List (String × TenantRuntime)
  sources : List String := []
  /-- the queues the worker has a handler for -/
  handlers : List QueueName
  attributionKey : Option (List Char) := none
  /-- `CAST(... AS jsonb)` of the text of an object, where the database takes it for one -/
  castObject : String → Option Payload := plainObject

def Deployment.platform (deployment : Deployment) : Platform := deployment.runtime.platform

section Sending

/-- `message.build_message` -/
def buildMessage (provider : SmtpSendingProvider) (conn : MailboxConn) (touch : ClaimedTouch)
    (subject body : List Char) : Except Exc EmailMessage :=
  let domain := String.ofList (rpartition '@' touch.mailbox.toList).2
  if domain = "" || !touch.mailbox.toList.contains '@' then
    .error ⟨.valueError, "not a sendable mailbox: " ++ touch.mailbox⟩
  else
    .ok {
      sender := if conn.senderName = "" then provider.defaultSenderName else conn.senderName
      mailbox := touch.mailbox
      recipient := touch.recipient
      subject
      messageId := (touch.touchId, domain)
      listUnsubscribe := (provider.unsubscribeUrl.map fun url => "<" ++ url ++ ">").toList ++
        ["<mailto:" ++ touch.mailbox ++ "?subject=unsubscribe>"]
      oneClick := provider.unsubscribeUrl.isSome
      content := body }

/-- `SmtpSendingProvider.send` -/
def SmtpSendingProvider.send (provider : SmtpSendingProvider) (touch : ClaimedTouch)
    (subject body : List Char) : Prog Payload :=
  match provider.mailboxes.lookup touch.mailbox with
  | none => raise .runtimeError ("no SMTP credentials for mailbox " ++ touch.mailbox)
  | some conn => do
      let message ← MonadExcept.ofExcept (buildMessage provider conn touch subject body)
      attempt (.transport touch.mailbox message) rfl
      pure [("message_id", .text s!"<{message.messageId.1}@{message.messageId.2}>"),
        ("mailbox", .text touch.mailbox)]

def Provider.send (provider : Provider) (touch : ClaimedTouch) (subject body : List Char) :
    Prog Payload :=
  match provider with
  | .remote => attempt (.send touch subject body) rfl
  | .smtp provider => provider.send touch subject body

def Provider.pauseLead (provider : Provider) (emailCanonical : String) : Prog Unit :=
  match provider with
  | .remote => attempt (.pauseLead emailCanonical) rfl
  | .smtp _ => pure ()

def Provider.pauseAllCampaigns (provider : Provider) (tenant : String) : Prog Unit :=
  match provider with
  | .remote => attempt (.pauseAllCampaigns tenant) rfl
  | .smtp _ => pure ()

end Sending

end OpenReachout
