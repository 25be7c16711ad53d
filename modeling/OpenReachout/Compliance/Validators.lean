import OpenReachout.Schema
import OpenReachout.Text.Platform

/-!
# Message validators

`core/compliance`: the deterministic checks a draft must pass, and the hash that
binds a checked draft to its claim. Texts are lists of characters, as the checks
read them.
-/

namespace OpenReachout

open Text Text.Regex Text.Platform

set_option autoImplicit false

inductive Violation where
  | missingPhysicalAddress | missingUnsubscribe | fakeThreadSubject | deceptiveSubject
  | tooLong | forbiddenClaim | unregisteredClaim | phiSuspected | urlNotAllowlisted
  | bumpTheater | missingSenderIdentity | empty
  deriving DecidableEq

def Violation.text : Violation → String
  | .missingPhysicalAddress => "missing_physical_address"
  | .missingUnsubscribe => "missing_unsubscribe"
  | .fakeThreadSubject => "fake_thread_subject"
  | .deceptiveSubject => "deceptive_subject"
  | .tooLong => "too_long"
  | .forbiddenClaim => "forbidden_claim"
  | .unregisteredClaim => "unregistered_claim"
  | .phiSuspected => "phi_suspected"
  | .urlNotAllowlisted => "url_not_allowlisted"
  | .bumpTheater => "bump_theater"
  | .missingSenderIdentity => "missing_sender_identity"
  | .empty => "empty"

structure Finding where
  code : Violation
  detail : List Char
  deriving DecidableEq

structure Draft where
  subject : List Char
  body : List Char
  stepIndex : Nat := 0
  deriving DecidableEq

structure ValidatorContext where
  physicalAddress : List Char
  unsubscribeText : List Char
  senderIdentity : List Char
  allowedUrlPrefixes : List (List Char)
  maxWords : Nat := 200
  forbiddenPatterns : List String := []
  claimMode : String := "denylist"
  approvedClaims : List (List Char) := []
  claimRegistryVersion : String := "deny-pack@1"
  sectorSensitivity : String := "none"
  complianceRegime : String := "us_can_spam"
  deriving DecidableEq

/-- A third-party regime may add checks to the registry; none can be replaced. -/
structure ComplianceRegime where
  name : String
  extraValidators : List (Draft → ValidatorContext → List Finding) := []

/-- What the checks run on: the platform, and the registered regimes. -/
structure Runtime where
  platform : Platform
  regimes : List ComplianceRegime := [⟨"us_can_spam", []⟩]

section Patterns

variable (platform : Platform)

def defaultForbidden : List Regex :=
  [ .sequence [.wordBoundary, word "guarantee", opt (word "d"), .wordBoundary, upTo dot 40,
      .wordBoundary,
      choice [.seq (word "client") (opt (word "s")), .seq (word "result") (opt (word "s")),
        .seq (word "booking") (opt (word "s")), word "income", word "revenue"],
      .wordBoundary],
    .sequence [.wordBoundary, word "you", choice [word "'", word " wi"], word "ll ",
      words ["get", "gain", "earn"], .wordBoundary, upTo dot 30, .wordBoundary,
      plus platform.digit],
    bounded (.sequence [word "as ", words ["we", "i"], word " discussed"]),
    bounded (.sequence [word "per our ", words ["conversation", "call", "chat"]]),
    bounded (word "following up on our"),
    bounded (.sequence [word "risk", .set fun char => char = '-' || char = ' ', word "free"]) ]

def fakeThread : Regex :=
  .sequence [.textStart, .star space, choice [word "re", .seq (word "fw") (opt (word "d"))],
    .star space, word ":"]

def deceptive : Regex :=
  choice [word "urgent", word "act now", word "final notice",
    .seq (word "account ") (words ["suspended", "alert"])]

def url : Regex :=
  .sequence [word "http", opt (word "s"), word "://",
    plus (.set fun char => !(isSpace char || char = '>' || char = '"' || char = ')' || char = ']'))]

def bumpPatterns : Regex :=
  choice [.seq (word "just ") (words ["bumping", "floating", "checking in", "circling back"]),
    .seq (word "bumping this ") (words ["up", "to the top"]),
    .sequence [word "any thoughts", .star space, word "?", .star space, .textEnd]]

def claimSignal : Regex :=
  choice [.sequence [word "$", opt space, platform.digit],
    .sequence [plus platform.digit, opt space, word "%"],
    bounded (word "free"),
    bounded (.seq (word "no ") (choice [.seq (word "fee") (opt (word "s")), word "charge",
      word "cost"])),
    bounded (.seq (word "we ") (words ["offer", "provide", "charge", "guarantee", "include"])),
    bounded (.seq (word "our ") (choice [word "platform", word "service", word "membership",
      word "pricing", word "plan", .seq (word "account") (opt (word "s"))])),
    bounded (.seq (word "per ") (words ["month", "year", "gig", "booking", "session"]))]

def sentenceSplit : Regex :=
  plus (.set fun char => char = '.' || char = '!' || char = '?' || char = '\n')

/-- `phi.PHI_PATTERNS`. -/
def phiPatterns : List (String × Regex) :=
  [ ("dob", .sequence [bounded (words ["DOB", "date of birth"]), upTo dot 24, platform.digit]),
    ("record_id", .sequence [
      bounded (choice [word "MRN", .seq (word "medical record ") (words ["number", "#"]),
        word "member id", .seq (word "policy ") (words ["number", "#"])]),
      upTo dot 16, exactly recordChar 4, .star recordChar]),
    ("icd_code", .sequence [.wordBoundary,
      .set fun char => (fold char).isAlpha && fold char != 'u',
      exactly platform.digit 2, word ".", platform.digit, upTo platform.digit 2, .wordBoundary]),
    ("diagnosis", .sequence [.wordBoundary, word "diagnos", words ["ed", "is of"], .wordBoundary,
      upTo dot 40]),
    ("care_detail", bounded (words ["session notes", "treatment plan for", "intake notes",
      "presenting problem"])),
    ("care_relationship", .sequence [.wordBoundary, word "my ", words ["patient", "client"],
      .wordBoundary, upTo dot 40]) ]
where
  recordChar : Regex := .set fun char => (fold char).isAlphanum || char = '-'

end Patterns

def contentHash (platform : Platform) (draft : Draft) : String :=
  platform.sha256 (draft.subject ++ '\x00' :: draft.body)

def forbiddenHits (platform : Platform) (content : List Char) (extraPatterns : List String) :
    Except Exc (List (List Char)) := do
  let core := (defaultForbidden platform).filterMap fun pattern => platform.search pattern content
  let extra ← extraPatterns.mapM fun pattern =>
    match platform.searchPattern pattern content with
    | .ok hit => pure hit
    | .error text => throw ⟨.other, text⟩
  return core ++ extra.reduceOption

def unregisteredClaims (platform : Platform) (content : List Char) (approved : List (List Char)) :
    List (List Char) :=
  let normalized := approved.map fun claim => platform.lower (strip claim)
  (sentenceSplit.split platform.isWord content).filterMap fun sentence =>
    if (platform.search (claimSignal platform) sentence).isNone then none
    else if normalized.any (contains (platform.lower sentence)) then none
    else some ((strip sentence).take 80)

def phiHits (platform : Platform) (content : List Char) : List String :=
  (phiPatterns platform).filterMap fun entry =>
    (platform.search entry.2 content).map fun _ => entry.1

def getRegime (regimes : List ComplianceRegime) (name : String) : Except Exc ComplianceRegime :=
  match regimes.find? fun regime => regime.name = name with
  | some regime => .ok regime
  | none => .error ⟨.keyError, "unknown compliance regime " ++ name⟩

def regimeFindings (regimes : List ComplianceRegime) (name : String) (draft : Draft)
    (ctx : ValidatorContext) : Except Exc (List Finding) := do
  let regime ← getRegime regimes name
  return regime.extraValidators.flatMap fun check => check draft ctx

/-- `validate`. The findings come in the order of the checks; a pattern of the
tenant's that does not compile, or an unknown regime, raises. -/
def validate (runtime : Runtime) (draft : Draft) (ctx : ValidatorContext) :
    Except Exc (List Finding) := do
  let platform := runtime.platform
  let subject := strip draft.subject
  let body := strip draft.body
  if subject.isEmpty || body.isEmpty then
    return [⟨.empty, "empty subject or body".toList⟩]
  let flag (found : Bool) (code : Violation) (detail : List Char) : List Finding :=
    if found then [⟨code, detail⟩] else []
  let content := subject ++ '\n' :: body
  let words := (fields body).length
  let identity := strip ctx.senderIdentity
  let unsubscribe := platform.lower (strip ctx.unsubscribeText)
  let forbidden ← forbiddenHits platform content ctx.forbiddenPatterns
  let regime ←
    if ctx.complianceRegime = "us_can_spam" then pure []
    else regimeFindings runtime.regimes ctx.complianceRegime draft ctx
  let screened := match find unsubscribe (platform.lower body) with
    | some cutoff => body.take cutoff
    | none => body
  return flag (!contains body (strip ctx.physicalAddress)) .missingPhysicalAddress
      "CAN-SPAM physical address absent".toList ++
    flag (!contains (platform.lower body) unsubscribe) .missingUnsubscribe
      "unsubscribe text absent".toList ++
    flag (!identity.isEmpty && !contains body identity) .missingSenderIdentity
      "sender identity absent from body".toList ++
    flag (fakeThread.matchAt platform.isWord [] subject).isSome .fakeThreadSubject
      ("subject ".toList ++ platform.repr subject) ++
    flag (platform.search deceptive subject).isSome .deceptiveSubject
      ("subject ".toList ++ platform.repr subject) ++
    flag (ctx.maxWords < words) .tooLong s!"{words} words > {ctx.maxWords}".toList ++
    forbidden.map (⟨.forbiddenClaim, ·⟩) ++
    ((url.findAll platform.isWord body).filter fun link =>
      !(ctx.allowedUrlPrefixes.any fun start =>
        (platform.lower start).isPrefixOf (platform.lower link))).map (⟨.urlNotAllowlisted, ·⟩) ++
    flag (1 ≤ draft.stepIndex && (platform.search bumpPatterns body).isSome) .bumpTheater
      "content-free follow-up".toList ++
    (if ctx.sectorSensitivity = "none" then []
      else (phiHits platform content).map fun name => ⟨.phiSuspected, name.toList⟩) ++
    regime ++
    (if ctx.claimMode = "allowlist" then
      (unregisteredClaims platform screened ctx.approvedClaims).map (⟨.unregisteredClaim, ·⟩)
    else [])

end OpenReachout
