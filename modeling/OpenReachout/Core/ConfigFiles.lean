import OpenReachout.Agents.Composer
import OpenReachout.Core.Dryrun
import OpenReachout.Text.Codec
import Mathlib.Algebra.Ring.Int.Defs
import Mathlib.Data.List.ReduceOption

/-!
# Configuration files

The data models of `core/config.py` as codecs: what `model_validate` reads, with its
validators, and what `model_dump(mode="json", exclude_none=True)` writes. A record has what
its validators check in its fields. The keys of a document are texts, as they are in JSON.
-/

namespace OpenReachout.Config

open Text Documents

set_option autoImplicit false

section Scalars

/-- How scalars of other kinds are read where a number or a flag is asked for. -/
structure Coercions where
  int : Document → Option Int
  float : Document → Option Rat
  flag : Document → Option Bool
  keyInt : String → Option Int
  int_number : ∀ value, int (.scalar (.number value)) = some value
  float_decimal : ∀ value, float (.scalar (.decimal value)) = some value
  flag_flag : ∀ value, flag (.scalar (.flag value)) = some value
  keyInt_text : ∀ value : Int, keyInt (toString value) = some value

variable (coercions : Coercions)

def int : Codec Int := .read coercions.int .kind (fun value => .scalar (.number value))
  coercions.int_number

def float : Codec Rat := .read coercions.float .kind (fun value => .scalar (.decimal value))
  coercions.float_decimal

def flag : Codec Bool := .read coercions.flag .kind (fun value => .scalar (.flag value))
  coercions.flag_flag

def intKeys : Keys Int := ⟨fun value => toString value, coercions.keyInt, coercions.keyInt_text⟩

/-- `Field(min_length=least)` -/
abbrev LongText (least : Nat) := {value : String // least ≤ value.length}

def longText (least : Nat) : Codec (LongText least) :=
  Codec.text.check (fun value => least ≤ value.length) fun _ => .short

/-- `^[a-z0-9…]+$`, with what else is allowed. -/
def matching (others : List Char) (value : String) : Bool :=
  value ≠ "" && value.toList.all fun char =>
    ('a' ≤ char && char ≤ 'z') || ('0' ≤ char && char ≤ '9') || others.contains char

abbrev Matching (others : List Char) := {value : String // matching others value = true}

def pattern (others : List Char) : Codec (Matching others) :=
  Codec.text.check (fun value => matching others value = true) fun _ => .pattern

/-- `Field(min_length=1)` of a list. -/
abbrev Some (Value : Type) := {values : List Value // 0 < values.length}

def someOf {Value : Type} (codec : Codec Value) : Codec (Some Value) :=
  codec.list.check (fun values => 0 < values.length) fun _ => .short

def texts : Codec (Mapping String String) := .mapping .texts .text

end Scalars

section Texts

variable (platform : Platform)

def quoted (text : String) : List Char := platform.repr text.toList

/-- What is said of the first of some values that is wrong. -/
def firstFault {Value : Type} (values : List Value) (wrong : Value → Bool)
    (said : Value → List Char) : Fault :=
  .value (((values.find? wrong).map said).getD [])

/-- `forbidden_hits` with the patterns of the core alone. -/
def hits (text : String) : List (List Char) :=
  (defaultForbidden platform).filterMap fun pattern => platform.search pattern text.toList

theorem forbiddenHits_eq (text : String) :
    forbiddenHits platform text.toList [] = .ok (hits platform text) := by
  unfold forbiddenHits hits
  simp [pure, Except.pure, bind, Except.bind, List.reduceOption_nil]

def claimText (subject : List Char) (text : String) : List Char :=
  subject ++ ": forbidden claim(s): ".toList ++ Agents.shown platform (hits platform text)

/-- `_slots_registered`: a prompt of which every slot is known. -/
abbrev Prompt := {value : LongText 20 // Variables.validatePrompt platform value.1.toList = []}

def slotFault (prompt : String) : Fault :=
  .value ("unknown variable slot(s): ".toList ++
    ", ".toList.intercalate (Variables.validatePrompt platform prompt.toList))

def prompt : Codec (Prompt platform) :=
  (longText 20).check (fun value => Variables.validatePrompt platform value.1.toList = [])
    fun value => slotFault platform value.1

end Texts

section AboutUs

structure GoalSpec where
  convert : LongText 3
  brainstorm : Option String

def goalSpec : Codec GoalSpec :=
  (Row.and (.required "convert" (longText 3)) <|
    .optional "brainstorm" .text fun _ null => by cases null).codec.convert
    (fun ⟨convert, brainstorm⟩ => ⟨convert, brainstorm⟩)
    (fun goals => (goals.convert, goals.brainstorm)) fun _ => rfl

variable (coercions : Coercions)

def identitySpec : Codec IdentitySpec :=
  (Row.and (.required "sender" (longText 3)) <|
    Row.and (.required "physical_address" (longText 8)) <|
    Row.and (.defaulted "disclose_automation" (flag coercions) true) <|
    .defaulted "unsubscribe_text" (longText 10)
      ⟨"Reply STOP and you'll never hear from us again.", by decide⟩).codec.convert
    (fun ⟨sender, address, disclose, unsubscribe⟩ =>
      { sender := sender.1, physicalAddress := address.1, discloseAutomation := disclose
        unsubscribeText := unsubscribe.1, sender_long := sender.2, address_long := address.2
        unsubscribe_long := unsubscribe.2 })
    (fun identity => (⟨identity.sender, identity.sender_long⟩,
      ⟨identity.physicalAddress, identity.address_long⟩, identity.discloseAutomation,
      ⟨identity.unsubscribeText, identity.unsubscribe_long⟩))
    fun _ => rfl

theorem matching_iff (value : String) : matching ['_'] value = true ↔ value ≠ "" ∧
    value.toList.all (fun char =>
      ('a' ≤ char && char ≤ 'z') || ('0' ≤ char && char ≤ '9') || char = '_') = true := by
  simp [matching, Bool.or_assoc]

variable (runtime : Runtime)

def assetUrl : Codec {url : String // isSecure url = true} :=
  Codec.text.check (fun url => isSecure url = true) fun url =>
    .value ("asset url must be https:// (got ".toList ++ quoted runtime.platform url ++ [')'])

def assetSpec : Codec AssetSpec :=
  (Row.and (.required "id" (pattern ['_'])) <|
    Row.and (.required "url" (assetUrl runtime)) <|
    .required "summary" (longText 10)).codec.convert
    (fun ⟨id, url, summary⟩ =>
      { id := id.1, url := url.1, summary := summary.1, id_plain := (matching_iff id.1).1 id.2
        url_secure := url.2, summary_long := summary.2 })
    (fun asset => (⟨asset.id, (matching_iff asset.id).2 asset.id_plain⟩,
      ⟨asset.url, asset.url_secure⟩, ⟨asset.summary, asset.summary_long⟩))
    fun _ => rfl

abbrev SecureLinks :=
  {links : Mapping String String // ∀ link ∈ links.entries, isSecure link.2 = true}

/-- `links`, each of them secure. -/
def links : Codec SecureLinks :=
  texts.check (fun links => ∀ link ∈ links.entries, isSecure link.2 = true) fun links =>
    firstFault links.entries (fun link => !isSecure link.2) fun link =>
      "link ".toList ++ quoted runtime.platform link.1 ++ " must be https:// (got ".toList ++
        quoted runtime.platform link.2 ++ [')']

/-- Texts under names, of which none makes a forbidden claim. -/
abbrev Linted :=
  {entries : Mapping String String // ∀ entry ∈ entries.entries, hits runtime.platform entry.2 = []}

def faq : Codec (Linted runtime) :=
  texts.check (fun faq => ∀ entry ∈ faq.entries, hits runtime.platform entry.2 = []) fun faq =>
    firstFault faq.entries (fun entry => !(hits runtime.platform entry.2).isEmpty) fun entry =>
      claimText runtime.platform ("faq ".toList ++ quoted runtime.platform entry.1) entry.2

def isRegistered (name : String) : Bool :=
  (runtime.regimes.find? fun regime => regime.name = name).isSome

abbrev Regime := {name : String // isRegistered runtime name = true}

def regime : Codec (Regime runtime) :=
  Codec.text.check (fun name => isRegistered runtime name = true) fun name =>
    .value (runtime.platform.repr ("unknown compliance regime ".toList ++
      quoted runtime.platform name ++ " (registered: ".toList ++
      Agents.shown runtime.platform ((runtime.regimes.map ComplianceRegime.name).mergeSort.map
        String.toList) ++ [')']))

def claimsMode : Codec ClaimsMode :=
  .choice ClaimsMode.text [.denylist, .allowlist] fun value => by cases value <;> rfl

def sectorSensitivity : Codec SectorSensitivity :=
  .choice SectorSensitivity.text [.none, .healthcare] fun value => by cases value <;> rfl

/-- The fields of `AboutUs`. -/
structure AboutFields where
  name : String
  whatWeDo : LongText 10
  links : SecureLinks
  identity : IdentitySpec
  assets : List AssetSpec
  faq : Linted runtime
  claimsMode : ClaimsMode
  sectorSensitivity : SectorSensitivity
  complianceRegime : Regime runtime
  approvedClaims : List String

/-- `us_can_spam` is always registered. -/
abbrev CoreRegime := isRegistered runtime "us_can_spam" = true

variable {runtime} (core : CoreRegime runtime)

def aboutFields : Codec (AboutFields runtime) :=
  (Row.and (.required "name" .text) <|
    Row.and (.required "what_we_do" (longText 10)) <|
    Row.and (.defaulted "links" (links runtime) ⟨.empty, fun _ member => by cases member⟩) <|
    Row.and (.required "identity" (identitySpec coercions)) <|
    Row.and (.defaulted "assets" (assetSpec runtime).list []) <|
    Row.and (.defaulted "faq" (faq runtime) ⟨.empty, fun _ member => by cases member⟩) <|
    Row.and (.defaulted "claims_mode" claimsMode .denylist) <|
    Row.and (.defaulted "sector_sensitivity" sectorSensitivity .none) <|
    Row.and (.defaulted "compliance_regime" (regime runtime) ⟨"us_can_spam", core⟩) <|
    .defaulted "approved_claims" Codec.text.list []).codec.convert
    (fun ⟨name, whatWeDo, links, identity, assets, faq, mode, sector, regime, claims⟩ =>
      ⟨name, whatWeDo, links, identity, assets, faq, mode, sector, regime, claims⟩)
    (fun about => (about.name, about.whatWeDo, about.links, about.identity, about.assets, about.faq,
      about.claimsMode, about.sectorSensitivity, about.complianceRegime, about.approvedClaims))
    fun _ => rfl

namespace AboutFields

variable (about : AboutFields runtime)

/-- `_allowlist_needs_claims` -/
def ClaimsHold : Prop :=
  (about.claimsMode = .allowlist → about.approvedClaims ≠ []) ∧
    ∀ claim ∈ about.approvedClaims, 5 ≤ (Platform.strip claim.toList).length

instance : Decidable about.ClaimsHold := inferInstanceAs (Decidable (_ ∧ _))

def claimsFault : Fault :=
  .value (if about.claimsMode = .allowlist ∧ about.approvedClaims = [] then
    "claims_mode: allowlist requires at least one approved claim".toList
  else "approved claims must be substantive phrases (>= 5 chars)".toList)

def unregistered (asset : AssetSpec) : List (List Char) :=
  if about.claimsMode = .allowlist then
    unregisteredClaims runtime.platform asset.summary.toList (about.approvedClaims.map String.toList)
  else []

/-- `_assets_claims_linted` -/
def AssetsHold : Prop :=
  (about.assets.map AssetSpec.id).Nodup ∧ ∀ asset ∈ about.assets,
    hits runtime.platform asset.summary = [] ∧ about.unregistered asset = []

instance : Decidable about.AssetsHold := inferInstanceAs (Decidable (_ ∧ _))

def assetsFault : Fault :=
  if (about.assets.map AssetSpec.id).Nodup then
    firstFault about.assets (fun asset => !(hits runtime.platform asset.summary).isEmpty ||
        !(about.unregistered asset).isEmpty) fun asset =>
      let subject := "asset ".toList ++ quoted runtime.platform asset.id
      if hits runtime.platform asset.summary ≠ [] then
        claimText runtime.platform subject asset.summary
      else subject ++ ": unregistered claim(s): ".toList ++
        Agents.shown runtime.platform (about.unregistered asset)
  else .value "duplicate asset ids".toList

end AboutFields

abbrev AboutUs (runtime : Runtime) :=
  {about : {about : AboutFields runtime // about.ClaimsHold} // about.1.AssetsHold}

def aboutUs : Codec (AboutUs runtime) :=
  ((aboutFields coercions core).check AboutFields.ClaimsHold AboutFields.claimsFault).check
    (fun about => about.1.AssetsHold) fun about => about.1.assetsFault

end AboutUs

section Brief

variable (coercions : Coercions)

/-- A whole number, with what `Field` says of it. -/
def bounded (holds : Int → Prop) [DecidablePred holds] : Codec {value : Int // holds value} :=
  (int coercions).check holds fun _ => .bound

def boundedFloat (holds : Rat → Prop) [DecidablePred holds] : Codec {value : Rat // holds value} :=
  (float coercions).check holds fun _ => .bound

structure Budgets where
  monthlyProspects : {value : Int // 0 < value ∧ value ≤ 100000}
  monthlyLlmUsd : {value : Rat // 0 < value ∧ value ≤ 100000}

def budgets : Codec Budgets :=
  (Row.and (.required "monthly_prospects" (bounded coercions fun value =>
      0 < value ∧ value ≤ 100000)) <|
    .required "monthly_llm_usd" (boundedFloat coercions fun value =>
      0 < value ∧ value ≤ 100000)).codec.convert
    (fun ⟨prospects, usd⟩ => ⟨prospects, usd⟩)
    (fun budgets => (budgets.monthlyProspects, budgets.monthlyLlmUsd)) fun _ => rfl

inductive Autonomy where
  | reviewEverything | standard | handsOff
  deriving DecidableEq

def Autonomy.text : Autonomy → String
  | .reviewEverything => "review_everything"
  | .standard => "standard"
  | .handsOff => "hands_off"

def autonomy : Codec Autonomy :=
  .choice Autonomy.text [.reviewEverything, .standard, .handsOff] fun value => by
    cases value <;> rfl

structure Brief (runtime : Runtime) where
  find : LongText 20
  research : LongText 20
  goals : GoalSpec
  aboutUs : AboutUs runtime
  budgets : Budgets
  autonomy : Autonomy

variable {runtime : Runtime} (core : CoreRegime runtime)

def brief : Codec (Brief runtime) :=
  (Row.and (.required "find" (longText 20)) <|
    Row.and (.required "research" (longText 20)) <|
    Row.and (.required "goals" goalSpec) <|
    Row.and (.required "about_us" (aboutUs coercions core)) <|
    Row.and (.required "budgets" (budgets coercions)) <|
    .defaulted "autonomy" autonomy .standard).codec.convert
    (fun ⟨find, research, goals, about, budgets, autonomy⟩ =>
      ⟨find, research, goals, about, budgets, autonomy⟩)
    (fun brief => (brief.find, brief.research, brief.goals, brief.aboutUs, brief.budgets,
      brief.autonomy))
    fun _ => rfl

end Brief

section Program

variable (coercions : Coercions)

/-- The fields of `SequenceSpec`. -/
structure SequenceFields where
  steps : {value : Int // 1 ≤ value ∧ value ≤ 1 + maxFollowUps}
  gapsDays : List Int
  humanTasks : Mapping Int String

def sequenceFields : Codec SequenceFields :=
  (Row.and (.required "steps" (bounded coercions fun value =>
      1 ≤ value ∧ value ≤ 1 + maxFollowUps)) <|
    Row.and (.defaulted "gaps_days" (int coercions).list []) <|
    .defaulted "human_tasks" (.mapping (intKeys coercions) .text) .empty).codec.convert
    (fun ⟨steps, gaps, tasks⟩ => ⟨steps, gaps, tasks⟩)
    (fun sequence => (sequence.steps, sequence.gapsDays, sequence.humanTasks)) fun _ => rfl

namespace SequenceFields

variable (sequence : SequenceFields)

/-- What is wrong with a task, if anything is. -/
def taskFault (task : Int × String) : Option (List Char) :=
  if task.1 < 0 ∨ sequence.steps.1 ≤ task.1 then
    some s!"human_tasks step {task.1} outside 0..{sequence.steps.1 - 1}".toList
  else if (Platform.strip task.2.toList).length < 10 then
    some s!"human_tasks[{task.1}]: instruction too short to act on".toList
  else none

/-- `_gaps` -/
def GapsHold : Prop :=
  (sequence.gapsDays.length : Int) = sequence.steps.1 - 1 ∧
    (∀ gap ∈ sequence.gapsDays, (minFollowUpGapDays : Int) ≤ gap) ∧
    ∀ task ∈ sequence.humanTasks.entries, sequence.taskFault task = none

instance : Decidable sequence.GapsHold := inferInstanceAs (Decidable (_ ∧ _ ∧ _))

def gapsFault : Fault :=
  if (sequence.gapsDays.length : Int) ≠ sequence.steps.1 - 1 then
    .value s!"need {sequence.steps.1 - 1} gaps for {sequence.steps.1} steps".toList
  else if sequence.gapsDays.any fun gap => gap < minFollowUpGapDays then
    .value s!"gaps must be >= {minFollowUpGapDays} days".toList
  else
    firstFault sequence.humanTasks.entries (fun task => (sequence.taskFault task).isSome) fun task =>
      (sequence.taskFault task).getD []

end SequenceFields

abbrev SequenceSpec := {sequence : SequenceFields // sequence.GapsHold}

def sequenceSpec : Codec SequenceSpec :=
  (sequenceFields coercions).check SequenceFields.GapsHold SequenceFields.gapsFault

structure TriggerSpec where
  eventType : Matching ['_', '.', ':', '-']

def triggerSpec : Codec TriggerSpec :=
  (Row.required "event_type" (pattern ['_', '.', ':', '-'])).codec.convert
    (fun eventType => ⟨eventType⟩) TriggerSpec.eventType fun _ => rfl

/-- The fields of `FloorSpec`. -/
structure FloorFields where
  conversionRate : Option {value : Rat // 0 ≤ value ∧ value ≤ 1}
  replyRate : Option {value : Rat // 0 ≤ value ∧ value ≤ 1}
  minTrials : {value : Int // 5 ≤ value}

def rate : Codec {value : Rat // 0 ≤ value ∧ value ≤ 1} :=
  boundedFloat coercions fun value => 0 ≤ value ∧ value ≤ 1

def floorSpec : Codec FloorFields :=
  (Row.and (.optional "conversion_rate" (rate coercions) fun _ null => by cases null) <|
    Row.and (.optional "reply_rate" (rate coercions) fun _ null => by cases null) <|
    .defaulted "min_trials" (bounded coercions fun value => 5 ≤ value)
      ⟨25, by decide⟩).codec.convert
    (fun ⟨conversion, reply, trials⟩ => ⟨conversion, reply, trials⟩)
    (fun floors => (floors.conversionRate, floors.replyRate, floors.minTrials)) fun _ => rfl

structure CohortSpec where
  id : Matching ['_']
  filters : Mapping String Document
  monthlyBudget : {value : Int // 0 < value}
  sources : Some String
  trigger : Option TriggerSpec
  floors : Option FloorFields

def cohortSpec : Codec CohortSpec :=
  (Row.and (.required "id" (pattern ['_'])) <|
    Row.and (.defaulted "filters" (.mapping .texts .any) .empty) <|
    Row.and (.required "monthly_budget" (bounded coercions fun value => 0 < value)) <|
    Row.and (.required "sources" (someOf .text)) <|
    Row.and (.optional "trigger" triggerSpec fun _ null => by cases null) <|
    .optional "floors" (floorSpec coercions) fun _ null => by cases null).codec.convert
    (fun ⟨id, filters, budget, sources, trigger, floors⟩ =>
      ⟨id, filters, budget, sources, trigger, floors⟩)
    (fun cohort => (cohort.id, cohort.filters, cohort.monthlyBudget, cohort.sources,
      cohort.trigger, cohort.floors))
    fun _ => rfl

variable (platform : Platform)

structure VariantSpec where
  id : Matching ['_']
  surface : String
  attributes : Mapping String String
  prompt : Prompt platform

def variantSpec : Codec (VariantSpec platform) :=
  (Row.and (.required "id" (pattern ['_'])) <|
    Row.and (.required "surface" .text) <|
    Row.and (.defaulted "attributes" texts .empty) <|
    .required "prompt" (prompt platform)).codec.convert
    (fun ⟨id, surface, attributes, prompt⟩ => ⟨id, surface, attributes, prompt⟩)
    (fun variant => (variant.id, variant.surface, variant.attributes, variant.prompt)) fun _ => rfl

def referralMode : Codec ReferralMode :=
  .choice (fun | .direct => "direct" | .onBehalfOf => "on_behalf_of") [.direct, .onBehalfOf]
    fun value => by cases value <;> rfl

structure ReferralSpec where
  prompt : Prompt platform
  mode : ReferralMode

def referralSpec : Codec (ReferralSpec platform) :=
  (Row.and (.required "prompt" (prompt platform)) <|
    .defaulted "mode" referralMode .direct).codec.convert
    (fun ⟨prompt, mode⟩ => ⟨prompt, mode⟩)
    (fun referral => (referral.prompt, referral.mode)) fun _ => rfl

def objectionClasses : List String := ["price", "trust", "timing", "already_solved", "other"]

/-- What is wrong with an objection counter, if anything is. -/
def counterFault (counter : String × String) : Option (List Char) :=
  if counter.1 ∉ objectionClasses then
    some ("unknown objection class ".toList ++ quoted platform counter.1)
  else if hits platform counter.2 ≠ [] then
    some (claimText platform ("objection counter ".toList ++ quoted platform counter.1) counter.2)
  else none

/-- `_counters_linted` -/
abbrev Counters := {counters : Mapping String String //
  ∀ counter ∈ counters.entries, counterFault platform counter = none}

def objectionCounters : Codec (Counters platform) :=
  texts.check (fun counters => ∀ counter ∈ counters.entries, counterFault platform counter = none)
    fun counters =>
      firstFault counters.entries (fun counter => (counterFault platform counter).isSome)
        fun counter => (counterFault platform counter).getD []

/-- `_reengage_slots` -/
abbrev Slotted := {value : String // Variables.validatePrompt platform value.toList = []}

def slotted : Codec (Slotted platform) :=
  Codec.text.check (fun value => Variables.validatePrompt platform value.toList = [])
    (slotFault platform)

structure PersonaSpec where
  id : Matching ['_']
  description : LongText 20
  evidenceSignals : Some String
  valueProp : LongText 10
  voice : Mapping String String
  sequence : SequenceSpec
  cohorts : Some CohortSpec
  variants : Some (VariantSpec platform)
  priority : Int
  approveFirst : {value : Int // 0 ≤ value}
  referral : Option (ReferralSpec platform)
  objectionCounters : Counters platform
  reengagementPrompt : Option (Slotted platform)

/-- The default of `approve_first`. -/
def approveNone : {value : Int // 0 ≤ value} := ⟨0, by decide⟩

def personaSpec : Codec (PersonaSpec platform) :=
  (Row.and (.required "id" (pattern ['_'])) <|
    Row.and (.required "description" (longText 20)) <|
    Row.and (.required "evidence_signals" (someOf .text)) <|
    Row.and (.required "value_prop" (longText 10)) <|
    Row.and (.defaulted "voice" texts .empty) <|
    Row.and (.required "sequence" (sequenceSpec coercions)) <|
    Row.and (.required "cohorts" (someOf (cohortSpec coercions))) <|
    Row.and (.required "variants" (someOf (variantSpec platform))) <|
    Row.and (.defaulted "priority" (int coercions) 100) <|
    Row.and (.defaulted "approve_first" (bounded coercions fun value => 0 ≤ value) approveNone) <|
    Row.and (.optional "referral" (referralSpec platform) fun _ null => by cases null) <|
    Row.and (.defaulted "objection_counters" (objectionCounters platform)
      ⟨.empty, fun _ member => by cases member⟩) <|
    .optional "reengagement_prompt" (slotted platform) fun _ null => by cases null).codec.convert
    (fun ⟨id, description, signals, valueProp, voice, sequence, cohorts, variants, priority,
        approve, referral, counters, reengagement⟩ =>
      ⟨id, description, signals, valueProp, voice, sequence, cohorts, variants, priority, approve,
        referral, counters, reengagement⟩)
    (fun persona => (persona.id, persona.description, persona.evidenceSignals, persona.valueProp,
      persona.voice, persona.sequence, persona.cohorts, persona.variants, persona.priority,
      persona.approveFirst, persona.referral, persona.objectionCounters,
      persona.reengagementPrompt))
    fun _ => rfl

structure GeneratedBy where
  agent : String
  configHash : String

def generatedBy : Codec GeneratedBy :=
  (Row.and (.required "agent" .text) <| .required "config_hash" .text).codec.convert
    (fun ⟨agent, hash⟩ => ⟨agent, hash⟩)
    (fun generated => (generated.agent, generated.configHash)) fun _ => rfl

variable {platform}

/-- What the cohorts of some personas are to spend in a month. -/
def totalBudget (personas : List (PersonaSpec platform)) : Int :=
  (personas.flatMap fun persona => persona.cohorts.1.map fun cohort => cohort.monthlyBudget.1).sum

variable (runtime : Runtime)

/-- The fields of `TenantConfig`. -/
structure TenantFields where
  tenant : Matching ['_', '-']
  brief : Brief runtime
  personas : Some (PersonaSpec runtime.platform)
  generatedBy : Option GeneratedBy

variable {runtime} (core : CoreRegime runtime)

def tenantFields : Codec (TenantFields runtime) :=
  (Row.and (.required "tenant" (pattern ['_', '-'])) <|
    Row.and (.required "brief" (brief coercions core)) <|
    Row.and (.required "personas" (someOf (personaSpec coercions runtime.platform))) <|
    .optional "generated_by" generatedBy fun _ null => by cases null).codec.convert
    (fun ⟨tenant, brief, personas, generated⟩ => ⟨tenant, brief, personas, generated⟩)
    (fun config => (config.tenant, config.brief, config.personas, config.generatedBy)) fun _ => rfl

namespace TenantFields

variable (config : TenantFields runtime)

/-- `_budget_consistency` -/
def BudgetHolds : Prop :=
  totalBudget config.personas.1 ≤ config.brief.budgets.monthlyProspects.1 ∧
    (config.personas.1.map fun persona => persona.id.1).Nodup

instance : Decidable config.BudgetHolds := inferInstanceAs (Decidable (_ ∧ _))

def budgetFault : Fault :=
  if config.brief.budgets.monthlyProspects.1 < totalBudget config.personas.1 then
    .value (s!"cohort budgets sum to {totalBudget config.personas.1} > monthly_prospects cap " ++
      s!"{config.brief.budgets.monthlyProspects.1}").toList
  else .value "duplicate persona ids".toList

end TenantFields

/-- `TenantConfig`, whose cohorts spend no more than the brief allows. -/
abbrev TenantConfig (runtime : Runtime) := {config : TenantFields runtime // config.BudgetHolds}

def tenantConfig : Codec (TenantConfig runtime) :=
  (tenantFields coercions core).check TenantFields.BudgetHolds TenantFields.budgetFault

end Program

section Reading

variable {platform : Platform} {runtime : Runtime}

/-! What the handlers read of a validated program. -/

def AboutUs.read (about : AboutUs runtime) : OpenReachout.AboutUs runtime where
  name := about.1.1.name
  whatWeDo := about.1.1.whatWeDo.1
  links := about.1.1.links.1.entries
  identity := about.1.1.identity
  assets := about.1.1.assets
  claimsMode := about.1.1.claimsMode
  sectorSensitivity := about.1.1.sectorSensitivity
  complianceRegime := about.1.1.complianceRegime.1
  approvedClaims := about.1.1.approvedClaims
  whatWeDo_long := about.1.1.whatWeDo.2
  links_secure := about.1.1.links.2
  regime_known := about.1.1.complianceRegime.2
  claims_some := about.1.2.1
  claims_long := about.1.2.2
  assets_distinct := about.2.1
  assets_linted asset member := by rw [forbiddenHits_eq, (about.2.2 asset member).1]
  assets_registered mode asset member := by
    have clean := (about.2.2 asset member).2
    rwa [AboutFields.unregistered, if_pos mode] at clean

theorem taskFault_none {sequence : SequenceFields} {task : Int × String}
    (fine : sequence.taskFault task = none) : 0 ≤ task.1 ∧ task.1 < sequence.steps.1 := by
  unfold SequenceFields.taskFault at fine
  by_cases outside : task.1 < 0 ∨ sequence.steps.1 ≤ task.1
  · rw [if_pos outside] at fine
    cases fine
  · omega

def SequenceSpec.read (sequence : SequenceSpec) : OpenReachout.SequenceSpec where
  steps := sequence.1.steps.1.toNat
  gapsDays := sequence.1.gapsDays.map Int.toNat
  humanTasks := sequence.1.humanTasks.entries.map fun task => (task.1.toNat, task.2)
  steps_pos := by
    have low := sequence.1.steps.2.1
    omega
  steps_le := by
    have high := sequence.1.steps.2.2
    omega
  gaps_length := by
    have count := sequence.2.1
    rw [List.length_map]
    omega
  gaps_ge := by
    intro gap member
    obtain ⟨given, among, rfl⟩ := List.mem_map.1 member
    have long := sequence.2.2.1 given among
    omega
  tasks_inside := by
    intro task member
    obtain ⟨given, among, rfl⟩ := List.mem_map.1 member
    have inside := taskFault_none (sequence.2.2.2 given among)
    have high := sequence.1.steps.2.1
    dsimp only
    omega

def FloorFields.read (floors : FloorFields) : FloorSpec where
  conversionRate := floors.conversionRate.map Subtype.val
  replyRate := floors.replyRate.map Subtype.val
  minTrials := floors.minTrials.1.toNat
  conversion_rate rate member := by
    obtain ⟨given, -, rfl⟩ := Option.map_eq_some_iff.1 member
    exact given.2
  reply_rate rate member := by
    obtain ⟨given, -, rfl⟩ := Option.map_eq_some_iff.1 member
    exact given.2
  trials_ge := by
    have least := floors.minTrials.2
    omega

/-- A filter of one scalar. -/
def fieldOf : Document → Option Field
  | .text value => some (.text value)
  | .scalar .null => some .null
  | .scalar (.flag value) => some (.flag value)
  | .scalar (.number value) => some (.number value)
  | .scalar (.decimal value) => some (.decimal value)
  | _ => none

def CohortSpec.read (cohort : CohortSpec) : OpenReachout.CohortSpec where
  id := cohort.id.1
  filters := cohort.filters.entries.filterMap fun filter =>
    (fieldOf filter.2).map fun value => (filter.1, value)
  sources := cohort.sources.1
  trigger := cohort.trigger.map fun trigger => trigger.eventType.1
  floors := cohort.floors.map FloorFields.read

def VariantSpec.read (variant : VariantSpec platform) : OpenReachout.VariantSpec where
  id := variant.id.1
  surface := variant.surface
  prompt := variant.prompt.1.1

def PersonaSpec.read (persona : PersonaSpec platform) : OpenReachout.PersonaSpec where
  id := persona.id.1
  description := persona.description.1
  valueProp := persona.valueProp.1
  sequence := SequenceSpec.read persona.sequence
  cohorts := persona.cohorts.1.map CohortSpec.read
  variants := persona.variants.1.map VariantSpec.read
  approveFirst := persona.approveFirst.1.toNat
  referral := persona.referral.map fun referral => ⟨referral.prompt.1.1, referral.mode⟩
  objectionCounters := persona.objectionCounters.1.entries
  reengagementPrompt := persona.reengagementPrompt.map Subtype.val
  voice := persona.voice.entries

def TenantConfig.read (config : TenantConfig runtime) : OpenReachout.TenantConfig runtime where
  tenant := config.1.tenant.1
  aboutUs := AboutUs.read config.1.brief.aboutUs
  personas := config.1.personas.1.map PersonaSpec.read

end Reading

section Loading

variable (coercions : Coercions) {runtime : Runtime} (core : CoreRegime runtime)

inductive ConfigError where
  | unreadable (text : String)
  | unmapped
  | invalid (issues : List Issue)

/-- `yaml.safe_load` of a file, and the mapping in it. -/
def readMapping (safeLoad : String → Except String Document) (file : String) :
    Except ConfigError (List (String × Document)) :=
  match safeLoad file with
  | .error text => .error (.unreadable text)
  | .ok (.object members) => .ok members
  | .ok _ => .error .unmapped

/-- `load_tenant` -/
def loadTenant (safeLoad : String → Except String Document) (file : String) :
    Except ConfigError (TenantConfig runtime) := do
  let members ← readMapping safeLoad file
  ((tenantConfig coercions core).decode (.object members)).mapError .invalid

/-- `load_brief`, of a file of its own or of a tenant's. -/
def loadBrief (safeLoad : String → Except String Document) (file : String) :
    Except ConfigError (Brief runtime) := do
  let members ← readMapping safeLoad file
  ((brief coercions core).decode ((Json.get "brief" members).getD (.object members))).mapError
    .invalid

/-- `dump_tenant` -/
def dumpTenant (safeDump : Document → String) (config : TenantConfig runtime) : String :=
  safeDump ((tenantConfig coercions core).encode config)

end Loading

end OpenReachout.Config
