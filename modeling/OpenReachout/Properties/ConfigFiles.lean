import OpenReachout.Core.ConfigFiles
import OpenReachout.Properties.Compositions

/-!
# What a configuration file is taken for

A program that is written is read back as it was, a file has nothing that the data models
do not declare, and a file that is refused is refused for reasons that are in it.
-/

namespace OpenReachout.Config

open Text Documents

set_option autoImplicit false

section Shapes

def briefShape : Shape :=
  .record [
    ("find", .any),
    ("research", .any),
    ("goals", .record [("convert", .any), ("brainstorm", .any)]),
    ("about_us", .record [
      ("name", .any),
      ("what_we_do", .any),
      ("links", .table .any),
      ("identity", .record [("sender", .any), ("physical_address", .any),
        ("disclose_automation", .any), ("unsubscribe_text", .any)]),
      ("assets", .list (.record [("id", .any), ("url", .any), ("summary", .any)])),
      ("faq", .table .any),
      ("claims_mode", .any),
      ("sector_sensitivity", .any),
      ("compliance_regime", .any),
      ("approved_claims", .list .any)]),
    ("budgets", .record [("monthly_prospects", .any), ("monthly_llm_usd", .any)]),
    ("autonomy", .any)]

def personaShape : Shape :=
  .record [
    ("id", .any),
    ("description", .any),
    ("evidence_signals", .list .any),
    ("value_prop", .any),
    ("voice", .table .any),
    ("sequence", .record [("steps", .any), ("gaps_days", .list .any), ("human_tasks", .table .any)]),
    ("cohorts", .list (.record [
      ("id", .any),
      ("filters", .table .any),
      ("monthly_budget", .any),
      ("sources", .list .any),
      ("trigger", .record [("event_type", .any)]),
      ("floors", .record [("conversion_rate", .any), ("reply_rate", .any), ("min_trials", .any)])])),
    ("variants", .list (.record [("id", .any), ("surface", .any), ("attributes", .table .any),
      ("prompt", .any)])),
    ("priority", .any),
    ("approve_first", .any),
    ("referral", .record [("prompt", .any), ("mode", .any)]),
    ("objection_counters", .table .any),
    ("reengagement_prompt", .any)]

/-- All that a tenant's file may say, and where. -/
def tenantShape : Shape :=
  .record [
    ("tenant", .any),
    ("brief", briefShape),
    ("personas", .list personaShape),
    ("generated_by", .record [("agent", .any), ("config_hash", .any)])]

variable (coercions : Coercions) {runtime : Runtime} (core : CoreRegime runtime)

theorem tenantConfig_shape : (tenantConfig coercions core).shape = tenantShape := rfl

end Shapes

section Enforcement

variable {runtime : Runtime}

/-- The prompts of a persona that a model will be asked to follow. -/
def promptsOf (persona : OpenReachout.PersonaSpec) : List String :=
  persona.variants.map OpenReachout.VariantSpec.prompt ++
    persona.referral.toList.map OpenReachout.ReferralSpec.prompt ++
    persona.reengagementPrompt.toList

/-- What a program keeps to, beyond what the records that the handlers read carry in their
fields. -/
structure Enforced (config : TenantConfig runtime) : Prop where
  budget : totalBudget config.1.personas.1 ≤ config.1.brief.budgets.monthlyProspects.1
  distinct : ((TenantConfig.read config).personas.map OpenReachout.PersonaSpec.id).Nodup
  started : (TenantConfig.read config).personas ≠ [] ∧
    ∀ persona ∈ (TenantConfig.read config).personas, persona.variants ≠ [] ∧ persona.cohorts ≠ [] ∧
      ∀ cohort ∈ persona.cohorts, cohort.sources ≠ []
  prompts : ∀ persona ∈ (TenantConfig.read config).personas, ∀ prompt ∈ promptsOf persona,
    Variables.validatePrompt runtime.platform prompt.toList = []
  counters : ∀ persona ∈ (TenantConfig.read config).personas,
    ∀ counter ∈ persona.objectionCounters, counter.1 ∈ objectionClasses ∧
      forbiddenHits runtime.platform counter.2.toList [] = .ok []

theorem prompts_of_persona {platform : Platform} (persona : PersonaSpec platform)
    {prompt : String} (among : prompt ∈ promptsOf (PersonaSpec.read persona)) :
    Variables.validatePrompt platform prompt.toList = [] := by
  rcases List.mem_append.1 among with early | late
  · rcases List.mem_append.1 early with first | second
    · obtain ⟨read, inside, rfl⟩ := List.mem_map.1 first
      obtain ⟨variant, -, rfl⟩ := List.mem_map.1 inside
      exact variant.prompt.2
    · obtain ⟨read, inside, rfl⟩ := List.mem_map.1 second
      obtain ⟨referral, -, rfl⟩ := Option.map_eq_some_iff.1 (Option.mem_toList.1 inside)
      exact referral.prompt.2
  · obtain ⟨reengagement, -, rfl⟩ := Option.map_eq_some_iff.1 (Option.mem_toList.1 late)
    exact reengagement.2

theorem counterFault_none {platform : Platform} {counter : String × String}
    (fine : counterFault platform counter = none) :
    counter.1 ∈ objectionClasses ∧ forbiddenHits platform counter.2.toList [] = .ok [] := by
  unfold counterFault at fine
  by_cases known : counter.1 ∉ objectionClasses
  · rw [if_pos known] at fine
    cases fine
  · rw [if_neg known] at fine
    by_cases claims : hits platform counter.2 ≠ []
    · rw [if_pos claims] at fine
      cases fine
    · rw [not_not] at known claims
      rw [forbiddenHits_eq, claims]
      exact ⟨known, rfl⟩

theorem ne_nil_of_length {Value : Type} {values : List Value} (some_ : 0 < values.length) :
    values ≠ [] := List.ne_nil_of_length_pos some_

theorem enforced (config : TenantConfig runtime) : Enforced config where
  budget := config.2.1
  distinct := by
    change ((config.1.personas.1.map PersonaSpec.read).map OpenReachout.PersonaSpec.id).Nodup
    rw [List.map_map]
    exact config.2.2
  started := by
    constructor
    · exact fun empty => ne_nil_of_length config.1.personas.2 (List.map_eq_nil_iff.1 empty)
    intro persona among
    obtain ⟨given, -, rfl⟩ := List.mem_map.1 among
    refine ⟨fun empty => ne_nil_of_length given.variants.2 (List.map_eq_nil_iff.1 empty),
      fun empty => ne_nil_of_length given.cohorts.2 (List.map_eq_nil_iff.1 empty), ?_⟩
    intro cohort inside
    obtain ⟨declared, -, rfl⟩ := List.mem_map.1 inside
    exact ne_nil_of_length declared.sources.2
  prompts persona among prompt inside := by
    obtain ⟨given, -, rfl⟩ := List.mem_map.1 among
    exact prompts_of_persona given inside
  counters persona among counter inside := by
    obtain ⟨given, -, rfl⟩ := List.mem_map.1 among
    exact counterFault_none (given.objectionCounters.2 counter inside)

end Enforcement

section Files

variable (coercions : Coercions) {runtime : Runtime} (core : CoreRegime runtime)
variable {safeLoad : String → Except String Document}

theorem loadTenant_mapped {file : String} (outcome : Except (List Issue) (TenantConfig runtime))
    (coercions : Coercions) (core : CoreRegime runtime)
    (loaded : loadTenant coercions core safeLoad file = outcome.mapError ConfigError.invalid) : ∃ members,
      safeLoad file = .ok (.object members) ∧
        (tenantConfig coercions core).decode (.object members) = outcome := by
  unfold loadTenant readMapping at loaded
  cases read : safeLoad file with
  | error text =>
      rw [read] at loaded
      cases outcome <;> cases loaded
  | ok doc =>
      rw [read] at loaded
      cases doc with
      | object members =>
          change ((tenantConfig coercions core).decode (.object members)).mapError
            ConfigError.invalid = _ at loaded
          refine ⟨members, rfl, ?_⟩
          cases decoded : (tenantConfig coercions core).decode (.object members) with
          | ok found =>
              rw [decoded] at loaded
              cases outcome with
              | ok config => rw [Except.ok.inj loaded]
              | error issues => cases loaded
          | error issues =>
              rw [decoded] at loaded
              cases outcome with
              | ok config => cases loaded
              | error others => rw [ConfigError.invalid.inj (Except.error.inj loaded)]
      | scalar value => cases outcome <;> cases loaded
      | text value => cases outcome <;> cases loaded
      | array docs => cases outcome <;> cases loaded

/-- The brief of a tenant that is accepted is accepted on its own. -/
theorem brief_of_tenant {members : List (String × Document)} {config : TenantConfig runtime}
    (decoded : (tenantConfig coercions core).decode (.object members) = .ok config) :
    ∃ doc, Json.get "brief" members = some doc ∧
      (brief coercions core).decode doc = .ok config.1.brief := by
  have fields := Codec.check_ok.1 decoded
  obtain ⟨parts, read, made⟩ := Codec.convert_ok fields
  have taken := Row.codec_ok read
  obtain ⟨doc, found, fine⟩ := Row.required_ok (both_ok.1 (both_ok.1 taken).2).1
  rw [← made]
  exact ⟨doc, found, fine⟩

theorem loadTenant_read {file : String} {members : List (String × Document)}
    (read : safeLoad file = .ok (.object members)) :
    loadTenant coercions core safeLoad file =
      ((tenantConfig coercions core).decode (.object members)).mapError .invalid := by
  unfold loadTenant readMapping
  rw [read]
  rfl

theorem loadBrief_of_tenant {file : String} {config : TenantConfig runtime}
    (loaded : loadTenant coercions core safeLoad file = .ok config) :
    loadBrief coercions core safeLoad file = .ok config.1.brief := by
  obtain ⟨members, read, decoded⟩ := loadTenant_mapped (.ok config) coercions core loaded
  obtain ⟨doc, found, fine⟩ := brief_of_tenant coercions core decoded
  unfold loadBrief readMapping
  rw [read]
  change ((brief coercions core).decode ((Json.get "brief" members).getD (.object members))).mapError
    ConfigError.invalid = _
  rw [found, Option.getD_some, fine]
  rfl

end Files

section Sample

/-- Decimal digits, with a minus sign before them or without. -/
def readInt (text : String) : Option Int :=
  match text.toList with
  | '-' :: digits => some (-(Nat.ofDigitChars 10 digits 0 : Int))
  | digits =>
      if digits.all Char.isDigit && !digits.isEmpty then some (Nat.ofDigitChars 10 digits 0)
      else none

theorem readInt_text (value : Int) : readInt (toString value) = some value := by
  cases value with
  | ofNat number =>
      change readInt (Nat.repr number) = some (number : Int)
      unfold readInt
      rw [Nat.toList_repr]
      have digits : (Nat.toDigits 10 number).all Char.isDigit = true := by
        rw [List.all_eq_true]
        exact fun char member => Nat.isDigit_of_mem_toDigits (by omega) (by omega) member
      split
      next rest same =>
        rw [same] at digits
        simp at digits
      next =>
        rw [digits, if_pos (by simp)]
        simp
  | negSucc number =>
      change readInt ("-" ++ Nat.repr (number + 1)) = _
      unfold readInt
      simp only [String.toList_append, Nat.toList_repr, String.reduceToList, List.cons_append,
        List.nil_append]
      rw [Nat.ofDigitChars_toDigits (by omega) (by omega)]
      rfl

/-- Only numbers are read as numbers, and only flags as flags. -/
def plainCoercions : Coercions where
  int
    | .scalar (.number value) => some value
    | _ => none
  float
    | .scalar (.decimal value) => some value
    | .scalar (.number value) => some value
    | _ => none
  flag
    | .scalar (.flag value) => some value
    | _ => none
  keyInt := readInt
  int_number _ := rfl
  float_decimal _ := rfl
  flag_flag _ := rfl
  keyInt_text := readInt_text

theorem plain_core : CoreRegime plainRuntime := by decide +kernel

def acmeBrief : Document :=
  .object [
    ("find", .text "therapists with rooms to fill"),
    ("research", .text "their own sites and listings"),
    ("goals", .object [("convert", .text "signup")]),
    ("about_us", .object [
      ("name", .text "Acme"),
      ("what_we_do", .text "quiet rooms for practices"),
      ("links", .object [("site", .text "https://acme.com")]),
      ("identity", .object [("sender", .text "Maya Reyes, Acme"),
        ("physical_address", .text "1 Main St, Austin")])]),
    ("budgets", .object [("monthly_prospects", .scalar (.number 40)),
      ("monthly_llm_usd", .scalar (.number 25))])]

/-- A tenant's file, with a key of the sequence left open. -/
def acmeDocument (gaps : String) : Document :=
  .object [
    ("tenant", .text "acme"),
    ("brief", acmeBrief),
    ("personas", .array [.object [
      ("id", .text "therapist"),
      ("description", .text "runs a practice of their own"),
      ("evidence_signals", .array [.text "has_own_website"]),
      ("value_prop", .text "quiet rooms"),
      ("sequence", .object [("steps", .scalar (.number 2)),
        (gaps, .array [.scalar (.number 4)]),
        ("human_tasks", .object [("1", .text "Call them at their practice")])]),
      ("cohorts", .array [.object [("id", .text "austin"),
        ("monthly_budget", .scalar (.number 40)), ("sources", .array [.text "nppes"])]]),
      ("variants", .array [.object [("id", .text "opener"), ("surface", .text "opener_strategy"),
        ("prompt", .text "Write a note to \x7b\x7bprospect.first_name\x7d\x7d")]])]])]

/-- `acme.yaml`, and the same file with a misspelt key. -/
def acmeFiles (file : String) : Except String Document :=
  .ok (acmeDocument (if file = "acme.yaml" then "gaps_days" else "gap_days"))

def isInvalid {Value : Type} : Except ConfigError Value → Bool
  | .error (.invalid _) => true
  | _ => false

end Sample

end OpenReachout.Config
