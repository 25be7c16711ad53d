import OpenReachout.Core.ConfigFiles
import OpenReachout.Relational.Consulting
import OpenReachout.Text.Cutting

/-!
# Program synthesis

`agents/synthesizer.py`: a program that a language model proposes is put together with its
brief, and what is wrong with it is handed back to the model. The frames of the prompts are
fixed, so that a prompt is what is put into them.
-/

namespace OpenReachout.Config

open Relational Text Documents

set_option autoImplicit false

def maxSynthesisRetries : Nat := 2

def synthesizerVersion : String := "0.1.0"

section Assembly

variable {runtime : Runtime}

/-- How the packages that are used write: personas as YAML, in the order of their keys and
in the order of their fields, and the issues of a validation. -/
structure Writers (runtime : Runtime) where
  sorted : List (PersonaSpec runtime.platform) → List Char
  unsorted : List (PersonaSpec runtime.platform) → List Char
  issues : List Issue → String

variable (writers : Writers runtime)

def configHash (personas : List (PersonaSpec runtime.platform)) : String :=
  String.ofList ((runtime.platform.sha256 (writers.sorted personas)).toList.take 16)

/-- `assemble`, where the brief and the personas are valid already. -/
def assemble (brief : Brief runtime) (tenantSlug : String)
    (personas : List (PersonaSpec runtime.platform)) : Checked (TenantConfig runtime) :=
  let filled : Checked (Some (PersonaSpec runtime.platform)) :=
    if fine : 0 < personas.length then .ok ⟨personas, fine⟩
    else .error [⟨[.key "personas"], .short⟩]
  match both (under (.key "tenant") ((pattern ['_', '-']).decode (.text tenantSlug))) filled with
  | .error issues => .error issues
  | .ok pair =>
      let fields : TenantFields runtime :=
        { tenant := pair.1, brief, personas := pair.2
          generatedBy :=
            some ⟨"synthesizer@" ++ synthesizerVersion, configHash writers personas⟩ }
      if fine : fields.BudgetHolds then .ok ⟨fields, fine⟩ else .error [⟨[], fields.budgetFault⟩]

end Assembly

section Talks

variable (runtime : Runtime)

/-- `REVISION_FRAME`, with the market research in its envelope. -/
structure Revision where
  program : List Char
  evidence : String
  marketResearch : Option (List Char)

/-- `SYNTHESIS_FRAME`, what stands before it, and the feedback after it. -/
structure SynthesisPrompt where
  revision : Option Revision
  brief : Brief runtime
  feedback : List Char

/-- A question to the model, with the program or the exception that came of it. -/
structure Attempt where
  prompt : SynthesisPrompt runtime
  answer : Except Exc (List (PersonaSpec runtime.platform))

/-- A `SynthesisEscalation`, or any other exception. -/
inductive Failure where
  | escalation (text : String)
  | raised (error : Exc)

abbrev Synthesis := Consulting (Attempt runtime) Failure

/-- A model gives a valid program, or fails, in view of all attempts. -/
abbrev SynthesisModel :=
  List (Attempt runtime) → SynthesisPrompt runtime →
    Except Exc (List (PersonaSpec runtime.platform))

end Talks

section Completion

variable {runtime : Runtime} (writers : Writers runtime) (llm : SynthesisModel runtime)
variable (revision : Option Revision) (brief : Brief runtime) (tenantSlug : String)

def synthesisFeedback (text : String) : List Char :=
  "\n\nYour previous program failed validation. Fix ALL of the ".toList ++
    "following and regenerate the full program:\n".toList ++ text.toList

def promptWith (feedback : List Char) : SynthesisPrompt runtime := { revision, brief, feedback }

def askProgram (feedback : List Char) : Synthesis runtime (List (PersonaSpec runtime.platform)) :=
  Consulting.inquire (llm · (promptWith revision brief feedback))
    (fun answer => { prompt := promptWith revision brief feedback, answer }) .raised

/-- A validation error is a `ValueError`. -/
def validated {Value : Type} (reading : Checked Value) : Except Failure Value :=
  reading.mapError fun issues => .raised ⟨.valueError, writers.issues issues⟩

/-- One turn of the loop, with the text of what it catches. -/
def tryProgram (feedback : List Char) : Synthesis runtime (Except String (TenantConfig runtime)) :=
  tryCatch
    (do
      let personas ← askProgram llm revision brief feedback
      let config ← MonadExcept.ofExcept (validated writers (assemble writers brief tenantSlug personas))
      return .ok config)
    fun failure => match failure with
      | .raised error =>
          if error.kind = .valueError then pure (.error error.text) else throw (.raised error)
      | .escalation text => throw (.escalation text)

/-- `_complete_program`, with the turns that are left and the last error. -/
def completeProgram : Nat → List Char → String → Synthesis runtime (TenantConfig runtime)
  | 0, _, last =>
      throw (.escalation s!"no valid program after {maxSynthesisRetries + 1} attempts: {last}")
  | left + 1, feedback, _ => do
      match ← tryProgram writers llm revision brief tenantSlug feedback with
      | .ok config => return config
      | .error text => completeProgram left (synthesisFeedback text) text

def synthesize : Synthesis runtime (TenantConfig runtime) :=
  completeProgram writers llm none brief tenantSlug (1 + maxSynthesisRetries) [] ""

/-- The envelope of the market research, where there is some. -/
def wrapResearch (marketResearch : Option String) : Except Exc (Option (List Char)) :=
  match marketResearch.filter (· ≠ "") with
  | none => .ok none
  | some research => do
      let envelope ← wrap runtime.platform research.toList "research_note"
      return some envelope.text

def revise (config : TenantConfig runtime) (evidence : String) (marketResearch : Option String) :
    Synthesis runtime (TenantConfig runtime) := do
  let research ← MonadExcept.ofExcept ((@wrapResearch runtime marketResearch).mapError
    Failure.raised)
  completeProgram writers llm
    (some { program := writers.unsorted config.1.personas.1, evidence, marketResearch := research })
    config.1.brief config.1.tenant.1 (1 + maxSynthesisRetries) [] ""

end Completion

section Template

theorem validatePrompt_platform (platform other : Platform) (prompt : List Char) :
    Variables.validatePrompt platform prompt = Variables.validatePrompt other prompt := by
  unfold Variables.validatePrompt Variables.extractSlots
  rw [Regex.findAll_boundless platform.isWord other.isWord (by rfl)]

def evidenceFirst : String := String.ofList (
  "Write a first-touch email to \x7b\x7bprospect.first_name\x7d\x7d at ".toList ++
    "\x7b\x7bprospect.org_name\x7d\x7d. Open with a specific, genuine ".toList ++
    "observation about \x7b\x7bevidence.notable_fact\x7d\x7d - never generic ".toList ++
    "flattery. One sentence on \x7b\x7bpersona.value_prop\x7d\x7d. Close with ".toList ++
    "a single easy question. \x7b\x7bpersona.voice_rules\x7d\x7d".toList)

def directOffer : String := String.ofList (
  "Write a short, direct first-touch email to ".toList ++
    "\x7b\x7bprospect.first_name\x7d\x7d. Reference ".toList ++
    "\x7b\x7bevidence.notable_fact\x7d\x7d in one clause. State ".toList ++
    "\x7b\x7bpersona.value_prop\x7d\x7d plainly and ".toList ++
    "offer the signup link \x7b\x7btenant.links.signup\x7d\x7d with zero ".toList ++
    "pressure. \x7b\x7bpersona.voice_rules\x7d\x7d".toList)

/-- A long prompt is checked on its characters. -/
theorem prompt_valid {text : String} (platform : Platform)
    (spelled : ∃ chars, text = String.ofList chars ∧ 20 ≤ chars.length ∧
      (Variables.validatePrompt (Platform.ascii []) chars).isEmpty = true) :
    20 ≤ text.length ∧ Variables.validatePrompt platform text.toList = [] := by
  obtain ⟨chars, rfl, long, known⟩ := spelled
  rw [String.length_ofList, String.toList_ofList,
    validatePrompt_platform platform (Platform.ascii [])]
  exact ⟨long, List.isEmpty_iff.1 known⟩

set_option maxRecDepth 4000 in
theorem evidenceFirst_valid (platform : Platform) : 20 ≤ evidenceFirst.length ∧
    Variables.validatePrompt platform evidenceFirst.toList = [] :=
  prompt_valid platform ⟨_, rfl, by decide, by decide +kernel⟩

set_option maxRecDepth 4000 in
theorem directOffer_valid (platform : Platform) : 20 ≤ directOffer.length ∧
    Variables.validatePrompt platform directOffer.toList = [] :=
  prompt_valid platform ⟨_, rfl, by decide, by decide +kernel⟩

variable {runtime : Runtime} (writers : Writers runtime) (brief : Brief runtime)

def templateBudget : {value : Int // 0 < value} :=
  ⟨max (brief.budgets.monthlyProspects.1 / 2) 1, by omega⟩

def templateDescription : String :=
  String.ofList (("Derived from the Brief; refine before launch. Find: ".toList ++
    Platform.strip brief.find.1.toList).take 500)

def templateValueProp : String :=
  String.ofList ((Platform.strip brief.aboutUs.1.1.whatWeDo.1.toList).take 200)

/-- The dictionary that a display writes. -/
def mapping (entries : List (String × String)) : Mapping String String := .ofEntries entries

def templateVariants (platform : Platform) : Some (VariantSpec platform) :=
  ⟨[{ id := ⟨"opener_evidence_first", by decide⟩
      surface := "opener_strategy"
      attributes := mapping [("tone", "warm"), ("hook", "their_work"), ("cta", "reply_question")]
      prompt := ⟨⟨evidenceFirst, (evidenceFirst_valid platform).1⟩, (evidenceFirst_valid platform).2⟩ },
    { id := ⟨"opener_direct_offer", by decide⟩
      surface := "opener_strategy"
      attributes := mapping [("tone", "direct"), ("hook", "value_prop"), ("cta", "signup_link")]
      prompt := ⟨⟨directOffer, (directOffer_valid platform).1⟩, (directOffer_valid platform).2⟩ }], by
    exact Nat.succ_pos 1⟩

/-- The persona of the template, of which two fields are made from the brief. -/
def templatePersona : Checked (PersonaSpec runtime.platform) :=
  (fun made =>
    { id := ⟨"primary_audience", by decide⟩
      description := made.1
      evidenceSignals := ⟨["has_own_website", "matches_brief_description"], by decide⟩
      valueProp := made.2
      voice := mapping [("tone", "warm_plain"), ("register", "peer")]
      sequence := ⟨{ steps := ⟨3, by decide⟩, gapsDays := [4, 7], humanTasks := .empty }, by decide⟩
      cohorts := ⟨[{
        id := ⟨"launch_cohort", by decide⟩
        filters := .ofEntries [("refine_me", .text "set real filters before launch")]
        monthlyBudget := templateBudget brief
        sources := ⟨["web_research"], by decide⟩
        trigger := none, floors := none }], by exact Nat.succ_pos 0⟩
      variants := templateVariants runtime.platform
      priority := 100
      approveFirst := approveNone
      referral := none
      objectionCounters := ⟨.empty, fun _ member => by cases member⟩
      reengagementPrompt := none }) <$>
    both (under (.key "description") ((longText 20).decode (.text (templateDescription brief))))
      (under (.key "value_prop") ((longText 10).decode (.text (templateValueProp brief))))

def templateProgram (tenantSlug : String) : Checked (TenantConfig runtime) := do
  let persona ← templatePersona brief
  assemble writers brief tenantSlug [persona]

end Template

end OpenReachout.Config
