import OpenReachout.Agents.Composer
import OpenReachout.Agents.Qualifier
import OpenReachout.Core.Dryrun
import OpenReachout.Core.Events

/-!
# The dry run

`run` of `core/dryrun.py`: every stage up to the composer for the first candidates of each
cohort, of which a report is written and nothing is sent. The adapters and the model
answer, or fail, in view of all that has happened.
-/

namespace OpenReachout.Dryrun

open Relational Text Variables Evidence Agents

set_option autoImplicit false

/-- What an adapter has been asked, and has answered. -/
inductive Contact where
  | discovered (cohortId : String) (result : DiscoverResult)
  | enriched (candidate : Candidate) (card : EvidenceCard)
  | found (candidate : Candidate) (email : Option String)
  | verified (email : String) (bucket : ConfidenceBucket)
  | qualified (prompt : QualifyPrompt) (output : QualifyOutput)
  | said (exchange : Exchange)
  | written (text : List Char)

abbrev Trial := Consulting Contact Exc

/-- `sources`, `enricher`, `finder`, `verifier` and `llm`, the clock and the review file. -/
structure Adapters where
  sources : List (String × (List Contact → Payload → Except Exc DiscoverResult))
  enrich : List Contact → Candidate → Except Exc EvidenceCard
  find : List Contact → Candidate → Except Exc (Option String)
  verify : List Contact → String → Except Exc ConfidenceBucket
  qualify : List Contact → QualifyPrompt → Except Exc QualifyOutput
  llm : List Contact → Backend
  clock : List Contact → Time
  write : List Contact → List Char → Except Exc Unit

section Report

structure DryRunReport where
  composed : List (String × String × Agents.ComposeResult) := []
  disqualified : List (String × String × List Char) := []
  escalated : List (String × String × List Char) := []
  deriving DecidableEq

def DryRunReport.compose (report : DryRunReport) (cohortId name : String)
    (result : Agents.ComposeResult) : DryRunReport :=
  { report with composed := report.composed ++ [(cohortId, name, result)] }

def DryRunReport.disqualify (report : DryRunReport) (cohortId name : String)
    (why : List Char) : DryRunReport :=
  { report with disqualified := report.disqualified ++ [(cohortId, name, why)] }

def DryRunReport.escalate (report : DryRunReport) (cohortId name : String)
    (why : List Char) : DryRunReport :=
  { report with escalated := report.escalated ++ [(cohortId, name, why)] }

def count (entries : Nat) : List Char := (toString entries).toList

def claimLine (claims : List Claim) : List Char :=
  "*Claims:* ".toList ++
    if claims.isEmpty then "(none)".toList
    else "; ".toList.intercalate
      (claims.map fun claim => claim.text ++ " [".toList ++ claim.factId ++ "]".toList)

def draftLines (entry : String × String × Agents.ComposeResult) : List (List Char) :=
  let result := entry.2.2
  [[], ("## [" ++ entry.1 ++ "] " ++ entry.2.1).toList,
    "**Subject:** ".toList ++ result.draft.subject, [], result.draft.body, [],
    claimLine result.output.claims]

/-- A section of what was not composed, where there is any. -/
def listing (title : String) (entries : List (String × String × List Char)) : List (List Char) :=
  if entries.isEmpty then []
  else [[], title.toList] ++
    entries.map fun entry => ("- [" ++ entry.1 ++ "] " ++ entry.2.1 ++ ": ").toList ++ entry.2.2

def DryRunReport.toMarkdown (report : DryRunReport) : List Char :=
  lines (["# Dry-run review".toList, [],
      count report.composed.length ++ " would-send drafts, ".toList ++
        count report.disqualified.length ++ " disqualified, ".toList ++
        count report.escalated.length ++ " escalated. Nothing was sent.".toList] ++
    report.composed.flatMap draftLines ++ listing "## Disqualified" report.disqualified ++
    listing "## Escalated to review" report.escalated) ++ ['\n']

end Report

section Process

variable {runtime : Runtime} (adapters : Adapters) (tenant : TenantConfig runtime)
variable (persona : PersonaSpec) (cohortId : String) (prompt : List Char)

/-- `str` of an exception. -/
def excText (platform : Platform) (error : Exc) : List Char :=
  if error.kind = .keyError then platform.repr error.text.toList else error.text.toList

def now : Trial Time := fun past => (.ok (adapters.clock past), past)

/-- What the dry run composes from. -/
def inputs (values : List (List Char × ResolvedValue)) : Agents.ComposeInputs where
  variantPrompt := prompt
  values := values
  validatorCtx := validatorContext tenant
  trustedContext := trustedContext tenant persona

/-- Whether an address has been found that cannot be trusted. -/
def unverified (email : Option String) : Trial Bool :=
  match email with
  | none => pure false
  | some address => do
      let bucket ← Consulting.consult (adapters.verify · address) (.verified address)
      return bucket ≠ .verified

/-- The body of the `try` of `_process`. -/
def draft (candidate : Candidate) (card : EvidenceCard) : Trial Agents.ComposeResult := do
  let time ← now adapters
  let values ← MonadExcept.ofExcept (buildValues candidate tenant persona [] time prompt card)
  Consulting.within (fun past => Agents.compose runtime (adapters.llm past)
    (injectionSuspects runtime.platform) (inputs tenant persona prompt values)) .said

/-- The `try` of `_process`, with what it catches. -/
def tried (candidate : Candidate) (card : EvidenceCard) : Trial (Except Exc Agents.ComposeResult) :=
  tryCatch (do return .ok (← draft adapters tenant persona prompt candidate card)) fun error =>
    if error.kind = .composeEscalation || error.kind = .keyError then pure (.error error)
    else throw error

/-- `_process` from the qualifier on. -/
def judge (candidate : Candidate) (card : EvidenceCard) (report : DryRunReport) :
    Trial DryRunReport := do
  let name := candidate.displayName
  let verdict ← Agents.qualify runtime.platform adapters.qualify .qualified card persona.description
  if verdict.escalate then
    return report.escalate cohortId name "injection suspicion during qualification".toList
  else if !verdict.qualified then
    return report.disqualify cohortId name verdict.rationale.toList
  else
    match ← tried adapters tenant persona prompt candidate card with
    | .ok result => return report.compose cohortId name result
    | .error error => return report.escalate cohortId name (excText runtime.platform error)

/-- `_process` -/
def process (candidate : Candidate) (report : DryRunReport) : Trial DryRunReport := do
  let card ← Consulting.consult (adapters.enrich · candidate) (.enriched candidate)
  let email ← Consulting.consult (adapters.find · candidate) (.found candidate)
  if ← unverified adapters email then
    return report.disqualify cohortId candidate.displayName "email failed verification".toList
  else
    judge adapters tenant persona cohortId prompt candidate card report

end Process

section Run

variable {runtime : Runtime} (adapters : Adapters) (tenant : TenantConfig runtime)
variable (nPerCohort : Int)

/-- `candidates[:n]`, which counts from the end where `n` is negative. -/
def firstOf (candidates : List Candidate) : List Candidate :=
  candidates.take (if 0 ≤ nPerCohort then nPerCohort.toNat
    else candidates.length - (-nPerCohort).toNat)

/-- The first source of a cohort that there is an adapter for. -/
def sourceOf (cohort : CohortSpec) : Option (List Contact → Payload → Except Exc DiscoverResult) :=
  cohort.sources.findSome? fun name => adapters.sources.lookup name

def runCohort (persona : PersonaSpec) (prompt : List Char) (cohort : CohortSpec)
    (report : DryRunReport) : Trial DryRunReport :=
  if cohort.trigger.isSome then pure report
  else
    match sourceOf adapters cohort with
    | none => pure report
    | some discover => do
        let result ← Consulting.consult (discover · cohort.filters) (.discovered cohort.id)
        Consulting.forEach (process adapters tenant persona cohort.id prompt)
          (firstOf nPerCohort result.candidates) report

def runPersona (persona : PersonaSpec) (report : DryRunReport) : Trial DryRunReport :=
  match persona.variants with
  | [] => throw ⟨.other, "list index out of range"⟩
  | variant :: _ =>
      Consulting.forEach (runCohort adapters tenant nPerCohort persona variant.prompt.toList)
        persona.cohorts report

def run : Trial DryRunReport := do
  let report ← Consulting.forEach (runPersona adapters tenant nPerCohort) tenant.personas {}
  Consulting.consult (adapters.write · report.toMarkdown) fun _ => .written report.toMarkdown
  return report

end Run

end OpenReachout.Dryrun
