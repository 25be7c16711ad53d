import OpenReachout.Core.Evidence
import OpenReachout.Relational.Consulting
import OpenReachout.Security.Envelope

/-!
# The qualifier

`agents/qualifier.py`: a prospect passes only where the model says so outright, and
suspects nothing.
-/

namespace OpenReachout.Agents

open Relational Text Evidence

set_option autoImplicit false

inductive QualifyVerdict where
  | qualified | disqualified | uncertain
  deriving DecidableEq

structure QualifyOutput where
  injectionSuspected : Bool := false
  verdict : QualifyVerdict
  rationale : String
  deriving DecidableEq

/-- `QUALIFY_FRAME` -/
structure QualifyPrompt where
  persona : String
  evidenceBlocks : List Char
  deriving DecidableEq

variable (platform : Platform)

/-- The evidence as the qualifier shows it. -/
def qualifyEvidence (card : EvidenceCard) : Except Exc (List Char) := do
  let blocks ← card.facts.mapM fun fact => do
    let envelope ← wrap platform fact.content "web" fact.factId
    pure ("fact_id=".toList ++ fact.factId ++ " (".toList ++ fact.factType.toList ++ ", ".toList ++
      fact.sourceUrl.toList ++ ")\n".toList ++ envelope.text)
  return if blocks.isEmpty then "(none)".toList else "\n\n".toList.intercalate blocks

def QualifyOutput.result (output : QualifyOutput) : QualifyResult where
  qualified := output.verdict = .qualified && !output.injectionSuspected
  rationale := output.rationale
  escalate := output.injectionSuspected

/-- `qualify`, of a model that answers or fails in view of what has been noted. -/
def qualify {Note : Type} (answer : List Note → QualifyPrompt → Except Exc QualifyOutput)
    (note : QualifyPrompt → QualifyOutput → Note) (card : EvidenceCard)
    (personaDescription : String) : Consulting Note Exc QualifyResult := do
  let evidence ← MonadExcept.ofExcept (qualifyEvidence platform card)
  let prompt : QualifyPrompt := { persona := personaDescription, evidenceBlocks := evidence }
  let output ← Consulting.consult (answer · prompt) (note prompt)
  return output.result

end OpenReachout.Agents
