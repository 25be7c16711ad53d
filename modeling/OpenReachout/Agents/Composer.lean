import OpenReachout.Compliance.Validators
import OpenReachout.Core.Variables
import OpenReachout.Environment
import OpenReachout.Relational.Observation
import OpenReachout.Security.Envelope

/-!
# The composers

`agents/composer.py` and `agents/reply_composer.py` as conversations with a language
model, which answers as it likes. The frames of the prompts are fixed, so that a prompt
is what is put into its frame; what has been said is kept.
-/

namespace OpenReachout.Agents

open Relational Text Variables

set_option autoImplicit false

structure Claim where
  text : List Char
  factId : List Char
  deriving DecidableEq

structure ComposeOutput where
  injectionSuspected : Bool := false
  subject : List Char
  body : List Char
  claims : List Claim := []
  deriving DecidableEq

structure GroundednessOutput where
  injectionSuspected : Bool := false
  grounded : Bool
  unsupportedClaims : List String := []
  deriving DecidableEq

/-- `COMPOSE_FRAME` -/
structure ComposePrompt where
  variantPrompt : List Char
  trustedContext : List Char
  evidenceBlocks : List Char
  deriving DecidableEq

/-- `GROUNDEDNESS_FRAME` -/
structure GroundednessPrompt where
  subject : List Char
  body : List Char
  claims : List Char
  evidenceBlocks : List Char
  deriving DecidableEq

/-- `REPLY_FRAME`, and the feedback after it. -/
structure ReplyPrompt where
  faqBlock : List Char
  counterBlock : List Char
  trustedContext : List Char
  replyBlock : List Char
  feedback : List Char
  deriving DecidableEq

/-- A question to the model and its answer. -/
inductive Exchange where
  | compose (prompt : ComposePrompt) (output : ComposeOutput)
  | groundedness (prompt : GroundednessPrompt) (output : GroundednessOutput)
  | composeReply (prompt : ReplyPrompt) (output : ComposeOutput)
  deriving DecidableEq

/-- A model may answer, or fail, in view of all that has been said. -/
structure Backend where
  compose : List Exchange → ComposePrompt → Except Exc ComposeOutput
  groundedness : List Exchange → GroundednessPrompt → Except Exc GroundednessOutput
  composeReply : List Exchange → ReplyPrompt → Except Exc ComposeOutput

abbrev Talk := Stateful (List Exchange) Exc

/-- `llm.complete` -/
def complete {Output : Type} (answer : List Exchange → Except Exc Output)
    (exchange : Output → Exchange) : Talk Output := fun past =>
  match answer past with
  | .ok output => (.ok output, past ++ [exchange output])
  | .error error => (.error error, past)

def lines (texts : List (List Char)) : List Char := ['\n'].intercalate texts

/-- `str` of a list of texts. -/
def shown (platform : Platform) (texts : List (List Char)) : List Char :=
  '[' :: ", ".toList.intercalate (texts.map platform.repr) ++ [']']

def Finding.line (finding : Finding) : List Char :=
  finding.code.text.toList ++ ": ".toList ++ finding.detail

section Compose

def maxComposeRetries : Nat := 2

structure ComposeInputs where
  variantPrompt : List Char
  values : List (List Char × ResolvedValue)
  validatorCtx : ValidatorContext
  trustedContext : List Char
  stepIndex : Nat := 0
  deriving DecidableEq

structure ComposeResult where
  draft : Draft
  output : ComposeOutput
  contentSha256 : String
  groundednessPassedHash : Option String
  resolved : ResolvedPrompt
  deriving DecidableEq

variable (runtime : Runtime) (llm : Backend)

/-- `value.fact_id or value.slot` -/
def evidenceId (value : ResolvedValue) : List Char :=
  match value.factId with
  | some (first :: rest) => first :: rest
  | _ => value.slot

/-- `_evidence_blocks`, and the facts that may be cited. -/
def evidenceBlocks (resolved : ResolvedPrompt) : Except Exc (List Char × List (List Char)) := do
  let blocks ← resolved.untrusted.mapM fun value => do
    let envelope ← wrap runtime.platform value.value "web" (evidenceId value)
    pure ("fact_id=".toList ++ evidenceId value ++ '\n' :: envelope.text)
  return (if blocks.isEmpty then "(no evidence provided)".toList
    else "\n\n".toList.intercalate blocks, resolved.untrusted.map evidenceId)

/-- `_audit` -/
def audit (draft : Draft) (output : ComposeOutput) (blocks : List Char) : Talk Bool := do
  let claims := output.claims.map fun claim =>
    "- [".toList ++ claim.factId ++ "] ".toList ++ claim.text
  let prompt : GroundednessPrompt :=
    { subject := draft.subject, body := draft.body
      claims := if claims.isEmpty then "(none)".toList else lines claims
      evidenceBlocks := blocks }
  let judgement ← complete (llm.groundedness · prompt) (.groundedness prompt)
  return judgement.grounded && !judgement.injectionSuspected

/-- What is wrong with an output: facts that are not known, and the findings. -/
def problems (known : List (List Char)) (output : ComposeOutput) (findings : List Finding) :
    List (List Char) :=
  let unknown := (output.claims.map Claim.factId).filter fun id => !known.contains id
  (if unknown.isEmpty then []
    else ["claims cite unknown fact_ids: ".toList ++ shown runtime.platform unknown]) ++
    findings.map Finding.line

def composeFeedback (problems : List (List Char)) : List Char :=
  ("\n\nYour previous draft was rejected by validators. Fix ALL of the " ++
    "following and regenerate:\n- ").toList ++ "\n- ".toList.intercalate problems

def escalation {Value : Type} (text : String) : Talk Value := throw ⟨.composeEscalation, text⟩

/-- The attempts that are left, with what was wrong with the last one. -/
def composeAttempts (inputs : ComposeInputs) (resolved : ResolvedPrompt) (blocks : List Char)
    (known : List (List Char)) : Nat → List Char → Talk ComposeResult
  | 0, _ => escalation s!"no compliant draft after {maxComposeRetries + 1} attempts"
  | left + 1, feedback => do
      let prompt : ComposePrompt :=
        { variantPrompt := resolved.text, trustedContext := inputs.trustedContext ++ feedback
          evidenceBlocks := blocks }
      let output ← complete (llm.compose · prompt) (.compose prompt)
      if output.injectionSuspected then
        escalation "composer reported suspected injection"
      else
        let draft : Draft := ⟨output.subject, output.body, inputs.stepIndex⟩
        let findings ← MonadExcept.ofExcept (validate runtime draft inputs.validatorCtx)
        let wrong := problems runtime known output findings
        if wrong.isEmpty then
          let digest := contentHash runtime.platform draft
          let grounded ← audit llm draft output blocks
          if !grounded then
            escalation "groundedness audit failed (invariant I-4)"
          else
            pure { draft, output, contentSha256 := digest
                   groundednessPassedHash := some digest, resolved }
        else composeAttempts inputs resolved blocks known left (composeFeedback wrong)

/-- `compose`; `suspects` is `injection_suspects`. -/
def compose (suspects : List Char → Bool) (inputs : ComposeInputs) : Talk ComposeResult := do
  let resolved ← MonadExcept.ofExcept (Variables.resolve runtime.platform inputs.variantPrompt inputs.values)
  if resolved.untrusted.any fun value => suspects value.value then
    escalation "injection heuristics flagged evidence content"
  else
    let evidence ← MonadExcept.ofExcept (evidenceBlocks runtime resolved)
    composeAttempts runtime llm inputs resolved evidence.1 evidence.2 (1 + maxComposeRetries) []

end Compose

section Replies

def maxRetries : Nat := 1

structure ReplyInputs where
  replyBody : List Char
  faq : List (List Char × List Char)
  trustedContext : List Char
  validatorCtx : ValidatorContext
  counterSnippet : Option (List Char) := none
  signupLink : Option (List Char) := none
  deriving DecidableEq

variable (runtime : Runtime) (llm : Backend)

def faqBlock (faq : List (List Char × List Char)) : List Char :=
  if faq.isEmpty then "(empty)".toList
  else lines (faq.map fun entry => "Q: ".toList ++ entry.1 ++ "\nA: ".toList ++ entry.2)

/-- A text that is given and not empty, between two others. -/
def given (before : String) (text : Option (List Char)) (after : String) : List Char :=
  match text with
  | some (first :: rest) => before.toList ++ (first :: rest) ++ after.toList
  | _ => []

def counterBlock (inputs : ReplyInputs) : List Char :=
  given ("For their objection, you may also use this operator-approved " ++ "response: ")
      inputs.counterSnippet "\n\n" ++
    given "Signup link to include: " inputs.signupLink "\n\n"

def replyFeedback (problems : List (List Char)) : List Char :=
  "\n\nYour previous reply failed validation. Fix ALL of: ".toList ++
    "; ".toList.intercalate problems

def replyAttempts (inputs : ReplyInputs) (replyBlock : List Char) :
    Nat → List (List Char) → List Char → Talk (Draft × String)
  | 0, wrong, _ =>
      throw ⟨.replyComposeError, "no compliant reply after retries: " ++
        String.ofList (shown runtime.platform wrong)⟩
  | left + 1, _, feedback => do
      let prompt : ReplyPrompt :=
        { faqBlock := faqBlock inputs.faq, counterBlock := counterBlock inputs
          trustedContext := inputs.trustedContext, replyBlock, feedback }
      let output ← complete (llm.composeReply · prompt) (.composeReply prompt)
      if output.injectionSuspected then
        throw ⟨.replyComposeError, "injection suspected in inbound reply"⟩
      else
        let draft : Draft := ⟨output.subject, output.body, 0⟩
        let findings ← MonadExcept.ofExcept (validate runtime draft inputs.validatorCtx)
        if findings.isEmpty then
          pure (draft, contentHash runtime.platform draft)
        else
          let wrong := findings.map Finding.line
          replyAttempts inputs replyBlock left wrong (replyFeedback wrong)

/-- `compose_reply` -/
def composeReply (inputs : ReplyInputs) : Talk (Draft × String) := do
  let envelope ← MonadExcept.ofExcept (wrap runtime.platform inputs.replyBody "reply")
  replyAttempts runtime llm inputs envelope.text (1 + maxRetries) [] []

end Replies

end OpenReachout.Agents
