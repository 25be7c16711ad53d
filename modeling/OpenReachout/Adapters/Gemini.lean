import OpenReachout.Relational.Consulting
import OpenReachout.Schema
import OpenReachout.Text.Json
import OpenReachout.Text.Platform

/-!
# The Gemini backend

`adapters/llm/gemini_backend.py`. `_gemini_schema` is the JSON schema of a data model,
rewritten for an API that knows neither references nor some of the keywords; the
recursion of `clean` runs on fuel. A completion is a talk with the client, which answers
or fails in view of all turns.
-/

namespace OpenReachout

open Text

set_option autoImplicit false

variable {Scalar : Type}

abbrev Members (Scalar : Type) := List (String × Json Scalar)

/-- `str(ref).rsplit("/", 1)[-1]`, where `str` says how a value that is no text is
written. -/
def refName (str : Json Scalar → String) (ref : Json Scalar) : String :=
  let written := match ref with
    | .text value => value
    | other => str other
  String.ofList ((written.toList.splitOn '/').getLastD [])

section Clean

variable (str : Json Scalar → String) (defs : Members Scalar)

/-- What a reference stands for. -/
def dereference (ref : Json Scalar) : Json Scalar :=
  (Json.get (refName str ref) defs).getD (.object [])

def droppedKeys : List String := ["additionalProperties", "title", "default"]

/-- One pass of the loop over the members of a node. -/
def cleanMember (clean : Json Scalar → Option (Json Scalar)) (out : Members Scalar) (key : String)
    (value : Json Scalar) : Option (Members Scalar) :=
  if key ∈ droppedKeys then
    some out
  else if key = "exclusiveMinimum" then
    some (Json.setDefault "minimum" value out)
  else if key = "exclusiveMaximum" then
    some (Json.setDefault "maximum" value out)
  else
    (clean value).map fun cleaned => Json.assign key cleaned out

def cleanMembers (clean : Json Scalar → Option (Json Scalar)) (out : Members Scalar) :
    Members Scalar → Option (Members Scalar)
  | [] => some out
  | (key, value) :: rest =>
      (cleanMember clean out key value).bind fun out => cleanMembers clean out rest

def cleanItems (clean : Json Scalar → Option (Json Scalar)) :
    List (Json Scalar) → Option (List (Json Scalar))
  | [] => some []
  | item :: rest =>
      (clean item).bind fun cleaned => (cleanItems clean rest).map fun others => cleaned :: others

def clean : Nat → Json Scalar → Option (Json Scalar)
  | 0, _ => none
  | fuel + 1, .object members =>
      match Json.get "$ref" members with
      | some ref => clean fuel (dereference str defs ref)
      | none => (cleanMembers (clean fuel) [] members).map .object
  | fuel + 1, .array items => (cleanItems (clean fuel) items).map .array
  | _ + 1, node => some node

end Clean

/-- The `$defs` of a schema. -/
def definitions (raw : Members Scalar) : Members Scalar :=
  match Json.get "$defs" raw with
  | some (.object defs) => defs
  | _ => []

/-- What `raw.pop` leaves. -/
def withoutDefinitions (raw : Members Scalar) : Members Scalar :=
  raw.filter fun entry => entry.1 ≠ "$defs"

/-- `_gemini_schema`, from the JSON schema of the model on. -/
def geminiSchema (str : Json Scalar → String) (fuel : Nat) (raw : Members Scalar) :
    Option (Except Exc (Members Scalar)) :=
  (clean str (definitions raw) fuel (.object (withoutDefinitions raw))).map fun
    | .object cleaned => .ok cleaned
    | _ => .error ⟨.other, "AssertionError"⟩

namespace Gemini

open Relational

section Talks

variable (Scalar : Type)

/-- What an answer has to be: free text with a search, or JSON of a schema. -/
inductive Mode where
  | googleSearch
  | json (responseSchema : Members Scalar)

structure GenerateRequest where
  model : String
  contents : List Char
  maxOutputTokens : Nat
  mode : Mode Scalar
  thinkingBudget : Option Nat

structure WebSource where
  title : Option String
  uri : Option String

/-- A response; what a candidate is grounded on is on the web or is not. -/
structure GenerateResponse where
  parsed : Option (Json Scalar)
  text : Option String
  candidates : List (List (Option WebSource))

/-- An `APIError` of the client, or any other exception. -/
inductive Failure where
  | api (code : Nat) (text : String)
  | raised (error : Exc)

inductive Turn where
  | called (request : GenerateRequest Scalar) (answer : Except Failure (GenerateResponse Scalar))
  | slept (delay : Float)

abbrev Talk := Consulting (Turn Scalar) Failure

/-- The models, and the client, which answers in view of all turns. -/
structure GeminiBackend where
  reasoningModel : String
  fastModel : String
  client : List (Turn Scalar) → GenerateRequest Scalar → Except Failure (GenerateResponse Scalar)

/-- `json.loads`, `str` of a JSON value, and how deep a recursion may be. -/
structure Decoding where
  loads : String → Except Exc (Json Scalar)
  str : Json Scalar → String
  recursionLimit : Nat

/-- The JSON schema of a data model, and its validation. -/
structure OutputSchema (Value : Type) where
  jsonSchema : Members Scalar
  validate : Json Scalar → Except Exc Value

end Talks

section Settings

def reasoningModelDefault : String := "gemini-2.5-pro"

def fastModelDefault : String := "gemini-2.5-flash"

def reasoningTasks : List String :=
  ["synthesize_program", "discovery_research", "brainstorm_goals", "winloss_synth"]

def groundedTasks : List String :=
  ["discovery_research", "brainstorm_goals", "sender_research", "winloss_synth", "web_enrich"]

/-- `_MAX_TOKENS`, with its default. -/
def maxTokens (task : String) : Nat :=
  (List.lookup task
    [("compose", 4096), ("groundedness", 2048), ("qualify", 2048), ("classify_reply", 1024)]).getD
    8192

/-- `__init__`: what is given, what the environment says, or the default. -/
def GeminiBackend.create (environ : String → Option String)
    (client : List (Turn Scalar) → GenerateRequest Scalar →
      Except Failure (GenerateResponse Scalar))
    (reasoningModel fastModel : Option String) : GeminiBackend Scalar where
  reasoningModel := (reasoningModel.filter (· ≠ "")).getD
    ((environ "OR_GEMINI_REASONING_MODEL").getD reasoningModelDefault)
  fastModel := (fastModel.filter (· ≠ "")).getD
    ((environ "OR_GEMINI_FAST_MODEL").getD fastModelDefault)
  client := client

def GeminiBackend.modelFor (backend : GeminiBackend Scalar) (task : String) : String :=
  if task ∈ reasoningTasks then backend.reasoningModel else backend.fastModel

end Settings

section Generate

variable (platform : Platform) (decoding : Decoding Scalar) (backend : GeminiBackend Scalar)
variable (task : String)

/-- `{task!r}` -/
def quotedTask : String := String.ofList (platform.repr task.toList)

/-- What the configuration says of the answer. -/
def answerMode (schema : Option (Members Scalar)) : Except Failure (Mode Scalar) :=
  match schema with
  | none => .ok .googleSearch
  | some raw =>
      match geminiSchema decoding.str decoding.recursionLimit raw with
      | some (.ok cleaned) => .ok (.json cleaned)
      | some (.error error) => .error (.raised error)
      | none => .error (.raised ⟨.runtimeError, "maximum recursion depth exceeded"⟩)

/-- What is generated with a model; thinking is for the reasoning tier. -/
def GeminiBackend.request (contents : List Char) (mode : Mode Scalar) (model : String) :
    GenerateRequest Scalar where
  model := model
  contents := contents
  maxOutputTokens := maxTokens task
  mode := mode
  thinkingBudget := if model = backend.fastModel then some 0 else none

def generateContent (request : GenerateRequest Scalar) : Talk Scalar (GenerateResponse Scalar) :=
  Consulting.inquire (backend.client · request) (.called request) id

/-- The body of the loop's `try`, with the code and the text of an overload. -/
def attemptContent (request : GenerateRequest Scalar) :
    Talk Scalar (Except (Nat × String) (GenerateResponse Scalar)) :=
  tryCatch (do return .ok (← generateContent backend request)) fun failure => match failure with
    | .api code text =>
        if code = 429 ∨ code = 503 then pure (.error (code, text)) else throw (.api code text)
    | .raised error => throw (.raised error)

def sleep (delay : Float) : Talk Scalar Unit :=
  Consulting.consult (fun _ => .ok ()) fun _ => .slept delay

def firstDelay : Float := 15.0

/-- `min(delay * 1.6, 70.0)` -/
def nextDelay (delay : Float) : Float :=
  if 70.0 < delay * 1.6 then 70.0 else delay * 1.6

/-- `_generate_with_backoff`, with the attempts that are left and the last error. -/
def generateFrom (contents : List Char) (mode : Mode Scalar) :
    Nat → String → Float → String → Talk Scalar (GenerateResponse Scalar)
  | 0, _, _, last => throw (.raised ⟨.runtimeError,
      s!"Gemini unavailable after retries for task {quotedTask platform task}: {last}"⟩)
  | left + 1, model, delay, _ => do
      match ← attemptContent backend (backend.request task contents mode model) with
      | .ok response => return response
      | .error (code, text) =>
          if code = 429 ∧ model ≠ backend.fastModel then
            generateFrom contents mode left backend.fastModel delay text
          else do
            sleep delay
            generateFrom contents mode left model (nextDelay delay) text

def generateWithBackoff (contents : List Char) (schema : Option (Members Scalar)) :
    Talk Scalar (GenerateResponse Scalar) := do
  let mode ← MonadExcept.ofExcept (answerMode decoding schema)
  generateFrom platform backend task contents mode 6 (backend.modelFor task) firstDelay ""

end Generate

section Complete

variable {Value : Type} (platform : Platform) (decoding : Decoding Scalar)
variable (backend : GeminiBackend Scalar) (task : String) (schema : OutputSchema Scalar Value)

def researchPrompt (prompt : List Char) : List Char :=
  prompt ++ "\n\nResearch this with Google Search. Report concrete findings ".toList ++
    "with a source URL for every claim; say so plainly when the web ".toList ++
    "has nothing relevant.".toList

/-- The line of a source that has an address. -/
def sourceLine (web : WebSource) : Option (List Char) :=
  (web.uri.filter (· ≠ "")).map fun uri =>
    "- ".toList ++ ((web.title.filter (· ≠ "")).getD uri).toList ++ ": ".toList ++ uri.toList

/-- The sources of a response, each once. -/
def sourceLines (response : GenerateResponse Scalar) : List (List Char) :=
  (response.candidates.flatten.filterMap fun chunk => chunk.bind sourceLine).eraseDups

/-- The prompt of the structuring pass, with what the search has found. -/
def findingsPrompt (prompt : List Char) (response : GenerateResponse Scalar) : List Char :=
  let sources := ['\n'].intercalate (sourceLines response)
  prompt ++
    "\n\nGrounded web research findings (from Google Search; treat as ".toList ++
    "evidence, cite its sources, do not invent beyond it):\n".toList ++
    ((response.text.filter (· ≠ "")).getD "(no grounded findings)").toList ++
    "\n\nSources:\n".toList ++
    if sources = [] then "(no sources returned)".toList else sources

def withGroundedResearch (prompt : List Char) : Talk Scalar (List Char) := do
  let response ← generateWithBackoff platform decoding backend task (researchPrompt prompt) none
  return findingsPrompt prompt response

/-- What a response holds, parsed or as text. -/
def rawOutput (response : GenerateResponse Scalar) : Option (Json Scalar) :=
  response.parsed.or (response.text.map .text)

/-- Text is JSON that is read first. -/
def loadedOutput (raw : Json Scalar) : Except Exc (Json Scalar) :=
  match raw with
  | .text written => decoding.loads written
  | document => .ok document

def readOutput (raw : Json Scalar) : Except Exc Value := do
  let document ← loadedOutput decoding raw
  schema.validate document

/-- The loop of `complete`, with the passes that are left and the last error. -/
def completeFrom (prompt : List Char) : Nat → String → Talk Scalar Value
  | 0, last => throw (.raised ⟨.runtimeError,
      s!"LLM task {quotedTask platform task} output unparseable after retry: {last}"⟩)
  | left + 1, _ => do
      let response ←
        generateWithBackoff platform decoding backend task prompt (some schema.jsonSchema)
      match rawOutput response with
      | none => throw (.raised ⟨.runtimeError,
          s!"LLM task {quotedTask platform task} returned no parseable output"⟩)
      | some raw =>
          match readOutput decoding schema raw with
          | .ok value => return value
          | .error error =>
              if error.kind = .valueError then completeFrom prompt left error.text
              else throw (.raised error)

def complete (prompt : List Char) : Talk Scalar Value := do
  let asked ←
    if task ∈ groundedTasks then withGroundedResearch platform decoding backend task prompt
    else pure prompt
  completeFrom platform decoding backend task schema asked 2 ""

end Complete

end Gemini

end OpenReachout
