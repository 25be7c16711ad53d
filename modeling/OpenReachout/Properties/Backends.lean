import OpenReachout.Adapters.Gemini

/-!
# What a completion asks of the API

A completion makes a bounded number of calls, goes on only after an overload, leaves the
reasoning tier for good once a pass is out of quota, and returns only what the data model
has validated.
-/

namespace OpenReachout.Gemini

open Relational Consulting Text

set_option autoImplicit false

variable {Scalar Value : Type}

section Pass

/-- A call, with its answer. -/
structure Attempt (Scalar : Type) where
  request : GenerateRequest Scalar
  answer : Except Failure (GenerateResponse Scalar)

/-- The code of an error of the API. -/
def Attempt.code (attempt : Attempt Scalar) : Option Nat :=
  match attempt.answer with
  | .error (.api code _) => some code
  | _ => none

def Attempt.text (attempt : Attempt Scalar) : String :=
  match attempt.answer with
  | .error (.api _ text) => text
  | _ => ""

def Attempt.limited (attempt : Attempt Scalar) : Bool := attempt.code = some 429

/-- Whether the loop goes on after the attempt. -/
def Attempt.busy (attempt : Attempt Scalar) : Bool :=
  attempt.code = some 429 ∨ attempt.code = some 503

/-- The pauses of a pass, the first one first. -/
def pause : Nat → Float
  | 0 => firstDelay
  | paused + 1 => nextDelay (pause paused)

variable (platform : Platform) (backend : GeminiBackend Scalar) (task : String)
variable (contents : List Char) (mode : Mode Scalar)

/-- Whether an attempt is made again at once, on the fast tier. -/
def Attempt.degrades (attempt : Attempt Scalar) : Bool :=
  attempt.limited ∧ attempt.request.model ≠ backend.fastModel

/-- The turns of a pass: its calls, and a pause after each overload that does not degrade. -/
def spelled : Nat → List (Attempt Scalar) → List (Turn Scalar)
  | _, [] => []
  | paused, attempt :: rest =>
      .called attempt.request attempt.answer ::
        if attempt.busy ∧ ¬ attempt.degrades backend then
          .slept (pause paused) :: spelled (paused + 1) rest
        else spelled paused rest

def unavailable (last : String) : Failure :=
  .raised ⟨.runtimeError,
    s!"Gemini unavailable after retries for task {quotedTask platform task}: {last}"⟩

/-- How a pass ends after its attempts: with the answer to the last one, or with none left. -/
def Ended (left : Nat) (last : String) (attempts : List (Attempt Scalar))
    (outcome : Except Failure (GenerateResponse Scalar)) : Prop :=
  (∃ early attempt, attempts = early ++ [attempt] ∧ attempt.busy = false ∧
      outcome = attempt.answer) ∨
    attempts.length = left ∧ (∀ attempt ∈ attempts, attempt.busy = true) ∧
      outcome = .error (unavailable platform task (attempts.foldl (fun _ next => next.text) last))

/-- The attempts of a pass: at most as many as are left, each after overloads only, and on
the fast tier after the first one that was out of quota. -/
structure Pass (left : Nat) (model : String) (paused : Nat) (last : String)
    (attempts : List (Attempt Scalar)) (outcome : Except Failure (GenerateResponse Scalar))
    (turns : List (Turn Scalar)) : Prop where
  bounded : attempts.length ≤ left
  requested : ∀ early attempt late, attempts = early ++ attempt :: late →
    attempt.request = backend.request task contents mode
      (if early.any Attempt.limited then backend.fastModel else model)
  overloaded : ∀ early attempt late, attempts = early ++ attempt :: late →
    ∀ before ∈ early, before.busy = true
  told : turns = spelled backend paused attempts
  ended : Ended platform task left last attempts outcome

variable {platform backend task contents mode}

theorem attemptContent_tells (request : GenerateRequest Scalar) :
    Tells (Ends
      (fun tried notes => ∃ attempt : Attempt Scalar, attempt.request = request ∧
        notes = [.called request attempt.answer] ∧
        match tried with
        | .ok response => attempt.answer = .ok response
        | .error (code, text) => attempt.answer = .error (.api code text) ∧
            (code = 429 ∨ code = 503))
      (fun failure notes => ∃ attempt : Attempt Scalar, attempt.request = request ∧
        notes = [.called request attempt.answer] ∧
        attempt.answer = .error failure ∧ attempt.busy = false))
      (attemptContent backend request) := by
  have body : Tells (Ends
      (fun tried notes => ∃ response, tried = Except.ok response ∧
        notes = [.called request (.ok response)])
      (fun failure notes => notes = [.called request (.error failure)]))
      (do return .ok (← generateContent backend request) :
        Talk Scalar (Except (Nat × String) (GenerateResponse Scalar))) := by
    apply tells_bind (tells_inquire _ _ _)
    case failed =>
      rintro failure notes ⟨error, rfl, rfl⟩
      rfl
    intro response notes noted
    exact tells_pure _ ⟨response, rfl, by rw [noted]; rfl⟩
  apply tells_handle body
  case done =>
    rintro tried notes ⟨response, rfl, rfl⟩
    exact ⟨⟨request, .ok response⟩, rfl, rfl, rfl⟩
  rintro failure notes rfl
  cases failure with
  | raised error =>
      exact tells_throw _ ⟨⟨request, .error (.raised error)⟩, rfl, rfl, rfl, rfl⟩
  | api code text =>
      by_cases busy : code = 429 ∨ code = 503
      · dsimp only
        rw [if_pos busy]
        exact tells_pure _ ⟨⟨request, .error (.api code text)⟩, rfl, rfl, rfl, busy⟩
      · dsimp only
        rw [if_neg busy]
        refine tells_throw _ ⟨⟨request, .error (.api code text)⟩, rfl, rfl, rfl, ?_⟩
        simpa [Attempt.busy, Attempt.code] using busy

theorem first_of_single {attempt other : Attempt Scalar} {early late : List (Attempt Scalar)}
    (split : [attempt] = early ++ other :: late) : early = [] ∧ other = attempt := by
  cases early with
  | nil =>
      cases split
      exact ⟨rfl, rfl⟩
  | cons first rest =>
      have sizes := congrArg List.length split
      simp at sizes

/-- A pass of one attempt. -/
theorem pass_single {left paused : Nat} {model last : String} {attempt : Attempt Scalar}
    (made : attempt.request = backend.request task contents mode model)
    (final : attempt.busy = false) :
    Pass platform backend task contents mode (left + 1) model paused last [attempt]
      attempt.answer [.called attempt.request attempt.answer] where
  bounded := by simp
  requested := by
    intro early other late split
    obtain ⟨rfl, rfl⟩ := first_of_single split
    simpa using made
  overloaded := by
    intro early other late split
    obtain ⟨rfl, rfl⟩ := first_of_single split
    exact fun before member => absurd member List.not_mem_nil
  told := by simp [spelled, final]
  ended := .inl ⟨[], attempt, rfl, final, rfl⟩

/-- An overload before a pass. -/
theorem Pass.cons {left paused : Nat} {model next last : String} {attempt : Attempt Scalar}
    {attempts : List (Attempt Scalar)} {outcome : Except Failure (GenerateResponse Scalar)}
    {turns : List (Turn Scalar)}
    (made : attempt.request = backend.request task contents mode model)
    (busy : attempt.busy = true)
    (tier : next = if attempt.limited then backend.fastModel else model)
    (pass : Pass platform backend task contents mode left next
      (if attempt.degrades backend then paused else paused + 1) attempt.text attempts outcome
      turns) :
    Pass platform backend task contents mode (left + 1) model paused last (attempt :: attempts)
      outcome (.called attempt.request attempt.answer ::
        if attempt.degrades backend then turns else .slept (pause paused) :: turns) where
  bounded := by
    have bound := pass.bounded
    rw [List.length_cons]
    omega
  requested := by
    intro early other late split
    cases early with
    | nil =>
        cases split
        simpa using made
    | cons first rest =>
        cases split
        rw [pass.requested rest other late rfl, List.any_cons, tier]
        congr 1
        cases attempt.limited <;> cases rest.any Attempt.limited <;> rfl
  overloaded := by
    intro early other late split
    cases early with
    | nil => exact fun before member => absurd member List.not_mem_nil
    | cons first rest =>
        cases split
        intro before member
        rcases List.mem_cons.1 member with rfl | further
        · exact busy
        · exact pass.overloaded rest other late rfl before further
  told := by
    rw [pass.told]
    cases degrades : attempt.degrades backend <;> simp [spelled, busy, degrades]
  ended := by
    rcases pass.ended with ⟨early, final, rfl, done, same⟩ | ⟨spent, all, same⟩
    · exact .inl ⟨attempt :: early, final, rfl, done, same⟩
    · refine .inr ⟨by rw [List.length_cons, spent], ?_, same⟩
      intro other member
      rcases List.mem_cons.1 member with rfl | further
      · exact busy
      · exact all other further

/-- Out of quota on the reasoning tier: the pass goes on at once, on the fast one. -/
theorem Pass.degraded {left paused : Nat} {model last : String} {attempt : Attempt Scalar}
    {attempts : List (Attempt Scalar)} {outcome : Except Failure (GenerateResponse Scalar)}
    {turns : List (Turn Scalar)}
    (made : attempt.request = backend.request task contents mode model)
    (limited : attempt.limited = true) (slower : model ≠ backend.fastModel)
    (pass : Pass platform backend task contents mode left backend.fastModel paused attempt.text
      attempts outcome turns) :
    Pass platform backend task contents mode (left + 1) model paused last (attempt :: attempts)
      outcome (.called attempt.request attempt.answer :: turns) := by
  have code : attempt.code = some 429 := by simpa [Attempt.limited] using limited
  have busy : attempt.busy = true := by simp [Attempt.busy, code]
  have onModel : attempt.request.model = model := by
    rw [made]
    rfl
  have quick : attempt.degrades backend = true := by
    simp [Attempt.degrades, limited, onModel, slower]
  have tier : backend.fastModel = if attempt.limited then backend.fastModel else model := by
    rw [if_pos limited]
  have rest : Pass platform backend task contents mode left backend.fastModel
      (if attempt.degrades backend then paused else paused + 1) attempt.text attempts outcome
      turns := by
    rw [if_pos quick]
    exact pass
  have whole : Pass platform backend task contents mode (left + 1) model paused last
      (attempt :: attempts) outcome _ := rest.cons made busy tier
  rw [if_pos quick] at whole
  exact whole

/-- Any other overload: the pass goes on after a pause, with the same model. -/
theorem Pass.waited {left paused : Nat} {model last : String} {attempt : Attempt Scalar}
    {attempts : List (Attempt Scalar)} {outcome : Except Failure (GenerateResponse Scalar)}
    {turns : List (Turn Scalar)}
    (made : attempt.request = backend.request task contents mode model)
    (busy : attempt.busy = true) (fastest : attempt.limited = true → model = backend.fastModel)
    (pass : Pass platform backend task contents mode left model (paused + 1) attempt.text
      attempts outcome turns) :
    Pass platform backend task contents mode (left + 1) model paused last (attempt :: attempts)
      outcome (.called attempt.request attempt.answer :: .slept (pause paused) :: turns) := by
  have onModel : attempt.request.model = model := by
    rw [made]
    rfl
  have slow : attempt.degrades backend = false := by
    simpa [Attempt.degrades, onModel] using fastest
  have tier : model = if attempt.limited then backend.fastModel else model := by
    split
    next limited => exact fastest limited
    next => rfl
  have rest : Pass platform backend task contents mode left model
      (if attempt.degrades backend then paused else paused + 1) attempt.text attempts outcome
      turns := by
    rw [slow]
    exact pass
  have whole : Pass platform backend task contents mode (left + 1) model paused last
      (attempt :: attempts) outcome _ := rest.cons made busy tier
  rw [slow] at whole
  exact whole

/-- A pass that has no attempt left. -/
theorem pass_none {model last : String} {paused : Nat} :
    Pass platform backend task contents mode 0 model paused last []
      (.error (unavailable platform task last)) [] where
  bounded := Nat.le_refl 0
  requested := by
    intro early attempt late split
    cases early <;> cases split
  overloaded := by
    intro early attempt late split
    cases early <;> cases split
  told := rfl
  ended := .inr ⟨rfl, fun attempt member => absurd member List.not_mem_nil, rfl⟩

theorem generateFrom_tells (left : Nat) (model : String) (paused : Nat) (last : String) :
    Tells (fun outcome turns => ∃ attempts,
        Pass platform backend task contents mode left model paused last attempts outcome turns)
      (generateFrom platform backend task contents mode left model (pause paused) last) := by
  induction left generalizing model paused last with
  | zero => exact tells_throw _ ⟨[], pass_none⟩
  | succ left induction =>
      apply tells_bind (attemptContent_tells _)
      case failed =>
        rintro failure notes ⟨attempt, made, rfl, answered, final⟩
        refine ⟨[attempt], ?_⟩
        rw [← answered, ← made]
        exact pass_single made final
      rintro tried notes ⟨attempt, made, rfl, how⟩
      cases tried with
      | ok response =>
          have final : attempt.busy = false := by simp [Attempt.busy, Attempt.code, how]
          refine tells_pure response ⟨[attempt], ?_⟩
          rw [← how, ← made]
          exact pass_single made final
      | error overload =>
          obtain ⟨code, text⟩ := overload
          obtain ⟨answered, which⟩ := how
          have busy : attempt.busy = true := by
            simpa [Attempt.busy, Attempt.code, answered] using which
          have limited : attempt.limited = true ↔ code = 429 := by
            simp [Attempt.limited, Attempt.code, answered]
          have said : text = attempt.text := by simp [Attempt.text, answered]
          rw [← made, said]
          by_cases degrades : code = 429 ∧ model ≠ backend.fastModel
          · dsimp only
            rw [if_pos degrades]
            apply (induction backend.fastModel paused attempt.text).mono
            rintro outcome turns ⟨attempts, pass⟩
            exact ⟨attempt :: attempts, pass.degraded made (limited.2 degrades.1) degrades.2⟩
          · dsimp only
            rw [if_neg degrades]
            apply tells_bind (tells_consult _ _)
            case failed =>
              rintro failure notes ⟨-, past, impossible⟩
              cases impossible
            rintro slept notes ⟨rfl, -⟩
            apply (induction model (paused + 1) attempt.text).mono
            rintro outcome turns ⟨attempts, pass⟩
            have fastest : attempt.limited = true → model = backend.fastModel := by
              intro quota
              by_contra other
              exact degrades ⟨limited.1 quota, other⟩
            exact ⟨attempt :: attempts, pass.waited made busy fastest⟩

end Pass

section Completion

variable (platform : Platform) (decoding : Decoding Scalar) (backend : GeminiBackend Scalar)
variable (task : String) (schema : OutputSchema Scalar Value)

/-- What becomes of a pass for some contents; without a schema that can be sent it makes no
call. -/
def Generated (contents : List Char) (form : Option (Members Scalar))
    (outcome : Except Failure (GenerateResponse Scalar)) (turns : List (Turn Scalar)) : Prop :=
  match answerMode decoding form with
  | .error failure => outcome = .error failure ∧ turns = []
  | .ok mode => ∃ attempts, Pass platform backend task contents mode 6 (backend.modelFor task) 0 ""
      attempts outcome turns

/-- Passes of which the output is malformed, and what was wrong with the last one. -/
inductive Malformed (prompt : List Char) : Nat → List (Turn Scalar) → String → Prop where
  | start : Malformed prompt 0 [] ""
  | more {passes : Nat} {early late : List (Turn Scalar)} {last : String}
      {response : GenerateResponse Scalar} {raw : Json Scalar} {error : Exc}
      (earlier : Malformed prompt passes early last)
      (generated : Generated platform decoding backend task prompt (some schema.jsonSchema)
        (.ok response) late)
      (held : rawOutput response = some raw)
      (refused : readOutput decoding schema raw = .error error) (kind : error.kind = .valueError) :
      Malformed prompt (passes + 1) (early ++ late) error.text

/-- How the structuring passes end. -/
inductive Structured (prompt : List Char) : Except Failure Value → List (Turn Scalar) → Prop where
  | read {passes : Nat} {early late : List (Turn Scalar)} {last : String}
      {response : GenerateResponse Scalar} {raw : Json Scalar} {value : Value}
      (earlier : Malformed platform decoding backend task schema prompt passes early last)
      (bounded : passes < 2)
      (generated : Generated platform decoding backend task prompt (some schema.jsonSchema)
        (.ok response) late)
      (held : rawOutput response = some raw) (valid : readOutput decoding schema raw = .ok value) :
      Structured prompt (.ok value) (early ++ late)
  | spent {turns : List (Turn Scalar)} {last : String}
      (earlier : Malformed platform decoding backend task schema prompt 2 turns last) :
      Structured prompt (.error (.raised ⟨.runtimeError,
        s!"LLM task {quotedTask platform task} output unparseable after retry: {last}"⟩)) turns
  | failed {passes : Nat} {early late : List (Turn Scalar)} {last : String} {failure : Failure}
      (earlier : Malformed platform decoding backend task schema prompt passes early last)
      (bounded : passes < 2)
      (generated : Generated platform decoding backend task prompt (some schema.jsonSchema)
        (.error failure) late) :
      Structured prompt (.error failure) (early ++ late)
  | blocked {passes : Nat} {early late : List (Turn Scalar)} {last : String}
      {response : GenerateResponse Scalar}
      (earlier : Malformed platform decoding backend task schema prompt passes early last)
      (bounded : passes < 2)
      (generated : Generated platform decoding backend task prompt (some schema.jsonSchema)
        (.ok response) late)
      (nothing : rawOutput response = none) :
      Structured prompt (.error (.raised ⟨.runtimeError,
        s!"LLM task {quotedTask platform task} returned no parseable output"⟩)) (early ++ late)
  | raised {passes : Nat} {early late : List (Turn Scalar)} {last : String}
      {response : GenerateResponse Scalar} {raw : Json Scalar} {error : Exc}
      (earlier : Malformed platform decoding backend task schema prompt passes early last)
      (bounded : passes < 2)
      (generated : Generated platform decoding backend task prompt (some schema.jsonSchema)
        (.ok response) late)
      (held : rawOutput response = some raw)
      (refused : readOutput decoding schema raw = .error error) (kind : error.kind ≠ .valueError) :
      Structured prompt (.error (.raised error)) (early ++ late)

/-- How a completion ends; a grounded task searches first. -/
inductive Completed (prompt : List Char) : Except Failure Value → List (Turn Scalar) → Prop where
  | plain {outcome : Except Failure Value} {turns : List (Turn Scalar)}
      (plain : task ∉ groundedTasks)
      (structured : Structured platform decoding backend task schema prompt outcome turns) :
      Completed prompt outcome turns
  | grounded {outcome : Except Failure Value} {early late : List (Turn Scalar)}
      {response : GenerateResponse Scalar} (grounded : task ∈ groundedTasks)
      (searched : Generated platform decoding backend task (researchPrompt prompt) none
        (.ok response) early)
      (structured : Structured platform decoding backend task schema
        (findingsPrompt prompt response) outcome late) :
      Completed prompt outcome (early ++ late)
  | unsearched {failure : Failure} {turns : List (Turn Scalar)} (grounded : task ∈ groundedTasks)
      (searched : Generated platform decoding backend task (researchPrompt prompt) none
        (.error failure) turns) :
      Completed prompt (.error failure) turns

variable {platform decoding backend task schema}

theorem generateWithBackoff_tells (contents : List Char) (form : Option (Members Scalar)) :
    Tells (Generated platform decoding backend task contents form)
      (generateWithBackoff platform decoding backend task contents form) := by
  apply tells_bind (tells_ofExcept _)
  case failed =>
    rintro failure notes ⟨rfl, refused⟩
    unfold Generated
    rw [refused]
    exact ⟨rfl, rfl⟩
  rintro mode notes ⟨rfl, accepted⟩
  have pass : Tells (fun outcome turns => ∃ attempts, Pass platform backend task contents mode 6
      (backend.modelFor task) 0 "" attempts outcome turns)
      (generateFrom platform backend task contents mode 6 (backend.modelFor task) firstDelay "") :=
    generateFrom_tells 6 (backend.modelFor task) 0 ""
  apply pass.mono
  intro outcome turns made
  unfold Generated
  rw [accepted]
  exact made

/-- A pass, as the first part of a computation. -/
theorem generated_ends (contents : List Char) (form : Option (Members Scalar)) :
    Tells (Ends
      (fun response turns =>
        Generated platform decoding backend task contents form (.ok response) turns)
      (fun failure turns =>
        Generated platform decoding backend task contents form (.error failure) turns))
      (generateWithBackoff platform decoding backend task contents form) := by
  apply (generateWithBackoff_tells contents form).mono
  intro outcome turns made
  cases outcome with
  | ok response => exact made
  | error failure => exact made

theorem completeFrom_tells (prompt : List Char) {left passes : Nat} {early : List (Turn Scalar)}
    {last : String}
    (earlier : Malformed platform decoding backend task schema prompt passes early last)
    (spent : passes + left = 2) :
    Tells (fun outcome turns =>
        Structured platform decoding backend task schema prompt outcome (early ++ turns))
      (completeFrom platform decoding backend task schema prompt left last) := by
  induction left generalizing passes early last with
  | zero =>
      have all : passes = 2 := by omega
      subst all
      refine tells_throw _ ?_
      rw [List.append_nil]
      exact .spent earlier
  | succ left induction =>
      have bounded : passes < 2 := by omega
      apply tells_bind (generated_ends prompt _)
      case failed => exact fun failure late generated => .failed earlier bounded generated
      intro response late generated
      cases held : rawOutput response with
      | none =>
          refine tells_throw _ ?_
          rw [List.append_nil]
          exact .blocked earlier bounded generated held
      | some raw =>
          dsimp only
          cases reads : readOutput decoding schema raw with
          | ok value =>
              refine tells_pure value ?_
              rw [List.append_nil]
              exact .read earlier bounded generated held reads
          | error error =>
              dsimp only
              by_cases kind : error.kind = .valueError
              · rw [if_pos kind]
                have further := induction (earlier.more generated held reads kind) (by omega)
                apply further.mono
                intro outcome turns ends
                rwa [List.append_assoc] at ends
              · rw [if_neg kind]
                refine tells_throw _ ?_
                rw [List.append_nil]
                exact .raised earlier bounded generated held reads kind

theorem complete_tells (prompt : List Char) :
    Tells (Completed platform decoding backend task schema prompt)
      (complete platform decoding backend task schema prompt) := by
  unfold complete
  by_cases grounded : task ∈ groundedTasks
  · rw [if_pos grounded]
    have searched : Tells (Ends
        (fun asked turns => ∃ response, asked = findingsPrompt prompt response ∧
          Generated platform decoding backend task (researchPrompt prompt) none (.ok response)
            turns)
        (fun failure turns =>
          Generated platform decoding backend task (researchPrompt prompt) none (.error failure)
            turns))
        (withGroundedResearch platform decoding backend task prompt) := by
      apply tells_bind (generated_ends (researchPrompt prompt) none)
      case failed => exact fun failure early generated => generated
      intro response early generated
      refine tells_pure _ ⟨response, rfl, ?_⟩
      rw [List.append_nil]
      exact generated
    apply tells_bind searched
    case failed => exact fun failure early generated => .unsearched grounded generated
    rintro asked early ⟨response, rfl, generated⟩
    apply (completeFrom_tells (findingsPrompt prompt response) .start rfl).mono
    intro outcome late structured
    exact .grounded grounded generated structured
  · rw [if_neg grounded]
    have kept : Tells (Ends (fun asked turns => asked = prompt ∧ turns = [])
        (fun _ _ => False)) (pure prompt : Talk Scalar (List Char)) := tells_pure _ ⟨rfl, rfl⟩
    apply tells_bind kept
    case failed => exact fun failure early impossible => impossible.elim
    rintro asked early ⟨rfl, rfl⟩
    apply (completeFrom_tells asked .start rfl).mono
    intro outcome late structured
    exact .plain grounded structured

end Completion

section Calls

def Turn.isCall : Turn Scalar → Bool
  | .called _ _ => true
  | .slept _ => false

/-- How often the API is called. -/
def calls (turns : List (Turn Scalar)) : Nat := turns.countP Turn.isCall

@[simp]
theorem calls_append (early late : List (Turn Scalar)) :
    calls (early ++ late) = calls early + calls late := List.countP_append

variable {platform : Platform} {decoding : Decoding Scalar} {backend : GeminiBackend Scalar}
variable {task : String} {schema : OutputSchema Scalar Value}

theorem calls_spelled (paused : Nat) (attempts : List (Attempt Scalar)) :
    calls (spelled backend paused attempts) = attempts.length := by
  induction attempts generalizing paused with
  | nil => rfl
  | cons attempt attempts induction =>
      have quick := induction paused
      have slow := induction (paused + 1)
      unfold calls at quick slow ⊢
      unfold spelled
      split <;> simp [List.countP_cons, Turn.isCall, quick, slow]

theorem generated_calls {contents : List Char} {form : Option (Members Scalar)}
    {outcome : Except Failure (GenerateResponse Scalar)} {turns : List (Turn Scalar)}
    (generated : Generated platform decoding backend task contents form outcome turns) :
    calls turns ≤ 6 := by
  unfold Generated at generated
  cases configured : answerMode decoding form with
  | error failure =>
      rw [configured] at generated
      rw [generated.2]
      exact Nat.zero_le 6
  | ok mode =>
      rw [configured] at generated
      obtain ⟨attempts, pass⟩ := generated
      rw [pass.told, calls_spelled]
      exact pass.bounded

theorem malformed_calls {prompt : List Char} {passes : Nat} {turns : List (Turn Scalar)}
    {last : String}
    (malformed : Malformed platform decoding backend task schema prompt passes turns last) :
    calls turns ≤ 6 * passes := by
  induction malformed with
  | start => exact Nat.zero_le _
  | more earlier generated held refused kind induction =>
      have late := generated_calls generated
      rw [calls_append]
      omega

theorem structured_calls {prompt : List Char} {outcome : Except Failure Value}
    {turns : List (Turn Scalar)}
    (structured : Structured platform decoding backend task schema prompt outcome turns) :
    calls turns ≤ 12 := by
  have two {passes : Nat} {early late : List (Turn Scalar)} {last : String}
      {ended : Except Failure (GenerateResponse Scalar)}
      (earlier : Malformed platform decoding backend task schema prompt passes early last)
      (bounded : passes < 2)
      (generated : Generated platform decoding backend task prompt (some schema.jsonSchema)
        ended late) : calls (early ++ late) ≤ 12 := by
    have first := malformed_calls earlier
    have second := generated_calls generated
    rw [calls_append]
    omega
  cases structured with
  | read earlier bounded generated held valid => exact two earlier bounded generated
  | spent earlier => exact malformed_calls earlier
  | failed earlier bounded generated => exact two earlier bounded generated
  | blocked earlier bounded generated nothing => exact two earlier bounded generated
  | raised earlier bounded generated held refused kind => exact two earlier bounded generated

theorem completed_calls {prompt : List Char} {outcome : Except Failure Value}
    {turns : List (Turn Scalar)}
    (completed : Completed platform decoding backend task schema prompt outcome turns) :
    calls turns ≤ if task ∈ groundedTasks then 18 else 12 := by
  cases completed with
  | plain plain structured =>
      rw [if_neg plain]
      exact structured_calls structured
  | grounded grounded searched structured =>
      have first := generated_calls searched
      have second := structured_calls structured
      rw [if_pos grounded, calls_append]
      omega
  | unsearched grounded searched =>
      have first := generated_calls searched
      rw [if_pos grounded]
      omega

theorem validated_of_read {raw : Json Scalar} {value : Value}
    (reads : readOutput decoding schema raw = .ok value) :
    ∃ document, schema.validate document = .ok value := by
  unfold readOutput at reads
  cases parsed : loadedOutput decoding raw with
  | error error =>
      rw [parsed] at reads
      cases reads
  | ok document =>
      rw [parsed] at reads
      exact ⟨document, reads⟩

theorem validated_of_structured {prompt : List Char} {outcome : Except Failure Value}
    {turns : List (Turn Scalar)} {value : Value}
    (structured : Structured platform decoding backend task schema prompt outcome turns)
    (done : outcome = .ok value) : ∃ document, schema.validate document = .ok value := by
  cases structured with
  | read earlier bounded generated held valid =>
      cases done
      exact validated_of_read valid
  | spent earlier => cases done
  | failed earlier bounded generated => cases done
  | blocked earlier bounded generated nothing => cases done
  | raised earlier bounded generated held refused kind => cases done

theorem validated_of_completed {prompt : List Char} {outcome : Except Failure Value}
    {turns : List (Turn Scalar)} {value : Value}
    (completed : Completed platform decoding backend task schema prompt outcome turns)
    (done : outcome = .ok value) : ∃ document, schema.validate document = .ok value := by
  cases completed with
  | plain plain structured => exact validated_of_structured structured done
  | grounded grounded searched structured => exact validated_of_structured structured done
  | unsearched grounded searched => cases done

variable (platform decoding backend task schema)

/-- Whatever the API answers, a completion searches first where it is a research task, makes
at most two structuring passes of at most six calls each, and returns only a value that the
data model has validated; a pass goes on only after an overload and stays on the fast tier
from the first one that was out of quota. -/
theorem completions_accounted (prompt : List Char) (past : List (Turn Scalar)) :
    ∃ outcome turns, complete platform decoding backend task schema prompt past =
        (outcome, past ++ turns) ∧
      Completed platform decoding backend task schema prompt outcome turns ∧
      calls turns ≤ (if task ∈ groundedTasks then 18 else 12) ∧
      ∀ value, outcome = .ok value → ∃ document, schema.validate document = .ok value := by
  obtain ⟨turns, grown, completed⟩ := complete_tells prompt past
  exact ⟨_, turns, Prod.ext rfl grown, completed, completed_calls completed,
    fun value => validated_of_completed completed⟩

-- A research task that is out of quota leaves its tier at once, and gives up in its search.
example : let turns := (complete (Platform.ascii [])
      ⟨fun text => .ok (.text text), fun _ => "", 9⟩
      (GeminiBackend.create (fun _ => none) (fun _ _ => .error (.api 429 "quota")) none none)
      "brainstorm_goals" (⟨[], fun raw => .ok raw⟩ : OutputSchema Nat (Json Nat)) [] []).2
    calls turns = 6 ∧ turns.length = 11 := by
  decide +kernel

end Calls

end OpenReachout.Gemini
