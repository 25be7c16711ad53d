import OpenReachout.Agents.Synthesizer
import OpenReachout.Properties.ConfigFiles

/-!
# What a synthesis comes to

A program is accepted only where it is valid for its brief, the model is asked a bounded
number of times, and is told each time what was wrong the last time.
-/

namespace OpenReachout.Config

open Relational Consulting Text Documents

set_option autoImplicit false

section Attempts

variable {runtime : Runtime} (writers : Writers runtime) (revision : Option Revision)
variable (brief : Brief runtime) (tenantSlug : String)

/-- What the validation says of an attempt, where it is rejected. -/
def rejection (attempt : Attempt runtime) : Option String :=
  match attempt.answer with
  | .ok personas =>
      match assemble writers brief tenantSlug personas with
      | .ok _ => none
      | .error issues => some (writers.issues issues)
  | .error error => if error.kind = .valueError then some error.text else none

/-- Attempts that were all rejected, each asked with what was wrong with the one before it;
what the next one is asked with, and the last error. -/
inductive Rejected : List (Attempt runtime) → List Char → String → Prop where
  | start : Rejected [] [] ""
  | more {attempts : List (Attempt runtime)} {feedback : List Char} {last : String}
      (attempt : Attempt runtime) (text : String) (earlier : Rejected attempts feedback last)
      (asked : attempt.prompt = promptWith revision brief feedback)
      (wrong : rejection writers brief tenantSlug attempt = some text) :
      Rejected (attempts ++ [attempt]) (synthesisFeedback text) text

/-- A program that says what it was made of, and keeps to its brief. -/
structure Assembled (personas : List (PersonaSpec runtime.platform))
    (config : TenantConfig runtime) : Prop where
  same_brief : config.1.brief = brief
  same_tenant : config.1.tenant.1 = tenantSlug
  same_personas : config.1.personas.1 = personas
  generated : config.1.generatedBy = some ⟨"synthesizer@0.1.0", configHash writers personas⟩
  within : totalBudget personas ≤ brief.budgets.monthlyProspects.1
  enforced : Enforced config

/-- How a synthesis can end, after which attempts. -/
inductive Concluded : Except Failure (TenantConfig runtime) → List (Attempt runtime) → Prop where
  | accepted {early : List (Attempt runtime)} {feedback : List Char} {last : String}
      (personas : List (PersonaSpec runtime.platform)) (config : TenantConfig runtime)
      (rejected : Rejected writers revision brief tenantSlug early feedback last)
      (bounded : early.length ≤ maxSynthesisRetries)
      (assembled : Assembled writers brief tenantSlug personas config) :
      Concluded (.ok config)
        (early ++ [{ prompt := promptWith revision brief feedback, answer := .ok personas }])
  | escalated {attempts : List (Attempt runtime)} {feedback : List Char} {last : String}
      (rejected : Rejected writers revision brief tenantSlug attempts feedback last)
      (spent : attempts.length = 1 + maxSynthesisRetries) :
      Concluded (.error (.escalation s!"no valid program after 3 attempts: {last}")) attempts
  | raised {early : List (Attempt runtime)} {feedback : List Char} {last : String} (error : Exc)
      (rejected : Rejected writers revision brief tenantSlug early feedback last)
      (bounded : early.length ≤ maxSynthesisRetries) (kind : error.kind ≠ .valueError) :
      Concluded (.error (.raised error))
        (early ++ [{ prompt := promptWith revision brief feedback, answer := .error error }])

end Attempts

section Completion

variable {runtime : Runtime} {writers : Writers runtime} {revision : Option Revision}
variable {brief : Brief runtime} {tenantSlug : String} {llm : SynthesisModel runtime}

theorem assembled_of_assemble {personas : List (PersonaSpec runtime.platform)}
    {config : TenantConfig runtime}
    (made : assemble writers brief tenantSlug personas = .ok config) :
    Assembled writers brief tenantSlug personas config := by
  unfold assemble at made
  cases named : under (.key "tenant") ((pattern ['_', '-']).decode (.text tenantSlug)) with
  | error issues =>
      rw [named] at made
      split at made <;> cases made
  | ok tenant =>
      rw [named] at made
      have slug : tenant.1 = tenantSlug := by
        have read := Codec.check_ok.1 (under_ok.1 named)
        exact (Except.ok.inj read).symm
      by_cases filled : 0 < personas.length
      · rw [dif_pos filled] at made
        dsimp only [both] at made
        split at made
        next fine =>
          cases made
          exact ⟨rfl, slug, rfl, rfl, fine.1, enforced _⟩
        next => cases made
      · rw [dif_neg filled] at made
        cases made

theorem tryProgram_tells (feedback : List Char) :
    Tells (Ends
      (fun tried notes => ∃ answer,
        notes = [{ prompt := promptWith revision brief feedback, answer }] ∧
        match tried with
        | .ok config => ∃ personas, answer = .ok personas ∧
            assemble writers brief tenantSlug personas = .ok config
        | .error text =>
            rejection writers brief tenantSlug ⟨promptWith revision brief feedback, answer⟩ =
              some text)
      (fun failure notes => ∃ error, failure = .raised error ∧ error.kind ≠ .valueError ∧
        notes = [{ prompt := promptWith revision brief feedback, answer := .error error }]))
      (tryProgram writers llm revision brief tenantSlug feedback) := by
  have body : Tells (Ends
      (fun tried notes => ∃ config personas, tried = .ok config ∧
        notes = [{ prompt := promptWith revision brief feedback, answer := .ok personas }] ∧
        assemble writers brief tenantSlug personas = .ok config)
      (fun failure notes => ∃ error answer, failure = .raised error ∧
        notes = [{ prompt := promptWith revision brief feedback, answer }] ∧
        (answer = .error error ∨ error.kind = .valueError ∧
          rejection writers brief tenantSlug ⟨promptWith revision brief feedback, answer⟩ =
            some error.text)))
      (do
        let personas ← askProgram llm revision brief feedback
        let config ← MonadExcept.ofExcept
          (validated writers (assemble writers brief tenantSlug personas))
        return .ok config : Synthesis runtime (Except String (TenantConfig runtime))) := by
    apply tells_bind (tells_inquire _ _ _)
    case failed =>
      rintro failure notes ⟨error, rfl, rfl⟩
      exact ⟨error, .error error, rfl, rfl, .inl rfl⟩
    rintro personas early rfl
    apply tells_bind (tells_ofExcept _)
    case failed =>
      rintro failure notes ⟨rfl, refused⟩
      cases made : assemble writers brief tenantSlug personas with
      | ok config =>
          rw [made] at refused
          cases refused
      | error issues =>
          rw [made] at refused
          cases refused
          refine ⟨_, .ok personas, rfl, rfl, .inr ⟨rfl, ?_⟩⟩
          simp [rejection, made]
    rintro config notes ⟨rfl, accepted⟩
    cases made : assemble writers brief tenantSlug personas with
    | error issues =>
        rw [made] at accepted
        cases accepted
    | ok found =>
        rw [made] at accepted
        cases accepted
        exact tells_pure _ ⟨config, personas, rfl, rfl, made⟩
  apply tells_handle body
  case done =>
    rintro tried notes ⟨config, personas, rfl, rfl, made⟩
    exact ⟨.ok personas, rfl, personas, rfl, made⟩
  rintro failure notes ⟨error, answer, rfl, rfl, how⟩
  dsimp only
  by_cases caught : error.kind = .valueError
  · rw [if_pos caught]
    refine tells_pure _ ⟨answer, List.append_nil _, ?_⟩
    rcases how with rfl | ⟨-, wrong⟩
    · simp [rejection, caught]
    · exact wrong
  · rw [if_neg caught]
    rcases how with rfl | ⟨kind, -⟩
    · exact tells_throw _ ⟨error, rfl, caught, List.append_nil _⟩
    · exact absurd kind caught

theorem completeProgram_tells {left : Nat} {early : List (Attempt runtime)}
    {feedback : List Char} {last : String}
    (rejected : Rejected writers revision brief tenantSlug early feedback last)
    (spent : early.length + left = 1 + maxSynthesisRetries) :
    Tells (fun outcome notes =>
        Concluded writers revision brief tenantSlug outcome (early ++ notes))
      (completeProgram writers llm revision brief tenantSlug left feedback last) := by
  induction left generalizing early feedback last with
  | zero =>
      refine tells_throw _ ?_
      rw [List.append_nil]
      exact .escalated rejected spent
  | succ left induction =>
      apply tells_bind (tryProgram_tells feedback)
      case failed =>
        rintro failure notes ⟨error, rfl, kind, rfl⟩
        exact .raised error rejected (by omega) kind
      rintro tried notes ⟨answer, rfl, how⟩
      cases tried with
      | ok config =>
          obtain ⟨personas, rfl, made⟩ := how
          refine tells_pure config ?_
          rw [List.append_nil]
          exact .accepted personas config rejected (by omega) (assembled_of_assemble made)
      | error text =>
          have further := induction (rejected.more _ text rfl how) (by
            rw [List.length_append, List.length_singleton]
            omega)
          apply further.mono
          intro outcome later concluded
          rwa [List.append_assoc] at concluded

/-- The market research that a prompt shows, in an envelope as it must be. -/
def Enveloped (platform : Platform) (research : Option String) (shown : Option (List Char)) : Prop :=
  match research.filter (· ≠ "") with
  | none => shown = none
  | some text => ∃ envelope, wrap platform text.toList "research_note" = .ok envelope ∧
      shown = some envelope.text

theorem wrapResearch_ok (research : Option String) :
    ∃ shown, @wrapResearch runtime research = .ok shown ∧
      Enveloped runtime.platform research shown := by
  unfold wrapResearch Enveloped
  cases research.filter (· ≠ "") with
  | none => exact ⟨none, rfl, rfl⟩
  | some text =>
      refine ⟨_, rfl, _, rfl, rfl⟩

theorem completeProgram_concludes {outcome : Except Failure (TenantConfig runtime)}
    {attempts : List (Attempt runtime)}
    (ran : completeProgram writers llm revision brief tenantSlug (1 + maxSynthesisRetries) [] "" [] =
      (outcome, attempts)) :
    Concluded writers revision brief tenantSlug outcome attempts :=
  (completeProgram_tells .start (Nat.zero_add _)).told_first ran

variable (writers llm)

/-- A synthesis and a revision end with a program that is valid for the brief, with an
escalation after three rejected attempts, or with an exception that is no validation error;
a revision keeps the brief and shows the market research in an envelope. -/
theorem synthesis_concludes :
    (∀ brief tenantSlug outcome attempts,
      synthesize writers llm brief tenantSlug [] = (outcome, attempts) →
      Concluded writers none brief tenantSlug outcome attempts) ∧
    ∀ config evidence research outcome attempts,
      revise writers llm config evidence research [] = (outcome, attempts) →
      ∃ revision, revision.program = writers.unsorted config.1.personas.1 ∧
        revision.evidence = evidence ∧
        Enveloped runtime.platform research revision.marketResearch ∧
        Concluded writers (some revision) config.1.brief config.1.tenant.1 outcome attempts := by
  constructor
  · intro brief tenantSlug outcome attempts ran
    exact completeProgram_concludes ran
  · intro config evidence research outcome attempts ran
    obtain ⟨shown, wrapped, enveloped⟩ := @wrapResearch_ok runtime research
    unfold revise at ran
    rw [wrapped] at ran
    exact ⟨⟨writers.unsorted config.1.personas.1, evidence, shown⟩, rfl, rfl, enveloped,
      completeProgram_concludes ran⟩

end Completion

section Template

variable {runtime : Runtime} (writers : Writers runtime) (brief : Brief runtime)

theorem templateDescription_long : 20 ≤ (templateDescription brief).length := by
  obtain ⟨chars, spelled, long⟩ : ∃ chars, "Derived from the Brief; refine before launch. Find: " =
      String.ofList chars ∧ 20 ≤ chars.length := ⟨_, rfl, by decide⟩
  unfold templateDescription
  rw [spelled, String.toList_ofList, String.length_ofList, List.length_take, List.length_append]
  omega

theorem templateValueProp_long : 10 ≤ (templateValueProp brief).length ↔
    10 ≤ (Platform.strip brief.aboutUs.1.1.whatWeDo.1.toList).length := by
  unfold templateValueProp
  rw [String.length_ofList, List.length_take]
  omega

theorem longText_ok {least : Nat} {value : String} {read : LongText least} :
    (longText least).decode (.text value) = .ok read ↔ value = read.1 :=
  Codec.check_ok.trans ⟨fun same => Except.ok.inj same, fun same => congrArg Except.ok same⟩

theorem pattern_ok {others : List Char} {value : String} {read : Matching others} :
    (pattern others).decode (.text value) = .ok read ↔ value = read.1 :=
  Codec.check_ok.trans ⟨fun same => Except.ok.inj same, fun same => congrArg Except.ok same⟩

/-- Valid personas make a program where their budgets and ids allow it. -/
theorem assemble_holds {tenantSlug : String} {personas : List (PersonaSpec runtime.platform)}
    (slug : matching ['_', '-'] tenantSlug = true) (filled : 0 < personas.length)
    (budget : totalBudget personas ≤ brief.budgets.monthlyProspects.1)
    (distinct : (personas.map fun persona => persona.id.1).Nodup) :
    ∃ config, assemble writers brief tenantSlug personas = .ok config := by
  have named : (pattern ['_', '-']).decode (.text tenantSlug) = .ok ⟨tenantSlug, slug⟩ :=
    pattern_ok.2 rfl
  unfold assemble
  rw [dif_pos filled, named]
  exact ⟨_, dif_pos ⟨budget, distinct⟩⟩

theorem templatePersona_ok {persona : PersonaSpec runtime.platform}
    (made : templatePersona brief = .ok persona) : 10 ≤ (templateValueProp brief).length := by
  unfold templatePersona at made
  cases read : both
      (under (.key "description") ((longText 20).decode (.text (templateDescription brief))))
      (under (.key "value_prop") ((longText 10).decode (.text (templateValueProp brief)))) with
  | error issues =>
      rw [read] at made
      cases made
  | ok pair =>
      rw [longText_ok.1 (under_ok.1 (both_ok.1 read).2)]
      exact pair.2.2

theorem templatePersona_holds (long : 10 ≤ (templateValueProp brief).length) :
    ∃ persona : PersonaSpec runtime.platform, templatePersona brief = .ok persona ∧
      totalBudget [persona] = (templateBudget brief).1 := by
  have described : (longText 20).decode (.text (templateDescription brief)) =
      .ok ⟨templateDescription brief, templateDescription_long brief⟩ := longText_ok.2 rfl
  have offered : (longText 10).decode (.text (templateValueProp brief)) =
      .ok ⟨templateValueProp brief, long⟩ := longText_ok.2 rfl
  unfold templatePersona
  rw [described, offered]
  refine ⟨_, rfl, ?_⟩
  exact Int.add_zero _

/-- The template is a valid program exactly where the slug is one and what is said of the
product is long enough without the space around it. -/
theorem template_program_iff (tenantSlug : String) :
    (∃ config, templateProgram writers brief tenantSlug = .ok config) ↔
      matching ['_', '-'] tenantSlug = true ∧
        10 ≤ (Platform.strip brief.aboutUs.1.1.whatWeDo.1.toList).length := by
  rw [← templateValueProp_long]
  unfold templateProgram
  constructor
  · rintro ⟨config, made⟩
    cases persona : templatePersona brief with
    | error issues =>
        rw [persona] at made
        cases made
    | ok found =>
        rw [persona] at made
        have same := (assembled_of_assemble made).same_tenant
        exact ⟨same ▸ config.1.tenant.2, templatePersona_ok brief persona⟩
  · rintro ⟨slug, long⟩
    obtain ⟨persona, made, spent⟩ := templatePersona_holds brief long
    rw [made]
    have low := brief.budgets.monthlyProspects.2.1
    have budget : totalBudget [persona] ≤ brief.budgets.monthlyProspects.1 := by
      rw [spent]
      unfold templateBudget
      dsimp only
      omega
    exact assemble_holds writers brief slug Nat.one_pos budget (List.nodup_singleton _)

end Template

section Sample

def acmeTenant : TenantConfig plainRuntime :=
  (loadTenant plainCoercions plain_core acmeFiles "acme.yaml").toOption.get (by decide +kernel)

def plainWriters : Writers plainRuntime where
  sorted _ := []
  unsorted _ := []
  issues issues := s!"{issues.length} validation errors"

/-- A model that proposes no persona at first. -/
def learningSynthesizer : SynthesisModel plainRuntime := fun past _ =>
  .ok (if past.isEmpty then [] else acmeTenant.1.personas.1)

theorem second_program_accepted : ∃ config attempts,
    synthesize plainWriters learningSynthesizer acmeTenant.1.brief "acme" [] =
      (.ok config, attempts) ∧
    Concluded plainWriters none acmeTenant.1.brief "acme" (.ok config) attempts ∧
    attempts.length = 2 := by
  have counted : (synthesize plainWriters learningSynthesizer acmeTenant.1.brief "acme"
      []).1.toOption.isSome = true ∧
      (synthesize plainWriters learningSynthesizer acmeTenant.1.brief "acme" []).2.length = 2 := by
    decide +kernel
  have concludes := (synthesis_concludes plainWriters learningSynthesizer).1 acmeTenant.1.brief
    "acme"
  generalize synthesize plainWriters learningSynthesizer acmeTenant.1.brief "acme" [] = ran
    at counted concludes ⊢
  obtain ⟨outcome, attempts⟩ := ran
  cases outcome with
  | error failure => cases counted.1
  | ok config => exact ⟨config, attempts, rfl, concludes _ _ rfl, counted.2⟩

end Sample

end OpenReachout.Config
