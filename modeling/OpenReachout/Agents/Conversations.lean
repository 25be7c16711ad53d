import OpenReachout.Agents.Composer

/-!
# What a conversation comes to

What the model has been asked, and has answered, by the time a composer returns.
-/

namespace OpenReachout

open Relational Text Agents

set_option autoImplicit false

section Talks

variable {Value Other : Type} {past later : List Exchange}

theorem talk_bind (first : Talk Value) (rest : Value → Talk Other) (past later : List Exchange)
    (outcome : Except Exc Other) :
    (first >>= rest) past = (outcome, later) ↔
      (∃ value middle, first past = (.ok value, middle) ∧ rest value middle = (outcome, later)) ∨
        ∃ error, outcome = .error error ∧ first past = (.error error, later) :=
  (Stateful.observation (List Exchange) Exc).runs_bind first rest past later outcome

theorem talk_bind_ok {first : Talk Value} {rest : Value → Talk Other} {other : Other}
    (talked : (first >>= rest) past = (.ok other, later)) :
    ∃ value middle, first past = (.ok value, middle) ∧ rest value middle = (.ok other, later) := by
  rcases (talk_bind first rest past later (.ok other)).1 talked with found | ⟨error, same, _⟩
  · exact found
  · cases same

theorem talk_ofExcept {result outcome : Except Exc Value}
    (talked : (MonadExcept.ofExcept result : Talk Value) past = (outcome, later)) :
    result = outcome ∧ later = past := by
  cases result with
  | error error =>
      cases talked
      exact ⟨rfl, rfl⟩
  | ok value =>
      cases talked
      exact ⟨rfl, rfl⟩

theorem talk_complete {answer : List Exchange → Except Exc Value} {exchange : Value → Exchange}
    {output : Value} (talked : Agents.complete answer exchange past = (.ok output, later)) :
    later = past ++ [exchange output] := by
  unfold Agents.complete at talked
  split at talked
  · cases talked
    rfl
  · cases talked

theorem talk_complete_error {answer : List Exchange → Except Exc Value}
    {exchange : Value → Exchange} {error : Exc}
    (talked : Agents.complete answer exchange past = (.error error, later)) : later = past := by
  unfold Agents.complete at talked
  split at talked
  · cases talked
  · cases talked
    rfl

end Talks

section Composers

/-- The model has judged the draft grounded, and suspects nothing. -/
def JudgedGrounded (exchanges : List Exchange) (draft : Draft) : Prop :=
  ∃ prompt judgement, Exchange.groundedness prompt judgement ∈ exchanges ∧
    judgement.grounded = true ∧ judgement.injectionSuspected = false ∧
    prompt.subject = draft.subject ∧ prompt.body = draft.body

variable {runtime : Runtime} {llm : Backend} {past later : List Exchange}

theorem grounded_of_audit {draft : Draft} {output : ComposeOutput} {blocks : List Char}
    (talked : Agents.audit llm draft output blocks past = (.ok true, later)) :
    JudgedGrounded later draft := by
  unfold Agents.audit at talked
  obtain ⟨judgement, middle, asked, judged⟩ := talk_bind_ok talked
  have heard := talk_complete asked
  cases grounded : judgement.grounded && !judgement.injectionSuspected with
  | false =>
      rw [grounded] at judged
      cases judged
  | true =>
      rw [grounded] at judged
      cases judged
      simp only [Bool.and_eq_true, Bool.not_eq_true'] at grounded
      rw [heard]
      exact ⟨_, judgement, List.mem_append_right _ (List.mem_singleton_self _), grounded.1,
        grounded.2, rfl, rfl⟩

/-- A draft that `compose` returns has passed its validators and the audit, and carries
its own hash. -/
structure Accepted (runtime : Runtime) (inputs : Agents.ComposeInputs) (exchanges : List Exchange)
    (result : Agents.ComposeResult) : Prop where
  grounded : JudgedGrounded exchanges result.draft
  stepIndex : result.draft.stepIndex = inputs.stepIndex
  valid : validate runtime result.draft inputs.validatorCtx = .ok []
  hash : result.contentSha256 = contentHash runtime.platform result.draft
  stamped : result.groundednessPassedHash = some result.contentSha256

theorem accepted_of_attempts {inputs : Agents.ComposeInputs} {resolved : Variables.ResolvedPrompt}
    {blocks : List Char} {known : List (List Char)} {left : Nat} {feedback : List Char}
    {result : Agents.ComposeResult}
    (talked : composeAttempts runtime llm inputs resolved blocks known left feedback past =
      (.ok result, later)) : Accepted runtime inputs later result := by
  induction left generalizing past feedback with
  | zero => cases talked
  | succ left induction =>
      unfold composeAttempts at talked
      obtain ⟨output, middle, _, answered⟩ := talk_bind_ok talked
      split at answered
      · cases answered
      · obtain ⟨findings, found, checked, drafted⟩ := talk_bind_ok answered
        obtain ⟨valid, rfl⟩ := talk_ofExcept checked
        dsimp only at drafted
        split at drafted
        · next clean =>
            obtain ⟨grounded, audited, judged, returned⟩ := talk_bind_ok drafted
            cases grounded with
            | false => cases returned
            | true =>
                cases returned
                have none_ : findings = [] := by
                  unfold problems at clean
                  dsimp only at clean
                  rw [List.isEmpty_iff, List.append_eq_nil_iff, List.map_eq_nil_iff] at clean
                  exact clean.2
                rw [none_] at valid
                exact ⟨grounded_of_audit judged, rfl, valid, rfl, rfl⟩
        · exact induction drafted

theorem accepted_of_compose {suspects : List Char → Bool} {inputs : Agents.ComposeInputs}
    {result : Agents.ComposeResult}
    (talked : Agents.compose runtime llm suspects inputs past = (.ok result, later)) :
    Accepted runtime inputs later result := by
  unfold Agents.compose at talked
  obtain ⟨resolved, middle, _, rest⟩ := talk_bind_ok talked
  split at rest
  · cases rest
  · obtain ⟨evidence, found, _, attempts⟩ := talk_bind_ok rest
    exact accepted_of_attempts attempts

theorem replies_of_attempts {inputs : ReplyInputs} {block : List Char} {left : Nat}
    {wrong : List (List Char)} {feedback : List Char} {outcome : Except Exc (Draft × String)}
    (talked : replyAttempts runtime llm inputs block left wrong feedback past = (outcome, later)) :
    ∃ more, later = past ++ more ∧ ∀ exchange ∈ more, ∃ prompt output,
      exchange = .composeReply prompt output := by
  induction left generalizing past wrong feedback with
  | zero =>
      cases talked
      exact ⟨[], by simp, fun _ member => absurd member List.not_mem_nil⟩
  | succ left induction =>
      unfold replyAttempts at talked
      rcases (talk_bind _ _ _ _ _).1 talked with ⟨output, middle, asked, answered⟩ |
        ⟨error, _, asked⟩
      · obtain rfl := talk_complete asked
        have one : ∀ {final : List Exchange}, final = (past ++ [Exchange.composeReply
            { faqBlock := faqBlock inputs.faq, counterBlock := counterBlock inputs
              trustedContext := inputs.trustedContext, replyBlock := block, feedback } output]) →
            ∃ more, final = past ++ more ∧ ∀ exchange ∈ more, ∃ prompt output,
              exchange = .composeReply prompt output := by
          rintro final rfl
          refine ⟨_, rfl, fun exchange member => ?_⟩
          rw [List.mem_singleton.1 member]
          exact ⟨_, _, rfl⟩
        split at answered
        · cases answered
          exact one rfl
        · rcases (talk_bind _ _ _ _ _).1 answered with ⟨findings, found, checked, drafted⟩ |
            ⟨error, _, checked⟩
          · obtain ⟨_, rfl⟩ := talk_ofExcept checked
            split at drafted
            · cases drafted
              exact one rfl
            · obtain ⟨more, rfl, each⟩ := induction drafted
              obtain ⟨first, same, single⟩ := one rfl
              refine ⟨first ++ more, by rw [same, List.append_assoc], fun exchange member => ?_⟩
              rcases List.mem_append.1 member with early | late
              · exact single exchange early
              · exact each exchange late
          · exact one (talk_ofExcept checked).2
      · obtain rfl := talk_complete_error asked
        exact ⟨[], by simp, fun _ member => absurd member List.not_mem_nil⟩

/-- The composer of replies asks the model for drafts, and for nothing else. -/
theorem replies_unaudited {inputs : ReplyInputs} {outcome : Except Exc (Draft × String)}
    (talked : composeReply runtime llm inputs past = (outcome, later)) :
    ∃ more, later = past ++ more ∧ ∀ exchange ∈ more, ∃ prompt output,
      exchange = .composeReply prompt output := by
  unfold composeReply at talked
  rcases (talk_bind _ _ _ _ _).1 talked with
    ⟨envelope, middle, wrapped, attempts⟩ | ⟨error, _, wrapped⟩
  · obtain ⟨_, rfl⟩ := talk_ofExcept wrapped
    exact replies_of_attempts attempts
  · obtain rfl := (talk_ofExcept wrapped).2
    exact ⟨[], by simp, fun _ member => absurd member List.not_mem_nil⟩

end Composers

end OpenReachout
