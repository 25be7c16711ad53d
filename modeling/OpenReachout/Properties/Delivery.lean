import OpenReachout.Core.Worker
import OpenReachout.Properties.ClaimGates

/-!
# The deliver handler, call by call

Where in the handler a message leaves the process, and what has happened in the
transaction by then.
-/

namespace OpenReachout

open Relational Relational.Program Text

set_option autoImplicit false

abbrev Spot := Point Database RowLock Mark Call

/-- The recipient, the subject and the body of a message that leaves the process. -/
def Call.outgoing : Call → Option (String × List Char × List Char)
  | .send touch subject body => some (touch.recipient, subject, body)
  | .transport _ message => some (message.recipient, message.subject, message.content)
  | _ => none

/-- No message leaves the process. -/
def Silent {Value : Type} (program : Prog Value) : Prop :=
  program.Every (fun _ _ => True) fun call => call.outgoing = none

section Silent

variable (deployment : Deployment) {rely : Database → Database → Prop}

theorem silent_asks {Value : Type} {program : Prog Value} (silent : Silent program)
    {a b : Spot} {call : Call} {message : String × List Char × List Char}
    (asks : Asks rely program a call b) (out : call.outgoing = some message) : False := by
  have none := asks_every silent asks
  rw [out] at none
  exact absurd none (by simp)

theorem silent_capacity (platform : Platform) (touch : DraftTouch) (results : Payload) :
    Silent (capacityGates (pgGateStore platform) touch results) := by
  unfold Silent capacityGates
  repeat' first
    | exact every_pure _
    | apply every_bind
    | apply every_forM
    | (apply every_perform; trivial)
    | (apply every_ask; rfl)
    | exact every_throw _
    | intro _
    | dsimp only
    | split

theorem silent_budget (platform : Platform) (touch : DraftTouch) (results : Payload) :
    Silent (budgetGate (pgGateStore platform) touch results) := by
  unfold Silent budgetGate
  repeat' first
    | exact every_pure _
    | exact silent_capacity _ _ _
    | apply every_bind
    | (apply every_perform; trivial)
    | (apply every_ask; rfl)
    | intro _
    | split

theorem silent_contact (platform : Platform) (touch : DraftTouch) (results : Payload) :
    Silent (contactGates (pgGateStore platform) touch results) := by
  unfold Silent contactGates
  repeat' first
    | exact every_pure _
    | exact silent_budget _ _ _
    | exact silent_capacity _ _ _
    | apply every_bind
    | apply every_ofExcept
    | (apply every_perform; trivial)
    | (apply every_ask; rfl)
    | intro _
    | dsimp only
    | split

theorem silent_claim (runtime : Runtime) (platform : Platform) (touch : DraftTouch) :
    Silent (claim runtime (pgGateStore platform) touch) := by
  apply every_handle
  · unfold gates
    apply every_bind (every_perform trivial)
    intro halted
    by_cases stopped : halted ≠ []
    · rw [if_pos stopped]
      exact every_pure _
    · rw [if_neg stopped]
      by_cases changed : contentHash runtime.platform touch.draft ≠ touch.storedContentHash
      · rw [if_pos changed]
        exact every_pure _
      · rw [if_neg changed]
        cases validate runtime touch.draft touch.validatorCtx with
        | error error => exact every_throw error
        | ok findings =>
            dsimp only
            split_ifs
            · exact every_pure _
            · exact every_pure _
            · exact silent_contact platform touch _
  · exact fun error => every_pure _

theorem silent_load (touchId : Uuid) (ctx : ValidatorContext) :
    Silent (loadGateDraft touchId ctx) := by
  unfold Silent loadGateDraft
  repeat' first
    | exact every_pure _
    | exact every_throw _
    | apply every_bind
    | (apply every_perform; trivial)
    | intro _
    | dsimp only
    | split

theorem silent_dispatch (touchId : Uuid) (gateDraft : DraftTouch) (providerRef : Payload) :
    Silent (dispatch deployment touchId gateDraft providerRef) := by
  unfold Silent dispatch planNextStep
  repeat' first
    | exact every_pure _
    | exact every_throw _
    | apply every_bind
    | (apply every_perform; trivial)
    | (apply every_ask; rfl)
    | intro _
    | dsimp only
    | split

theorem silent_release (touchId : Uuid) (refusal : Refusal) :
    Silent (releaseRefused touchId refusal) := by
  unfold Silent releaseRefused
  repeat' first
    | apply every_bind
    | (apply every_perform; trivial)
    | intro _

theorem build_message_copies {provider : SmtpSendingProvider} {conn : MailboxConn}
    {touch : ClaimedTouch} {subject body : List Char} {message : EmailMessage}
    (built : buildMessage provider conn touch subject body = .ok message) :
    (message.recipient, message.subject, message.content) =
      (touch.recipient, subject, body) := by
  unfold buildMessage at built
  dsimp only at built
  by_cases bad : (String.ofList (rpartition '@' touch.mailbox.toList).2 = "" ||
      !touch.mailbox.toList.contains '@') = true
  · rw [if_pos bad] at built
    exact absurd built (by simp)
  · rw [if_neg bad] at built
    rw [← Except.ok.inj built]

/-- A provider hands out what it was given, before anything else. -/
theorem provider_asks {provider : Provider} {touch : ClaimedTouch} {subject body : List Char}
    {a b : Spot} {call : Call} {message : String × List Char × List Char}
    (asks : Asks rely (provider.send touch subject body) a call b)
    (out : call.outgoing = some message) : message = (touch.recipient, subject, body) ∧ b = a := by
  cases provider with
  | remote =>
      simp only [Provider.send, attempt, asks_bind] at asks
      rcases asks with asks | ⟨answer, middle, _, asks⟩
      · simp only [ask, Asks, exists_false, or_false] at asks
        obtain ⟨rfl, rfl⟩ := asks
        exact ⟨(Option.some.inj out).symm, rfl⟩
      · exact (silent_asks (every_ofExcept _) asks out).elim
  | smtp provider =>
      simp only [Provider.send, SmtpSendingProvider.send] at asks
      cases found : provider.mailboxes.lookup touch.mailbox with
      | none =>
          rw [found] at asks
          exact (silent_asks (every_throw _) asks out).elim
      | some conn =>
          rw [found] at asks
          simp only [asks_bind] at asks
          rcases asks with asks | ⟨mime, middle, built, asks⟩
          · exact (silent_asks (every_ofExcept _) asks out).elim
          · cases assembled : buildMessage provider conn touch subject body with
            | error error =>
                rw [assembled] at built
                exact absurd built.1 (by simp)
            | ok whole =>
                rw [assembled] at built
                obtain ⟨same, rfl⟩ := built
                obtain rfl := Except.ok.inj same
                simp only [attempt, asks_bind] at asks
                rcases asks with (asks | ⟨answer, later, _, asks⟩) | ⟨_, later, _, asks⟩
                · simp only [ask, Asks, exists_false, or_false] at asks
                  obtain ⟨rfl, rfl⟩ := asks
                  refine ⟨?_, rfl⟩
                  have copied := build_message_copies assembled
                  exact (Option.some.inj out).symm.trans copied
                · exact (silent_asks (every_ofExcept _) asks out).elim
                · exact (silent_asks (every_pure _) asks out).elim

end Silent

section Deliver

variable (deployment : Deployment) (rely : Database → Database → Prop)

/-- The handler between its start at `a` and the call of the provider at `b`. -/
inductive Delivering (touchId : Uuid) (a b : Spot) (gateDraft : DraftTouch)
    (claimed : ClaimedTouch) : Prop where
  | intro (ctx : ValidatorContext) (tenant : Option String) (first second loaded : Spot)
      (status : Exec rely (Program.query fun _ db => (db.touches.lookup touchId).map Touch.status :
        Prog (Option TouchStatus)) a (.ok (some .drafted)) first)
      (named : Exec rely (Program.query fun _ db => (joinedTouch db touchId).map fun row =>
        row.2.2 : Prog (Option String)) first (.ok tenant) second)
      (load : Exec rely (loadGateDraft touchId ctx) second (.ok (some gateDraft)) loaded)
      (claim : Exec rely (claim deployment.runtime (pgGateStore deployment.platform) gateDraft)
        loaded (.ok (.claimed claimed)) b)

variable {deployment rely}

/-- A message leaves the handler only at the provider, with a claimed touch. -/
theorem deliver_asks {touchId : Uuid} {a b : Spot} {call : Call}
    {message : String × List Char × List Char}
    (asks : Asks rely (deliver deployment touchId) a call b)
    (out : call.outgoing = some message) :
    ∃ gateDraft claimed, Delivering deployment rely touchId a b gateDraft claimed ∧
      message = (claimed.recipient, gateDraft.draft.subject, gateDraft.draft.body) := by
  unfold deliver at asks
  rw [asks_bind] at asks
  rcases asks with asks | ⟨status, first, exec_status, asks⟩
  · exact (silent_asks (every_perform trivial) asks out).elim
  split_ifs at asks with ended drafted
  · exact (silent_asks (every_pure _) asks out).elim
  · exact (silent_asks (every_throw _) asks out).elim
  rw [not_not] at drafted
  subst drafted
  rw [asks_bind] at asks
  rcases asks with asks | ⟨tenant, second, named, asks⟩
  · exact (silent_asks (every_perform trivial) asks out).elim
  split at asks
  · exact (silent_asks (every_throw _) asks out).elim
  case h_2 ctx _ =>
    rw [asks_bind] at asks
    rcases asks with asks | ⟨loaded_draft, loaded, load, asks⟩
    · exact (silent_asks (silent_load touchId ctx) asks out).elim
    cases loaded_draft with
    | none => exact (silent_asks (every_throw _) asks out).elim
    | some gateDraft =>
        simp only at asks
        rw [asks_bind] at asks
        rcases asks with asks | ⟨result, middle, claim, asks⟩
        · exact (silent_asks (silent_claim _ _ _) asks out).elim
        cases result with
        | refused refusal =>
            simp only at asks
            split_ifs at asks with terminal
            · exact (silent_asks (silent_release touchId refusal) asks out).elim
            · exact (silent_asks (every_throw _) asks out).elim
        | claimed claimed =>
            simp only at asks
            rw [asks_bind] at asks
            rcases asks with asks | ⟨providerRef, last, _, asks⟩
            · obtain ⟨same, rfl⟩ := provider_asks asks out
              exact ⟨gateDraft, claimed,
                .intro ctx tenant first second loaded exec_status named load claim, same⟩
            · exact (silent_asks (silent_dispatch deployment touchId gateDraft providerRef) asks
                out).elim

end Deliver

end OpenReachout
