import OpenReachout.Outreach.Sending
import OpenReachout.Properties.Delivery

/-!
# The claim of a delivery

A delivery is a claim and what follows on its ruling. Whatever observes it, one that
returns has found its touch sent or has come through both.
-/

namespace OpenReachout

open Relational Relational.Abstraction Relational.Program Text

set_option autoImplicit false

section Parts

variable (site : Deployment) (touchId : Uuid)

/-- A delivery up to the ruling on its claim. -/
def deliverClaim (ctx : ValidatorContext) : Prog (DraftTouch × ClaimResult) := do
  let _ ← Program.query fun _ db => (db.touches.lookup touchId).map Touch.status
  let _ ← Program.query fun _ db => (joinedTouch db touchId).map fun row => row.2.2
  match ← loadGateDraft touchId ctx with
  | none => raise .permanentJobError "touch not loadable as drafted"
  | some gateDraft =>
      let result ← claim site.runtime (pgGateStore site.platform) gateDraft
      pure (gateDraft, result)

/-- What follows on the ruling. -/
def deliverRuled (gateDraft : DraftTouch) : ClaimResult → Prog Unit
  | .refused refusal =>
      if refusal.terminal then
        releaseRefused touchId refusal
      else
        raise .runtimeError ("retryable refusal: " ++ refusal.reason.text)
  | .claimed touch => do
      let providerRef ← site.provider.send touch gateDraft.draft.subject gateDraft.draft.body
      dispatch site touchId gateDraft providerRef

/-- What a delivery that returns has come through. -/
inductive CameThrough {Spot : Type} (seen : Observation Prog Exc Spot) (a c : Spot) : Prop where
  | ended (status : Option TouchStatus)
      (read : seen.runs (Program.query fun _ db => (db.touches.lookup touchId).map Touch.status :
        Prog (Option TouchStatus)) a (.ok status) c)
  | ruled (ctx : ValidatorContext) (gateDraft : DraftTouch) (result : ClaimResult) (b : Spot)
      (claims : seen.runs (deliverClaim site touchId ctx) a (.ok (gateDraft, result)) b)
      (follows : seen.runs (deliverRuled site touchId gateDraft result) b (.ok ()) c)

variable {site touchId}

theorem runs_deliver {Spot : Type} {seen : Observation Prog Exc Spot} {a c : Spot}
    (run : seen.runs (deliver site touchId) a (.ok ()) c) : CameThrough site touchId seen a c := by
  have thrown : ∀ {Value : Type} {error : Exc} {value : Value} {a b : Spot},
      ¬ seen.runs (throw error : Prog Value) a (.ok value) b := by
    intro Value error value a b raised
    cases ((seen.runs_throw error a b _).1 raised).1
  unfold deliver at run
  rw [seen.runs_bind_ok] at run
  obtain ⟨status, first, read, run⟩ := run
  split_ifs at run with ended drafted
  · obtain ⟨_, rfl⟩ := (seen.runs_pure _ _ _ _).1 run
    exact .ended status read
  · exact absurd run thrown
  rw [seen.runs_bind_ok] at run
  obtain ⟨tenant, second, named, run⟩ := run
  split at run
  · exact absurd run thrown
  case h_2 ctx _ =>
    rw [seen.runs_bind_ok] at run
    obtain ⟨loaded, third, load, run⟩ := run
    cases loaded with
    | none => exact absurd run thrown
    | some draft =>
        dsimp only at run
        rw [seen.runs_bind_ok] at run
        obtain ⟨result, fourth, claims, run⟩ := run
        refine .ruled ctx draft result fourth ?_ ?_
        · unfold deliverClaim
          simp only [seen.runs_bind_ok]
          refine ⟨status, first, read, tenant, second, named, some draft, third, load, ?_⟩
          dsimp only
          rw [seen.runs_bind_ok]
          exact ⟨result, fourth, claims, (seen.runs_pure _ _ _ _).2 ⟨rfl, rfl⟩⟩
        · cases result <;> exact run

end Parts

section Claims

variable {site : Deployment} {vouch : Mark → Ledger → Prop} {op : Op} {held : List RowLock}
variable {touchId : Uuid}

/-- What has been ruled, of the touch as it is committed on. -/
structure RuledOn (vouch : Mark → Ledger → Prop) (touchId : Uuid) (draft : DraftTouch)
    (start : Ledger) (result : ClaimResult) (before after : Ledger) : Prop where
  fits : ∃ item lead, Fits touchId draft before item lead
  ruled : Ruled vouch draft start result before after

theorem brings_deliverClaim (ctx : ValidatorContext) :
    (outreach site vouch op).Brings held (deliverClaim site touchId ctx)
      fun start ruled before after => RuledOn vouch touchId ruled.1 start ruled.2 before after := by
  unfold deliverClaim
  refine brings_after (quiet_query _) fun _ => brings_after (quiet_query _) fun _ => ?_
  refine brings_seen (brings_loadGateDraft touchId ctx) fun loaded => ?_
  cases loaded with
  | none => exact ensures_throw _
  | some draft =>
      refine (brings_map (brings_claim site.runtime) fun result => (draft, result)).mono ?_
      intro start ruled before after claims found
      obtain ⟨result, rfl, ruling⟩ := claims
      exact ⟨found draft rfl, ruling⟩

theorem takes_deliverClaim (ctx : ValidatorContext) :
    (outreach site vouch op).Takes (deliverClaim site touchId ctx)
      fun ruled => locksOf ruled.1 ruled.2 := by
  intro a b ruled exec
  unfold deliverClaim at exec
  simp only [exec_bind_ok] at exec
  obtain ⟨_, first, _, _, second, _, loaded, third, _, exec⟩ := exec
  cases loaded with
  | none => cases exec.1
  | some draft =>
      dsimp only at exec
      rw [exec_bind_ok] at exec
      obtain ⟨result, last, claims, same, rfl⟩ := exec
      rw [Except.ok.inj same]
      exact takes_claim site.runtime third b result claims

/-- A transaction goes on from the ruling with what the claim has locked. -/
theorem standing_ruled {ctx : ValidatorContext} {a b : Spot} {draft : DraftTouch}
    {result : ClaimResult} (standing : (outreach site vouch op).Standing held a)
    (exec : Exec (outreach site vouch op).rely (deliverClaim site touchId ctx) a
      (.ok (draft, result)) b) (clean : (outreach site vouch op).Clean b.txn) :
    (outreach site vouch op).Standing (locksOf draft result) b := by
  have stands : (outreach site vouch op).Standing held b := standing_of_exec exec standing
    fun db later stable =>
      later_ruled (brings_deliverClaim ctx a b _ standing exec clean db later stable).ruled
  exact { stands with holding := takes_deliverClaim ctx a b _ exec }

theorem brings_deliverRuled {draft : DraftTouch} {claimed : ClaimedTouch}
    (named : draft.touchId = touchId) :
    (outreach site vouch op).Brings (locksOf draft (.claimed claimed))
      (deliverRuled site touchId draft (.claimed claimed)) fun _ _ before after =>
        Later before after := by
  have touchLocked : RowLock.touch touchId ∈ locksOf draft (.claimed claimed) := by
    rw [← named]
    exact List.mem_cons_self
  have entityLocked : draft.profile ≠ .reply →
      RowLock.entity draft.entityId ∈ locksOf draft (.claimed claimed) :=
    fun budgeted => entity_locked budgeted
  unfold deliverRuled
  refine brings_after (quiet_send _ _ _ _) fun ref => ?_
  exact (brings_dispatch ref touchLocked entityLocked).mono fun _ _ _ _ sent => sent.1

end Claims

end OpenReachout
