import OpenReachout.Core.Lifecycle
import Mathlib.Algebra.Order.Field.Rat
import Mathlib.Tactic.Linarith
import Mathlib.Tactic.Positivity

/-!
# The bandit

`stats/bandit.py`, and the global rate of `stats/persistence.py`, over the rationals:
how `select` comes to an arm. The draws of `betavariate` are a parameter.
-/

namespace OpenReachout

open Relational

set_option autoImplicit false

/-- `KAPPA` -/
def kappa : Rat := 20

structure VariantArm where
  variantId : String
  stats : VariantStats := {}
  attributes : List (String × String) := []

/-- `VariantArm.posterior` -/
def VariantArm.posterior (arm : VariantArm) (prior : Rat) : Rat × Rat :=
  (kappa * prior + arm.stats.successes,
    kappa * (1 - prior) + ((arm.stats.trials : Rat) - arm.stats.successes))

abbrev AttributeEffects := List ((String × String) × Rat)

/-- `prior_for`: the mean of what the attributes have earned. -/
def priorFor (attributes : List (String × String)) (effects : AttributeEffects)
    (globalRate : Rat) : Rat :=
  if attributes.isEmpty then globalRate
  else (attributes.map fun pair => (effects.lookup pair).getD globalRate).sum /
    attributes.length

/-- `global_success_rate`, from the totals of the tenant. -/
def globalSuccessRate (successes trials : Nat) : Rat :=
  if trials < 50 then 5 / 100 else max ((successes : Rat) / trials) (5 / 1000)

section Selection

variable (effects : AttributeEffects) (globalRate : Rat)
variable (draw : Nat → Rat → Rat → Except Exc Rat)

/-- The loop of `select`: the best sample so far, and the arm it is of. -/
def bestSample : Nat → Option (Rat × VariantArm) → List VariantArm →
    Except Exc (Option (Rat × VariantArm))
  | _, best, [] => .ok best
  | count, best, arm :: rest => do
      let (alpha, beta) := arm.posterior (priorFor arm.attributes effects globalRate)
      let sample ← draw count alpha beta
      let better := best.all fun entry => decide (entry.1 < sample)
      bestSample (count + 1) (if better then some (sample, arm) else best) rest

/-- Thompson sampling over the arms that are not paused. -/
def select (arms : List VariantArm) : Except Exc VariantArm := do
  let live := arms.filter fun arm => !arm.stats.paused
  if live.isEmpty then
    throw ⟨.other, "no live variants to select from"⟩
  match ← bestSample effects globalRate draw 0 none live with
  | some (_, arm) => pure arm
  | none => throw ⟨.other, "AssertionError"⟩

variable {effects globalRate draw}

theorem bestSample_mem {count : Nat} {best : Option (Rat × VariantArm)} {arms : List VariantArm}
    {sample : Rat} {arm : VariantArm}
    (sampled : bestSample effects globalRate draw count best arms = .ok (some (sample, arm))) :
    best.map Prod.snd = some arm ∨ arm ∈ arms := by
  induction arms generalizing count best with
  | nil =>
      obtain rfl := Except.ok.inj sampled
      exact Or.inl rfl
  | cons first rest induction =>
      unfold bestSample at sampled
      dsimp only at sampled
      cases drawn : draw count (first.posterior (priorFor first.attributes effects globalRate)).1
          (first.posterior (priorFor first.attributes effects globalRate)).2 with
      | error error =>
          rw [drawn] at sampled
          cases sampled
      | ok value =>
          rw [drawn] at sampled
          rcases induction sampled with same | member
          · split_ifs at same
            · obtain rfl := Option.some.inj same
              exact Or.inr List.mem_cons_self
            · exact Or.inl same
          · exact Or.inr (List.mem_cons_of_mem _ member)

/-- What is selected is one of the arms, and not paused. -/
theorem select_live {arms : List VariantArm} {arm : VariantArm}
    (selected : select effects globalRate draw arms = .ok arm) :
    arm ∈ arms ∧ arm.stats.paused = false := by
  unfold select at selected
  dsimp only at selected
  split_ifs at selected with empty
  · cases selected
  · cases sampled : bestSample effects globalRate draw 0 none
        (arms.filter fun arm => !arm.stats.paused) with
    | error error =>
        rw [sampled] at selected
        cases selected
    | ok best =>
        rw [sampled] at selected
        cases best with
        | none => cases selected
        | some entry =>
            obtain rfl := Except.ok.inj selected
            have member := (bestSample_mem sampled).resolve_left nofun
            obtain ⟨inside, live⟩ := List.mem_filter.1 member
            exact ⟨inside, by simpa using live⟩

/-- Draws succeed where both parameters are positive. -/
def Samples (draw : Nat → Rat → Rat → Except Exc Rat) : Prop :=
  ∀ count alpha beta, 0 < alpha → 0 < beta → ∃ sample, draw count alpha beta = .ok sample

/-- Both parameters of the arm are positive. -/
def VariantArm.Proper (arm : VariantArm) (prior : Rat) : Prop :=
  0 < (arm.posterior prior).1 ∧ 0 < (arm.posterior prior).2

theorem bestSample_succeeds (samples : Samples draw) {arms : List VariantArm}
    (proper : ∀ arm ∈ arms, arm.Proper (priorFor arm.attributes effects globalRate)) (count : Nat)
    (best : Option (Rat × VariantArm)) (some_ : best.isSome = true ∨ arms ≠ []) :
    ∃ sample arm, bestSample effects globalRate draw count best arms = .ok (some (sample, arm)) := by
  induction arms generalizing count best with
  | nil =>
      obtain ⟨⟨sample, arm⟩, rfl⟩ := Option.isSome_iff_exists.1 (some_.resolve_right (by simp))
      exact ⟨sample, arm, rfl⟩
  | cons first rest induction =>
      obtain ⟨alpha, beta⟩ := proper first List.mem_cons_self
      obtain ⟨sample, drawn⟩ := samples count _ _ alpha beta
      have next : (if (best.all fun entry => decide (entry.1 < sample)) = true then
          some (sample, first) else best).isSome = true := by
        cases best with
        | none => rfl
        | some entry => split_ifs <;> rfl
      have further := induction (fun arm member => proper arm (List.mem_cons_of_mem _ member))
        (count + 1) _ (Or.inl next)
      unfold bestSample
      dsimp only
      rw [drawn]
      exact further

/-- With a live arm, and proper arms only, `select` comes to one. -/
theorem select_succeeds (samples : Samples draw) {arms : List VariantArm}
    (proper : ∀ arm ∈ arms, arm.Proper (priorFor arm.attributes effects globalRate))
    (live : ∃ arm ∈ arms, arm.stats.paused = false) :
    ∃ arm, select effects globalRate draw arms = .ok arm := by
  obtain ⟨arm, member, awake⟩ := live
  have inside : arm ∈ arms.filter fun arm => !arm.stats.paused :=
    List.mem_filter.2 ⟨member, by rw [awake]; rfl⟩
  have some_ : arms.filter (fun arm => !arm.stats.paused) ≠ [] := List.ne_nil_of_mem inside
  obtain ⟨sample, best, sampled⟩ := bestSample_succeeds samples
    (fun arm member => proper arm (List.mem_filter.1 member).1) 0 none (Or.inr some_)
  refine ⟨best, ?_⟩
  unfold select
  dsimp only
  rw [if_neg (by simpa using some_), sampled]
  rfl

end Selection

section Rates

variable {attributes : List (String × String)} {rate : Rat}

/-- Without effects every prior is the global rate. -/
theorem priorFor_nil : priorFor attributes [] rate = rate := by
  unfold priorFor
  by_cases empty : attributes.isEmpty = true
  · rw [if_pos empty]
  · rw [if_neg empty]
    have some_ : (attributes.length : Rat) ≠ 0 := by
      rw [Nat.cast_ne_zero]
      intro none
      rw [List.length_eq_zero_iff.1 none] at empty
      exact empty rfl
    have sums : (attributes.map fun pair =>
        (([] : AttributeEffects).lookup pair).getD rate).sum = attributes.length * rate := by
      simp
    rw [sums]
    exact mul_div_cancel_left₀ rate some_

theorem rate_pos (successes trials : Nat) : 0 < globalSuccessRate successes trials := by
  unfold globalSuccessRate
  split_ifs
  · norm_num
  · exact lt_max_of_lt_right (by norm_num)

/-- The rate is below one unless every trial of at least fifty was a success. -/
theorem rate_lt_one {successes trials : Nat} (short : 50 ≤ trials → successes < trials) :
    globalSuccessRate successes trials < 1 := by
  unfold globalSuccessRate
  split_ifs with few
  · norm_num
  · have many : 50 ≤ trials := by omega
    have below := short many
    refine max_lt ?_ (by norm_num)
    have positive : (0 : Rat) < trials := by
      rw [Nat.cast_pos]
      omega
    rw [div_lt_one positive]
    exact_mod_cast below

/-- An arm with no more successes than trials is proper for a rate strictly between. -/
theorem proper_of_le {arm : VariantArm} (counts : arm.stats.successes ≤ arm.stats.trials)
    (positive : 0 < rate) (below : rate < 1) : arm.Proper rate := by
  have successes : (0 : Rat) ≤ arm.stats.successes := Nat.cast_nonneg _
  have failures : (arm.stats.successes : Rat) ≤ arm.stats.trials := by exact_mod_cast counts
  unfold VariantArm.Proper VariantArm.posterior kappa
  constructor
  · dsimp only
    linarith
  · dsimp only
    linarith

end Rates

end OpenReachout
