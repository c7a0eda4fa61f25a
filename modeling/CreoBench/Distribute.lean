import CreoBench.Wire
import Mathlib.Algebra.BigOperators.Group.List.Basic
import Mathlib.Data.UInt

/-!
# Splitting the load over the generators

Counts are split as evenly as possible: every generator gets the quotient, and
the first ones get one more.  The shares add up to the whole.
-/

namespace CreoBench

structure LoadStepConfig where
  deadline : Binary64
  count : UInt32
  deriving DecidableEq

structure LoadProfileConfig where
  steps : List LoadStepConfig
  deriving DecidableEq

structure WarmupConfig where
  rate : UInt32
  duration : UInt32
  pause : UInt32
  deriving DecidableEq

def LoadProfile.ofConfig (config : LoadProfileConfig) : LoadProfile :=
  ⟨config.steps.map fun step => ⟨⟨step.deadline⟩, step.count⟩⟩

def Warmup.ofConfig (config : WarmupConfig) : Warmup :=
  ⟨config.rate, config.duration, config.pause⟩

def distributeCount (total : UInt32) (divisor : Nat) : List UInt32 :=
  let base := total / UInt32.ofNat divisor
  let remainder := total % UInt32.ofNat divisor
  (List.range divisor).map fun i => if UInt32.ofNat i < remainder then base + 1 else base

/-- Append a step with its share of the count to the steps of every generator. -/
def distributeStep (generatorSteps : List (List LoadStepConfig)) (step : LoadStepConfig)
    (numGenerators : Nat) : List (List LoadStepConfig) :=
  List.zipWith (fun steps count => steps ++ [⟨step.deadline, count⟩]) generatorSteps
    (distributeCount step.count numGenerators)

def distributeProfile (profile : LoadProfileConfig) (numGenerators : Nat) :
    List LoadProfileConfig :=
  (profile.steps.foldl (fun steps step => distributeStep steps step numGenerators)
    (List.replicate numGenerators [])).map LoadProfileConfig.mk

def distributeWarmup (warmup : WarmupConfig) (numGenerators : Nat) : List WarmupConfig :=
  (distributeCount warmup.rate numGenerators).map fun rate => { warmup with rate }

/-- The share of the `i`-th generator. -/
def share (total numGenerators i : Nat) : Nat :=
  total / numGenerators + if i < total % numGenerators then 1 else 0

theorem sum_share (total numGenerators : Nat) (positive : 0 < numGenerators) :
    ((List.range numGenerators).map (share total numGenerators)).sum = total := by
  have counted : ∀ count, ((List.range count).map (share total numGenerators)).sum =
      count * (total / numGenerators) + min count (total % numGenerators) := by
    intro count
    induction count with
    | zero => simp
    | succ count ih =>
        rw [List.range_succ, List.map_append, List.sum_append, ih, List.map_singleton,
          List.sum_singleton, share, Nat.succ_mul]
        split_ifs <;> omega
  rw [counted, min_eq_right (Nat.mod_lt total positive).le]
  exact Nat.div_add_mod total numGenerators

theorem length_distributeCount (total : UInt32) (divisor : Nat) :
    (distributeCount total divisor).length = divisor := by
  simp [distributeCount]

/-- Every share is what it would be without overflow. -/
theorem distributeCount_toNat {total : UInt32} {divisor : Nat} (positive : 0 < divisor)
    (small : divisor < 2 ^ 32) :
    (distributeCount total divisor).map (·.toNat) =
      (List.range divisor).map (share total.toNat divisor) := by
  rw [distributeCount, List.map_map]
  apply List.map_congr_left
  intro i member
  have before := List.mem_range.mp member
  have divisorEq : (UInt32.ofNat divisor).toNat = divisor := UInt32.toNat_ofNat_of_lt' small
  have iEq : (UInt32.ofNat i).toNat = i := UInt32.toNat_ofNat_of_lt' (before.trans small)
  have bound := total.toNat_lt
  simp only [Function.comp_apply, share, UInt32.lt_iff_toNat_lt, UInt32.toNat_mod, divisorEq,
    iEq]
  split_ifs with extra
  · have room : total.toNat / divisor + 1 < 2 ^ 32 := by
      have quotient := Nat.div_add_mod total.toNat divisor
      have : total.toNat / divisor ≤ divisor * (total.toNat / divisor) :=
        Nat.le_mul_of_pos_left _ positive
      omega
    rw [UInt32.toNat_add, UInt32.toNat_div, divisorEq]
    exact Nat.mod_eq_of_lt room
  · rw [UInt32.toNat_div, divisorEq, Nat.add_zero]

/-- The shares of a count add up to it. -/
theorem sum_distributeCount {total : UInt32} {divisor : Nat} (positive : 0 < divisor)
    (small : divisor < 2 ^ 32) :
    ((distributeCount total divisor).map (·.toNat)).sum = total.toNat := by
  rw [distributeCount_toNat positive small, sum_share _ _ positive]

/-- The step of a profile as the `i`-th generator gets it. -/
def LoadStepConfig.shareOf (numGenerators i : Nat) (step : LoadStepConfig) : LoadStepConfig :=
  ⟨step.deadline, (distributeCount step.count numGenerators).getD i 0⟩

theorem distributeStep_getElem? {generatorSteps : List (List LoadStepConfig)}
    {numGenerators : Nat} (lengthEq : generatorSteps.length = numGenerators)
    (step : LoadStepConfig) (i : Nat) :
    (distributeStep generatorSteps step numGenerators)[i]? =
      generatorSteps[i]?.map (· ++ [step.shareOf numGenerators i]) := by
  rw [distributeStep, List.getElem?_zipWith]
  cases found : generatorSteps[i]? with
  | none => rfl
  | some steps =>
      obtain ⟨bound, -⟩ := List.getElem?_eq_some_iff.mp found
      have within : i < (distributeCount step.count numGenerators).length := by
        rw [length_distributeCount, ← lengthEq]
        exact bound
      simp [LoadStepConfig.shareOf, List.getD_eq_getElem?_getD, List.getElem?_eq_getElem within]

theorem length_distributeProfile (profile : LoadProfileConfig) (numGenerators : Nat) :
    (distributeProfile profile numGenerators).length = numGenerators := by
  have folded : ∀ (steps : List LoadStepConfig) (acc : List (List LoadStepConfig)),
      acc.length = numGenerators →
        (steps.foldl (fun acc step => distributeStep acc step numGenerators) acc).length =
          numGenerators := by
    intro steps
    induction steps with
    | nil => exact fun _ lengthEq => lengthEq
    | cons step steps ih =>
        intro acc lengthEq
        exact ih _ (by simp [distributeStep, length_distributeCount, lengthEq])
  rw [distributeProfile, List.length_map]
  exact folded _ _ List.length_replicate

theorem distributeProfile_getElem? (profile : LoadProfileConfig) {numGenerators i : Nat}
    (within : i < numGenerators) :
    (distributeProfile profile numGenerators)[i]? =
      some ⟨profile.steps.map (LoadStepConfig.shareOf numGenerators i)⟩ := by
  have folded : ∀ (steps : List LoadStepConfig) (acc : List (List LoadStepConfig)),
      acc.length = numGenerators →
      (steps.foldl (fun acc step => distributeStep acc step numGenerators) acc)[i]? =
        acc[i]?.map (· ++ steps.map (LoadStepConfig.shareOf numGenerators i)) := by
    intro steps
    induction steps with
    | nil =>
        intro acc _
        simp
    | cons step steps ih =>
        intro acc lengthEq
        have sameLength : (distributeStep acc step numGenerators).length = numGenerators := by
          simp [distributeStep, length_distributeCount, lengthEq]
        rw [List.foldl_cons, ih _ sameLength, distributeStep_getElem? lengthEq, Option.map_map]
        congr 1
        funext front
        simp
  rw [distributeProfile, List.getElem?_map, folded _ _ (List.length_replicate ..)]
  simp [within]

theorem distributeWarmup_getElem? (warmup : WarmupConfig) {numGenerators i : Nat}
    (within : i < numGenerators) :
    (distributeWarmup warmup numGenerators)[i]? =
      some { warmup with rate := (distributeCount warmup.rate numGenerators).getD i 0 } := by
  have bound : i < (distributeCount warmup.rate numGenerators).length := by
    rw [length_distributeCount]
    exact within
  simp [distributeWarmup, List.getD_eq_getElem?_getD, List.getElem?_eq_getElem bound]

end CreoBench
