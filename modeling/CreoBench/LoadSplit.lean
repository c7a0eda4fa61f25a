import CreoBench.ReportedLoad

/-!
# Fair shares

Every step of a profile is split on its own: its shares differ by at most one,
and the larger ones go to the first generators.  Each generator gets one share
of everything, under an identifier of its own.
-/

namespace CreoBench

/-- A count is split without loss into `numGenerators` shares that differ by at most one. -/
structure FairShares (total : UInt32) (numGenerators : Nat) (shares : List UInt32) : Prop where
  length : shares.length = numGenerators
  sum : (shares.map (·.toNat)).sum = total.toNat
  fair : ∀ first ∈ shares, ∀ second ∈ shares, first.toNat ≤ second.toNat + 1
  nonIncreasing : shares.Pairwise fun earlier later => later.toNat ≤ earlier.toNat

/-- The counts of one step in the parts of a profile. -/
def countsAt (parts : List LoadProfileConfig) (index : Nat) : List UInt32 :=
  parts.filterMap fun part => part.steps[index]?.map (·.count)

structure FairProfiles (profile : LoadProfileConfig) (numGenerators : Nat)
    (parts : List LoadProfileConfig) : Prop where
  length : parts.length = numGenerators
  deadlines : ∀ part ∈ parts,
    part.steps.map (·.deadline) = profile.steps.map (·.deadline)
  counts : ∀ (index : Nat) (step : LoadStepConfig), profile.steps[index]? = some step →
    FairShares step.count numGenerators (countsAt parts index)

structure FairWarmups (warmup : WarmupConfig) (numGenerators : Nat)
    (parts : List WarmupConfig) : Prop where
  length : parts.length = numGenerators
  times : ∀ part ∈ parts, part.duration = warmup.duration ∧ part.pause = warmup.pause
  rates : FairShares warmup.rate numGenerators (parts.map (·.rate))

/-- All requests of a profile. -/
def LoadProfileConfig.total (profile : LoadProfileConfig) : Nat :=
  (profile.steps.map (·.count.toNat)).sum

/-! ## Shares -/

theorem share_le_share_succ (total numGenerators first second : Nat) :
    share total numGenerators first ≤ share total numGenerators second + 1 := by
  unfold share
  split_ifs <;> omega

theorem share_antitone (total numGenerators : Nat) {first second : Nat} (le : first ≤ second) :
    share total numGenerators second ≤ share total numGenerators first := by
  unfold share
  split_ifs <;> omega

/-- Of two shares, the first one is larger if the remainder ends between them. -/
theorem share_eq_add (total numGenerators : Nat) {first second : Nat} (less : first < second) :
    share total numGenerators first = share total numGenerators second +
      if first < total % numGenerators ∧ total % numGenerators ≤ second then 1 else 0 := by
  unfold share
  split_ifs <;> omega

section

variable {total : UInt32} {numGenerators : Nat}

theorem distributeCount_getElem? (positive : 0 < numGenerators) (small : numGenerators < 2 ^ 32)
    {index : Nat} {count : UInt32} (found : (distributeCount total numGenerators)[index]? =
      some count) : count.toNat = share total.toNat numGenerators index := by
  have counts : ((distributeCount total numGenerators).map (·.toNat))[index]? =
      ((List.range numGenerators).map (share total.toNat numGenerators))[index]? := by
    rw [distributeCount_toNat positive small]
  have within : index < numGenerators := by
    rw [← length_distributeCount total numGenerators]
    exact (List.getElem?_eq_some_iff.mp found).1
  simpa [found, within] using counts

theorem fairShares_distributeCount (positive : 0 < numGenerators)
    (small : numGenerators < 2 ^ 32) :
    FairShares total numGenerators (distributeCount total numGenerators) := by
  constructor
  · exact length_distributeCount total numGenerators
  · exact sum_distributeCount positive small
  · intro first firstMem second secondMem
    obtain ⟨i, firstAt⟩ := List.getElem?_of_mem firstMem
    obtain ⟨j, secondAt⟩ := List.getElem?_of_mem secondMem
    rw [distributeCount_getElem? positive small firstAt,
      distributeCount_getElem? positive small secondAt]
    exact share_le_share_succ _ _ i j
  · rw [List.pairwise_iff_getElem]
    intro i j firstBound secondBound less
    rw [distributeCount_getElem? positive small (List.getElem?_eq_getElem firstBound),
      distributeCount_getElem? positive small (List.getElem?_eq_getElem secondBound)]
    exact share_antitone _ _ less.le

end

/-! ## Profiles and warmups -/

/-- The parts of a profile, each from its position. -/
theorem distributeProfile_eq_map (profile : LoadProfileConfig) (numGenerators : Nat) :
    distributeProfile profile numGenerators =
      (List.range numGenerators).map fun i =>
        ⟨profile.steps.map (LoadStepConfig.shareOf numGenerators i)⟩ := by
  apply List.ext_getElem?
  intro i
  by_cases within : i < numGenerators
  · rw [distributeProfile_getElem? profile within]
    simp [within]
  · rw [List.getElem?_eq_none (by rw [length_distributeProfile]; omega),
      List.getElem?_eq_none (by simp; omega)]

theorem map_getD_distributeCount (total : UInt32) (numGenerators : Nat) :
    ((List.range numGenerators).map fun i => (distributeCount total numGenerators).getD i 0) =
      distributeCount total numGenerators := by
  apply List.ext_getElem?
  intro i
  by_cases within : i < numGenerators
  · have bound : i < (distributeCount total numGenerators).length := by
      rw [length_distributeCount]
      exact within
    simp [within, List.getD_eq_getElem?_getD, List.getElem?_eq_getElem bound]
  · rw [List.getElem?_eq_none (by simp; omega),
      List.getElem?_eq_none (by rw [length_distributeCount]; omega)]

/-- A step's counts in the parts are the shares of its count. -/
theorem countsAt_distributeProfile {profile : LoadProfileConfig} {numGenerators index : Nat}
    {step : LoadStepConfig} (found : profile.steps[index]? = some step) :
    countsAt (distributeProfile profile numGenerators) index =
      distributeCount step.count numGenerators := by
  rw [distributeProfile_eq_map, countsAt, List.filterMap_map]
  simp only [Function.comp_def, List.getElem?_map, found, Option.map_some,
    LoadStepConfig.shareOf, List.filterMap_eq_map']
  exact map_getD_distributeCount step.count numGenerators

theorem fairProfiles_distributeProfile (profile : LoadProfileConfig) {numGenerators : Nat}
    (positive : 0 < numGenerators) (small : numGenerators < 2 ^ 32) :
    FairProfiles profile numGenerators (distributeProfile profile numGenerators) := by
  constructor
  · exact length_distributeProfile profile numGenerators
  · intro part member
    rw [distributeProfile_eq_map] at member
    obtain ⟨i, -, rfl⟩ := List.mem_map.mp member
    simp [LoadStepConfig.shareOf]
  · intro index step found
    rw [countsAt_distributeProfile found]
    exact fairShares_distributeCount positive small

theorem fairWarmups_distributeWarmup (warmup : WarmupConfig) {numGenerators : Nat}
    (positive : 0 < numGenerators) (small : numGenerators < 2 ^ 32) :
    FairWarmups warmup numGenerators (distributeWarmup warmup numGenerators) := by
  constructor
  · simp [distributeWarmup, length_distributeCount]
  · intro part member
    obtain ⟨rate, -, rfl⟩ := List.mem_map.mp member
    exact ⟨rfl, rfl⟩
  · have rates : (distributeWarmup warmup numGenerators).map (·.rate) =
        distributeCount warmup.rate numGenerators := by
      simp [distributeWarmup, Function.comp_def]
    rw [rates]
    exact fairShares_distributeCount positive small

/-! ## The configurations of a run -/

/-- The count of a step in the profile of a generator. -/
def LoadGeneratorConfig.countAt (config : LoadGeneratorConfig) (index : Nat) : Nat :=
  (config.profile.steps[index]?.map (·.count.toNat)).getD 0

/-- Configurations that carry the whole load, one part of it each. -/
structure FairConfigs (config : LoadTestConfig) (configs : List LoadGeneratorConfig) : Prop where
  ids : (configs.map (·.loadGeneratorId)).Nodup
  profiles : configs.map (·.profile) =
    (distributeProfile config.profile config.generators.length).map LoadProfile.ofConfig
  warmups : configs.map (·.warmup) =
    (distributeWarmup config.warmup config.generators.length).map Warmup.ofConfig
  load : ∀ (index : Nat) (step : LoadStepConfig), config.profile.steps[index]? = some step →
    (configs.map (·.countAt index)).sum = step.count.toNat
  rate : (configs.map (·.warmup.rate.toNat)).sum = config.warmup.rate.toNat

namespace LoadTestConfig

variable {config : LoadTestConfig}

theorem map_profile_split (config : LoadTestConfig) :
    config.split.map (·.profile) =
      (distributeProfile config.profile config.generators.length).map LoadProfile.ofConfig := by
  have lengths : (distributeProfile config.profile config.generators.length).length =
      (distributeWarmup config.warmup config.generators.length).length := by
    simp [length_distributeProfile, distributeWarmup, length_distributeCount]
  have parts : config.split.map (·.profile) =
      ((((List.range config.generators.length).zip
        ((distributeProfile config.profile config.generators.length).zip
          (distributeWarmup config.warmup config.generators.length))).map Prod.snd).map
            Prod.fst).map LoadProfile.ofConfig := by
    simp [split, Function.comp_def]
  rw [parts, List.map_snd_zip, List.map_fst_zip lengths.le]
  rw [List.length_zip, length_distributeProfile, List.length_range]
  exact Nat.min_le_left _ _

theorem map_warmup_split (config : LoadTestConfig) :
    config.split.map (·.warmup) =
      (distributeWarmup config.warmup config.generators.length).map Warmup.ofConfig := by
  have lengths : (distributeProfile config.profile config.generators.length).length =
      (distributeWarmup config.warmup config.generators.length).length := by
    simp [length_distributeProfile, distributeWarmup, length_distributeCount]
  have parts : config.split.map (·.warmup) =
      ((((List.range config.generators.length).zip
        ((distributeProfile config.profile config.generators.length).zip
          (distributeWarmup config.warmup config.generators.length))).map Prod.snd).map
            Prod.snd).map Warmup.ofConfig := by
    simp [split, Function.comp_def]
  rw [parts, List.map_snd_zip, List.map_snd_zip lengths.ge]
  rw [List.length_zip, length_distributeProfile, List.length_range]
  exact Nat.min_le_left _ _

/-- Identifiers are distinct as long as they fit in eight bits. -/
theorem nodup_ids_split (small : config.generators.length ≤ 256) :
    (config.split.map (·.loadGeneratorId)).Nodup := by
  have ids : config.split.map (·.loadGeneratorId) =
      (((List.range config.generators.length).zip
        ((distributeProfile config.profile config.generators.length).zip
          (distributeWarmup config.warmup config.generators.length))).map Prod.fst).map
            fun id => ⟨UInt8.ofNat id⟩ := by
    simp [split, Function.comp_def]
  rw [ids, List.map_fst_zip]
  · apply List.Nodup.map_on _ List.nodup_range
    intro first firstMem second secondMem same
    have firstLt := List.mem_range.mp firstMem
    have secondLt := List.mem_range.mp secondMem
    have values := congrArg (fun id => id.value.toNat) same
    simp only [UInt8.toNat_ofNat'] at values
    omega
  · simp [length_distributeProfile, distributeWarmup, length_distributeCount]

theorem fairConfigs_split (positive : 0 < config.generators.length)
    (small : config.generators.length ≤ 256) : FairConfigs config config.split := by
  have bound : config.generators.length < 2 ^ 32 := by omega
  constructor
  · exact nodup_ids_split small
  · exact map_profile_split config
  · exact map_warmup_split config
  · intro index step found
    have counts : config.split.map (·.countAt index) =
        (distributeCount step.count config.generators.length).map (·.toNat) := by
      have byProfile : config.split.map (·.countAt index) = (config.split.map (·.profile)).map
          fun profile => (profile.steps[index]?.map (·.count.toNat)).getD 0 := by
        simp [LoadGeneratorConfig.countAt, Function.comp_def]
      rw [byProfile, map_profile_split, distributeProfile_eq_map,
        ← map_getD_distributeCount step.count]
      simp [LoadProfile.ofConfig, LoadStepConfig.shareOf, found, Function.comp_def]
    rw [counts]
    exact sum_distributeCount positive bound
  · have rates : config.split.map (·.warmup.rate.toNat) =
        (distributeCount config.warmup.rate config.generators.length).map (·.toNat) := by
      have byWarmup : config.split.map (·.warmup.rate.toNat) =
          (config.split.map (·.warmup)).map (·.rate.toNat) := by
        simp [Function.comp_def]
      rw [byWarmup, map_warmup_split]
      simp [distributeWarmup, Warmup.ofConfig, Function.comp_def]
    rw [rates]
    exact sum_distributeCount positive bound

end LoadTestConfig

/-- The configurations that were sent to a generator. -/
def Link.sentConfigs (link : Link) : List LoadGeneratorConfig :=
  link.sent.filterMap fun
    | .configure (.config config) => some config
    | _ => none

theorem Link.sentConfigs_cases {link : Link} (sound : link.Sound) :
    link.sentConfigs = [] ∨ link.sentConfigs = [link.config] := by
  have sends := sound.sends
  unfold sentConfigs
  cases handle : link.handle <;> rw [handle] at sends
  case connecting | unreachable | connected | configuring | abortSent | configSent | configured |
      starting | startFailed =>
    rw [sends]
    simp
  case aborted => rcases sends with sent | sent | sent | sent <;> rw [sent] <;> simp
  case configureFailed | started | finished | crashed =>
    rcases sends with sent | sent <;> rw [sent] <;> simp

theorem Link.sentConfigs_of_isStart {link : Link} (sound : link.Sound)
    (started : link.handle.isStart) : link.sentConfigs = [link.config] := by
  have sends := sound.sends
  unfold sentConfigs
  cases handle : link.handle <;> rw [handle] at sends started
  case starting | startFailed =>
    rw [sends]
    simp
  case started | finished | crashed =>
    rcases sends with sent | sent <;> rw [sent] <;> simp
  all_goals cases started

namespace LoadTestRunner

def sentConfigs (runner : LoadTestRunner) : List LoadGeneratorConfig :=
  runner.links.flatMap Link.sentConfigs

/-- No generator is sent two configurations, and together they are sent the load that is
configured. -/
structure HandsOut (runner : LoadTestRunner) : Prop where
  links : runner.links.length = runner.config.generators.length
  fair : FairConfigs runner.config (runner.links.map (·.config))
  once : ∀ link ∈ runner.links, link.sentConfigs = [] ∨ link.sentConfigs = [link.config]
  complete : runner.sentConfigs.length = runner.config.generators.length ∨
      (∃ link ∈ runner.links, link.handle.isStart) →
    runner.sentConfigs = runner.links.map (·.config)

/-- Each link adds nothing or its own configuration. -/
theorem sentConfigs_sublist {links : List Link}
    (once : ∀ link ∈ links, link.sentConfigs = [] ∨ link.sentConfigs = [link.config]) :
    (links.flatMap Link.sentConfigs).Sublist (links.map (·.config)) := by
  induction links with
  | nil => exact .slnil
  | cons link links ih =>
      rw [List.forall_mem_cons] at once
      rw [List.flatMap_cons, List.map_cons]
      rcases once.1 with nothing | own
      · rw [nothing, List.nil_append]
        exact (ih once.2).cons _
      · rw [own, List.singleton_append]
        exact (ih once.2).cons_cons _

theorem handsOut_of_reachable {runner : LoadTestRunner} (reachable : machine.Reachable runner) :
    runner.HandsOut := by
  have sound := sound_of_reachable reachable
  have limits := (collected_of_reachable reachable).size
  rw [sound.length_links] at limits
  have once := fun link member => Link.sentConfigs_cases (sound.links link member)
  constructor
  · exact sound.length_links
  · rw [sound.configs]
    exact LoadTestConfig.fairConfigs_split limits.1 limits.2
  · exact once
  · rintro (all | ⟨link, member, started⟩)
    · apply (sentConfigs_sublist once).eq_of_length
      rw [List.length_map, sound.length_links]
      exact all
    · have own : ∀ other ∈ runner.links, other.sentConfigs = [other.config] := by
        intro other otherMem
        exact Link.sentConfigs_of_isStart (sound.links other otherMem)
          (sound.together link member other otherMem started)
      rw [sentConfigs, List.flatMap_congr own, List.map_eq_flatMap]

end LoadTestRunner

/-- Profiles and warmups are split without loss and fairly, and a run hands out each part to
one generator. -/
theorem load_split_fairly {numGenerators : Nat} (positive : 0 < numGenerators)
    (limit : numGenerators ≤ 255) :
    (∀ profile, FairProfiles profile numGenerators (distributeProfile profile numGenerators)) ∧
      (∀ warmup, FairWarmups warmup numGenerators (distributeWarmup warmup numGenerators)) ∧
      ∀ runner, LoadTestRunner.machine.Reachable runner →
        runner.config.generators.length = numGenerators → runner.HandsOut := by
  have small : numGenerators < 2 ^ 32 := by omega
  refine ⟨?_, ?_, ?_⟩
  · exact fun profile => fairProfiles_distributeProfile profile positive small
  · exact fun warmup => fairWarmups_distributeWarmup warmup positive small
  · exact fun runner reachable _ => LoadTestRunner.handsOut_of_reachable reachable

/-- Three generators share a step of two requests. -/
theorem load_split_fairly_threeGenerators :
    countsAt (distributeProfile ⟨[⟨.ofNat 1, 2⟩]⟩ 3) 0 = [1, 1, 0] ∧
      FairProfiles ⟨[⟨.ofNat 1, 2⟩]⟩ 3 (distributeProfile ⟨[⟨.ofNat 1, 2⟩]⟩ 3) :=
  ⟨by decide, (load_split_fairly (by decide) (by decide)).1 _⟩

/-! ## The load of a whole run -/

/-- The steps whose remainder is handed out to the generator at `first` but not to the one at
`second`. -/
def LoadProfileConfig.uneven (profile : LoadProfileConfig) (numGenerators first second : Nat) :
    List LoadStepConfig :=
  profile.steps.filter fun step =>
    first < step.count.toNat % numGenerators ∧ step.count.toNat % numGenerators ≤ second

theorem toNat_shareOf {step : LoadStepConfig} {numGenerators i : Nat}
    (small : numGenerators < 2 ^ 32) (within : i < numGenerators) :
    (step.shareOf numGenerators i).count.toNat = share step.count.toNat numGenerators i := by
  have bound : i < (distributeCount step.count numGenerators).length := by
    rw [length_distributeCount]
    exact within
  have counted := distributeCount_getElem? (by omega) small (List.getElem?_eq_getElem bound)
  simpa [LoadStepConfig.shareOf, List.getD_eq_getElem?_getD, List.getElem?_eq_getElem bound]
    using counted

theorem total_distributeProfile {profile part : LoadProfileConfig} {numGenerators i : Nat}
    (small : numGenerators < 2 ^ 32)
    (found : (distributeProfile profile numGenerators)[i]? = some part) :
    part.total =
      (profile.steps.map fun step => share step.count.toNat numGenerators i).sum := by
  have within : i < numGenerators := by
    rw [← length_distributeProfile profile numGenerators]
    exact (List.getElem?_eq_some_iff.mp found).1
  rw [distributeProfile_getElem? profile within] at found
  cases found
  rw [LoadProfileConfig.total, List.map_map]
  congr 1
  apply List.map_congr_left
  exact fun step _ => toNat_shareOf small within

/-- The remainders of all steps add up. -/
theorem sum_share_eq_add (steps : List LoadStepConfig) (numGenerators : Nat) {first second : Nat}
    (less : first < second) :
    (steps.map fun step => share step.count.toNat numGenerators first).sum =
      (steps.map fun step => share step.count.toNat numGenerators second).sum +
        (LoadProfileConfig.uneven ⟨steps⟩ numGenerators first second).length := by
  induction steps with
  | nil => rfl
  | cons step steps ih =>
      have counted : (LoadProfileConfig.uneven ⟨step :: steps⟩ numGenerators first second).length =
          (LoadProfileConfig.uneven ⟨steps⟩ numGenerators first second).length +
            if first < step.count.toNat % numGenerators ∧
              step.count.toNat % numGenerators ≤ second then 1 else 0 := by
        simp only [LoadProfileConfig.uneven, List.filter_cons, decide_eq_true_eq]
        split_ifs <;> rfl
      rw [List.map_cons, List.sum_cons, List.map_cons, List.sum_cons, ih, counted,
        share_eq_add _ _ less]
      omega

/-- The whole load of two generators need not be balanced: two steps of one request both go to
the first of them. -/
theorem totals_unbalanced :
    ¬ ∀ (profile : LoadProfileConfig) (numGenerators : Nat), 0 < numGenerators →
      numGenerators ≤ 255 → ∀ first ∈ distributeProfile profile numGenerators,
        ∀ second ∈ distributeProfile profile numGenerators, first.total ≤ second.total + 1 := by
  intro balanced
  have unbalanced := balanced ⟨[⟨.ofNat 1, 1⟩, ⟨.ofNat 2, 1⟩]⟩ 2 (by decide) (by decide)
  revert unbalanced
  decide

theorem shareOf_of_found {profile part : LoadProfileConfig} {numGenerators i index : Nat}
    {own : LoadStepConfig} (small : numGenerators < 2 ^ 32)
    (found : (distributeProfile profile numGenerators)[i]? = some part)
    (stepAt : part.steps[index]? = some own) :
    ∃ step, profile.steps[index]? = some step ∧
      own.count.toNat = share step.count.toNat numGenerators i := by
  have within : i < numGenerators := by
    rw [← length_distributeProfile profile numGenerators]
    exact (List.getElem?_eq_some_iff.mp found).1
  rw [distributeProfile_getElem? profile within] at found
  cases found
  rw [List.getElem?_map, Option.map_eq_some_iff] at stepAt
  obtain ⟨step, stepAt, rfl⟩ := stepAt
  exact ⟨step, stepAt, toNat_shareOf small within⟩

/-- Each step is divided up to one request, with the larger shares first, and over all steps a
generator gets one request more than a later one for each step whose remainder ends between
the two. -/
theorem total_imbalance {numGenerators : Nat} (small : numGenerators < 2 ^ 32)
    (profile : LoadProfileConfig) {i j : Nat} {first second : LoadProfileConfig}
    (firstAt : (distributeProfile profile numGenerators)[i]? = some first)
    (secondAt : (distributeProfile profile numGenerators)[j]? = some second) (less : i < j) :
    first.total = second.total + (profile.uneven numGenerators i j).length ∧
      ∀ (index : Nat) (step other : LoadStepConfig), first.steps[index]? = some step →
        second.steps[index]? = some other →
          other.count.toNat ≤ step.count.toNat ∧ step.count.toNat ≤ other.count.toNat + 1 := by
  constructor
  · rw [total_distributeProfile small firstAt, total_distributeProfile small secondAt]
    exact sum_share_eq_add profile.steps numGenerators less
  · intro index step other stepAt otherAt
    obtain ⟨whole, wholeAt, stepEq⟩ := shareOf_of_found small firstAt stepAt
    obtain ⟨same, sameAt, otherEq⟩ := shareOf_of_found small secondAt otherAt
    rw [wholeAt] at sameAt
    cases sameAt
    rw [stepEq, otherEq]
    exact ⟨share_antitone _ _ less.le, share_le_share_succ _ _ i j⟩

/-- Two steps of one request: both differ by one between the two generators. -/
theorem total_imbalance_twoSteps :
    ∃ first second, (distributeProfile ⟨[⟨.ofNat 1, 1⟩, ⟨.ofNat 2, 1⟩]⟩ 2)[0]? = some first ∧
      (distributeProfile ⟨[⟨.ofNat 1, 1⟩, ⟨.ofNat 2, 1⟩]⟩ 2)[1]? = some second ∧
        first.total = second.total + 2 := by
  obtain ⟨first, firstAt⟩ : ∃ first,
      (distributeProfile ⟨[⟨.ofNat 1, 1⟩, ⟨.ofNat 2, 1⟩]⟩ 2)[0]? = some first := ⟨_, rfl⟩
  obtain ⟨second, secondAt⟩ : ∃ second,
      (distributeProfile ⟨[⟨.ofNat 1, 1⟩, ⟨.ofNat 2, 1⟩]⟩ 2)[1]? = some second := ⟨_, rfl⟩
  have imbalance := (total_imbalance (by decide) _ firstAt secondAt (by decide)).1
  exact ⟨first, second, firstAt, secondAt, imbalance⟩

end CreoBench
