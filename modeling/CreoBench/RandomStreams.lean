import CreoBench.StartBarrier
import CreoBench.ReadyHandle

/-!
# The random streams of a run

Every load generator draws from three random number generators: one selects the
virtual users, and each phase has its own for the arrivals.  All of them are
seeded from the seed of the run.  `seed_from_u64` is not modelled: the facts
below are about the values it is given.
-/

namespace CreoBench

namespace ReadyHandle

/-- `Phase as u64` -/
def Phase.discriminant : Phase → UInt64
  | .warmup => 0
  | .load => 1

/-- What `arrival_rng` is seeded with. -/
def arrivalSeed (seed : UInt64) (loadgeneratorId : LoadGeneratorId) (phase : Phase) : UInt64 :=
  seed ^^^ (loadgeneratorId.value.toUInt64 <<< 32) ^^^ (phase.discriminant <<< 48)

/-- The part of an arrival seed that tells load generator and phase. -/
def arrivalTag (loadgeneratorId : LoadGeneratorId) (phase : Phase) : UInt64 :=
  (loadgeneratorId.value.toUInt64 <<< 32) ^^^ (phase.discriminant <<< 48)

theorem arrivalSeed_eq (seed : UInt64) (loadgeneratorId : LoadGeneratorId) (phase : Phase) :
    arrivalSeed seed loadgeneratorId phase = seed ^^^ arrivalTag loadgeneratorId phase :=
  UInt64.xor_assoc ..

theorem toNat_idBits (loadgeneratorId : LoadGeneratorId) :
    (loadgeneratorId.value.toUInt64 <<< 32).toNat = loadgeneratorId.value.toNat * 2 ^ 32 := by
  have small : loadgeneratorId.value.toNat < 2 ^ 8 := loadgeneratorId.value.toNat_lt
  rw [UInt64.toNat_shiftLeft, UInt8.toNat_toUInt64, Nat.shiftLeft_eq]
  exact Nat.mod_eq_of_lt (by simp; omega)

theorem toNat_phaseBits (phase : Phase) :
    (phase.discriminant <<< 48).toNat = phase.discriminant.toNat * 2 ^ 48 := by
  cases phase <;> rfl

theorem arrivalTag_div (loadgeneratorId : LoadGeneratorId) (phase : Phase) :
    (arrivalTag loadgeneratorId phase).toNat / 2 ^ 48 = phase.discriminant.toNat := by
  have small : loadgeneratorId.value.toNat < 2 ^ 8 := loadgeneratorId.value.toNat_lt
  have idPart : loadgeneratorId.value.toNat * 2 ^ 32 / 2 ^ 48 = 0 :=
    Nat.div_eq_of_lt (by omega)
  rw [arrivalTag, UInt64.toNat_xor, Nat.xor_div_two_pow, toNat_idBits, toNat_phaseBits, idPart,
    Nat.mul_div_cancel _ (by norm_num), Nat.zero_xor]

theorem arrivalTag_mod (loadgeneratorId : LoadGeneratorId) (phase : Phase) :
    (arrivalTag loadgeneratorId phase).toNat % 2 ^ 48 =
      loadgeneratorId.value.toNat * 2 ^ 32 := by
  have small : loadgeneratorId.value.toNat < 2 ^ 8 := loadgeneratorId.value.toNat_lt
  rw [arrivalTag, UInt64.toNat_xor, Nat.xor_mod_two_pow, toNat_idBits, toNat_phaseBits,
    Nat.mul_mod_left, Nat.xor_zero, Nat.mod_eq_of_lt (by omega)]

theorem arrivalTag_injective {first second : LoadGeneratorId} {phase phase' : Phase}
    (same : arrivalTag first phase = arrivalTag second phase') :
    first = second ∧ phase = phase' := by
  have ids : first.value.toNat * 2 ^ 32 = second.value.toNat * 2 ^ 32 := by
    rw [← arrivalTag_mod first phase, same, arrivalTag_mod]
  have phases : phase.discriminant.toNat = phase'.discriminant.toNat := by
    rw [← arrivalTag_div first phase, same, arrivalTag_div]
  constructor
  · exact congrArg LoadGeneratorId.mk
      (UInt8.toNat_inj.mp (Nat.eq_of_mul_eq_mul_right (by norm_num) ids))
  · cases phase <;> cases phase' <;> first | rfl | cases phases

theorem xor_right_cancel {seed first second : UInt64}
    (same : seed ^^^ first = seed ^^^ second) : first = second := by
  have again := congrArg (seed ^^^ ·) same
  simpa only [← UInt64.xor_assoc, UInt64.xor_self, UInt64.zero_xor] using again

end ReadyHandle

/-! ## The streams of all load generators -/

/-- The random number generators of one load generator. -/
inductive RandomStream where
  /-- `Pool::new` seeds it, and `take_random_user` draws from it. -/
  | users
  | arrivals (phase : ReadyHandle.Phase)
  deriving DecidableEq

namespace RandomStream

def seed (config : LoadGeneratorConfig) : RandomStream → UInt64
  | .users => config.seed
  | .arrivals phase => ReadyHandle.arrivalSeed config.seed config.loadGeneratorId phase

/-- The streams that are seeded with the seed of the run as it is. -/
def IsPlain (index : Nat) (stream : RandomStream) : Prop :=
  stream = .users ∨ stream = .arrivals .warmup ∧ index = 0

/-- What a stream adds to the seed of the run. -/
def tag (loadgeneratorId : LoadGeneratorId) : RandomStream → UInt64
  | .users => 0
  | .arrivals phase => ReadyHandle.arrivalTag loadgeneratorId phase

theorem seed_eq (config : LoadGeneratorConfig) (stream : RandomStream) :
    stream.seed config = config.seed ^^^ stream.tag config.loadGeneratorId := by
  cases stream with
  | users => exact UInt64.xor_zero.symm
  | arrivals phase => exact ReadyHandle.arrivalSeed_eq ..

end RandomStream

theorem LoadTestConfig.seed_of_split {config : LoadTestConfig} {index : Nat}
    {own : LoadGeneratorConfig} (found : config.split[index]? = some own) :
    index < config.generators.length ∧ own.seed = config.seed ∧
      own.loadGeneratorId = ⟨UInt8.ofNat index⟩ := by
  have within : index < config.generators.length := by
    rw [← LoadTestRunner.length_split]
    exact (List.getElem?_eq_some_iff.mp found).1
  unfold split at found
  simp only [List.getElem?_map, List.getElem?_zip_eq_some, Option.map_eq_some_iff,
    Prod.exists] at found
  rcases found with ⟨id, profile, warmup, ⟨idAt, -, -⟩, rfl⟩
  rw [List.getElem?_range within] at idAt
  cases idAt
  exact ⟨within, rfl, rfl⟩

namespace RandomStream

theorem ofNat_injective {first second : Nat} (small : first < 256) (small' : second < 256)
    (same : (⟨UInt8.ofNat first⟩ : LoadGeneratorId) = ⟨UInt8.ofNat second⟩) :
    first = second := by
  have values := congrArg (fun id : LoadGeneratorId => id.value.toNat) same
  simp only [UInt8.toNat_ofNat'] at values
  omega

theorem isPlain_iff {index : Nat} (small : index < 256) (stream : RandomStream) :
    stream.IsPlain index ↔ stream.tag ⟨UInt8.ofNat index⟩ = 0 := by
  cases stream with
  | users => exact iff_of_true (.inl rfl) rfl
  | arrivals phase =>
      constructor
      · rintro (users | ⟨warmup, zero⟩)
        · cases users
        · cases warmup
          subst zero
          rfl
      · intro plain
        have same : ReadyHandle.arrivalTag ⟨UInt8.ofNat index⟩ phase =
            ReadyHandle.arrivalTag ⟨UInt8.ofNat 0⟩ .warmup := plain
        rcases ReadyHandle.arrivalTag_injective same with ⟨ids, warmup⟩
        exact .inr ⟨congrArg arrivals warmup, ofNat_injective small (by norm_num) ids⟩

/-- Of all streams of a run, two start from the same seed only if both start from the seed
of the run: those that select virtual users, on all load generators, and the warmup
arrivals of the first one.  No two streams of arrivals do. -/
theorem shared_seeds {config : LoadTestConfig} (fits : config.generators.length ≤ 256)
    {first second : Nat} {own other : LoadGeneratorConfig}
    (found : config.split[first]? = some own) (found' : config.split[second]? = some other)
    (stream stream' : RandomStream) :
    stream.seed own = stream'.seed other ↔
      first = second ∧ stream = stream' ∨ stream.IsPlain first ∧ stream'.IsPlain second := by
  rcases LoadTestConfig.seed_of_split found with ⟨within, seed, id⟩
  rcases LoadTestConfig.seed_of_split found' with ⟨within', seed', id'⟩
  have small : first < 256 := lt_of_lt_of_le within fits
  have small' : second < 256 := lt_of_lt_of_le within' fits
  rw [isPlain_iff small, isPlain_iff small', seed_eq, seed_eq, seed, seed', id, id']
  constructor
  · intro same
    have tags := ReadyHandle.xor_right_cancel same
    cases stream with
    | users => exact .inr ⟨rfl, tags.symm⟩
    | arrivals phase =>
        cases stream' with
        | users => exact .inr ⟨tags, rfl⟩
        | arrivals phase' =>
            rcases ReadyHandle.arrivalTag_injective tags with ⟨ids, phases⟩
            exact .inl ⟨ofNat_injective small small' ids, congrArg arrivals phases⟩
  · rintro (⟨rfl, rfl⟩ | ⟨plain, plain'⟩)
    · rfl
    · rw [plain, plain']

/-- The second generator selects virtual users with the seed that the first one has for
its warmup arrivals. -/
theorem shared_seeds_twoGenerators :
    ∃ own other, LoadTestRunner.twoGenerators.split[0]? = some own ∧
      LoadTestRunner.twoGenerators.split[1]? = some other ∧
        (arrivals .warmup).seed own = users.seed other := by
  have length : LoadTestRunner.twoGenerators.split.length = 2 := LoadTestRunner.length_split _
  have first := List.getElem?_eq_getElem (l := LoadTestRunner.twoGenerators.split) (i := 0)
    (by rw [length]; norm_num)
  have second := List.getElem?_eq_getElem (l := LoadTestRunner.twoGenerators.split) (i := 1)
    (by rw [length]; norm_num)
  exact ⟨_, _, first, second,
    (shared_seeds (by decide) first second (arrivals .warmup) users).mpr
      (.inr ⟨.inr ⟨rfl, rfl⟩, .inl rfl⟩)⟩

end RandomStream

end CreoBench
