import CreoBench.DispatchResults

/-!
# How a script is walked through

A script runner is called for its setup specs and its user specs in any order,
and whatever Lua code runs in between changes its runtime.  A spec of the user
cycle may be taken back until the next one is taken.  Every call is recorded
with the cursor before it and the cursor that it leaves behind.
-/

namespace CreoBench

open Script

namespace ScriptRunner

variable {World : Type}

/-- Names are looked up among the specs in both lists. -/
structure Sound (runner : ScriptRunner World) : Prop extends runner.WellFormed where
  setupByName : runner.setupSpecsByName = specsByName runner.setupSpecs

theorem sound_of_ofSpecs {setupSpecs userSpecs : List LuaRequestSpec} {loaded : World}
    {runner : ScriptRunner World} (made : ofSpecs setupSpecs userSpecs loaded = some runner) :
    runner.Sound := by
  unfold ofSpecs at made
  split_ifs at made with empty
  cases made
  refine ⟨⟨List.length_pos_of_ne_nil ?_, rfl⟩, rfl⟩
  simpa using empty

/-- All that a call of `next_user_spec` can do. -/
theorem nextUserSpec_cases (lua : Lua World) (calls : Nat) {runner : ScriptRunner World}
    (wellFormed : runner.WellFormed) :
    runner.nextUserSpec lua calls = .unfinished ∨
    (∃ err world, runner.nextUserSpec lua calls =
      .returned (.error err, { runner with world })) ∨
    (∃ index < runner.userSpecs.length, ∃ spec world, runner.nextUserSpec lua calls =
      .returned (.ok (⟨runner.userCursor⟩, .ofIndex index, spec),
        { runner with world, userCursor := (index + 1) % runner.userSpecs.length })) := by
  have finds : FindsSpec runner.userSpecs (nextSpec lua runner.userSpecs
      (specsByName runner.userSpecs) calls runner.userCursor runner.world) :=
    nextSpec_findsSpec lua wellFormed.cursor
  rw [← wellFormed.byName] at finds
  unfold nextUserSpec
  cases result : nextSpec lua runner.userSpecs runner.userSpecsByName calls runner.userCursor
      runner.world with
  | panicked => rw [result] at finds; exact finds.elim
  | unfinished => exact Or.inl rfl
  | returned value =>
      rw [result] at finds
      rcases value with ⟨_ | ⟨index, spec⟩, world⟩
      · exact Or.inr (Or.inl ⟨_, world, rfl⟩)
      · exact Or.inr (Or.inr ⟨index, finds, spec, world, rfl⟩)

/-- All that a call of `next_setup_spec` can do. -/
theorem nextSetupSpec_cases (lua : Lua World) (calls : Nat) {runner : ScriptRunner World}
    (sound : runner.Sound) :
    (runner.setupSpecs.length ≤ runner.setupCursor ∧
      runner.nextSetupSpec lua calls = .returned (.ok none, runner)) ∨
    runner.setupCursor < runner.setupSpecs.length ∧
    (runner.nextSetupSpec lua calls = .unfinished ∨
    (∃ err world, runner.nextSetupSpec lua calls =
      .returned (.error err, { runner with world })) ∨
    (∃ index < runner.setupSpecs.length, ∃ spec world, runner.nextSetupSpec lua calls =
      .returned (.ok (some (.ofIndex index, spec)),
        { runner with world, setupCursor := index + 1 }))) := by
  by_cases exhausted : runner.setupSpecs.length ≤ runner.setupCursor
  · left
    exact ⟨exhausted, if_pos (Or.inr exhausted)⟩
  right
  have inside : runner.setupCursor < runner.setupSpecs.length := Nat.lt_of_not_le exhausted
  refine ⟨inside, ?_⟩
  have nonempty : runner.setupSpecs ≠ [] := List.ne_nil_of_length_pos (by omega)
  have finds : FindsSpec runner.setupSpecs (nextSpec lua runner.setupSpecs
      (specsByName runner.setupSpecs) calls runner.setupCursor runner.world) :=
    nextSpec_findsSpec lua inside
  rw [← sound.setupByName] at finds
  unfold nextSetupSpec
  rw [if_neg (by simp [nonempty, exhausted])]
  cases result : nextSpec lua runner.setupSpecs runner.setupSpecsByName calls
      runner.setupCursor runner.world with
  | panicked => rw [result] at finds; exact finds.elim
  | unfinished => exact Or.inl rfl
  | returned value =>
      rw [result] at finds
      rcases value with ⟨_ | ⟨index, spec⟩, world⟩
      · exact Or.inr (Or.inl ⟨_, world, rfl⟩)
      · exact Or.inr (Or.inr ⟨index, finds, spec, world, rfl⟩)

end ScriptRunner

/-- A call of `next_setup_spec`. -/
structure SetupCall where
  before : Nat
  result : Except Script.Error (Option (SpecId × RequestSpec))
  after : Nat

/-- A call of `next_user_spec`, and whether its spec was taken back. -/
structure UserCall where
  before : Nat
  result : Except Script.Error (SpecId × RequestSpec)
  reverted : Bool
  after : Nat

/-- A runner, the handle for its last user spec and what was called on it. -/
structure ScriptWalk (World : Type) where
  runner : ScriptRunner World
  handle : Option RevertHandle
  setupCalls : List SetupCall
  userCalls : List UserCall
  panicked : Bool

namespace ScriptWalk

variable {World : Type}

inductive Event (World : Type) where
  | nextSetupSpec (calls : Nat)
  | nextUserSpec (calls : Nat)
  | revert
  /-- Lua code runs for another reason, such as an extract function. -/
  | runLua (world : World)

def step (lua : Lua World) (walk : ScriptWalk World) : Event World → Option (ScriptWalk World)
  | .nextSetupSpec calls =>
      match walk.runner.nextSetupSpec lua calls with
      | .unfinished => none
      | .panicked => some { walk with panicked := true }
      | .returned (result, runner) =>
          some { walk with
            runner
            setupCalls := walk.setupCalls ++
              [⟨walk.runner.setupCursor, result, runner.setupCursor⟩] }
  | .nextUserSpec calls =>
      match walk.runner.nextUserSpec lua calls with
      | .unfinished => none
      | .panicked => some { walk with panicked := true }
      | .returned (.error err, runner) =>
          some { walk with
            runner
            handle := none
            userCalls := walk.userCalls ++
              [⟨walk.runner.userCursor, .error err, false, runner.userCursor⟩] }
      | .returned (.ok (handle, specId, spec), runner) =>
          some { walk with
            runner
            handle := some handle
            userCalls := walk.userCalls ++
              [⟨walk.runner.userCursor, .ok (specId, spec), false, runner.userCursor⟩] }
  | .revert =>
      match walk.handle with
      | none => none
      | some handle =>
          let runner := walk.runner.revert handle
          some { walk with
            runner
            handle := none
            userCalls := walk.userCalls.dropLast ++ walk.userCalls.getLast?.toList.map fun call =>
              { call with reverted := true, after := runner.userCursor } }
  | .runLua world => some { walk with runner := { walk.runner with world } }

def machine (lua : Lua World) : Machine (ScriptWalk World) (Event World) where
  initial walk := walk.handle = none ∧ walk.setupCalls = [] ∧ walk.userCalls = [] ∧
    walk.panicked = false ∧ ∃ setupSpecs userSpecs loaded,
      ScriptRunner.ofSpecs setupSpecs userSpecs loaded = some walk.runner
  step := step lua

end ScriptWalk

/-! ## What a call does to the cursor -/

/-- A failed call and a call that was taken back leave the cursor alone; any other call
moves it behind its spec, and around at the end of the list. -/
structure UserCall.Moves (length : Nat) (call : UserCall) : Prop where
  inside : call.before < length
  failed : ∀ err, call.result = .error err → call.after = call.before
  reverted : call.reverted → call.after = call.before
  taken : ∀ specId spec, call.result = .ok (specId, spec) → specId.value.toNat < length ∧
    (call.reverted = false → ∃ index < length,
      specId = .ofIndex index ∧ call.after = (index + 1) % length)

/-- The same without an end to come around at. -/
structure SetupCall.Moves (length : Nat) (call : SetupCall) : Prop where
  failed : ∀ err, call.result = .error err → call.after = call.before
  exhausted : call.result = .ok none ↔ length ≤ call.before
  unmoved : call.result = .ok none → call.after = call.before
  taken : ∀ specId spec, call.result = .ok (some (specId, spec)) →
    specId.value.toNat < length ∧ ∃ index < length,
      specId = .ofIndex index ∧ call.after = index + 1

/-- The cursor that some calls leave behind, each of which begins where the one before it
has ended. -/
inductive Walked {Call : Type} (before after : Call → Nat) (moves : Call → Prop) :
    List Call → Nat → Prop
  | start : Walked before after moves [] 0
  | call {calls : List Call} {call : Call} : Walked before after moves calls (before call) →
      moves call → Walked before after moves (calls ++ [call]) (after call)

theorem Walked.of_concat {Call : Type} {before after : Call → Nat} {moves : Call → Prop}
    {calls : List Call} {call : Call} {cursor : Nat}
    (walked : Walked before after moves (calls ++ [call]) cursor) :
    Walked before after moves calls (before call) ∧ moves call ∧ cursor = after call := by
  generalize callsEq : calls ++ [call] = all at walked
  cases walked with
  | start => simp at callsEq
  | call earlier moved =>
      rcases List.append_inj' callsEq rfl with ⟨rfl, same⟩
      cases same
      exact ⟨earlier, moved, rfl⟩

theorem SpecId.ofIndex_lt {index length : Nat} (inside : index < length) :
    (SpecId.ofIndex index).value.toNat < length := by
  rw [SpecId.ofIndex, UInt64.toNat_ofNat']
  exact Nat.lt_of_le_of_lt (Nat.mod_le _ _) inside

namespace ScriptWalk

variable {World : Type}

/-- The script is walked through in order. -/
structure InOrder (walk : ScriptWalk World) : Prop where
  cursor : walk.runner.userCursor < walk.runner.userSpecs.length
  notPanicked : walk.panicked = false
  setupWalked : Walked SetupCall.before SetupCall.after
    (SetupCall.Moves walk.runner.setupSpecs.length) walk.setupCalls walk.runner.setupCursor
  userWalked : Walked UserCall.before UserCall.after
    (UserCall.Moves walk.runner.userSpecs.length) walk.userCalls walk.runner.userCursor

/-- What the steps preserve: the handle is that of the last call. -/
structure Coherent (walk : ScriptWalk World) : Prop extends walk.InOrder where
  sound : walk.runner.Sound
  handle : ∀ handle, walk.handle = some handle → ∃ earlier call,
    walk.userCalls = earlier ++ [call] ∧ call.before = handle.previousCursor ∧
      ∃ taken, call.result = .ok taken

theorem Coherent.nextSetupSpec {lua : Lua World} {walk next : ScriptWalk World} {calls : Nat}
    (coherent : walk.Coherent) (stepped : walk.step lua (.nextSetupSpec calls) = some next) :
    next.Coherent := by
  rcases coherent with ⟨⟨cursor, notPanicked, setupWalked, userWalked⟩, sound, handle⟩
  simp only [step] at stepped
  rcases walk.runner.nextSetupSpec_cases lua calls sound with ⟨exhausted, returned⟩ |
    ⟨inside, unfinished | ⟨err, world, returned⟩ | ⟨index, bound, spec, world, returned⟩⟩
  · rw [returned] at stepped
    cases stepped
    refine ⟨⟨cursor, notPanicked, setupWalked.call ?_, userWalked⟩, sound, handle⟩
    exact ⟨by simp, by simpa using exhausted, by simp, by simp⟩
  · rw [unfinished] at stepped
    cases stepped
  · rw [returned] at stepped
    cases stepped
    refine ⟨⟨cursor, notPanicked, setupWalked.call ?_, userWalked⟩,
      ⟨⟨sound.cursor, sound.byName⟩, sound.setupByName⟩, handle⟩
    exact ⟨by simp, by simpa using inside, by simp, by simp⟩
  · rw [returned] at stepped
    cases stepped
    refine ⟨⟨cursor, notPanicked, setupWalked.call ?_, userWalked⟩,
      ⟨⟨sound.cursor, sound.byName⟩, sound.setupByName⟩, handle⟩
    refine ⟨by simp, by simpa using inside, by simp, ?_⟩
    rintro _ _ ⟨⟩
    exact ⟨SpecId.ofIndex_lt bound, index, bound, rfl, rfl⟩

theorem Coherent.nextUserSpec {lua : Lua World} {walk next : ScriptWalk World} {calls : Nat}
    (coherent : walk.Coherent) (stepped : walk.step lua (.nextUserSpec calls) = some next) :
    next.Coherent := by
  rcases coherent with ⟨⟨cursor, notPanicked, setupWalked, userWalked⟩, sound, handle⟩
  simp only [step] at stepped
  rcases walk.runner.nextUserSpec_cases lua calls sound.toWellFormed with
    unfinished | ⟨err, world, returned⟩ | ⟨index, bound, spec, world, returned⟩
  · rw [unfinished] at stepped
    cases stepped
  · rw [returned] at stepped
    cases stepped
    refine ⟨⟨cursor, notPanicked, setupWalked, userWalked.call ?_⟩,
      ⟨⟨sound.cursor, sound.byName⟩, sound.setupByName⟩, by simp⟩
    exact ⟨cursor, by simp, by simp, by simp⟩
  · rw [returned] at stepped
    cases stepped
    have moved : (index + 1) % walk.runner.userSpecs.length < walk.runner.userSpecs.length :=
      Nat.mod_lt _ (Nat.zero_lt_of_lt bound)
    refine ⟨⟨moved, notPanicked, setupWalked, userWalked.call ?_⟩,
      ⟨⟨moved, sound.byName⟩, sound.setupByName⟩, ?_⟩
    · refine ⟨cursor, by simp, by simp, ?_⟩
      rintro _ _ ⟨⟩
      exact ⟨SpecId.ofIndex_lt bound, fun _ => ⟨index, bound, rfl, rfl⟩⟩
    · rintro _ ⟨⟩
      exact ⟨_, _, rfl, rfl, _, rfl⟩

theorem Coherent.revert {lua : Lua World} {walk next : ScriptWalk World}
    (coherent : walk.Coherent) (stepped : walk.step lua .revert = some next) :
    next.Coherent := by
  rcases coherent with ⟨⟨cursor, notPanicked, setupWalked, userWalked⟩, sound, handle⟩
  simp only [step] at stepped
  cases held : walk.handle with
  | none => rw [held] at stepped; cases stepped
  | some last =>
      rw [held] at stepped
      cases stepped
      rcases handle last held with ⟨earlier, call, callsEq, beforeEq, taken, resultEq⟩
      rw [callsEq] at userWalked
      rcases userWalked.of_concat with ⟨walked, moved, -⟩
      have bound : last.previousCursor < walk.runner.userSpecs.length :=
        beforeEq ▸ moved.inside
      refine ⟨⟨bound, notPanicked, setupWalked, ?_⟩,
        ⟨⟨bound, sound.byName⟩, sound.setupByName⟩, by simp⟩
      have settled : UserCall.Moves walk.runner.userSpecs.length
          { call with reverted := true, after := last.previousCursor } := by
        refine ⟨moved.inside, ?_, fun _ => beforeEq.symm, ?_⟩
        · intro err failed
          simp [resultEq] at failed
        · intro specId spec takenEq
          exact ⟨(moved.taken specId spec takenEq).1, by simp⟩
      have whole := Walked.call
        (show Walked UserCall.before UserCall.after _ earlier
          { call with reverted := true, after := last.previousCursor }.before from walked) settled
      simp only [callsEq, List.dropLast_concat, List.getLast?_concat, Option.toList_some,
        List.map_singleton]
      exact whole

theorem Coherent.step {lua : Lua World} {walk next : ScriptWalk World} {event : Event World}
    (coherent : walk.Coherent) (stepped : walk.step lua event = some next) :
    next.Coherent := by
  cases event with
  | nextSetupSpec calls => exact coherent.nextSetupSpec stepped
  | nextUserSpec calls => exact coherent.nextUserSpec stepped
  | revert => exact coherent.revert stepped
  | runLua world =>
      cases stepped
      rcases coherent with ⟨⟨cursor, notPanicked, setupWalked, userWalked⟩, sound, handle⟩
      exact ⟨⟨cursor, notPanicked, setupWalked, userWalked⟩,
        ⟨⟨sound.cursor, sound.byName⟩, sound.setupByName⟩, handle⟩

theorem coherent_of_reachable {lua : Lua World} {walk : ScriptWalk World}
    (reachable : (machine lua).Reachable walk) : walk.Coherent := by
  apply reachable.invariant
  · rintro walk ⟨handle, setupCalls, userCalls, notPanicked, setupSpecs, userSpecs, loaded, made⟩
    have sound := ScriptRunner.sound_of_ofSpecs made
    have cursors : walk.runner.setupCursor = 0 ∧ walk.runner.userCursor = 0 := by
      unfold ScriptRunner.ofSpecs at made
      split_ifs at made
      rw [← Option.some.inj made]
      exact ⟨rfl, rfl⟩
    refine ⟨⟨sound.cursor, notPanicked, ?_, ?_⟩, sound, by simp [handle]⟩
    · rw [setupCalls, cursors.1]
      exact .start
    · rw [userCalls, cursors.2]
      exact .start
  · intro _ _ _ coherent _ stepped
    exact coherent.step stepped

end ScriptWalk

/-! ## Static specs -/

def LuaRequestSpec.staticRequest (spec : LuaRequestSpec) : Option RequestSpec :=
  match spec.spec with
  | .static request => some request
  | .dynamic _ => none

/-- The spec at a position, if it is static. -/
def staticSpec (specs : List LuaRequestSpec) (index : Nat) : Option (SpecId × RequestSpec) :=
  (specs[index]?.bind (·.staticRequest)).map (.ofIndex index, ·)

def AllStatic (specs : List LuaRequestSpec) : Prop := ∀ spec ∈ specs, spec.staticRequest.isSome

/-- A static spec is taken without running any Lua code. -/
theorem Script.nextSpec_static {World : Type} (lua : Lua World) {specs : List LuaRequestSpec}
    (byName : SortedMap String Nat) (calls : Nat) {cursor : Nat} (world : World)
    (static : AllStatic specs) (inside : cursor < specs.length) :
    ∃ request, staticSpec specs cursor = some (.ofIndex cursor, request) ∧
      nextSpec lua specs byName calls cursor world = .returned (.ok (cursor, request), world) := by
  have found := List.getElem?_eq_getElem inside
  have isSome := static _ (List.getElem_mem inside)
  generalize specs[cursor] = spec at found isSome
  rcases spec with ⟨name, request | function⟩
  · exact ⟨request, by simp [staticSpec, found, LuaRequestSpec.staticRequest],
      by simp [nextSpec, found]⟩
  · simp [LuaRequestSpec.staticRequest] at isSome

theorem staticSpec_of_length_le {specs : List LuaRequestSpec} {index : Nat}
    (outside : specs.length ≤ index) : staticSpec specs index = none := by
  simp [staticSpec, List.getElem?_eq_none outside]

theorem ScriptRunner.nextSetupSpec_static {World : Type} (lua : Lua World) (calls : Nat)
    {runner : ScriptRunner World} (static : AllStatic runner.setupSpecs) :
    runner.nextSetupSpec lua calls =
      .returned (.ok (staticSpec runner.setupSpecs runner.setupCursor),
        { runner with
          setupCursor := if runner.setupCursor < runner.setupSpecs.length then
            runner.setupCursor + 1 else runner.setupCursor }) := by
  by_cases inside : runner.setupCursor < runner.setupSpecs.length
  · rcases nextSpec_static lua runner.setupSpecsByName calls runner.world static inside with
      ⟨request, specEq, nextEq⟩
    have nonempty : runner.setupSpecs ≠ [] := List.ne_nil_of_length_pos (by omega)
    rw [nextSetupSpec, if_neg (by simp [nonempty, inside]), nextEq, specEq, if_pos inside]
    rfl
  · have outside := Nat.le_of_not_lt inside
    rw [nextSetupSpec, if_pos (Or.inr outside), staticSpec_of_length_le outside, if_neg inside]

theorem ScriptRunner.nextUserSpec_static {World : Type} (lua : Lua World) (calls : Nat)
    {runner : ScriptRunner World} (wellFormed : runner.WellFormed)
    (static : AllStatic runner.userSpecs) :
    ∃ request, runner.nextUserSpec lua calls =
      .returned (.ok (⟨runner.userCursor⟩, .ofIndex runner.userCursor, request),
        { runner with userCursor := (runner.userCursor + 1) % runner.userSpecs.length }) := by
  rcases nextSpec_static lua runner.userSpecsByName calls runner.world static wellFormed.cursor
    with ⟨request, -, nextEq⟩
  refine ⟨request, ?_⟩
  rw [nextUserSpec, nextEq]
  rfl

namespace ScriptWalk

variable {World : Type}

/-- Static setup specs are returned once each, in the order of their declaration. -/
structure SetupInOrder (walk : ScriptWalk World) : Prop where
  cursor : walk.runner.setupCursor =
    min walk.setupCalls.length walk.runner.setupSpecs.length
  results : ∀ (index : Nat) (call : SetupCall), walk.setupCalls[index]? = some call →
    call.result = .ok (staticSpec walk.runner.setupSpecs index)

theorem SetupInOrder.nextSetupSpec {lua : Lua World} {walk next : ScriptWalk World}
    {calls : Nat} (inOrder : walk.SetupInOrder) (static : AllStatic walk.runner.setupSpecs)
    (stepped : walk.step lua (.nextSetupSpec calls) = some next) : next.SetupInOrder := by
  simp only [step] at stepped
  rw [ScriptRunner.nextSetupSpec_static lua calls static] at stepped
  cases stepped
  have cursor := inOrder.cursor
  constructor
  · simp only [List.length_append, List.length_singleton]
    split <;> omega
  · intro index call found
    rcases List.getElem?_concat_eq_some.mp found with old | ⟨rfl, rfl⟩
    · exact inOrder.results index call old
    · by_cases inside : walk.setupCalls.length < walk.runner.setupSpecs.length
      · rw [Nat.min_eq_left inside.le] at cursor
        rw [cursor]
      · have outside := Nat.le_of_not_lt inside
        rw [Nat.min_eq_right outside] at cursor
        rw [cursor, staticSpec_of_length_le outside, staticSpec_of_length_le (Nat.le_refl _)]

/-- No step changes the setup specs, and only one kind of step their cursor. -/
theorem step_setup {lua : Lua World} {walk next : ScriptWalk World} {event : Event World}
    (coherent : walk.Coherent) (stepped : walk.step lua event = some next) :
    next.runner.setupSpecs = walk.runner.setupSpecs ∧
      ((∃ calls, event = .nextSetupSpec calls) ∨
        next.runner.setupCursor = walk.runner.setupCursor ∧
          next.setupCalls = walk.setupCalls) := by
  cases event with
  | nextSetupSpec calls =>
      refine ⟨?_, Or.inl ⟨calls, rfl⟩⟩
      simp only [step] at stepped
      rcases walk.runner.nextSetupSpec_cases lua calls coherent.sound with ⟨-, returned⟩ |
        ⟨-, unfinished | ⟨err, world, returned⟩ | ⟨index, bound, spec, world, returned⟩⟩
      · rw [returned] at stepped
        cases stepped
        rfl
      · rw [unfinished] at stepped
        cases stepped
      · rw [returned] at stepped
        cases stepped
        rfl
      · rw [returned] at stepped
        cases stepped
        rfl
  | nextUserSpec calls =>
      simp only [step] at stepped
      rcases walk.runner.nextUserSpec_cases lua calls coherent.sound.toWellFormed with
        unfinished | ⟨err, world, returned⟩ | ⟨index, bound, spec, world, returned⟩
      · rw [unfinished] at stepped
        cases stepped
      · rw [returned] at stepped
        cases stepped
        exact ⟨rfl, Or.inr ⟨rfl, rfl⟩⟩
      · rw [returned] at stepped
        cases stepped
        exact ⟨rfl, Or.inr ⟨rfl, rfl⟩⟩
  | revert =>
      simp only [step] at stepped
      cases held : walk.handle with
      | none => rw [held] at stepped; cases stepped
      | some last =>
          rw [held] at stepped
          cases stepped
          exact ⟨rfl, Or.inr ⟨rfl, rfl⟩⟩
  | runLua world =>
      cases stepped
      exact ⟨rfl, Or.inr ⟨rfl, rfl⟩⟩

theorem setupInOrder_of_reachable {lua : Lua World} {walk : ScriptWalk World}
    (reachable : (machine lua).Reachable walk) (static : AllStatic walk.runner.setupSpecs) :
    walk.SetupInOrder := by
  revert static
  apply reachable.invariant_of_known fun _ => coherent_of_reachable
  · rintro walk ⟨-, setupCalls, -, -, setupSpecs, userSpecs, loaded, made⟩ -
    unfold ScriptRunner.ofSpecs at made
    split_ifs at made
    constructor
    · rw [setupCalls, ← Option.some.inj made]
      simp
    · simp [setupCalls]
  · intro walk event next coherent inOrder _ stepped static
    rcases step_setup coherent stepped with ⟨specs, ⟨calls, rfl⟩ | ⟨cursor, setupCalls⟩⟩
    · rw [specs] at static
      exact (inOrder static).nextSetupSpec static stepped
    · rw [specs] at static
      have before := inOrder static
      exact ⟨by rw [cursor, setupCalls, specs]; exact before.cursor,
        by rw [setupCalls, specs]; exact before.results⟩

end ScriptWalk

/-! ## Requests of a virtual user -/

/-- What the outside contributes to a request: the calls that a chain of jumps may take,
the response, and the clock at both ends of the measurement. -/
structure Exchange where
  calls : Nat
  sentAt : Instant
  response : Except RequestError HttpResponse
  finishedAt : Instant

def Outcome.isSuccess : Outcome → Bool
  | .success .. => true
  | _ => false

def Outcome.specId : Outcome → Option SpecId
  | .success _ specId _ | .failed _ specId _ _ | .timeout _ specId _ _ => some specId
  | .dropped .. => none

namespace VirtualUser

variable {World Url Jar : Type}

def execute (lua : Lua World) (web : WebLibrary Url Jar) (user : VirtualUser World Jar)
    (spec : HttpStaticRequestSpec) (exchange : Exchange) :
    Except HttpExecuteError RequestTiming × VirtualUser World Jar :=
  match resolveUrl web spec user.serviceRegistry with
  | .error source => (.error (.url source), user)
  | .ok url =>
      (user.storeCookies web url exchange.response).judge lua spec exchange.response
        ⟨exchange.sentAt, ⟨exchange.finishedAt - exchange.sentAt⟩⟩

/-- `_send_next_request` -/
def sendNextRequest (lua : Lua World) (web : WebLibrary Url Jar)
    (user : VirtualUser World Jar) (exchange : Exchange) :
    Run (Outcome × VirtualUser World Jar) :=
  (user.runner.nextUserSpec lua exchange.calls).map fun
    | (.error err, runner) =>
        (.dropped (some user.id) (.error err.text), { user with runner })
    | (.ok (handle, specId, .http spec), runner) =>
        let executed := execute lua web { user with runner } spec exchange
        executed.2.conclude handle specId executed.1

/-- The cursor stays where it is while a request is executed. -/
theorem execute_runner (lua : Lua World) (web : WebLibrary Url Jar)
    (user : VirtualUser World Jar) (spec : HttpStaticRequestSpec) (exchange : Exchange) :
    user.runner.MovedTo (user.execute lua web spec exchange).2.runner user.runner.userCursor := by
  unfold execute
  cases resolveUrl web spec user.serviceRegistry with
  | error source => exact ⟨rfl, rfl, rfl⟩
  | ok url =>
      have judged := judge_spec lua (user.storeCookies web url exchange.response) spec
        exchange.response ⟨exchange.sentAt, ⟨exchange.finishedAt - exchange.sentAt⟩⟩
      rw [storeCookies_runner] at judged
      exact judged.2

/-- A success keeps the cursor behind the spec, anything else takes the spec back. -/
theorem conclude_spec (user : VirtualUser World Jar) (handle : RevertHandle) (specId : SpecId)
    (result : Except HttpExecuteError RequestTiming) :
    (∀ id, (user.conclude handle specId result).1.specId = some id → id = specId) ∧
      user.runner.MovedTo (user.conclude handle specId result).2.runner
        (if (user.conclude handle specId result).1.isSuccess then user.runner.userCursor
        else handle.previousCursor) := by
  cases result with
  | ok timing =>
      refine ⟨?_, rfl, rfl, rfl⟩
      rintro _ ⟨⟩
      rfl
  | error err =>
      cases err with
      | url source => exact ⟨by simp [conclude, mapExecutionError, Outcome.specId], rfl, rfl, rfl⟩
      | timeout | failed | status | extract =>
          refine ⟨?_, rfl, rfl, rfl⟩
          rintro _ ⟨⟩
          rfl

/-- A request of a static spec: it bears the position of the spec, and the cursor moves
on if it succeeds. -/
theorem sendNextRequest_static (lua : Lua World) (web : WebLibrary Url Jar)
    {user : VirtualUser World Jar} (exchange : Exchange) (wellFormed : user.runner.WellFormed)
    (static : AllStatic user.runner.userSpecs) :
    ∃ outcome after, user.sendNextRequest lua web exchange = .returned (outcome, after) ∧
      (∀ id, outcome.specId = some id → id = .ofIndex user.runner.userCursor) ∧
        user.runner.MovedTo after.runner
          (if outcome.isSuccess then
            (user.runner.userCursor + 1) % user.runner.userSpecs.length
          else user.runner.userCursor) := by
  rcases ScriptRunner.nextUserSpec_static lua exchange.calls wellFormed static with
    ⟨⟨spec⟩, nextEq⟩
  let moved : ScriptRunner World := { user.runner with
    userCursor := (user.runner.userCursor + 1) % user.runner.userSpecs.length }
  let ended := execute lua web { user with runner := moved } spec exchange
  let last := ended.2.conclude ⟨user.runner.userCursor⟩ (.ofIndex user.runner.userCursor) ended.1
  have sent : user.sendNextRequest lua web exchange = .returned last := by
    rw [sendNextRequest, nextEq]
    rfl
  have executed : moved.MovedTo ended.2.runner moved.userCursor :=
    execute_runner lua web { user with runner := moved } spec exchange
  rcases conclude_spec ended.2 ⟨user.runner.userCursor⟩ (.ofIndex user.runner.userCursor) ended.1
    with ⟨own, concluded⟩
  refine ⟨last.1, last.2, sent, own, ?_, ?_, ?_⟩
  · exact concluded.specs.trans executed.specs
  · exact concluded.byName.trans executed.byName
  · rw [concluded.cursor, executed.cursor]

end VirtualUser

namespace Dispatch

variable {World Url Jar : Type} {lua : Lua World} {web : WebLibrary Url Jar}

/-- What `next_user_spec` has made of a virtual user. -/
def Attempt.TakenBy (lua : Lua World) (user : VirtualUser World Jar) (calls : Nat)
    (attempt : Attempt World Jar) : Prop :=
  ∃ runner, user.runner.nextUserSpec lua calls =
      .returned (.ok (attempt.handle, attempt.specId, .http attempt.spec), runner) ∧
    attempt.user = { user with runner }

/-- The stages between taking a spec and having an outcome, for a task that was handed
`user` and has met with `exchange` so far. -/
def Executing (lua : Lua World) (web : WebLibrary Url Jar) (user : VirtualUser World Jar)
    (exchange : Exchange) : Stage World Url Jar → Prop
  | .ready current => current = user
  | .resolved attempt => attempt.TakenBy lua user exchange.calls
  | .located attempt url => attempt.TakenBy lua user exchange.calls ∧
      VirtualUser.resolveUrl web attempt.spec attempt.user.serviceRegistry = .ok url
  | .measuring attempt url sentAt | .sending attempt url sentAt =>
      attempt.TakenBy lua user exchange.calls ∧ exchange.sentAt = sentAt ∧
        VirtualUser.resolveUrl web attempt.spec attempt.user.serviceRegistry = .ok url
  | .received attempt sentAt response => ∃ (before : Attempt World Jar) (url : Url),
      before.TakenBy lua user exchange.calls ∧ exchange.sentAt = sentAt ∧
        exchange.response = response ∧
        VirtualUser.resolveUrl web before.spec before.user.serviceRegistry = .ok url ∧
          attempt = { before with user := before.user.storeCookies web url response }
  | .measured attempt response timing => ∃ (before : Attempt World Jar) (url : Url),
      before.TakenBy lua user exchange.calls ∧
        timing = ⟨exchange.sentAt, ⟨exchange.finishedAt - exchange.sentAt⟩⟩ ∧
        exchange.response = response ∧
        VirtualUser.resolveUrl web before.spec before.user.serviceRegistry = .ok url ∧
          attempt = { before with user := before.user.storeCookies web url response }
  | .concluded current outcome =>
      user.sendNextRequest lua web exchange = .returned (outcome, current)
  | _ => False

/-- The end of a request whose spec has been taken. -/
theorem sendNextRequest_of_taken (web : WebLibrary Url Jar) {user : VirtualUser World Jar}
    {exchange : Exchange} {attempt : Attempt World Jar}
    (taken : attempt.TakenBy lua user exchange.calls) :
    let executed := attempt.user.execute lua web attempt.spec exchange
    user.sendNextRequest lua web exchange =
      .returned (executed.2.conclude attempt.handle attempt.specId executed.1) := by
  rcases taken with ⟨runner, nextEq, userEq⟩
  rw [VirtualUser.sendNextRequest, nextEq, userEq]
  rfl

/-- Whatever else happens between its steps, a task that has taken a virtual user sends
its next request. -/
theorem Executing.step {user : VirtualUser World Jar} {exchange : Exchange} {now : Instant}
    {task next : Task World Url Jar} {stage : Stage World Url Jar} {event : TaskEvent}
    (executing : Executing lua web user exchange stage)
    (stepped : ownStep lua web now task stage event = some next) :
    (∃ after, Executing lua web user after next.stage) ∨
      next.stage = .panicked (some user) ∨
        ∃ current outcome, stage = .concluded current outcome := by
  revert executing stepped
  fun_cases ownStep lua web now task stage event
  all_goals intro executing stepped
  all_goals cases stepped
  case case1 | case2 | case3 | case4 | case17 | case18 => exact executing.elim
  case case6 current calls panicked =>
    right
    left
    exact congrArg (fun lost => Stage.panicked (some lost)) executing
  case case7 current calls err runner resolved =>
    left
    obtain rfl : current = user := executing
    refine ⟨{ exchange with calls }, ?_⟩
    change VirtualUser.sendNextRequest lua web current { exchange with calls } = _
    rw [VirtualUser.sendNextRequest, resolved]
    rfl
  case case8 current calls handle specId spec runner resolved =>
    left
    obtain rfl : current = user := executing
    exact ⟨{ exchange with calls }, runner, resolved, rfl⟩
  case case9 attempt url located => exact .inl ⟨exchange, executing, located⟩
  case case10 attempt source unresolved =>
    left
    refine ⟨exchange, ?_⟩
    have sent := sendNextRequest_of_taken web executing
    simp only [VirtualUser.execute, unresolved] at sent
    exact sent
  case case11 attempt url =>
    exact .inl ⟨{ exchange with sentAt := now }, executing.1, rfl, executing.2⟩
  case case12 attempt url sentAt => exact .inl ⟨exchange, executing⟩
  case case13 attempt url sentAt response =>
    rcases executing with ⟨taken, sent, located⟩
    exact .inl ⟨{ exchange with response }, attempt, url, taken, sent, rfl, located, rfl⟩
  case case14 attempt sentAt response =>
    rcases executing with ⟨before, url, taken, rfl, received, located, attemptEq⟩
    exact .inl ⟨{ exchange with finishedAt := now }, before, url, taken, rfl, received, located,
      attemptEq⟩
  case case15 attempt response timing =>
    rcases executing with ⟨before, url, taken, rfl, rfl, located, rfl⟩
    left
    refine ⟨exchange, ?_⟩
    have sent := sendNextRequest_of_taken web taken
    simp only [VirtualUser.execute, located] at sent
    exact sent
  case case16 current outcome => exact .inr (.inr ⟨current, outcome, rfl⟩)

end Dispatch

/-- A transaction that a virtual user has executed, with the spec that it took for it. -/
structure Execution where
  specId : Option SpecId
  outcome : Outcome

/-- A virtual user and the transactions it has executed. -/
structure Requests (World Jar : Type) where
  user : VirtualUser World Jar
  executed : List Execution

namespace Requests

variable {World Url Jar : Type}

/-- The spec that a virtual user takes next. -/
def takes (lua : Lua World) (user : VirtualUser World Jar) (calls : Nat) : Option SpecId :=
  match user.runner.nextUserSpec lua calls with
  | .returned (.ok (_, specId, _), _) => some specId
  | _ => none

/-- At first the virtual user has been set up with the script of these specs. -/
def machine (lua : Lua World) (web : WebLibrary Url Jar) (userSpecs : List LuaRequestSpec) :
    Machine (Requests World Jar) Exchange where
  initial requests := requests.executed = [] ∧
    ∃ (setupSpecs : List LuaRequestSpec) (loaded : World) (runner : ScriptRunner World),
      ScriptRunner.ofSpecs setupSpecs userSpecs loaded = some runner ∧
        requests.user.runner = { runner with
          world := requests.user.runner.world
          setupCursor := requests.user.runner.setupCursor }
  step requests exchange :=
    match requests.user.sendNextRequest lua web exchange with
    | .returned (outcome, user) =>
        some ⟨user, requests.executed ++
          [⟨takes lua requests.user exchange.calls, outcome⟩]⟩
    | .panicked | .unfinished => none

def successes (executed : List Execution) : Nat :=
  executed.countP (·.outcome.isSuccess)

/-- Every transaction is about the spec that follows the last successful one. -/
structure InOrder (requests : Requests World Jar) : Prop where
  wellFormed : requests.user.runner.WellFormed
  cursor : requests.user.runner.userCursor =
    successes requests.executed % requests.user.runner.userSpecs.length
  specIds : ∀ (index : Nat) (execution : Execution),
    requests.executed[index]? = some execution →
      let expected := SpecId.ofIndex (successes (requests.executed.take index) %
        requests.user.runner.userSpecs.length)
      execution.specId = some expected ∧
        ∀ specId, execution.outcome.specId = some specId → specId = expected

theorem takes_static (lua : Lua World) {user : VirtualUser World Jar} (calls : Nat)
    (wellFormed : user.runner.WellFormed) (static : AllStatic user.runner.userSpecs) :
    takes lua user calls = some (.ofIndex user.runner.userCursor) := by
  rcases ScriptRunner.nextUserSpec_static lua calls wellFormed static with ⟨request, nextEq⟩
  rw [takes, nextEq]

theorem InOrder.step {lua : Lua World} {web : WebLibrary Url Jar}
    {requests next : Requests World Jar} {exchange : Exchange} (inOrder : requests.InOrder)
    (static : AllStatic requests.user.runner.userSpecs)
    {userSpecs : List LuaRequestSpec}
    (stepped : (machine lua web userSpecs).step requests exchange = some next) :
    next.user.runner.userSpecs = requests.user.runner.userSpecs ∧ next.InOrder := by
  rcases requests with ⟨user, executed⟩
  rcases inOrder with ⟨wellFormed, cursor, specIds⟩
  rcases VirtualUser.sendNextRequest_static lua web exchange wellFormed static with
    ⟨outcome, after, sent, own, moved⟩
  simp only [machine, sent, takes_static lua exchange.calls wellFormed static] at stepped
  cases stepped
  simp only at wellFormed cursor specIds
  have bound : (if outcome.isSuccess then
      (user.runner.userCursor + 1) % user.runner.userSpecs.length
      else user.runner.userCursor) < user.runner.userSpecs.length := by
    split
    · exact Nat.mod_lt _ (Nat.zero_lt_of_lt wellFormed.cursor)
    · exact wellFormed.cursor
  refine ⟨moved.specs, wellFormed.movedTo moved bound, ?_, ?_⟩
  · rw [moved.cursor, moved.specs, successes, List.countP_append, List.countP_singleton, cursor,
      successes]
    by_cases success : outcome.isSuccess
    · rw [if_pos success, if_pos success, Nat.mod_add_mod]
    · rw [if_neg success, if_neg success, Nat.add_zero]
  · intro index execution found
    rw [moved.specs]
    rcases List.getElem?_concat_eq_some.mp found with old | ⟨rfl, rfl⟩
    · have inside := (List.getElem?_eq_some_iff.mp old).1
      rw [List.take_append_of_le_length inside.le]
      exact specIds index execution old
    · rw [List.take_left, ← cursor]
      exact ⟨rfl, own⟩

theorem inOrder_of_reachable {lua : Lua World} {web : WebLibrary Url Jar}
    {userSpecs : List LuaRequestSpec} {requests : Requests World Jar}
    (reachable : (machine lua web userSpecs).Reachable requests) (static : AllStatic userSpecs) :
    requests.user.runner.userSpecs = userSpecs ∧ requests.InOrder := by
  apply reachable.invariant
  · rintro requests ⟨executed, setupSpecs, loaded, runner, made, runnerEq⟩
    have sound := ScriptRunner.sound_of_ofSpecs made
    have fresh : runner.userCursor = 0 ∧ runner.userSpecs = userSpecs := by
      unfold ScriptRunner.ofSpecs at made
      split_ifs at made
      rw [← Option.some.inj made]
      exact ⟨rfl, rfl⟩
    refine ⟨by rw [runnerEq]; exact fresh.2, ?_, ?_, by simp [executed]⟩
    · rw [runnerEq]
      exact ⟨sound.cursor, sound.byName⟩
    · rw [runnerEq, executed]
      simp [successes, fresh.1]
  · rintro requests exchange next ⟨specs, inOrder⟩ _ stepped
    rw [← specs] at static
    rcases inOrder.step static stepped with ⟨same, nextInOrder⟩
    exact ⟨same.trans specs, nextInOrder⟩

/-- Nothing can keep a static spec from being sent. -/
theorem InOrder.step_ne_none {requests : Requests World Jar} (inOrder : requests.InOrder)
    (lua : Lua World) (web : WebLibrary Url Jar)
    (static : AllStatic requests.user.runner.userSpecs) (exchange : Exchange) :
    (machine lua web requests.user.runner.userSpecs).step requests exchange ≠ none := by
  rcases VirtualUser.sendNextRequest_static lua web exchange inOrder.wellFormed static with
    ⟨outcome, after, sent, -⟩
  simp [machine, sent]

end Requests

/-- However a script runner is called, it walks through its script in order; with static
specs only, each setup spec is returned once, and each transaction of a virtual user is
about the spec that follows its last success. -/
theorem script_walked_in_order {World Url Jar : Type} (lua : Lua World)
    (web : WebLibrary Url Jar) :
    (∀ walk, (ScriptWalk.machine lua).Reachable walk →
      walk.InOrder ∧ (AllStatic walk.runner.setupSpecs → walk.SetupInOrder)) ∧
    ∀ (userSpecs : List LuaRequestSpec) (requests : Requests World Jar),
      (Requests.machine lua web userSpecs).Reachable requests → AllStatic userSpecs →
        requests.user.runner.userSpecs = userSpecs ∧ requests.InOrder ∧
          ∀ exchange, (Requests.machine lua web userSpecs).step requests exchange ≠ none := by
  constructor
  · intro walk reachable
    exact ⟨(ScriptWalk.coherent_of_reachable reachable).toInOrder,
      ScriptWalk.setupInOrder_of_reachable reachable⟩
  · intro userSpecs requests reachable static
    rcases Requests.inOrder_of_reachable reachable static with ⟨rfl, inOrder⟩
    exact ⟨rfl, inOrder, inOrder.step_ne_none lua web static⟩

section TwoSpecs

open Dispatch

def twoSpecs : List LuaRequestSpec :=
  [⟨some "cart", .static (.http OneUser.spec)⟩,
    ⟨none, .static (.http { OneUser.spec with path := "/checkout" })⟩]

def twoSpecsRequests : Requests Unit Unit where
  user := { OneUser.user ⟨0⟩ with
    runner :=
      { world := ()
        setupSpecs := []
        setupSpecsByName := specsByName []
        setupCursor := 0
        userSpecs := twoSpecs
        userSpecsByName := specsByName twoSpecs
        userCursor := 0 } }
  executed := []

/-- The second of three requests times out and is sent again. -/
theorem script_walked_in_order_twoSpecs :
    ∃ requests : Requests Unit Unit,
      requests.executed.map (·.specId) = [some ⟨0⟩, some ⟨1⟩, some ⟨1⟩] ∧
        requests.InOrder := by
  have initial : (Requests.machine OneUser.lua OneUser.web twoSpecs).initial twoSpecsRequests :=
    ⟨rfl, [], (), _, rfl, rfl⟩
  have static : AllStatic twoSpecs := by
    unfold AllStatic
    decide
  rcases Machine.exists_reachable_of_exec _ initial
    [⟨0, 0, .ok ⟨200, [], none⟩, 1⟩, ⟨0, 2, .error (.timeout "late"), 3⟩,
      ⟨0, 4, .ok ⟨200, [], none⟩, 5⟩]
    (fun requests => decide
      (requests.executed.map (·.specId) = [some ⟨0⟩, some ⟨1⟩, some ⟨1⟩]))
    (by decide) with ⟨requests, reachable, checked⟩
  rcases (script_walked_in_order OneUser.lua OneUser.web).2 twoSpecs requests reachable static with
    ⟨-, inOrder, -⟩
  exact ⟨requests, of_decide_eq_true checked, inOrder⟩

end TwoSpecs

end CreoBench
