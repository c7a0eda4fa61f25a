import CreoBench.ScriptWalk

/-!
# Chains of jumps

The documented protocol, told without a cursor or a bound: the function of a
dynamic spec is called; a name that it returns leads to the last spec of that
name, which ends the chain if it is static and continues it if it is dynamic.
Resolution computes exactly these chains.
-/

namespace CreoBench

open Script

variable {World : Type}

/-- How a call of a dynamic spec's function can fail. -/
inductive CallFailure where
  | raised (message : String)
  | malformedTable (source : String)
  | notString (value typeName : String)
  | notUtf8 (value : String)
  deriving DecidableEq

/-- What the function of a dynamic spec says. -/
inductive Answer where
  | spec (spec : RequestSpec)
  | jump (name : String)
  | failed (failure : CallFailure)
  deriving DecidableEq

/-- Call a dynamic spec's function once. -/
def Lua.answer (lua : Lua World) (function : LuaFunction) (world : World) : Answer × World :=
  match lua.call function world with
  | (.error message, world) => (.failed (.raised message), world)
  | (.ok (.table contents), world) =>
      match lua.parseStaticSpec contents world with
      | .error source => (.failed (.malformedTable source), world)
      | .ok spec => (.spec spec, world)
  | (.ok (.string bytes), world) =>
      match stringFromUtf8 bytes with
      | .error _ => (.failed (.notUtf8 (lua.debug (.string bytes) world)), world)
      | .ok name => (.jump name, world)
  | (.ok (.other typeName handle), world) =>
      (.failed (.notString (lua.debug (.other typeName handle) world) typeName), world)

/-- A position is that of the last spec with a name. -/
structure LastNamed (specs : List LuaRequestSpec) (name : String) (position : Nat) : Prop where
  named : ∃ spec, specs[position]? = some spec ∧ spec.name = some name
  last : ∀ (later : Nat) (spec : LuaRequestSpec), position < later →
    specs[later]? = some spec → spec.name ≠ some name

inductive ChainEnd where
  | found (position : Nat) (spec : RequestSpec)
  | unknownJump (name : String)
  | failed (failure : CallFailure)

/-- A finite chain of jumps: the positions and functions that are called one after the
other, the last of these positions, how it ends, and what it makes of the runtime. -/
inductive Chain (lua : Lua World) (specs : List LuaRequestSpec) :
    Nat → LuaFunction → World → List (Nat × LuaFunction) → Nat → ChainEnd → World → Prop
  | answered {position : Nat} {function : LuaFunction} {world after : World}
      {spec : RequestSpec} (answer : lua.answer function world = (.spec spec, after)) :
      Chain lua specs position function world [(position, function)] position
        (.found position spec) after
  | failed {position : Nat} {function : LuaFunction} {world after : World}
      {failure : CallFailure} (answer : lua.answer function world = (.failed failure, after)) :
      Chain lua specs position function world [(position, function)] position
        (.failed failure) after
  | unknownJump {position : Nat} {function : LuaFunction} {world after : World} {name : String}
      (answer : lua.answer function world = (.jump name, after))
      (unknown : ∀ spec ∈ specs, spec.name ≠ some name) :
      Chain lua specs position function world [(position, function)] position
        (.unknownJump name) after
  | static {position target : Nat} {function : LuaFunction} {world after : World}
      {name : String} {label : Option String} {spec : RequestSpec}
      (answer : lua.answer function world = (.jump name, after))
      (named : LastNamed specs name target)
      (reached : specs[target]? = some ⟨label, .static spec⟩) :
      Chain lua specs position function world [(position, function)] position
        (.found target spec) after
  | dynamic {position target last : Nat} {function next : LuaFunction}
      {world between after : World} {name : String} {label : Option String}
      {visited : List (Nat × LuaFunction)} {ending : ChainEnd}
      (answer : lua.answer function world = (.jump name, between))
      (named : LastNamed specs name target)
      (reached : specs[target]? = some ⟨label, .dynamic next⟩)
      (rest : Chain lua specs target next between visited last ending after) :
      Chain lua specs position function world ((position, function) :: visited) last ending after

/-! ## Names -/

namespace Script

theorem lookupSpec_concat (specs : List LuaRequestSpec) (spec : LuaRequestSpec)
    (name : String) :
    lookupSpec (specsByName (specs ++ [spec])) name =
      if spec.name = some name then some specs.length
      else lookupSpec (specsByName specs) name := by
  unfold lookupSpec specsByName
  rw [List.zipIdx_append, List.filterMap_append]
  cases label : spec.name with
  | none => simp [label]
  | some own =>
      simp only [List.zipIdx_singleton, List.filterMap_cons, List.filterMap_nil, label,
        Option.map_some, Nat.zero_add]
      rw [SortedMap.find?_ofEntries_concat]
      by_cases same : own = name <;> simp [same]

theorem lastNamed_concat (specs : List LuaRequestSpec) (spec : LuaRequestSpec) (name : String)
    (position : Nat) : LastNamed (specs ++ [spec]) name position ↔
      if spec.name = some name then position = specs.length
      else LastNamed specs name position := by
  by_cases label : spec.name = some name
  · rw [if_pos label]
    constructor
    · rintro ⟨⟨other, found, -⟩, last⟩
      have bound := (List.getElem?_eq_some_iff.mp found).1
      rw [List.length_append, List.length_singleton] at bound
      by_contra differs
      exact last specs.length spec (by omega) List.getElem?_concat_length label
    · rintro rfl
      refine ⟨⟨spec, List.getElem?_concat_length, label⟩, ?_⟩
      intro later other beyond found
      have bound := (List.getElem?_eq_some_iff.mp found).1
      rw [List.length_append, List.length_singleton] at bound
      omega
  · rw [if_neg label]
    constructor
    · rintro ⟨⟨other, found, named⟩, last⟩
      rcases List.getElem?_concat_eq_some.mp found with old | ⟨-, rfl⟩
      · exact ⟨⟨other, old, named⟩, fun later another beyond atLater =>
          last later another beyond (List.getElem?_concat_eq_some.mpr (.inl atLater))⟩
      · exact absurd named label
    · rintro ⟨⟨other, found, named⟩, last⟩
      refine ⟨⟨other, List.getElem?_concat_eq_some.mpr (.inl found), named⟩, ?_⟩
      intro later another beyond atLater
      rcases List.getElem?_concat_eq_some.mp atLater with old | ⟨-, rfl⟩
      · exact last later another beyond old
      · exact label

/-- A name is looked up as the last spec that bears it. -/
theorem lookupSpec_eq_some_iff {specs : List LuaRequestSpec} {name : String} {position : Nat} :
    lookupSpec (specsByName specs) name = some position ↔ LastNamed specs name position := by
  induction specs using List.reverseRecOn with
  | nil => exact ⟨by rintro ⟨⟩, by rintro ⟨⟨_, ⟨⟩, _⟩, _⟩⟩
  | append_singleton specs spec ih =>
      rw [lookupSpec_concat, lastNamed_concat]
      by_cases label : spec.name = some name
      · rw [if_pos label, if_pos label, Option.some.injEq, eq_comm]
      · rw [if_neg label, if_neg label, ih]

theorem lookupSpec_eq_none_iff {specs : List LuaRequestSpec} {name : String} :
    lookupSpec (specsByName specs) name = none ↔ ∀ spec ∈ specs, spec.name ≠ some name := by
  induction specs using List.reverseRecOn with
  | nil => exact ⟨fun _ _ member => absurd member List.not_mem_nil, fun _ => rfl⟩
  | append_singleton specs spec ih =>
      rw [lookupSpec_concat]
      by_cases label : spec.name = some name
      · simp [label]
      · rw [if_neg label, ih]
        simp only [List.mem_append, List.mem_singleton]
        constructor
        · rintro unnamed other (old | rfl)
          · exact unnamed other old
          · exact label
        · exact fun unnamed other member => unnamed other (.inl member)

end Script

/-! ## Resolution -/

/-- The errors of a dynamic spec, whose own position a malformed table is reported with. -/
def CallFailure.callError (position : Nat) : CallFailure → CallError
  | .raised message => .call message
  | .malformedTable source => .invalidSpec position source
  | .notString value typeName => .notStringCoercible value typeName
  | .notUtf8 value => .nonUtf8String value

/-- What resolution makes of a chain whose last call was at `last`. -/
def ChainEnd.result (last : Nat) : ChainEnd → Except ResolveError (Nat × RequestSpec)
  | .found position spec => .ok (position, spec)
  | .unknownJump name => .error (.unknownJump (last + 1) name)
  | .failed failure => .error (.dynamic (last + 1) (failure.callError last))

theorem callDynamicFunc_answer (lua : Lua World) (position : Nat) (function : LuaFunction)
    (world : World) :
    callDynamicFunc lua position function world =
      match lua.answer function world with
      | (.spec spec, after) => (.ok (.spec spec), after)
      | (.jump name, after) => (.ok (.jump name), after)
      | (.failed failure, after) => (.error (failure.callError position), after) := by
  unfold callDynamicFunc Lua.answer
  rcases lua.call function world with ⟨_ | ⟨contents | bytes | ⟨typeName, handle⟩⟩, after⟩
  · rfl
  · change (do
      let spec ← (lua.parseStaticSpec contents after).mapError (CallError.invalidSpec position)
      return DynamicResolve.spec spec, after) = _
    dsimp only
    generalize lua.parseStaticSpec contents after = parsed
    cases parsed <;> rfl
  · change (do
      let name ← coerceToString lua (.string bytes) after
      return DynamicResolve.jump name, after) = _
    dsimp only [coerceToString]
    generalize stringFromUtf8 bytes = decoded
    cases decoded <;> rfl
  · rfl

/-- One call of a dynamic function and what follows from its answer. -/
theorem resolve_succ (lua : Lua World) (specs : List LuaRequestSpec)
    (byName : SortedMap String Nat) (calls position : Nat) (function : LuaFunction)
    (world : World) :
    resolve lua specs byName (calls + 1) position function world =
      match lua.answer function world with
      | (.spec spec, after) => .returned (.ok (position, spec), after)
      | (.failed failure, after) =>
          .returned (.error (.dynamic (position + 1) (failure.callError position)), after)
      | (.jump name, after) =>
          match lookupSpec byName name with
          | none => .returned (.error (.unknownJump (position + 1) name), after)
          | some target =>
              match specs[target]? with
              | none => .panicked
              | some ⟨_, .static spec⟩ => .returned (.ok (target, spec), after)
              | some ⟨_, .dynamic next⟩ =>
                  resolve lua specs byName calls target next after := by
  rw [resolve, callDynamicFunc_answer]
  rcases lua.answer function world with ⟨spec | name | failure, after⟩
  · rfl
  · rfl
  · rfl

/-- A finite chain is resolved to its end, if enough calls are made. -/
theorem Chain.resolve_eq {lua : Lua World} {specs : List LuaRequestSpec}
    {position last : Nat} {function : LuaFunction} {world after : World}
    {visited : List (Nat × LuaFunction)} {ending : ChainEnd}
    (chain : Chain lua specs position function world visited last ending after) {calls : Nat}
    (enough : visited.length ≤ calls) :
    resolve lua specs (specsByName specs) calls position function world =
      .returned (ending.result last, after) := by
  induction chain generalizing calls with
  | answered answer =>
      rcases Nat.exists_eq_add_of_le' enough with ⟨more, rfl⟩
      rw [List.length_singleton, resolve_succ, answer]
      rfl
  | failed answer =>
      rcases Nat.exists_eq_add_of_le' enough with ⟨more, rfl⟩
      rw [List.length_singleton, resolve_succ, answer]
      rfl
  | unknownJump answer unknown =>
      rcases Nat.exists_eq_add_of_le' enough with ⟨more, rfl⟩
      rw [List.length_singleton, resolve_succ, answer]
      simp only [lookupSpec_eq_none_iff.mpr unknown]
      rfl
  | static answer named reached =>
      rcases Nat.exists_eq_add_of_le' enough with ⟨more, rfl⟩
      rw [List.length_singleton, resolve_succ, answer]
      simp only [lookupSpec_eq_some_iff.mpr named, reached]
      rfl
  | dynamic answer named reached rest ih =>
      rw [List.length_cons] at enough
      obtain ⟨more, rfl⟩ : ∃ more, calls = more + 1 := ⟨calls - 1, by omega⟩
      rw [resolve_succ, answer]
      simp only [lookupSpec_eq_some_iff.mpr named, reached]
      exact ih (by omega)

/-- Whatever resolution returns is the end of a chain. -/
theorem chain_of_resolve {lua : Lua World} {specs : List LuaRequestSpec} {calls position : Nat}
    {function : LuaFunction} {world after : World}
    {result : Except ResolveError (Nat × RequestSpec)}
    (returned : resolve lua specs (specsByName specs) calls position function world =
      .returned (result, after)) :
    ∃ visited last ending, Chain lua specs position function world visited last ending after ∧
      visited.length ≤ calls ∧ result = ending.result last := by
  induction calls generalizing position function world with
  | zero => cases returned
  | succ calls ih =>
      rw [resolve_succ] at returned
      rcases answer : lua.answer function world with ⟨spec | name | failure, between⟩
      · rw [answer] at returned
        cases returned
        exact ⟨_, _, _, .answered answer, Nat.le_add_left 1 calls, rfl⟩
      · rw [answer] at returned
        simp only at returned
        cases lookup : lookupSpec (specsByName specs) name with
        | none =>
            rw [lookup] at returned
            cases returned
            exact ⟨_, _, _, .unknownJump answer (lookupSpec_eq_none_iff.mp lookup),
              Nat.le_add_left 1 calls, rfl⟩
        | some target =>
            have named := lookupSpec_eq_some_iff.mp lookup
            rw [lookup] at returned
            simp only at returned
            rcases reached : specs[target]? with _ | ⟨label, spec | next⟩
            · rw [reached] at returned
              cases returned
            · rw [reached] at returned
              cases returned
              exact ⟨_, _, _, .static answer named reached, Nat.le_add_left 1 calls, rfl⟩
            · rw [reached] at returned
              rcases ih returned with ⟨visited, last, ending, rest, few, rfl⟩
              exact ⟨_, last, ending, .dynamic answer named reached rest,
                Nat.succ_le_succ few, rfl⟩
      · rw [answer] at returned
        cases returned
        exact ⟨_, _, _, .failed answer, Nat.le_add_left 1 calls, rfl⟩

/-! ## Which functions are called -/

/-- The same runtime with a list of the functions that were called. -/
def Lua.logged (lua : Lua World) : Lua (World × List LuaFunction) where
  call function := fun (world, log) =>
    let (result, after) := lua.call function world
    (result, after, log ++ [function])
  callExtract function response := fun (world, log) =>
    let (result, after) := lua.callExtract function response world
    (result, after, log)
  parseStaticSpec contents := fun (world, _) => lua.parseStaticSpec contents world
  debug value := fun (world, _) => lua.debug value world

theorem Lua.answer_logged (lua : Lua World) (function : LuaFunction) (world : World)
    (log : List LuaFunction) :
    lua.logged.answer function (world, log) =
      ((lua.answer function world).1, (lua.answer function world).2, log ++ [function]) := by
  have called : lua.logged.call function (world, log) =
      ((lua.call function world).1, (lua.call function world).2, log ++ [function]) := rfl
  have parsed : ∀ contents after log, lua.logged.parseStaticSpec contents (after, log) =
      lua.parseStaticSpec contents after := fun _ _ _ => rfl
  unfold Lua.answer
  rw [called]
  rcases lua.call function world with ⟨_ | ⟨contents | bytes | ⟨typeName, handle⟩⟩, after⟩
  · rfl
  · dsimp only
    rw [parsed]
    generalize lua.parseStaticSpec contents after = parsed
    cases parsed <;> rfl
  · dsimp only
    generalize stringFromUtf8 bytes = decoded
    cases decoded <;> rfl
  · rfl

/-- A chain calls the functions that it visits, each once and in this order. -/
theorem Chain.logged {lua : Lua World} {specs : List LuaRequestSpec} {position last : Nat}
    {function : LuaFunction} {world after : World} {visited : List (Nat × LuaFunction)}
    {ending : ChainEnd}
    (chain : Chain lua specs position function world visited last ending after)
    (log : List LuaFunction) :
    Chain lua.logged specs position function (world, log) visited last ending
      (after, log ++ visited.map (·.2)) := by
  induction chain generalizing log with
  | answered answer => exact .answered (by rw [Lua.answer_logged, answer]; rfl)
  | failed answer => exact .failed (by rw [Lua.answer_logged, answer]; rfl)
  | unknownJump answer unknown =>
      exact .unknownJump (by rw [Lua.answer_logged, answer]; rfl) unknown
  | static answer named reached =>
      exact .static (by rw [Lua.answer_logged, answer]; rfl) named reached
  | dynamic answer named reached rest ih =>
      rw [List.map_cons, List.append_cons]
      exact .dynamic (by rw [Lua.answer_logged, answer]) named reached (ih _)

/-! ## Taking the next spec -/

namespace ScriptRunner

variable {lua : Lua World} {runner : ScriptRunner World} {label : Option String}
variable {function : LuaFunction} {visited : List (Nat × LuaFunction)} {last : Nat}
variable {ending : ChainEnd} {after : World} {calls : Nat}

/-- The user cycle goes on behind the end of the chain. -/
theorem nextUserSpec_of_chain (wellFormed : runner.WellFormed)
    (dynamic : runner.userSpecs[runner.userCursor]? = some ⟨label, .dynamic function⟩)
    (chain : Chain lua runner.userSpecs runner.userCursor function runner.world visited last
      ending after) (enough : visited.length ≤ calls) :
    runner.nextUserSpec lua calls = .returned
      (match ending.result last with
      | .error source => (.error (.userSpec source), { runner with world := after })
      | .ok (position, spec) =>
          (.ok (⟨runner.userCursor⟩, .ofIndex position, spec),
            { runner with
              world := after
              userCursor := (position + 1) % runner.userSpecs.length })) := by
  have nextEq : nextSpec lua runner.userSpecs runner.userSpecsByName calls runner.userCursor
      runner.world = .returned (ending.result last, after) := by
    rw [nextSpec, dynamic, wellFormed.byName]
    exact chain.resolve_eq enough
  rw [nextUserSpec, nextEq, Run.map]
  rcases ending.result last with source | ⟨position, spec⟩ <;> rfl

/-- The setup specs go on behind the end of the chain. -/
theorem nextSetupSpec_of_chain (sound : runner.Sound)
    (dynamic : runner.setupSpecs[runner.setupCursor]? = some ⟨label, .dynamic function⟩)
    (chain : Chain lua runner.setupSpecs runner.setupCursor function runner.world visited last
      ending after) (enough : visited.length ≤ calls) :
    runner.nextSetupSpec lua calls = .returned
      (match ending.result last with
      | .error source => (.error (.setupSpec source), { runner with world := after })
      | .ok (position, spec) =>
          (.ok (some (.ofIndex position, spec)),
            { runner with world := after, setupCursor := position + 1 })) := by
  have inside := (List.getElem?_eq_some_iff.mp dynamic).1
  have nonempty : runner.setupSpecs ≠ [] := List.ne_nil_of_length_pos (by omega)
  have nextEq : nextSpec lua runner.setupSpecs runner.setupSpecsByName calls
      runner.setupCursor runner.world = .returned (ending.result last, after) := by
    rw [nextSpec, dynamic, sound.setupByName]
    exact chain.resolve_eq enough
  rw [nextSetupSpec, if_neg (by simp [nonempty, inside]), nextEq, Run.map]
  rcases ending.result last with source | ⟨position, spec⟩ <;> rfl

end ScriptRunner

/-- Resolution returns exactly the ends of the finite chains, has called the functions on
them once each and in order, and both lists of specs go on behind the end. -/
theorem resolve_follows_chains (lua : Lua World) (specs : List LuaRequestSpec) :
    (∀ calls position function world result after,
      resolve lua specs (specsByName specs) calls position function world =
          .returned (result, after) ↔
        ∃ visited last ending,
          Chain lua specs position function world visited last ending after ∧
            visited.length ≤ calls ∧ result = ending.result last) ∧
    (∀ position function world visited last ending after,
      Chain lua specs position function world visited last ending after →
        ∀ calls log, visited.length ≤ calls →
          resolve lua.logged specs (specsByName specs) calls position function (world, log) =
            .returned (ending.result last, after, log ++ visited.map (·.2))) ∧
    (∀ (runner : ScriptRunner World) label function visited last ending after calls,
      runner.Sound → visited.length ≤ calls →
      (runner.userSpecs = specs → specs[runner.userCursor]? = some ⟨label, .dynamic function⟩ →
        Chain lua specs runner.userCursor function runner.world visited last ending after →
          runner.nextUserSpec lua calls = .returned
            (match ending.result last with
            | .error source => (.error (.userSpec source), { runner with world := after })
            | .ok (position, spec) =>
                (.ok (⟨runner.userCursor⟩, .ofIndex position, spec),
                  { runner with
                    world := after
                    userCursor := (position + 1) % specs.length }))) ∧
      (runner.setupSpecs = specs → specs[runner.setupCursor]? = some ⟨label, .dynamic function⟩ →
        Chain lua specs runner.setupCursor function runner.world visited last ending after →
          runner.nextSetupSpec lua calls = .returned
            (match ending.result last with
            | .error source => (.error (.setupSpec source), { runner with world := after })
            | .ok (position, spec) =>
                (.ok (some (.ofIndex position, spec)),
                  { runner with world := after, setupCursor := position + 1 })))) := by
  refine ⟨?_, ?_, ?_⟩
  · intro calls position function world result after
    constructor
    · exact chain_of_resolve
    · rintro ⟨visited, last, ending, chain, enough, rfl⟩
      exact chain.resolve_eq enough
  · intro position function world visited last ending after chain calls log enough
    exact (chain.logged log).resolve_eq enough
  · intro runner label function visited last ending after calls sound enough
    constructor
    · rintro rfl dynamic chain
      exact ScriptRunner.nextUserSpec_of_chain sound.toWellFormed dynamic chain enough
    · rintro rfl dynamic chain
      exact ScriptRunner.nextSetupSpec_of_chain sound dynamic chain enough

section TwoJumps

/-- Functions that jump to `b`, to a name that nobody bears, and that return a table. -/
def jumpingLua : Lua Unit where
  call function world :=
    match function.handle with
    | 0 => (.ok (.string [98]), world)
    | 1 => (.ok (.string [99]), world)
    | _ => (.ok (.table ⟨0⟩), world)
  callExtract _ _ world := (.ok (), world)
  parseStaticSpec _ _ := .error "no service"
  debug value _ := value.typeName

/-- Two specs are named `b`. -/
def jumpingSpecs : List LuaRequestSpec :=
  [⟨some "a", .dynamic ⟨0⟩⟩, ⟨some "b", .static (.http Dispatch.OneUser.spec)⟩,
    ⟨some "b", .dynamic ⟨1⟩⟩]

theorem jumpingChain : Chain jumpingLua jumpingSpecs 0 ⟨0⟩ () [(0, ⟨0⟩), (2, ⟨1⟩)] 2
    (.unknownJump "c") () := by
  have toB : jumpingLua.answer ⟨0⟩ () = (.jump "b", ()) := by decide
  have toC : jumpingLua.answer ⟨1⟩ () = (.jump "c", ()) := by decide
  have named : LastNamed jumpingSpecs "b" 2 := lookupSpec_eq_some_iff.mp (by decide)
  exact .dynamic toB named rfl (.unknownJump toC (by decide))

/-- The last spec with the name is called, and jumps to nowhere. -/
theorem resolve_follows_chains_twoJumps :
    resolve jumpingLua jumpingSpecs (specsByName jumpingSpecs) 2 0 ⟨0⟩ () =
      .returned (.error (.unknownJump 3 "c"), ()) :=
  ((resolve_follows_chains jumpingLua jumpingSpecs).1 2 0 ⟨0⟩ () _ ()).mpr
    ⟨_, _, _, jumpingChain, Nat.le_refl 2, rfl⟩

end TwoJumps

/-! ## Positions in errors -/

/-- All positions that an error mentions. -/
def Script.ResolveError.indices : ResolveError → List Nat
  | .dynamic index (.invalidSpec nested _) => [index, nested]
  | .dynamic index _ | .unknownJump index _ => [index]

theorem Chain.getLast? {lua : Lua World} {specs : List LuaRequestSpec} {position last : Nat}
    {function : LuaFunction} {world after : World} {visited : List (Nat × LuaFunction)}
    {ending : ChainEnd}
    (chain : Chain lua specs position function world visited last ending after) :
    visited.getLast?.map (·.1) = some last := by
  induction chain with
  | answered | failed | unknownJump | static => rfl
  | dynamic answer named reached rest ih =>
      rw [List.getLast?_cons]
      rcases Option.map_eq_some_iff.mp ih with ⟨called, lastEq, rfl⟩
      rw [lastEq]
      rfl

/-- The position of a malformed table is counted from zero, all others from one: an error
points at the spec whose function was called last unless that has returned such a table. -/
theorem indices_point_at_last_iff {lua : Lua World} {specs : List LuaRequestSpec}
    {position last calls : Nat} {function : LuaFunction} {world after final : World}
    {visited : List (Nat × LuaFunction)} {ending : ChainEnd} {err : ResolveError}
    (chain : Chain lua specs position function world visited last ending after)
    (enough : visited.length ≤ calls)
    (failed : resolve lua specs (specsByName specs) calls position function world =
      .returned (.error err, final)) :
    visited.getLast?.map (·.1) = some last ∧
      ((∀ index ∈ err.indices, index = last + 1) ↔
        ∀ source, ending ≠ .failed (.malformedTable source)) := by
  refine ⟨chain.getLast?, ?_⟩
  rw [chain.resolve_eq enough] at failed
  cases ending with
  | found position spec => cases failed
  | unknownJump name =>
      cases failed
      simp [ResolveError.indices]
  | failed failure =>
      cases failed
      cases failure with
      | malformedTable source => simp [ResolveError.indices, CallFailure.callError]
      | raised | notString | notUtf8 => simp [ResolveError.indices, CallFailure.callError]

section TwoJumps

theorem indices_point_at_last_iff_twoJumps :
    ([(0, ⟨0⟩), (2, ⟨1⟩)] : List (Nat × LuaFunction)).getLast?.map (·.1) = some 2 ∧
      ∀ index ∈ (ResolveError.unknownJump 3 "c").indices, index = 2 + 1 := by
  obtain ⟨last, positions⟩ := indices_point_at_last_iff jumpingChain (Nat.le_refl 2)
    (jumpingChain.resolve_eq (Nat.le_refl 2))
  exact ⟨last, positions.mpr (by simp)⟩

/-- The first spec's function returns a table without a service. -/
theorem malformedTable_positions :
    ∃ err, resolve jumpingLua [⟨none, .dynamic ⟨2⟩⟩] (specsByName [⟨none, .dynamic ⟨2⟩⟩]) 1 0 ⟨2⟩
        () = .returned (.error err, ()) ∧
      err.text = "failed to resolve dynamic request spec at index `1` (1-based): " ++
        "invalid spec at index `0` (1-based): no service" ∧
      ¬∀ index ∈ err.indices, index = 0 + 1 := by
  refine ⟨.dynamic 1 (.invalidSpec 0 "no service"), ?_, by decide, by decide⟩
  have malformed : jumpingLua.answer ⟨2⟩ () = (.failed (.malformedTable "no service"), ()) := rfl
  exact Chain.resolve_eq (.failed malformed) (Nat.le_refl 1)

end TwoJumps

end CreoBench
