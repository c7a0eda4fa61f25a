import CreoBench.LoadTestRunner
import CreoBench.MergeRound

/-!
# Nobody starts before everybody is ready

The invariant says for each position of the program what every link can look
like there.  The links enter the third phase together, so a generator that was
told to start has company in which everybody has answered that it is ready.
-/

namespace CreoBench

namespace LoadTestRunner

/-- No abort was issued. -/
def Fresh (link : Link) : Prop := link.issued = false ∧ link.queued = false

/-- What the link at `index` looks like while the program stands where it does. -/
def Program.Expects (index : Nat) (link : Link) : Program → Prop
  | .joinConnects joined =>
      Fresh link ∧ (joined ≤ index ∧ link.handle = .connecting ∨ link.handle = .unreachable ∨
        link.handle = .connected)
  | .abortConnected remaining =>
      index ∈ remaining ∧ Fresh link ∧ link.handle = .connected ∨
        index ∉ remaining ∧ (link.handle = .unreachable ∨
          link.issued = true ∧ link.handle = .aborted)
  | .awaitAborted current remaining =>
      index ∈ remaining ∧ index ≠ current ∧ Fresh link ∧ link.handle = .connected ∨
        index ∉ remaining ∧ (link.handle = .unreachable ∧ index ≠ current ∨
          link.issued = true ∧ link.handle = .aborted ∧ index ≠ current ∨
            link.issued = true ∧ link.handle = .abortSent ∧ index = current)
  | .joinConfigures joined =>
      Fresh link ∧ (joined ≤ index ∧ (link.handle = .configuring ∨ link.handle = .configSent) ∨
        link.handle = .configureFailed ∨ link.handle.isConfigured)
  | .abortConfigured remaining =>
      index ∈ remaining ∧ Fresh link ∧ link.handle.isConfigured ∨
        index ∉ remaining ∧ (link.handle = .configureFailed ∨
          link.issued = true ∧ link.handle = .aborted)
  | .joinStarts joined =>
      Fresh link ∧ (joined ≤ index ∧ (link.handle = .starting ∨ link.handle = .startFailed) ∨
        link.handle = .started)
  | .createPersisters => Fresh link ∧ link.handle = .started
  | .abortStarted remaining =>
      index ∈ remaining ∧ Fresh link ∧ link.handle = .started ∨
        index ∉ remaining ∧ (link.handle = .finished ∨
          link.issued = true ∧ link.handle = .started)
  | .collect handles _ _ | .persist handles _ =>
      Fresh link ∧ (index ∈ handles ∧ link.handle = .started ∨
        index ∉ handles ∧ link.handle = .finished)
  | .finish | .succeeded _ => Fresh link ∧ link.handle = .finished
  | .failed _ | .exited _ => True

/-- The lists of generators in a program name each of `count` generators once. -/
def Program.Names (count : Nat) : Program → Prop
  | .abortConnected remaining | .awaitAborted _ remaining | .abortConfigured remaining
  | .abortStarted remaining | .persist remaining _ =>
      remaining.Nodup ∧ ∀ index ∈ remaining, index < count
  | .collect handles index roundReports =>
      handles.Nodup ∧ (∀ generator ∈ handles, generator < count) ∧
        index ≤ handles.length ∧ roundReports.length = index
  | _ => True

/-- The invariant of all runs. -/
structure Sound (runner : LoadTestRunner) : Prop where
  links : ∀ link ∈ runner.links, link.Sound
  configs : runner.links.map (·.config) = runner.config.split
  together : ∀ link ∈ runner.links, ∀ other ∈ runner.links, link.handle.isStart →
    other.handle.isStart
  expects : ∀ index link, runner.links[index]? = some link →
    runner.program.Expects index link
  names : runner.program.Names runner.links.length

/-- What a program expects of a link depends on its handle and on its abort. -/
theorem Program.Expects.congr {program : Program} {index : Nat} {link next : Link}
    (expects : program.Expects index link) (handle : next.handle = link.handle)
    (issued : next.issued = link.issued) (queued : next.queued = link.queued) :
    program.Expects index next := by
  unfold Program.Expects Fresh at expects ⊢
  rw [handle, issued, queued]
  exact expects

/-- A task only runs where the program waits for it, and ends as the program expects. -/
theorem Program.Expects.task {program : Program} {index : Nat} {link next : Link}
    {succeeds : Bool} (expects : program.Expects index link)
    (stepped : link.task succeeds = some next) :
    program.Expects index next := by
  rcases Link.task_cases stepped with ⟨moved, -, issued, queued⟩
  have fresh : Fresh link → Fresh next := fun fresh =>
    ⟨issued.trans fresh.1, queued.trans fresh.2⟩
  rcases moved with ⟨running, ended⟩ | ⟨running, ended⟩ | ⟨running, ended⟩ | ⟨running, ended⟩ <;>
    cases program <;> simp [Program.Expects, running, Handle.isConfigured] at expects ⊢
  case inl.joinConnects joined =>
    exact ⟨fresh expects.1, .inr ended.symm⟩
  case inr.inl.joinConfigures joined =>
    refine ⟨fresh expects.1, ?_⟩
    rcases ended with sent | failed
    · exact .inl ⟨expects.2, .inr sent⟩
    · exact .inr (.inl failed)
  case inr.inr.inl.joinConfigures joined =>
    exact ⟨fresh expects.1, .inr ended.symm⟩
  case inr.inr.inr.joinStarts joined =>
    refine ⟨fresh expects.1, ?_⟩
    rcases ended with started | failed
    · exact .inr started
    · exact .inl ⟨expects.2, .inr failed⟩

/-- A step that changes one link, and the program as it expects. -/
theorem Sound.updateLink {runner : LoadTestRunner} {index : Nat} {link changed : Link}
    {program : Program} (sound : runner.Sound) (found : runner.links[index]? = some link)
    (linkSound : changed.Sound) (config : changed.config = link.config)
    (isStart : changed.handle.isStart = link.handle.isStart)
    (this : program.Expects index changed)
    (others : ∀ other otherLink, other ≠ index → runner.program.Expects other otherLink →
      program.Expects other otherLink)
    (names : program.Names runner.links.length) :
    (runner.updateLink index changed program).Sound := by
  have member := List.mem_of_getElem? found
  rcases List.getElem?_eq_some_iff.mp found with ⟨bound, -⟩
  have before : ∀ other ∈ runner.links.set index changed, ∃ old ∈ runner.links,
      other.handle.isStart = old.handle.isStart := by
    intro other otherMem
    rcases List.mem_or_eq_of_mem_set otherMem with old | rfl
    · exact ⟨other, old, rfl⟩
    · exact ⟨link, member, isStart⟩
  refine ⟨?_, ?_, ?_, ?_, ?_⟩
  · intro other otherMem
    rcases List.mem_or_eq_of_mem_set otherMem with old | rfl
    · exact sound.links other old
    · exact linkSound
  · have configs : (runner.links.set index changed).map (·.config) =
        runner.links.map (·.config) := by
      rw [List.map_set, config]
      exact List.set_eq_self_of_getElem? (by rw [List.getElem?_map, found]; rfl)
    exact configs.trans sound.configs
  · intro first firstMem second secondMem started
    rcases before first firstMem with ⟨old, oldMem, same⟩
    rcases before second secondMem with ⟨other, otherMem, otherSame⟩
    rw [otherSame]
    exact sound.together old oldMem other otherMem (same ▸ started)
  · intro other otherLink otherFound
    change (runner.links.set index changed)[other]? = some otherLink at otherFound
    rw [List.getElem?_set] at otherFound
    split_ifs at otherFound with same
    · obtain rfl := same
      obtain rfl := Option.some.inj otherFound
      exact this
    · exact others other otherLink (Ne.symm same) (sound.expects other otherLink otherFound)
  · change program.Names (runner.links.set index changed).length
    rw [List.length_set]
    exact names

/-- A step that changes the program alone. -/
theorem Sound.goto {runner : LoadTestRunner} {program : Program} (sound : runner.Sound)
    (expects : ∀ index link, runner.links[index]? = some link →
      runner.program.Expects index link → program.Expects index link)
    (names : program.Names runner.links.length) : (runner.goto program).Sound :=
  ⟨sound.links, sound.configs, sound.together,
    fun index link found => expects index link found (sound.expects index link found), names⟩

/-- A step of one link that the program does not notice. -/
theorem Sound.stepLink {runner next : LoadTestRunner} {index : Nat}
    {change : Link → Option Link} (sound : runner.Sound)
    (stepped : runner.stepLink index change = some next)
    (changes : ∀ link changed, link.Sound → change link = some changed →
      changed.Sound ∧ changed.config = link.config ∧
        changed.handle.isStart = link.handle.isStart ∧
          ∀ program : Program, program.Expects index link → program.Expects index changed) :
    next.Sound := by
  rcases Option.bind_eq_some_iff.mp stepped with ⟨link, found, rest⟩
  rcases Option.bind_eq_some_iff.mp rest with ⟨changed, changedEq, made⟩
  obtain rfl := Option.some.inj made
  have linkSound := sound.links link (List.mem_of_getElem? found)
  rcases changes link changed linkSound changedEq with ⟨changedSound, config, isStart, expects⟩
  exact sound.updateLink found changedSound config isStart
    (expects _ (sound.expects index link found)) (fun _ _ _ expected => expected) sound.names

theorem isStart_of_task {link next : Link} {succeeds : Bool}
    (stepped : link.task succeeds = some next) :
    next.handle.isStart = link.handle.isStart := by
  rcases Link.task_cases stepped with ⟨moved, -⟩
  rcases moved with ⟨before, after | after⟩ | ⟨before, after | after⟩ |
    ⟨before, after | after⟩ | ⟨before, after | after⟩ <;>
    simp only [before, after, Handle.isStart]
  cases handleEq : next.handle <;> rw [handleEq] at after <;> first | rfl | cases after

theorem stepLink_of_stepTask {runner next : LoadTestRunner} {index : Nat}
    {change : Link → Option Link} (stepped : runner.stepTask index change = some next) :
    runner.stepLink index change = some next := by
  unfold LoadTestRunner.stepTask at stepped
  split_ifs at stepped
  exact stepped

theorem mem_indices {runner : LoadTestRunner} {holds : Handle → Bool} {index : Nat}
    {link : Link} (found : runner.links[index]? = some link) :
    index ∈ runner.indices holds ↔ holds link.handle := by
  rcases List.getElem?_eq_some_iff.mp found with ⟨bound, rfl⟩
  simp [indices, bound]

theorem names_indices (runner : LoadTestRunner) (holds : Handle → Bool) :
    (runner.indices holds).Nodup ∧
      ∀ index ∈ runner.indices holds, index < runner.links.length := by
  refine ⟨List.nodup_range.filter _, fun index member => ?_⟩
  exact List.mem_range.mp (List.mem_of_mem_filter member)

theorem mem_range_of_found {runner : LoadTestRunner} {index : Nat} {link : Link}
    (found : runner.links[index]? = some link) : index ∈ List.range runner.links.length :=
  List.mem_range.mpr (List.getElem?_eq_some_iff.mp found).1

/-- All tasks have been joined when there is no further link. -/
theorem lt_of_found {runner : LoadTestRunner} {joined index : Nat} {link : Link}
    (all : runner.links[joined]? = none) (found : runner.links[index]? = some link) :
    index < joined := by
  rcases List.getElem?_eq_some_iff.mp found with ⟨bound, -⟩
  exact bound.trans_le (List.getElem?_eq_none_iff.mp all)

/-- Spawning tasks for all links, none or all of which then are in the third phase. -/
theorem Sound.spawn {runner : LoadTestRunner} {handle : Handle} {program : Program}
    (sound : runner.Sound)
    (links : ∀ link ∈ runner.links, { link with handle }.Sound)
    (expects : ∀ index link, runner.links[index]? = some link →
      program.Expects index { link with handle })
    (names : program.Names runner.links.length) : (runner.spawn handle program).Sound := by
  refine ⟨?_, ?_, ?_, ?_, ?_⟩
  · intro link member
    rcases List.mem_map.mp member with ⟨old, oldMem, rfl⟩
    exact links old oldMem
  · refine Eq.trans ?_ sound.configs
    change (runner.links.map _).map _ = _
    rw [List.map_map]
    rfl
  · intro link member other otherMem started
    rcases List.mem_map.mp member with ⟨old, oldMem, rfl⟩
    rcases List.mem_map.mp otherMem with ⟨otherOld, otherOldMem, rfl⟩
    exact started
  · intro index link found
    change (runner.links.map _)[index]? = some link at found
    rw [List.getElem?_map] at found
    rcases Option.map_eq_some_iff.mp found with ⟨old, oldFound, rfl⟩
    exact expects index old oldFound
  · change program.Names (runner.links.map _).length
    rw [List.length_map]
    exact names

theorem Sound.joinConnect {runner next : LoadTestRunner} {joined : Nat} (sound : runner.Sound)
    (programEq : runner.program = .joinConnects joined)
    (stepped : runner.joinConnect joined = some next) : next.Sound := by
  have expects := sound.expects
  rw [programEq] at expects
  unfold LoadTestRunner.joinConnect at stepped
  split at stepped
  · rename_i all
    cases stepped
    have ended : ∀ (index : Nat) (link : Link), runner.links[index]? = some link → Fresh link ∧
        (link.handle = .unreachable ∨ link.handle = .connected) := by
      intro index link found
      rcases expects index link found with ⟨fresh, ⟨running, -⟩ | ended⟩
      · exact absurd (lt_of_found all found) (Nat.not_lt_of_le running)
      · exact ⟨fresh, ended⟩
    unfold allConnected
    split_ifs with connected
    · have connectedAll := List.all_eq_true.mp connected
      apply sound.spawn
      · intro link member
        have linkSound := sound.links link member
        have sends := linkSound.sends
        have handleEq := connectedAll link member
        cases stateEq : link.handle <;> rw [stateEq] at handleEq sends
        case connected => exact linkSound.keep rfl rfl rfl sends nofun rfl rfl rfl
        all_goals cases handleEq
      · intro index link found
        exact ⟨(ended index link found).1, .inl ⟨Nat.zero_le _, .inl rfl⟩⟩
      · trivial
    · apply sound.goto
      · intro index link found _
        rcases ended index link found with ⟨fresh, handleEq | handleEq⟩
        · refine .inr ⟨fun member => ?_, .inl handleEq⟩
          rw [mem_indices found, handleEq] at member
          cases member
        · refine .inl ⟨?_, fresh, handleEq⟩
          rw [mem_indices found, handleEq]
          rfl
      · exact names_indices runner _
  · rename_i link found
    split_ifs at stepped with running
    cases stepped
    apply sound.goto
    · intro index other otherFound expected
      rw [programEq] at expected
      rcases expected with ⟨fresh, ⟨later, connecting⟩ | ended⟩
      · refine ⟨fresh, .inl ⟨Nat.lt_of_le_of_ne later ?_, connecting⟩⟩
        rintro rfl
        rw [found] at otherFound
        exact running (Option.some.inj otherFound ▸ connecting)
      · exact ⟨fresh, .inr ended⟩
    · trivial

theorem Sound.abortConnected {runner next : LoadTestRunner} {succeeds : Bool} {index : Nat}
    {remaining : List Nat} (sound : runner.Sound)
    (programEq : runner.program = .abortConnected (index :: remaining))
    (stepped : runner.abortConnected succeeds index remaining = some next) : next.Sound := by
  have expects := sound.expects
  have names := sound.names
  rw [programEq] at expects names
  rcases names with ⟨nodup, bounds⟩
  rcases List.nodup_cons.mp nodup with ⟨fresh, restNodup⟩
  have restBounds := fun other member => bounds other (List.mem_cons_of_mem index member)
  have others : ∀ (other : Nat) (link : Link), other ≠ index →
      runner.program.Expects other link →
        other ∈ remaining ∧ Fresh link ∧ link.handle = .connected ∨
          other ∉ remaining ∧ (link.handle = .unreachable ∨
            link.issued = true ∧ link.handle = .aborted) := by
    intro other link different expected
    rw [programEq] at expected
    simpa only [Program.Expects, List.mem_cons, different, false_or] using expected
  unfold LoadTestRunner.abortConnected at stepped
  split at stepped
  · rename_i link found
    cases stepped
    have handleEq : link.handle = .connected := by
      rcases expects index link found with ⟨-, -, handleEq⟩ | ⟨absent, -⟩
      · exact handleEq
      · exact absurd List.mem_cons_self absent
    have linkSound := sound.links link (List.mem_of_getElem? found)
    have sends := linkSound.sends
    rw [handleEq] at sends
    have sent : (link.send (.configure .abort) .abortSent).Sound :=
      linkSound.send (by rw [sends]; exact Nat.zero_le 1) (by rw [sends]; rfl) nofun
    refine sound.updateLink found
      (sent.keep rfl rfl rfl sent.sends sent.ready rfl rfl rfl) rfl (by rw [handleEq]; rfl)
      (.inr ⟨fresh, .inr (.inr ⟨rfl, rfl, rfl⟩)⟩) ?_ ⟨restNodup, restBounds⟩
    intro other otherLink different expected
    rcases others other otherLink different expected with ⟨member, rest⟩ | ⟨absent, rest⟩
    · exact .inl ⟨member, different, rest⟩
    · rcases rest with unreachable | ⟨issued, aborted⟩
      · exact .inr ⟨absent, .inl ⟨unreachable, different⟩⟩
      · exact .inr ⟨absent, .inr (.inl ⟨issued, aborted, different⟩)⟩
  · rename_i link found
    cases stepped
    have handleEq : link.handle = .connected := by
      rcases expects index link found with ⟨-, -, handleEq⟩ | ⟨absent, -⟩
      · exact handleEq
      · exact absurd List.mem_cons_self absent
    have linkSound := sound.links link (List.mem_of_getElem? found)
    have sends := linkSound.sends
    rw [handleEq] at sends
    exact sound.updateLink found (linkSound.keep rfl rfl rfl (.inl sends) nofun rfl rfl rfl) rfl
      (by rw [handleEq]; rfl) (.inr ⟨fresh, .inr ⟨rfl, rfl⟩⟩) others ⟨restNodup, restBounds⟩
  · cases stepped

theorem Sound.awaitAborted {runner next : LoadTestRunner} {succeeds : Bool} {index : Nat}
    {remaining : List Nat} (sound : runner.Sound)
    (programEq : runner.program = .awaitAborted index remaining)
    (stepped : runner.awaitAborted succeeds index remaining = some next) : next.Sound := by
  have expects := sound.expects
  have names := sound.names
  rw [programEq] at expects names
  unfold LoadTestRunner.awaitAborted at stepped
  split at stepped
  · rename_i link found
    split_ifs at stepped
    cases stepped
    have awaited : index ∉ remaining ∧ link.issued = true ∧ link.handle = .abortSent := by
      rcases expects index link found with ⟨-, different, -⟩ | ⟨absent, rest⟩
      · exact absurd rfl different
      · rcases rest with ⟨-, different⟩ | ⟨-, -, different⟩ | ⟨issued, handleEq, -⟩
        · exact absurd rfl different
        · exact absurd rfl different
        · exact ⟨absent, issued, handleEq⟩
    rcases awaited with ⟨absent, issued, handleEq⟩
    have linkSound := sound.links link (List.mem_of_getElem? found)
    have sends := linkSound.sends
    rw [handleEq] at sends
    refine sound.updateLink found
      (linkSound.keep rfl rfl rfl (.inr (.inl sends)) nofun rfl rfl rfl) rfl
      (by rw [handleEq]; rfl) (.inr ⟨absent, .inr ⟨issued, rfl⟩⟩) ?_ names
    intro other otherLink different expected
    rw [programEq] at expected
    rcases expected with ⟨member, -, rest⟩ | ⟨absent, rest⟩
    · exact .inl ⟨member, rest⟩
    · rcases rest with ⟨unreachable, -⟩ | ⟨issued, aborted, -⟩ | ⟨-, -, same⟩
      · exact .inr ⟨absent, .inl unreachable⟩
      · exact .inr ⟨absent, .inr ⟨issued, aborted⟩⟩
      · exact absurd same different
  · cases stepped

theorem Sound.joinConfigure {runner next : LoadTestRunner} {joined : Nat}
    (sound : runner.Sound) (programEq : runner.program = .joinConfigures joined)
    (stepped : runner.joinConfigure joined = some next) : next.Sound := by
  have expects := sound.expects
  rw [programEq] at expects
  unfold LoadTestRunner.joinConfigure at stepped
  split at stepped
  · rename_i all
    cases stepped
    have ended : ∀ (index : Nat) (link : Link), runner.links[index]? = some link →
        Fresh link ∧ (link.handle = .configureFailed ∨ link.handle.isConfigured) := by
      intro index link found
      rcases expects index link found with ⟨fresh, ⟨running, -⟩ | ended⟩
      · exact absurd (lt_of_found all found) (Nat.not_lt_of_le running)
      · exact ⟨fresh, ended⟩
    unfold allReady
    split_ifs with ready
    · have configured := List.all_eq_true.mp ready
      have recorded : { runner with generators := runner.readyGenerators }.Sound :=
        ⟨sound.links, sound.configs, sound.together, sound.expects, sound.names⟩
      apply recorded.spawn
      · intro link member
        have linkSound := sound.links link member
        exact linkSound.keep rfl rfl rfl
          (linkSound.sends_configured (configured link member))
          (fun _ => linkSound.ready (.inr (configured link member))) rfl rfl rfl
      · intro index link found
        exact ⟨(ended index link found).1, .inl ⟨Nat.zero_le _, .inl rfl⟩⟩
      · trivial
    · apply sound.goto
      · intro index link found _
        rcases ended index link found with ⟨fresh, handleEq | configured⟩
        · refine .inr ⟨fun member => ?_, .inl handleEq⟩
          rw [mem_indices found, handleEq] at member
          cases member
        · exact .inl ⟨(mem_indices found).mpr configured, fresh, configured⟩
      · exact names_indices runner _
  · rename_i link found
    split_ifs at stepped with running
    cases stepped
    apply sound.goto
    · intro index other otherFound expected
      rw [programEq] at expected
      rcases expected with ⟨fresh, ⟨later, waiting⟩ | ended⟩
      · refine ⟨fresh, .inl ⟨Nat.lt_of_le_of_ne later ?_, waiting⟩⟩
        rintro rfl
        rw [found] at otherFound
        exact running (Option.some.inj otherFound ▸ waiting)
      · exact ⟨fresh, .inr ended⟩
    · trivial

theorem Sound.abortConfigured {runner next : LoadTestRunner} {succeeds : Bool} {index : Nat}
    {remaining : List Nat} (sound : runner.Sound)
    (programEq : runner.program = .abortConfigured (index :: remaining))
    (stepped : runner.abortConfigured succeeds index remaining = some next) : next.Sound := by
  have expects := sound.expects
  have names := sound.names
  rw [programEq] at expects names
  rcases names with ⟨nodup, bounds⟩
  rcases List.nodup_cons.mp nodup with ⟨absentHere, restNodup⟩
  have restBounds := fun other member => bounds other (List.mem_cons_of_mem index member)
  have configuredAt : ∀ link, runner.links[index]? = some link →
      link.handle.isConfigured := by
    intro link found
    rcases expects index link found with ⟨-, -, configured⟩ | ⟨absent, -⟩
    · exact configured
    · exact absurd List.mem_cons_self absent
  unfold LoadTestRunner.abortConfigured at stepped
  split at stepped
  · rename_i link found
    cases stepped
    have configured := configuredAt link found
    have linkSound := sound.links link (List.mem_of_getElem? found)
    have sends := linkSound.sends_configured configured
    have sent : (link.send (.command .abort) .aborted).Sound :=
      linkSound.send (by rw [sends]; exact Nat.le_refl 1)
        (by rw [sends]; exact .inr (.inr (.inr rfl))) nofun
    refine sound.updateLink found
      (sent.keep rfl rfl rfl sent.sends sent.ready rfl rfl rfl) rfl
      (by rw [Link.isStart_of_isConfigured configured]; rfl)
      (.inr ⟨absentHere, .inr ⟨rfl, rfl⟩⟩) ?_ ⟨restNodup, restBounds⟩
    intro other otherLink different expected
    rw [programEq] at expected
    simpa only [Program.Expects, List.mem_cons, different, false_or] using expected
  · rename_i link found
    cases stepped
    have configured := configuredAt link found
    have linkSound := sound.links link (List.mem_of_getElem? found)
    have sends := linkSound.sends_configured configured
    exact sound.updateLink found
      (linkSound.keep rfl rfl rfl (.inr (.inr (.inl sends))) nofun rfl rfl rfl) rfl
      (by rw [Link.isStart_of_isConfigured configured]; rfl) trivial (fun _ _ _ _ => trivial) trivial
  · cases stepped

theorem Sound.joinStart {runner next : LoadTestRunner} {joined : Nat} (sound : runner.Sound)
    (programEq : runner.program = .joinStarts joined)
    (stepped : runner.joinStart joined = some next) : next.Sound := by
  unfold LoadTestRunner.joinStart at stepped
  split at stepped
  · rename_i all
    cases stepped
    apply sound.goto
    · intro index link found expected
      rw [programEq] at expected
      rcases expected with ⟨fresh, ⟨running, -⟩ | started⟩
      · exact absurd (lt_of_found all found) (Nat.not_lt_of_le running)
      · exact ⟨fresh, started⟩
    · trivial
  · rename_i link found
    split_ifs at stepped with running failed <;> cases stepped
    · exact sound.goto (fun _ _ _ _ => trivial) trivial
    · apply sound.goto
      · intro index other otherFound expected
        rw [programEq] at expected
        rcases expected with ⟨fresh, ⟨later, waiting⟩ | started⟩
        · refine ⟨fresh, .inl ⟨Nat.lt_of_le_of_ne later ?_, waiting⟩⟩
          rintro rfl
          rw [found] at otherFound
          obtain rfl := Option.some.inj otherFound
          exact waiting.elim running failed
        · exact ⟨fresh, .inr started⟩
      · trivial

theorem Sound.abortStarted {runner next : LoadTestRunner} {index : Nat}
    {remaining : List Nat} (sound : runner.Sound)
    (programEq : runner.program = .abortStarted (index :: remaining))
    (stepped : runner.abortStarted index remaining = some next) : next.Sound := by
  have names := sound.names
  have expects := sound.expects
  rw [programEq] at expects names
  rcases names with ⟨nodup, bounds⟩
  rcases List.nodup_cons.mp nodup with ⟨absentHere, restNodup⟩
  have restBounds := fun other member => bounds other (List.mem_cons_of_mem index member)
  rcases Option.bind_eq_some_iff.mp stepped with ⟨link, found, rest⟩
  rcases Option.bind_eq_some_iff.mp rest with ⟨changed, aborted, made⟩
  obtain rfl := Option.some.inj made
  have linkSound := sound.links link (List.mem_of_getElem? found)
  have here : Fresh link ∧ link.handle = .started := by
    rcases expects index link found with ⟨-, here⟩ | ⟨absent, -⟩
    · exact here
    · exact absurd List.mem_cons_self absent
  rcases here with ⟨fresh, started⟩
  have changedSound := linkSound.sendAbort (by rw [started]; rfl) fresh.2 aborted
  rcases Link.sendAbort_keeps aborted with ⟨config, handleEq, issued⟩
  refine sound.updateLink found changedSound config (by rw [handleEq])
    (.inr ⟨absentHere, .inr ⟨issued, handleEq.trans started⟩⟩) ?_ ⟨restNodup, restBounds⟩
  intro other otherLink different expected
  rw [programEq] at expected
  simpa only [Program.Expects, List.mem_cons, different, false_or] using expected

/-- What is known of the link whose turn it is in a round. -/
theorem Sound.inRound {runner : LoadTestRunner} {handles : List Nat} {index : Nat}
    {roundReports : List IntervalReport} {generator : Nat} {link : Link}
    (sound : runner.Sound) (programEq : runner.program = .collect handles index roundReports)
    (turn : handles[index]? = some generator) (found : runner.links[generator]? = some link) :
    Fresh link ∧ link.handle = .started := by
  have expects := sound.expects
  rw [programEq] at expects
  rcases expects generator link found with ⟨fresh, ⟨-, started⟩ | ⟨absent, -⟩⟩
  · exact ⟨fresh, started⟩
  · exact absurd (List.mem_of_getElem? turn) absent

theorem Sound.merge {runner : LoadTestRunner} {handles : List Nat} {index : Nat}
    {roundReports : List IntervalReport} (sound : runner.Sound)
    (programEq : runner.program = .collect handles index roundReports)
    (roundEnd : handles[index]? = none) : (runner.merge handles roundReports).Sound := by
  have names := sound.names
  rw [programEq] at names
  rcases names with ⟨nodup, bounds, within, lengthEq⟩
  unfold LoadTestRunner.merge
  split
  · rename_i noReport
    -- Without reports the round has walked through no handles.
    have noHandles : handles = [] := by
      rw [mergeRound_eq_ok_none noReport] at lengthEq
      rw [← lengthEq] at roundEnd
      exact List.length_eq_zero_iff.mp (Nat.le_zero.mp (List.getElem?_eq_none_iff.mp roundEnd))
    apply sound.goto
    · intro other link found expected
      rw [programEq, noHandles] at expected
      rcases expected with ⟨fresh, ⟨member, -⟩ | ⟨-, finished⟩⟩
      · cases member
      · exact ⟨fresh, finished⟩
    · trivial
  · refine ⟨sound.links, sound.configs, sound.together, ?_, nodup, bounds⟩
    intro other link found
    have expected := sound.expects other link found
    rw [programEq] at expected
    exact expected
  · exact sound.goto (fun _ _ _ _ => trivial) trivial

theorem Sound.collectNext {runner next : LoadTestRunner} {handles : List Nat} {index : Nat}
    {roundReports : List IntervalReport} (sound : runner.Sound)
    (programEq : runner.program = .collect handles index roundReports)
    (stepped : runner.collectNext handles index roundReports = some next) : next.Sound := by
  unfold LoadTestRunner.collectNext at stepped
  split at stepped
  · rename_i roundEnd
    cases stepped
    exact sound.merge programEq roundEnd
  · rename_i generator turn
    rcases Option.bind_eq_some_iff.mp stepped with ⟨link, found, rest⟩
    rcases Option.bind_eq_some_iff.mp rest with ⟨update, -, made⟩
    obtain rfl := Option.some.inj made
    rcases sound.inRound programEq turn found with ⟨fresh, started⟩
    have names := sound.names
    rw [programEq] at names
    rcases names with ⟨nodup, bounds, within, lengthEq⟩
    have turnBound : index < handles.length := (List.getElem?_eq_some_iff.mp turn).1
    have linkSound := sound.links link (List.mem_of_getElem? found)
    have sends := linkSound.sends
    rw [started] at sends
    have ready := linkSound.ready (.inl (by rw [started]; rfl))
    cases update with
    | intervalReport report =>
        refine sound.updateLink found
          (linkSound.keep rfl rfl rfl linkSound.sends (fun _ => ready) rfl rfl rfl) rfl rfl
          ⟨fresh, .inl ⟨List.mem_of_getElem? turn, started⟩⟩ ?_
          ⟨nodup, bounds, turnBound, by simp [lengthEq]⟩
        intro other otherLink _ expected
        rw [programEq] at expected
        exact expected
    | finished =>
        -- The handle is removed by its position.
        have perm := List.swapRemove_perm turn
        have removedNodup := (perm.nodup_iff.mp nodup)
        rcases List.nodup_cons.mp removedNodup with ⟨absent, restNodup⟩
        have lengthRemoved : (handles.swapRemove index).length + 1 = handles.length :=
          perm.length_eq.symm
        refine sound.updateLink found
          (linkSound.keep rfl rfl rfl sends (fun _ => ready) rfl rfl rfl) rfl
          (by rw [started]; rfl) ⟨fresh, .inr ⟨absent, rfl⟩⟩ ?_
          ⟨restNodup, fun other member => bounds other (perm.mem_iff.mpr (.tail _ member)),
            by omega, lengthEq⟩
        intro other otherLink different expected
        rw [programEq] at expected
        simpa only [Program.Expects, perm.mem_iff, List.mem_cons, different, false_or] using expected

theorem Sound.collectFails {runner next : LoadTestRunner} {handles : List Nat} {index : Nat}
    {roundReports : List IntervalReport} (sound : runner.Sound)
    (programEq : runner.program = .collect handles index roundReports)
    (stepped : runner.collectFails handles index = some next) : next.Sound := by
  rcases Option.bind_eq_some_iff.mp stepped with ⟨generator, turn, rest⟩
  rcases Option.bind_eq_some_iff.mp rest with ⟨link, found, made⟩
  obtain rfl := Option.some.inj made
  rcases sound.inRound programEq turn found with ⟨fresh, started⟩
  have linkSound := sound.links link (List.mem_of_getElem? found)
  have sends := linkSound.sends
  rw [started] at sends
  have ready := linkSound.ready (.inl (by rw [started]; rfl))
  exact sound.updateLink found (linkSound.keep rfl rfl rfl sends (fun _ => ready) rfl rfl rfl)
    rfl (by rw [started]; rfl) trivial (fun _ _ _ _ => trivial) trivial

theorem Sound.stepRun {runner next : LoadTestRunner} {event : RunEvent} (sound : runner.Sound)
    (stepped : runner.stepRun event = some next) : next.Sound := by
  have names := sound.names
  revert stepped
  fun_cases LoadTestRunner.stepRun runner event
  all_goals
    rename_i programEq
    first
      | (rw [programEq] at names; intro stepped)
      | exact nofun
  case case1 => exact sound.joinConnect programEq stepped
  case case3 | case4 => exact sound.abortConnected programEq stepped
  case case5 | case6 => exact sound.awaitAborted programEq stepped
  case case7 => exact sound.joinConfigure programEq stepped
  case case9 | case10 => exact sound.abortConfigured programEq stepped
  case case11 => exact sound.joinStart programEq stepped
  case case15 => exact sound.abortStarted programEq stepped
  case case16 => exact sound.collectNext programEq stepped
  case case17 => exact sound.collectFails programEq stepped
  all_goals cases stepped
  case case2 | case8 | case14 | case22 | case23 | case24 =>
    exact sound.goto (fun _ _ _ _ => trivial) trivial
  case case12 =>
    apply sound.goto
    · intro index link found expected
      rw [programEq] at expected
      exact ⟨expected.1, .inl ⟨mem_range_of_found found, expected.2⟩⟩
    · exact ⟨List.nodup_range, fun _ => List.mem_range.mp, Nat.zero_le _, rfl⟩
  case case13 =>
    apply sound.goto
    · intro index link found expected
      rw [programEq] at expected
      exact .inl ⟨mem_range_of_found found, expected⟩
    · exact ⟨List.nodup_range, fun _ => List.mem_range.mp⟩
  case case18 =>
    apply sound.goto
    · intro index link found expected
      rw [programEq] at expected
      rcases expected with ⟨fresh, ⟨member, started⟩ | ⟨absent, finished⟩⟩
      · exact .inl ⟨member, fresh, started⟩
      · exact .inr ⟨absent, .inl finished⟩
    · exact ⟨names.1, names.2.1⟩
  case case20 =>
    apply sound.goto
    · intro index link found expected
      rw [programEq] at expected
      rcases expected with ⟨fresh, ⟨member, started⟩ | ⟨absent, finished⟩⟩
      · exact .inl ⟨member, fresh, started⟩
      · exact .inr ⟨absent, .inl finished⟩
    · exact names
  case case19 =>
    apply sound.goto
    · intro index link found expected
      rw [programEq] at expected
      exact expected
    · exact ⟨names.1, names.2, Nat.zero_le _, rfl⟩
  case case21 =>
    apply sound.goto
    · intro index link found expected
      rw [programEq] at expected
      exact expected
    · trivial

theorem Sound.step {runner next : LoadTestRunner} {event : Event} (sound : runner.Sound)
    (stepped : runner.step event = some next) : next.Sound := by
  cases event with
  | task index succeeds =>
      refine sound.stepLink (stepLink_of_stepTask stepped) fun link changed linkSound moved => ?_
      exact ⟨linkSound.task moved, (Link.task_cases moved).2.1, isStart_of_task moved,
        fun _ expected => expected.task moved⟩
  | commandTask index succeeds =>
      refine sound.stepLink (stepLink_of_stepTask stepped) fun link changed linkSound moved => ?_
      rcases Link.stepCommandTask_keeps moved with ⟨config, handle, issued, queued⟩
      exact ⟨linkSound.stepCommandTask moved, config, by rw [handle],
        fun _ expected => expected.congr handle issued queued⟩
  | deliver index =>
      refine sound.stepLink stepped fun link changed linkSound moved => ?_
      have changedSound := linkSound.deliver moved
      rcases Option.map_eq_some_iff.mp moved with ⟨message, -, rfl⟩
      exact ⟨changedSound, rfl, rfl, fun _ expected => expected.congr rfl rfl rfl⟩
  | generator index event =>
      refine sound.stepLink stepped fun link changed linkSound moved => ?_
      have changedSound := linkSound.stepGenerator moved
      rcases Link.stepGenerator_eq_some moved with ⟨generator, -, -, rfl⟩
      exact ⟨changedSound, rfl, rfl, fun _ expected => expected.congr rfl rfl rfl⟩
  | run event => exact sound.stepRun stepped

theorem length_split (config : LoadTestConfig) :
    config.split.length = config.generators.length := by
  simp [LoadTestConfig.split, distributeWarmup, length_distributeCount,
    length_distributeProfile]

theorem sound_new (config : LoadTestConfig) : (new config).Sound := by
  refine ⟨?_, ?_, ?_, ?_, trivial⟩
  · intro link member
    rcases exists_new_of_mem_links member with ⟨address, share, rfl⟩
    exact Link.sound_new address share
  · change (List.zipWith Link.new config.generators config.split).map (·.config) = config.split
    rw [List.map_zipWith]
    change List.zipWith (fun _ share => share) config.generators config.split = config.split
    rw [← List.map_uncurry_zip_eq_zipWith]
    exact List.map_snd_zip (length_split config).le
  · intro link member other otherMem started
    rcases exists_new_of_mem_links member with ⟨address, share, rfl⟩
    cases started
  · intro index link found
    rcases exists_new_of_mem_links (List.mem_of_getElem? found) with ⟨address, share, rfl⟩
    exact ⟨⟨rfl, rfl⟩, .inl ⟨Nat.zero_le _, rfl⟩⟩

theorem sound_of_reachable {allowed : LoadTestRunner → Event → Prop} {runner : LoadTestRunner}
    (reachable : machine.ReachableBy allowed runner) : runner.Sound := by
  apply reachable.invariant
  · rintro _ ⟨config, -, -, rfl⟩
    exact sound_new config
  · intro _ _ _ sound _ stepped
    exact sound.step stepped

/-! ## The barrier -/

/-- The generator got its own configuration and has answered that it is ready. -/
def AnsweredReady (link : Link) : Prop :=
  link.generator.arrived[0]? = some (.configure (.config link.config)) ∧
    ∃ info, link.generator.answered = some (.ready info)

/-- A link of the third phase has answered to its own configuration. -/
theorem answeredReady_of_isStart {link : Link} (sound : link.Sound)
    (started : link.handle.isStart) : AnsweredReady link := by
  rcases sound.ready (.inl started) with ⟨info, answered⟩
  rcases sound.generator.ready info answered with ⟨config, first⟩
  have firstSent := sound.arrived.getElem?_eq_some first
  have own : link.sent[0]? = some (.configure (.config link.config)) := by
    have sends := sound.sends
    cases handleEq : link.handle <;> rw [handleEq] at started sends
    case starting | startFailed =>
      rw [sends]
      rfl
    case started | finished | crashed => rcases sends with sent | sent <;> rw [sent] <;> rfl
    all_goals cases started
  rw [own] at firstSent
  cases firstSent
  exact ⟨first, info, answered⟩

/-- A generator that dispatches was sent the start command. -/
theorem start_sent_of_dispatched {link : Link} (sound : link.Sound)
    (dispatched : link.generator.dispatched ≠ []) : .command .start ∈ link.sent := by
  have readSoFar := sound.generator.readSoFar
  unfold LoadGenerator.dispatched at dispatched
  split at dispatched
  · rename_i handle positionEq
    rw [positionEq] at readSoFar
    exact List.mem_of_getElem? (sound.arrived.getElem?_eq_some readSoFar.1)
  · exact absurd rfl dispatched

/-- No abort comes before the start. -/
theorem no_abort_before {link : Link} (sound : link.Sound) {before after : List Message}
    (sent : link.sent = before ++ .command .start :: after) {message : Message}
    (member : message ∈ before) : message.isAbort = false := by
  have started := sound.isStarted (by rw [sent]; simp)
  have lengthBefore : link.sent[before.length]? = some (.command .start) := by
    rw [sent, List.getElem?_append_right (Nat.le_refl _), Nat.sub_self]
    rfl
  have first : before.length = 1 ∧ link.sent[0]? = some (.configure (.config link.config)) := by
    rcases sound.sends_started started with shape | shape <;> rw [shape] at lengthBefore ⊢ <;>
      refine ⟨?_, rfl⟩ <;>
      rcases beforeLength : before.length with _ | _ | _ | rest <;>
      simp [beforeLength] at lengthBefore ⊢
  rcases List.length_eq_one_iff.mp first.1 with ⟨only, rfl⟩
  obtain rfl := List.mem_singleton.mp member
  rw [sent] at first
  cases Option.some.inj first.2
  rfl

/-- Whoever is started is so after everybody has answered to be ready, and was not
aborted before; and if somebody is not ready, nobody dispatches a transaction. -/
theorem start_barrier_of_reachable {runner : LoadTestRunner}
    (reachable : machine.Reachable runner) :
    runner.links.map (·.config) = runner.config.split ∧
    (∀ link ∈ runner.links, .command .start ∈ link.sent →
      ∀ other ∈ runner.links, AnsweredReady other) ∧
    (∀ link ∈ runner.links, ∀ before after, link.sent = before ++ .command .start :: after →
      ∀ message ∈ before, message.isAbort = false) ∧
    ((∃ other ∈ runner.links, other.handle = .unreachable ∨ other.handle = .configureFailed ∨
        ¬ AnsweredReady other) →
      ∀ link ∈ runner.links, link.generator.dispatched = []) := by
  have sound := sound_of_reachable reachable
  have together : ∀ link ∈ runner.links, .command .start ∈ link.sent →
      ∀ other ∈ runner.links, other.handle.isStart := by
    intro link member start other otherMem
    have started := (sound.links link member).isStarted start
    exact sound.together link member other otherMem (Link.isStart_of_isStarted started)
  refine ⟨sound.configs, ?_, ?_, ?_⟩
  · intro link member start other otherMem
    exact answeredReady_of_isStart (sound.links other otherMem)
      (together link member start other otherMem)
  · intro link member before after sent message messageMem
    exact no_abort_before (sound.links link member) sent messageMem
  · rintro ⟨other, otherMem, notReady⟩ link member
    by_contra dispatched
    have start := start_sent_of_dispatched (sound.links link member) dispatched
    have otherStart := together link member start other otherMem
    rcases notReady with unreachable | failed | unanswered
    · rw [unreachable] at otherStart
      cases otherStart
    · rw [failed] at otherStart
      cases otherStart
    · exact unanswered (answeredReady_of_isStart (sound.links other otherMem) otherStart)

/-! Two generators, the first of which dispatches before the second has started. -/

section TwoGenerators

/-- One second with two transactions. -/
def twoGenerators : LoadTestConfig where
  profile := ⟨[⟨Binary64.ofNat 1, 2⟩]⟩
  script := ""
  registry := ⟨.empty⟩
  warmup := ⟨0, 0, 0⟩
  generators := ["127.0.0.1:8000", "127.0.0.1:8001"]
  virtualUserCount := 1
  seed := 0
  timeoutMs := 0

theorem twoGenerators_initial : machine.initial (new twoGenerators) :=
  ⟨twoGenerators, by decide, by decide, rfl⟩

/-- A generator gets its configuration, answers that it is ready, and its answer is read. -/
def becomesReady (index : Nat) : List Event :=
  [.task index true, .deliver index, .generator index (.receive 0),
    .generator index (.setUp (.ok ⟨"", "", "", 2, 1⟩)), .generator index .send, .task index true]

/-- Until the start tasks run. -/
def untilReady : List Event :=
  [.task 1 true, .task 0 true, .run .proceeds, .run .proceeds, .run .proceeds] ++
    becomesReady 1 ++ becomesReady 0 ++ [.run .proceeds, .run .proceeds, .run .proceeds]

/-- A generator is told to start and starts at time zero. -/
def starts (index : Nat) : List Event :=
  [.task index true, .deliver index, .generator index (.receive 0)]

private def untilDispatch : List ReadyHandle.Event :=
  [.report, .pace [], .pace [], .report, .report, .report, .pace [500000000],
    .tick 500000000, .pace []]

theorem start_barrier_of_reachable_twoGenerators : ∃ runner, machine.Reachable runner ∧
    (∃ link ∈ runner.links, link.generator.dispatched ≠ []) ∧
      runner.links.length = 2 ∧ ∀ other ∈ runner.links, AnsweredReady other := by
  rcases machine.exists_reachable_of_exec twoGenerators_initial
    (untilReady ++ starts 0 ++ untilDispatch.map fun event => .generator 0 (.run event))
    (fun runner => decide (runner.links.length = 2 ∧ ∃ link ∈ runner.links,
      link.generator.dispatched ≠ [] ∧ .command .start ∈ link.sent))
    (by decide +kernel) with ⟨runner, reachable, checked⟩
  rcases of_decide_eq_true checked with ⟨two, link, member, dispatched, start⟩
  exact ⟨runner, reachable, ⟨link, member, dispatched⟩, two,
    (start_barrier_of_reachable reachable).2.1 link member start⟩

end TwoGenerators

end LoadTestRunner

end CreoBench
