import CreoBench.GeneratorStream
import CreoBench.RunnerGenerators

/-!
# The rounds of a run

The updates of a generator are numbered, and so are the rounds of the orchestrator.
In the middle of a round the generators whose turn is over have given one report more
than those that wait for it.  So every merged report stands for the reports that all
generators have at its position, whatever else has been sent in the meantime.
-/

open scoped List

namespace CreoBench

namespace Link

/-- `recv` has returned this many reports and nothing else. -/
structure Took (link : Link) (rounds : Nat) : Prop where
  received : link.received = rounds
  reported : rounds ≤ link.generator.reported.length

/-- The stream has ended after at most this many reports. -/
structure Gone (link : Link) (rounds : Nat) : Prop where
  ended : link.HasEnded
  short : link.generator.reported.length ≤ rounds

variable {link next : Link} {rounds : Nat}

theorem Took.grow (took : link.Took rounds) (grows : link.Grows next) : next.Took rounds :=
  ⟨grows.received.trans took.received, took.reported.trans grows.length_le⟩

theorem Gone.grow (gone : link.Gone rounds) (grows : link.Grows next) (sound : next.Sound) :
    next.Gone rounds := by
  refine ⟨grows.hasEnded gone.ended, ?_⟩
  rw [grows.reported_of_hasEnded sound gone.ended]
  exact gone.short

theorem Gone.later {later : Nat} (gone : link.Gone rounds) (le : rounds ≤ later) :
    link.Gone later :=
  ⟨gone.ended, gone.short.trans le⟩

end Link

namespace LoadTestRunner

/-- The reports that the generators have at a position of their streams. -/
def reportsAt (links : List Link) (index : Nat) : List IntervalReport :=
  links.filterMap (·.report index)

/-- Two generators disagree on the target time of a report. -/
def Differ (links : List Link) (index : Nat) : Prop :=
  ∃ first ∈ links, ∃ second ∈ links, ∃ report other,
    first.report index = some report ∧ second.report index = some other ∧
      report.targetTime ≠ other.targetTime

/-- Everybody who is not among `handles` has finished. -/
def OthersGone (links : List Link) (rounds : Nat) (handles : List Nat) : Prop :=
  ∀ generator link, links[generator]? = some link → generator ∉ handles → link.Gone rounds

/-- All of `generators` have given this many reports. -/
def AllTook (links : List Link) (rounds : Nat) (generators : List Nat) : Prop :=
  ∀ generator ∈ generators, ∃ link, links[generator]? = some link ∧ link.Took rounds

/-- The reports of a round so far. -/
def RoundOf (links : List Link) (rounds : Nat) (generators : List Nat)
    (roundReports : List IntervalReport) : Prop :=
  List.Forall₂ (fun generator report => ∃ link, links[generator]? = some link ∧
    link.Took (rounds + 1) ∧ link.report rounds = some report) generators roundReports

/-- What has been received when the program stands where it does after so many rounds,
and what is announced at the end. -/
def Program.Collects (links : List Link) (rounds : Nat) (valid : Bool) : Program → Prop
  | .joinConnects _ | .abortConnected _ | .awaitAborted .. | .joinConfigures _
  | .abortConfigured _ | .joinStarts _ | .createPersisters =>
      rounds = 0 ∧ ∀ link ∈ links, link.received = 0
  | .collect handles index roundReports =>
      (∃ taken waiting, handles = taken ++ waiting ∧ taken.length = index ∧
        RoundOf links rounds taken roundReports ∧ AllTook links rounds waiting) ∧
          OthersGone links rounds handles
  | .persist handles _ => AllTook links rounds handles ∧ OthersGone links rounds handles
  | .finish => ∀ link ∈ links, link.Gone rounds
  | .succeeded metadata => metadata.valid = valid ∧ ∀ link ∈ links, link.Gone rounds
  | .failed (.collect (.timeMismatch ..)) | .exited (.collect (.timeMismatch ..)) =>
      Differ links rounds
  | .abortStarted _ | .failed _ | .exited _ => True

/-- The invariant of all runs. -/
structure Collected (runner : LoadTestRunner) : Prop where
  size : 0 < runner.links.length ∧ runner.links.length ≤ 256
  summary : runner.summary =
    .recordAll runner.config.warmup.duration runner.config.warmup.pause runner.merged
  rounds : ∀ index report, runner.merged[index]? = some report →
    IntervalReport.IsMerge (reportsAt runner.links index) report
  settled : ∀ link ∈ runner.links, link.Settled runner.merged.length
  program : runner.program.Collects runner.links runner.merged.length runner.summary.isValid

/-- The updates of all links grow, while `recv` is not called. -/
structure LinksGrow (links next : List Link) : Prop where
  length : next.length = links.length
  each : ∀ (index : Nat) (link : Link), links[index]? = some link →
    ∃ later, next[index]? = some later ∧ link.Grows later

namespace LinksGrow

variable {links next : List Link}

theorem refl (links : List Link) : LinksGrow links links :=
  ⟨rfl, fun _ link found => ⟨link, found, .refl link⟩⟩

theorem set {index : Nat} {link changed : Link} (found : links[index]? = some link)
    (grows : link.Grows changed) : LinksGrow links (links.set index changed) := by
  refine ⟨List.length_set, fun other otherLink otherFound => ?_⟩
  rw [List.getElem?_set]
  split_ifs with same bound
  · obtain rfl := same
    rw [found] at otherFound
    cases otherFound
    exact ⟨changed, rfl, grows⟩
  · exact absurd (same ▸ (List.getElem?_eq_some_iff.mp otherFound).1) bound
  · exact ⟨otherLink, otherFound, .refl otherLink⟩

theorem map {change : Link → Link} (grows : ∀ link : Link, link.Grows (change link)) :
    LinksGrow links (links.map change) := by
  refine ⟨List.length_map _, fun index link found => ?_⟩
  rw [List.getElem?_map, found]
  exact ⟨change link, rfl, grows link⟩

/-- Every later link was there before. -/
theorem before (grow : LinksGrow links next) {index : Nat} {later : Link}
    (found : next[index]? = some later) :
    ∃ link, links[index]? = some link ∧ link.Grows later := by
  have bound := (List.getElem?_eq_some_iff.mp found).1
  rw [grow.length] at bound
  rcases grow.each index _ (List.getElem?_eq_getElem bound) with ⟨later', found', grows⟩
  rw [found] at found'
  cases found'
  exact ⟨_, List.getElem?_eq_getElem bound, grows⟩

theorem before_mem (grow : LinksGrow links next) {later : Link} (member : later ∈ next) :
    ∃ link ∈ links, link.Grows later := by
  rcases List.mem_iff_getElem?.mp member with ⟨index, found⟩
  rcases grow.before found with ⟨link, linkFound, grows⟩
  exact ⟨link, List.mem_of_getElem? linkFound, grows⟩

theorem allTook (grow : LinksGrow links next) {rounds : Nat} {generators : List Nat}
    (took : AllTook links rounds generators) : AllTook next rounds generators := by
  intro generator member
  rcases took generator member with ⟨link, found, linkTook⟩
  rcases grow.each generator link found with ⟨later, laterFound, grows⟩
  exact ⟨later, laterFound, linkTook.grow grows⟩

theorem roundOf (grow : LinksGrow links next) {rounds : Nat} {generators : List Nat}
    {roundReports : List IntervalReport} (round : RoundOf links rounds generators roundReports) :
    RoundOf next rounds generators roundReports := by
  refine round.imp ?_
  rintro generator report ⟨link, found, took, reported⟩
  rcases grow.each generator link found with ⟨later, laterFound, grows⟩
  exact ⟨later, laterFound, took.grow grows, grows.report_eq_some reported⟩

theorem othersGone (grow : LinksGrow links next) (sound : ∀ link ∈ next, link.Sound)
    {rounds : Nat} {handles : List Nat} (gone : OthersGone links rounds handles) :
    OthersGone next rounds handles := by
  intro generator later found absent
  rcases grow.before found with ⟨link, linkFound, grows⟩
  exact (gone generator link linkFound absent).grow grows
    (sound later (List.mem_of_getElem? found))

theorem differ (grow : LinksGrow links next) {index : Nat} (differ : Differ links index) :
    Differ next index := by
  rcases differ with ⟨first, firstMem, second, secondMem, report, other, firstAt, secondAt,
    different⟩
  rcases List.mem_iff_getElem?.mp firstMem with ⟨firstIndex, firstFound⟩
  rcases List.mem_iff_getElem?.mp secondMem with ⟨secondIndex, secondFound⟩
  rcases grow.each firstIndex first firstFound with ⟨laterFirst, laterFirstFound, firstGrows⟩
  rcases grow.each secondIndex second secondFound with
    ⟨laterSecond, laterSecondFound, secondGrows⟩
  exact ⟨laterFirst, List.mem_of_getElem? laterFirstFound, laterSecond,
    List.mem_of_getElem? laterSecondFound, report, other, firstGrows.report_eq_some firstAt,
    secondGrows.report_eq_some secondAt, different⟩

theorem collects (grow : LinksGrow links next) (sound : ∀ link ∈ next, link.Sound)
    {rounds : Nat} {valid : Bool} {program : Program}
    (collects : program.Collects links rounds valid) :
    program.Collects next rounds valid := by
  have notReceived : (∀ link ∈ links, link.received = 0) → ∀ link ∈ next, link.received = 0 := by
    intro before later member
    rcases grow.before_mem member with ⟨link, linkMem, grows⟩
    exact grows.received.trans (before link linkMem)
  have allGone : (∀ link ∈ links, link.Gone rounds) → ∀ link ∈ next, link.Gone rounds := by
    intro gone later member
    rcases grow.before_mem member with ⟨link, linkMem, grows⟩
    exact (gone link linkMem).grow grows (sound later member)
  cases program with
  | joinConnects | abortConnected | awaitAborted | joinConfigures | abortConfigured
  | joinStarts | createPersisters => exact ⟨collects.1, notReceived collects.2⟩
  | abortStarted remaining => trivial
  | collect handles index roundReports =>
      rcases collects with ⟨⟨taken, waiting, split, lengthEq, round, took⟩, gone⟩
      exact ⟨⟨taken, waiting, split, lengthEq, grow.roundOf round, grow.allTook took⟩,
        grow.othersGone sound gone⟩
  | persist handles report =>
      exact ⟨grow.allTook collects.1, grow.othersGone sound collects.2⟩
  | finish => exact allGone collects
  | succeeded metadata => exact ⟨collects.1, allGone collects.2⟩
  | failed error | exited error =>
      rcases error with _ | _ | _ | ⟨_ | _⟩ | _ | _
      case collect.timeMismatch => exact grow.differ collects
      all_goals trivial

/-- The earlier reports of all streams stay as they are. -/
theorem reportsAt_eq (grow : LinksGrow links next) (sound : ∀ link ∈ next, link.Sound)
    {rounds index : Nat} (settled : ∀ link ∈ links, link.Settled rounds)
    (earlier : index < rounds) : reportsAt next index = reportsAt links index := by
  have sameReports : next.map (·.report index) = links.map (·.report index) := by
    apply List.ext_getElem?
    intro position
    rw [List.getElem?_map, List.getElem?_map]
    cases foundEq : links[position]? with
    | none =>
        rw [List.getElem?_eq_none_iff, ← grow.length, ← List.getElem?_eq_none_iff] at foundEq
        rw [foundEq]
    | some link =>
        rcases grow.each position link foundEq with ⟨later, laterFound, grows⟩
        rw [laterFound]
        have same := (settled link (List.mem_of_getElem? foundEq)).report grows
          (sound later (List.mem_of_getElem? laterFound)) earlier
        exact congrArg some same
  have selected := congrArg (List.filterMap id) sameReports
  rw [List.filterMap_map, List.filterMap_map] at selected
  exact selected

end LinksGrow

theorem collected_new {config : LoadTestConfig} (positive : 0 < config.generators.length)
    (small : config.generators.length ≤ 256) : (new config).Collected := by
  have lengthEq : (new config).links.length = config.generators.length := by
    simp [new, length_split]
  refine ⟨by omega, rfl, nofun, fun _ _ => .inl (Nat.zero_le _), rfl, ?_⟩
  intro link member
  rcases exists_new_of_mem_links member with ⟨address, share, rfl⟩
  rfl

/-- A step that merges nothing. -/
theorem Collected.keep {runner next : LoadTestRunner} (collected : runner.Collected)
    (nextSound : next.Sound) (grow : LinksGrow runner.links next.links)
    (config : next.config = runner.config) (summary : next.summary = runner.summary)
    (merged : next.merged = runner.merged)
    (program : next.program.Collects next.links runner.merged.length runner.summary.isValid) :
    next.Collected := by
  refine ⟨?_, ?_, ?_, ?_, ?_⟩
  · rw [grow.length]
    exact collected.size
  · rw [summary, config, merged]
    exact collected.summary
  · intro index report found
    rw [merged] at found
    rw [grow.reportsAt_eq nextSound.links collected.settled
      (List.getElem?_eq_some_iff.mp found).1]
    exact collected.rounds index report found
  · intro later member
    rw [merged]
    rcases grow.before_mem member with ⟨link, linkMem, grows⟩
    exact (collected.settled link linkMem).grow grows
  · rw [merged, summary]
    exact program

/-- A step of one link that is none of `run`. -/
theorem Collected.stepLink {runner next : LoadTestRunner} {index : Nat}
    {change : Link → Option Link} (collected : runner.Collected) (nextSound : next.Sound)
    (stepped : runner.stepLink index change = some next)
    (grows : ∀ link changed, change link = some changed → link.Grows changed) :
    next.Collected := by
  rcases Option.bind_eq_some_iff.mp stepped with ⟨link, found, rest⟩
  rcases Option.bind_eq_some_iff.mp rest with ⟨changed, changedEq, made⟩
  obtain rfl := Option.some.inj made
  have grow : LinksGrow runner.links (runner.links.set index changed) :=
    .set found (grows link changed changedEq)
  exact collected.keep nextSound grow rfl rfl rfl
    (grow.collects nextSound.links collected.program)

/-- Where `run` stands before the first round, or has given up. -/
def Program.isEarly : Program → Bool
  | .joinConnects _ | .abortConnected _ | .awaitAborted .. | .joinConfigures _
  | .abortConfigured _ | .joinStarts _ | .createPersisters => true
  | _ => false

theorem Program.collects_of_isEarly {links : List Link} {rounds : Nat} {valid : Bool}
    {program : Program} (early : program.isEarly) :
    program.Collects links rounds valid ↔ rounds = 0 ∧ ∀ link ∈ links, link.received = 0 := by
  cases program <;> first | exact Iff.rfl | cases early

/-- A step before the first round. -/
theorem Collected.early {runner next : LoadTestRunner} (collected : runner.Collected)
    (isEarly : runner.program.isEarly) (nextSound : next.Sound)
    (grow : LinksGrow runner.links next.links)
    (config : next.config = runner.config) (summary : next.summary = runner.summary)
    (merged : next.merged = runner.merged)
    (program : (∀ link ∈ next.links, link.received = 0) →
      next.program.Collects next.links 0 runner.summary.isValid) : next.Collected := by
  rcases (Program.collects_of_isEarly isEarly).mp collected.program with ⟨noRounds, unread⟩
  refine collected.keep nextSound grow config summary merged ?_
  rw [noRounds]
  apply program
  intro later member
  rcases grow.before_mem member with ⟨link, linkMem, grows⟩
  exact grows.received.trans (unread link linkMem)

theorem Collected.joinConnect {runner next : LoadTestRunner} {joined : Nat}
    (collected : runner.Collected) (programEq : runner.program = .joinConnects joined)
    (nextSound : next.Sound) (stepped : runner.joinConnect joined = some next) :
    next.Collected := by
  have isEarly : runner.program.isEarly := by rw [programEq]; rfl
  unfold LoadTestRunner.joinConnect at stepped
  split at stepped
  · cases stepped
    unfold allConnected at nextSound ⊢
    split_ifs at nextSound ⊢
    · exact collected.early isEarly nextSound (.map fun _ => ⟨rfl, List.prefix_refl _⟩) rfl rfl rfl
        fun unread => ⟨rfl, unread⟩
    · exact collected.early isEarly nextSound (.refl _) rfl rfl rfl fun unread => ⟨rfl, unread⟩
  · split_ifs at stepped
    cases stepped
    exact collected.early isEarly nextSound (.refl _) rfl rfl rfl fun unread => ⟨rfl, unread⟩

theorem Collected.joinConfigure {runner next : LoadTestRunner} {joined : Nat}
    (collected : runner.Collected) (programEq : runner.program = .joinConfigures joined)
    (nextSound : next.Sound) (stepped : runner.joinConfigure joined = some next) :
    next.Collected := by
  have isEarly : runner.program.isEarly := by rw [programEq]; rfl
  unfold LoadTestRunner.joinConfigure at stepped
  split at stepped
  · cases stepped
    unfold allReady at nextSound ⊢
    split_ifs at nextSound ⊢
    · exact collected.early isEarly nextSound (.map fun _ => ⟨rfl, List.prefix_refl _⟩) rfl rfl rfl
        fun unread => ⟨rfl, unread⟩
    · exact collected.early isEarly nextSound (.refl _) rfl rfl rfl fun unread => ⟨rfl, unread⟩
  · split_ifs at stepped
    cases stepped
    exact collected.early isEarly nextSound (.refl _) rfl rfl rfl fun unread => ⟨rfl, unread⟩

theorem Collected.joinStart {runner next : LoadTestRunner} {joined : Nat}
    (collected : runner.Collected) (programEq : runner.program = .joinStarts joined)
    (nextSound : next.Sound) (stepped : runner.joinStart joined = some next) :
    next.Collected := by
  have isEarly : runner.program.isEarly := by rw [programEq]; rfl
  unfold LoadTestRunner.joinStart at stepped
  split at stepped
  · cases stepped
    exact collected.early isEarly nextSound (.refl _) rfl rfl rfl fun unread => ⟨rfl, unread⟩
  · split_ifs at stepped <;> cases stepped
    · exact collected.early isEarly nextSound (.refl _) rfl rfl rfl fun _ => trivial
    · exact collected.early isEarly nextSound (.refl _) rfl rfl rfl fun unread => ⟨rfl, unread⟩

theorem Collected.abortConnected {runner next : LoadTestRunner} {succeeds : Bool} {index : Nat}
    {remaining : List Nat} (collected : runner.Collected)
    (programEq : runner.program = .abortConnected (index :: remaining))
    (nextSound : next.Sound)
    (stepped : runner.abortConnected succeeds index remaining = some next) :
    next.Collected := by
  have isEarly : runner.program.isEarly := by rw [programEq]; rfl
  unfold LoadTestRunner.abortConnected at stepped
  split at stepped <;> cases stepped <;> rename_i found
  · exact collected.early isEarly nextSound (.set found ⟨rfl, List.prefix_refl _⟩) rfl rfl rfl
      fun unread => ⟨rfl, unread⟩
  · exact collected.early isEarly nextSound (.set found ⟨rfl, List.prefix_refl _⟩) rfl rfl rfl
      fun unread => ⟨rfl, unread⟩

theorem Collected.awaitAborted {runner next : LoadTestRunner} {succeeds : Bool} {index : Nat}
    {remaining : List Nat} (collected : runner.Collected)
    (programEq : runner.program = .awaitAborted index remaining) (nextSound : next.Sound)
    (stepped : runner.awaitAborted succeeds index remaining = some next) : next.Collected := by
  have isEarly : runner.program.isEarly := by rw [programEq]; rfl
  unfold LoadTestRunner.awaitAborted at stepped
  split at stepped
  · rename_i link found
    split_ifs at stepped
    cases stepped
    exact collected.early isEarly nextSound (.set found ⟨rfl, List.prefix_refl _⟩) rfl rfl rfl
      fun unread => ⟨rfl, unread⟩
  · cases stepped

theorem Collected.abortConfigured {runner next : LoadTestRunner} {succeeds : Bool}
    {index : Nat} {remaining : List Nat} (collected : runner.Collected)
    (programEq : runner.program = .abortConfigured (index :: remaining))
    (nextSound : next.Sound)
    (stepped : runner.abortConfigured succeeds index remaining = some next) :
    next.Collected := by
  have isEarly : runner.program.isEarly := by rw [programEq]; rfl
  unfold LoadTestRunner.abortConfigured at stepped
  split at stepped <;> cases stepped <;> rename_i found
  · exact collected.early isEarly nextSound (.set found ⟨rfl, List.prefix_refl _⟩) rfl rfl rfl
      fun unread => ⟨rfl, unread⟩
  · exact collected.early isEarly nextSound (.set found ⟨rfl, List.prefix_refl _⟩) rfl rfl rfl
      fun _ => trivial

theorem Collected.abortStarted {runner next : LoadTestRunner} {index : Nat}
    {remaining : List Nat} (collected : runner.Collected) (nextSound : next.Sound)
    (stepped : runner.abortStarted index remaining = some next) : next.Collected := by
  rcases Option.bind_eq_some_iff.mp stepped with ⟨link, found, rest⟩
  rcases Option.bind_eq_some_iff.mp rest with ⟨changed, aborted, made⟩
  obtain rfl := Option.some.inj made
  have grows : link.Grows changed := by
    unfold Link.sendAbort at aborted
    split at aborted <;> cases aborted <;> exact ⟨rfl, List.prefix_refl _⟩
  exact collected.keep nextSound (.set found grows) rfl rfl rfl trivial

/-! ## One round -/

/-- The turns that are over and those that are not. -/
theorem Collected.turns {runner : LoadTestRunner} {handles : List Nat} {index : Nat}
    {roundReports : List IntervalReport} (collected : runner.Collected)
    (programEq : runner.program = .collect handles index roundReports) :
    (∃ taken waiting, handles = taken ++ waiting ∧ taken.length = index ∧
      RoundOf runner.links runner.merged.length taken roundReports ∧
        AllTook runner.links runner.merged.length waiting) ∧
          OthersGone runner.links runner.merged.length handles := by
  have program := collected.program
  rw [programEq] at program
  exact program

/-- At the end of a round everybody has given a report. -/
theorem Collected.roundEnd {runner : LoadTestRunner} {handles : List Nat} {index : Nat}
    {roundReports : List IntervalReport} (collected : runner.Collected)
    (programEq : runner.program = .collect handles index roundReports)
    (ended : handles[index]? = none) :
    RoundOf runner.links runner.merged.length handles roundReports := by
  rcases (collected.turns programEq).1 with ⟨taken, waiting, rfl, rfl, round, -⟩
  cases waiting with
  | nil =>
      rw [List.append_nil]
      exact round
  | cons generator rest => simp at ended

/-- The reports of a complete round are those that all generators have there. -/
theorem RoundOf.perm {links : List Link} {rounds : Nat} {handles : List Nat}
    {roundReports : List IntervalReport} (round : RoundOf links rounds handles roundReports)
    (nodup : handles.Nodup) (within : ∀ generator ∈ handles, generator < links.length)
    (gone : OthersGone links rounds handles) : roundReports ~ reportsAt links rounds := by
  have selected : (handles.filterMap fun generator =>
      links[generator]?.bind fun link => link.report rounds) = roundReports := by
    clear nodup within gone
    induction round with
    | nil => rfl
    | cons given _ ih =>
        rcases given with ⟨link, found, -, reported⟩
        rw [List.filterMap_cons_some (by rw [found]; exact reported), ih]
  rw [← selected]
  apply List.filterMap_getElem?_perm nodup within
  intro generator link found absent
  exact Link.report_eq_none (gone generator link found absent).short

theorem RoundOf.allTook {links : List Link} {rounds : Nat} {handles : List Nat}
    {roundReports : List IntervalReport} (round : RoundOf links rounds handles roundReports) :
    AllTook links (rounds + 1) handles := by
  induction round with
  | nil => exact nofun
  | cons given _ ih =>
      intro generator member
      rcases List.mem_cons.mp member with rfl | inRest
      · rcases given with ⟨link, found, took, -⟩
        exact ⟨link, found, took⟩
      · exact ih generator inRest

theorem OthersGone.later {links : List Link} {rounds : Nat} {handles : List Nat}
    (gone : OthersGone links rounds handles) : OthersGone links (rounds + 1) handles :=
  fun generator link found absent =>
    (gone generator link found absent).later (Nat.le_succ rounds)

/-- After a complete round it is known who has a report there. -/
theorem RoundOf.settled {links : List Link} {rounds : Nat} {handles : List Nat}
    {roundReports : List IntervalReport} (round : RoundOf links rounds handles roundReports)
    (gone : OthersGone links rounds handles) : ∀ link ∈ links, link.Settled (rounds + 1) := by
  intro link member
  rcases List.mem_iff_getElem?.mp member with ⟨generator, found⟩
  by_cases inHandles : generator ∈ handles
  · rcases round.allTook generator inHandles with ⟨link', found', took⟩
    rw [found] at found'
    cases found'
    exact .inl took.reported
  · exact .inr (gone generator link found inHandles).ended

theorem Collected.merge {runner : LoadTestRunner} {handles : List Nat} {index : Nat}
    {roundReports : List IntervalReport} (collected : runner.Collected) (sound : runner.Sound)
    (programEq : runner.program = .collect handles index roundReports)
    (ended : handles[index]? = none) (nextSound : (runner.merge handles roundReports).Sound) :
    (runner.merge handles roundReports).Collected := by
  have names := sound.names
  rw [programEq] at names
  rcases names with ⟨nodup, within, -, lengthEq⟩
  have round := collected.roundEnd programEq ended
  have gone := (collected.turns programEq).2
  have perm := round.perm nodup within gone
  revert nextSound
  unfold LoadTestRunner.merge
  split <;> intro nextSound
  · rename_i noReport
    have noHandles : handles = [] := by
      rw [mergeRound_eq_ok_none noReport] at round
      cases round
      rfl
    refine collected.keep nextSound (.refl _) rfl rfl rfl ?_
    intro link member
    rcases List.mem_iff_getElem?.mp member with ⟨generator, found⟩
    exact gone generator link found (by rw [noHandles]; exact List.not_mem_nil)
  · rename_i report mergedEq
    have paired : roundReports.length ≤ (runner.handlesAt handles).length := by
      rw [handlesAt, List.length_map, round.length_eq]
    have isMerge := (isMerge_of_mergeRound paired mergedEq).perm perm
    refine ⟨collected.size, ?_, ?_, ?_, ?_⟩
    · change runner.summary.record report = .recordAll _ _ (runner.merged ++ [report])
      rw [DropSummary.recordAll_append, collected.summary]
    · intro position merged found
      rcases List.getElem?_concat_eq_some.mp found with old | ⟨rfl, rfl⟩
      · exact collected.rounds position merged old
      · exact isMerge
    · intro link member
      change link.Settled (runner.merged ++ [report]).length
      rw [List.length_append, List.length_singleton]
      exact round.settled gone link member
    · change AllTook runner.links (runner.merged ++ [report]).length handles ∧
        OthersGone runner.links (runner.merged ++ [report]).length handles
      rw [List.length_append]
      exact ⟨round.allTook, gone.later⟩
  · rename_i error failed
    refine collected.keep nextSound (.refl _) rfl rfl rfl ?_
    have differ : Differ runner.links runner.merged.length := by
      rcases differ_of_mergeRound failed with ⟨first, firstMem, second, secondMem, different⟩
      rcases List.mem_filterMap.mp (perm.mem_iff.mp firstMem) with ⟨link, linkMem, linkAt⟩
      rcases List.mem_filterMap.mp (perm.mem_iff.mp secondMem) with ⟨other, otherMem, otherAt⟩
      exact ⟨link, linkMem, other, otherMem, first, second, linkAt, otherAt, different⟩
    cases error with
    | instanceCrashed address => trivial
    | timeMismatch address expected actual => exact differ

section Receive

variable {links : List Link} {rounds generator : Nat} {link changed : Link}

theorem AllTook.set {generators : List Nat} (took : AllTook links rounds generators)
    (absent : generator ∉ generators) :
    AllTook (links.set generator changed) rounds generators := by
  intro other member
  have different : generator ≠ other := fun same => absent (same ▸ member)
  rw [List.getElem?_set_ne different]
  exact took other member

theorem RoundOf.set {generators : List Nat} {roundReports : List IntervalReport}
    (round : RoundOf links rounds generators roundReports) (absent : generator ∉ generators) :
    RoundOf (links.set generator changed) rounds generators roundReports := by
  induction round with
  | nil => exact .nil
  | @cons other report _ _ given _ ih =>
      rw [List.mem_cons, not_or] at absent
      refine .cons ?_ (ih absent.2)
      rw [List.getElem?_set_ne absent.1]
      exact given

theorem OthersGone.set {handles remaining : List Nat} (gone : OthersGone links rounds handles)
    (remains : ∀ other, other ≠ generator → other ∉ remaining → other ∉ handles)
    (here : generator ∉ remaining → changed.Gone rounds) :
    OthersGone (links.set generator changed) rounds remaining := by
  intro other otherLink found absent
  rw [List.getElem?_set] at found
  split_ifs at found with same
  · obtain rfl := same
    obtain rfl := Option.some.inj found
    exact here absent
  · exact gone other otherLink found (remains other (Ne.symm same) absent)

theorem reportsAt_set (found : links[generator]? = some link)
    (sameGenerator : changed.generator = link.generator) (index : Nat) :
    reportsAt (links.set generator changed) index = reportsAt links index := by
  have same : changed.report index = link.report index := by
    rw [Link.report, Link.report, sameGenerator]
  have sameReports : (links.set generator changed).map (·.report index) =
      links.map (·.report index) := by
    rw [List.map_set, same]
    exact List.set_eq_self_of_getElem? (by rw [List.getElem?_map, found]; rfl)
  have selected := congrArg (List.filterMap id) sameReports
  rw [List.filterMap_map, List.filterMap_map] at selected
  exact selected

end Receive

/-- A step that takes an update of one generator. -/
theorem Collected.updateLink {runner : LoadTestRunner} {generator : Nat} {link changed : Link}
    {program : Program} (collected : runner.Collected)
    (found : runner.links[generator]? = some link)
    (sameGenerator : changed.generator = link.generator)
    (collects : program.Collects (runner.links.set generator changed) runner.merged.length
      runner.summary.isValid) :
    (runner.updateLink generator changed program).Collected := by
  refine ⟨?_, collected.summary, ?_, ?_, collects⟩
  · change 0 < (runner.links.set generator changed).length ∧
      (runner.links.set generator changed).length ≤ 256
    rw [List.length_set]
    exact collected.size
  · intro index report mergedAt
    change IntervalReport.IsMerge (reportsAt (runner.links.set generator changed) index) report
    rw [reportsAt_set found sameGenerator]
    exact collected.rounds index report mergedAt
  · intro other member
    rcases List.mem_or_eq_of_mem_set member with old | rfl
    · exact collected.settled other old
    · have settled := collected.settled link (List.mem_of_getElem? found)
      unfold Link.Settled Link.HasEnded at settled ⊢
      rw [sameGenerator]
      exact settled

theorem Collected.receive {runner : LoadTestRunner} {handles : List Nat} {index : Nat}
    {roundReports : List IntervalReport} {generator : Nat} {link : Link}
    {update : GeneratorUpdate} (collected : runner.Collected) (sound : runner.Sound)
    (programEq : runner.program = .collect handles index roundReports)
    (turn : handles[index]? = some generator) (found : runner.links[generator]? = some link)
    (next : link.nextUpdate = some update) :
    (runner.receive handles index roundReports generator link update).Collected := by
  have names := sound.names
  rw [programEq] at names
  rcases collected.turns programEq with ⟨⟨taken, waiting, rfl, rfl, round, took⟩, gone⟩
  cases waiting with
  | nil => simp at turn
  | cons first rest =>
      obtain rfl : first = generator := by simpa using turn
      rcases List.nodup_append.mp names.1 with ⟨-, waitingNodup, disjoint⟩
      have notTaken : first ∉ taken := fun member =>
        disjoint first member first List.mem_cons_self rfl
      have notRest : first ∉ rest := (List.nodup_cons.mp waitingNodup).1
      have linkTook : link.Took runner.merged.length := by
        rcases took first List.mem_cons_self with ⟨link', found', linkTook⟩
        rw [found] at found'
        cases found'
        exact linkTook
      have restTook : AllTook runner.links runner.merged.length rest :=
        fun other member => took other (List.mem_cons_of_mem _ member)
      have linkSound := sound.links link (List.mem_of_getElem? found)
      have inLinks := (List.getElem?_eq_some_iff.mp found).1
      cases update with
      | intervalReport report =>
          have reported := Link.report_of_nextUpdate linkSound next
          rw [linkTook.received] at reported
          have long := Link.report_isSome.mp (Option.isSome_of_eq_some reported)
          refine collected.updateLink found ?_
            ⟨⟨taken ++ [first], rest, ?_, ?_, ?_, restTook.set notRest⟩, ?_⟩
          · rfl
          · rw [List.append_assoc, List.singleton_append]
          · rw [List.length_append, List.length_singleton]
          · refine List.rel_append (round.set notTaken) (.cons ?_ .nil)
            exact ⟨_, List.getElem?_set_self inLinks,
              ⟨congrArg (· + 1) linkTook.received, long⟩, reported⟩
          · apply gone.set (fun _ _ absent => absent)
            intro absent
            exact absurd (by simp) absent
      | finished =>
          rcases Link.hasEnded_of_nextUpdate linkSound next with ⟨ended, lengthEq⟩
          rw [linkTook.received] at lengthEq
          refine collected.updateLink found ?_ ⟨⟨taken, rest.lastFirst,
            List.swapRemove_append_cons taken first rest, rfl, round.set notTaken, ?_⟩, ?_⟩
          · rfl
          · have left : AllTook runner.links runner.merged.length rest.lastFirst :=
              fun other member => restTook other (rest.lastFirst_perm.mem_iff.mp member)
            exact left.set fun member => notRest (rest.lastFirst_perm.mem_iff.mp member)
          · apply gone.set
            · intro other different absent member
              apply absent
              rw [List.swapRemove_append_cons, List.mem_append, rest.lastFirst_perm.mem_iff]
              simpa [different] using member
            · intro _
              exact ⟨ended, lengthEq.le⟩

theorem Collected.collectNext {runner next : LoadTestRunner} {handles : List Nat} {index : Nat}
    {roundReports : List IntervalReport} (collected : runner.Collected) (sound : runner.Sound)
    (programEq : runner.program = .collect handles index roundReports) (nextSound : next.Sound)
    (stepped : runner.collectNext handles index roundReports = some next) :
    next.Collected := by
  unfold LoadTestRunner.collectNext at stepped
  split at stepped
  · rename_i ended
    cases stepped
    exact collected.merge sound programEq ended nextSound
  · rename_i generator turn
    rcases Option.bind_eq_some_iff.mp stepped with ⟨link, found, rest⟩
    rcases Option.bind_eq_some_iff.mp rest with ⟨update, updateEq, made⟩
    obtain rfl := Option.some.inj made
    exact collected.receive sound programEq turn found updateEq

theorem Collected.collectFails {runner next : LoadTestRunner} {handles : List Nat}
    {index : Nat} (collected : runner.Collected)
    (stepped : runner.collectFails handles index = some next) : next.Collected := by
  rcases Option.bind_eq_some_iff.mp stepped with ⟨generator, -, rest⟩
  rcases Option.bind_eq_some_iff.mp rest with ⟨link, found, made⟩
  obtain rfl := Option.some.inj made
  exact collected.updateLink found rfl trivial

/-! ## Every run -/

theorem Collected.stepRun {runner next : LoadTestRunner} {event : RunEvent}
    (collected : runner.Collected) (sound : runner.Sound) (nextSound : next.Sound)
    (stepped : runner.stepRun event = some next) : next.Collected := by
  have program := collected.program
  revert stepped
  fun_cases LoadTestRunner.stepRun runner event
  all_goals
    rename_i programEq
    first
      | (rw [programEq] at program; intro stepped)
      | simp
  case case1 => exact collected.joinConnect programEq nextSound stepped
  case case3 | case4 => exact collected.abortConnected programEq nextSound stepped
  case case5 | case6 => exact collected.awaitAborted programEq nextSound stepped
  case case7 => exact collected.joinConfigure programEq nextSound stepped
  case case9 | case10 => exact collected.abortConfigured programEq nextSound stepped
  case case11 => exact collected.joinStart programEq nextSound stepped
  case case15 => exact collected.abortStarted nextSound stepped
  case case16 => exact collected.collectNext sound programEq nextSound stepped
  case case17 => exact collected.collectFails stepped
  all_goals
    cases stepped
    refine collected.keep nextSound (.refl _) rfl rfl rfl ?_
  case case12 =>
    refine ⟨⟨[], _, rfl, rfl, .nil, ?_⟩, ?_⟩
    · intro generator member
      have found := List.getElem?_eq_getElem (List.mem_range.mp member)
      refine ⟨_, found, ?_, ?_⟩
      · rw [program.1]
        exact program.2 _ (List.mem_of_getElem? found)
      · rw [program.1]
        exact Nat.zero_le _
    · intro generator link found absent
      exact absurd (mem_range_of_found found) absent
  case case19 => exact ⟨⟨[], _, rfl, rfl, .nil, program.1⟩, program.2⟩
  case case21 => exact ⟨rfl, program⟩
  case case24 error =>
    rcases error with _ | _ | _ | ⟨_ | _⟩ | _ | _
    case collect.timeMismatch => exact program
    all_goals trivial
  all_goals trivial

theorem Collected.step {runner next : LoadTestRunner} {event : Event}
    (collected : runner.Collected) (sound : runner.Sound) (nextSound : next.Sound)
    (stepped : runner.step event = some next) : next.Collected := by
  cases event with
  | task index succeeds =>
      refine collected.stepLink nextSound (stepLink_of_stepTask stepped) ?_
      intro link changed moved
      rcases Link.untouched_of_task moved with ⟨sameGenerator, received⟩
      exact ⟨received, by rw [sameGenerator]⟩
  | commandTask index succeeds =>
      refine collected.stepLink nextSound (stepLink_of_stepTask stepped) ?_
      intro link changed moved
      rcases Link.untouched_of_stepCommandTask moved with ⟨sameGenerator, received⟩
      exact ⟨received, by rw [sameGenerator]⟩
  | deliver index =>
      refine collected.stepLink nextSound stepped ?_
      intro link changed moved
      rcases Option.map_eq_some_iff.mp moved with ⟨message, -, rfl⟩
      exact ⟨rfl, List.prefix_refl _⟩
  | generator index event =>
      refine collected.stepLink nextSound stepped ?_
      intro link changed moved
      rcases Link.stepGenerator_eq_some moved with ⟨generator, -, ran, rfl⟩
      exact ⟨rfl, LoadGenerator.updates_prefix ran⟩
  | run event => exact collected.stepRun sound nextSound stepped

theorem collected_of_reachable {allowed : LoadTestRunner → Event → Prop}
    {runner : LoadTestRunner} (reachable : machine.ReachableBy allowed runner) :
    runner.Collected := by
  apply reachable.invariant_of_known (fun _ reached => sound_of_reachable reached)
  · rintro _ ⟨config, positive, small, rfl⟩
    exact collected_new positive small
  · intro _ _ _ sound collected _ stepped
    exact collected.step sound (sound.step stepped) stepped

end LoadTestRunner

end CreoBench
