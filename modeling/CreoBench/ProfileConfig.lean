import CreoBench.Distribute
import CreoBench.Library.Binary64Order

/-!
# Reading load profiles

A load profile is read row by row from a CSV file, each row checked against the
one before it.  The rows come from the CSV reader, which is a parameter: it
turns bytes into rows of a number and a count, or errors of its own.
-/

namespace CreoBench

/-- Why a deadline is rejected. -/
inductive DeadlineError where
  | nonFinite (deadline : Binary64)
  | nonPositive (deadline : Binary64)

/-- The text of the error, given how numbers are displayed. -/
def DeadlineError.message (display : Binary64 → String) : DeadlineError → String
  | .nonFinite this =>
      "load profile deadlines must be finite, but deadline `" ++ display this ++ "` is non-finite"
  | .nonPositive this =>
      "load profile deadlines must be positive, but deadline `" ++ display this ++
        "` is non-positive"

/-- `DeadlineConfig::deserialize`; zero passes unless its sign is negative. -/
def deserializeDeadline (this : Binary64) : Except DeadlineError Binary64 :=
  if ¬ this.isFinite then .error (.nonFinite this)
  else if this.isNegative then .error (.nonPositive this)
  else .ok this

/-- A row of the file before its deadline is checked. -/
structure CsvRow where
  deadline : Binary64
  count : UInt32

/-- Errors of rows; those of the reader itself are of type `E`. -/
inductive RowError (E : Type) where
  | reader (error : E)
  | deadline (error : DeadlineError)

inductive ConfigError (E : Type) where
  | csv (step : Nat) (source : RowError E)
  | nonMonotonicDeadline (step : Nat) (deadline previous : Binary64)
  | emptyLoadProfile

variable {E : Type}

def ConfigError.message (display : Binary64 → String) (displaySource : RowError E → String) :
    ConfigError E → String
  | .csv step source =>
      "failed to parse load step " ++ toString step ++ ": " ++ displaySource source
  | .nonMonotonicDeadline step deadline previous =>
      "load profile deadlines must be strictly increasing: step `" ++ toString step ++
        "` has deadline `" ++ display deadline ++ "`, previous was `" ++ display previous ++ "`"
  | .emptyLoadProfile => "load profile must not be empty"

def deserializeStep : Except E CsvRow → Except (RowError E) LoadStepConfig
  | .error error => .error (.reader error)
  | .ok row =>
      match deserializeDeadline row.deadline with
      | .error error => .error (.deadline error)
      | .ok deadline => .ok ⟨deadline, row.count⟩

def validateStep (step : LoadStepConfig) (prev : Option LoadStepConfig) (idx : Nat) :
    Except (ConfigError E) (Option LoadStepConfig) :=
  match prev with
  | some prev =>
      if step.deadline.le prev.deadline then
        .error (.nonMonotonicDeadline (idx + 1) step.deadline prev.deadline)
      else .ok (some step)
  | none => .ok (some step)

namespace LoadProfileConfig

/-- The loop of `fromBytes` from row `idx` on. -/
def readRows (idx : Nat) (previousStep : Option LoadStepConfig) (steps : List LoadStepConfig) :
    List (Except E CsvRow) → Except (ConfigError E) (List LoadStepConfig)
  | [] => .ok steps
  | row :: rows => do
      let step ← (deserializeStep row).mapError (.csv (idx + 1))
      let previousStep ← validateStep step previousStep idx
      readRows (idx + 1) previousStep (steps ++ [step]) rows

def fromBytes (reader : List UInt8 → List (Except E CsvRow)) (bytes : List UInt8) :
    Except (ConfigError E) LoadProfileConfig := do
  let steps ← readRows 0 none [] (reader bytes)
  if steps.isEmpty then .error .emptyLoadProfile else .ok ⟨steps⟩

/-- The profiles that are accepted. -/
structure Valid (config : LoadProfileConfig) : Prop where
  nonempty : config.steps ≠ []
  finite : ∀ step ∈ config.steps, step.deadline.isFinite = true
  nonNegative : ∀ step ∈ config.steps, step.deadline.isNegative = false
  increasing : config.steps.Pairwise fun first second =>
    first.deadline.units < second.deadline.units

end LoadProfileConfig

/-- The row of a step. -/
def LoadStepConfig.row (step : LoadStepConfig) : CsvRow := ⟨step.deadline, step.count⟩

/-- A deadline passes on its own. -/
def LoadStepConfig.Passes (step : LoadStepConfig) : Prop :=
  step.deadline.isFinite = true ∧ step.deadline.isNegative = false

theorem deserializeStep_eq_ok_iff {row : Except E CsvRow} {step : LoadStepConfig} :
    deserializeStep row = .ok step ↔ row = .ok step.row ∧ step.Passes := by
  cases row with
  | error error => simp [deserializeStep]
  | ok row =>
      obtain ⟨deadline, count⟩ := row
      obtain ⟨deadline', count'⟩ := step
      simp only [deserializeStep, deserializeDeadline, LoadStepConfig.row, LoadStepConfig.Passes,
        Except.ok.injEq, CsvRow.mk.injEq]
      constructor
      · intro accepted
        split_ifs at accepted with infinite negative
        cases accepted
        exact ⟨⟨rfl, rfl⟩, infinite, Bool.eq_false_iff.mpr negative⟩
      · rintro ⟨⟨rfl, rfl⟩, finite, nonNegative⟩
        simp [finite, nonNegative]

/-- A step is accepted after an earlier one if its deadline is later. -/
theorem validateStep_eq_ok_iff {step : LoadStepConfig} {prev : Option LoadStepConfig} {idx : Nat}
    {result : Option LoadStepConfig} (passes : step.Passes) (prevPasses : ∀ p ∈ prev, p.Passes) :
    (validateStep step prev idx : Except (ConfigError E) _) = .ok result ↔
      some step = result ∧ ∀ p ∈ prev, p.deadline.units < step.deadline.units := by
  cases prev with
  | none => simp [validateStep]
  | some prev =>
      obtain ⟨finite, nonNegative⟩ := prevPasses prev rfl
      have order := Binary64.le_iff passes.1 passes.2 finite nonNegative
      simp only [validateStep, order]
      split_ifs with notLater
      · simp [Nat.not_lt.mpr notLater]
      · simp [Nat.lt_of_not_le notLater]

namespace LoadProfileConfig

/-- One row of the loop. -/
theorem readRows_cons_eq_ok_iff {idx : Nat} {previousStep : Option LoadStepConfig}
    {steps result : List LoadStepConfig} {row : Except E CsvRow} {rows : List (Except E CsvRow)}
    (prevPasses : ∀ p ∈ previousStep, p.Passes) :
    readRows idx previousStep steps (row :: rows) = .ok result ↔
      ∃ step, row = .ok step.row ∧ step.Passes ∧
        (∀ p ∈ previousStep, p.deadline.units < step.deadline.units) ∧
          readRows (idx + 1) (some step) (steps ++ [step]) rows = .ok result := by
  rw [readRows]
  constructor
  · intro accepted
    cases decoded : deserializeStep row with
    | error error =>
        rw [decoded] at accepted
        cases accepted
    | ok step =>
        rw [decoded] at accepted
        obtain ⟨rowEq, passes⟩ := deserializeStep_eq_ok_iff.mp decoded
        change (validateStep step previousStep idx >>= _) = _ at accepted
        cases validated : (validateStep step previousStep idx : Except (ConfigError E) _) with
        | error error =>
            rw [validated] at accepted
            cases accepted
        | ok previous =>
            rw [validated] at accepted
            obtain ⟨rfl, later⟩ := (validateStep_eq_ok_iff passes prevPasses).mp validated
            exact ⟨step, rowEq, passes, later, accepted⟩
  · rintro ⟨step, rowEq, passes, later, rest⟩
    rw [deserializeStep_eq_ok_iff.mpr ⟨rowEq, passes⟩]
    change (validateStep step previousStep idx >>= _) = _
    rw [(validateStep_eq_ok_iff passes prevPasses).mpr ⟨rfl, later⟩]
    exact rest

theorem readRows_eq_ok_iff {idx : Nat} {previousStep : Option LoadStepConfig}
    {steps result : List LoadStepConfig} {rows : List (Except E CsvRow)}
    (prevPasses : ∀ p ∈ previousStep, p.Passes) :
    readRows idx previousStep steps rows = .ok result ↔
      ∃ following, rows = following.map (fun step => .ok step.row) ∧ result = steps ++ following ∧
        (∀ step ∈ following, step.Passes) ∧
          (previousStep.toList ++ following).Pairwise fun first second =>
            first.deadline.units < second.deadline.units := by
  induction rows generalizing idx previousStep steps with
  | nil =>
      simp only [readRows, Except.ok.injEq]
      constructor
      · rintro rfl
        exact ⟨[], rfl, by simp, by simp, by cases previousStep <;> simp⟩
      · rintro ⟨following, rowsEq, rfl, -⟩
        rw [List.map_eq_nil_iff.mp rowsEq.symm, List.append_nil]
  | cons row rows ih =>
      rw [readRows_cons_eq_ok_iff prevPasses]
      constructor
      · rintro ⟨step, rowEq, passes, later, rest⟩
        obtain ⟨following, rowsEq, rfl, allPass, increasing⟩ :=
          (ih (by rintro _ ⟨⟩; exact passes)).mp rest
        refine ⟨step :: following, by rw [rowEq, rowsEq, List.map_cons], by simp, ?_, ?_⟩
        · exact List.forall_mem_cons.mpr ⟨passes, allPass⟩
        · cases previousStep with
          | none => exact increasing
          | some prev =>
              refine List.Pairwise.cons (fun other member => ?_) increasing
              rcases List.mem_cons.mp member with rfl | behind
              · exact later prev rfl
              · exact (later prev rfl).trans (List.rel_of_pairwise_cons increasing behind)
      · rintro ⟨following, rowsEq, rfl, allPass, increasing⟩
        cases following with
        | nil => cases rowsEq
        | cons step following =>
            rw [List.map_cons, List.cons.injEq] at rowsEq
            obtain ⟨passes, allPass⟩ := List.forall_mem_cons.mp allPass
            refine ⟨step, rowsEq.1, passes, ?_, ?_⟩
            · rintro prev ⟨⟩
              exact List.rel_of_pairwise_cons increasing List.mem_cons_self
            · refine (ih (by rintro _ ⟨⟩; exact passes)).mpr
                ⟨following, rowsEq.2, by simp, allPass, ?_⟩
              exact (List.pairwise_append.mp increasing).2.1

/-- Exactly the rows of a valid profile are accepted. -/
theorem fromBytes_eq_ok_iff {reader : List UInt8 → List (Except E CsvRow)} {bytes : List UInt8}
    {config : LoadProfileConfig} : fromBytes reader bytes = .ok config ↔
      reader bytes = config.steps.map (fun step => .ok step.row) ∧ config.Valid := by
  constructor
  · intro accepted
    cases read : readRows 0 none [] (reader bytes) with
    | error error =>
        rw [fromBytes, read] at accepted
        cases accepted
    | ok steps =>
        rw [fromBytes, read] at accepted
        change (if steps.isEmpty then Except.error ConfigError.emptyLoadProfile
          else .ok ⟨steps⟩) = Except.ok config at accepted
        split_ifs at accepted with empty
        cases accepted
        obtain ⟨following, rowsEq, same, passes, increasing⟩ :=
          (readRows_eq_ok_iff (by simp)).mp read
        rw [List.nil_append] at same
        subst same
        constructor
        · exact rowsEq
        · constructor
          · simpa using empty
          · exact fun step member => (passes step member).1
          · exact fun step member => (passes step member).2
          · exact increasing
  · rintro ⟨rowsEq, valid⟩
    have read : readRows 0 none [] (reader bytes) = .ok config.steps :=
      (readRows_eq_ok_iff (by simp)).mpr ⟨config.steps, rowsEq, rfl,
        fun step member => ⟨valid.finite step member, valid.nonNegative step member⟩,
        valid.increasing⟩
    rw [fromBytes, read]
    exact if_neg (by simpa using valid.nonempty)

end LoadProfileConfig

end CreoBench
