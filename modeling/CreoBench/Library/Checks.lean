import Mathlib.Data.List.Forall2

/-!
# Fallible checks and what they decide

A check returns a value or an error.  It decides two relations that say so without
it: which values its input stands for, and which errors its faults are.  Checks that
follow each other stop at the first fault.
-/

/-- The check succeeds with exactly the values that are given and fails with exactly the
errors that are faults. -/
structure Decides {Error Value : Type*} (check : Except Error Value) (given : Value → Prop)
    (fault : Error → Prop) : Prop where
  ok : ∀ value, check = .ok value ↔ given value
  error : ∀ err, check = .error err ↔ fault err

/-- Of the items in their order, the first one that does not comply has this fault. -/
def FirstFault {Item Error : Type*} (complies : Item → Prop) (fault : Item → Error → Prop)
    (items : List Item) (err : Error) : Prop :=
  ∃ before item after, items = before ++ item :: after ∧
    (∀ earlier ∈ before, complies earlier) ∧ fault item err

namespace FirstFault

variable {Item Error : Type*} {complies : Item → Prop} {fault : Item → Error → Prop}
variable {err : Error}

@[simp]
theorem nil_iff : FirstFault complies fault [] err ↔ False := by
  simp [FirstFault]

theorem cons_iff {item : Item} {items : List Item} :
    FirstFault complies fault (item :: items) err ↔
      fault item err ∨ complies item ∧ FirstFault complies fault items err := by
  constructor
  · rintro ⟨before, faulty, after, split, earlier, found⟩
    cases before with
    | nil =>
        cases split
        exact .inl found
    | cons first before =>
        cases split
        obtain ⟨complying, rest⟩ := List.forall_mem_cons.mp earlier
        exact .inr ⟨complying, before, faulty, after, rfl, rest, found⟩
  · rintro (found | ⟨complying, before, faulty, after, rfl, earlier, found⟩)
    · exact ⟨[], item, items, rfl, by simp, found⟩
    · exact ⟨item :: before, faulty, after, rfl,
        List.forall_mem_cons.mpr ⟨complying, earlier⟩, found⟩

/-- The first item is checked and its value is passed on to the check of the later ones. -/
theorem cons_iff_bind {Value : Type*} {given : Value → Prop} {item : Item} {items : List Item}
    {later : Prop} (same : complies item ↔ ∃ value, given value)
    (rest : FirstFault complies fault items err ↔ later) :
    FirstFault complies fault (item :: items) err ↔
      fault item err ∨ ∃ value, given value ∧ later := by
  rw [cons_iff, exists_and_right, same, rest]

end FirstFault

namespace Decides

universe u

variable {Error Error' : Type*} {Value Value' : Type u} {check : Except Error Value}
variable {given given' : Value → Prop} {fault fault' : Error → Prop}

theorem not_fault (decides : Decides check given fault) {value : Value} (isGiven : given value)
    (err : Error) : ¬fault err := by
  intro isFault
  rw [← decides.error, (decides.ok value).mpr isGiven] at isFault
  cases isFault

theorem congr (decides : Decides check given fault) (sameGiven : ∀ value, given value ↔ given' value)
    (sameFault : ∀ err, fault err ↔ fault' err) : Decides check given' fault' :=
  ⟨fun value => (decides.ok value).trans (sameGiven value),
    fun err => (decides.error err).trans (sameFault err)⟩

/-- A check that returns a value. -/
theorem of_ok {value : Value} (isGiven : ∀ other, given other ↔ other = value)
    (noFault : ∀ err, ¬fault err) : Decides (.ok value : Except Error Value) given fault := by
  constructor
  · intro other
    rw [isGiven, Except.ok.injEq, eq_comm]
  · exact fun err => iff_of_false (by rintro ⟨⟩) (noFault err)

/-- A check that fails. -/
theorem of_error {failure : Error} (notGiven : ∀ value, ¬given value)
    (isFault : ∀ err, fault err ↔ err = failure) :
    Decides (.error failure : Except Error Value) given fault := by
  constructor
  · exact fun value => iff_of_false (by rintro ⟨⟩) (notGiven value)
  · intro err
    rw [isFault, Except.error.injEq, eq_comm]

theorem pure (value : Value) :
    Decides (Pure.pure value : Except Error Value) (fun other => other = value)
      (fun _ => False) :=
  of_ok (fun _ => Iff.rfl) fun _ => id

/-- A second check that depends on what the first one returns. -/
theorem bind (decides : Decides check given fault) {next : Value → Except Error Value'}
    {nextGiven : Value → Value' → Prop} {nextFault : Value → Error → Prop}
    (nextDecides : ∀ value, given value →
      Decides (next value) (nextGiven value) (nextFault value)) :
    Decides (check >>= next) (fun result => ∃ value, given value ∧ nextGiven value result)
      (fun err => fault err ∨ ∃ value, given value ∧ nextFault value err) := by
  cases result : check with
  | ok value =>
      have isGiven := (decides.ok value).mp result
      have only : ∀ other, given other → other = value := by
        intro other otherGiven
        rw [← decides.ok, result] at otherGiven
        exact (Except.ok.inj otherGiven).symm
      have following := nextDecides value isGiven
      refine ⟨fun final => (following.ok final).trans ?_,
        fun err => (following.error err).trans ?_⟩
      · constructor
        · exact fun finalGiven => ⟨value, isGiven, finalGiven⟩
        · rintro ⟨other, otherGiven, finalGiven⟩
          exact only other otherGiven ▸ finalGiven
      · constructor
        · exact fun isFault => .inr ⟨value, isGiven, isFault⟩
        · rintro (isFault | ⟨other, otherGiven, isFault⟩)
          · exact absurd isFault (decides.not_fault isGiven err)
          · exact only other otherGiven ▸ isFault
  | error failure =>
      have notGiven : ∀ value, ¬given value := fun value isGiven =>
        decides.not_fault isGiven failure ((decides.error failure).mp result)
      have sameFault : ∀ err, failure = err ↔ fault err := by
        intro err
        rw [← decides.error, result, Except.error.injEq]
      refine ⟨fun final => ?_, fun err => ?_⟩
      · refine iff_of_false (by rintro ⟨⟩) ?_
        rintro ⟨value, isGiven, -⟩
        exact notGiven value isGiven
      · change (Except.error failure : Except Error Value') = .error err ↔ _
        rw [Except.error.injEq, sameFault]
        constructor
        · exact .inl
        · rintro (isFault | ⟨value, isGiven, -⟩)
          · exact isFault
          · exact absurd isGiven (notGiven value)

theorem map (decides : Decides check given fault) (convert : Value → Value') :
    Decides (convert <$> check) (fun result => ∃ value, given value ∧ convert value = result)
      fault := by
  constructor
  · intro result
    simp only [← decides.ok]
    cases check <;> simp [Functor.map, Except.map]
  · intro err
    rw [← decides.error]
    cases check <;> simp [Functor.map, Except.map]

theorem mapError (decides : Decides check given fault) (convert : Error → Error') :
    Decides (check.mapError convert) given
      (fun err => ∃ source, fault source ∧ convert source = err) := by
  constructor
  · intro value
    rw [← decides.ok]
    cases check <;> simp [Except.mapError]
  · intro err
    simp only [← decides.error]
    cases check <;> simp [Except.mapError]

/-- A check of every item of a list, in order. -/
theorem mapM {Item : Type*} {checkItem : Item → Except Error Value}
    {givenItem : Item → Value → Prop} {faultItem : Item → Error → Prop}
    (decides : ∀ item, Decides (checkItem item) (givenItem item) (faultItem item))
    (items : List Item) :
    Decides (items.mapM checkItem) (fun values => List.Forall₂ givenItem items values)
      (FirstFault (fun item => ∃ value, givenItem item value) faultItem items) := by
  induction items with
  | nil =>
      refine (Decides.pure []).congr (fun values => ?_) (fun err => ?_)
      · exact List.forall₂_nil_left_iff.symm
      · exact FirstFault.nil_iff.symm
  | cons item items ih =>
      have both := (decides item).bind fun value _ => ih.bind fun values _ =>
        Decides.pure (value :: values)
      rw [List.mapM_cons]
      refine both.congr (fun values => ?_) (fun err => ?_)
      · rw [List.forall₂_cons_left_iff]
        constructor
        · rintro ⟨value, isGiven, rest, restGiven, rfl⟩
          exact ⟨value, rest, isGiven, restGiven, rfl⟩
        · rintro ⟨value, rest, isGiven, restGiven, rfl⟩
          exact ⟨value, isGiven, rest, restGiven, rfl⟩
      · rw [FirstFault.cons_iff]
        constructor
        · rintro (isFault | ⟨value, isGiven, isFault | ⟨_, _, ⟨⟩⟩⟩)
          · exact .inl isFault
          · exact .inr ⟨⟨value, isGiven⟩, isFault⟩
        · rintro (isFault | ⟨⟨value, isGiven⟩, isFault⟩)
          · exact .inl isFault
          · exact .inr ⟨value, isGiven, .inl isFault⟩

end Decides
