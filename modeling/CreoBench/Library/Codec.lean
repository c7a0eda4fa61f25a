import Mathlib.Data.List.Basic

/-!
# Codecs of byte streams

A codec bundles a writer, which appends bytes and may stop with a failure after
some of them, and a reader, which takes a value from the front of its input and
may stop with a failure or panic.  A panic can only be caused by a marked field
whose content is fatal; a scan lists the marked fields that a reader reaches,
without building a value.  The laws are fields of the structure, so every codec
composed from the combinators below comes with its round trip, with the prefix it
consumes and with the exact cause of its panics.
-/

/-- What a writer appended to its buffer, and the failure it stopped with. -/
structure Written (Failure : Type) where
  bytes : List UInt8
  failure : Option Failure
  deriving DecidableEq

namespace Written

variable {Failure : Type}

def ok (bytes : List UInt8) : Written Failure := ⟨bytes, none⟩

/-- Write `first` and, if it did not fail, `second`. -/
def append (first second : Written Failure) : Written Failure :=
  match first.failure with
  | none => ⟨first.bytes ++ second.bytes, second.failure⟩
  | some _ => first

def mapFailure (onFailure : Failure → Failure) (written : Written Failure) :
    Written Failure :=
  ⟨written.bytes, written.failure.map onFailure⟩

theorem append_succeeds {first second : Written Failure}
    (succeeds : (first.append second).failure = none) :
    first.failure = none ∧ second.failure = none ∧
      (first.append second).bytes = first.bytes ++ second.bytes := by
  unfold append at succeeds ⊢
  cases failureEq : first.failure with
  | none =>
      rw [failureEq] at succeeds
      exact ⟨rfl, succeeds, rfl⟩
  | some failure =>
      rw [failureEq] at succeeds
      simp [failureEq] at succeeds

theorem mapFailure_succeeds {written : Written Failure} {onFailure : Failure → Failure}
    (succeeds : (written.mapFailure onFailure).failure = none) : written.failure = none :=
  Option.map_eq_none_iff.mp succeeds

theorem append_failure_eq_none_iff {first second : Written Failure} :
    (first.append second).failure = none ↔ first.failure = none ∧ second.failure = none := by
  constructor
  · intro succeeds
    exact ⟨(append_succeeds succeeds).1, (append_succeeds succeeds).2.1⟩
  · rintro ⟨firstOk, secondOk⟩
    simp [append, firstOk, secondOk]

end Written

/-- The outcome of reading from the front of an input. -/
inductive Reading (Failure Value : Type) where
  | done (value : Value) (rest : List UInt8)
  | failed (failure : Failure)
  | panicked
  deriving DecidableEq

namespace Reading

variable {Failure Value Value' : Type}

/-- Read on after a value. -/
def andThen (reading : Reading Failure Value)
    (next : Value → List UInt8 → Reading Failure Value') : Reading Failure Value' :=
  match reading with
  | .done value rest => next value rest
  | .failed failure => .failed failure
  | .panicked => .panicked

def map (convert : Value → Value') (onFailure : Failure → Failure) :
    Reading Failure Value → Reading Failure Value'
  | .done value rest => .done (convert value) rest
  | .failed failure => .failed (onFailure failure)
  | .panicked => .panicked

theorem andThen_eq_done {reading : Reading Failure Value}
    {next : Value → List UInt8 → Reading Failure Value'} {value' : Value'}
    {rest' : List UInt8} (continued : reading.andThen next = .done value' rest') :
    ∃ value rest, reading = .done value rest ∧ next value rest = .done value' rest' := by
  cases reading with
  | done value rest => exact ⟨value, rest, rfl, continued⟩
  | failed failure => cases continued
  | panicked => cases continued

theorem map_eq_done {reading : Reading Failure Value} {convert : Value → Value'}
    {onFailure : Failure → Failure} {value' : Value'} {rest : List UInt8}
    (mapped : reading.map convert onFailure = .done value' rest) :
    ∃ value, reading = .done value rest ∧ convert value = value' := by
  cases reading with
  | done value rest' =>
      cases mapped
      exact ⟨value, rfl, rfl⟩
  | failed failure => cases mapped
  | panicked => cases mapped

end Reading

/-- The marked fields in an input up to its first malformed field, and the input
after the last field if none is malformed. -/
structure Scan (Mark : Type) where
  marks : List Mark
  rest : Option (List UInt8)
  deriving DecidableEq

namespace Scan

variable {Mark Failure Value Value' : Type}

def malformed : Scan Mark := ⟨[], none⟩

def andThen (scan : Scan Mark) (next : List UInt8 → Scan Mark) : Scan Mark :=
  match scan.rest with
  | none => scan
  | some rest => ⟨scan.marks ++ (next rest).marks, (next rest).rest⟩

/-- A scan explains the outcome of reading the same input. -/
def Explains (Fatal : Mark → Prop) (scan : Scan Mark) : Reading Failure Value → Prop
  | .done _ rest => scan.rest = some rest ∧ ∀ mark ∈ scan.marks, ¬ Fatal mark
  | .failed _ => scan.rest = none ∧ ∀ mark ∈ scan.marks, ¬ Fatal mark
  | .panicked => ∃ mark ∈ scan.marks, Fatal mark

variable {Fatal : Mark → Prop} {scan : Scan Mark} {reading : Reading Failure Value}

/-- Marks in front change nothing unless one of them is fatal. -/
theorem Explains.append {marks : List Mark} (harmless : ∀ mark ∈ marks, ¬ Fatal mark)
    (explains : scan.Explains Fatal reading) :
    Explains Fatal ⟨marks ++ scan.marks, scan.rest⟩ reading := by
  have harmlessAll : (∀ mark ∈ scan.marks, ¬ Fatal mark) →
      ∀ mark ∈ marks ++ scan.marks, ¬ Fatal mark := by
    intro harmlessAfter mark member
    rcases List.mem_append.mp member with before | after
    · exact harmless mark before
    · exact harmlessAfter mark after
  cases reading with
  | done value rest => exact ⟨explains.1, harmlessAll explains.2⟩
  | failed failure => exact ⟨explains.1, harmlessAll explains.2⟩
  | panicked =>
      obtain ⟨mark, member, fatal⟩ := explains
      exact ⟨mark, List.mem_append_right _ member, fatal⟩

/-- What is read next is explained by what is scanned next. -/
theorem Explains.andThen {next : List UInt8 → Scan Mark}
    {continued : Value → List UInt8 → Reading Failure Value'}
    (explains : scan.Explains Fatal reading)
    (nextExplains : ∀ value rest, reading = .done value rest →
      (next rest).Explains Fatal (continued value rest)) :
    (scan.andThen next).Explains Fatal (reading.andThen continued) := by
  cases reading with
  | done value rest =>
      obtain ⟨restEq, harmless⟩ := explains
      rw [Scan.andThen, restEq]
      exact (nextExplains value rest rfl).append harmless
  | failed failure =>
      obtain ⟨noRest, harmless⟩ := explains
      rw [Scan.andThen, noRest]
      exact ⟨noRest, harmless⟩
  | panicked =>
      obtain ⟨mark, member, fatal⟩ := explains
      refine ⟨mark, ?_, fatal⟩
      unfold Scan.andThen
      cases scan.rest with
      | none => exact member
      | some rest => exact List.mem_append_left _ member

theorem Explains.map (explains : scan.Explains Fatal reading) (convert : Value → Value')
    (onFailure : Failure → Failure) :
    scan.Explains Fatal (reading.map convert onFailure) := by
  cases reading <;> exact explains

/-- Reading panics exactly if some marked field that is reached is fatal. -/
theorem Explains.panicked_iff (explains : scan.Explains Fatal reading) :
    reading = .panicked ↔ ∃ mark ∈ scan.marks, Fatal mark := by
  cases reading with
  | done value rest =>
      exact ⟨nofun, fun ⟨mark, member, fatal⟩ => absurd fatal (explains.2 mark member)⟩
  | failed failure =>
      exact ⟨nofun, fun ⟨mark, member, fatal⟩ => absurd fatal (explains.2 mark member)⟩
  | panicked => exact ⟨fun _ => explains, fun _ => rfl⟩

end Scan

/-- A writer and a reader of the same format. -/
structure Codec (Failure : Type) {Mark : Type} (Fatal : Mark → Prop) (Value : Type) where
  write : Value → Written Failure
  read : List UInt8 → Reading Failure Value
  scan : List UInt8 → Scan Mark
  /-- A value as the reading side gets it. -/
  seen : Value → Value
  /-- The values whose marked fields are not fatal once they are written. -/
  Survives : Value → Prop
  /-- No value takes fewer bytes. -/
  minSize : Nat
  roundTrip : ∀ value, (write value).failure = none → Survives value →
    ∀ rest, read ((write value).bytes ++ rest) = .done (seen value) rest
  readsPrefix : ∀ input value rest, read input = .done value rest →
    ∃ used, input = used ++ rest ∧ minSize ≤ used.length ∧
      ∀ other, read (used ++ other) = .done value other
  explains : ∀ input, (scan input).Explains Fatal (read input)

namespace Codec

variable {Failure Mark : Type} {Fatal : Mark → Prop} {Value Value' : Type}

/-- A written value that survives takes at least the minimal number of bytes. -/
theorem minSize_le (codec : Codec Failure Fatal Value) {value : Value}
    (succeeds : (codec.write value).failure = none) (survives : codec.Survives value) :
    codec.minSize ≤ (codec.write value).bytes.length := by
  obtain ⟨used, inputEq, long, -⟩ :=
    codec.readsPrefix _ _ _ (codec.roundTrip value succeeds survives [])
  rw [List.append_nil, List.append_nil] at inputEq
  rwa [inputEq]

/-- What is written as `value` is read as `value'`. -/
structure Delivers (codec : Codec Failure Fatal Value) (value value' : Value) : Prop where
  survives : codec.Survives value
  seen : codec.seen value = value'

/-- Reading never panics. -/
def Calm (codec : Codec Failure Fatal Value) : Prop :=
  ∀ input, codec.read input ≠ .panicked

/-- No bytes at all. -/
def unit : Codec Failure Fatal Unit where
  write _ := .ok []
  read input := .done () input
  scan input := ⟨[], some input⟩
  seen _ := ()
  Survives _ := True
  minSize := 0
  roundTrip _ _ _ _ := rfl
  readsPrefix input _ rest read := by
    cases read
    exact ⟨[], rfl, Nat.zero_le _, fun _ => rfl⟩
  explains _ := ⟨rfl, nofun⟩

/-- One value after the other. -/
def pair (first : Codec Failure Fatal Value) (second : Codec Failure Fatal Value') :
    Codec Failure Fatal (Value × Value') where
  write values := (first.write values.1).append (second.write values.2)
  read input := (first.read input).andThen fun value rest =>
    (second.read rest).map (fun value' => (value, value')) id
  scan input := (first.scan input).andThen second.scan
  seen values := (first.seen values.1, second.seen values.2)
  Survives values := first.Survives values.1 ∧ second.Survives values.2
  minSize := first.minSize + second.minSize
  roundTrip values succeeds survives rest := by
    obtain ⟨firstOk, secondOk, bytesEq⟩ := Written.append_succeeds succeeds
    rw [bytesEq, List.append_assoc, first.roundTrip _ firstOk survives.1, Reading.andThen,
      second.roundTrip _ secondOk survives.2]
    rfl
  readsPrefix input values rest read := by
    obtain ⟨value, between, firstRead, read⟩ := Reading.andThen_eq_done read
    obtain ⟨value', secondRead, rfl⟩ := Reading.map_eq_done read
    obtain ⟨used, rfl, long, firstElsewhere⟩ := first.readsPrefix _ _ _ firstRead
    obtain ⟨used', rfl, long', secondElsewhere⟩ := second.readsPrefix _ _ _ secondRead
    refine ⟨used ++ used', (List.append_assoc ..).symm, ?_, fun other => ?_⟩
    · rw [List.length_append]
      exact Nat.add_le_add long long'
    · rw [List.append_assoc, firstElsewhere, Reading.andThen, secondElsewhere]
      rfl
  explains input := (first.explains input).andThen fun _ rest _ =>
    (second.explains rest).map _ _

theorem Delivers.pair {first : Codec Failure Fatal Value}
    {second : Codec Failure Fatal Value'} {left left' : Value} {right right' : Value'}
    (leftDelivers : first.Delivers left left') (rightDelivers : second.Delivers right right') :
    (first.pair second).Delivers (left, right) (left', right') :=
  ⟨⟨leftDelivers.survives, rightDelivers.survives⟩,
    Prod.ext leftDelivers.seen rightDelivers.seen⟩

/-- The same bytes for values of another type, with failures that say more. -/
def adapt (codec : Codec Failure Fatal Value) (build : Value → Value')
    (parts : Value' → Value) (onWrite onRead : Failure → Failure) :
    Codec Failure Fatal Value' where
  write value := (codec.write (parts value)).mapFailure onWrite
  read input := (codec.read input).map build onRead
  scan := codec.scan
  seen value := build (codec.seen (parts value))
  Survives value := codec.Survives (parts value)
  minSize := codec.minSize
  roundTrip value succeeds survives rest := by
    rw [Written.mapFailure, codec.roundTrip _ (Written.mapFailure_succeeds succeeds) survives]
    rfl
  readsPrefix input value rest mapped := by
    obtain ⟨inner, read, rfl⟩ := Reading.map_eq_done mapped
    obtain ⟨used, rfl, long, elsewhere⟩ := codec.readsPrefix _ _ _ read
    refine ⟨used, rfl, long, fun other => ?_⟩
    rw [elsewhere]
    rfl
  explains input := (codec.explains input).map _ _

theorem Calm.adapt {codec : Codec Failure Fatal Value} (calm : codec.Calm)
    (build : Value → Value') (parts : Value' → Value) (onWrite onRead : Failure → Failure) :
    (codec.adapt build parts onWrite onRead).Calm := by
  intro input panicked
  have noPanic := calm input
  change (codec.read input).map build onRead = .panicked at panicked
  cases read : codec.read input with
  | done value rest => simp [read, Reading.map] at panicked
  | failed failure => simp [read, Reading.map] at panicked
  | panicked => exact noPanic read

def imap (codec : Codec Failure Fatal Value) (build : Value → Value')
    (parts : Value' → Value) : Codec Failure Fatal Value' :=
  codec.adapt build parts id id

def mapFailures (codec : Codec Failure Fatal Value) (onWrite onRead : Failure → Failure) :
    Codec Failure Fatal Value :=
  codec.adapt id id onWrite onRead

theorem Delivers.imap {codec : Codec Failure Fatal Value} {build : Value → Value'}
    {parts : Value' → Value} {inner inner' : Value} {value value' : Value'}
    (partsEq : parts value = inner) (delivers : codec.Delivers inner inner')
    (built : build inner' = value') : (codec.imap build parts).Delivers value value' := by
  subst partsEq built
  exact ⟨delivers.survives, congrArg build delivers.seen⟩

theorem Delivers.mapFailures {codec : Codec Failure Fatal Value} {value value' : Value}
    {onWrite onRead : Failure → Failure} (delivers : codec.Delivers value value') :
    (codec.mapFailures onWrite onRead).Delivers value value' :=
  ⟨delivers.survives, delivers.seen⟩

/-- Values of which only some can be written this way. -/
def restrict (codec : Codec Failure Fatal Value) (build : Value → Value')
    (parts : Value' → Option Value) (otherwise : Failure) : Codec Failure Fatal Value' where
  write value :=
    match parts value with
    | some inner => codec.write inner
    | none => ⟨[], some otherwise⟩
  read input := (codec.read input).map build id
  scan := codec.scan
  seen value :=
    match parts value with
    | some inner => build (codec.seen inner)
    | none => value
  Survives value := ∀ inner, parts value = some inner → codec.Survives inner
  minSize := codec.minSize
  roundTrip value succeeds survives rest := by
    cases partsEq : parts value with
    | none => simp [partsEq] at succeeds
    | some inner =>
        simp only [partsEq] at succeeds ⊢
        rw [codec.roundTrip _ succeeds (survives inner partsEq)]
        rfl
  readsPrefix input value rest mapped := by
    obtain ⟨inner, read, rfl⟩ := Reading.map_eq_done mapped
    obtain ⟨used, rfl, long, elsewhere⟩ := codec.readsPrefix _ _ _ read
    refine ⟨used, rfl, long, fun other => ?_⟩
    rw [elsewhere]
    rfl
  explains input := (codec.explains input).map _ _

theorem Delivers.restrict {codec : Codec Failure Fatal Value} {build : Value → Value'}
    {parts : Value' → Option Value} {otherwise : Failure} {inner inner' : Value}
    {value value' : Value'} (partsEq : parts value = some inner)
    (delivers : codec.Delivers inner inner') (built : build inner' = value') :
    (codec.restrict build parts otherwise).Delivers value value' where
  survives other otherEq := by
    obtain rfl := Option.some.inj (partsEq.symm.trans otherEq)
    exact delivers.survives
  seen := by
    have seenEq : (codec.restrict build parts otherwise).seen value =
        match parts value with
        | some inner => build (codec.seen inner)
        | none => value := rfl
    rw [seenEq, partsEq, ← built, ← delivers.seen]

/-- No value is written or read. -/
def reject (onWrite onRead : Failure) : Codec Failure Fatal Value where
  write _ := ⟨[], some onWrite⟩
  read _ := .failed onRead
  scan _ := .malformed
  seen value := value
  Survives _ := True
  minSize := 0
  roundTrip _ succeeds := nomatch succeeds
  readsPrefix _ _ _ read := nomatch read
  explains _ := ⟨rfl, nofun⟩

/-- A tag without marks in front says how a value is written. -/
def choose {Tag : Type} (tag : Codec Failure Fatal Tag)
    (calm : tag.Calm) (tagOf : Value → Tag)
    (exact : ∀ value, tag.Survives (tagOf value) ∧ tag.seen (tagOf value) = tagOf value)
    (body : Tag → Codec Failure Fatal Value) : Codec Failure Fatal Value where
  write value := (tag.write (tagOf value)).append ((body (tagOf value)).write value)
  read input := (tag.read input).andThen fun tag rest => (body tag).read rest
  scan input :=
    match tag.read input with
    | .done tag rest => (body tag).scan rest
    | _ => .malformed
  seen value := (body (tagOf value)).seen value
  Survives value := (body (tagOf value)).Survives value
  minSize := tag.minSize
  roundTrip value succeeds survives rest := by
    obtain ⟨tagOk, bodyOk, bytesEq⟩ := Written.append_succeeds succeeds
    rw [bytesEq, List.append_assoc, tag.roundTrip _ tagOk (exact value).1, (exact value).2,
      Reading.andThen, (body _).roundTrip _ bodyOk survives]
  readsPrefix input value rest read := by
    obtain ⟨chosen, between, tagRead, bodyRead⟩ := Reading.andThen_eq_done read
    obtain ⟨used, rfl, long, tagElsewhere⟩ := tag.readsPrefix _ _ _ tagRead
    obtain ⟨used', rfl, -, bodyElsewhere⟩ := (body chosen).readsPrefix _ _ _ bodyRead
    refine ⟨used ++ used', (List.append_assoc ..).symm, ?_, fun other => ?_⟩
    · rw [List.length_append]
      exact Nat.le_add_right_of_le long
    · rw [List.append_assoc, tagElsewhere, Reading.andThen, bodyElsewhere]
  explains input := by
    cases tagRead : tag.read input with
    | done chosen rest => exact (body chosen).explains rest
    | failed failure => exact ⟨rfl, nofun⟩
    | panicked => exact absurd tagRead (calm input)

/-- The conversion of a raw value panics where it has no result. -/
def convert {Raw : Type} (conversion : Raw → Option Value)
    (raw : Codec Failure (fun mark => conversion mark = none) Raw) (calm : raw.Calm)
    (exact : ∀ mark, raw.Survives mark ∧ raw.seen mark = mark) (toRaw : Value → Raw) :
    Codec Failure (fun mark => conversion mark = none) Value where
  write value := raw.write (toRaw value)
  read input := (raw.read input).andThen fun mark rest =>
    match conversion mark with
    | some value => .done value rest
    | none => .panicked
  scan input :=
    match raw.read input with
    | .done mark rest => ⟨[mark], some rest⟩
    | _ => .malformed
  seen value := (conversion (toRaw value)).getD value
  Survives value := conversion (toRaw value) ≠ none
  minSize := raw.minSize
  roundTrip value succeeds survives rest := by
    obtain ⟨converted, convertedEq⟩ := Option.ne_none_iff_exists'.mp survives
    rw [raw.roundTrip _ succeeds (exact _).1, Reading.andThen, (exact _).2, convertedEq]
    rfl
  readsPrefix input value rest read := by
    obtain ⟨mark, between, rawRead, converted⟩ := Reading.andThen_eq_done read
    obtain ⟨used, rfl, long, elsewhere⟩ := raw.readsPrefix _ _ _ rawRead
    cases conversionEq : conversion mark with
    | none => simp [conversionEq] at converted
    | some result =>
        simp only [conversionEq] at converted
        cases converted
        refine ⟨used, rfl, long, fun other => ?_⟩
        rw [elsewhere, Reading.andThen, conversionEq]
  explains input := by
    cases rawRead : raw.read input with
    | done mark rest =>
        rw [Reading.andThen]
        cases conversionEq : conversion mark with
        | some result => exact ⟨rfl, by simp [conversionEq]⟩
        | none => exact ⟨mark, List.mem_singleton.mpr rfl, conversionEq⟩
    | failed failure => exact ⟨rfl, nofun⟩
    | panicked => exact absurd rawRead (calm input)

theorem Delivers.convert {Raw : Type} {conversion : Raw → Option Value}
    {raw : Codec Failure (fun mark => conversion mark = none) Raw} {calm : raw.Calm}
    {exact : ∀ mark, raw.Survives mark ∧ raw.seen mark = mark} {toRaw : Value → Raw}
    {value value' : Value} (converted : conversion (toRaw value) = some value') :
    (convert conversion raw calm exact toRaw).Delivers value value' where
  survives fatal := by
    rw [converted] at fatal
    cases fatal
  seen := congrArg (·.getD value) converted

section Many

variable (codec : Codec Failure Fatal Value)

def writeMany : List Value → Written Failure
  | [] => .ok []
  | value :: values => (codec.write value).append (writeMany values)

def readMany : Nat → List UInt8 → Reading Failure (List Value)
  | 0, input => .done [] input
  | count + 1, input => (codec.read input).andThen fun value rest =>
      (readMany count rest).map (value :: ·) id

def scanMany : Nat → List UInt8 → Scan Mark
  | 0, input => ⟨[], some input⟩
  | count + 1, input => (codec.scan input).andThen (scanMany count)

theorem readMany_writeMany {values : List Value}
    (succeeds : (codec.writeMany values).failure = none)
    (survive : ∀ value ∈ values, codec.Survives value) (rest : List UInt8) :
    codec.readMany values.length ((codec.writeMany values).bytes ++ rest) =
      .done (values.map codec.seen) rest := by
  induction values with
  | nil => rfl
  | cons value values ih =>
      obtain ⟨firstOk, restOk, bytesEq⟩ := Written.append_succeeds succeeds
      have later := ih restOk fun other member => survive other (List.mem_cons_of_mem _ member)
      rw [writeMany, bytesEq, List.append_assoc, List.length_cons, readMany,
        codec.roundTrip _ firstOk (survive value List.mem_cons_self), Reading.andThen, later]
      rfl

theorem length_writeMany {values : List Value}
    (succeeds : (codec.writeMany values).failure = none)
    (survive : ∀ value ∈ values, codec.Survives value) :
    values.length * codec.minSize ≤ (codec.writeMany values).bytes.length := by
  induction values with
  | nil => simp
  | cons value values ih =>
      obtain ⟨firstOk, restOk, bytesEq⟩ := Written.append_succeeds succeeds
      have later := ih restOk fun other member => survive other (List.mem_cons_of_mem _ member)
      have long := codec.minSize_le firstOk (survive value List.mem_cons_self)
      rw [writeMany, bytesEq, List.length_append, List.length_cons, Nat.succ_mul, Nat.add_comm]
      exact Nat.add_le_add long later

theorem readMany_readsPrefix {count : Nat} {input rest : List UInt8} {values : List Value}
    (read : codec.readMany count input = .done values rest) :
    ∃ used, input = used ++ rest ∧ count * codec.minSize ≤ used.length ∧
      ∀ other, codec.readMany count (used ++ other) = .done values other := by
  induction count generalizing input values with
  | zero =>
      cases read
      exact ⟨[], rfl, by simp, fun _ => rfl⟩
  | succ count ih =>
      obtain ⟨value, between, firstRead, read⟩ := Reading.andThen_eq_done read
      obtain ⟨later, laterRead, rfl⟩ := Reading.map_eq_done read
      obtain ⟨used, rfl, long, firstElsewhere⟩ := codec.readsPrefix _ _ _ firstRead
      obtain ⟨used', rfl, long', laterElsewhere⟩ := ih laterRead
      refine ⟨used ++ used', (List.append_assoc ..).symm, ?_, fun other => ?_⟩
      · rw [List.length_append, Nat.succ_mul, Nat.add_comm]
        exact Nat.add_le_add long long'
      · rw [readMany, List.append_assoc, firstElsewhere, Reading.andThen, laterElsewhere]
        rfl

theorem scanMany_explains (count : Nat) (input : List UInt8) :
    (codec.scanMany count input).Explains Fatal (codec.readMany count input) := by
  induction count generalizing input with
  | zero => exact ⟨rfl, nofun⟩
  | succ count ih =>
      exact (codec.explains input).andThen fun _ rest _ => (ih rest).map _ _

end Many

/-! ## Which values are written -/

/-- Writing does not fail. -/
def Writes (codec : Codec Failure Fatal Value) (value : Value) : Prop :=
  (codec.write value).failure = none

theorem writes_unit : (unit : Codec Failure Fatal Unit).Writes () := rfl

theorem writes_pair {first : Codec Failure Fatal Value} {second : Codec Failure Fatal Value'}
    {values : Value × Value'} :
    (first.pair second).Writes values ↔ first.Writes values.1 ∧ second.Writes values.2 :=
  Written.append_failure_eq_none_iff

theorem writes_adapt {codec : Codec Failure Fatal Value} {build : Value → Value'}
    {parts : Value' → Value} {onWrite onRead : Failure → Failure} {value : Value'} :
    (codec.adapt build parts onWrite onRead).Writes value ↔ codec.Writes (parts value) :=
  Option.map_eq_none_iff

theorem writes_imap {codec : Codec Failure Fatal Value} {build : Value → Value'}
    {parts : Value' → Value} {value : Value'} :
    (codec.imap build parts).Writes value ↔ codec.Writes (parts value) :=
  writes_adapt

theorem writes_mapFailures {codec : Codec Failure Fatal Value}
    {onWrite onRead : Failure → Failure} {value : Value} :
    (codec.mapFailures onWrite onRead).Writes value ↔ codec.Writes value :=
  writes_adapt

theorem writes_restrict {codec : Codec Failure Fatal Value} {build : Value → Value'}
    {parts : Value' → Option Value} {otherwise : Failure} {value : Value'} :
    (codec.restrict build parts otherwise).Writes value ↔
      ∃ inner, parts value = some inner ∧ codec.Writes inner := by
  unfold Writes
  cases partsEq : parts value <;> simp [restrict, partsEq]

theorem writes_choose {Tag : Type} {tag : Codec Failure Fatal Tag} {calm : tag.Calm}
    {tagOf : Value → Tag}
    {exact : ∀ value, tag.Survives (tagOf value) ∧ tag.seen (tagOf value) = tagOf value}
    {body : Tag → Codec Failure Fatal Value} {value : Value} :
    (choose tag calm tagOf exact body).Writes value ↔
      tag.Writes (tagOf value) ∧ (body (tagOf value)).Writes value :=
  Written.append_failure_eq_none_iff

theorem writes_many {codec : Codec Failure Fatal Value} {values : List Value} :
    (codec.writeMany values).failure = none ↔ ∀ value ∈ values, codec.Writes value := by
  induction values with
  | nil => simp [writeMany, Written.ok]
  | cons value values ih =>
      rw [writeMany, Written.append_failure_eq_none_iff, ih, List.forall_mem_cons]
      rfl

end Codec
