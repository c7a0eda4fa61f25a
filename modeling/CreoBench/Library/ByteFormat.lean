import CreoBench.Library.Codec

/-!
# Layouts of values in bytes

A format says which bytes a value takes, and which values can be told apart from
what follows when so many bytes follow.  A writer of the format writes those
bytes, and a reader of it accepts exactly them: it returns a value if and only if
the bytes of that value, where it fits, are in front of its input.  Whether a
written value is read back is then a property of the format alone.
-/

structure ByteFormat (Value : Type) where
  encoding : Value → List UInt8
  /-- The value may stand where so many bytes follow it. -/
  Fits : Value → Nat → Prop

namespace Written

variable {Failure : Type}

@[simp]
theorem ok_append_ok (first second : List UInt8) :
    (ok first : Written Failure).append (ok second) = ok (first ++ second) := rfl

@[simp]
theorem mapFailure_ok (onFailure : Failure → Failure) (bytes : List UInt8) :
    (ok bytes).mapFailure onFailure = ok bytes := rfl

end Written

namespace Reading

variable {Failure Value Value' : Type}

theorem andThen_eq_done_iff {reading : Reading Failure Value}
    {next : Value → List UInt8 → Reading Failure Value'} {value' : Value'}
    {rest' : List UInt8} :
    reading.andThen next = .done value' rest' ↔
      ∃ value rest, reading = .done value rest ∧ next value rest = .done value' rest' := by
  constructor
  · exact andThen_eq_done
  · rintro ⟨value, rest, rfl, continued⟩
    exact continued

theorem map_eq_done_iff {reading : Reading Failure Value} {convert : Value → Value'}
    {onFailure : Failure → Failure} {value' : Value'} {rest : List UInt8} :
    reading.map convert onFailure = .done value' rest ↔
      ∃ value, reading = .done value rest ∧ convert value = value' := by
  constructor
  · exact map_eq_done
  · rintro ⟨value, rfl, rfl⟩
    rfl

end Reading

namespace ByteFormat

variable {Failure Value Value' : Type}

def Writes (format : ByteFormat Value) (write : Value → Written Failure) : Prop :=
  ∀ value after, format.Fits value after → write value = .ok (format.encoding value)

def Reads (format : ByteFormat Value) (read : List UInt8 → Reading Failure Value) : Prop :=
  ∀ input value rest, read input = .done value rest ↔
    input = format.encoding value ++ rest ∧ format.Fits value rest.length

/-- A value is read back exactly where it fits. -/
theorem readsBack_iff {format : ByteFormat Value} {write : Value → Written Failure}
    {read : List UInt8 → Reading Failure Value} (writes : format.Writes write)
    (reads : format.Reads read) (value : Value) (rest : List UInt8) :
    read ((write value).bytes ++ rest) = .done value rest ↔ format.Fits value rest.length := by
  constructor
  · intro read
    exact ((reads _ _ _).mp read).2
  · intro fits
    rw [writes value _ fits]
    exact (reads _ _ _).mpr ⟨rfl, fits⟩

/-- No bytes at all. -/
def unit : ByteFormat Unit where
  encoding _ := []
  Fits _ _ := True

theorem writes_unit : unit.Writes fun _ => (.ok [] : Written Failure) := fun _ _ _ => rfl

theorem reads_unit :
    unit.Reads fun input => (.done () input : Reading Failure Unit) := by
  intro input value rest
  simp [unit]

/-- One value after the other. -/
def pair (first : ByteFormat Value) (second : ByteFormat Value') :
    ByteFormat (Value × Value') where
  encoding values := first.encoding values.1 ++ second.encoding values.2
  Fits values after :=
    first.Fits values.1 ((second.encoding values.2).length + after) ∧
      second.Fits values.2 after

theorem Writes.pair {first : ByteFormat Value} {second : ByteFormat Value'}
    {write : Value → Written Failure} {write' : Value' → Written Failure}
    (writes : first.Writes write) (writes' : second.Writes write') :
    (first.pair second).Writes fun values => (write values.1).append (write' values.2) := by
  rintro values after ⟨fits, fits'⟩
  dsimp only
  rw [writes _ _ fits, writes' _ _ fits', Written.ok_append_ok]
  rfl

theorem Reads.pair {first : ByteFormat Value} {second : ByteFormat Value'}
    {read : List UInt8 → Reading Failure Value} {read' : List UInt8 → Reading Failure Value'}
    (reads : first.Reads read) (reads' : second.Reads read') :
    (first.pair second).Reads fun input =>
      (read input).andThen fun value rest =>
        (read' rest).map (fun value' => (value, value')) id := by
  rintro input ⟨value, value'⟩ rest
  simp only [Reading.andThen_eq_done_iff, Reading.map_eq_done_iff, reads input, reads' _]
  constructor
  · rintro ⟨_, _, ⟨rfl, fits⟩, _, ⟨rfl, fits'⟩, ⟨⟩⟩
    rw [List.length_append] at fits
    exact ⟨(List.append_assoc ..).symm, fits, fits'⟩
  · rintro ⟨rfl, fits, fits'⟩
    refine ⟨value, second.encoding value' ++ rest, ⟨List.append_assoc .., ?_⟩, value',
      ⟨rfl, fits'⟩, rfl⟩
    rw [List.length_append]
    exact fits

/-- A failure may be told in other words. -/
theorem Writes.mapFailure {format : ByteFormat Value} {write : Value → Written Failure}
    (writes : format.Writes write) (onFailure : Failure → Failure) :
    format.Writes fun value => (write value).mapFailure onFailure := by
  intro value after fits
  dsimp only
  rw [writes value after fits, Written.mapFailure_ok]

theorem Reads.mapFailure {format : ByteFormat Value}
    {read : List UInt8 → Reading Failure Value} (reads : format.Reads read)
    (onFailure : Failure → Failure) :
    format.Reads fun input => (read input).map id onFailure := by
  intro input value rest
  simp only [Reading.map_eq_done_iff, id, exists_eq_right, reads input]

/-! ## Several values -/

section Many

variable (format : ByteFormat Value)

def FitsMany : List Value → Nat → Prop
  | [], _ => True
  | value :: values, after =>
      format.Fits value ((values.flatMap format.encoding).length + after) ∧
        FitsMany values after

/-- Values one after the other, whose number is known. -/
def many : ByteFormat (List Value) where
  encoding values := values.flatMap format.encoding
  Fits := format.FitsMany

variable {format}

/-- Values that take bytes take at least as many as they are. -/
theorem length_le_many {values : List Value}
    (takesBytes : ∀ value ∈ values, format.encoding value ≠ []) :
    values.length ≤ (format.many.encoding values).length := by
  induction values with
  | nil => exact Nat.zero_le _
  | cons value values ih =>
      have first := List.length_pos_iff.mpr (takesBytes value List.mem_cons_self)
      have others := ih fun other member => takesBytes other (List.mem_cons_of_mem _ member)
      have both : (format.many.encoding (value :: values)).length =
          (format.encoding value).length + (format.many.encoding values).length :=
        List.length_append
      rw [List.length_cons, both]
      omega

end Many

def writeMany (write : Value → Written Failure) : List Value → Written Failure
  | [] => .ok []
  | value :: values => (write value).append (writeMany write values)

def readMany (read : List UInt8 → Reading Failure Value) :
    Nat → List UInt8 → Reading Failure (List Value)
  | 0, input => .done [] input
  | count + 1, input => (read input).andThen fun value rest =>
      (readMany read count rest).map (value :: ·) id

theorem Writes.many {format : ByteFormat Value} {write : Value → Written Failure}
    (writes : format.Writes write) : format.many.Writes (writeMany write) := by
  intro values after fits
  induction values with
  | nil => rfl
  | cons value values ih =>
      obtain ⟨first, others⟩ := fits
      rw [writeMany, writes _ _ first, ih others, Written.ok_append_ok]
      rfl

theorem Reads.many {format : ByteFormat Value} {read : List UInt8 → Reading Failure Value}
    (reads : format.Reads read) {count : Nat} {input rest : List UInt8} {values : List Value} :
    readMany read count input = .done values rest ↔
      values.length = count ∧ input = format.many.encoding values ++ rest ∧
        format.many.Fits values rest.length := by
  induction count generalizing input values with
  | zero =>
      rw [List.length_eq_zero_iff, readMany]
      constructor
      · rintro ⟨⟩
        exact ⟨rfl, rfl, trivial⟩
      · rintro ⟨rfl, rfl, -⟩
        rfl
  | succ count ih =>
      simp only [readMany, Reading.andThen_eq_done_iff, Reading.map_eq_done_iff, reads input, ih]
      constructor
      · rintro ⟨value, _, ⟨rfl, fits⟩, values, ⟨rfl, rfl, others⟩, rfl⟩
        rw [List.length_append] at fits
        exact ⟨rfl, (List.append_assoc ..).symm, fits, others⟩
      · rintro ⟨length, rfl, fits⟩
        cases values with
        | nil => cases length
        | cons value values =>
            refine ⟨value, format.many.encoding values ++ rest, ⟨List.append_assoc .., ?_⟩,
              values, ⟨Nat.succ.inj length, rfl, fits.2⟩, rfl⟩
            rw [List.length_append]
            exact fits.1

end ByteFormat
