import CreoBench.Library.SplitOnce
import Mathlib.Data.UInt

/-!
# Addresses of load generators

The command line takes addresses with and without a port, and IPv6 addresses in
brackets.  A bracketed address ends at its first closing bracket, any other one at its
last colon.  So an address with several colons that is not in brackets is split as well,
if what follows its last colon is a port.
-/

namespace CreoBench

def defaultGeneratorPort : UInt16 := 24266

inductive CliError where
  | invalidIPv6Format (text : String)
  | invalidPort (text : String)
  deriving DecidableEq

/-- `<u16 as FromStr>::from_str` after the sign: the value so far must stay below 2^16. -/
def parseDigits (value : Nat) : List Char → Option Nat
  | [] => some value
  | char :: chars =>
      if char.isDigit ∧ 10 * value + (char.toNat - '0'.toNat) < 2 ^ 16 then
        parseDigits (10 * value + (char.toNat - '0'.toNat)) chars
      else none

/-- `<u16 as FromStr>::from_str`, which takes a plus sign in front of the digits. -/
def parseU16 (text : List Char) : Option UInt16 :=
  match text with
  | [] => none
  | ['+'] => none
  | '+' :: digits => (parseDigits 0 digits).map UInt16.ofNat
  | digits => (parseDigits 0 digits).map UInt16.ofNat

structure GeneratorAddr where
  addr : String
  port : UInt16
  deriving DecidableEq

namespace GeneratorAddr

def parsePort (text : List Char) : Except CliError UInt16 :=
  match parseU16 text with
  | some port => .ok port
  | none => .error (.invalidPort (String.ofList text))

def fromStr (s : String) : Except CliError GeneratorAddr :=
  if s.toList.head? = some '[' then
    match s.toList.splitOnce ']' with
    | none => .error (.invalidIPv6Format s)
    | some (addr, port) =>
        let addr := String.ofList (addr ++ [']'])
        match port with
        | ':' :: port => (parsePort port).map (⟨addr, ·⟩)
        | [] => .ok ⟨addr, defaultGeneratorPort⟩
        | _ => .error (.invalidPort (String.ofList port))
  else
    match s.toList.rsplitOnce ':' with
    | some (addr, port) => (parsePort port).map (⟨String.ofList addr, ·⟩)
    | none => .ok ⟨s, defaultGeneratorPort⟩

/-- `Display` -/
def toString (address : GeneratorAddr) : String :=
  address.addr ++ ":" ++ address.port.toNat.repr

end GeneratorAddr

/-! ## Ports -/

/-- A port in decimal digits. -/
structure IsDecimal (text : List Char) (port : UInt16) : Prop where
  nonempty : text ≠ []
  digits : ∀ char ∈ text, char.isDigit
  value : Nat.ofDigitChars 10 text 0 = port.toNat

theorem le_ofDigitChars (text : List Char) (value : Nat) :
    value ≤ Nat.ofDigitChars 10 text value := by
  induction text generalizing value with
  | nil => simp
  | cons char chars ih =>
      rw [Nat.ofDigitChars_cons]
      exact le_trans (by omega) (ih _)

theorem parseDigits_eq_some_iff {text : List Char} {value number : Nat}
    (small : value < 2 ^ 16) :
    parseDigits value text = some number ↔
      (∀ char ∈ text, char.isDigit) ∧ Nat.ofDigitChars 10 text value = number ∧
        number < 2 ^ 16 := by
  induction text generalizing value with
  | nil =>
      simp only [parseDigits, Option.some.injEq, List.not_mem_nil, false_implies, implies_true,
        Nat.ofDigitChars_nil, true_and]
      constructor
      · rintro rfl
        exact ⟨rfl, small⟩
      · exact And.left
  | cons char chars ih =>
      rw [parseDigits, Nat.ofDigitChars_cons]
      split_ifs with goesOn
      · rw [ih goesOn.2]
        simp [goesOn.1]
      · have grows := le_ofDigitChars chars (10 * value + (char.toNat - '0'.toNat))
        constructor
        · rintro ⟨⟩
        · rintro ⟨digits, rfl, fits⟩
          exact absurd ⟨digits char List.mem_cons_self, grows.trans_lt fits⟩ goesOn

theorem not_isDigit_plus : ¬('+').isDigit := by decide

theorem not_isDigit_colon : ¬(':').isDigit := by decide

namespace IsDecimal

variable {text : List Char} {port : UInt16}

theorem colon_notMem (decimal : IsDecimal text port) : ':' ∉ text :=
  fun member => not_isDigit_colon (decimal.digits _ member)

theorem iff_parseDigits (nonempty : text ≠ []) :
    IsDecimal text port ↔ (parseDigits 0 text).map UInt16.ofNat = some port := by
  simp only [Option.map_eq_some_iff, parseDigits_eq_some_iff (Nat.two_pow_pos 16)]
  constructor
  · intro decimal
    exact ⟨port.toNat, ⟨decimal.digits, decimal.value, port.toNat_lt⟩, UInt16.ofNat_toNat⟩
  · rintro ⟨number, ⟨digits, value, fits⟩, rfl⟩
    exact ⟨nonempty, digits, by rw [value, UInt16.toNat_ofNat_of_lt' fits]⟩

/-- A port is printed in decimal digits. -/
theorem repr (port : UInt16) : IsDecimal port.toNat.repr.toList port where
  nonempty := by simp [Nat.toDigits_ne_nil]
  digits char member := by
    rw [Nat.toList_repr] at member
    exact Nat.isDigit_of_mem_toDigits (by decide) (by decide) member
  value := by simp

end IsDecimal

/-- A port is parsed from its digits, which may follow a plus sign. -/
theorem parseU16_eq_some_iff {text : List Char} {port : UInt16} :
    parseU16 text = some port ↔
      IsDecimal text port ∨ ∃ digits, text = '+' :: digits ∧ IsDecimal digits port := by
  have unsigned : ∀ digits, ¬ IsDecimal ('+' :: digits) port := fun digits decimal =>
    not_isDigit_plus (decimal.digits _ List.mem_cons_self)
  fun_cases parseU16 text with
  | case1 =>
      simp only [reduceCtorEq, false_iff, not_or, false_and, exists_false, not_false_eq_true,
        and_true]
      exact fun decimal => decimal.nonempty rfl
  | case2 =>
      simp only [reduceCtorEq, unsigned, false_or, false_iff, not_exists, not_and]
      rintro digits ⟨⟩ decimal
      exact decimal.nonempty rfl
  | case3 digits nonempty =>
      have nonempty : digits ≠ [] := fun empty => nonempty empty
      rw [← IsDecimal.iff_parseDigits nonempty]
      simp [unsigned]
  | case4 digits nonempty notPlus signed =>
      rw [← IsDecimal.iff_parseDigits (fun empty => nonempty empty)]
      constructor
      · exact .inl
      · rintro (decimal | ⟨rest, rfl, -⟩)
        · exact decimal
        · exact absurd rfl (signed rest)

namespace GeneratorAddr

theorem map_parsePort_eq_ok_iff {text : List Char} {build : UInt16 → GeneratorAddr}
    {address : GeneratorAddr} :
    (parsePort text).map build = .ok address ↔
      ∃ port, parseU16 text = some port ∧ build port = address := by
  unfold parsePort
  cases parseU16 text <;> simp [Except.map]

/-! ## Forms of addresses -/

/-- The documented forms. -/
inductive Documented : List Char → GeneratorAddr → Prop
  | host {host : List Char} :
      ':' ∉ host → host.head? ≠ some '[' →
        Documented host ⟨String.ofList host, defaultGeneratorPort⟩
  | hostPort {host text : List Char} {port : UInt16} :
      ':' ∉ host → host.head? ≠ some '[' → IsDecimal text port →
        Documented (host ++ ':' :: text) ⟨String.ofList host, port⟩
  | ipv6 {inner : List Char} :
      ']' ∉ inner →
        Documented ('[' :: inner ++ [']'])
          ⟨String.ofList ('[' :: inner ++ [']']), defaultGeneratorPort⟩
  | ipv6Port {inner text : List Char} {port : UInt16} :
      ']' ∉ inner → IsDecimal text port →
        Documented ('[' :: inner ++ [']'] ++ ':' :: text)
          ⟨String.ofList ('[' :: inner ++ [']']), port⟩

/-- Forms that are accepted as well: several colons without brackets, of which the last
one is in front of a port, and a plus sign in front of the port. -/
inductive Tolerated : List Char → GeneratorAddr → Prop
  | colons {host text : List Char} {port : UInt16} :
      ':' ∈ host → host.head? ≠ some '[' → parseU16 text = some port →
        Tolerated (host ++ ':' :: text) ⟨String.ofList host, port⟩
  | hostSigned {host digits : List Char} {port : UInt16} :
      ':' ∉ host → host.head? ≠ some '[' → IsDecimal digits port →
        Tolerated (host ++ ':' :: '+' :: digits) ⟨String.ofList host, port⟩
  | ipv6Signed {inner digits : List Char} {port : UInt16} :
      ']' ∉ inner → IsDecimal digits port →
        Tolerated ('[' :: inner ++ [']'] ++ ':' :: '+' :: digits)
          ⟨String.ofList ('[' :: inner ++ [']']), port⟩

theorem colon_notMem_of_parseU16 {text : List Char} {port : UInt16}
    (parsed : parseU16 text = some port) : ':' ∉ text := by
  rcases parseU16_eq_some_iff.mp parsed with decimal | ⟨digits, rfl, decimal⟩
  · exact decimal.colon_notMem
  · simp [decimal.colon_notMem]

/-- What is accepted in brackets. -/
theorem fromStr_bracketed {s : String} {address : GeneratorAddr}
    (bracket : s.toList.head? = some '[') :
    fromStr s = .ok address ↔ ∃ inner rest, ']' ∉ inner ∧
      s.toList = '[' :: inner ++ ']' :: rest ∧
        (rest = [] ∧ address.port = defaultGeneratorPort ∨
          ∃ text, rest = ':' :: text ∧ parseU16 text = some address.port) ∧
        address.addr = String.ofList ('[' :: inner ++ [']']) := by
  rw [fromStr, if_pos bracket]
  constructor
  · intro accepted
    split at accepted
    · cases accepted
    · rename_i front rest split
      obtain ⟨shape, absent⟩ := List.splitOnce_eq_some_iff.mp split
      rw [shape] at bracket
      cases front with
      | nil => cases bracket
      | cons first inner =>
          cases bracket
          refine ⟨inner, rest, fun member => absent (List.mem_cons_of_mem _ member), shape, ?_⟩
          dsimp only at accepted
          split at accepted
          · rename_i text
            obtain ⟨port, parsed, rfl⟩ := map_parsePort_eq_ok_iff.mp accepted
            exact ⟨.inr ⟨text, rfl, parsed⟩, rfl⟩
          · cases accepted
            exact ⟨.inl ⟨rfl, rfl⟩, rfl⟩
          · cases accepted
  · rintro ⟨inner, rest, absent, shape, outcome, addrEq⟩
    have split := List.splitOnce_eq_some_iff.mpr ⟨shape, by simp [absent]⟩
    obtain ⟨addr, port⟩ := address
    dsimp only at addrEq outcome
    rw [split, addrEq]
    rcases outcome with ⟨rfl, rfl⟩ | ⟨text, rfl, parsed⟩
    · rfl
    · exact map_parsePort_eq_ok_iff.mpr ⟨port, parsed, rfl⟩

/-- What is accepted without brackets. -/
theorem fromStr_plain {s : String} {address : GeneratorAddr}
    (plain : s.toList.head? ≠ some '[') :
    fromStr s = .ok address ↔
      (':' ∉ s.toList ∧ address = ⟨s, defaultGeneratorPort⟩) ∨
        ∃ host text, s.toList = host ++ ':' :: text ∧ parseU16 text = some address.port ∧
          address.addr = String.ofList host := by
  rw [fromStr, if_neg plain]
  constructor
  · intro accepted
    split at accepted
    · rename_i host text split
      obtain ⟨shape, -⟩ := List.rsplitOnce_eq_some_iff.mp split
      obtain ⟨port, parsed, rfl⟩ := map_parsePort_eq_ok_iff.mp accepted
      exact .inr ⟨host, text, shape, parsed, rfl⟩
    · rename_i split
      cases accepted
      exact .inl ⟨List.rsplitOnce_eq_none_iff.mp split, rfl⟩
  · rintro (⟨absent, rfl⟩ | ⟨host, text, shape, parsed, addrEq⟩)
    · rw [List.rsplitOnce_eq_none_iff.mpr absent]
    · rw [List.rsplitOnce_eq_some_iff.mpr ⟨shape, colon_notMem_of_parseU16 parsed⟩]
      obtain ⟨addr, port⟩ := address
      dsimp only at addrEq parsed
      rw [addrEq]
      exact map_parsePort_eq_ok_iff.mpr ⟨port, parsed, rfl⟩

theorem head?_host {host text : List Char} (plain : host.head? ≠ some '[') :
    (host ++ ':' :: text).head? ≠ some '[' := by
  cases host with
  | nil => simp
  | cons first rest => exact plain

/-- What is accepted with a leading bracket has one of the bracketed forms. -/
theorem form_of_bracketed {s : String} {address : GeneratorAddr}
    (bracket : s.toList.head? = some '[') (accepted : fromStr s = .ok address) :
    Documented s.toList address ∨ Tolerated s.toList address := by
  obtain ⟨addr, port⟩ := address
  obtain ⟨inner, rest, absent, shape, outcome, addrEq⟩ := (fromStr_bracketed bracket).mp accepted
  dsimp only at outcome addrEq
  rw [shape, addrEq, List.append_cons]
  rcases outcome with ⟨rfl, rfl⟩ | ⟨text, rfl, parsed⟩
  · rw [List.append_nil]
    exact .inl (.ipv6 absent)
  · rcases parseU16_eq_some_iff.mp parsed with decimal | ⟨digits, rfl, decimal⟩
    · exact .inl (.ipv6Port absent decimal)
    · exact .inr (.ipv6Signed absent decimal)

/-- What is accepted without one has one of the other forms. -/
theorem form_of_plain {s : String} {address : GeneratorAddr}
    (noBracket : s.toList.head? ≠ some '[') (accepted : fromStr s = .ok address) :
    Documented s.toList address ∨ Tolerated s.toList address := by
  obtain ⟨addr, port⟩ := address
  rcases (fromStr_plain noBracket).mp accepted with ⟨absent, whole⟩ |
    ⟨host, text, shape, parsed, addrEq⟩
  · cases whole
    have host := Documented.host absent noBracket
    rw [String.ofList_toList] at host
    exact .inl host
  · dsimp only at parsed addrEq
    have plain : host.head? ≠ some '[' := by
      intro starts
      apply noBracket
      rw [shape, List.head?_append, starts]
      rfl
    rw [shape, addrEq]
    by_cases several : ':' ∈ host
    · exact .inr (.colons several plain parsed)
    · rcases parseU16_eq_some_iff.mp parsed with decimal | ⟨digits, rfl, decimal⟩
      · exact .inl (.hostPort several plain decimal)
      · exact .inr (.hostSigned several plain decimal)

theorem fromStr_of_bracketed {s : String} {inner rest : List Char} {port : UInt16}
    (shape : s.toList = '[' :: inner ++ [']'] ++ rest) (absent : ']' ∉ inner)
    (given : rest = [] ∧ port = defaultGeneratorPort ∨
      ∃ text, rest = ':' :: text ∧ parseU16 text = some port) :
    fromStr s = .ok ⟨String.ofList ('[' :: inner ++ [']']), port⟩ := by
  have starts : s.toList.head? = some '[' := by
    rw [shape]
    rfl
  rw [fromStr_bracketed starts]
  exact ⟨inner, rest, absent, by rw [shape, ← List.append_cons], given, rfl⟩

theorem fromStr_of_plain {s : String} {host text : List Char} {port : UInt16}
    (shape : s.toList = host ++ ':' :: text) (plain : host.head? ≠ some '[')
    (parsed : parseU16 text = some port) :
    fromStr s = .ok ⟨String.ofList host, port⟩ := by
  rw [fromStr_plain (by rw [shape]; exact head?_host plain)]
  exact .inr ⟨host, text, shape, parsed, rfl⟩

theorem fromStr_of_documented {s : String} {address : GeneratorAddr}
    (documented : Documented s.toList address) : fromStr s = .ok address := by
  generalize shape : s.toList = text at documented
  cases documented with
  | host absent plain =>
      rw [fromStr_plain (by rwa [shape]), shape]
      exact .inl ⟨absent, by rw [← shape, String.ofList_toList]⟩
  | hostPort absent plain decimal =>
      exact fromStr_of_plain shape plain (parseU16_eq_some_iff.mpr (.inl decimal))
  | ipv6 absent =>
      exact fromStr_of_bracketed (shape.trans (List.append_nil _).symm) absent (.inl ⟨rfl, rfl⟩)
  | ipv6Port absent decimal =>
      exact fromStr_of_bracketed shape absent
        (.inr ⟨_, rfl, parseU16_eq_some_iff.mpr (.inl decimal)⟩)

theorem fromStr_of_tolerated {s : String} {address : GeneratorAddr}
    (tolerated : Tolerated s.toList address) : fromStr s = .ok address := by
  have signed : ∀ {digits port}, IsDecimal digits port → parseU16 ('+' :: digits) = some port :=
    fun decimal => parseU16_eq_some_iff.mpr (.inr ⟨_, rfl, decimal⟩)
  generalize shape : s.toList = text at tolerated
  cases tolerated with
  | colons several plain parsed => exact fromStr_of_plain shape plain parsed
  | hostSigned absent plain decimal => exact fromStr_of_plain shape plain (signed decimal)
  | ipv6Signed absent decimal =>
      exact fromStr_of_bracketed shape absent (.inr ⟨_, rfl, signed decimal⟩)

/-- What is accepted is documented or tolerated. -/
theorem fromStr_eq_ok_iff {s : String} {address : GeneratorAddr} :
    fromStr s = .ok address ↔ Documented s.toList address ∨ Tolerated s.toList address := by
  constructor
  · intro accepted
    by_cases bracket : s.toList.head? = some '['
    · exact form_of_bracketed bracket accepted
    · exact form_of_plain bracket accepted
  · rintro (documented | tolerated)
    · exact fromStr_of_documented documented
    · exact fromStr_of_tolerated tolerated

/-- What follows the brackets is determined by the address. -/
theorem rest_eq_of_bracketed {inner inner' rest rest' : List Char} (absent : ']' ∉ inner)
    (absent' : ']' ∉ inner')
    (same : '[' :: inner ++ [']'] ++ rest = '[' :: inner' ++ [']'] ++ rest') : rest = rest' := by
  have split : ∀ inner rest : List Char, ']' ∉ inner →
      ('[' :: inner ++ [']'] ++ rest).splitOnce ']' = some ('[' :: inner, rest) := by
    intro inner rest absent
    rw [List.append_assoc, List.splitOnce_eq_some_iff]
    exact ⟨rfl, by simp [absent]⟩
  have both := split inner rest absent
  rw [same, split inner' rest' absent'] at both
  cases both
  rfl

/-- No documented form is one of the others. -/
theorem not_tolerated_of_documented {list list' : List Char} {address address' : GeneratorAddr}
    (documented : Documented list address) (same : list = list') :
    ¬ Tolerated list' address' := by
  have plainHead : ∀ {host text inner rest : List Char}, host.head? ≠ some '[' →
      host ++ ':' :: text ≠ '[' :: inner ++ [']'] ++ rest := by
    intro host text inner rest plain same
    apply head?_host plain
    rw [same]
    rfl
  have notDigits : ∀ {digits port}, ¬ IsDecimal ('+' :: digits) port := fun decimal =>
    not_isDigit_plus (decimal.digits _ List.mem_cons_self)
  intro tolerated
  cases documented with
  | host absent plain =>
      subst same
      cases tolerated with
      | colons => simp at absent
      | hostSigned => simp at absent
      | ipv6Signed => simp at absent
  | hostPort absent plain decimal =>
      cases tolerated with
      | colons several =>
          obtain ⟨rfl, -, -⟩ :=
            (List.append_cons_inj_of_notMem absent decimal.colon_notMem).mp same
          exact absent several
      | hostSigned =>
          obtain ⟨-, -, rfl⟩ :=
            (List.append_cons_inj_of_notMem absent decimal.colon_notMem).mp same
          exact notDigits decimal
      | ipv6Signed => exact plainHead plain same
  | ipv6 absent =>
      rw [← List.append_nil ('[' :: _ ++ [']'])] at same
      cases tolerated with
      | colons _ plain => exact plainHead plain same.symm
      | hostSigned _ plain => exact plainHead plain same.symm
      | ipv6Signed absent' => cases rest_eq_of_bracketed absent absent' same
  | ipv6Port absent decimal =>
      cases tolerated with
      | colons _ plain => exact plainHead plain same.symm
      | hostSigned _ plain => exact plainHead plain same.symm
      | ipv6Signed absent' =>
          cases rest_eq_of_bracketed absent absent' same
          exact notDigits decimal

/-- An accepted address is printed in a form that is accepted as the same address. -/
theorem fromStr_toString {s : String} {address : GeneratorAddr}
    (accepted : fromStr s = .ok address) : fromStr address.toString = .ok address := by
  have printed : address.toString.toList =
      address.addr.toList ++ ':' :: address.port.toNat.repr.toList := by
    simp [toString]
  have decimal := IsDecimal.repr address.port
  have plainAgain : ∀ host, host.head? ≠ some '[' → address.addr = String.ofList host →
      fromStr address.toString = .ok address := by
    intro host plain addrEq
    rw [addrEq, String.toList_ofList] at printed
    rw [fromStr_plain (by rw [printed]; exact head?_host plain)]
    exact .inr ⟨host, _, printed, parseU16_eq_some_iff.mpr (.inl decimal), addrEq⟩
  have bracketedAgain : ∀ inner, ']' ∉ inner →
      address.addr = String.ofList ('[' :: inner ++ [']']) →
        fromStr address.toString = .ok address := by
    intro inner absent addrEq
    rw [addrEq, String.toList_ofList, List.append_assoc] at printed
    rw [fromStr_bracketed (by rw [printed]; rfl)]
    exact ⟨inner, _, absent, printed,
      .inr ⟨_, rfl, parseU16_eq_some_iff.mpr (.inl decimal)⟩, addrEq⟩
  rw [fromStr_eq_ok_iff] at accepted
  generalize s.toList = text at accepted
  rcases accepted with documented | tolerated
  · cases documented with
    | host _ plain => exact plainAgain _ plain rfl
    | hostPort _ plain => exact plainAgain _ plain rfl
    | ipv6 absent => exact bracketedAgain _ absent rfl
    | ipv6Port absent => exact bracketedAgain _ absent rfl
  · cases tolerated with
    | colons _ plain => exact plainAgain _ plain rfl
    | hostSigned _ plain => exact plainAgain _ plain rfl
    | ipv6Signed absent => exact bracketedAgain _ absent rfl

/-- The address is parsed as documented, and what it is parsed as is printed so that it
is parsed as the same again. -/
structure ParsedAsDocumented (s : String) : Prop where
  documented : ∀ address, fromStr s = .ok address ↔ Documented s.toList address
  printed : ∀ address, fromStr s = .ok address → fromStr address.toString = .ok address

theorem parsedAsDocumented_iff (s : String) :
    ParsedAsDocumented s ↔ ¬ ∃ address, Tolerated s.toList address := by
  constructor
  · rintro asDocumented ⟨address, tolerated⟩
    have accepted := fromStr_eq_ok_iff.mpr (.inr tolerated)
    exact not_tolerated_of_documented ((asDocumented.documented address).mp accepted) rfl tolerated
  · intro noneTolerated
    constructor
    · intro address
      rw [fromStr_eq_ok_iff]
      constructor
      · rintro (documented | tolerated)
        · exact documented
        · exact absurd ⟨address, tolerated⟩ noneTolerated
      · exact .inl
    · exact fun address => fromStr_toString

/-- An IPv6 address without brackets is split at its last colon. -/
theorem splits_unbracketed_ipv6 :
    fromStr "fe80::1" = .ok ⟨"fe80:", 1⟩ ∧ ¬ ∀ s, ParsedAsDocumented s := by
  have accepted : fromStr "fe80::1" = .ok ⟨"fe80:", 1⟩ := by decide
  have tolerated : Tolerated "fe80::1".toList ⟨"fe80:", 1⟩ :=
    @Tolerated.colons "fe80:".toList ['1'] 1 (by decide) (by decide) (by decide)
  refine ⟨accepted, fun always => ?_⟩
  exact not_tolerated_of_documented (((always _).documented _).mp accepted) rfl tolerated

end GeneratorAddr

end CreoBench
