import ShellHub.Session.Wire
import Mathlib.Algebra.Group.Int

set_option autoImplicit false

/- The wire encodings of RFC 4254 §6.2 and §6.7 that `gossh.Marshal` writes for the two structs,
   and what `gossh.Unmarshal`, as Wire.lean models it, accepts: exactly those encodings. So a
   payload fails to decode exactly when it is not the encoding of any value. -/
namespace ShellHub.Session

-- `byte(v >> 24), byte(v >> 16), byte(v >> 8), byte(v)`
def encodeUint32 (v : UInt32) : Bytes :=
  [UInt8.ofNat (v.toNat / 2 ^ 24), UInt8.ofNat (v.toNat / 2 ^ 16), UInt8.ofNat (v.toNat / 2 ^ 8), UInt8.ofNat v.toNat]

def encodeString (s : Bytes) : Bytes := encodeUint32 (UInt32.ofNat s.length) ++ s

def marshalPty (pty : Pty) : Bytes :=
  encodeString pty.term ++ encodeUint32 pty.columns ++ encodeUint32 pty.rows ++ encodeUint32 pty.width ++
    encodeUint32 pty.height ++ encodeString pty.modes

def marshalDimensions (d : Dimensions) : Bytes :=
  encodeUint32 d.columns ++ encodeUint32 d.rows ++ encodeUint32 d.width ++ encodeUint32 d.height

theorem uint32_to_nat_of_nat (n : Nat) : (UInt32.ofNat n).toNat = n % 2 ^ 32 := rfl

theorem big_endian_encode (v : UInt32) :
    bigEndian (UInt8.ofNat (v.toNat / 2 ^ 24)) (UInt8.ofNat (v.toNat / 2 ^ 16)) (UInt8.ofNat (v.toNat / 2 ^ 8))
      (UInt8.ofNat v.toNat) = v := by
  have bound := v.toNat_lt_size
  apply UInt32.toNat.inj
  simp only [bigEndian, uint32_to_nat_of_nat, uint8_to_nat_of_nat]
  simp only [UInt32.size] at bound
  omega

theorem encode_big_endian (a b c d : UInt8) : encodeUint32 (bigEndian a b c d) = [a, b, c, d] := by
  have boundA := a.toNat_lt_size
  have boundB := b.toNat_lt_size
  have boundC := c.toNat_lt_size
  have boundD := d.toNat_lt_size
  simp only [UInt8.size] at boundA boundB boundC boundD
  simp only [encodeUint32, bigEndian, uint32_to_nat_of_nat, List.cons.injEq, and_true]
  refine ⟨?_, ?_, ?_, ?_⟩ <;> apply UInt8.toNat.inj <;> simp only [uint8_to_nat_of_nat] <;> omega

theorem parse_uint32_encode (v : UInt32) (rest : Bytes) : parseUint32 (encodeUint32 v ++ rest) = some (v, rest) := by
  simp only [encodeUint32, List.cons_append, List.nil_append, parseUint32, big_endian_encode]

theorem parse_uint32_eq_some (data rest : Bytes) (v : UInt32) :
    parseUint32 data = some (v, rest) ↔ data = encodeUint32 v ++ rest := by
  constructor
  · intro parsed
    match data, parsed with
    | a :: b :: c :: d :: rest, parsed =>
      simp only [parseUint32, Option.some.injEq, Prod.mk.injEq] at parsed
      obtain ⟨rfl, rfl⟩ := parsed
      simp [encode_big_endian]
  · rintro rfl
    exact parse_uint32_encode v rest

theorem parse_string_encode (s rest : Bytes) (bound : s.length < 2 ^ 32) :
    parseString (encodeString s ++ rest) = some (s, rest) := by
  have named : (UInt32.ofNat s.length).toNat = s.length := by rw [uint32_to_nat_of_nat]; omega
  simp [parseString, encodeString, parse_uint32_encode, named]

theorem parse_string_eq_some (data rest s : Bytes) :
    parseString data = some (s, rest) ↔ data = encodeString s ++ rest ∧ s.length < 2 ^ 32 := by
  constructor
  · intro parsed
    unfold parseString at parsed
    cases header : parseUint32 data with
    | none => simp [header] at parsed
    | some read =>
      obtain ⟨length, tail⟩ := read
      have bound := length.toNat_lt_size
      simp only [header, UInt32.size] at parsed bound
      split at parsed
      · cases parsed
      · rename_i fits
        simp only [Option.some.injEq, Prod.mk.injEq] at parsed
        obtain ⟨rfl, rfl⟩ := parsed
        have taken : (tail.take length.toNat).length = length.toNat := by simp; omega
        have named : UInt32.ofNat (tail.take length.toNat).length = length :=
          UInt32.toNat.inj (by rw [uint32_to_nat_of_nat, taken]; omega)
        refine ⟨?_, by omega⟩
        rw [(parse_uint32_eq_some _ _ _).mp header, encodeString, named, List.append_assoc, List.take_append_drop]
  · rintro ⟨rfl, bound⟩
    exact parse_string_encode s rest bound

theorem unmarshal_fields_nil_ok {S : Type} (out res : S) (data : Bytes) :
    unmarshalFields out [] data = (res, none) ↔ res = out ∧ data = [] := by
  cases data <;> simp [unmarshalFields, eq_comm]

theorem unmarshal_fields_cons_ok {S : Type} (out res : S) (field : Field S) (fields : List (Field S)) (data : Bytes) :
    unmarshalFields out (field :: fields) data = (res, none) ↔
      ∃ store rest, field data = .ok (store, rest) ∧ unmarshalFields (store out) fields rest = (res, none) := by
  cases parsed : field data with
  | error => simp [unmarshalFields, parsed]
  | ok read =>
    obtain ⟨store, rest⟩ := read
    simp [unmarshalFields, parsed, and_assoc]

theorem unmarshal_ok {S : Type} (out res : S) (fields : List (Field S)) (data : Bytes) :
    unmarshal out fields data = (res, none) ↔ data ≠ [] ∧ unmarshalFields out fields data = (res, none) := by
  cases data <;> simp [unmarshal]

theorem uint32_field_eq_ok {S : Type} (store : UInt32 → S → S) (data rest : Bytes) (stored : S → S) :
    uint32Field store data = .ok (stored, rest) ↔ ∃ v, data = encodeUint32 v ++ rest ∧ store v = stored := by
  unfold uint32Field
  split
  · rename_i value rest' parsed
    rw [parse_uint32_eq_some] at parsed
    subst parsed
    constructor
    · rintro ⟨⟩
      exact ⟨value, rfl, rfl⟩
    · rintro ⟨v, same, rfl⟩
      obtain ⟨rfl, rfl⟩ : value = v ∧ rest' = rest := by
        simpa [parse_uint32_encode] using congrArg parseUint32 same
      rfl
  · rename_i failed
    simp only [reduceCtorEq, false_iff, not_exists, not_and]
    rintro v rfl
    simp [parse_uint32_encode] at failed

theorem string_field_eq_ok {S : Type} (err : Error) (store : Bytes → S → S) (data rest : Bytes) (stored : S → S) :
    stringField err store data = .ok (stored, rest) ↔
      ∃ v, (data = encodeString v ++ rest ∧ v.length < 2 ^ 32) ∧ store v = stored := by
  unfold stringField
  split
  · rename_i value rest' parsed
    rw [parse_string_eq_some] at parsed
    obtain ⟨rfl, bound⟩ := parsed
    constructor
    · rintro ⟨⟩
      exact ⟨value, ⟨rfl, bound⟩, rfl⟩
    · rintro ⟨v, ⟨same, vBound⟩, rfl⟩
      obtain ⟨rfl, rfl⟩ : value = v ∧ rest' = rest := by
        simpa [parse_string_encode _ _ bound, parse_string_encode _ _ vBound] using congrArg parseString same
      rfl
  · rename_i failed
    simp only [reduceCtorEq, false_iff, not_exists, not_and]
    rintro v ⟨rfl, bound⟩
    simp [parse_string_encode _ _ bound] at failed

theorem unmarshal_pty_ok (payload : Bytes) (pty : Pty) :
    unmarshalPty payload = (pty, none) ↔
      payload = marshalPty pty ∧ pty.term.length < 2 ^ 32 ∧ pty.modes.length < 2 ^ 32 := by
  simp only [unmarshalPty, ptyFields, unmarshal_ok, unmarshal_fields_cons_ok, unmarshal_fields_nil_ok,
    uint32_field_eq_ok, string_field_eq_ok]
  constructor
  · rintro ⟨-, _, _, ⟨term, ⟨rfl, termBound⟩, rfl⟩, _, _, ⟨columns, rfl, rfl⟩, _, _, ⟨rows, rfl, rfl⟩,
      _, _, ⟨width, rfl, rfl⟩, _, _, ⟨height, rfl, rfl⟩, _, _, ⟨modes, ⟨rfl, modesBound⟩, rfl⟩, rfl, rfl⟩
    exact ⟨by simp [marshalPty], termBound, modesBound⟩
  · rintro ⟨rfl, termBound, modesBound⟩
    refine ⟨by simp [marshalPty, encodeString, encodeUint32], _, _, ⟨pty.term, ⟨by simp [marshalPty], termBound⟩, rfl⟩,
      _, _, ⟨pty.columns, rfl, rfl⟩, _, _, ⟨pty.rows, rfl, rfl⟩, _, _, ⟨pty.width, rfl, rfl⟩, _, _,
      ⟨pty.height, rfl, rfl⟩, _, _, ⟨pty.modes, ⟨(List.append_nil _).symm, modesBound⟩, rfl⟩, rfl, rfl⟩

theorem unmarshal_dimensions_ok (payload : Bytes) (d : Dimensions) :
    unmarshalDimensions payload = (d, none) ↔ payload = marshalDimensions d := by
  simp only [unmarshalDimensions, dimensionsFields, unmarshal_ok, unmarshal_fields_cons_ok, unmarshal_fields_nil_ok,
    uint32_field_eq_ok]
  constructor
  · rintro ⟨-, _, _, ⟨columns, rfl, rfl⟩, _, _, ⟨rows, rfl, rfl⟩, _, _, ⟨width, rfl, rfl⟩, _, _, ⟨height, rfl, rfl⟩,
      rfl, rfl⟩
    simp [marshalDimensions]
  · rintro rfl
    exact ⟨by simp [marshalDimensions, encodeUint32], _, _, ⟨d.columns, by simp [marshalDimensions], rfl⟩, _, _,
      ⟨d.rows, rfl, rfl⟩, _, _, ⟨d.width, rfl, rfl⟩, _, _, ⟨d.height, (List.append_nil _).symm, rfl⟩, rfl, rfl⟩

theorem unmarshal_accepts_exactly_encodings :
    (∀ payload pty, unmarshalPty payload = (pty, none) ↔
      payload = marshalPty pty ∧ pty.term.length < 2 ^ 32 ∧ pty.modes.length < 2 ^ 32) ∧
    (∀ payload d, unmarshalDimensions payload = (d, none) ↔ payload = marshalDimensions d) :=
  ⟨unmarshal_pty_ok, unmarshal_dimensions_ok⟩

end ShellHub.Session
