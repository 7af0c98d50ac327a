import ShellHub.Session.Wire
import Mathlib.Algebra.Group.Int

set_option autoImplicit false

/- The parts of Go's strconv that the heartbeat worker and its producers use, at base 10 and
   64 bits: `ParseUint`, `ParseInt` and `FormatInt`. Values are unbounded naturals and integers,
   and the range checks are the ones the library makes against 2^64 and 2^63. Which error a
   failed parse returns is not modelled: the worker only tests `err != nil`. -/
namespace ShellHub.Workers

abbrev Bytes := List UInt8

def maxUint64 : Nat := 2 ^ 64 - 1

-- `case '0' <= c && c <= '9': d = c - '0'`; at base 10 every other byte is a syntax error.
def digitValue (c : UInt8) : Option Nat :=
  if 48 ≤ c.toNat ∧ c.toNat ≤ 57 then some (c.toNat - 48) else none

-- The digit loop of ParseUint.
def accumulate (n : Nat) : Bytes → Option Nat
  | [] => some n
  | c :: rest =>
      match digitValue c with
      | none => none
      | some d => if maxUint64 < n * 10 + d then none else accumulate (n * 10 + d) rest

def parseUint (s : Bytes) : Option Nat := if s.isEmpty then none else accumulate 0 s

def parseMagnitude (neg : Bool) (s : Bytes) : Option Int :=
  (parseUint s).bind fun un =>
    if !neg && 2 ^ 63 ≤ un then none
    else if neg && 2 ^ 63 < un then none
    else some (if neg then -(un : Int) else un)

-- `if s[0] == '+' { s = s[1:] } else if s[0] == '-' { neg = true; s = s[1:] }`
def parseInt : Bytes → Option Int
  | [] => none
  | c :: rest =>
      if c = 43 then parseMagnitude false rest
      else if c = 45 then parseMagnitude true rest
      else parseMagnitude false (c :: rest)

-- formatBits: the decimal digits of `u`, most significant first, with no leading zero.
def formatBits (u : Nat) : Bytes :=
  if small : u < 10 then [UInt8.ofNat (48 + u)]
  else formatBits (u / 10) ++ [UInt8.ofNat (48 + u % 10)]
termination_by u
decreasing_by omega

-- The fast path of FormatInt for 0 to 99 writes the same digits as formatBits.
def formatInt (i : Int) : Bytes := (if i < 0 then [45] else []) ++ formatBits i.natAbs

theorem format_bits_small (u : Nat) (small : u < 10) : formatBits u = [UInt8.ofNat (48 + u)] := by
  rw [formatBits, dif_pos small]

theorem digit_value_digit (d : Nat) (small : d < 10) : digitValue (UInt8.ofNat (48 + d)) = some d := by
  simp only [digitValue, Session.uint8_to_nat_of_nat]
  rw [if_pos (by omega)]
  congr 1
  omega

theorem accumulate_append (n : Nat) (s t : Bytes) :
    accumulate n (s ++ t) = (accumulate n s).bind (accumulate · t) := by
  induction s generalizing n with
  | nil => rfl
  | cons c s ih =>
    simp only [List.cons_append, accumulate]
    split
    · rfl
    · split
      · rfl
      · exact ih _

theorem accumulate_digits (n v : Nat) (s : Bytes) (parsed : accumulate n s = some v) :
    ∀ c ∈ s, c.toNat ≤ 57 := by
  induction s generalizing n with
  | nil => simp
  | cons c s ih =>
    simp only [accumulate] at parsed
    split at parsed
    · cases parsed
    · rename_i d digit
      have bound : c.toNat ≤ 57 := by
        unfold digitValue at digit
        split at digit
        · omega
        · cases digit
      split at parsed
      · cases parsed
      · exact List.forall_mem_cons.2 ⟨bound, ih _ parsed⟩

theorem parse_magnitude_digits (neg : Bool) (s : Bytes) (v : Int) (parsed : parseMagnitude neg s = some v) :
    ∀ c ∈ s, c.toNat ≤ 57 := by
  simp only [parseMagnitude, parseUint, Option.bind_eq_some] at parsed
  obtain ⟨un, digits, -⟩ := parsed
  split at digits
  · cases digits
  · exact accumulate_digits _ _ _ digits

theorem parse_int_digits (s : Bytes) (v : Int) (parsed : parseInt s = some v) : ∀ c ∈ s, c.toNat ≤ 57 := by
  cases s with
  | nil => cases parsed
  | cons c rest =>
    simp only [parseInt] at parsed
    split at parsed
    · rename_i plus
      exact List.forall_mem_cons.2 ⟨by rw [plus]; decide, parse_magnitude_digits _ _ _ parsed⟩
    split at parsed
    · rename_i minus
      exact List.forall_mem_cons.2 ⟨by rw [minus]; decide, parse_magnitude_digits _ _ _ parsed⟩
    · exact parse_magnitude_digits _ _ _ parsed

theorem format_bits_digits (u : Nat) : ∀ c ∈ formatBits u, 48 ≤ c.toNat ∧ c.toNat ≤ 57 := by
  induction u using Nat.strong_induction_on with
  | _ u ih =>
    rw [formatBits]
    split
    · simp only [List.mem_singleton, forall_eq, Session.uint8_to_nat_of_nat]
      omega
    · intro c mem
      rcases List.mem_append.1 mem with front | last
      · exact ih _ (by omega) c front
      · rw [List.mem_singleton.1 last, Session.uint8_to_nat_of_nat]
        omega

theorem format_int_bytes (i : Int) : ∀ c ∈ formatInt i, c = 45 ∨ 48 ≤ c.toNat ∧ c.toNat ≤ 57 := by
  intro c mem
  rcases List.mem_append.1 mem with sign | digit
  · split at sign
    · exact .inl (List.mem_singleton.1 sign)
    · cases sign
  · exact .inr (format_bits_digits _ c digit)

theorem format_bits_ne_nil (u : Nat) : formatBits u ≠ [] := by
  rw [formatBits]
  split <;> simp

theorem accumulate_format_bits (u : Nat) (fits : u ≤ maxUint64) : accumulate 0 (formatBits u) = some u := by
  induction u using Nat.strong_induction_on with
  | _ u ih =>
    rw [formatBits]
    split
    · rename_i small
      simp only [accumulate, digit_value_digit u small, Nat.zero_mul, Nat.zero_add]
      rw [if_neg (by omega)]
    · rename_i large
      rw [accumulate_append, ih _ (by omega) (by omega), Option.some_bind]
      simp only [accumulate, digit_value_digit (u % 10) (Nat.mod_lt _ (by omega))]
      rw [Nat.div_add_mod' u 10, if_neg (by omega)]

theorem parse_uint_format_bits (u : Nat) (fits : u ≤ maxUint64) : parseUint (formatBits u) = some u := by
  simp only [parseUint, List.isEmpty_iff, format_bits_ne_nil, if_false]
  exact accumulate_format_bits u fits

theorem parse_magnitude_format_bits (neg : Bool) (u : Nat) (inRange : if neg then u ≤ 2 ^ 63 else u < 2 ^ 63) :
    parseMagnitude neg (formatBits u) = some (if neg then -(u : Int) else u) := by
  cases neg <;> simp only [Bool.false_eq_true, if_false, if_true] at inRange ⊢ <;>
    simp [parseMagnitude, parse_uint_format_bits u (by simp only [maxUint64]; omega)] <;> omega

theorem parse_int_format_int (i : Int) (low : -2 ^ 63 ≤ i) (high : i < 2 ^ 63) :
    parseInt (formatInt i) = some i := by
  by_cases negative : i < 0
  · have magnitude := parse_magnitude_format_bits true i.natAbs (by simp only [if_true]; omega)
    simp only [formatInt, negative, if_true, List.singleton_append, parseInt, magnitude, eq_self_iff_true, if_false,
      show (45 : UInt8) ≠ 43 by decide]
    congr 1
    omega
  · obtain ⟨c, rest, digits⟩ := List.exists_cons_of_ne_nil (format_bits_ne_nil i.natAbs)
    have digit := format_bits_digits i.natAbs c (by simp [digits])
    have plus : c ≠ 43 := fun same => absurd (same ▸ digit) (by decide)
    have minus : c ≠ 45 := fun same => absurd (same ▸ digit) (by decide)
    have magnitude := parse_magnitude_format_bits false i.natAbs (by simp only [Bool.false_eq_true, if_false]; omega)
    rw [digits] at magnitude
    simp only [formatInt, negative, if_false, List.nil_append, digits, parseInt, plus, minus, magnitude,
      Bool.false_eq_true]
    congr 1
    omega

end ShellHub.Workers
