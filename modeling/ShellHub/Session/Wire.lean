import Mathlib.Data.List.Basic

set_option autoImplicit false

/- The payloads of `pty-req` and `window-change` (RFC 4254 §6.2, §6.7) and the library call that
   decodes them, `gossh.Unmarshal` of x/crypto/ssh. Unmarshal refuses an empty payload with
   `parseError`, then walks the struct's fields in order and stores each one as it parses; a
   field that does not parse returns its error (`errShortRead` for a uint32, `fieldError` for a
   string) and leaves the fields before it stored, and bytes left after the last field are a
   `parseError`. Neither struct has an `sshtype` tag, so the message type is 0. The struct types
   `session.Pty` and `session.Dimensions` are not under src/; they are taken with the RFC fields
   as gliderssh's `ptyRequestMsg` lays them out: `Term` and `Modelist` strings around four
   uint32s. -/
namespace ShellHub.Session

abbrev Bytes := List UInt8

abbrev Error := String

structure Pty where
  term : Bytes
  columns : UInt32
  rows : UInt32
  width : UInt32
  height : UInt32
  modes : Bytes
deriving DecidableEq, Repr, Inhabited

structure Dimensions where
  columns : UInt32
  rows : UInt32
  width : UInt32
  height : UInt32
deriving DecidableEq, Repr, Inhabited

def Pty.dimensions (pty : Pty) : UInt32 × UInt32 := (pty.columns, pty.rows)

def Pty.rest (pty : Pty) : Bytes × UInt32 × UInt32 × Bytes := (pty.term, pty.width, pty.height, pty.modes)

def errShortRead : Error := "ssh: short read"

def parseError (tag : Nat) : Error := "ssh: parse error in message type " ++ toString tag

def fieldError (field structName : String) : Error :=
  "ssh: unmarshal error for field " ++ field ++ " of type " ++ structName

theorem uint8_to_nat_of_nat (n : Nat) : (UInt8.ofNat n).toNat = n % 256 := rfl

def bigEndian (a b c d : UInt8) : UInt32 :=
  UInt32.ofNat (((a.toNat * 256 + b.toNat) * 256 + c.toNat) * 256 + d.toNat)

def parseUint32 : Bytes → Option (UInt32 × Bytes)
  | a :: b :: c :: d :: rest => some (bigEndian a b c d, rest)
  | _ => none

-- The length is compared with the remaining bytes as a number; payloads are far below 2^32.
def parseString (data : Bytes) : Option (Bytes × Bytes) :=
  match parseUint32 data with
  | none => none
  | some (length, rest) =>
      if rest.length < length.toNat then none else some (rest.take length.toNat, rest.drop length.toNat)

def Field (S : Type) := Bytes → Except Error ((S → S) × Bytes)

def uint32Field {S : Type} (store : UInt32 → S → S) : Field S := fun data =>
  match parseUint32 data with
  | some (value, rest) => .ok (store value, rest)
  | none => .error errShortRead

def stringField {S : Type} (err : Error) (store : Bytes → S → S) : Field S := fun data =>
  match parseString data with
  | some (value, rest) => .ok (store value, rest)
  | none => .error err

def unmarshalFields {S : Type} (out : S) : List (Field S) → Bytes → S × Option Error
  | [], data => (out, if data.isEmpty then none else some (parseError 0))
  | field :: fields, data =>
      match field data with
      | .error err => (out, some err)
      | .ok (store, rest) => unmarshalFields (store out) fields rest

def unmarshal {S : Type} (out : S) (fields : List (Field S)) (data : Bytes) : S × Option Error :=
  if data.isEmpty then (out, some (parseError 0)) else unmarshalFields out fields data

def ptyFields : List (Field Pty) :=
  [stringField (fieldError "Term" "Pty") fun v p => { p with term := v },
    uint32Field fun v p => { p with columns := v }, uint32Field fun v p => { p with rows := v },
    uint32Field fun v p => { p with width := v }, uint32Field fun v p => { p with height := v },
    stringField (fieldError "Modelist" "Pty") fun v p => { p with modes := v }]

def dimensionsFields : List (Field Dimensions) :=
  [uint32Field fun v d => { d with columns := v }, uint32Field fun v d => { d with rows := v },
    uint32Field fun v d => { d with width := v }, uint32Field fun v d => { d with height := v }]

-- `var pty session.Pty; gossh.Unmarshal(req.Payload, &pty)`: the walk starts at the zero value.
def unmarshalPty (payload : Bytes) : Pty × Option Error := unmarshal default ptyFields payload

def unmarshalDimensions (payload : Bytes) : Dimensions × Option Error :=
  unmarshal default dimensionsFields payload

end ShellHub.Session
