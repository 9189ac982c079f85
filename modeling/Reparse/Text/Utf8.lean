/-!
Bytes as text.

A byte string is cut into pieces: a character, or the shortest run of bytes that no character can
begin with.  Strict reading stops at the first fault, lenient reading writes a replacement
character for each.
-/

namespace Reparse

abbrev Bytes :=
  List UInt8

namespace Utf8

inductive Fault where
  | invalid (length : Nat)
  | incomplete
deriving DecidableEq

inductive Piece where
  | char (c : Char)
  | fault (start : Nat) (fault : Fault)

structure Pending where
  owed : Nat
  lowest : Nat
  highest : Nat
  value : Nat
  seen : Nat

inductive Lead where
  | whole (c : Char)
  | opening (pending : Pending)
  | stray

def lead (byte : Nat) : Lead :=
  if byte < 0x80 then .whole (Char.ofNat byte)
  else if byte < 0xC2 then .stray
  else if byte < 0xE0 then .opening ⟨1, 0x80, 0xBF, byte - 0xC0, 1⟩
  else if byte = 0xE0 then .opening ⟨2, 0xA0, 0xBF, 0, 1⟩
  else if byte = 0xED then .opening ⟨2, 0x80, 0x9F, 0xD, 1⟩
  else if byte < 0xF0 then .opening ⟨2, 0x80, 0xBF, byte - 0xE0, 1⟩
  else if byte = 0xF0 then .opening ⟨3, 0x90, 0xBF, 0, 1⟩
  else if byte < 0xF4 then .opening ⟨3, 0x80, 0xBF, byte - 0xF0, 1⟩
  else if byte = 0xF4 then .opening ⟨3, 0x80, 0x8F, 4, 1⟩
  else .stray

def piecesFrom (index : Nat) (pending : Option Pending) : Bytes → List Piece
  | [] =>
      match pending with
      | none => []
      | some begun => [.fault (index - begun.seen) .incomplete]
  | byte :: rest =>
      let fresh :=
        match lead byte.toNat with
        | .whole c => .char c :: piecesFrom (index + 1) none rest
        | .opening opened => piecesFrom (index + 1) (some opened) rest
        | .stray => .fault index (.invalid 1) :: piecesFrom (index + 1) none rest
      match pending with
      | none => fresh
      | some begun =>
          if begun.lowest ≤ byte.toNat ∧ byte.toNat ≤ begun.highest then
            let value := begun.value * 64 + byte.toNat % 64
            if begun.owed = 1 then
              .char (Char.ofNat value) :: piecesFrom (index + 1) none rest
            else
              piecesFrom (index + 1) (some ⟨begun.owed - 1, 0x80, 0xBF, value, begun.seen + 1⟩) rest
          else
            .fault (index - begun.seen) (.invalid begun.seen) :: fresh

def pieces (bytes : Bytes) : List Piece :=
  piecesFrom 0 none bytes

def fault? (bytes : Bytes) : Option (Nat × Fault) :=
  (pieces bytes).findSome? fun
    | .char _ => none
    | .fault start fault => some (start, fault)

def decode? (bytes : Bytes) : Option String :=
  match fault? bytes with
  | some _ => none
  | none =>
      some (String.ofList ((pieces bytes).filterMap fun
        | .char c => some c
        | .fault .. => none))

/-- Text with a replacement character for each fault. -/
def decodeLenient (bytes : Bytes) : String :=
  String.ofList ((pieces bytes).map fun
    | .char c => c
    | .fault .. => Char.ofNat 0xFFFD)

def encode (text : String) : Bytes :=
  text.toUTF8.data.toList

def Fault.message (start : Nat) : Fault → String
  | .invalid length => s!"invalid utf-8 sequence of {length} bytes from index {start}"
  | .incomplete => s!"incomplete utf-8 byte sequence from index {start}"

end Utf8

end Reparse
