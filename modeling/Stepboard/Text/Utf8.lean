/-!
# UTF-8

Bytes are read as a sequence of pieces: characters, and ill-formed parts between them. An
ill-formed part is as long as it can be and still begin some character, or a single byte that
begins none, and what follows it is read afresh. The replacing decoder shows each such part as
one U+FFFD; the strict one stops at the first and says where it stands and what is wrong with it.
-/

namespace Stepboard.Utf8

/-- A character of several bytes that has begun: its bytes so far, the value they spell, how many
bytes it still needs, and the range in which the next one must lie. -/
structure Partial where
  bytes : List UInt8
  value : Nat
  need : Nat
  low : Nat := 0x80
  high : Nat := 0xBF
  deriving DecidableEq, Repr

/-- What is wrong with an ill-formed part. -/
inductive Defect where
  | badStart
  | badContinuation
  | cutOff
  deriving DecidableEq, Repr

/-- A character, or an ill-formed part. -/
inductive Piece where
  | scalar (c : Char)
  | broken (bytes : List UInt8) (defect : Defect)
  deriving DecidableEq, Repr

/-- What a byte begins. -/
def start (b : UInt8) : Piece ⊕ Partial :=
  let n := b.toNat
  if n < 0x80 then .inl (.scalar (Char.ofNat n))
  else if n < 0xC2 then .inl (.broken [b] .badStart)
  else if n < 0xE0 then .inr { bytes := [b], value := n - 0xC0, need := 1 }
  else if n = 0xE0 then .inr { bytes := [b], value := 0, need := 2, low := 0xA0 }
  else if n = 0xED then .inr { bytes := [b], value := 0xD, need := 2, high := 0x9F }
  else if n < 0xF0 then .inr { bytes := [b], value := n - 0xE0, need := 2 }
  else if n = 0xF0 then .inr { bytes := [b], value := 0, need := 3, low := 0x90 }
  else if n < 0xF4 then .inr { bytes := [b], value := n - 0xF0, need := 3 }
  else if n = 0xF4 then .inr { bytes := [b], value := 4, need := 3, high := 0x8F }
  else .inl (.broken [b] .badStart)

/-- Whether a byte goes on with a character that has begun. -/
def Partial.accepts (p : Partial) (b : UInt8) : Bool :=
  p.low ≤ b.toNat && b.toNat ≤ p.high

/-- A character after one more of its bytes. -/
def Partial.push (p : Partial) (b : UInt8) : Piece ⊕ Partial :=
  let value := 64 * p.value + (b.toNat - 0x80)
  if p.need ≤ 1 then .inl (.scalar (Char.ofNat value))
  else .inr { bytes := p.bytes ++ [b], value, need := p.need - 1 }

/-- The pieces of the bytes that follow a character that has begun, or follow none. -/
def piecesFrom : Option Partial → List UInt8 → List Piece
  | none, [] => []
  | some p, [] => [.broken p.bytes .cutOff]
  | none, b :: bs =>
    match start b with
    | .inl piece => piece :: piecesFrom none bs
    | .inr p => piecesFrom (some p) bs
  | some p, b :: bs =>
    if p.accepts b then
      match p.push b with
      | .inl piece => piece :: piecesFrom none bs
      | .inr q => piecesFrom (some q) bs
    else
      match start b with
      | .inl piece => .broken p.bytes .badContinuation :: piece :: piecesFrom none bs
      | .inr q => .broken p.bytes .badContinuation :: piecesFrom (some q) bs

/-- The pieces of a sequence of bytes. -/
def pieces (bytes : List UInt8) : List Piece :=
  piecesFrom none bytes

/-- The character that stands for an ill-formed part. -/
def replacement : Char :=
  Char.ofNat 0xFFFD

/-- The character shown for a piece. -/
def Piece.shown : Piece → Char
  | .scalar c => c
  | .broken _ _ => replacement

/-- Decodes bytes, each ill-formed part replaced. -/
def decode (bytes : List UInt8) : List Char :=
  (pieces bytes).map Piece.shown

/-- Decodes bytes to a string, each ill-formed part replaced. -/
def decodeString (bytes : List UInt8) : String :=
  String.ofList (decode bytes)

/-- The first ill-formed part of a sequence of bytes and the bytes before it. -/
structure DecodeError where
  position : Nat
  bytes : List UInt8
  defect : Defect
  deriving DecidableEq, Repr

/-- Decodes pieces that start at a byte position, up to the first ill-formed part. -/
def strictFrom (position : Nat) : List Piece → Except DecodeError (List Char)
  | [] => .ok []
  | .scalar c :: ps => (strictFrom (position + c.utf8Size) ps).map (c :: ·)
  | .broken bytes defect :: _ => .error ⟨position, bytes, defect⟩

/-- Decodes bytes, refusing ill-formed ones. -/
def decodeStrict (bytes : List UInt8) : Except DecodeError (List Char) :=
  strictFrom 0 (pieces bytes)

/-- The bytes of a text. -/
def encode (cs : List Char) : List UInt8 :=
  cs.flatMap String.utf8EncodeChar

end Stepboard.Utf8
