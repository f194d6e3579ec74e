import FixLoop.Text.Basic

/-!
Texts as UTF-8 bytes. Decoding is strict: the first bytes that no encoding produces are a fault,
which says where they stand and how many there are.
-/

namespace FixLoop

abbrev Bytes := List UInt8

namespace Utf8

inductive Reason where
  | startByte
  | continuationByte
  | truncated
  deriving Repr, DecidableEq

structure Fault where
  reason : Reason
  first : UInt8
  position : Nat
  count : Nat
  deriving Repr, DecidableEq

def Reason.message : Reason → String
  | startByte => "invalid start byte"
  | continuationByte => "invalid continuation byte"
  | truncated => "unexpected end of data"

/-- A byte as two hexadecimal digits. -/
def hexByte (b : UInt8) : String :=
  String.ofList [Nat.digitChar (b.toNat / 16), Nat.digitChar (b.toNat % 16)]

def Fault.message (fault : Fault) : String :=
  let place :=
    if fault.count = 1 then
      "byte 0x" ++ hexByte fault.first ++ " in position " ++ toString fault.position
    else
      "bytes in position " ++ toString fault.position ++ "-" ++
        toString (fault.position + fault.count - 1)
  "'utf-8' codec can't decode " ++ place ++ ": " ++ fault.reason.message

/-- A fault as it is found by a reader that takes the bytes piece by piece: what is left at the end
is a piece of its own. -/
def Fault.inLastPiece (fault : Fault) : Fault :=
  if fault.reason = .truncated then { fault with position := 0 } else fault

def encodeChar (c : Char) : Bytes :=
  let n := c.toNat
  if n < 0x80 then [n.toUInt8]
  else if n < 0x800 then [(0xC0 + n / 0x40).toUInt8, (0x80 + n % 0x40).toUInt8]
  else if n < 0x10000 then
    [(0xE0 + n / 0x1000).toUInt8, (0x80 + n / 0x40 % 0x40).toUInt8, (0x80 + n % 0x40).toUInt8]
  else
    [(0xF0 + n / 0x40000).toUInt8, (0x80 + n / 0x1000 % 0x40).toUInt8,
      (0x80 + n / 0x40 % 0x40).toUInt8, (0x80 + n % 0x40).toUInt8]

def encode (text : Text) : Bytes := text.flatMap encodeChar

def isContinuation (b : UInt8) : Bool := 0x80 ≤ b && b < 0xC0

/-- Whether a byte may follow the first of three: no overlong form and no surrogate. -/
def mayFollowOfThree (a b : UInt8) : Bool :=
  isContinuation b && (if b < 0xA0 then a != 0xE0 else a != 0xED)

/-- Whether a byte may follow the first of four: no overlong form, nothing past the last plane. -/
def mayFollowOfFour (a b : UInt8) : Bool :=
  isContinuation b && (if b < 0x90 then a != 0xF0 else a != 0xF4)

/-- The character of a lead's low bits and the bytes that follow it. -/
def assemble (lead : Nat) (following : List UInt8) : Char :=
  Char.ofNat (following.foldl (fun n b => n * 0x40 + b.toNat % 0x40) lead)

/-- Decodes bytes that start at a position. -/
def decodeFrom (position : Nat) : Bytes → Except Fault Text
  | [] => .ok []
  | a :: rest =>
    let fault (reason : Reason) (count : Nat) : Except Fault Text :=
      .error ⟨reason, a, position, count⟩
    if a < 0x80 then
      (Char.ofNat a.toNat :: ·) <$> decodeFrom (position + 1) rest
    else if a < 0xC2 then fault .startByte 1
    else if a < 0xE0 then
      match rest with
      | [] => fault .truncated 1
      | b :: rest =>
        if isContinuation b then
          (assemble (a.toNat - 0xC0) [b] :: ·) <$> decodeFrom (position + 2) rest
        else fault .continuationByte 1
    else if a < 0xF0 then
      match rest with
      | [] => fault .truncated 1
      | [b] => if mayFollowOfThree a b then fault .truncated 2 else fault .continuationByte 1
      | b :: c :: rest =>
        if !mayFollowOfThree a b then fault .continuationByte 1
        else if !isContinuation c then fault .continuationByte 2
        else (assemble (a.toNat - 0xE0) [b, c] :: ·) <$> decodeFrom (position + 3) rest
    else if a < 0xF5 then
      match rest with
      | [] => fault .truncated 1
      | [b] => if mayFollowOfFour a b then fault .truncated 2 else fault .continuationByte 1
      | [b, c] =>
        if !mayFollowOfFour a b then fault .continuationByte 1
        else if !isContinuation c then fault .continuationByte 2
        else fault .truncated 3
      | b :: c :: d :: rest =>
        if !mayFollowOfFour a b then fault .continuationByte 1
        else if !isContinuation c then fault .continuationByte 2
        else if !isContinuation d then fault .continuationByte 3
        else (assemble (a.toNat - 0xF0) [b, c, d] :: ·) <$> decodeFrom (position + 4) rest
    else fault .startByte 1

def decode (bytes : Bytes) : Except Fault Text := decodeFrom 0 bytes

end Utf8

end FixLoop
