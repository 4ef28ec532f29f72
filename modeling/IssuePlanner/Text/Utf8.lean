import IssuePlanner.Text.Lines

/-! Reading bytes as UTF-8. `decode?` refuses malformed bytes and says where and why; `decodeLossy` leaves
them out. Both read a malformed sequence in the same way (`Piece`), so they differ only in what they do
with one. -/

namespace IssuePlanner.Text.Utf8

inductive Reason where
  | badStart
  | badContinuation
  | endOfData
  deriving DecidableEq, Repr

structure Fault where
  byte : UInt8
  position : Nat
  length : Nat
  reason : Reason
  deriving DecidableEq, Repr

inductive Piece where
  | char (c : Char) (length : Nat)
  | fault (reason : Reason) (length : Nat)

def isTail (b : UInt8) : Bool := 0x80 ≤ b && b < 0xc0

/-- Whether `b` may follow the first byte `a` of a sequence of three or four bytes. -/
def fits (a b : UInt8) : Bool :=
  isTail b && !(a == 0xe0 && b < 0xa0) && !(a == 0xed && 0xa0 ≤ b) && !(a == 0xf0 && b < 0x90)
    && !(a == 0xf4 && 0x90 ≤ b)

def low (b : UInt8) : Nat := b.toNat % 64

def piece : UInt8 → List UInt8 → Piece
  | a, rest =>
    if a < 0x80 then .char (Char.ofNat a.toNat) 1
    else if a < 0xc2 then .fault .badStart 1
    else if a < 0xe0 then
      match rest with
      | [] => .fault .endOfData 1
      | b :: _ =>
        if isTail b then .char (Char.ofNat (a.toNat % 32 * 64 + low b)) 2
        else .fault .badContinuation 1
    else if a < 0xf0 then
      match rest with
      | [] => .fault .endOfData 1
      | b :: rest =>
        if !fits a b then .fault .badContinuation 1
        else match rest with
          | [] => .fault .endOfData 2
          | c :: _ =>
            if isTail c then .char (Char.ofNat (a.toNat % 16 * 4096 + low b * 64 + low c)) 3
            else .fault .badContinuation 2
    else if a < 0xf5 then
      match rest with
      | [] => .fault .endOfData 1
      | b :: rest =>
        if !fits a b then .fault .badContinuation 1
        else match rest with
          | [] => .fault .endOfData 2
          | c :: rest =>
            if !isTail c then .fault .badContinuation 2
            else match rest with
              | [] => .fault .endOfData 3
              | d :: _ =>
                if isTail d then
                  .char (Char.ofNat (a.toNat % 8 * 262144 + low b * 4096 + low c * 64 + low d)) 4
                else .fault .badContinuation 3
    else .fault .badStart 1

/-- The first malformed sequence; `skip` counts the bytes of a character already read. -/
def firstFault (position skip : Nat) : List UInt8 → Option Fault
  | [] => none
  | a :: rest =>
    match skip with
    | n + 1 => firstFault (position + 1) n rest
    | 0 =>
      match piece a rest with
      | .char _ n => firstFault (position + 1) (n - 1) rest
      | .fault reason n => some ⟨a, position, n, reason⟩

/-- The characters of the well formed sequences, last one first, in front of `out`. -/
def readable (skip : Nat) (out : List Char) : List UInt8 → List Char
  | [] => out
  | a :: rest =>
    match skip with
    | n + 1 => readable n out rest
    | 0 =>
      match piece a rest with
      | .char c n => readable (n - 1) (c :: out) rest
      | .fault _ n => readable (n - 1) out rest

def decode? (bytes : ByteArray) : Except Fault String :=
  match String.fromUTF8? bytes with
  | some s => .ok s
  | none =>
    match firstFault 0 0 bytes.toList with
    | some fault => .error fault
    | none => .ok (String.ofList (readable 0 [] bytes.toList).reverse)

def decodeLossy (bytes : ByteArray) : String :=
  match String.fromUTF8? bytes with
  | some s => s
  | none => String.ofList (readable 0 [] bytes.toList).reverse

end IssuePlanner.Text.Utf8
