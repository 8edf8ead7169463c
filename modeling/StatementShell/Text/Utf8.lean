import StatementShell.Text.Decimal
import StatementShell.Text.Quoted
/-!
# UTF-8

Reading bytes as UTF-8. A byte sequence that is no encoding is refused, and the fault names the
longest part of it that could still have been continued. A reader that has to take any bytes puts
a replacement character where such a part stands.
-/

namespace StatementShell.Utf8

inductive Reason where
  | start
  | continuation
  | ending
deriving DecidableEq, Repr

structure Fault where
  reason : Reason
  offset : Nat
  lead : UInt8
  /-- The number of bytes that follow it in the part in question. -/
  followers : Nat
deriving DecidableEq, Repr

def Reason.message : Reason → Text
  | .start => "invalid start byte"
  | .continuation => "invalid continuation byte"
  | .ending => "unexpected end of data"

/-- The message of a fault: the byte itself if it stands alone, and the offsets of the first and
the last byte otherwise. -/
def Fault.message (fault : Fault) : Text :=
  "'utf-8' codec can't decode " ++
    (match fault.followers with
      | 0 => "byte 0x" ++ Quoted.hex 2 fault.lead.toNat ++ " in position " ++
          Decimal.ofNat fault.offset
      | n + 1 => "bytes in position " ++ Decimal.ofNat fault.offset ++ "-" ++
          Decimal.ofNat (fault.offset + n + 1)) ++
    ": " ++ fault.reason.message

structure Lead where
  bits : Nat
  followers : Nat
  /-- The least value of the second byte, which rules out overlong forms. -/
  low : Nat := 0x80
  /-- The greatest value of the second byte, which rules out surrogates and code points that are
  too large. -/
  high : Nat := 0xbf

def Lead.ofByte? (b : UInt8) : Option Lead :=
  let n := b.toNat
  if n < 0xc2 then none
  else if n < 0xe0 then some { bits := n - 0xc0, followers := 1 }
  else if n = 0xe0 then some { bits := 0, followers := 2, low := 0xa0 }
  else if n = 0xed then some { bits := 0xd, followers := 2, high := 0x9f }
  else if n < 0xf0 then some { bits := n - 0xe0, followers := 2 }
  else if n = 0xf0 then some { bits := 0, followers := 3, low := 0x90 }
  else if n < 0xf4 then some { bits := n - 0xf0, followers := 3 }
  else if n = 0xf4 then some { bits := 4, followers := 3, high := 0x8f }
  else none

/-- Joins `count` bytes to the bits read so far. The next byte has to lie between `low` and `high`;
a refusal carries the number of bytes that were still good. -/
def joinFollowers (bits low high : Nat) : Nat → List UInt8 → Except (Reason × Nat) Nat
  | 0, _ => .ok bits
  | _ + 1, [] => .error (.ending, 0)
  | count + 1, b :: rest =>
    if low ≤ b.toNat ∧ b.toNat ≤ high then
      match joinFollowers (64 * bits + b.toNat % 64) 0x80 0xbf count rest with
      | .ok n => .ok n
      | .error (reason, good) => .error (reason, good + 1)
    else .error (.continuation, 0)

/-- Reads the character that bytes begin with, and counts the bytes behind the first that belong to
it. A refusal carries the number of bytes behind the first that were still good. -/
def first (b : UInt8) (rest : List UInt8) : Except (Reason × Nat) (Char × Nat) :=
  if b.toNat < 0x80 then .ok (Char.ofNat b.toNat, 0)
  else
    match Lead.ofByte? b with
    | none => .error (.start, 0)
    | some lead =>
      match joinFollowers lead.bits lead.low lead.high lead.followers rest with
      | .error refusal => .error refusal
      | .ok n => .ok (Char.ofNat n, lead.followers)

def decodeFrom (offset : Nat) : List UInt8 → Except Fault Text
  | [] => .ok []
  | b :: rest =>
    match first b rest with
    | .error (reason, good) => .error ⟨reason, offset, b, good⟩
    | .ok (c, followers) =>
      (c :: ·) <$> decodeFrom (offset + 1 + followers) (rest.drop followers)
termination_by bytes => bytes.length
decreasing_by simp only [List.length_drop, List.length_cons]; omega

def decode (bytes : List UInt8) : Except Fault Text :=
  decodeFrom 0 bytes

/-- The text that bytes encode, with a replacement character for each part that is no encoding. -/
def decodeLossy : List UInt8 → Text
  | [] => []
  | b :: rest =>
    match first b rest with
    | .error (_, good) => '\ufffd' :: decodeLossy (rest.drop good)
    | .ok (c, followers) => c :: decodeLossy (rest.drop followers)
termination_by bytes => bytes.length
decreasing_by all_goals simp only [List.length_drop, List.length_cons]; omega

def size : Text → Nat
  | [] => 0
  | c :: rest => c.utf8Size + size rest

end StatementShell.Utf8
