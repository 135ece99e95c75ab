import Localization.Text.Digit

/-! # UTF-8

Octets are decoded one character at a time. A sequence is refused at its first octet that
cannot stand where it does; the fault tells which octets are refused and why.
-/
namespace Localization.Text.Utf8

inductive Reason where
  | start
  | continuation
  | truncated
  deriving DecidableEq, Repr

/-- `count` octets from the position `start` on are refused; the first one is `octet`. -/
structure Fault where
  start : Nat
  count : Nat
  octet : UInt8
  reason : Reason
  deriving DecidableEq, Repr

/-- The form of a sequence by its first octet: the payload of that octet, the number of
octets that follow, and the range of the second octet. -/
structure Lead where
  payload : Nat
  more : Nat
  low : Nat
  high : Nat

def lead? (b : Nat) : Option Lead :=
  if b < 0x80 then some ⟨b, 0, 0x80, 0xBF⟩
  else if b < 0xC2 then none
  else if b < 0xE0 then some ⟨b - 0xC0, 1, 0x80, 0xBF⟩
  else if b < 0xF0 then
    some ⟨b - 0xE0, 2, if b = 0xE0 then 0xA0 else 0x80, if b = 0xED then 0x9F else 0xBF⟩
  else if b < 0xF5 then
    some ⟨b - 0xF0, 3, if b = 0xF0 then 0x90 else 0x80, if b = 0xF4 then 0x8F else 0xBF⟩
  else none

/-- The number of octets that continue a sequence, of at most `more`. -/
def continuing (low high : Nat) : Nat → List UInt8 → Nat
  | 0, _ => 0
  | _, [] => 0
  | more + 1, b :: rest =>
    if low ≤ b.toNat && b.toNat ≤ high then continuing 0x80 0xBF more rest + 1 else 0

/-- The octets that a text is made of, up to the first fault. The counter is the position
in the text, the first argument bounds the number of characters. -/
def decodeFrom : Nat → Nat → List UInt8 → Except Fault (List Char)
  | _, _, [] => .ok []
  | 0, _, _ => .ok []
  | fuel + 1, pos, b :: rest =>
    match lead? b.toNat with
    | none => .error ⟨pos, 1, b, .start⟩
    | some lead =>
      let n := continuing lead.low lead.high lead.more rest
      if n < lead.more then
        if n = rest.length then .error ⟨0, n + 1, b, .truncated⟩
        else .error ⟨pos, n + 1, b, .continuation⟩
      else
        let point := (rest.take lead.more).foldl (fun p c => 64 * p + (c.toNat - 0x80)) lead.payload
        match decodeFrom fuel (pos + lead.more + 1) (rest.drop lead.more) with
        | .ok cs => .ok (Char.ofNat point :: cs)
        | .error fault => .error fault

/-- Decodes a text. The position of a sequence that the end cuts short counts from that
sequence. -/
def decode (bytes : List UInt8) : Except Fault (List Char) := decodeFrom bytes.length 0 bytes

end Localization.Text.Utf8
