import QueueProbe.Text.Quoted
import QueueProbe.Text.Utf8

/-! Bytes as text, two hexadecimal digits a byte. -/

namespace QueueProbe.Hex

def digit? (c : Char) : Option Nat :=
  if c.isDigit then some (c.toNat - 0x30)
  else if 'a' ≤ c ∧ c ≤ 'f' then some (c.toNat - 0x61 + 10)
  else if 'A' ≤ c ∧ c ≤ 'F' then some (c.toNat - 0x41 + 10)
  else none

def encode (bs : Bytes) : String :=
  String.ofList (bs.flatMap fun b => [Text.hexDigit (b.toNat / 16), Text.hexDigit (b.toNat % 16)])

def decodeChars : List Char → Option Bytes
  | [] => some []
  | [_] => none
  | a :: b :: rest => do
    let hi ← digit? a
    let lo ← digit? b
    return UInt8.ofNat (hi * 16 + lo) :: (← decodeChars rest)

def decode (s : String) : Option Bytes := decodeChars s.toList

end QueueProbe.Hex
