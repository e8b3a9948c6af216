/-! UTF-8. `scan` cuts bytes into characters and ill-formed parts; decoding, the place of the first
fault and lossy text are all read off its pieces. An ill-formed part is as long as the well-formed
sequence it could still have begun, and one byte long if it could have begun none. -/

namespace QueueProbe

abbrev Bytes := List UInt8

namespace Utf8

inductive Piece where
  | char (c : Char) (width : Nat)
  | bad (width : Nat)
deriving DecidableEq, Repr

def Piece.width : Piece → Nat
  | .char _ n => n
  | .bad n => n

def inRange (lo hi : Nat) (b : UInt8) : Bool := lo ≤ b.toNat && b.toNat ≤ hi

def isTail (b : UInt8) : Bool := inRange 0x80 0xbf b

/-- The low six bits of a continuation byte. -/
def low (b : UInt8) : Nat := b.toNat % 0x40

/-- The bytes allowed second after the lead of a sequence of three. -/
def second3 (a : UInt8) : UInt8 → Bool :=
  if a.toNat = 0xe0 then inRange 0xa0 0xbf else if a.toNat = 0xed then inRange 0x80 0x9f else isTail

/-- The bytes allowed second after the lead of a sequence of four. -/
def second4 (a : UInt8) : UInt8 → Bool :=
  if a.toNat = 0xf0 then inRange 0x90 0xbf else if a.toNat = 0xf4 then inRange 0x80 0x8f else isTail

/-- The piece that starts with byte `a` and goes on in `rest`. -/
def pieceAt (a : UInt8) (rest : Bytes) : Piece :=
  if a.toNat < 0x80 then .char (Char.ofNat a.toNat) 1
  else if inRange 0xc2 0xdf a then
    match rest with
    | b :: _ => if isTail b then .char (Char.ofNat (a.toNat % 0x20 * 0x40 + low b)) 2 else .bad 1
    | [] => .bad 1
  else if inRange 0xe0 0xef a then
    match rest with
    | b :: c :: _ =>
      if !second3 a b then .bad 1
      else if isTail c then
        .char (Char.ofNat (a.toNat % 0x10 * 0x1000 + low b * 0x40 + low c)) 3
      else .bad 2
    | [b] => if second3 a b then .bad 2 else .bad 1
    | [] => .bad 1
  else if inRange 0xf0 0xf4 a then
    match rest with
    | b :: c :: d :: _ =>
      if !second4 a b then .bad 1
      else if !isTail c then .bad 2
      else if isTail d then
        .char (Char.ofNat (a.toNat % 8 * 0x40000 + low b * 0x1000 + low c * 0x40 + low d)) 4
      else .bad 3
    | [b, c] => if !second4 a b then .bad 1 else if isTail c then .bad 3 else .bad 2
    | [b] => if second4 a b then .bad 2 else .bad 1
    | [] => .bad 1
  else .bad 1

def scan : Bytes → List Piece
  | [] => []
  | a :: rest =>
    let p := pieceAt a rest
    p :: scan (rest.drop (p.width - 1))
termination_by bs => bs.length
decreasing_by simp only [List.length_drop, List.length_cons]; omega

/-- The characters of the pieces, or how many bytes stand before the first ill-formed part. -/
def charsOf : List Piece → Except Nat (List Char)
  | [] => .ok []
  | .bad _ :: _ => .error 0
  | .char c n :: rest =>
    match charsOf rest with
    | .ok cs => .ok (c :: cs)
    | .error k => .error (n + k)

/-- The text of the bytes, or the length of their longest well-formed prefix. -/
def decode (bs : Bytes) : Except Nat String := (charsOf (scan bs)).map String.ofList

/-- Each ill-formed part becomes one replacement character. -/
def lossy (bs : Bytes) : String :=
  String.ofList ((scan bs).map fun | .char c _ => c | .bad _ => Char.ofNat 0xfffd)

def byte (n : Nat) : UInt8 := UInt8.ofNat n

def encodeChar (c : Char) : Bytes :=
  let n := c.toNat
  if n < 0x80 then [byte n]
  else if n < 0x800 then [byte (0xc0 + n / 0x40), byte (0x80 + n % 0x40)]
  else if n < 0x10000 then
    [byte (0xe0 + n / 0x1000), byte (0x80 + n / 0x40 % 0x40), byte (0x80 + n % 0x40)]
  else
    [byte (0xf0 + n / 0x40000), byte (0x80 + n / 0x1000 % 0x40), byte (0x80 + n / 0x40 % 0x40),
      byte (0x80 + n % 0x40)]

def encode (s : String) : Bytes := s.toList.flatMap encodeChar

end Utf8
end QueueProbe
