import QueueProbe.Text.Blank

/-! Tables that count through the code points: each word is a name, followed by the length of the run
of code points that it holds for; a run of one has no length. -/

namespace QueueProbe.Text

/-- The runs of a line whose names have `width` letters. -/
def runsOf (width : Nat) (line : String) : List (String × Nat) :=
  (splitChars ' ' line.toList).map fun word =>
    let count := word.drop width
    (String.ofList (word.take width),
      if count.isEmpty then 1 else count.foldl (fun n d => n * 10 + (d.toNat - 0x30)) 0)

/-- What holds for the code point that lies `n` after the start of the runs. -/
def runAt {α : Type} (n : Nat) : List (α × Nat) → Option α
  | [] => none
  | (a, length) :: rest => if n < length then some a else runAt (n - length) rest

end QueueProbe.Text
