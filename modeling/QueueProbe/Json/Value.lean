import QueueProbe.Json.Tree
import QueueProbe.Table
import QueueProbe.Text.Quoted

/-! JSON values and their compact text. Only quotes, backslashes and control characters are escaped,
and nothing is put between tokens. -/

namespace QueueProbe.Json

inductive Value where
  | null
  | bool (b : Bool)
  | number (n : Number)
  | string (s : String)
  | array (items : List Value)
  | object (members : List (String × Value))

namespace Value

def ofNat (n : Nat) : Value := .number (.natural n)

def ofInt (n : Int) : Value := .number (if n < 0 then .negative n else .natural n.toNat)

def isNull : Value → Bool
  | null => true
  | _ => false

def items : Value → List Value
  | array vs => vs
  | _ => []

def members : Value → List (String × Value)
  | object ms => ms
  | _ => []

/-- The member of a name; one that is missing is null. -/
def member (v : Value) (name : String) : Value := (Table.get? name v.members).getD null

def escapeChar (c : Char) : List Char :=
  if c = '"' then ['\\', '"']
  else if c = '\\' then ['\\', '\\']
  else if c.toNat = 0x8 then ['\\', 'b']
  else if c.toNat = 0xc then ['\\', 'f']
  else if c = '\n' then ['\\', 'n']
  else if c = '\r' then ['\\', 'r']
  else if c = '\t' then ['\\', 't']
  else if c.toNat < 0x20 then
    ['\\', 'u', '0', '0', Text.hexDigit (c.toNat / 16), Text.hexDigit (c.toNat % 16)]
  else [c]

def quote (s : String) : List Char := ['"'] ++ s.toList.flatMap escapeChar ++ ['"']

mutual

def render : Value → List Char
  | null => "null".toList
  | bool b => (if b then "true" else "false").toList
  | number n => n.render
  | string s => quote s
  | array items => ['['] ++ renderItems items ++ [']']
  | object members => ['\x7b'] ++ renderMembers members ++ ['\x7d']

def renderItems : List Value → List Char
  | [] => []
  | [v] => v.render
  | v :: w :: rest => v.render ++ [','] ++ renderItems (w :: rest)

def renderMembers : List (String × Value) → List Char
  | [] => []
  | [(k, v)] => quote k ++ [':'] ++ v.render
  | (k, v) :: m :: rest => quote k ++ [':'] ++ v.render ++ [','] ++ renderMembers (m :: rest)

end

def text (v : Value) : String := String.ofList v.render

/-- How deep arrays and objects may stand in each other. -/
def depthLimit : Nat := 127

mutual

/-- The value of a tree no deeper than `depth`. Members are put in the order of their names, and
of members with one name the last counts. -/
def ofTree? (depth : Nat) : Tree → Option Value
  | .null => some .null
  | .bool b => some (.bool b)
  | .number n => n.value?.map .number
  | .string t => t.map .string
  | .array ts => if depth = 0 then none else (ofTrees? (depth - 1) ts).map .array
  | .object ms => if depth = 0 then none else (ofMembers? (depth - 1) ms).map fun es =>
      .object (Ledger.ofList es)

def ofTrees? (depth : Nat) : List Tree → Option (List Value)
  | [] => some []
  | t :: rest =>
    match ofTree? depth t, ofTrees? depth rest with
    | some v, some vs => some (v :: vs)
    | _, _ => none

def ofMembers? (depth : Nat) : List (Option String × Tree) → Option (List (String × Value))
  | [] => some []
  | (key, t) :: rest =>
    match key, ofTree? depth t, ofMembers? depth rest with
    | some k, some v, some vs => some ((k, v) :: vs)
    | _, _, _ => none

end

end Value
end QueueProbe.Json
