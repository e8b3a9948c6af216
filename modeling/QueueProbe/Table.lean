/-! Small tables as lists of pairs. `Table` keeps keys in the order they first came, `Ledger` in
their own order; both keep one entry a key. -/

namespace QueueProbe

abbrev Table (κ α : Type) := List (κ × α)

namespace Table

variable {κ α : Type} [DecidableEq κ]

def get? (k : κ) : Table κ α → Option α
  | [] => none
  | (l, a) :: rest => if l = k then some a else get? k rest

/-- The entry of `k` is replaced where it stands; a new key goes to the end. -/
def set (k : κ) (a : α) : Table κ α → Table κ α
  | [] => [(k, a)]
  | (l, b) :: rest => if l = k then (k, a) :: rest else (l, b) :: set k a rest

def has (k : κ) (t : Table κ α) : Bool := (t.get? k).isSome

def keys (t : Table κ α) : List κ := t.map (·.1)

def drop (k : κ) (t : Table κ α) : Table κ α := t.filter (·.1 ≠ k)

@[simp] theorem get?_set_self (k : κ) (a : α) (t : Table κ α) : (t.set k a).get? k = some a := by
  induction t with
  | nil => simp [set, get?]
  | cons e rest ih => by_cases h : e.1 = k <;> simp [set, get?, h, ih]

theorem get?_set_ne {k l : κ} (h : l ≠ k) (a : α) (t : Table κ α) :
    (t.set k a).get? l = t.get? l := by
  induction t with
  | nil => simp [set, get?, Ne.symm h]
  | cons e rest ih => by_cases hk : e.1 = k <;> by_cases hl : e.1 = l <;> grind [set, get?]

end Table

/-- A table in the order of its keys. -/
abbrev Ledger (κ α : Type) := List (κ × α)

namespace Ledger

variable {κ α : Type} [DecidableEq κ] [LT κ] [DecidableRel (α := κ) (· < ·)]

def get? (k : κ) (t : Ledger κ α) : Option α := Table.get? k t

def put (k : κ) (a : α) : Ledger κ α → Ledger κ α
  | [] => [(k, a)]
  | (l, b) :: rest =>
    if k = l then (k, a) :: rest else if k < l then (k, a) :: (l, b) :: rest else (l, b) :: put k a rest

def ofList (entries : List (κ × α)) : Ledger κ α := entries.foldl (fun t e => t.put e.1 e.2) []

end Ledger
end QueueProbe
