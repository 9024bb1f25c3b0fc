/-!
# Association lists

Tables from keys to values that keep the order in which the keys were first put in. A key is in such
a table at most once: putting it again replaces its value where it stands.
-/

namespace AccountAudit
namespace Assoc

variable {κ α : Type} [DecidableEq κ]

/-- Replaces the value of a key by a function of the value it had, if any; a new key goes to the
end. -/
def adjust (key : κ) (f : Option α → α) : List (κ × α) → List (κ × α)
  | [] => [(key, f none)]
  | (k, a) :: rest => if k = key then (k, f (some a)) :: rest else (k, a) :: adjust key f rest

/-- Gives a key a value. -/
def put (key : κ) (a : α) (table : List (κ × α)) : List (κ × α) :=
  adjust key (fun _ => a) table

/-- The table of pairs put in one after the other. -/
def ofPairs (pairs : List (κ × α)) : List (κ × α) :=
  pairs.foldl (fun table (key, a) => put key a table) []

/-- Adds a value to the list of a key. -/
def push (key : κ) (a : α) (table : List (κ × List α)) : List (κ × List α) :=
  adjust key (fun found => found.getD [] ++ [a]) table

/-- Values gathered by key, both in the order of their first appearance. -/
def gather (pairs : List (κ × α)) : List (κ × List α) :=
  pairs.foldl (fun table (key, a) => push key a table) []

end Assoc
end AccountAudit
