/-!
# Tables of code points

A set of code points as the increasing list of the points at which membership changes: the first
number begins a run of members, the second ends it (and is itself outside), and so on.
-/

set_option autoImplicit false

namespace JsonSchema

/-- A set of code points, given by the points at which membership changes. -/
abbrev CodeTable := List Nat

namespace CodeTable

def contains : CodeTable → Nat → Bool
  | [], _ => false
  | [low], c => decide (low ≤ c)
  | low :: high :: rest, c =>
    if c < low then false else if c < high then true else contains rest c

/-- Puts a point before others if membership changes there. -/
def turn (point : Nat) (before after : Bool) (rest : CodeTable) : CodeTable :=
  if before == after then rest else point :: rest

/-- The points from which on `f` of the memberships in two tables changes, given the memberships so far. -/
def turns (f : Bool → Bool → Bool) (inA inB : Bool) (a b : CodeTable) : CodeTable :=
  match a, b with
  | [], [] => []
  | x :: as, [] => turn x (f inA inB) (f (!inA) inB) (turns f (!inA) inB as [])
  | [], y :: bs => turn y (f inA inB) (f inA (!inB)) (turns f inA (!inB) [] bs)
  | x :: as, y :: bs =>
    if x < y then turn x (f inA inB) (f (!inA) inB) (turns f (!inA) inB as (y :: bs))
    else if y < x then turn y (f inA inB) (f inA (!inB)) (turns f inA (!inB) (x :: as) bs)
    else turn x (f inA inB) (f (!inA) (!inB)) (turns f (!inA) (!inB) as bs)
termination_by a.length + b.length

/-- The code points for which `f` holds of their memberships in two tables. -/
def combine (f : Bool → Bool → Bool) (a b : CodeTable) : CodeTable :=
  turn 0 false (f false false) (turns f false false a b)

end CodeTable

end JsonSchema
