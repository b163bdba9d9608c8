import JsonSchema.Json.Pointer

/-!
# Locations in the data

A location is a value together with the way that led to it from the root, step by step.
-/

set_option autoImplicit false

namespace JsonSchema

/-- A step from a value to one of its parts. -/
inductive Step where
  | key (name : String)
  | index (i : Nat)
deriving DecidableEq

/-- The part of a value that a step leads to. -/
def Step.child? (s : Step) (v : Json) : Option Json :=
  match s with
  | key name => v.get? name
  | index i => v.item? i

def Step.text : Step → String
  | key name => "/" ++ escapeToken name
  | index i => "/" ++ toString i

inductive Location where
  | root (value : Json)
  | child (parent : Location) (step : Step) (value : Json)

namespace Location

def value : Location → Json
  | root v => v
  | child _ _ v => v

/-- The same place with another value in it. -/
def withValue : Location → Json → Location
  | root _, v => root v
  | child parent step _, v => child parent step v

/-- The steps from the root. -/
def steps : Location → List Step
  | root _ => []
  | child parent step _ => parent.steps ++ [step]

/-- The location a number of steps up. -/
def ancestor? : Location → Nat → Option Location
  | l, 0 => some l
  | root _, _ + 1 => none
  | child parent _ _, n + 1 => parent.ancestor? n

def rootValue : Location → Json
  | root v => v
  | child parent _ _ => parent.rootValue

/-- The step that led to the location from the one above. -/
def lastStep? : Location → Option Step
  | root _ => none
  | child _ step _ => some step

/-- The JSON pointer of the location. -/
def dataPath (l : Location) : String := String.join (l.steps.map Step.text)

/-- The locations of the elements of an array, from the one numbered `start` on. -/
def elements (l : Location) (start : Nat) : List Json → List Location
  | [] => []
  | v :: rest => child l (.index start) v :: elements l (start + 1) rest

end Location

end JsonSchema
