import JsonSchema.Program.Location

/-!
# References into the data

`{"$data": pointer}` takes the value of a keyword from the data.  An absolute pointer starts at the
root.  A relative one starts a number of steps up, and either leads down again or, with a hash at its
end, asks for the last step itself.
-/

set_option autoImplicit false

namespace JsonSchema

/-- Where a reference into the data leads. -/
inductive DataTarget where
  | absolute (tokens : List String)
  | relative (up : Nat) (tokens : List String)
  /-- The name or index of the location a number of steps up. -/
  | position (up : Nat)

structure DataRef where
  pointer : String
  target : DataTarget

namespace DataRef

/-- The number in front of a relative pointer: below `2 ^ 64` and without leading zeros. -/
def levels? (ds : List Char) : Option Nat :=
  match ds with
  | [] => none
  | '0' :: _ :: _ => none
  | ds => let n := natOfDigits ds; if n < UInt64.size then some n else none

def target? (pointer : String) : Option DataTarget :=
  match pointer.toList with
  | [] => some (.absolute [])
  | '/' :: _ => (Pointer.parse? pointer).map .absolute
  | cs => do
    let up ← levels? (cs.takeWhile Char.isDigit)
    match cs.dropWhile Char.isDigit with
    | ['#'] => return .position up
    | rest => return .relative up (← Pointer.parse? (String.ofList rest))

/-- The reference that a pointer denotes, if it is well formed. -/
def parse? (pointer : String) : Option DataRef := (target? pointer).map (⟨pointer, ·⟩)

/-- The value that a reference has at a location. -/
def resolve? (r : DataRef) (l : Location) : Option Json :=
  match r.target with
  | .absolute tokens => Pointer.follow? l.rootValue tokens
  | .relative up tokens => (l.ancestor? up).bind fun a => Pointer.follow? a.value tokens
  | .position up => do
    match ← (← l.ancestor? up).lastStep? with
    | .key name => return .str name
    | .index i => return .num (.ofNat i)

/-- The pointer of an object whose only member is `$data`. -/
def pointerOf? (v : Json) : Option String :=
  match v with
  | .obj [("$data", .str pointer)] => some pointer
  | _ => none

end DataRef

end JsonSchema
