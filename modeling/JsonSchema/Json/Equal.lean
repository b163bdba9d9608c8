import JsonSchema.Json.Basic

/-!
# Equality of JSON values

Two integers are equal as integers; an integer and a double, or two doubles, as doubles.  Objects are
equal if they have as many members and the same value under each name, in whatever order.
-/

set_option autoImplicit false

namespace JsonSchema

/-- Integers are compared as integers; as soon as a double takes part, the comparison is of doubles. -/
def Number.equal : Number → Number → Bool
  | .int a _, .int b _ => a == b
  | a, b => a.toBinary64.sameValue b.toBinary64

namespace Json

mutual

/-- Equality up to the kind of numbers and the order of members. -/
def equal : Json → Json → Bool
  | .null, .null => true
  | .bool a, .bool b => a == b
  | .num a, .num b => a.equal b
  | .str a, .str b => a == b
  | .arr as, .arr bs => equalItems as bs
  | .obj as, .obj bs => as.length == bs.length && equalMembers as bs
  | _, _ => false

/-- Arrays are compared element by element. -/
def equalItems : List Json → List Json → Bool
  | [], [] => true
  | a :: as, b :: bs => equal a b && equalItems as bs
  | _, _ => false

/-- Every member on the left has an equal one of its name on the right. -/
def equalMembers : List (String × Json) → List (String × Json) → Bool
  | [], _ => true
  | (name, a) :: as, bs =>
    (match bs.lookup name with
      | some b => equal a b
      | none => false) && equalMembers as bs

end

end Json

end JsonSchema
