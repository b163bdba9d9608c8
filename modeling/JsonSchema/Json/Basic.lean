import JsonSchema.Number.Decimal

/-!
# JSON values

A value keeps the order of an object's members.  Numbers are of two kinds, integers of 64 bits and
doubles; the kind is part of the value, so `1` and `1.0` are different values that `Json.equal`
(`JsonSchema.Json.Equal`) identifies.
-/

set_option autoImplicit false

namespace JsonSchema

/-- The integers that a JSON number keeps exactly: those of a signed or an unsigned 64-bit word. -/
def IsWord (n : Int) : Prop := -9223372036854775808 ≤ n ∧ n < 18446744073709551616

instance (n : Int) : Decidable (IsWord n) := inferInstanceAs (Decidable (_ ∧ _))

inductive Number where
  | int (n : Int) (isWord : IsWord n)
  | double (x : Binary64)
deriving DecidableEq

namespace Number

/-- The integer as a number, if it is one of 64 bits. -/
def ofInt? (n : Int) : Option Number := if h : IsWord n then some (.int n h) else none

/-- A count of things in memory.  Counts are below `2 ^ 64`; a larger one is cut off there. -/
def ofNat (n : Nat) : Number :=
  .int (min n 18446744073709551615) ⟨by omega, by omega⟩

/-- The value as a double; an integer is rounded. -/
def toBinary64 : Number → Binary64
  | .int n _ => .ofInt n
  | .double x => x

/-- Whether the number is a whole number, of either kind. -/
def isWhole : Number → Bool
  | .int _ _ => true
  | .double x => x.isWhole

def text : Number → String
  | .int n _ => toString n
  | .double x => x.text

end Number

/-- A JSON value. -/
inductive Json where
  | null
  | bool (b : Bool)
  | num (n : Number)
  | str (s : String)
  | arr (items : List Json)
  | obj (members : List (String × Json))

namespace Json

instance : Inhabited Json := ⟨.null⟩

instance : Coe String Json := ⟨.str⟩

instance : Coe Bool Json := ⟨.bool⟩

instance : Coe Nat Json := ⟨fun n => .num (.ofNat n)⟩

/-! ## Parts of a value -/

def str? : Json → Option String
  | .str s => some s
  | _ => none

def bool? : Json → Option Bool
  | .bool b => some b
  | _ => none

def num? : Json → Option Number
  | .num n => some n
  | _ => none

def arr? : Json → Option (List Json)
  | .arr items => some items
  | _ => none

def obj? : Json → Option (List (String × Json))
  | .obj members => some members
  | _ => none

/-- A number as a double. -/
def double? (v : Json) : Option Binary64 := v.num?.map Number.toBinary64

/-- An integer that fits a signed 64-bit word; a double is none, whatever its value. -/
def int64? : Json → Option Int
  | .num (.int n _) => if n < 9223372036854775808 then some n else none
  | _ => none

/-- A non-negative integer; a double is none, whatever its value. -/
def nat? : Json → Option Nat
  | .num (.int n _) => if 0 ≤ n then some n.toNat else none
  | _ => none

/-- The member called `name` of an object. -/
def get? (v : Json) (name : String) : Option Json :=
  match v with
  | .obj members => members.lookup name
  | _ => none

/-- The `i`-th element of an array. -/
def item? (v : Json) (i : Nat) : Option Json :=
  match v with
  | .arr items => items[i]?
  | _ => none

/-- Sets a member: in place if there is one of that name, else at the end. -/
def setMember (members : List (String × Json)) (name : String) (value : Json) : List (String × Json) :=
  if members.any (·.1 == name) then
    members.map fun m => if m.1 == name then (name, value) else m
  else members ++ [(name, value)]

end Json

end JsonSchema
