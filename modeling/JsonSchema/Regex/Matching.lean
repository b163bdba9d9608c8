import JsonSchema.Regex.Basic

/-!
# Matching

A set of positions of a text of `n` characters is the natural number whose bits below `n + 1` are the
members.  `Regex.plan` fixes the text: it replaces character sets and assertions by the positions where
they hold.  `Plan.run` maps the positions where a stretch may start to those where it may end, so that
a search tries all starts at once.
-/

set_option autoImplicit false

namespace JsonSchema

/-- A regular expression over a fixed text. -/
inductive Plan where
  | empty
  /-- Takes one character, at one of the given positions. -/
  | step (at_ : Nat)
  /-- Takes none, at one of the given positions. -/
  | keep (at_ : Nat)
  | seq (a b : Plan)
  | alt (a b : Plan)
  | «repeat» (body : Plan) (least : Nat) (most : Option Nat)

/-- The positions whose bit is set in a list, the first being position zero. -/
def positionsOf (bits : List Bool) : Nat :=
  bits.foldr (fun b rest => 2 * rest + b.toNat) 0

namespace Regex

/-- The characters before and behind each position. -/
def sides (before : Option Char) : List Char → List (Option Char × Option Char)
  | [] => [(before, none)]
  | c :: rest => (before, some c) :: sides (some c) rest

def plan (text : List Char) : Regex → Plan
  | empty => .empty
  | chars set => .step (positionsOf (text.map fun c => set.contains c.toNat))
  | look a => .keep (positionsOf ((sides none text).map fun s => a.holds s.1 s.2))
  | seq a b => .seq (a.plan text) (b.plan text)
  | alt a b => .alt (a.plan text) (b.plan text)
  | «repeat» body least most => .repeat (body.plan text) least most

end Regex

namespace Plan

/-- Applies `f` a number of times, stopping early where it changes nothing. -/
def iterate (f : Nat → Nat) : Nat → Nat → Nat
  | 0, s => s
  | n + 1, s =>
    let t := f s
    if t = s then s else iterate f n t

/-- All that is reached from `frontier` by `f` applied up to `n` times, with what was reached before. -/
def close (f : Nat → Nat) : Nat → (reached frontier : Nat) → Nat
  | 0, reached, _ => reached
  | n + 1, reached, frontier =>
    let all := reached ||| f frontier
    let fresh := all ^^^ reached
    if fresh = 0 then reached else close f n all fresh

/-- The positions where a stretch may end that starts at one of `s`, in a text of `n` characters. -/
def run (n : Nat) : Plan → Nat → Nat
  | empty, s => s
  | step at_, s => (s &&& at_) <<< 1
  | keep at_, s => s &&& at_
  | seq a b, s => b.run n (a.run n s)
  | alt a b, s => a.run n s ||| b.run n s
  | «repeat» body least most, s =>
    let first := iterate (body.run n) least s
    close (body.run n) (match most with
      | some m => min (m - least) (n + 1)
      | none => n + 1) first first

end Plan

namespace Regex

/-- Whether some stretch of the text is described by the regular expression. -/
def isMatch (r : Regex) (text : String) : Bool :=
  let cs := text.toList
  (r.plan cs).run cs.length (1 <<< (cs.length + 1) - 1) != 0

end Regex

end JsonSchema
