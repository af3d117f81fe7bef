-- Regular expressions: read from patterns, and searched for in texts. A search finds the expression
-- anywhere in the text.
import DesktopPolicy.Pattern.Search

namespace DesktopPolicy

variable [Dialect]

/-- A regular expression ready to be searched for. -/
structure Regex where
  steps : List Pattern.Step
  groups : Nat

namespace Regex

open Pattern

/-- The regular expression that a pattern stands for. -/
def compile (pattern : String) : Except Fault Regex := do
  let tree ← Tree.read pattern
  let steps ← stepsOf tree.flags tree.nodes
  pure ⟨steps, tree.groups⟩

/-- What is known after the expression has been found from a position on. -/
def matchAt (regex : Regex) (text : Array Char) (position : Nat) : Option Trace :=
  match runSteps text false regex.steps finish position (Trace.start regex.groups position) with
  | (true, trace) => some trace
  | (false, _) => none

/-- The first of the next `count` positions from which the expression is found. -/
def searchFrom (regex : Regex) (text : Array Char) : Nat → Nat → Option Trace
  | _, 0 => none
  | position, count + 1 =>
    match regex.matchAt text position with
    | some trace => some trace
    | none => searchFrom regex text (position + 1) count

def search (regex : Regex) (text : String) : Except Refusal Bool :=
  let chars := text.toList.toArray
  match regex.searchFrom chars 0 (chars.size + 1) with
  | none => .ok false
  | some trace => if trace.isBroken regex.groups then .error .span else .ok true

end Regex

end DesktopPolicy
