-- Regular expressions as steps that are taken over a text. Flags are settled here: no step depends
-- on them any more.
import DesktopPolicy.Pattern.Charset
import DesktopPolicy.Pattern.Reader

namespace DesktopPolicy.Pattern

inductive Place where
  | textStart
  | lineStart
  | textEnd
  /-- The end of the text, or the place before a newline at its end. -/
  | lastLineEnd
  | lineEnd
  | boundary (unicode : Bool)
  | nonBoundary (unicode : Bool)
  deriving DecidableEq, Repr

inductive Step where
  | mark (index : Nat)
  | test (test : Test)
  | anchor (place : Place)
  | reference (group : Nat) (fold : Fold)
  | choice (options : List (List Step))
  | repeatTest (greed : Greed) (least most : Nat) (test : Test)
  | repeatSteps (greed : Greed) (least most : Nat) (body : List Step)
  /-- Looks ahead from a place some characters back. -/
  | look (back : Nat) (negated : Bool) (body : List Step)
  | atomic (body : List Step)
  | conditional (group : Nat) (yes no : List Step)
  | never
  deriving Repr

/-! ## Flags settled -/

def Flags.fold (flags : Flags) : Fold :=
  if !flags.ignoreCase then .exact else if flags.unicode then .unicode else .ascii

def literalTest (flags : Flags) (negated : Bool) (code : Nat) : Test :=
  let fold := flags.fold
  if !fold.isCased code then .literal .exact negated code
  else
    let lower := fold.lower code
    if fold == .unicode && !(Text.kinOf lower).isEmpty then
      .charset fold ⟨negated, [.one lower], flags.unicode⟩
    else .literal fold negated lower

def charsetTest (flags : Flags) (negated : Bool) (items : List SetItem) : Test :=
  let set : Charset := ⟨negated, items, flags.unicode⟩
  .charset (if set.isCased flags.fold then flags.fold else .exact) set

def placeOf (flags : Flags) : Anchor → Place
  | .lineStart => if flags.multiline then .lineStart else .textStart
  | .textStart => .textStart
  | .lineEnd => if flags.multiline then .lineEnd else .lastLineEnd
  | .textEnd => .textEnd
  | .boundary => .boundary flags.unicode
  | .nonBoundary => .nonBoundary flags.unicode

/-! ## Steps of a tree -/

mutual

/-- The part is a single character, or a group around one. -/
def Node.isUnit : Node → Bool
  | .literal _ | .notLiteral _ | .anyChar | .charset _ _ => true
  | .group none _ _ body => isUnit body
  | _ => false

def isUnit : List Node → Bool
  | [node] => node.isUnit
  | _ => false

end

/-- The name under which a repetition is reported. -/
def Greed.operator : Greed → String
  | greedy => "MAX_REPEAT"
  | lazy => "MIN_REPEAT"
  | possessive => "POSSESSIVE_REPEAT"

/-- A fault that has no place in the pattern. -/
def placeless {α : Type} (cause : Cause) : Except Fault α := .error (.malformed ⟨cause, none⟩)

/-- How far to go back before a look-around. A look-behind has to have one width. -/
def lookBack (behind : Bool) (body : List Node) : Except Fault Nat :=
  let width := widthOf body
  if !behind then .ok 0
  else if width.least != width.most then placeless .unfixedLookbehind
  else if 1 <<< 31 ≤ width.least then .error (.refused .width)
  else .ok width.least

/-- A repetition of steps. That of a single character goes by its test. -/
def repetition (unit : Bool) (greed : Greed) (least most : Nat) (body : List Step) : Step :=
  match unit, body with
  | true, [.test test] => .repeatTest greed least most test
  | _, body => .repeatSteps greed least most body

mutual

def Node.steps (flags : Flags) : Node → Except Fault (List Step)
  | .literal code => .ok [.test (literalTest flags false code)]
  | .notLiteral code => .ok [.test (literalTest flags true code)]
  | .anyChar => .ok [.test (if flags.dotAll then .anyChar else .anyButNewline)]
  | .charset negated items => .ok [.test (charsetTest flags negated items)]
  | .anchor anchor => .ok [.anchor (placeOf flags anchor)]
  | .reference group _ => .ok [.reference group flags.fold]
  | .never => .ok [.never]
  | .group number on off body => do
    let steps ← stepsOf (flags.inGroup on off) body
    match number with
    | none => pure steps
    | some number => pure (.mark (2 * (number - 1)) :: steps ++ [.mark (2 * (number - 1) + 1)])
  | .atomic body => return [.atomic (← stepsOf flags body)]
  | .look behind negated body => do
    let back ← lookBack behind body
    return [.look back negated (← stepsOf flags body)]
  | .choice options => return [.choice (← stepsOfEach flags options)]
  | .repeated greed least most body =>
    if flags.template then placeless (.templateOperator greed.operator)
    else do
      let steps ← stepsOf flags body
      pure [repetition (isUnit body) greed least most steps]
  | .conditional group yes no => do
    let yes ← stepsOf flags yes
    let no ← stepsOf flags no
    pure [.conditional group yes no]

def stepsOf (flags : Flags) : List Node → Except Fault (List Step)
  | [] => .ok []
  | node :: rest => do
    let steps ← node.steps flags
    return steps ++ (← stepsOf flags rest)

def stepsOfEach (flags : Flags) : List (List Node) → Except Fault (List (List Step))
  | [] => .ok []
  | option :: rest => do
    let steps ← stepsOf flags option
    return steps :: (← stepsOfEach flags rest)

end

end DesktopPolicy.Pattern
