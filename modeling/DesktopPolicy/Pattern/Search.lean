-- Searching a text for a regular expression. A step is taken from a position towards a goal, the
-- rest of the way; it answers whether the goal was reached. What is known on the way is handed on
-- even when a way ends, since a later way may start from it: the places of the groups, and the
-- cursor, the last position that was written down.
import DesktopPolicy.Pattern.Step

namespace DesktopPolicy.Pattern

/-- What is known on the way. -/
structure Trace where
  cursor : Nat
  marks : Array (Option Nat)
  /-- How many of the marks count. -/
  top : Nat

namespace Trace

def start (groups position : Nat) : Trace := ⟨position, Array.replicate (2 * groups) none, 0⟩

def moved (trace : Trace) (position : Nat) : Trace := { trace with cursor := position }

/-- Marks that start to count and were not noted are unknown. -/
def forget (marks : Array (Option Nat)) (top : Nat) : Nat → Array (Option Nat)
  | 0 => marks
  | count + 1 => forget (marks.setIfInBounds top none) (top + 1) count

def mark (trace : Trace) (index position : Nat) : Trace :=
  let marks := forget trace.marks trace.top (index - trace.top)
  { trace with
    marks := marks.setIfInBounds index (some position)
    top := max trace.top (index + 1) }

/-- Goes back to the marks that counted before. Their places are only put back inside of
repetitions, or where `all` is set. -/
def restore (trace saved : Trace) (all : Bool) : Trace :=
  { trace with
    top := saved.top
    marks := if all then saved.marks else trace.marks }

def placeOf? (trace : Trace) (index : Nat) : Option Nat :=
  if index < trace.top then (trace.marks[index]?).join else none

/-- Where a group that has matched starts and ends. -/
def spanOf? (trace : Trace) (group : Nat) : Option (Nat × Nat) := do
  let first ← trace.placeOf? (2 * (group - 1))
  let last ← trace.placeOf? (2 * (group - 1) + 1)
  if last < first then none else some (first, last)

/-- Some group ends before it starts. -/
def isBroken (trace : Trace) (groups : Nat) : Bool :=
  (List.range groups).any fun i =>
    match trace.placeOf? (2 * i), trace.placeOf? (2 * i + 1) with
    | some first, some last => last < first
    | _, _ => false

end Trace

variable [Dialect]

/-- The rest of the way from a position: whether it can be gone, and what is known after it. -/
abbrev Goal := Nat → Trace → Bool × Trace

def finish : Goal := fun position trace => (true, trace.moved position)

/-! ## Places -/

def wordAt (text : Array Char) (unicode : Bool) (position : Nat) : Bool :=
  match text[position]? with
  | some c => isWordChar unicode c.toNat
  | none => false

def isBoundary (text : Array Char) (unicode : Bool) (position : Nat) : Bool :=
  let before := position != 0 && wordAt text unicode (position - 1)
  before != wordAt text unicode position

/-- The position is such a place. An empty text has neither boundaries nor other places. -/
def Place.holds (text : Array Char) (position : Nat) : Place → Bool
  | textStart => position == 0
  | lineStart => position == 0 || text[position - 1]? == some '\n'
  | textEnd => position == text.size
  | lastLineEnd =>
    position == text.size || (position + 1 == text.size && text[position]? == some '\n')
  | lineEnd => position == text.size || text[position]? == some '\n'
  | boundary unicode => text.size != 0 && isBoundary text unicode position
  | nonBoundary unicode => text.size != 0 && !isBoundary text unicode position

/-! ## Single characters -/

def passesAt (text : Array Char) (test : Test) (position : Nat) : Bool :=
  match text[position]? with
  | some c => test.passes c
  | none => false

/-- How many characters from a position on pass the test, up to `most`. -/
def countFrom (text : Array Char) (test : Test) (position : Nat) : Nat → Nat
  | 0 => 0
  | most + 1 => if passesAt text test position then countFrom text test (position + 1) most + 1 else 0

/-- Counts characters that pass; a test that goes by itself moves the cursor along. -/
def scan (text : Array Char) (test : Test) (most position : Nat) (trace : Trace) : Nat × Trace :=
  let count := countFrom text test position (min most (text.size - position))
  (count, if test.isStepwise then trace.moved (position + count) else trace)

/-- The text at `position` is the same as that from `first` to `last`. Gives the place behind it. -/
def repeats? (text : Array Char) (fold : Fold) (first last position : Nat) : Option Nat :=
  let same := (List.range (last - first)).all fun i =>
    match text[first + i]?, text[position + i]? with
    | some a, some b => fold.lower a.toNat == fold.lower b.toNat
    | _, _ => false
  if same then some (position + (last - first)) else none

/-- The character that a row of steps starts with, if it starts with a plain one. -/
def leading? : List Step → Option Nat
  | .test (.literal .exact false code) :: _ => some code
  | _ => none

/-- An option that starts with a plain test is not tried where the test fails. -/
def mayStart (text : Array Char) (position : Nat) : List Step → Bool
  | .test test :: _ => !test.isPlain || passesAt text test position
  | _ => true

/-! ## Repetitions of a character -/

/-- Tries the counts from `count` down to `least`; where the goal starts with a plain character,
only those that this character follows. -/
def descend (text : Array Char) (lead : Option Nat) (all : Bool) (saved : Trace) (goal : Goal)
    (position least : Nat) : Nat → Trace → Bool × Trace
  | 0, trace => tryCount 0 trace
  | count + 1, trace =>
    if count + 1 < least then (false, trace)
    else
      match tryCount (count + 1) trace with
      | (true, after) => (true, after)
      | (false, after) => descend text lead all saved goal position least count after
where
  tryCount (count : Nat) (trace : Trace) : Bool × Trace :=
    let place := position + count
    let follows := match lead with
      | none => true
      | some code => (text[place]?.map Char.toNat) == some code
    if count < least || !follows then (false, trace)
    else
      match goal place (trace.moved place) with
      | (true, after) => (true, after)
      | (false, after) => (false, after.restore saved all)

/-- Tries the goal, then one character more, and so on up to `most` characters. -/
def ascend (text : Array Char) (test : Test) (all : Bool) (saved : Trace) (goal : Goal)
    (most : Nat) : Nat → Nat → Nat → Trace → Bool × Trace
  | 0, _, _, trace => (false, trace)
  | turns + 1, count, position, trace =>
    if most < count then (false, trace)
    else
      match goal position (trace.moved position) with
      | (true, after) => (true, after)
      | (false, after) =>
        let (one, after) := scan text test 1 position ((after.restore saved all).moved position)
        if one == 0 then (false, after)
        else ascend text test all saved goal most turns (count + 1) (position + 1) after

def repeatTest (text : Array Char) (all : Bool) (lead : Option Nat) (greed : Greed)
    (least most : Nat) (test : Test) (goal : Goal) : Goal := fun position trace =>
  if text.size - position < least then (false, trace)
  else
    let trace := trace.moved position
    match greed with
    | .greedy =>
      let (count, trace) := scan text test most position trace
      if count < least then (false, trace)
      else descend text lead all trace goal position least count trace
    | .lazy =>
      let (count, trace) := if least == 0 then (0, trace) else scan text test least position trace
      if count < least then (false, trace)
      else
        ascend text test all trace goal most (text.size + 2 - position) count (position + count) trace
    | .possessive =>
      let (count, trace) := scan text test most position trace
      if count < least then (false, trace)
      else goal (position + count) (trace.moved (position + count))

/-! ## Repetitions of steps -/

/-- One more turn is allowed after `count` turns. -/
def mayRepeat (count most : Nat) : Bool := count < most || most == unbounded

/-- As many turns of the body as there can be, then the goal; fewer turns when that fails. A turn
that stays where the one before it started is the last. -/
def greedyTurns (body : Goal → Goal) (goal : Goal) (least most : Nat) :
    Nat → Nat → Option Nat → Goal
  | 0, _, _ => fun _ trace => (false, trace)
  | turns + 1, count, last => fun position trace =>
    let trace := trace.moved position
    if count < least then
      match body (greedyTurns body goal least most turns (count + 1) last) position trace with
      | (true, after) => (true, after)
      | (false, after) => (false, after.moved position)
    else
      let leave (trace : Trace) : Bool × Trace :=
        match goal position trace with
        | (true, after) => (true, after)
        | (false, after) => (false, after.moved position)
      if mayRepeat count most && last != some position then
        let further := greedyTurns body goal least most turns (count + 1) (some position)
        match body further position trace with
        | (true, after) => (true, after)
        | (false, after) => leave ((after.restore trace true).moved position)
      else leave trace

/-- As few turns of the body as there can be before the goal. -/
def lazyTurns (body : Goal → Goal) (goal : Goal) (all : Bool) (least most : Nat) :
    Nat → Nat → Option Nat → Goal
  | 0, _, _ => fun _ trace => (false, trace)
  | turns + 1, count, last => fun position trace =>
    let trace := trace.moved position
    let again (last : Option Nat) (trace : Trace) : Bool × Trace :=
      match body (lazyTurns body goal all least most turns (count + 1) last) position trace with
      | (true, after) => (true, after)
      | (false, after) => (false, after.moved position)
    if count < least then again last trace
    else
      match goal position trace with
      | (true, after) => (true, after)
      | (false, after) =>
        let after := (after.restore trace all).moved position
        if mayRepeat count most && last != some position then again (some position) after
        else (false, after)

/-- The turns of a body that has to match `least` times, from the cursor on. -/
def firmTurns (body : Goal → Goal) : Nat → Trace → Bool × Trace
  | 0, trace => (true, trace)
  | least + 1, trace =>
    match body finish trace.cursor trace with
    | (true, after) => firmTurns body least after
    | (false, after) => (false, after)

/-- Further turns of a body, as many as there can be, from the cursor on. -/
def freeTurns (body : Goal → Goal) (most : Nat) : Nat → Nat → Option Nat → Trace → Trace
  | 0, _, _, trace => trace
  | turns + 1, count, last, trace =>
    if mayRepeat count most && last != some trace.cursor then
      match body finish trace.cursor trace with
      | (true, after) => freeTurns body most turns (count + 1) (some trace.cursor) after
      | (false, after) =>
        let after := after.restore trace true
        if Dialect.takesBack then after.moved trace.cursor else after
    else trace

def repeatSteps (size : Nat) (all : Bool) (greed : Greed) (least most : Nat)
    (body : Goal → Goal) (goal : Goal) : Goal := fun position trace =>
  let turns := least + (size - position) + 2
  match greed with
  | .greedy => greedyTurns body goal least most turns 0 none position (trace.moved position)
  | .lazy => lazyTurns body goal all least most turns 0 none position (trace.moved position)
  | .possessive =>
    match firmTurns body least (trace.moved position) with
    | (false, after) => (false, after.moved position)
    | (true, after) =>
      let after := freeTurns body most turns least none after
      goal after.cursor after

/-! ## Steps -/

/-- A look from some characters back. The way goes on from where it was. -/
def lookFrom (back : Nat) (negated all : Bool) (body : Goal) (goal : Goal) : Goal :=
  fun position trace =>
    if position < back then if negated then goal position trace else (false, trace)
    else
      match body (position - back) (trace.moved (position - back)) with
      | (found, after) =>
        if negated then
          if found then (false, after) else goal position (after.restore trace all)
        else if found then goal position after
        else (false, after)

/-- A body that is not gone through again when the goal fails. -/
def goThrough (body : Goal) (goal : Goal) : Goal := fun position trace =>
  match body position (trace.moved position) with
  | (true, after) => goal after.cursor after
  | (false, after) => (false, after.moved position)

mutual

/-- Takes a step towards a goal. `all` is set inside of repetitions; `lead` is the plain character
that the goal starts with, if it does. -/
def Step.run (text : Array Char) (all : Bool) (lead : Option Nat) : Step → Goal → Goal
  | .mark index, goal => fun position trace => goal position (trace.mark index position)
  | .test test, goal => fun position trace =>
    if passesAt text test position then goal (position + 1) trace else (false, trace)
  | .anchor place, goal => fun position trace =>
    if place.holds text position then goal position trace else (false, trace)
  | .reference group fold, goal => fun position trace =>
    match trace.spanOf? group with
    | none => (false, trace)
    | some (first, last) =>
      match repeats? text fold first last position with
      | none => (false, trace)
      | some behind => goal behind trace
  | .choice options, goal => fun position trace =>
    runOptions text all trace options goal position trace
  | .repeatTest greed least most test, goal =>
    repeatTest text all lead greed least most test goal
  | .repeatSteps greed least most body, goal =>
    let inner := match greed with
      | .possessive => all
      | _ => true
    repeatSteps text.size all greed least most (runSteps text inner body) goal
  | .look back negated body, goal => lookFrom back negated all (runSteps text all body finish) goal
  | .atomic body, goal => goThrough (runSteps text all body finish) goal
  | .conditional group yes no, goal => fun position trace =>
    if (trace.spanOf? group).isSome then runSteps text all yes goal position trace
    else runSteps text all no goal position trace
  | .never, _ => fun _ trace => (false, trace)

/-- Takes the steps one after the other towards a goal. -/
def runSteps (text : Array Char) (all : Bool) : List Step → Goal → Goal
  | [], goal => goal
  | step :: rest, goal => step.run text all (leading? rest) (runSteps text all rest goal)

/-- Tries the options in their order, each from what was known before the first. -/
def runOptions (text : Array Char) (all : Bool) (saved : Trace) : List (List Step) → Goal → Goal
  | [], _ => fun _ trace => (false, trace)
  | option :: rest, goal => fun position trace =>
    if mayStart text position option then
      match runSteps text all option goal position (trace.moved position) with
      | (true, after) => (true, after)
      | (false, after) => runOptions text all saved rest goal position (after.restore saved all)
    else runOptions text all saved rest goal position trace

end

end DesktopPolicy.Pattern
