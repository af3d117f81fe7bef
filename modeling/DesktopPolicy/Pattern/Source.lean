-- The text of a regular expression while it is read, one token ahead. A token is one character, or
-- a backslash with the character behind it. What is known about groups so far goes along with it.
import DesktopPolicy.Pattern.Fault
import DesktopPolicy.Pattern.Node

namespace DesktopPolicy.Pattern

/-- A character, or a backslash and a character. -/
abbrev Token := List Char

/-- How far a regular expression has been read, and what has been learned from it. -/
structure Source where
  chars : Array Char
  index : Nat
  next : Option Token
  flags : Flags := {}
  names : List (String × Nat) := []
  /-- The widths of the groups, as far as they are closed. The whole expression is group zero. -/
  widths : Array (Option Width) := #[none]
  /-- The number of groups when the outermost look-behind started. -/
  lookbehind : Option Nat := none
  /-- Groups that conditions ask for by number, and the places where they do. -/
  conditions : List (Nat × Nat) := []

namespace Source

def place (source : Source) : Nat := source.index - (source.next.getD []).length

def advance (source : Source) : Except Fault Source :=
  match source.chars[source.index]? with
  | none => .ok { source with next := none }
  | some '\\' =>
    match source.chars[source.index + 1]? with
    | none => .error (.malformed ⟨.trailingBackslash, some (source.chars.size - 1)⟩)
    | some c => .ok { source with index := source.index + 2, next := some ['\\', c] }
  | some c => .ok { source with index := source.index + 1, next := some [c] }

def start (pattern : List Char) : Except Fault Source :=
  advance { chars := pattern.toArray, index := 0, next := none }

end Source

/-- Reading goes on from a source to the next, or stops at a fault. -/
abbrev Reading := StateT Source (Except Fault)

/-- Stops so many characters before the token in hand. -/
def complain {α : Type} (cause : Cause) (back : Nat := 0) : Reading α := fun source =>
  .error (.malformed ⟨cause, some (source.place - back)⟩)

def refuse {α : Type} (refusal : Refusal) : Reading α := fun _ => .error (.refused refusal)

def here : Reading Nat := fun source => .ok (source.place, source)

def peek : Reading (Option Token) := fun source => .ok (source.next, source)

def take : Reading (Option Token) := fun source =>
  source.advance.map fun after => (source.next, after)

/-- Takes the token in hand if it is the given character. -/
def accept (c : Char) : Reading Bool := fun source =>
  if source.next == some [c] then source.advance.map fun after => (true, after)
  else .ok (false, source)

def goTo (place : Nat) : Reading Unit := fun source =>
  (Source.advance { source with index := place, next := none }).map fun after => ((), after)

/-- Takes up to `count` characters of a kind. -/
def takeSome (kind : Char → Bool) : Nat → Reading (List Char)
  | 0 => pure []
  | count + 1 => do
    match ← peek with
    | some [c] =>
      if kind c then
        let _ ← take
        let rest ← takeSome kind count
        pure (c :: rest)
      else pure []
    | _ => pure []

def takeUntilFrom (terminator : Char) (what : String) (done : List Char) : Nat → Reading (List Char)
  | 0 => complain (.unterminatedName terminator) done.length
  | turns + 1 => do
    match ← take with
    | none =>
      if done.isEmpty then complain (.missing what)
      else complain (.unterminatedName terminator) done.length
    | some token =>
      if token == [terminator] then
        if done.isEmpty then complain (.missing what) 1 else pure done
      else takeUntilFrom terminator what (done ++ token) turns

/-- Takes a name up to its terminator. There has to be something in it. -/
def takeUntil (terminator : Char) (what : String) : Reading (List Char) := do
  let source ← get
  takeUntilFrom terminator what [] (source.chars.size + 1)

/-! ## Groups -/

def groupCount : Reading Nat := return (← get).widths.size

def groupNamed (name : String) : Reading (Option Nat) := return (← get).names.lookup name

def closedWidth (group : Nat) : Reading (Option Width) := return ((← get).widths[group]?).join

/-- Opens the next group. No two groups have one name. -/
def openGroup (name : Option (List Char)) : Reading Nat := do
  let number ← groupCount
  match name with
  | none => modify fun source => { source with widths := source.widths.push none }
  | some chars =>
    let name := String.ofList chars
    match ← groupNamed name with
    | some old => complain (.redefinedGroup name number old) (chars.length + 1)
    | none =>
      modify fun source =>
        { source with
          widths := source.widths.push none
          names := (name, number) :: source.names }
  pure number

/-- Closes a group over its body. -/
def closeGroup (number : Nat) (body : List Node) : Reading Unit :=
  modify fun source =>
    { source with widths := source.widths.setIfInBounds number (some (widthOf body)) }

/-- Inside a look-behind only groups that were closed before it can be asked for. -/
def checkLookbehind (group : Nat) : Reading Unit := do
  match (← get).lookbehind with
  | none => pure ()
  | some count =>
    if (← closedWidth group).isNone then complain .openGroup
    else if count ≤ group then complain .sameLookbehind
    else pure ()

end DesktopPolicy.Pattern
