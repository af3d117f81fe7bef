-- Regular expressions as trees.
import DesktopPolicy.Text.Casing

namespace DesktopPolicy.Pattern

/-! ## Flags -/

/-- The modes in which a part of a regular expression is read and matched. -/
structure Flags where
  ignoreCase : Bool := false
  multiline : Bool := false
  dotAll : Bool := false
  verbose : Bool := false
  ascii : Bool := false
  unicode : Bool := false
  template : Bool := false
  deriving DecidableEq, Repr

namespace Flags

def union (a b : Flags) : Flags :=
  { ignoreCase := a.ignoreCase || b.ignoreCase
    multiline := a.multiline || b.multiline
    dotAll := a.dotAll || b.dotAll
    verbose := a.verbose || b.verbose
    ascii := a.ascii || b.ascii
    unicode := a.unicode || b.unicode
    template := a.template || b.template }

def meet (a b : Flags) : Flags :=
  { ignoreCase := a.ignoreCase && b.ignoreCase
    multiline := a.multiline && b.multiline
    dotAll := a.dotAll && b.dotAll
    verbose := a.verbose && b.verbose
    ascii := a.ascii && b.ascii
    unicode := a.unicode && b.unicode
    template := a.template && b.template }

/-- The flags of the first that the second does not have. -/
def without (a b : Flags) : Flags :=
  { ignoreCase := a.ignoreCase && !b.ignoreCase
    multiline := a.multiline && !b.multiline
    dotAll := a.dotAll && !b.dotAll
    verbose := a.verbose && !b.verbose
    ascii := a.ascii && !b.ascii
    unicode := a.unicode && !b.unicode
    template := a.template && !b.template }

def isEmpty (a : Flags) : Bool := a == {}

/-- Of the kinds of characters, one is always in force. -/
def kinds : Flags := { ascii := true, unicode := true }

/-- The flags inside a group that turns some on and some off. -/
def inGroup (outer on off : Flags) : Flags :=
  let outer := if (on.meet kinds).isEmpty then outer else outer.without kinds
  (outer.union on).without off

def ofLetter? (c : Char) : Option Flags :=
  match c with
  | 'i' => some { ignoreCase := true }
  | 'm' => some { multiline := true }
  | 's' => some { dotAll := true }
  | 'x' => some { verbose := true }
  | 'a' => some { ascii := true }
  | 'u' => some { unicode := true }
  | 't' => some { template := true }
  | _ => none

end Flags

/-! ## Sets of characters -/

inductive Category where
  | digit
  | space
  | word
  deriving DecidableEq, Repr

inductive SetItem where
  | one (code : Nat)
  | range (first last : Nat)
  | category (kind : Category) (negated : Bool)
  deriving DecidableEq, Repr

/-! ## Trees -/

/-- A place between characters. -/
inductive Anchor where
  | lineStart
  | textStart
  | lineEnd
  | textEnd
  | boundary
  | nonBoundary
  deriving DecidableEq, Repr

/-- How a repetition tries its counts. -/
inductive Greed where
  | greedy
  | lazy
  /-- The most, and nothing else. -/
  | possessive
  deriving DecidableEq, Repr

/-- The fewest and the most characters that something matches. -/
structure Width where
  least : Nat
  most : Nat
  deriving DecidableEq, Repr

/-- A part of a regular expression. -/
inductive Node where
  | literal (code : Nat)
  | notLiteral (code : Nat)
  | anyChar
  | charset (negated : Bool) (items : List SetItem)
  | anchor (place : Anchor)
  /-- What a group matched, once more. The group has the given width. -/
  | reference (group : Nat) (width : Width)
  | never
  | group (number : Option Nat) (on off : Flags) (body : List Node)
  | atomic (body : List Node)
  | look (behind negated : Bool) (body : List Node)
  | choice (options : List (List Node))
  | repeated (greed : Greed) (least most : Nat) (body : List Node)
  /-- One branch if the group has matched, the other if it has not. -/
  | conditional (group : Nat) (yes no : List Node)
  deriving Repr

/-- The count of a repetition without an upper bound; it is also the widest width. -/
def unbounded : Nat := 4294967295

/-! ## Widths -/

/-- A width no wider than can be told. -/
def Width.capped (w : Width) : Width := ⟨min w.least (unbounded - 1), min w.most unbounded⟩

def Width.add (a b : Width) : Width := ⟨a.least + b.least, a.most + b.most⟩

/-- The width of the one or the other. -/
def Width.either (a b : Width) : Width := ⟨min a.least b.least, max a.most b.most⟩

mutual

def Node.width : Node → Width
  | .literal _ | .notLiteral _ | .anyChar | .charset _ _ => ⟨1, 1⟩
  | .anchor _ | .never | .look _ _ _ => ⟨0, 0⟩
  | .reference _ width => width
  | .group _ _ _ body => widthOf body
  | .atomic body => widthOf body
  | .choice options => widthOfAny options
  | .repeated _ least most body =>
    let w := widthOf body
    ⟨w.least * least, w.most * most⟩
  | .conditional _ yes no =>
    let w := widthOf yes
    match no with
    | [] => ⟨0, w.most⟩
    | other :: rest => w.either (widthOf (other :: rest))

def widthOf (nodes : List Node) : Width := (widthSum nodes).capped

def widthSum : List Node → Width
  | [] => ⟨0, 0⟩
  | node :: rest => node.width.add (widthSum rest)

def widthOfAny : List (List Node) → Width
  | [] => ⟨unbounded - 1, 0⟩
  | option :: rest => (widthOf option).either (widthOfAny rest)

end

/-! ## Parts compared -/

/-- Equal parts that hold no other parts. Parts with parts inside are never taken as equal. -/
def Node.sameSimple : Node → Node → Bool
  | .literal a, .literal b => a == b
  | .notLiteral a, .notLiteral b => a == b
  | .anyChar, .anyChar => true
  | .charset n a, .charset m b => n == m && a == b
  | .anchor a, .anchor b => a == b
  | .reference a _, .reference b _ => a == b
  | .never, .never => true
  | _, _ => false

end DesktopPolicy.Pattern
