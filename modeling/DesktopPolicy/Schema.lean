-- Checking values against the fields of a record. All fields are checked, and every issue is told
-- with the way to the place where it is.
import DesktopPolicy.Text.Utf8
import DesktopPolicy.Value

namespace DesktopPolicy.Schema

inductive IssueKind where
  | missing
  | notText
  | tooShort
  | notList
  | notObject
  | notMap
  | notBool
  /-- A text or a number that is no truth value. -/
  | unreadBool
  | notUnicode
  | notJson
  deriving DecidableEq, Repr

def IssueKind.name : IssueKind → String
  | missing => "missing"
  | notText => "string_type"
  | tooShort => "string_too_short"
  | notList => "list_type"
  | notObject => "model_attributes_type"
  | notMap => "model_type"
  | notBool => "bool_type"
  | unreadBool => "bool_parsing"
  | notUnicode => "string_unicode"
  | notJson => "json_invalid"

/-- A step on the way into a value. -/
inductive PathPart where
  | field (name : String)
  | index (place : Nat)
  deriving DecidableEq, Repr

structure Issue where
  kind : IssueKind
  path : List PathPart
  deriving DecidableEq, Repr

/-- The issue seen from further out. -/
def Issue.within (part : PathPart) (issue : Issue) : Issue := { issue with path := part :: issue.path }

/-- What a check found, or the checked thing. -/
abbrev Checked (α : Type) := Except (List Issue) α

/-- Fails with one issue. -/
def reject {α : Type} (kind : IssueKind) : Checked α := .error [⟨kind, []⟩]

/-- A check further in. -/
def within {α : Type} (part : PathPart) (checked : Checked α) : Checked α :=
  checked.mapError fun issues => issues.map (Issue.within part)

/-- Two checks, the issues of both told. -/
def both {α β : Type} (f : Checked (α → β)) (checked : Checked α) : Checked β :=
  match f, checked with
  | .ok f, .ok a => .ok (f a)
  | .error issues, .ok _ => .error issues
  | .ok _, .error issues => .error issues
  | .error issues, .error more => .error (issues ++ more)

/-! ## Values -/

/-- The text that a value is, or that its bytes are in UTF-8. -/
def spelled? : Value → Option String
  | .text s => some s
  | .bytes content => Text.ofUtf8? content
  | _ => none

def text (v : Value) : Checked String :=
  match spelled? v, v with
  | some s, _ => .ok s
  | none, .bytes _ => reject .notUnicode
  | none, _ => reject .notText

def filledText (v : Value) : Checked String :=
  (text v).bind fun s => if s.isEmpty then reject .tooShort else .ok s

def textOrNull : Value → Checked (Option String)
  | .null => .ok none
  | v => (text v).map some

/-- The words for truth values. -/
def truthWords : List (String × Bool) := [
  ("0", false), ("off", false), ("f", false), ("false", false), ("n", false), ("no", false),
  ("1", true), ("on", true), ("t", true), ("true", true), ("y", true), ("yes", true)]

/-- The truth value of a word in any case. -/
def truthWord? (s : String) : Option Bool :=
  truthWords.lookup (String.ofList (s.toList.map Char.toLower))

/-- The truth value of a word, if there is a word. -/
def truthOf (word : Option String) : Checked Bool :=
  match word.bind truthWord? with
  | some b => .ok b
  | none => reject .unreadBool

/-- A truth value, or a word or number for one. A number with a fraction, and one that is beyond the
range of floats, is none. -/
def truth : Value → Checked Bool
  | .bool b => .ok b
  | .text s => truthOf (some s)
  | .bytes content => truthOf (Text.ofUtf8? content)
  | .int n =>
    if n == 0 then .ok false
    else if n == 1 then .ok true
    else if (Decimal.nearestFloat n.natAbs 0).isInf then reject .notBool
    else reject .unreadBool
  | .float x =>
    match (Value.float x).whole? with
    | some 0 => .ok false
    | some 1 => .ok true
    | some _ => reject .unreadBool
    | none => reject .notBool
  | _ => reject .notBool

/-- The texts of a list, from a place on. -/
def textsFrom (place : Nat) : List Value → Checked (List String)
  | [] => .ok []
  | item :: rest =>
    both ((within (.index place) (text item)).map List.cons) (textsFrom (place + 1) rest)

/-- A list of texts. Pairs and sets are taken for lists of their items. -/
def texts : Value → Checked (List String)
  | .list items => textsFrom 0 items
  | .set items => textsFrom 0 items
  | .pair left right => textsFrom 0 [left, right]
  | _ => reject .notList

/-! ## Fields -/

abbrev Fields := List (Value × Value)

def required {α : Type} (fields : Fields) (name : String) (check : Value → Checked α) : Checked α :=
  within (.field name) (match lookup fields (.text name) with
    | none => reject .missing
    | some v => check v)

def optional {α : Type} (fields : Fields) (name : String) (absent : α)
    (check : Value → Checked α) : Checked α :=
  match lookup fields (.text name) with
  | none => .ok absent
  | some v => within (.field name) (check v)

end DesktopPolicy.Schema
