-- Loaded values: what a document of role definitions or a request body is made of. Maps keep the
-- order of their entries. Two keys are the same key when they are equal as values, so that 1, 1.0
-- and true are one key.
import DesktopPolicy.Calendar
import DesktopPolicy.Decimal.Layout
import DesktopPolicy.Text.Quoted

namespace DesktopPolicy

inductive Value where
  | null
  | bool (b : Bool)
  | int (n : Int)
  | float (x : Float)
  | text (s : String)
  | list (items : List Value)
  | map (entries : List (Value × Value))
  /-- A key and a value, as an ordered map holds them. -/
  | pair (left right : Value)
  /-- The items stand in the order in which they are gone through. -/
  | set (items : List Value)
  | bytes (content : List UInt8)
  | date (d : Date)
  | moment (m : Moment)
  deriving Repr, Inhabited

namespace Value

/-! ## Kinds -/

def kind : Value → String
  | null => "NoneType"
  | bool _ => "bool"
  | int _ => "int"
  | float _ => "float"
  | text _ => "str"
  | list _ => "list"
  | map _ => "dict"
  | pair _ _ => "tuple"
  | set _ => "set"
  | bytes _ => "bytes"
  | date _ => "date"
  | moment _ => "datetime"

/-- A value that says something: not null, false, zero or empty. -/
def isFilled : Value → Bool
  | null => false
  | bool b => b
  | int n => n != 0
  | float x => x != 0.0
  | text s => s != ""
  | list items => !items.isEmpty
  | map entries => !entries.isEmpty
  | set items => !items.isEmpty
  | bytes content => !content.isEmpty
  | pair _ _ | date _ | moment _ => true

def isNull : Value → Bool
  | null => true
  | _ => false

/-! ## Text -/

/-- Floats have a point from one ten-thousandth up to ten to the sixteenth, and are scaled beyond. -/
def floatLayout : Decimal.Layout := ⟨-4, 16, 'e', 2, "inf", "nan"⟩

mutual

/-- The value as it stands inside a collection. -/
def shown : Value → String
  | null => "None"
  | bool b => if b then "True" else "False"
  | int n => toString n
  | float x => floatLayout.float x
  | text s => Text.quoted s
  | list items => "[" ++ ", ".intercalate (shownItems items) ++ "]"
  | map entries => "\x7b" ++ ", ".intercalate (shownEntries entries) ++ "\x7d"
  | pair left right => "(" ++ shown left ++ ", " ++ shown right ++ ")"
  | set [] => "set()"
  | set (item :: items) => "\x7b" ++ ", ".intercalate (shown item :: shownItems items) ++ "\x7d"
  | bytes content => Text.quotedBytes content
  | date d => d.shown
  | moment m => m.shown

def shownItems : List Value → List String
  | [] => []
  | item :: items => shown item :: shownItems items

def shownEntries : List (Value × Value) → List String
  | [] => []
  | (key, value) :: entries => (shown key ++ ": " ++ shown value) :: shownEntries entries

end

/-- The value as text. A text is its own text, without quotes. -/
def toText : Value → String
  | text s => s
  | date d => d.text
  | moment m => m.text
  | v => v.shown

/-! ## Keys -/

/-- The whole number that a truth value or a number is equal to, if it is equal to one. -/
def whole? : Value → Option Int
  | bool b => some (if b then 1 else 0)
  | int n => some n
  | float x => (Decimal.Dyadic.ofFloat x).toInt?
  | _ => none

/-- Equal scalars. Numbers are compared across their kinds; what is not a number is one key. -/
def sameScalar (a b : Value) : Bool :=
  match a.whole?, b.whole? with
  | some m, some n => m == n
  | none, none =>
    match a, b with
    | null, null => true
    | float x, float y => x == y || (x.isNaN && y.isNaN)
    | text s, text t => s == t
    | bytes p, bytes q => p == q
    | date d, date e => d == e
    | moment m, moment n => m.same n
    | _, _ => false
  | _, _ => false

/-- Equal values that can be keys. -/
def sameKey : Value → Value → Bool
  | pair a b, pair c d => sameKey a c && sameKey b d
  | a, b => sameScalar a b

end Value

/-! ## Maps -/

def lookup (entries : List (Value × Value)) (key : Value) : Option Value :=
  (entries.find? fun entry => entry.1.sameKey key).map (·.2)

/-- The entries with a value for a key: in the place of the key if it is there, or at the end. -/
def put (entries : List (Value × Value)) (key value : Value) : List (Value × Value) :=
  match entries with
  | [] => [(key, value)]
  | (k, v) :: rest => if k.sameKey key then (k, value) :: rest else (k, v) :: put rest key value

/-- The value of a named field. A field that is not there is null. -/
def field (entries : List (Value × Value)) (name : String) : Value :=
  (lookup entries (.text name)).getD .null

end DesktopPolicy
