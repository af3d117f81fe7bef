-- Writing values as JSON text. Quotes, backslashes and control characters are escaped, and nothing
-- else. What JSON has no form for is written as its text.
import DesktopPolicy.Value

namespace DesktopPolicy.Json

def writtenChar (c : Char) : List Char :=
  if c == '"' || c == '\\' then ['\\', c]
  else if c.toNat < 32 then '\\' :: 'u' :: Text.hexDigits 4 c.toNat
  else [c]

def writtenString (s : String) : String :=
  String.ofList ('"' :: s.toList.flatMap writtenChar ++ ['"'])

/-- A float. JSON has no form for infinity and for what is not a number. -/
def writtenFloat (x : Float) : String :=
  match Decimal.Dyadic.ofFloat x with
  | .finite _ _ _ => Value.floatLayout.float x
  | _ => "null"

mutual

def write : Value → String
  | .null => "null"
  | .bool b => if b then "true" else "false"
  | .int n => toString n
  | .float x => writtenFloat x
  | .text s => writtenString s
  | .list items => "[" ++ ", ".intercalate (writeItems items) ++ "]"
  | .map entries => "\x7b" ++ ", ".intercalate (writeEntries entries) ++ "\x7d"
  | .pair left right => "[" ++ write left ++ ", " ++ write right ++ "]"
  | .set items => "[" ++ ", ".intercalate (writeItems items) ++ "]"
  | .bytes content => writtenString (Text.quotedBytes content)
  | .date d => writtenString d.text
  | .moment m => writtenString m.text

def writeItems : List Value → List String
  | [] => []
  | item :: items => write item :: writeItems items

def writeEntries : List (Value × Value) → List String
  | [] => []
  | (key, value) :: entries =>
    (writtenString key.toText ++ ": " ++ write value) :: writeEntries entries

end

end DesktopPolicy.Json
