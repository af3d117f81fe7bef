-- What can be wrong with a document.
import DesktopPolicy.Calendar
import DesktopPolicy.Decimal.Numeral

namespace DesktopPolicy.Yaml

/-- Why a text is no document, or a document has no value. -/
inductive Fault where
  | unprintable (c : Char)
  | malformed
  /-- An escape for a code point beyond the last. -/
  | codePoint (n : Nat)
  /-- An escape for half of a pair of surrogates, which no text holds here. -/
  | loneHalf (n : Nat)
  | anchor (name : String)
  | unknownTag
  /-- A node that is not of the kind that its tag asks for. -/
  | unfit
  | key
  | truth
  | emptyNumber
  | numeral (fault : Decimal.NumeralFault)
  /-- A point in time in none of its forms. -/
  | time
  | timeMap
  | calendar (fault : CalendarFault)
  deriving DecidableEq, Repr

def Fault.message : Fault → String
  | unprintable _ => "special characters are not allowed"
  | malformed => "the text does not have the form of a document"
  | codePoint n =>
    if 0x7FFFFFFF < n then "Python int too large to convert to C int"
    else "chr() arg not in range(0x110000)"
  | loneHalf _ => "half of a pair of surrogates stands alone"
  | anchor name => "the name " ++ name ++ " stands for no node, or for two"
  | unknownTag => "the tag stands for no kind of value"
  | unfit => "the node is not of the kind that its tag asks for"
  | key => "found unhashable key"
  | truth => "the text is no truth value"
  | emptyNumber => "string index out of range"
  | numeral fault => fault.message
  | time => "the text is no point in time"
  | timeMap => "expected string or bytes-like object, got 'list'"
  | calendar fault => fault.message

end DesktopPolicy.Yaml
