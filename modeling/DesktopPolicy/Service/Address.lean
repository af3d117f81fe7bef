-- Addresses: paths in which some characters are written as percent signs and digits, and queries.
import DesktopPolicy.Decimal.Numeral
import DesktopPolicy.Text.Quoted
import DesktopPolicy.Text.Utf8

namespace DesktopPolicy

/-- What a request asks for: a path, and a query that may be empty. -/
structure Address where
  path : String
  query : String
  deriving DecidableEq, Repr

namespace Address

/-! ## Reading -/

/-- The characters of a path. `held` are the bytes read since the last character beyond ASCII, latest
first; they are taken together. -/
def decodeFrom (held : List UInt8) : List Char → List Char
  | [] => Text.decodeUtf8 held.reverse
  | '%' :: a :: b :: rest =>
    if Decimal.digitValue a < 16 && Decimal.digitValue b < 16 then
      decodeFrom (UInt8.ofNat (Decimal.digitsNumber 16 [a, b]) :: held) rest
    else decodeFrom (37 :: held) (a :: b :: rest)
  | c :: rest =>
    if c.toNat < 128 then decodeFrom (UInt8.ofNat c.toNat :: held) rest
    else Text.decodeUtf8 held.reverse ++ c :: decodeFrom [] rest

/-- The address in a request: what stands before the first question mark, and what stands behind. -/
def ofText (text : String) : Address :=
  let (path, rest) := text.toList.span (· != '?')
  ⟨String.ofList (decodeFrom [] path), String.ofList (rest.drop 1)⟩

/-! ## Writing -/

/-- A character that stands for itself in an address. -/
def isPlain (c : Char) : Bool :=
  ('a' ≤ c && c ≤ 'z') || ('A' ≤ c && c ≤ 'Z') || ('0' ≤ c && c ≤ '9') ||
    "_.-~:/%#?=@[]!$&'()*+,;".toList.contains c

def encodedByte (b : UInt8) : List Char := '%' :: (Text.hexDigits 2 b.toNat).map Char.toUpper

def encoded (text : String) : String :=
  String.ofList (text.toList.flatMap fun c =>
    if isPlain c then [c] else c.toString.toUTF8.toList.flatMap encodedByte)

def located (host : String) (address : Address) : String :=
  encoded ("http://" ++ host ++ address.path ++
    (if address.query.isEmpty then "" else "?" ++ address.query))

def withoutSlashes (address : Address) : Address :=
  { address with
    path := String.ofList ((address.path.toList.reverse.dropWhile (· == '/')).reverse) }

end Address

end DesktopPolicy
