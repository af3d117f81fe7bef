-- Escapes in regular expressions: characters by number, kinds of characters, places, and
-- references to groups.
import DesktopPolicy.Pattern.Source

namespace DesktopPolicy

/-- In what the dialects of regular expressions differ. -/
class Dialect where
  /-- The code point of the character of a name. -/
  codeOf? : String → Option Nat
  /-- A possessive turn that fails is taken back as a whole. Older dialects leave the cursor. -/
  takesBack : Bool

namespace Pattern

variable [Dialect]

/-! ## Digits -/

def isDigit (c : Char) : Bool := '0' ≤ c && c ≤ '9'

def isOctalDigit (c : Char) : Bool := '0' ≤ c && c ≤ '7'

def isAsciiLetter (c : Char) : Bool := ('a' ≤ c && c ≤ 'z') || ('A' ≤ c && c ≤ 'Z')

def isHexDigit (c : Char) : Bool :=
  isDigit c || ('a' ≤ c && c ≤ 'f') || ('A' ≤ c && c ≤ 'F')

def digitValue (c : Char) : Nat :=
  if isDigit c then c.toNat - 48 else if 'a' ≤ c then c.toNat - 87 else c.toNat - 55

def numeral (base : Nat) (digits : List Char) : Nat :=
  digits.foldl (fun n c => n * base + digitValue c) 0

/-! ## Characters by number -/

/-- The letters that stand for a control character behind a backslash, and the backslash itself. -/
def controlEscape? (c : Char) : Option Nat :=
  match c with
  | 'a' => some 7
  | 'b' => some 8
  | 'f' => some 12
  | 'n' => some 10
  | 'r' => some 13
  | 't' => some 9
  | 'v' => some 11
  | '\\' => some 92
  | _ => none

/-- A code of exactly `count` hexadecimal digits behind the letter. -/
def hexEscape (letter : Char) (count : Nat) : Reading Nat := do
  let digits ← takeSome isHexDigit count
  let whole := '\\' :: letter :: digits
  if digits.length != count then
    complain (.incompleteEscape (String.ofList whole)) whole.length
  else
    let code := numeral 16 digits
    if 0x7FFFFFFF < code then refuse .codePoint
    else if 0x10FFFF < code then complain (.badEscape (String.ofList whole)) whole.length
    else pure code

def namedEscape : Reading Nat := do
  if !(← accept '\x7b') then complain (.missing "\x7b")
  else
    let name := String.ofList (← takeUntil '\x7d' "character name")
    match Dialect.codeOf? name with
    | some code => pure code
    | none => complain (.unknownCharacter name) (name.length + 4)

/-- An octal code must not go beyond two digits' worth of bytes. -/
def octalCode (digits : List Char) : Reading Nat := do
  let code := numeral 8 digits
  if 0o377 < code then complain (.octalRange (String.ofList ('\\' :: digits))) (digits.length + 1)
  else pure code

/-- A backslash before any other character: the character itself, but no ASCII letter. -/
def otherEscape (c : Char) : Reading Nat :=
  if isAsciiLetter c then complain (.badEscape (String.ofList ['\\', c])) 2 else pure c.toNat

/-- The escapes that mean the same inside and outside of sets. -/
def codeEscape? (c : Char) : Option (Reading Nat) :=
  match c with
  | 'x' => some (hexEscape c 2)
  | 'u' => some (hexEscape c 4)
  | 'U' => some (hexEscape c 8)
  | 'N' => some namedEscape
  | _ => none

/-! ## Kinds and places -/

/-- The kind of character that a letter stands for. In upper case it is negated. -/
def categoryEscape? (c : Char) : Option SetItem :=
  match c with
  | 'd' => some (.category .digit false)
  | 'D' => some (.category .digit true)
  | 's' => some (.category .space false)
  | 'S' => some (.category .space true)
  | 'w' => some (.category .word false)
  | 'W' => some (.category .word true)
  | _ => none

def anchorEscape? (c : Char) : Option Anchor :=
  match c with
  | 'A' => some .textStart
  | 'b' => some .boundary
  | 'B' => some .nonBoundary
  | 'Z' => some .textEnd
  | _ => none

/-! ## Escapes in and outside of sets -/

/-- An escape inside a set, by the character behind the backslash. -/
def setEscape (c : Char) : Reading SetItem := do
  match controlEscape? c with
  | some code => pure (.one code)
  | none =>
    match categoryEscape? c with
    | some item => pure item
    | none =>
      match codeEscape? c with
      | some reading => return .one (← reading)
      | none =>
        if isOctalDigit c then
          let digits ← takeSome isOctalDigit 2
          return .one (← octalCode (c :: digits))
        else if isDigit c then complain (.badEscape (String.ofList ['\\', c])) 2
        else return .one (← otherEscape c)

/-- A reference to a group that was closed before. -/
def groupReference (digits : List Char) : Reading Node := do
  let group := numeral 10 digits
  if group < (← groupCount) then
    match ← closedWidth group with
    | none => complain .openGroup (digits.length + 1)
    | some width =>
      checkLookbehind group
      pure (.reference group width)
  else complain (.invalidReference group) digits.length

/-- A digit that is not zero: three octal digits make a character, all else is a reference. -/
def digitEscape (first : Char) : Reading Node := do
  match ← takeSome isDigit 1 with
  | [second] =>
    let third ← if isOctalDigit first && isOctalDigit second then takeSome isOctalDigit 1 else pure []
    if third.isEmpty then groupReference [first, second]
    else return .literal (← octalCode (first :: second :: third))
  | _ => groupReference [first]

/-- An escape outside of sets, by the character behind the backslash. -/
def escape (c : Char) : Reading Node := do
  match categoryEscape? c with
  | some item => pure (.charset false [item])
  | none =>
    match anchorEscape? c with
    | some place => pure (.anchor place)
    | none =>
      match controlEscape? c with
      | some code => pure (.literal code)
      | none =>
        match codeEscape? c with
        | some reading => return .literal (← reading)
        | none =>
          if c == '0' then
            let digits ← takeSome isOctalDigit 2
            pure (.literal (numeral 8 digits))
          else if isDigit c then digitEscape c
          else return .literal (← otherEscape c)

end Pattern

end DesktopPolicy
