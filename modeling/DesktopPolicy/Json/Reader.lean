-- Reading JSON text. Objects become maps in the order of their first keys, and of two values for
-- one key the later one counts. A number with neither fraction nor power of ten is a whole number.
-- A fault tells the place in the text where reading stopped.
import DesktopPolicy.Text.Utf8
import DesktopPolicy.Value

namespace DesktopPolicy.Json

inductive Fault where
  /-- The text goes wrong with so many characters left. -/
  | malformed (left : Nat)
  | tooLong
  deriving DecidableEq, Repr

/-! Reading a part of a text gives the part, and the characters behind it. -/

/-- Reading stops in front of these characters. -/
def stop {α : Type} (rest : List Char) : Except Fault α := .error (.malformed rest.length)

def isSpace (c : Char) : Bool := c == ' ' || c == '\t' || c == '\n' || c == '\r'

def skipSpace (cs : List Char) : List Char := cs.dropWhile isSpace

def isDigit (c : Char) : Bool := '0' ≤ c && c ≤ '9'

def digitsValue (cs : List Char) : Nat := cs.foldl (fun n c => n * 10 + (c.toNat - 48)) 0

/-! ## Numbers -/

def fraction : List Char → List Char × List Char
  | '.' :: d :: rest => if isDigit d then (d :: rest).span isDigit else ([], '.' :: d :: rest)
  | rest => ([], rest)

def signOf : List Char → Bool × List Char
  | '-' :: rest => (true, rest)
  | '+' :: rest => (false, rest)
  | rest => (false, rest)

/-- A power of ten, if a mark and a digit follow. -/
def power : List Char → Option Int × List Char
  | [] => (none, [])
  | c :: rest =>
    if c == 'e' || c == 'E' then
      let (negative, behind) := signOf rest
      let (digits, after) := behind.span isDigit
      if digits.isEmpty then (none, c :: rest)
      else
        let size : Int := digitsValue digits
        (some (if negative then -size else size), after)
    else (none, c :: rest)

/-- The most digits that a whole number may have. -/
def mostDigits : Nat := 4300

/-- The number with these digits before the point, read on from there. -/
def numberFrom (negative : Bool) (whole rest : List Char) : Except Fault (Value × List Char) :=
  let (behind, rest) := fraction rest
  let (scale, rest) := power rest
  if behind.isEmpty && scale.isNone then
    if mostDigits < whole.length then .error .tooLong
    else
      let size : Int := digitsValue whole
      .ok (.int (if negative then -size else size), rest)
  else
    let exponent : Int := scale.getD 0 - behind.length
    let size := Decimal.nearestFloat (digitsValue (whole ++ behind)) exponent
    .ok (.float (if negative then -size else size), rest)

def number (start : List Char) : Except Fault (Value × List Char) :=
  let (negative, cs) : Bool × List Char := match start with
    | '-' :: rest => (true, rest)
    | rest => (false, rest)
  match cs with
  | '0' :: rest => numberFrom negative ['0'] rest
  | c :: rest =>
    if isDigit c then
      let (digits, behind) := (c :: rest).span isDigit
      numberFrom negative digits behind
    else stop start
  | [] => stop start

/-! ## Strings -/

def hexValue? (c : Char) : Option Nat :=
  if isDigit c then some (c.toNat - 48)
  else if 'a' ≤ c && c ≤ 'f' then some (c.toNat - 87)
  else if 'A' ≤ c && c ≤ 'F' then some (c.toNat - 55)
  else none

/-- Four hexadecimal digits, with at least one character behind them. -/
def fourHex : List Char → Option (Nat × List Char)
  | a :: b :: c :: d :: e :: rest => do
    let n ← [a, b, c, d].foldlM (fun n digit => (hexValue? digit).map (n * 16 + ·)) 0
    pure (n, e :: rest)
  | _ => none

/-- The character that a single letter behind a backslash stands for. -/
def plainEscape? (c : Char) : Option Char :=
  if c == '"' || c == '\\' || c == '/' then some c
  else if c == 'b' then some '\x08'
  else if c == 'f' then some '\x0c'
  else if c == 'n' then some '\n'
  else if c == 'r' then some '\r'
  else if c == 't' then some '\t'
  else none

def isHighHalf (n : Nat) : Bool := 0xD800 ≤ n && n < 0xDC00

def isLowHalf (n : Nat) : Bool := 0xDC00 ≤ n && n < 0xE000

/-- The second half of a pair that stands for one character, if it follows. -/
def lowHalf? : List Char → Except Fault (Option (Nat × List Char))
  | '\\' :: 'u' :: rest =>
    if rest.length < 5 then .ok none
    else
      match fourHex rest with
      | none => stop ('u' :: rest)
      | some (low, behind) => .ok (if isLowHalf low then some (low, behind) else none)
  | _ => .ok none

/-- The code point of a numeric escape. Two halves that follow each other make one character. -/
def numericEscape (rest : List Char) : Except Fault (Nat × List Char) :=
  match fourHex rest with
  | none => stop ('u' :: rest)
  | some (n, behind) =>
    if isHighHalf n then do
      match ← lowHalf? behind with
      | some (low, after) => .ok (0x10000 + (n - 0xD800) * 0x400 + (low - 0xDC00), after)
      | none => .ok (n, behind)
    else .ok (n, behind)

/-- The value of a string with these code points. With half of a pair among them it is no text, and is
kept as the bytes that it would have; there are no other bytes in JSON. -/
def ofPoints (points : List Nat) : Value :=
  if points.any Text.isHalf then .bytes (points.flatMap Text.pointBytes)
  else .text (String.ofList (points.map Char.ofNat))

/-- The string up to its closing quote. `start` is where its opening quote stands. -/
def stringRest (start : List Char) : Nat → List Nat → List Char → Except Fault (Value × List Char)
  | 0, _, _ => stop start
  | _ + 1, _, [] => stop start
  | turns + 1, done, c :: rest =>
    if c == '"' then .ok (ofPoints done.reverse, rest)
    else if c == '\\' then
      match rest with
      | [] => stop start
      | 'u' :: behind =>
        match numericEscape behind with
        | .error fault => .error fault
        | .ok (n, after) => stringRest start turns (n :: done) after
      | d :: behind =>
        match plainEscape? d with
        | none => stop ('\\' :: d :: behind)
        | some e => stringRest start turns (e.toNat :: done) behind
    else if c.toNat < 32 then stop (c :: rest)
    else stringRest start turns (c.toNat :: done) rest

def string (start : List Char) : Except Fault (Value × List Char) :=
  match start with
  | '"' :: rest => stringRest start (rest.length + 1) [] rest
  | _ => stop start

/-! ## Values -/

/-- The rest of the text behind a word, if the text starts with it. -/
def behindWord (word : List Char) (cs : List Char) : Option (List Char) :=
  if word.isPrefixOf cs then some (cs.drop word.length) else none

/-- The words that are values. -/
def words : List (String × Value) := [
  ("null", .null), ("true", .bool true), ("false", .bool false), ("NaN", .float (0.0 / 0.0)),
  ("Infinity", .float (1.0 / 0.0)), ("-Infinity", .float (-1.0 / 0.0))]

def scalar (cs : List Char) : Except Fault (Value × List Char) :=
  match words.findSome? fun word => (behindWord word.1.toList cs).map (word.2, ·) with
  | some found => .ok found
  | none => number cs

/-- What stands behind an item: the next item, or the end of the collection. -/
inductive Follow where
  | more (rest : List Char)
  | done (rest : List Char)

/-- Reads the comma behind an item, or the closing mark. -/
def follow (closing : Char) (cs : List Char) : Except Fault Follow :=
  match skipSpace cs with
  | c :: rest =>
    if c == closing then .ok (.done rest)
    else if c == ',' then .ok (.more (skipSpace rest))
    else stop (c :: rest)
  | [] => stop []

/-- The name of an entry and the colon behind it. -/
def entryName (cs : List Char) : Except Fault (Value × List Char) := do
  let (name, rest) ← string cs
  match skipSpace rest with
  | ':' :: behind => .ok (name, skipSpace behind)
  | behind => stop behind

mutual

/-- A value. Every turn reads at least one character. -/
def value : Nat → List Char → Except Fault (Value × List Char)
  | 0, cs => stop cs
  | turns + 1, cs =>
    match cs with
    | '"' :: _ => string cs
    | '[' :: rest =>
      match skipSpace rest with
      | ']' :: behind => .ok (.list [], behind)
      | behind => items turns [] behind
    | '\x7b' :: rest =>
      match skipSpace rest with
      | '\x7d' :: behind => .ok (.map [], behind)
      | behind => entries turns [] behind
    | _ => scalar cs

def items : Nat → List Value → List Char → Except Fault (Value × List Char)
  | 0, _, cs => stop cs
  | turns + 1, done, cs => do
    let (item, rest) ← value turns cs
    match ← follow ']' rest with
    | .done behind => .ok (.list (item :: done).reverse, behind)
    | .more behind => items turns (item :: done) behind

def entries : Nat → List (Value × Value) → List Char → Except Fault (Value × List Char)
  | 0, _, cs => stop cs
  | turns + 1, done, cs => do
    let (name, rest) ← entryName cs
    let (item, rest) ← value turns rest
    let done := put done name item
    match ← follow '\x7d' rest with
    | .done behind => .ok (.map done, behind)
    | .more behind => entries turns done behind

end

def read (text : String) : Except Fault Value := do
  let cs := text.toList
  let (v, rest) ← value (2 * cs.length + 2) (skipSpace cs)
  match skipSpace rest with
  | [] => .ok v
  | behind => stop behind

/-- The place of a fault in a text, counted in characters from its start. -/
def Fault.position (text : String) : Fault → Nat
  | .malformed left => text.length - left
  | .tooLong => 0

end DesktopPolicy.Json
