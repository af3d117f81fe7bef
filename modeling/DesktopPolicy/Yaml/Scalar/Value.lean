-- The values of scalars: what a text stands for under a tag.
import DesktopPolicy.Text.Casing
import DesktopPolicy.Value
import DesktopPolicy.Yaml.Fault
import DesktopPolicy.Yaml.Tag

namespace DesktopPolicy.Yaml

def numeral {α : Type} (reading : Except Decimal.NumeralFault α) : Except Fault α :=
  reading.mapError Fault.numeral

/-- The text without the lines between digits. -/
def withoutLines (text : String) : List Char := text.toList.filter (· != '_')

/-! ## Numbers -/

/-- A whole number from its parts of sixty. -/
def sixtieths (parts : List Int) : Int := parts.foldl (fun n part => n * 60 + part) 0

/-- A whole number without its sign, in the base that its start tells. -/
def unsignedInt (cs : List Char) : Except Fault Int :=
  let read (base : Nat) (cs : List Char) : Except Fault Int :=
    numeral (Decimal.whole base (String.ofList cs))
  match cs with
  | [] => .error .emptyNumber
  | ['0'] => .ok 0
  | '0' :: 'b' :: rest => read 2 rest
  | '0' :: 'x' :: rest => read 16 rest
  | '0' :: rest => read 8 ('0' :: rest)
  | cs =>
    if cs.contains ':' then ((Tag.colonParts cs).mapM (read 10)).map sixtieths
    else read 10 cs

def intOf (text : String) : Except Fault Int :=
  match withoutLines text with
  | [] => .error .emptyNumber
  | '-' :: cs => (unsignedInt cs).map fun n => -n
  | '+' :: cs => unsignedInt cs
  | cs => unsignedInt cs

/-- Parts of sixty, last first, added up from the least. -/
def sixtiethsFloat (parts : List Float) : Float :=
  (parts.foldl (fun (state : Float × Nat) part =>
    (state.1 + part * Decimal.nearestFloat state.2 0, state.2 * 60)) (0.0, 1)).1

def unsignedFloat (negative : Bool) (cs : List Char) : Except Fault Float :=
  let signed (x : Float) : Float := if negative then -x else x
  let read (cs : List Char) : Except Fault Float := numeral (Decimal.real (String.ofList cs))
  if cs == ".inf".toList then .ok (signed (1.0 / 0.0))
  else if cs == ".nan".toList then .ok (0.0 / 0.0)
  else if cs.contains ':' then
    ((Tag.colonParts cs).mapM read).map fun parts => signed (sixtiethsFloat parts.reverse)
  else (read cs).map signed

def floatOf (text : String) : Except Fault Float :=
  match Text.lowered (withoutLines text) with
  | [] => .error .emptyNumber
  | '-' :: cs => unsignedFloat true cs
  | '+' :: cs => unsignedFloat false cs
  | cs => unsignedFloat false cs

/-! ## Other scalars -/

def truthOf (text : String) : Except Fault Bool :=
  match Tag.truths.lookup (String.ofList (Text.lowered text.toList)) with
  | some b => .ok b
  | none => .error .truth

def sixBits? (c : Char) : Option Nat :=
  if 'A' ≤ c && c ≤ 'Z' then some (c.toNat - 65)
  else if 'a' ≤ c && c ≤ 'z' then some (c.toNat - 71)
  else if '0' ≤ c && c ≤ '9' then some (c.toNat + 4)
  else if c == '+' then some 62
  else if c == '/' then some 63
  else none

/-- Reads four characters to three bytes. `held` characters of a group were read, `bits` of them are
left over, and `pads` marks stand behind them. Enough marks behind a group end the text, and other
characters say nothing. -/
def bytesFrom (held bits pads : Nat) : List Char → Except Fault (List UInt8)
  | [] => if held == 0 then .ok [] else .error .unfit
  | c :: rest =>
    if c == '=' then
      if 2 ≤ held && 4 ≤ held + pads + 1 then .ok []
      else bytesFrom held bits (if 2 ≤ held then pads + 1 else pads) rest
    else
      match sixBits? c with
      | none => bytesFrom held bits pads rest
      | some n =>
        if held == 0 then bytesFrom 1 n 0 rest
        else if held == 1 then
          (bytesFrom 2 (n % 16) 0 rest).map (UInt8.ofNat (bits * 4 + n / 16) :: ·)
        else if held == 2 then
          (bytesFrom 3 (n % 4) 0 rest).map (UInt8.ofNat (bits * 16 + n / 4) :: ·)
        else (bytesFrom 0 0 0 rest).map (UInt8.ofNat (bits * 64 + n) :: ·)

/-- Bytes as a text of six bits a character. -/
def bytesOf (text : String) : Except Fault (List UInt8) :=
  if text.toList.all fun c => c.toNat < 128 then bytesFrom 0 0 0 text.toList else .error .unfit

def number (digits : List Char) : Nat := Decimal.digitsNumber 10 digits

/-- Six digits of the fraction of a second, with zeros behind if there are fewer. -/
def micros (fraction : List Char) : Nat :=
  let digits := fraction.take 6
  number (digits ++ List.replicate (6 - digits.length) '0')

/-- How far a zone is from universal time, in minutes. -/
def zoneMinutes (zone : Bool × List Char × List Char) : Int :=
  let size : Int := number zone.2.1 * 60 + number zone.2.2
  if zone.1 then -size else size

def timeOf (text : String) : Except Fault Value :=
  match Tag.timeText? (Tag.withoutLastBreak text.toList) with
  | none => .error .time
  | some t => Except.mapError Fault.calendar do
    let year := number t.year
    let month := number t.month
    let day := number t.day
    match t.clock with
    | none => .ok (.date (← Date.make year month day))
    | some (hour, minute, second, fraction) =>
      let offset ← match t.zone with
        | none => .ok none
        | some zone => (offsetOf (zoneMinutes zone)).map some
      .ok (.moment (← Moment.make year month day (number hour) (number minute) (number second)
        (micros fraction) offset))

def scalarValue (tag : Tag) (text : String) : Except Fault Value :=
  match tag with
  | .null => .ok .null
  | .bool => (truthOf text).map Value.bool
  | .int => (intOf text).map Value.int
  | .float => (floatOf text).map Value.float
  | .binary => (bytesOf text).map Value.bytes
  | .time => timeOf text
  | .text => .ok (.text text)
  | _ => .error .unknownTag

end DesktopPolicy.Yaml
