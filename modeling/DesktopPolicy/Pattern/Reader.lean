-- Reading a regular expression into a tree. Every turn of the readers takes at least one token, so
-- as many turns as there are characters are enough; the readers stop when their turns are used up.
import DesktopPolicy.Pattern.Escape
import DesktopPolicy.Text.Blank
import DesktopPolicy.Text.Identifier
import DesktopPolicy.Text.Letters
import DesktopPolicy.Text.Numbers

namespace DesktopPolicy.Pattern

variable [Dialect]

/-! ## Sets -/

/-- A set of parts without repetitions, each in its first place. -/
def distinct (items : List SetItem) : List SetItem :=
  items.foldl (fun kept item => if kept.contains item then kept else kept ++ [item]) []

def setPart (token : Token) : Reading SetItem :=
  match token with
  | ['\\', c] => setEscape c
  | [c] => pure (.one c.toNat)
  | _ => complain .unexpectedEnd

def rangeOf (first last : SetItem) (firstToken lastToken : Token) : Reading SetItem :=
  let bad : Cause := .badRange (String.ofList firstToken) (String.ofList lastToken)
  let width := firstToken.length + 1 + lastToken.length
  match first, last with
  | .one low, .one high => if high < low then complain bad width else pure (.range low high)
  | _, _ => complain bad width

/-- The parts of a set up to its end, behind those already read. `opening` is the place of the
bracket that opens the set. A bracket that would close an empty set is a part of it. -/
def setParts (opening : Nat) (done : List SetItem) : Nat → Reading (List SetItem)
  | 0 => complain .unterminatedSet
  | turns + 1 => do
    match ← take with
    | none => complain .unterminatedSet ((← here) - opening)
    | some token =>
      if token == [']'] && !done.isEmpty then pure done
      else
        let part ← setPart token
        if ← accept '-' then
          match ← take with
          | none => complain .unterminatedSet ((← here) - opening)
          | some last =>
            if last == [']'] then pure (done ++ [part, .one '-'.toNat])
            else
              let other ← setPart last
              let range ← rangeOf part other token last
              setParts opening (done ++ [range]) turns
        else setParts opening (done ++ [part]) turns

/-- A set, behind its opening bracket. A set of one character is that character. -/
def readSet : Reading Node := do
  let opening := (← here) - 1
  let negated ← accept '^'
  let turns := (← get).chars.size + 1
  let items := distinct (← setParts opening [] turns)
  match items with
  | [.one code] => pure (if negated then .notLiteral code else .literal code)
  | _ => pure (.charset negated items)

/-! ## Repetitions -/

def repeatCount (digits : List Char) : Reading Nat :=
  if 4300 < digits.length then refuse (.tooManyDigits digits.length)
  else
    let count := numeral 10 digits
    if unbounded ≤ count then refuse .repetition else pure count

/-- The bounds of a repetition in braces, behind the opening brace. `none` where the braces hold no
bounds: the brace then stands for itself, and reading goes on behind it. -/
def braceBounds : Reading (Option (Nat × Nat)) := do
  let behind ← here
  let turns := (← get).chars.size
  if (← peek) == some ['\x7d'] then pure none
  else
    let low ← takeSome isDigit turns
    let high ← if ← accept ',' then takeSome isDigit turns else pure low
    if !(← accept '\x7d') then
      goTo behind
      pure none
    else
      let least ← if low.isEmpty then pure 0 else repeatCount low
      if high.isEmpty then pure (some (least, unbounded))
      else
        let most ← repeatCount high
        if most < least then complain .repeatBounds ((← here) - behind)
        else pure (some (least, most))

/-- The bounds that a mark of repetition stands for, behind the mark. -/
def repeatBounds (mark : Char) : Reading (Option (Nat × Nat)) :=
  match mark with
  | '?' => pure (some (0, 1))
  | '*' => pure (some (0, unbounded))
  | '+' => pure (some (1, unbounded))
  | _ => braceBounds

def isRepeatMark (c : Char) : Bool := c == '*' || c == '+' || c == '?' || c == '\x7b'

/-- The body of a repetition. A plain group gives way to what it holds. -/
def repeatBody : Node → List Node
  | .group none on off body => if on.isEmpty && off.isEmpty then body else [.group none on off body]
  | node => [node]

/-- The last part of those read, repeated. Parts are kept last first. `behind` is the place behind
the mark. -/
def repeatLast (done : List Node) (least most behind : Nat) : Reading (List Node) := do
  let back := (← here) - behind + 1
  match done with
  | [] => complain .nothingToRepeat back
  | .anchor _ :: _ => complain .nothingToRepeat back
  | .repeated _ _ _ _ :: _ => complain .multipleRepeat back
  | last :: rest =>
    let greed : Greed ←
      if ← accept '?' then pure .lazy
      else if ← accept '+' then pure .possessive
      else pure .greedy
    pure (.repeated greed least most (repeatBody last) :: rest)

/-! ## Flags in the expression -/

/-- A flag letter that was expected and did not come. -/
def badFlag {α : Type} (token : Token) (what : String) : Reading α :=
  let isWord := match token with
    | [c] => Text.isLetter c
    | _ => false
  complain (if isWord then .unknownFlag else .missing what) token.length

def tokenFlag? (token : Token) : Option (Option Flags) :=
  match token with
  | ['L'] => some none
  | [c] => (Flags.ofLetter? c).map some
  | _ => none

def flagsOn (on : Flags) (token : Token) : Nat → Reading (Flags × Token)
  | 0 => complain .unexpectedEnd
  | turns + 1 => do
    match tokenFlag? token with
    | none => badFlag token "-, : or )"
    | some none => complain .localeFlag
    | some (some flag) =>
      let on := on.union flag
      if !(flag.meet .kinds).isEmpty && on.meet .kinds != flag then complain .clashingFlags
      else
        match ← take with
        | none => complain (.missing "-, : or )")
        | some next =>
          if next == [')'] || next == ['-'] || next == [':'] then pure (on, next)
          else flagsOn on next turns

def flagsOff (off : Flags) (token : Token) (what : String) : Nat → Reading Flags
  | 0 => complain .unexpectedEnd
  | turns + 1 => do
    match tokenFlag? token with
    | none => badFlag token what
    | some none => complain .fixedFlagOff
    | some (some flag) =>
      if !(flag.meet .kinds).isEmpty then complain .fixedFlagOff
      else
        let off := off.union flag
        match ← take with
        | none => complain (.missing ":")
        | some next => if next == [':'] then pure off else flagsOff off next ":" turns

/-- Flags in a group. `none` when they hold for the whole expression from here on; otherwise those
turned on and those turned off inside the group. -/
def readFlags (token : Token) : Reading (Option (Flags × Flags)) := do
  let turns := (← get).chars.size + 1
  let (on, next) ← if token == ['-'] then pure (({} : Flags), token) else flagsOn {} token turns
  if next == [')'] then
    modify fun source => { source with flags := source.flags.union on }
    pure none
  else if on.template then complain .globalFlagOn 1
  else
    let off : Flags ←
      if next == ['-'] then
        match ← take with
        | none => complain (.missing "flag")
        | some first => flagsOff {} first "flag" turns
      else pure {}
    if off.template then complain .globalFlagOff 1
    else if !(on.meet off).isEmpty then complain .flagOnAndOff 1
    else pure (some (on, off))

/-! ## Names and numbers of groups -/

/-- Group numbers are less than this. -/
def groupLimit : Nat := 1073741823

/-- A whole number in decimal digits of any script, with a sign and with single underscores between
digits, blanks around it left out. -/
def wholeNumber? (chars : List Char) : Option Int :=
  let (negative, digits) : Bool × List Char := match Text.trim chars with
    | '-' :: rest => (true, rest)
    | '+' :: rest => (false, rest)
    | rest => (false, rest)
  let runs := digits.splitOn '_'
  let values := digits.filterMap Text.decimalValue?
  if runs.any List.isEmpty || 4300 < values.length then none
  else if !(digits.all fun c => c == '_' || Text.isDecimal c) then none
  else
    let size : Nat := values.foldl (fun n d => n * 10 + d) 0
    some (if negative then -(size : Int) else (size : Int))

def checkName (chars : List Char) : Reading Unit :=
  if Text.isIdentifier chars then pure ()
  else complain (.badGroupName (String.ofList chars)) (chars.length + 1)

/-- The group that a condition asks for, by name or by number. -/
def conditionGroup : Reading Nat := do
  let chars ← takeUntil ')' "group name"
  let back := chars.length + 1
  let group ←
    if Text.isIdentifier chars then
      match ← groupNamed (String.ofList chars) with
      | some group => pure group
      | none => complain (.unknownGroup (String.ofList chars)) back
    else
      match wholeNumber? chars with
      | none => complain (.badGroupName (String.ofList chars)) back
      | some number =>
        if number < 0 then complain (.badGroupName (String.ofList chars)) back
        else if number == 0 then complain .badGroupNumber back
        else if groupLimit ≤ number.toNat then complain (.invalidReference number.toNat) back
        else
          let place := (← here) - back
          modify fun source =>
            if (source.conditions.lookup number.toNat).isSome then source
            else { source with conditions := source.conditions ++ [(number.toNat, place)] }
          pure number.toNat
  checkLookbehind group
  pure group

/-- What a named group matched, once more. -/
def namedReference : Reading Node := do
  let chars ← takeUntil ')' "group name"
  checkName chars
  match ← groupNamed (String.ofList chars) with
  | none => complain (.unknownGroup (String.ofList chars)) (chars.length + 1)
  | some group =>
    match ← closedWidth group with
    | none => complain .openGroup (chars.length + 1)
    | some width =>
      checkLookbehind group
      pure (.reference group width)

/-! ## Comments -/

def skipComment (opening : Nat) : Nat → Reading Unit
  | 0 => complain .unterminatedComment
  | turns + 1 => do
    if (← peek).isNone then complain .unterminatedComment ((← here) - opening)
    else if (← take) == some [')'] then pure ()
    else skipComment opening turns

def skipLine : Nat → Reading Unit
  | 0 => pure ()
  | turns + 1 => do
    match ← take with
    | none => pure ()
    | some token => if token == ['\n'] then pure () else skipLine turns

/-- A blank that is left out of verbose expressions. -/
def isLayout (token : Token) : Bool :=
  token == [' '] || token == ['\t'] || token == ['\n'] || token == ['\r'] || token == ['\x0b'] ||
    token == ['\x0c']

/-! ## Parts and choices -/

/-- A plain group gives way to what it holds. -/
def unpack (nodes : List Node) : List Node :=
  nodes.flatMap fun
    | .group none on off body =>
      if on.isEmpty && off.isEmpty then body else [.group none on off body]
    | node => [node]

/-- The part that all options start with. -/
def sharedFirst : List (List Node) → Option Node
  | (first :: _) :: rest =>
    if rest.all fun option => (option.head?.map fun node => node.sameSimple first) == some true then
      some first
    else none
  | _ => none

/-- The parts that all options start with, and the options without them. -/
def factor : Nat → List (List Node) → List Node × List (List Node)
  | 0, options => ([], options)
  | turns + 1, options =>
    match sharedFirst options with
    | none => ([], options)
    | some first =>
      let (shared, rest) := factor turns (options.map List.tail)
      (first :: shared, rest)

/-- The set that an option is: a single character, or a set that is not negated. -/
def optionSet? : List Node → Option (List SetItem)
  | [.literal code] => some [.one code]
  | [.charset false items] => some items
  | _ => none

/-- Several options as parts. What they all start with is told once, and options that are single
characters are a set. -/
def choiceOf (options : List (List Node)) : List Node :=
  let turns := (options.map List.length).foldl max 0
  let (shared, rest) := factor (turns + 1) options
  match rest.mapM optionSet? with
  | some sets => shared ++ [.charset false (distinct sets.flatten)]
  | none => shared ++ [.choice rest]

/-- How a group that is no group of parts goes on. -/
inductive Opening where
  | part (node : Node)
  | nothing
  | flags
  | body (name : Option (List Char)) (captures isAtomic : Bool) (on off : Flags)
  | look (behind negated : Bool)
  | condition (group : Nat)

/-- Reads the start of a group that is marked by a question mark. `opening` is the place of its
parenthesis. -/
def readOpening (opening : Nat) : Reading Opening := do
  match ← take with
  | none => complain .unexpectedEnd
  | some ['P'] =>
    if ← accept '<' then
      let name ← takeUntil '>' "group name"
      checkName name
      pure (.body (some name) true false {} {})
    else if ← accept '=' then return .part (← namedReference)
    else
      match ← take with
      | none => complain .unexpectedEnd
      | some token =>
        complain (.unknownExtension ("?P" ++ String.ofList token)) (token.length + 2)
  | some [':'] => pure (.body none false false {} {})
  | some ['>'] => pure (.body none false true {} {})
  | some ['#'] =>
    skipComment opening ((← get).chars.size + 1)
    pure .nothing
  | some ['='] => pure (.look false false)
  | some ['!'] => pure (.look false true)
  | some ['<'] =>
    match ← take with
    | none => complain .unexpectedEnd
    | some ['='] => pure (.look true false)
    | some ['!'] => pure (.look true true)
    | some token => complain (.unknownExtension ("?<" ++ String.ofList token)) (token.length + 2)
  | some ['('] => return .condition (← conditionGroup)
  | some token =>
    if (tokenFlag? token).isSome || token == ['-'] then
      match ← readFlags token with
      | none => pure .flags
      | some (on, off) => pure (.body none false false on off)
    else complain (.unknownExtension ("?" ++ String.ofList token)) (token.length + 1)

def closeParenthesis (opening : Nat) : Reading Unit := do
  if ← accept ')' then pure () else complain .unterminatedGroup ((← here) - opening)

/-- Where a reader stands: the depth of groups, whether blanks are left out, and whether it reads
the first option of the whole expression. -/
structure Context where
  nested : Bool := false
  verbose : Bool := false
  first : Bool := false

def Context.inside (context : Context) : Context := { context with nested := true, first := false }

/-- The start of a look-behind: the groups there are now are those it may refer to. Gives what to
go back to behind it. -/
def enterLookbehind (behind : Bool) : Reading (Option Nat) := do
  let before := (← get).lookbehind
  if behind && before.isNone then
    modify fun source => { source with lookbehind := some source.widths.size }
  pure before

/-- The end of a look-behind. -/
def leaveLookbehind (behind : Bool) (before : Option Nat) : Reading Unit :=
  if behind && before.isNone then modify fun source => { source with lookbehind := none }
  else pure ()

mutual

def options (context : Context) (done : List (List Node)) : Nat → Reading (List Node)
  | 0 => complain .unexpectedEnd
  | turns + 1 => do
    let first := !context.nested && done.isEmpty
    let option ← parts { context with nested := true, first } [] turns
    let done := done ++ [option]
    if ← accept '|' then
      let verbose ← if context.nested then pure context.verbose else pure (← get).flags.verbose
      options { context with verbose } done turns
    else
      match done with
      | [only] => pure only
      | several => pure (choiceOf several)

/-- Parts one after the other, behind those already read, which are kept last first. -/
def parts (context : Context) (done : List Node) : Nat → Reading (List Node)
  | 0 => complain .unexpectedEnd
  | turns + 1 => do
    match ← peek with
    | none => pure (unpack done.reverse)
    | some ['|'] => pure (unpack done.reverse)
    | some [')'] => pure (unpack done.reverse)
    | some token =>
      let _ ← take
      if context.verbose && isLayout token then parts context done turns
      else if context.verbose && token == ['#'] then
        skipLine turns
        parts context done turns
      else
        match token with
        | ['\\', c] =>
          let node ← escape c
          parts context (node :: done) turns
        | ['['] =>
          let node ← readSet
          parts context (node :: done) turns
        | ['.'] => parts context (.anyChar :: done) turns
        | ['^'] => parts context (.anchor .lineStart :: done) turns
        | ['$'] => parts context (.anchor .lineEnd :: done) turns
        | ['('] =>
          let opening := (← here) - 1
          let start : Opening ←
            if ← accept '?' then readOpening opening
            else pure (.body none true false {} {})
          match start with
          | .part node => parts context (node :: done) turns
          | .nothing => parts context done turns
          | .flags =>
            if !context.first || !done.isEmpty then
              complain .lateFlags ((← here) - opening)
            else
              let verbose := (← get).flags.verbose
              parts { context with verbose } done turns
          | .body name captures isAtomic on off =>
            let number ← if captures then (openGroup name).map some else pure none
            let verbose := (context.verbose || on.verbose) && !off.verbose
            let body ← options { context.inside with verbose } [] turns
            closeParenthesis opening
            match number with
            | some number =>
              closeGroup number body
              parts context (.group (some number) on off body :: done) turns
            | none =>
              let node := if isAtomic then .atomic body else .group none on off body
              parts context (node :: done) turns
          | .look behind negated =>
            let before ← enterLookbehind behind
            let body ← options context.inside [] turns
            leaveLookbehind behind before
            closeParenthesis opening
            let node := if negated && body.isEmpty then .never else .look behind negated body
            parts context (node :: done) turns
          | .condition group =>
            let yes ← parts context.inside [] turns
            let no ←
              if ← accept '|' then
                let no ← parts context.inside [] turns
                if (← peek) == some ['|'] then complain .thirdBranch else pure no
              else pure []
            closeParenthesis opening
            parts context (.conditional group yes no :: done) turns
        | [c] =>
          if isRepeatMark c then
            let behind ← here
            match ← repeatBounds c with
            | none => parts context (.literal c.toNat :: done) turns
            | some (least, most) =>
              let done ← repeatLast done least most behind
              parts context done turns
          else parts context (.literal c.toNat :: done) turns
        | _ => complain .unexpectedEnd

end

/-! ## Whole expressions -/

/-- A regular expression: its parts, its flags, and the number of its groups. -/
structure Tree where
  nodes : List Node
  flags : Flags
  groups : Nat

/-- The flags in force: Unicode rules hold unless ASCII rules are asked for. -/
def settleFlags (flags : Flags) : Except Fault Flags :=
  if flags.ascii && flags.unicode then .error (.refused .clashingModes)
  else if flags.ascii then .ok flags
  else .ok { flags with unicode := true }

def checkConditions (source : Source) : Except Fault Unit :=
  match source.conditions.find? fun condition => source.widths.size ≤ condition.1 with
  | some (group, place) => .error (.malformed ⟨.invalidReference group, some place⟩)
  | none => .ok ()

def Tree.read (pattern : String) : Except Fault Tree := do
  let chars := pattern.toList
  let source ← Source.start chars
  let (nodes, source) ← (options {} [] (4 * chars.length + 8)).run source
  let flags ← settleFlags source.flags
  if source.next.isSome then .error (.malformed ⟨.unbalanced, some source.place⟩)
  else
    checkConditions source
    pure { nodes, flags, groups := source.widths.size - 1 }

end DesktopPolicy.Pattern
