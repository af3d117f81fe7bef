-- Log books: where the records of the package go. Until a book is set up, only records that warn
-- are shown, as bare messages. Then records from a level on are shown with the time, and may also go
-- into a file, which is put away and started anew when it would grow too large. A logger remembers
-- whether it writes at a level until the level is set anew.
import DesktopPolicy.Log.Lineage
import DesktopPolicy.Text.Casing
import DesktopPolicy.Value

namespace DesktopPolicy.Log

/-! ## Lines -/

/-- A line of a book. -/
inductive Line where
  | bare (message : String)
  | timed (text : String)
  deriving DecidableEq, Repr

/-- How many characters a time takes, with the blank behind it. -/
def timeWidth : Nat := 20

def Line.ofRecord (record : Record) : Line :=
  .timed ("[" ++ record.level.name ++ "] [" ++ record.logger ++ "] " ++ record.message)

/-- The line with a text in the place of the time. -/
def Line.shown (time : String) : Line → String
  | bare message => message ++ "\n"
  | timed text => time ++ text ++ "\n"

def Line.length : Line → Nat
  | bare message => message.length + 1
  | timed text => timeWidth + text.length + 1

def Line.size : Line → Nat
  | bare message => message.utf8ByteSize + 1
  | timed text => timeWidth + text.utf8ByteSize + 1

def shownLines (time : String) (lines : List Line) : String :=
  String.join (lines.map (Line.shown time))

/-! ## Files -/

structure LogFile where
  /-- The parts of the path of its directory. A file outside of the place of work has none. -/
  directory : Option (List String)
  /-- The size that no file grows to, unless it is zero or less. -/
  limit : Int
  /-- How many files are put away before the oldest is given up. -/
  backups : Nat
  lines : List Line := []
  /-- The lines of the files that were put away, latest first. -/
  past : List (List Line) := []
  deriving DecidableEq, Repr

namespace LogFile

def size (file : LogFile) : Nat := (file.lines.map Line.size).foldl (· + ·) 0

/-- The file would grow to its limit with this line. -/
def isFull (file : LogFile) (line : Line) : Bool :=
  0 < file.limit && file.limit ≤ file.size + line.length

/-- The file put away, and a new one started. When none is put away, the file goes on. -/
def turnOver (file : LogFile) : LogFile :=
  if file.backups == 0 then file
  else { file with lines := [], past := (file.lines :: file.past).take file.backups }

def append (file : LogFile) (line : Line) : LogFile :=
  let file := if file.isFull line then file.turnOver else file
  { file with lines := file.lines ++ [line] }

def name : String := "desktop-access.log"

def pastEntries (path : String) (place : Nat) : List (List Line) → List (String × List Line)
  | [] => []
  | lines :: rest => (path ++ "." ++ toString place, lines) :: pastEntries path (place + 1) rest

def entries (file : LogFile) : List (String × List Line) :=
  match file.directory with
  | none => []
  | some parts =>
    let path := "/".intercalate (parts ++ [name])
    (path, file.lines) :: pastEntries path 1 file.past

end LogFile

/-! ## Handlers -/

/-- Where lines go. -/
inductive Handler where
  | console
  | file (file : LogFile)
  deriving DecidableEq, Repr

namespace Handler

/-- The lines that the handler shows on the console. -/
def shown (line : Line) : Handler → List Line
  | console => [line]
  | file _ => []

/-- The handler, once it has got the line. -/
def emit (line : Line) : Handler → Handler
  | console => console
  | file f => file (f.append line)

def entries : Handler → List (String × List Line)
  | console => []
  | file f => f.entries

end Handler

/-! ## Books -/

/-- A log book: what is set for the loggers of the package, and which of them were called. -/
structure Book where
  console : List Line := []
  level : Option Level := none
  handlers : List Handler := []
  loggers : List String := []
  /-- What loggers answered when they were asked whether they write at a level. -/
  remembered : List ((String × Level) × Bool) := []

namespace Book

def levelName (book : Book) : String :=
  match book.level with
  | some level => level.name
  | none => "NOTSET"

def entries (book : Book) : List (String × List Line) := book.handlers.flatMap Handler.entries

/-! ## Writing -/

/-- The book with a logger that was called by its full name. -/
def call (logger : String) (book : Book) : Book :=
  if book.loggers.contains logger then book else { book with loggers := book.loggers ++ [logger] }

/-- The logger writes as the book is set. -/
def serves (book : Book) (logger : String) : Bool := isHeir book.loggers.contains logger

/-- The level from which a logger writes. Without any, records that warn are written. -/
def threshold (book : Book) (logger : String) : Level :=
  if book.serves logger then book.level.getD .warning else .warning

/-- The logger writes at a level. It answers what it answered before, as long as no level was set. -/
def writesAt (book : Book) (logger : String) (level : Level) : Bool :=
  (book.remembered.lookup (logger, level)).getD
    ((book.threshold logger).rank ≤ level.rank)

/-- The book with a record at its handlers. Without any, records that warn are shown as they are. -/
def handle (record : Record) (book : Book) : Book :=
  if book.serves record.logger && !book.handlers.isEmpty then
    let line := Line.ofRecord record
    { book with
      console := book.console ++ book.handlers.flatMap (Handler.shown line)
      handlers := book.handlers.map (Handler.emit line) }
  else if Level.warning.rank ≤ record.level.rank then
    { book with console := book.console ++ [.bare record.message] }
  else book

/-- Calls the logger of a record, and writes the record to all places where it goes. -/
def write (record : Record) (book : Book) : Book :=
  let book := book.call record.logger
  let writes := book.writesAt record.logger record.level
  let book :=
    { book with remembered := ((record.logger, record.level), writes) :: book.remembered }
  if writes then book.handle record else book

/-! ## Setting up -/

structure Order where
  level : Value := .text "INFO"
  directory : Value := .text "/var/log/desktop-access"
  toFile : Value := .bool false
  limit : Value := .int 10485760
  backups : Value := .int 5

inductive Fault where
  | levelKind (kind : String)
  | unknownLevel (given : String)
  | directoryKind (kind : String)
  | noDirectory
  | nullInPath
  | longName
  | limitKind (kind : String)
  deriving DecidableEq, Repr

def Fault.message : Fault → String
  | levelKind kind => "'" ++ kind ++ "' object has no attribute 'upper'"
  | unknownLevel given =>
    "Invalid log level: " ++ given ++ ". Must be one of: " ++
      ", ".intercalate (Level.ordered.map Level.name)
  | directoryKind kind => "expected str, bytes or os.PathLike object, not " ++ kind
  | noDirectory => "[Errno 2] No such file or directory: ''"
  | nullInPath => "embedded null byte"
  | longName => "[Errno 36] File name too long"
  | limitKind kind => "'>' not supported between instances of '" ++ kind ++ "' and 'int'"

/-- The level that an order asks for, in letters of any case. -/
def orderedLevel (v : Value) : Except Fault Level :=
  match v with
  | .text given =>
    match Level.ofName? (Text.upperText given) with
    | some level => .ok level
    | none => .error (.unknownLevel given)
  | v => .error (.levelKind v.kind)

/-- The usual order asks for a level that there is. -/
theorem orderedLevel_usual : orderedLevel ({} : Order).level = .ok .info := by
  have hname : Level.ofName? (Text.upperText "INFO") = some .info := by decide +kernel
  rw [orderedLevel, hname]

/-- The parts of a path, with steps up taken back. A path that leaves the place of work has none. -/
def pathParts : List String → List String → Option (List String)
  | done, [] => some done.reverse
  | done, part :: rest =>
    if part == "" || part == "." then pathParts done rest
    else if part == ".." then
      match done with
      | [] => none
      | _ :: outer => pathParts outer rest
    else pathParts (part :: done) rest

/-- The longest name of a directory, in bytes. -/
def longestName : Nat := 255

def orderedDirectory (v : Value) : Except Fault (Option (List String)) :=
  match v with
  | .text path =>
    let parts := (path.toList.splitOn '/').map String.ofList
    if path.isEmpty then .error .noDirectory
    else if path.toList.contains '\x00' then .error .nullInPath
    else if parts.any fun part => longestName < part.utf8ByteSize then .error .longName
    else if path.toList.head? == some '/' then .ok none
    else .ok (pathParts [] parts)
  | v => .error (.directoryKind v.kind)

/-- The limit that an order asks for, rounded up. -/
def orderedLimit (v : Value) : Except Fault Int :=
  match v with
  | .int n => .ok n
  | .bool b => .ok (if b then 1 else 0)
  | .float x => .ok ((Value.float x.ceil).whole?.getD 0)
  | v => .error (.limitKind v.kind)

def orderedFile (order : Order) : Except Fault LogFile := do
  let directory ← orderedDirectory order.directory
  let limit ← orderedLimit order.limit
  .ok { directory, limit, backups := (order.backups.whole?.getD 0).toNat }

/-- The book at a level. What loggers remember is forgotten. -/
def setLevel (level : Level) (book : Book) : Book :=
  { book with level := some level, remembered := [] }

/-- `configure_logging`: a book that has handlers only gets another level. `started` is the file
that the order asks for, or why it could not be started; then the book is left with the console
alone. -/
def configureWith (started : Except Fault LogFile) (order : Order) (book : Book) :
    Except Fault Unit × Book :=
  match orderedLevel order.level with
  | .error fault => (.error fault, book)
  | .ok level =>
    let book := book.setLevel level
    if !book.handlers.isEmpty then (.ok (), book)
    else
      let book := { book with handlers := [.console] }
      if !order.toFile.isFilled then (.ok (), book)
      else
        match started with
        | .error fault => (.error fault, book)
        | .ok file => (.ok (), { book with handlers := book.handlers ++ [.file file] })

/-- Sets the book up in an empty place of work, where every file can be started. -/
def configure (order : Order) (book : Book) : Except Fault Unit × Book :=
  book.configureWith (orderedFile order) order

/-! ## What happens to a book -/

inductive Event where
  /-- An order to set the book up, with the file that it asks for or why it could not be started. -/
  | setUp (order : Order) (started : Except Fault LogFile)
  | call (name : String)
  | log (name : String) (level : Level) (message : String)

/-- The record of a message that is logged through the logger of a name. -/
def recordOf (name : String) (level : Level) (message : String) : Record :=
  ⟨level, qualified name, message⟩

/-- The book after an event. -/
def step (book : Book) : Event → Book
  | .setUp order started => (book.configureWith started order).2
  | .call name => book.call (qualified name)
  | .log name level message => book.write (recordOf name level message)

def run (events : List Event) (book : Book) : Book := events.foldl step book

end Book

end DesktopPolicy.Log
