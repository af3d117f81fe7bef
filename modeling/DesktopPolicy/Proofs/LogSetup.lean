-- The laws of setting up a log book. Handlers are attached once and stay where they are. An order whose
-- level is refused leaves the book as it was. An order whose file cannot be started does not: it leaves
-- the level set and the console attached, and from then on the book never gets a file.
import DesktopPolicy.Log.Book
import Mathlib

namespace DesktopPolicy

namespace Log

/-! ## Places -/

/-- The handler without what was written. -/
def Handler.place : Handler → Handler
  | console => console
  | file f => file { f with lines := [], past := [] }

theorem Handler.place_emit (line : Line) (handler : Handler) :
    (handler.emit line).place = handler.place := by
  cases handler with
  | console => rfl
  | file f =>
    simp only [emit, place, LogFile.append, LogFile.turnOver]
    split
    · split <;> rfl
    · rfl

theorem Handler.eq_console_of_place {handler : Handler} (h : handler.place = .console) :
    handler = .console := by
  cases handler with
  | console => rfl
  | file f => cases h

namespace Book

/-- Where the lines of the book go. -/
def places (book : Book) : List Handler := book.handlers.map Handler.place

theorem handlers_eq_nil_iff {book : Book} : book.handlers = [] ↔ book.places = [] :=
  List.map_eq_nil_iff.symm

theorem handlers_of_places_console {book : Book} (h : book.places = [.console]) :
    book.handlers = [.console] := by
  obtain ⟨handler, hhandlers, hplace⟩ := List.map_eq_singleton_iff.mp h
  rw [hhandlers, Handler.eq_console_of_place hplace]

/-! ## What records leave alone -/

section Records

variable (logger : String) (record : Record) (book : Book)

@[simp] theorem level_call : (book.call logger).level = book.level := by
  unfold call
  split <;> rfl

@[simp] theorem console_call : (book.call logger).console = book.console := by
  unfold call
  split <;> rfl

@[simp] theorem handlers_call : (book.call logger).handlers = book.handlers := by
  unfold call
  split <;> rfl

@[simp] theorem remembered_call : (book.call logger).remembered = book.remembered := by
  unfold call
  split <;> rfl

@[simp] theorem level_handle : (book.handle record).level = book.level := by
  unfold handle
  split
  · rfl
  · split <;> rfl

@[simp] theorem remembered_handle : (book.handle record).remembered = book.remembered := by
  unfold handle
  split
  · rfl
  · split <;> rfl

@[simp] theorem level_write : (book.write record).level = book.level := by
  unfold write
  dsimp only
  split
  · simp
  · simp

/-- The handlers get the line of the record, or nothing. -/
theorem handlers_write :
    (book.write record).handlers = book.handlers ∨
      (book.write record).handlers = book.handlers.map (Handler.emit (Line.ofRecord record)) := by
  unfold write
  dsimp only
  split
  · unfold handle
    split
    · exact .inr (by simp)
    · split
      · exact .inl (by simp)
      · exact .inl (by simp)
  · exact .inl (by simp)

theorem places_write : (book.write record).places = book.places := by
  rcases handlers_write record book with h | h
  · simp [places, h]
  · simp [places, h, Function.comp_def, Handler.place_emit]

end Records

/-! ## What an order comes to -/

/-- What comes of an order to set up a book: how it ends, and the book after it. -/
inductive SetUp (order : Order) (started : Except Fault LogFile) (book : Book) :
    Except Fault Unit → Book → Prop
  | refused {fault : Fault} (hlevel : orderedLevel order.level = .error fault) :
      SetUp order started book (.error fault) book
  | again {level : Level} (hlevel : orderedLevel order.level = .ok level)
      (hset : book.handlers ≠ []) : SetUp order started book (.ok ()) (book.setLevel level)
  | console {level : Level} (hlevel : orderedLevel order.level = .ok level)
      (hnew : book.handlers = []) (hfile : order.toFile.isFilled = false) :
      SetUp order started book (.ok ()) { book.setLevel level with handlers := [.console] }
  | withFile {level : Level} {file : LogFile} (hlevel : orderedLevel order.level = .ok level)
      (hnew : book.handlers = []) (hfile : order.toFile.isFilled = true)
      (hstarted : started = .ok file) :
      SetUp order started book (.ok ())
        { book.setLevel level with handlers := [.console, .file file] }
  | halfway {level : Level} {fault : Fault} (hlevel : orderedLevel order.level = .ok level)
      (hnew : book.handlers = []) (hfile : order.toFile.isFilled = true)
      (hstarted : started = .error fault) :
      SetUp order started book (.error fault)
        { book.setLevel level with handlers := [.console] }

variable {order : Order} {started : Except Fault LogFile} {book after : Book}
  {outcome : Except Fault Unit}

theorem setUp_configureWith (order : Order) (started : Except Fault LogFile) (book : Book) :
    SetUp order started book (book.configureWith started order).1
      (book.configureWith started order).2 := by
  unfold configureWith
  split
  next fault hlevel => exact .refused hlevel
  next level hlevel =>
    dsimp only
    split
    next hset => exact .again hlevel (by simpa [setLevel] using hset)
    next hset =>
      have hnew : book.handlers = [] := by simpa [setLevel] using hset
      split
      next hfile => exact .console hlevel hnew (by simpa using hfile)
      next hfile =>
        have hfilled : order.toFile.isFilled = true := by simpa using hfile
        split
        next fault => exact .halfway hlevel hnew hfilled rfl
        next file => exact .withFile hlevel hnew hfilled rfl

theorem configureWith_eq_iff :
    book.configureWith started order = (outcome, after) ↔ SetUp order started book outcome after := by
  constructor
  · intro h
    have hsetUp := setUp_configureWith order started book
    rwa [h] at hsetUp
  · intro h
    cases h with
    | refused hlevel => simp [configureWith, hlevel]
    | again hlevel hset => simp [configureWith, hlevel, hset, setLevel]
    | console hlevel hnew hfile => simp [configureWith, hlevel, hnew, hfile, setLevel]
    | withFile hlevel hnew hfile hstarted =>
      simp [configureWith, hlevel, hnew, hfile, hstarted, setLevel]
    | halfway hlevel hnew hfile hstarted =>
      simp [configureWith, hlevel, hnew, hfile, hstarted, setLevel]

/-! ## Places over a run -/

/-- The level that the event sets, if it sets one. -/
def Event.level? : Event → Option Level
  | setUp order _ => (orderedLevel order.level).toOption
  | call _ | log _ _ _ => none

/-- A book with handlers only gets another level. -/
theorem step_setUp_of_attached {book : Book} (h : book.handlers ≠ []) (order : Order)
    (started : Except Fault LogFile) :
    book.step (.setUp order started) =
      (Event.setUp order started).level?.elim book fun level => book.setLevel level := by
  rcases hstep : book.configureWith started order with ⟨outcome, after⟩
  rw [step, hstep, Event.level?]
  cases configureWith_eq_iff.mp hstep with
  | refused hlevel => simp [hlevel, Except.toOption]
  | again hlevel hset => simp [hlevel, Except.toOption]
  | console hlevel hnew hfile => exact absurd hnew h
  | withFile hlevel hnew hfile hstarted => exact absurd hnew h
  | halfway hlevel hnew hfile hstarted => exact absurd hnew h

theorem places_step {book : Book} (h : book.handlers ≠ []) (event : Event) :
    (book.step event).places = book.places := by
  cases event with
  | setUp order started =>
    rw [step_setUp_of_attached h]
    cases (Event.setUp order started).level? with
    | none => rfl
    | some level => rfl
  | call name => simp [step, places]
  | log name level message => exact places_write _ book

/-- Where handlers are attached, they stay. -/
theorem places_run (events : List Event) {book : Book} (h : book.handlers ≠ []) :
    (book.run events).places = book.places := by
  induction events generalizing book with
  | nil => rfl
  | cons event later ih =>
    have hstep := places_step h event
    have hnext : (book.step event).handlers ≠ [] := by
      rw [Ne, handlers_eq_nil_iff, hstep, ← handlers_eq_nil_iff]
      exact h
    exact (ih hnext).trans hstep

theorem handlers_run_of_console (events : List Event) {book : Book} (h : book.handlers = [.console]) :
    (book.run events).handlers = [.console] := by
  have hset : book.handlers ≠ [] := by simp [h]
  have hplaces : book.places = [.console] := by simp [places, h, Handler.place]
  exact handlers_of_places_console ((places_run events hset).trans hplaces)

end Book

end Log

/-! ## The laws -/

open Log Log.Book

/-- An order that fails leaves the level and the handlers as they were exactly when its level is
refused. Then the whole book is as it was, and where it has no handlers, the next good order attaches
the console and the file. Any other order that fails met a book without handlers and a file that could
not be started: it leaves the book at its level with the console alone, and no event after that
attaches a file. -/
theorem an_order_fails_without_a_trace_only_for_its_level {order : Order}
    {started : Except Fault LogFile} {book after : Book} {fault : Fault}
    (h : book.configureWith started order = (.error fault, after)) :
    ((after.level = book.level ∧ after.handlers = book.handlers) ↔
      orderedLevel order.level = .error fault) ∧
    (orderedLevel order.level = .error fault → after = book ∧
      (book.handlers = [] → ∀ later level file, orderedLevel later.level = .ok level →
        later.toFile.isFilled = true →
        after.configureWith (.ok file) later =
          (.ok (), { book.setLevel level with handlers := [.console, .file file] }))) ∧
    ∀ level, orderedLevel order.level = .ok level →
      book.handlers = [] ∧ order.toFile.isFilled = true ∧ started = .error fault ∧
      after = { book.setLevel level with handlers := [.console] } ∧
      ∀ events, (after.run events).handlers = [.console] := by
  cases configureWith_eq_iff.mp h with
  | refused hrefused =>
    refine ⟨⟨fun _ => hrefused, fun _ => ⟨rfl, rfl⟩⟩, ?_, ?_⟩
    · intro _
      refine ⟨rfl, ?_⟩
      intro hnew later level file hlater hfile
      exact configureWith_eq_iff.mpr (.withFile hlater hnew hfile rfl)
    · intro level hlevel
      rw [hrefused] at hlevel
      cases hlevel
  | halfway hset hnew hfile hstarted =>
    refine ⟨⟨?_, ?_⟩, ?_, ?_⟩
    · rintro ⟨-, hhandlers⟩
      rw [hnew] at hhandlers
      cases hhandlers
    · intro hrefused
      rw [hset] at hrefused
      cases hrefused
    · intro hrefused
      rw [hset] at hrefused
      cases hrefused
    · intro level hlevel
      cases hset.symm.trans hlevel
      exact ⟨hnew, hfile, hstarted, rfl, fun events => handlers_run_of_console events rfl⟩

/-- Orders for a file in a directory. -/
def orderIn (directory : String) : Order := { directory := .text directory, toFile := .bool true }

/-- The file in a directory, when it is new. -/
def newFile (directory : String) : LogFile := ⟨some [directory], 10485760, 5, [], []⟩

theorem orderedFile_logs : orderedFile (orderIn "logs") = .ok (newFile "logs") := by
  decide +kernel

theorem configure_logs : configure (orderIn "logs") {} =
    (.ok (), { level := some .info, handlers := [.console, .file (newFile "logs")] }) :=
  configureWith_eq_iff.mpr (.withFile orderedLevel_usual rfl rfl orderedFile_logs)

theorem configure_nowhere : configure (orderIn "") {} =
    (.error .noDirectory, { level := some .info, handlers := [.console] }) := by
  have hnowhere : orderedFile (orderIn "") = .error .noDirectory := by decide +kernel
  exact configureWith_eq_iff.mpr (.halfway orderedLevel_usual rfl rfl hnowhere)

/-- An order without a directory fails, and leaves its level and the console behind. The next good
order attaches no file. -/
theorem an_order_without_a_directory_leaves_the_next_no_file :
    configure (orderIn "") {} =
      (.error .noDirectory, { level := some .info, handlers := [.console] }) ∧
    (configure (orderIn "logs") { level := some .info, handlers := [.console] }).1 = .ok () ∧
    (configure (orderIn "logs") { level := some .info, handlers := [.console] }).2.handlers =
      [.console] ∧
    (configure (orderIn "logs") {}).2.handlers = [.console, .file (newFile "logs")] := by
  have hagain : configure (orderIn "logs") { level := some .info, handlers := [.console] } =
      (.ok (), { level := some .info, handlers := [.console] }) :=
    configureWith_eq_iff.mpr (.again orderedLevel_usual (List.cons_ne_nil _ _))
  rw [hagain, configure_logs]
  exact ⟨configure_nowhere, rfl, rfl, rfl⟩

theorem a_loud_order_leaves_the_next_its_file :
    (∃ after, configure { orderIn "" with level := .text "LOUD" } { level := some .error } =
        (.error (.unknownLevel "LOUD"), after) ∧
      after.level = some .error ∧ after.handlers = [] ∧
      (configure (orderIn "logs") after).2.handlers = [.console, .file (newFile "logs")]) ∧
    ∃ after, configure (orderIn "") {} = (.error .noDirectory, after) ∧
      ∀ events, (after.run events).handlers = [.console] := by
  have hloud : orderedLevel (.text "LOUD") = .error (.unknownLevel "LOUD") := by decide +kernel
  refine ⟨?_, ?_⟩
  · have hfails : configure { orderIn "" with level := .text "LOUD" } { level := some .error } =
        (.error (.unknownLevel "LOUD"), { level := some .error }) :=
      configureWith_eq_iff.mpr (.refused hloud)
    obtain ⟨hkept, hlater, -⟩ := an_order_fails_without_a_trace_only_for_its_level hfails
    obtain ⟨hlevel, hhandlers⟩ := hkept.mpr hloud
    refine ⟨_, hfails, hlevel, hhandlers, ?_⟩
    rw [configure, orderedFile_logs,
      (hlater hloud).2 rfl (orderIn "logs") .info _ orderedLevel_usual rfl]
  · obtain ⟨-, -, hhalfway⟩ :=
      an_order_fails_without_a_trace_only_for_its_level configure_nowhere
    obtain ⟨-, -, -, -, hstays⟩ := hhalfway .info orderedLevel_usual
    exact ⟨_, configure_nowhere, hstays⟩

end DesktopPolicy
