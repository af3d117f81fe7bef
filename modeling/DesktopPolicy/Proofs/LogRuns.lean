-- The laws of log books over runs. From a book without handlers and without a level, any events lead to
-- a book whose handlers, once attached, stay the same, and whose level is the last that was accepted.
-- Then every message at or above the level is one line of the console, in the order in which they
-- were logged, and no other line comes there, as long as no logger has a gap in its name.
import DesktopPolicy.Proofs.LogLineage
import DesktopPolicy.Proofs.LogSetup

namespace DesktopPolicy

namespace Log

namespace Book

/-! ## What events call for -/

/-- The lines that the event calls for at a level. -/
def Event.due (level : Level) : Event → List Line
  | log name own message =>
    if level.rank ≤ own.rank then [Line.ofRecord (recordOf name own message)] else []
  | setUp _ _ | call _ => []

/-- The lines that events call for, one after the other, from a level on. -/
def due (level : Level) : List Event → List Line
  | [] => []
  | event :: later => event.due level ++ due (event.level?.getD level) later

/-- No message of the event goes through a logger with a gap in its name. -/
def Event.IsPlain : Event → Prop
  | log name _ _ => ¬ HasGap (qualified name)
  | setUp _ _ | call _ => True

instance : DecidablePred Event.IsPlain
  | .log name _ _ => inferInstanceAs (Decidable (¬ HasGap (qualified name)))
  | .setUp _ _ | .call _ => isTrue trivial

/-! ## Levels -/

theorem level_step (book : Book) (event : Event) :
    (book.step event).level = event.level?.or book.level := by
  cases event with
  | setUp order started =>
    rcases hstep : book.configureWith started order with ⟨outcome, after⟩
    rw [step, hstep, Event.level?]
    cases configureWith_eq_iff.mp hstep with
    | refused hlevel => simp [hlevel, Except.toOption]
    | again hlevel hset => simp [hlevel, Except.toOption, setLevel]
    | console hlevel hnew hfile => simp [hlevel, Except.toOption, setLevel]
    | withFile hlevel hnew hfile hstarted => simp [hlevel, Except.toOption, setLevel]
    | halfway hlevel hnew hfile hstarted => simp [hlevel, Except.toOption, setLevel]
  | call name => simp [step, Event.level?]
  | log name level message => simp [step, Event.level?]

/-- The level is the last one that was accepted. -/
theorem level_run (events : List Event) (book : Book) :
    (book.run events).level = (events.filterMap Event.level?).getLast?.or book.level := by
  induction events generalizing book with
  | nil => rfl
  | cons event later ih =>
    have hlater := ih (book.step event)
    rw [level_step] at hlater
    refine hlater.trans ?_
    rw [List.filterMap_cons]
    cases event.level? with
    | none => rfl
    | some level => simp [List.getLast?_cons]

/-! ## Books that are set up -/

/-- The console is attached, and perhaps a file behind it. -/
def AreAttached (handlers : List Handler) : Prop :=
  handlers = [.console] ∨ ∃ file, handlers = [.console, .file file]

theorem AreAttached.emit {handlers : List Handler} (h : AreAttached handlers) (line : Line) :
    AreAttached (handlers.map (Handler.emit line)) := by
  rcases h with rfl | ⟨file, rfl⟩
  · exact .inl rfl
  · exact .inr ⟨_, rfl⟩

theorem AreAttached.shown {handlers : List Handler} (h : AreAttached handlers) (line : Line) :
    handlers.flatMap (Handler.shown line) = [line] := by
  rcases h with rfl | ⟨file, rfl⟩
  · rfl
  · rfl

theorem AreAttached.ne_nil {handlers : List Handler} (h : AreAttached handlers) : handlers ≠ [] := by
  rcases h with rfl | ⟨file, rfl⟩
  · exact List.cons_ne_nil _ _
  · exact List.cons_ne_nil _ _

/-- The logger takes after the package, whatever loggers were called. -/
def IsAlwaysHeir (logger : String) : Prop := ∀ called, isHeir called logger = true

/-- The book is set up at a level. What the heirs of the package remember goes by the level. -/
structure IsSetUp (threshold : Level) (book : Book) : Prop where
  level : book.level = some threshold
  attached : AreAttached book.handlers
  remembered : ∀ logger own answer, IsAlwaysHeir logger →
    book.remembered.lookup (logger, own) = some answer →
    answer = decide (threshold.rank ≤ own.rank)

variable {book : Book} {threshold : Level}

theorem isSetUp_of_setLevel (threshold : Level) (book : Book) {handlers : List Handler}
    (h : AreAttached handlers) : IsSetUp threshold { book.setLevel threshold with handlers } where
  level := rfl
  attached := h
  remembered := by
    intro logger own answer _ hlookup
    cases hlookup

theorem IsSetUp.call (h : book.IsSetUp threshold) (logger : String) :
    (book.call logger).IsSetUp threshold where
  level := by simpa using h.level
  attached := by simpa using h.attached
  remembered := by simpa using h.remembered

theorem IsSetUp.writesAt (h : book.IsSetUp threshold) {logger : String} (hheir : IsAlwaysHeir logger)
    (own : Level) : book.writesAt logger own = decide (threshold.rank ≤ own.rank) := by
  unfold Book.writesAt
  cases hlookup : book.remembered.lookup (logger, own) with
  | none => simp [Book.threshold, serves, hheir book.loggers.contains, h.level]
  | some answer => exact h.remembered logger own answer hheir hlookup

theorem remembered_write (record : Record) (book : Book) :
    (book.write record).remembered =
      ((record.logger, record.level), (book.call record.logger).writesAt record.logger record.level)
        :: book.remembered := by
  unfold write
  dsimp only
  split
  · simp
  · simp

theorem IsSetUp.write (h : book.IsSetUp threshold) (record : Record) :
    (book.write record).IsSetUp threshold where
  level := by simpa using h.level
  attached := by
    rcases handlers_write record book with hkept | hemitted
    · rw [hkept]
      exact h.attached
    · rw [hemitted]
      exact h.attached.emit _
  remembered := by
    intro logger own answer hheir hlookup
    rw [remembered_write, List.lookup_cons] at hlookup
    split at hlookup
    next hasked =>
      obtain ⟨rfl, rfl⟩ : logger = record.logger ∧ own = record.level := by simpa using hasked
      cases hlookup
      exact (h.call record.logger).writesAt hheir record.level
    next => exact h.remembered logger own answer hheir hlookup

/-- An heir of the package puts a message that is due on the console, and no other. -/
theorem IsSetUp.console_write (h : book.IsSetUp threshold) {record : Record}
    (hheir : IsAlwaysHeir record.logger) :
    (book.write record).console = book.console ++
      if threshold.rank ≤ record.level.rank then [Line.ofRecord record] else [] := by
  have hwrites := (h.call record.logger).writesAt hheir record.level
  unfold Book.write
  dsimp only
  rw [hwrites]
  by_cases hdue : threshold.rank ≤ record.level.rank
  · have hshown := h.attached.shown (Line.ofRecord record)
    simp [hdue, handle, serves, hheir (List.contains _), h.attached.ne_nil, hshown]
  · simp [hdue]

/-! ## Events and runs -/

theorem IsSetUp.step (h : book.IsSetUp threshold) (event : Event) :
    (book.step event).IsSetUp (event.level?.getD threshold) := by
  cases event with
  | setUp order started =>
    rw [step_setUp_of_attached h.attached.ne_nil]
    cases (Event.setUp order started).level? with
    | none => exact h
    | some level => exact isSetUp_of_setLevel level book h.attached
  | call name => exact h.call _
  | log name own message => exact h.write _

/-- Any event leaves a book without handlers as it is, or sets it up. -/
theorem isSetUp_step {book : Book} (hnew : book.handlers = []) (event : Event) :
    (book.step event).handlers = [] ∨ ∃ threshold, (book.step event).IsSetUp threshold := by
  cases event with
  | setUp order started =>
    rcases hstep : book.configureWith started order with ⟨outcome, after⟩
    rw [Book.step, hstep]
    cases configureWith_eq_iff.mp hstep with
    | refused hlevel => exact .inl hnew
    | again hlevel hset => exact absurd hnew hset
    | console hlevel _ hfile => exact .inr ⟨_, isSetUp_of_setLevel _ book (.inl rfl)⟩
    | withFile hlevel _ hfile hstarted =>
      exact .inr ⟨_, isSetUp_of_setLevel _ book (.inr ⟨_, rfl⟩)⟩
    | halfway hlevel _ hfile hstarted => exact .inr ⟨_, isSetUp_of_setLevel _ book (.inl rfl)⟩
  | call name => exact .inl (by simpa [Book.step] using hnew)
  | log name own message =>
    rw [handlers_eq_nil_iff] at hnew ⊢
    exact .inl ((places_write _ book).trans hnew)

theorem isSetUp_run (events : List Event) {book : Book}
    (h : book.handlers = [] ∨ ∃ threshold, book.IsSetUp threshold) :
    (book.run events).handlers = [] ∨ ∃ threshold, (book.run events).IsSetUp threshold := by
  induction events generalizing book with
  | nil => exact h
  | cons event later ih =>
    refine ih ?_
    rcases h with hnew | ⟨threshold, hset⟩
    · exact isSetUp_step hnew event
    · exact .inr ⟨_, hset.step event⟩

theorem IsSetUp.console_step (h : book.IsSetUp threshold) {event : Event} (hplain : event.IsPlain) :
    (book.step event).console = book.console ++ event.due threshold := by
  cases event with
  | setUp order started =>
    rw [step_setUp_of_attached h.attached.ne_nil, Event.due, List.append_nil]
    cases (Event.setUp order started).level? with
    | none => rfl
    | some level => rfl
  | call name => simp [Book.step, Event.due]
  | log name own message =>
    exact h.console_write fun called => isHeir_qualified called hplain

theorem IsSetUp.console_run (h : book.IsSetUp threshold) {events : List Event}
    (hplain : ∀ event ∈ events, event.IsPlain) :
    (book.run events).console = book.console ++ due threshold events := by
  induction events generalizing book threshold with
  | nil => exact (List.append_nil _).symm
  | cons event later ih =>
    obtain ⟨hevent, hlater⟩ := List.forall_mem_cons.mp hplain
    calc (book.run (event :: later)).console
        = (book.step event).console ++ due (event.level?.getD threshold) later :=
          ih (h.step event) hlater
      _ = book.console ++ event.due threshold ++ due (event.level?.getD threshold) later := by
          rw [h.console_step hevent]
      _ = book.console ++ due threshold (event :: later) := List.append_assoc _ _ _

theorem run_append (before after : List Event) (book : Book) :
    book.run (before ++ after) = (book.run before).run after :=
  List.foldl_append

/-! ## Behind a gap -/

theorem console_write_of_not_serves {record : Record}
    (hout : (book.call record.logger).serves record.logger = false)
    (hasked : book.remembered.lookup (record.logger, record.level) = none)
    (hlow : ¬ Level.warning.rank ≤ record.level.rank) :
    (book.write record).console = book.console := by
  have hwrites : (book.call record.logger).writesAt record.logger record.level = false := by
    simp [Book.writesAt, Book.threshold, hasked, hout, hlow]
  unfold Book.write
  dsimp only
  rw [hwrites]
  simp

/-- A book set up as usual, and a logger called by the gap alone. -/
def gapCalled : List Event := [.setUp {} (orderedFile {}), .call "."]

theorem run_gapCalled : ({} : Book).run gapCalled =
    { level := some .info, handlers := [.console], loggers := [package ++ ".."] } := by
  have hset : ({} : Book).configureWith (orderedFile {}) {} =
      (.ok (), { level := some .info, handlers := [.console] }) :=
    configureWith_eq_iff.mpr (.console orderedLevel_usual rfl rfl)
  have hname : qualified "." = package ++ ".." := by decide
  simp [gapCalled, run, step, hset, hname, call]

theorem console_log_behind_gap {name : String} (h : HasGap (qualified name)) (message : String) :
    (({} : Book).run (gapCalled ++ [.log name .info message])).console =
      (({} : Book).run gapCalled).console := by
  rw [run_append, run_gapCalled]
  refine console_write_of_not_serves ?_ rfl (by simp [recordOf, Level.rank])
  have hne : qualified name ≠ package ++ "." := by
    intro hname
    rw [hname] at h
    exact absurd h (by decide)
  refine not_isHeir_of_gap ?_ ?_ h
  · unfold call
    split
    · decide
    · simp [recordOf, hne.symm]
  · unfold call
    split
    · simp
    · simp

end Book

end Log

/-! ## The laws -/

open Log Log.Book

/-- Whatever happens to a book without handlers and without a level: its handlers are none, the console,
or the console and a file, and once there are any they stay. Its level is the last that was accepted.
Where there are handlers, each message through a logger without a gap in its name that is at the level
or above becomes one line of the console, in the order of the messages, and nothing else comes there.
Behind a gap such a message may be lost. -/
theorem a_log_book_is_attached_once_and_shows_what_is_due (start : Book)
    (hnew : start.handlers = []) (hlevel : start.level = none) (before after : List Event) :
    ((start.run before).handlers = [] ∨ (start.run before).handlers = [.console] ∨
      ∃ file, (start.run before).handlers = [.console, .file file]) ∧
    ((start.run before).handlers ≠ [] →
      (start.run (before ++ after)).places = (start.run before).places) ∧
    (start.run before).level = (before.filterMap Event.level?).getLast? ∧
    ((start.run before).handlers ≠ [] → (∀ event ∈ after, event.IsPlain) →
      ∃ threshold, (start.run before).level = some threshold ∧
        (start.run (before ++ after)).console =
          (start.run before).console ++ due threshold after) ∧
    ∀ name, HasGap (qualified name) → ∃ earlier threshold,
      (({} : Book).run earlier).handlers = [.console] ∧
      (({} : Book).run earlier).level = some threshold ∧
      ∀ message, (({} : Book).run (earlier ++ [.log name threshold message])).console =
        (({} : Book).run earlier).console := by
  have hreached := isSetUp_run before (.inl hnew)
  refine ⟨?_, ?_, ?_, ?_, ?_⟩
  · rcases hreached with hnone | ⟨threshold, hset⟩
    · exact .inl hnone
    · exact .inr hset.attached
  · intro hattached
    rw [run_append]
    exact places_run after hattached
  · rw [level_run, hlevel, Option.or_none]
  · intro hattached hplain
    rcases hreached with hnone | ⟨threshold, hset⟩
    · exact absurd hnone hattached
    · refine ⟨threshold, hset.level, ?_⟩
      rw [run_append]
      exact hset.console_run hplain
  · intro name hgap
    refine ⟨gapCalled, .info, ?_, ?_, console_log_behind_gap hgap⟩
    · rw [run_gapCalled]
    · rw [run_gapCalled]

/-- Behind a gap a message at the level is lost, and one below it comes to the console. -/
theorem a_gap_loses_a_message_and_lets_another_through :
    (({} : Book).run [.setUp {} (orderedFile {})]).handlers = [.console] ∧
    (({} : Book).run [.setUp {} (orderedFile {})]).level = some .info ∧
    (({} : Book).run [.setUp {} (orderedFile {}), .log ".x" .info "m"]).console = [] ∧
    (({} : Book).run [.setUp { level := .text "CRITICAL" } (orderedFile {})]).level =
      some .critical ∧
    (({} : Book).run [.setUp { level := .text "CRITICAL" } (orderedFile {}),
      .log ".x" .warning "m"]).console = [.bare "m"] := by
  decide +kernel

/-- A book is set up with a file. -/
def filed : List Event := [.setUp (orderIn "logs") (orderedFile (orderIn "logs"))]

/-- Messages, and between them an order that raises the level and asks for a file that there is not. -/
def raised : List Event :=
  [.log "rbac.rules" .debug "a", .log "rbac.rules" .info "b",
    .setUp { orderIn "" with level := .text "error" } (orderedFile (orderIn "")),
    .log "rbac.rules" .info "c", .log "desktop_access.api" .error "d"]

theorem run_filed : ({} : Book).run filed =
    { level := some .info, handlers := [.console, .file (newFile "logs")] } := by
  rw [filed, run, List.foldl_cons, List.foldl_nil, step, ← configure, configure_logs]

theorem a_raised_level_hides_what_it_showed :
    (({} : Book).run filed).handlers = [.console, .file (newFile "logs")] ∧
    (({} : Book).run (filed ++ raised)).places = [.console, .file (newFile "logs")] ∧
    (({} : Book).run (filed ++ raised)).console =
      [.timed "[INFO] [desktop_access.rbac.rules] b",
        .timed "[ERROR] [desktop_access.api] d"] := by
  obtain ⟨-, hplaces, -, hconsole, -⟩ :=
    a_log_book_is_attached_once_and_shows_what_is_due {} rfl rfl filed raised
  rw [run_filed] at hplaces hconsole
  have hattached : [Handler.console, .file (newFile "logs")] ≠ [] := List.cons_ne_nil _ _
  have hplain : ∀ event ∈ raised, event.IsPlain := by decide
  obtain ⟨threshold, hthreshold, hshown⟩ := hconsole hattached hplain
  obtain rfl : Level.info = threshold := Option.some.inj hthreshold
  have hdue : due .info raised =
      [.timed "[INFO] [desktop_access.rbac.rules] b", .timed "[ERROR] [desktop_access.api] d"] := by
    decide +kernel
  refine ⟨?_, hplaces hattached, ?_⟩
  · rw [run_filed]
  · rw [hshown, hdue]
    rfl

end DesktopPolicy
