import MarkTree.Command.Session
import Mathlib.Data.List.Induction

namespace MarkTree.Logging

open MarkTree.Files

/-- The handlers of a log file, if it has been opened. -/
def fileHandlers (traced : Bool) (opened : Option Location) : List Handler :=
  (opened.map fun location => ({ sink := .file location, traced } : Handler)).toList

namespace Outlet

theorem logger_put (outlet : Outlet) (sink : Sink) (text : String) :
    (outlet.put sink text).logger = outlet.logger := by
  cases sink <;> rfl

/-- What is said to a sink leaves the handlers alone, also if the message is broken. -/
theorem logger_putMessage (outlet : Outlet) (sink : Sink) (line : String → String) (message : Message) :
    (outlet.putMessage sink line message).logger = outlet.logger := by
  cases message <;> exact logger_put _ _ _

/-- Records change what is written, not the logger that writes them. -/
theorem logger_emit (outlet : Outlet) (record : Record) : (outlet.emit record).logger = outlet.logger := by
  have hall (handlers : List Handler) (start : Outlet) : (handlers.foldl
      (fun outlet handler =>
        outlet.putMessage handler.sink (handler.line outlet.clock record) record.message) start).logger =
        start.logger := by
    induction handlers generalizing start with
    | nil => rfl
    | cons handler rest ih => rw [List.foldl_cons, ih, logger_putMessage]
  rw [emit]
  split
  · rfl
  · split
    · split
      · rfl
      · exact logger_putMessage _ _ _ _
    · exact hall _ _

theorem logger_note (outlet : Outlet) (level : Level) (logger message : String) :
    (outlet.note level logger message).logger = outlet.logger :=
  logger_emit outlet _

/-- The file comes after the handlers that are there; if it cannot be opened, they stay as they are. -/
theorem logger_addLogFile (outlet : Outlet) (here : Location) (path : String) (traced : Bool) :
    (addLogFile outlet here path traced).logger =
      { outlet.logger with
        handlers :=
          outlet.logger.handlers ++ fileHandlers traced (openLog outlet.files here path).toOption } := by
  unfold addLogFile
  cases openLog outlet.files here path with
  | error error =>
    have hnone : fileHandlers traced (Except.error error : Except FileError Location).toOption = [] := rfl
    rw [hnone, List.append_nil]
    exact logger_note outlet _ _ _
  | ok location => exact logger_note { outlet with logger := _, files := _ } _ _ _

end Outlet

/-- What logging is set up with: the level, a log file, and whether records are traced, and the place and the
    files at that time. -/
structure Setup where
  here : Location
  files : FileTree
  level : Datum
  file : Option String
  traced : Bool

namespace Setup

variable {setup : Setup} {location : Location}

/-- The text of the log file's path. A text that is no path names no file, and neither does an empty one. -/
def path? (setup : Setup) : Option String :=
  setup.file.filter fun path => path != "" && isPathText path

/-- A log file is named, and it can be opened at this location. -/
def Opens (setup : Setup) (location : Location) : Prop :=
  ∃ path, setup.file = some path ∧ path ≠ "" ∧ isPathText path = true ∧
    openLog setup.files setup.here path = .ok location

def opened? (setup : Setup) : Option Location :=
  setup.path?.bind fun path => (openLog setup.files setup.here path).toOption

def handlers (setup : Setup) : List Handler :=
  { sink := .console, traced := setup.traced } :: fileHandlers setup.traced setup.opened?

/-- A log file is asked for by a path that is not empty and can stand for a file. -/
theorem path?_eq_some_iff {path : String} :
    setup.path? = some path ↔ setup.file = some path ∧ path ≠ "" ∧ isPathText path = true := by
  rw [path?, Option.filter_eq_some_iff, Bool.and_eq_true, bne_iff_ne]

/-- The log file of a setup is opened just where the setup can open one. -/
theorem opened?_eq_some_iff : setup.opened? = some location ↔ setup.Opens location := by
  have hok (result : Except FileError Location) :
      result.toOption = some location ↔ result = .ok location := by
    cases result with
    | error error => exact ⟨nofun, nofun⟩
    | ok found => rw [Except.toOption, Option.some.injEq, Except.ok.injEq]
  simp only [opened?, Option.bind_eq_some_iff, path?_eq_some_iff, hok, Opens, and_assoc]

/-- One console handler, and a file handler exactly if the log file can be opened. -/
theorem handlers_cases (setup : Setup) :
    (∃ location, setup.Opens location ∧
        setup.handlers = [⟨.console, setup.traced⟩, ⟨.file location, setup.traced⟩]) ∨
      (∀ location, ¬ setup.Opens location) ∧ setup.handlers = [⟨.console, setup.traced⟩] := by
  cases hopened : setup.opened? with
  | some location =>
    refine .inl ⟨location, opened?_eq_some_iff.mp hopened, ?_⟩
    rw [handlers, hopened]
    rfl
  | none =>
    refine .inr ⟨fun location hopens => ?_, ?_⟩
    · rw [opened?_eq_some_iff.mpr hopens] at hopened
      cases hopened
    · rw [handlers, hopened]
      rfl

end Setup

namespace Outlet

/-- Logging set up with the files as they are at that time. A log file whose text is no path fails before
    anything is opened, when the console is set up already. -/
def afterSetup (outlet : Outlet) (setup : Setup) : Outlet :=
  configure { outlet with files := setup.files } setup.here setup.level (setup.file.filter isPathText)
    setup.traced

def afterSetups (outlet : Outlet) (setups : List Setup) : Outlet :=
  setups.foldl afterSetup outlet

/-- One setup: all that is kept of the logger before is which handlers have been closed. -/
theorem logger_afterSetup (outlet : Outlet) (setup : Setup) :
    (outlet.afterSetup setup).logger =
      { level := resolveLevel setup.level
        propagates := false
        handlers := setup.handlers
        closed := outlet.logger.closed ++ outlet.logger.handlers } := by
  obtain ⟨here, files, level, file, traced⟩ := setup
  unfold afterSetup configure Setup.handlers Setup.opened? Setup.path?
  dsimp only
  cases file with
  | none => rfl
  | some path =>
    rw [Option.filter_some, Option.filter_some]
    by_cases hpath : isPathText path = true
    · rw [if_pos hpath]
      by_cases hempty : path = ""
      · subst hempty
        rfl
      · have hnamed : (path != "" && isPathText path) = true :=
          Bool.and_eq_true_iff.mpr ⟨bne_iff_ne.mpr hempty, hpath⟩
        rw [if_pos hnamed]
        dsimp only
        rw [if_neg hempty, logger_addLogFile]
        rfl
    · rw [if_neg hpath, if_neg fun hnamed => hpath (Bool.and_eq_true_iff.mp hnamed).2]
      rfl

theorem afterSetups_append_singleton (outlet : Outlet) (setups : List Setup) (last : Setup) :
    outlet.afterSetups (setups ++ [last]) = (outlet.afterSetups setups).afterSetup last := by
  rw [afterSetups, List.foldl_append]
  rfl

/-- Over a run of setups the handlers at the start are closed first, then those of each setup but the
    last. -/
theorem closed_afterSetups (outlet : Outlet) (setups : List Setup) (last : Setup) :
    (outlet.afterSetups (setups ++ [last])).logger.closed =
      outlet.logger.closed ++ outlet.logger.handlers ++ setups.flatMap Setup.handlers := by
  induction setups using List.reverseRecOn generalizing last with
  | nil =>
    rw [afterSetups_append_singleton, logger_afterSetup, List.flatMap_nil, List.append_nil]
    rfl
  | append_singleton setups setup ih =>
    rw [afterSetups_append_singleton, logger_afterSetup]
    dsimp only
    rw [ih setup, afterSetups_append_singleton, logger_afterSetup, List.flatMap_append,
      List.flatMap_singleton, List.append_assoc]

/-- However logging has been set up before, and whatever handlers there were at the start, the last setup
    alone tells the level and the handlers: one for the console and, if a log file is named that can be opened
    and only then, one for it, both in the format of that setup; nothing goes to the surroundings. Each setup
    closes the handlers that it finds and no others, so in the end all that were installed are closed, each
    once and in order, but those of the last. -/
theorem logger_afterSetups (outlet : Outlet) (setups : List Setup) (last : Setup) :
    let before := (outlet.afterSetups setups).logger
    let after := (outlet.afterSetups (setups ++ [last])).logger
    after.level = resolveLevel last.level ∧
      after.propagates = false ∧
      ((∃ location, last.Opens location ∧
          after.handlers = [⟨.console, last.traced⟩, ⟨.file location, last.traced⟩]) ∨
        (∀ location, ¬ last.Opens location) ∧ after.handlers = [⟨.console, last.traced⟩]) ∧
      after.closed = before.closed ++ before.handlers ∧
      after.closed =
        outlet.logger.closed ++ outlet.logger.handlers ++ setups.flatMap Setup.handlers := by
  intro before after
  have hafter : after =
      { level := resolveLevel last.level
        propagates := false
        handlers := last.handlers
        closed := before.closed ++ before.handlers } := by
    rw [← logger_afterSetup, ← afterSetups_append_singleton]
  refine ⟨?_, ?_, ?_, ?_, closed_afterSetups outlet setups last⟩
  · rw [hafter]
  · rw [hafter]
  · rw [hafter]
    exact last.handlers_cases
  · rw [hafter]

/-- After a setup a record that is let through is one line on the console, and one more at the end of the log
    file if there is one. -/
theorem emit_afterSetup (outlet : Outlet) (setup : Setup) {record : Record} {message : String}
    (hlevel : (outlet.afterSetup setup).logger.threshold ≤ record.level.severity)
    (hmessage : record.message = .text message) :
    let after := outlet.afterSetup setup
    let line := Handler.line { sink := .console, traced := setup.traced } after.clock record message
    after.emit record =
      { after with
        console := after.console ++ line
        files := setup.opened?.elim after.files fun location => after.files.append location line } := by
  intro after line
  have hhandlers : after.logger.handlers = setup.handlers := by rw [logger_afterSetup]
  rw [emit, if_neg (Int.not_lt.mpr hlevel), hhandlers, Setup.handlers, hmessage]
  cases setup.opened? with
  | none => rfl
  | some location => rfl

end Outlet

end MarkTree.Logging

namespace MarkTree.Command

open MarkTree.Files MarkTree.Logging

/-- A session sets up logging once the level is known, with the arguments that it is given. -/
theorem outlet_setUpLogging (host : Host) {arguments : Arguments} {level : Datum} (session : Session)
    (hlevel : askedLevel arguments = .ok level) :
    (setUpLogging host arguments session).2 =
      { session with
        outlet := session.outlet.afterSetup
          { here := host.here
            files := session.outlet.files
            level
            file := givenText? arguments "log_file"
            traced := (arguments.get "trace").truthy } } := by
  unfold setUpLogging Outlet.afterSetup
  rw [hlevel]
  cases givenText? arguments "log_file" with
  | none => rfl
  | some path =>
    rw [Option.filter_some]
    by_cases hpath : isPathText path = true
    · simp only [Option.all_some, hpath, if_true]
      rfl
    · simp only [Option.all_some, hpath]
      rfl

end MarkTree.Command
