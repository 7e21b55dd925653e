import Compositing.Text.Lowercase

/-!
# Logging

How much is logged, in which format and where. Setting logging up means to read the level, to make the
directory of the log file if there is one, and to install the log for the whole process; the first of
these that fails is the fault.
-/

namespace Compositing

inductive LogLevel where
  | trace
  | debug
  | info
  | warn
  | error
  deriving DecidableEq, Repr, Inhabited

namespace LogLevel

def all : List LogLevel := [trace, debug, info, warn, error]

def name : LogLevel → String
  | trace => "trace"
  | debug => "debug"
  | info => "info"
  | warn => "warn"
  | error => "error"

def names : List String := all.map name

/-- The level of a name in lower case. -/
def ofName? (text : String) : Option LogLevel := all.find? (·.name == text)

end LogLevel

structure LoggingConfig where
  /-- The name of a level, in any case. -/
  level : String := "info"
  /-- A file to log to besides the standard output. -/
  filePath : Option String := none
  /-- The name of a format, in any case. -/
  format : String := "text"
  deriving DecidableEq, Repr, Inhabited

inductive LoggingFault where
  /-- No level has this name, given in lower case. -/
  | unknownLevel (name : String)
  | directory (path reason : String)
  /-- The log could not be installed for the process. -/
  | install (reason : String)
  /-- A fault that the embedding program found. -/
  | reported (reason : String)
  deriving DecidableEq, Repr

def LoggingFault.message : LoggingFault → String
  | unknownLevel name => s!"Invalid log level in config: {name}"
  | directory path reason => s!"Failed to create log directory {path}: {reason}"
  | install reason =>
    s!"Failed to set global tracing subscriber. Was it already initialized? {reason}"
  | reported reason => reason

/-- What the process answers when logging is set up. -/
structure LoggingHost where
  makeDirectory : String → Except String Unit
  install : LogLevel → Except String Unit

/-- The path without its last component; a path of one component lies in the current directory. -/
def directoryOf (path : String) : String :=
  let reversed := path.toList.reverse.dropWhile (· == '/')
  let parent := (reversed.dropWhile (· != '/')).dropWhile (· == '/')
  if !parent.isEmpty then String.ofList parent.reverse
  else if reversed.contains '/' then "/"
  else "."

/-- Sets logging up. Gives also the directories that were made. -/
def LoggingConfig.setUp (config : LoggingConfig) (host : LoggingHost) :
    Except LoggingFault Unit × List String :=
  let name := Text.lowercase config.level
  match LogLevel.ofName? name with
  | none => (.error (.unknownLevel name), [])
  | some level =>
    let install := (host.install level).mapError LoggingFault.install
    match config.filePath with
    | none => (install, [])
    | some path =>
      let directory := directoryOf path
      -- The log is not installed without its directory.
      match host.makeDirectory directory with
      | .error reason => (.error (.directory directory reason), [])
      | .ok _ => (install, [directory])

end Compositing
