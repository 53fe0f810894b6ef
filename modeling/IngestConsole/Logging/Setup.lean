import IngestConsole.Logging.Filter
import IngestConsole.Text.Quoted

/-!
# Logging

What the console logs and in which format.  At most one logger is installed in a process.
-/

set_option autoImplicit false

namespace IngestConsole.Logging

open Text

/-- How log lines are written. -/
inductive LogFormat
  | text
  | json
  | journald
  deriving DecidableEq, Repr

/-- The name of a format. -/
def LogFormat.name : LogFormat → String
  | text => "text"
  | json => "json"
  | journald => "journald"

/-- Why logging is not set up. -/
inductive LoggingError
  | unknownFormat (name : String)
  | journaldUnsupported
  | alreadyInstalled
  | invalidFilter (text : String)
  deriving DecidableEq, Repr

/-- The wording of a logging error. -/
def LoggingError.message : LoggingError → String
  | unknownFormat name =>
    "unknown log format " ++ quoted name ++ ", use one of: text, json, journald"
  | journaldUnsupported => "journald logging needs a Linux build with the `journald` feature"
  | alreadyInstalled => "console logger is already installed"
  | invalidFilter text => "invalid log filter directive " ++ quoted text

/-- The format with a name; case and blanks around it do not matter. -/
def LogFormat.ofName (s : String) : Except LoggingError LogFormat :=
  let name := String.ofList ((trim s.toList).map Char.toLower)
  if name = "text" then .ok .text
  else if name = "json" then .ok .json
  else if name = "journald" then .error .journaldUnsupported
  else .error (.unknownFormat s)

/-- Reads a log filter. -/
def LogFilter.ofText (s : String) : Except LoggingError LogFilter :=
  if h : isLogFilter s.toList then .ok ⟨s, h⟩ else .error (.invalidFilter s)

/-- What is logged and how. -/
structure LogSettings where
  format : LogFormat := .text
  filter : LogFilter
  /-- Whether lines name the part of the program that they are about. -/
  withTargets : Bool := true
  deriving DecidableEq

/-- Installs a logger; `isInstalled` tells that the process has one. -/
def LogSettings.install (s : LogSettings) (isInstalled : Bool) : Except LoggingError Unit :=
  match s.format with
  | .journald => .error .journaldUnsupported
  | _ => if isInstalled then .error .alreadyInstalled else .ok ()

end IngestConsole.Logging
