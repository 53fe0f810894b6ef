import IngestConsole.Logging.Setup
import IngestConsole.Numeral.Decimal
import IngestConsole.Table.Pagination
import IngestConsole.Table.Sort
import IngestConsole.Wire.DumpKind

/-!
# Usage errors

Why a command line is refused.
-/

set_option autoImplicit false

namespace IngestConsole.CommandLine

open Logging Numeral Table Wire

/-- Why a value is refused. -/
inductive ValueError
  | number (e : NumeralError)
  /-- The text is no number. -/
  | notANumber (text : String)
  | pageSize (e : PageSize.Invalid)
  | sortField (e : SortField.Unknown)
  | dumpKind (e : DumpKind.InvalidName)
  | logging (e : LoggingError)
  deriving DecidableEq, Repr

/-- The wording of a refused value. -/
def ValueError.message : ValueError → String
  | number e => e.message
  | notANumber text => "not a number: " ++ text
  | pageSize e => e.message
  | sortField e => e.message
  | dumpKind e => e.message
  | logging e => e.message

/-- Why a command line does not lead to a command. -/
inductive UsageError
  | helpRequested
  | versionRequested
  /-- Nothing was given. -/
  | nothingGiven
  /-- Options were given, but no command. -/
  | missingCommand
  | unknownCommand
  | unknownArgument
  /-- An option was given twice. -/
  | repeatedOption
  /-- A flag was given a value. -/
  | unexpectedValue
  /-- A value is missing, or it is not one of the listed ones. -/
  | invalidValue
  | refusedValue (e : ValueError)
  | missingArgument
  deriving DecidableEq, Repr

namespace UsageError

/-- The wording of what is wrong with a value. -/
def detail? : UsageError → Option String
  | refusedValue e => some e.message
  | _ => none

/-- Whether the user got what was asked for: help, or the version. -/
def isAnswer : UsageError → Bool
  | helpRequested => true
  | versionRequested => true
  | _ => false

end UsageError

end IngestConsole.CommandLine
