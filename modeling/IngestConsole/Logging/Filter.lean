import IngestConsole.Numeral.Decimal
import IngestConsole.Text.Blank
import IngestConsole.Text.CategoryTable

/-!
# Log filters

A log filter is a list of directives with commas between them.  A directive names a level, or what
it is about and a level: a target, a span in square brackets, fields of the span in braces.  Empty
directives are skipped.
-/

set_option autoImplicit false

namespace IngestConsole.Logging

open Numeral Text

/-- The names of the levels, from the quietest on. -/
def levelNames : List String :=
  ["off", "error", "warn", "info", "debug", "trace"]

/-- Whether a text is a level: its name in any case or its number. -/
def isLevel (s : List Char) : Bool :=
  match readUnsigned levelNames.length s with
  | .ok _ => true
  | .error _ => levelNames.contains (String.ofList (s.map Char.toLower))

/-- A place in a directive. -/
inductive Place
  /-- Before the first character. -/
  | start
  /-- In a level or a target. -/
  | name
  /-- In the name of a span. -/
  | span
  /-- In a field of a span; `isEmpty` tells that it has no character yet. -/
  | field (isEmpty : Bool)
  /-- Behind the fields of a span. -/
  | fields
  /-- Behind a span. -/
  | behindSpan
  /-- In the level after an equals sign, whose characters are given in reverse order. -/
  | level (read : List Char)
  deriving DecidableEq, Repr

/-- Whether a directive may start with a character. -/
def startsName (c : Char) : Bool :=
  c == '-' || c == ':' || c == '_' || inRanges alphanumericRanges c.toNat

namespace Place

/-- The place behind one more character, if the character may stand there. -/
def next? (p : Place) (c : Char) : Option Place :=
  match p, c with
  | start, '[' => some span
  | start, c => if startsName c then some name else none
  | name, '=' => some (level [])
  | name, '[' => some span
  | name, _ => some name
  | span, ']' => some behindSpan
  | span, '{' => some (field true)
  | span, _ => some span
  | field true, '}' => none
  | field false, '}' => some fields
  | field _, _ => some (field false)
  | fields, ']' => some behindSpan
  | fields, _ => none
  | behindSpan, '=' => some (level [])
  | behindSpan, _ => none
  | level read, c => some (level (c :: read))

/-- Whether a directive may end at a place.  `isBare` tells that no blanks stand around the
directive, without which it gives no level after an equals sign. -/
def isEnd (isBare : Bool) : Place → Bool
  | name => true
  | behindSpan => true
  | level read => isBare && (read.isEmpty || isLevel read.reverse)
  | _ => false

end Place

/-- Whether a text is a directive; blanks around it do not count. -/
def isDirective (s : List Char) : Bool :=
  let directive := trim s
  match directive.foldlM Place.next? .start with
  | some p => p.isEnd (directive == s)
  | none => false

/-- Whether a text is a log filter. -/
def isLogFilter (s : List Char) : Bool :=
  (s.splitOn ',').all fun d => d.isEmpty || isDirective d

/-- A log filter. -/
structure LogFilter where
  text : String
  isValid : isLogFilter text.toList = true
  deriving DecidableEq

end IngestConsole.Logging
