/-!
# Lines of text

A text is read as lines: every line feed ends a line, a carriage return before it belongs to the
end of the line, and what follows the last line feed is a line only if it is not empty.
-/

set_option autoImplicit false

namespace IngestConsole.Text

/-- Drops one carriage return at the end of a line. -/
def dropReturn (line : List Char) : List Char :=
  match line.reverse with
  | '\r' :: rest => rest.reverse
  | _ => line

/-- The lines of a text, where `line` holds the characters read since the last line feed in
reverse order. -/
def linesFrom (line : List Char) : List Char → List (List Char)
  | [] => if line.isEmpty then [] else [line.reverse]
  | c :: rest =>
    if c = '\n' then dropReturn line.reverse :: linesFrom [] rest
    else linesFrom (c :: line) rest

/-- The lines of a text. -/
def lines (s : List Char) : List (List Char) :=
  linesFrom [] s

/-- Texts joined by a separator. -/
def joinWith (separator : List Char) : List (List Char) → List Char
  | [] => []
  | [s] => s
  | s :: rest => s ++ separator ++ joinWith separator rest

end IngestConsole.Text
