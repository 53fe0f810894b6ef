import IngestConsole.Url.Percent

/-!
# Paths

The path of a URL as text.  A path is read segment by segment: a single dot stands for nothing, a
double dot takes back the segment before it, and every other segment is written percent-encoded.
Characters that only lay out a text (tab, line feed, carriage return) are dropped beforehand.
-/

set_option autoImplicit false

namespace IngestConsole.Url

/-- A character that lays out a text and is no part of a URL. -/
def isLayout (c : Char) : Bool :=
  c = '\t' || c = '\n' || c = '\r'

/-- A text without the characters that lay it out. -/
def dropLayout (s : List Char) : List Char :=
  s.filter (!isLayout ·)

/-- Spellings of the segment that stands for nothing. -/
def isSingleDot (s : List Char) : Bool :=
  let s := s.map Char.toLower
  s == ['.'] || s == ['%', '2', 'e']

/-- Spellings of the segment that takes back the one before it. -/
def isDoubleDot (s : List Char) : Bool :=
  let s := s.map Char.toLower
  s == ['.', '.'] || s == ['%', '2', 'e', '.'] || s == ['.', '%', '2', 'e']
    || s == ['%', '2', 'e', '%', '2', 'e']

/-- The path ends in a slash. -/
def endsWithSlash (path : List Char) : Bool :=
  path.getLast? == some '/'

/-- A letter and a colon or a bar. -/
def isDriveLetter (s : List Char) : Bool :=
  match s with
  | [c, d] => c.isAlpha && (d == ':' || d == '|')
  | _ => false

/-- A letter and a colon. -/
def isNormalDriveLetter (s : List Char) : Bool :=
  isDriveLetter s && s.getLast? == some ':'

/-- What stands after the last slash of a path. -/
def lastSegment (path : List Char) : List Char :=
  (path.reverse.takeWhile (· ≠ '/')).reverse

/-- A path up to its last slash, and that slash. -/
def throughLastSlash (path : List Char) : List Char :=
  (path.reverse.dropWhile (· ≠ '/')).reverse

/-- Whether the slash at the end of a path may be dropped: it is not the first one and does not
end a drive letter. -/
def lastSlashCanGo (path : List Char) : Bool :=
  let before := path.dropLast
  before.contains '/' && !isDriveLetter (lastSegment before)

/-- Takes back the last segment of a path; a file path keeps its drive letter. -/
def popSegment (isFile : Bool) (path : List Char) : List Char :=
  if isFile && isNormalDriveLetter (lastSegment path) then path else throughLastSlash path

/-- Takes back the segment before the place where a path ends in a slash. -/
def takeBack (isFile : Bool) (path : List Char) : List Char :=
  popSegment isFile
    (if endsWithSlash path && lastSlashCanGo path then path.dropLast else path)

/-- A path that ends in a slash. -/
def withSlash (path : List Char) : List Char :=
  if endsWithSlash path then path else path ++ ['/']

/-- A path after one more encoded segment; `more` tells that a slash follows the segment. -/
def addSegment (isFile : Bool) (path segment : List Char) (more : Bool) : List Char :=
  if isDoubleDot segment then
    let shorter := takeBack isFile path
    if more then withSlash shorter else shorter
  else if isSingleDot segment then withSlash path
  else
    let segment :=
      if isFile && path.length == 1 && isDriveLetter segment then segment.take 1 ++ [':']
      else segment
    path ++ segment ++ (if more then ['/'] else [])

/-- A character that ends a segment of a path. -/
def separates (special : Bool) (c : Char) : Bool :=
  c == '/' || (special && c == '\\')

/-- Reads the segments of `input` onto a path, where `segment` holds the characters of the
current segment in reverse order. -/
def readSegments (special isFile : Bool) (path segment : List Char) : List Char → List Char
  | [] => addSegment isFile path (percentEncode inPathSet segment.reverse) false
  | c :: rest =>
    if separates special c then
      readSegments special isFile
        (addSegment isFile path (percentEncode inPathSet segment.reverse) true) [] rest
    else readSegments special isFile path (c :: segment) rest

/-- A path without superfluous slashes at its start. -/
def oneSlash (path : List Char) : List Char :=
  '/' :: path.dropWhile (· == '/')

/-- The path that starts as `path` and goes on with `input`. -/
def readPath (special isFile : Bool) (path input : List Char) : List Char :=
  let path := readSegments special isFile path [] input
  if isFile then oneSlash path else path

/-- A path without an empty segment at its end. -/
def dropEmptySegment (path : List Char) : List Char :=
  if path.length > 1 && endsWithSlash path then path.dropLast else path

/-- A path with one more segment.  A single and a double dot add nothing. -/
def appendSegment (special isFile : Bool) (path segment : List Char) : List Char :=
  if segment = ['.'] ∨ segment = ['.', '.'] then path
  else
    let path := if path.length = 1 then path else path ++ ['/']
    addSegment isFile path (percentEncode (inSegmentSet special) (dropLayout segment)) false

/-- A path with more segments. -/
def appendSegments (special isFile : Bool) (path : List Char) (segments : List (List Char)) :
    List Char :=
  segments.foldl (appendSegment special isFile) path

end IngestConsole.Url
