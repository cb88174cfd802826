import RowTree.Text.Letter
import RowTree.Url.Percent

/-!
# Paths of a URL

A path is a list of segments, each after a slash. A segment of one dot stands
for nothing and one of two dots takes back the segment before it; a dot may be
percent-encoded. The letter of a drive is never taken back.

Tabs and line breaks in a URL count for nothing, with one exception: after the
letter of a drive at the front of a file's path they part it from what follows.
So a segment is read with the breaks in it.
-/

namespace RowTree.Url

def isTabOrBreak (c : Char) : Bool := c == '\t' || c == '\n' || c == '\r'

def withoutBreaks (text : List Char) : List Char := text.filter (!isTabOrBreak ·)

def skipBreaks (text : List Char) : List Char := text.dropWhile isTabOrBreak

/-- `.` or its encoded form at the front of a segment, and what follows it. -/
def dropDot? : List Char → Option (List Char)
  | '.' :: rest => some rest
  | '%' :: '2' :: 'e' :: rest | '%' :: '2' :: 'E' :: rest => some rest
  | _ => none

def isSingleDot (segment : List Char) : Bool := dropDot? segment == some []

def isDoubleDot (segment : List Char) : Bool := (dropDot? segment).bind dropDot? == some []

/-- What follows the letter of a drive and its colon or bar. -/
def afterDrive? : List Char → Option (List Char)
  | letter :: mark :: rest =>
    if letter.isAlpha && (mark == ':' || mark == '|') then some rest else none
  | _ => none

/-- The letter of a drive and a colon or a bar. -/
def isDriveLetter (segment : List Char) : Bool := afterDrive? segment == some []

/-- A drive by itself or up to a backslash. -/
def startsWithDrive (segment : List Char) : Bool :=
  match afterDrive? segment with
  | some [] | some ('\\' :: _) => true
  | _ => false

/-- The letter of a drive with its colon, and what a break parts from it. -/
def partedDrive? (given : List Char) : Option (List Char × List Char) :=
  match skipBreaks given with
  | letter :: more =>
    match skipBreaks more with
    | ':' :: after =>
      let rest := withoutBreaks after
      if letter.isAlpha && after.head?.any isTabOrBreak && !rest.isEmpty then
        some ([letter, ':'], rest)
      else none
    | _ => none
  | [] => none

abbrev Segments := List (List Char)

namespace Segments

def text (path : Segments) : List Char := path.flatMap fun segment => '/' :: segment

end Segments

/-- The way through a path so far: its segments, the last one first, and whether
the first segment is a drive. -/
structure Walk where
  back : Segments
  onDrive : Bool

namespace Walk

def start : Walk := ⟨[], false⟩

def path (walk : Walk) : Segments := walk.back.reverse

def add (walk : Walk) (segment : List Char) : Walk := { walk with back := segment :: walk.back }

/-- Takes back the last segment, unless that is a drive. -/
def parent (walk : Walk) : Walk :=
  if walk.back.head?.any startsWithDrive then walk else { walk with back := walk.back.tail }

/-- Goes to the first segment of a file's path. A drive is written with a colon,
and what a break parts from it is taken as it stands. -/
def enter (given segment : List Char) : Walk :=
  match partedDrive? given with
  | some (drive, rest) => ⟨[percentEncode inPath rest, drive], false⟩
  | none =>
    if isDriveLetter segment then ⟨[segment.take 1 ++ [':']], true⟩ else start.add segment

/-- Goes on to a segment that a slash follows. -/
def step (ofFile : Bool) (walk : Walk) (given : List Char) : Walk :=
  let segment := percentEncode inPath (withoutBreaks given)
  if isDoubleDot segment then walk.parent
  else if isSingleDot segment then walk
  else if ofFile && walk.back.isEmpty then enter given segment
  else walk.add segment

/-- Goes to the last segment. Dots leave an empty segment there. -/
def close (ofFile : Bool) (walk : Walk) (given : List Char) : Walk :=
  let segment := withoutBreaks given
  if isDoubleDot segment || isSingleDot segment then (walk.step ofFile given).add []
  else walk.step ofFile given

def through (ofFile : Bool) (segments : Segments) : Walk :=
  match segments.getLast? with
  | some last => (segments.dropLast.foldl (step ofFile) start).close ofFile last
  | none => start

end Walk

end RowTree.Url
