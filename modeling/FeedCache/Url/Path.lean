/-
This file reads the path of a URL as a list of segments.
-/
import FeedCache.Text.Pieces
import FeedCache.Url.Percent

namespace FeedCache.Url

/-- Both slashes divide the path of a URL of the web. -/
def isSlash (c : Char) : Bool := c == '/' || c == '\\'

/-- A dot in a segment may be written as itself or by its number. -/
def dropDot : List Char → Option (List Char)
  | '.' :: rest => some rest
  | '%' :: '2' :: 'e' :: rest => some rest
  | '%' :: '2' :: 'E' :: rest => some rest
  | _ => none

/-- A segment of one dot stands for its own directory. -/
def isSingleDot (segment : List Char) : Bool := dropDot segment == some []

/-- A segment of two dots stands for the directory above. -/
def isDoubleDot (segment : List Char) : Bool := (dropDot segment).bind dropDot == some []

/-- A letter with a colon or a bar is the name of a drive. -/
def isDriveName : List Char → Bool
  | [letter, mark] => letter.isAlpha && (mark == ':' || mark == '|')
  | _ => false

/-- The directory above, which for a drive is the drive itself. -/
def parentDirectory (directory : List (List Char)) : List (List Char) :=
  if directory.getLast?.any isDriveName then directory else directory.dropLast

/-- A directory takes in further segments; dots are followed, and after dots at the end the path
ends in a slash. -/
def walk (directory : List (List Char)) : List (List Char) → List (List Char)
  | [] => directory
  | [last] =>
      if isDoubleDot last then parentDirectory directory ++ [[]]
      else if isSingleDot last then directory ++ [[]]
      else directory ++ [percentEncode isEncodedInPath last]
  | segment :: others =>
      if isDoubleDot segment then walk (parentDirectory directory) others
      else if isSingleDot segment then walk directory others
      else walk (directory ++ [percentEncode isEncodedInPath segment]) others

/-- The path that a text leads to from a directory. -/
def readPath (directory : List (List Char)) (text : List Char) : List (List Char) :=
  walk directory (Text.pieces isSlash text)

/-- Each segment is written after a slash. -/
def pathText (path : List (List Char)) : List Char := path.flatMap ('/' :: ·)

end FeedCache.Url
