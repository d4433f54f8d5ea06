/-
This file holds tables that assign values to ranges of code points.
-/
import FeedCache.Text.Hex

namespace FeedCache.Unicode

/-- A span gives one value to all code points between two ends. -/
structure Span (α : Type) where
  low : Nat
  high : Nat
  value : α

/-- The spans of a table are in increasing order and do not overlap. -/
structure RangeMap (α : Type) where
  spans : Array (Span α)

/-- The number of leading spans that start at or below the point. -/
def RangeMap.rank {α : Type} (table : RangeMap α) (point : Nat) : Nat :=
  search 0 table.spans.size
where
  search (low high : Nat) : Nat :=
    if low < high then
      let middle := (low + high) / 2
      if table.spans[middle]?.any (fun span => span.low ≤ point) then search (middle + 1) high
      else search low middle
    else low
  termination_by high - low

/-- The span that holds the point. -/
def RangeMap.find? {α : Type} (table : RangeMap α) (point : Nat) : Option (Span α) :=
  match table.rank point with
  | 0 => none
  | index + 1 => (table.spans[index]?).filter fun span => point ≤ span.high

def RangeMap.contains {α : Type} (table : RangeMap α) (point : Nat) : Bool :=
  (table.find? point).isSome

/-- A word of a table is a first code point, an optional last one after a hyphen, and a value. -/
def readSpan {α : Type} (read : List Char → α) (word : List Char) : Span α :=
  let low := word.takeWhile Text.isHexDigit
  match word.dropWhile Text.isHexDigit with
  | '-' :: rest =>
      ⟨Text.hexNumber low, Text.hexNumber (rest.takeWhile Text.isHexDigit),
        read (rest.dropWhile Text.isHexDigit)⟩
  | rest => ⟨Text.hexNumber low, Text.hexNumber low, read rest⟩

/-- The words of a text that is separated by spaces and line ends. -/
def words (text : String) : List (List Char) :=
  let (word, rest) := text.toList.foldr
    (fun c (word, rest) =>
      if c == ' ' || c == '\n' then ([], if word.isEmpty then rest else word :: rest)
      else (c :: word, rest))
    (([], []) : List Char × List (List Char))
  if word.isEmpty then rest else word :: rest

def RangeMap.ofText {α : Type} (read : List Char → α) (text : String) : RangeMap α :=
  ⟨((words text).map (readSpan read)).toArray⟩

/-- A set of code points is a table without values. -/
abbrev RangeSet := RangeMap Unit

def RangeSet.ofText (text : String) : RangeSet := RangeMap.ofText (fun _ => ()) text

end FeedCache.Unicode
