/-
This file finds settings in environment variables.
-/
import FeedCache.Settings.Basic
import FeedCache.Settings.Spelled
import FeedCache.Text.Pieces

namespace FeedCache

/-- The variables with their values, in the order in which they were first set. -/
abbrev Environment := List (String × String)

namespace Environment

/-- A variable is set; one that is there already keeps its place. -/
def assign (environment : Environment) (name value : String) : Environment :=
  if environment.any (·.1 == name) then
    environment.map fun entry => if entry.1 == name then (name, value) else entry
  else environment ++ [(name, value)]

/-- The value of the variable with exactly this name. -/
def value? (environment : Environment) (name : String) : Option String := environment.lookup name

/-- The first of the variables that is not blank, without the blanks around it. -/
def firstFilled (environment : Environment) (names : List String) : Option String :=
  names.findSome? fun name =>
    ((environment.value? name).map Text.trimmed).filter fun value => !value.isEmpty

end Environment

namespace Settings

/-- Capitals become small. The sign of the kelvin is the only other capital of an ASCII letter. -/
def lowered (c : Char) : Char := if c = '\u212A' then 'k' else c.toLower

/-- Two underscores in a row stand for a dot. -/
def dotted : List Char → List Char
  | '_' :: '_' :: rest => '.' :: dotted rest
  | c :: rest => c :: dotted rest
  | [] => []

def variableSign : List Char := "feedgrab_".toList

/-- The key that a variable gives a value to, as the names between its dots. No name is empty. -/
def variableKey? (name : String) : Option (List (List Char)) :=
  let trimmed := Text.trim name.toList
  if (trimmed.take variableSign.length).map Char.toLower = variableSign then
    let key := Text.trim (dotted ((trimmed.drop variableSign.length).map lowered))
    let names := Text.pieces (· == '.') key
    if names.any List.isEmpty then none else some names
  else none

end Settings

end FeedCache
