/-
This file merges the layers that settings come from.

A layer is a dictionary, which may hold further dictionaries. Where two layers have a key in common,
a dictionary and a dictionary are merged key by key, and of anything else the upper one counts.
-/
import FeedCache.Settings.Environment
import FeedCache.Toml.Table

namespace FeedCache.Settings

/-- Where a value comes from. -/
inductive Origin where
  | environment
  | file (path : String)
  deriving DecidableEq

/-- What stands under a key of a layer. -/
inductive Tree where
  | leaf (value : Value) (origin : Origin)
  | branch (origin : Origin) (entries : List (List Char × Tree))

abbrev Layer := List (List Char × Tree)

/-- What is put under a key takes the place of what was there. -/
def Layer.put (layer : Layer) (key : List Char) (tree : Tree) : Layer :=
  match layer with
  | [] => [(key, tree)]
  | entry :: rest =>
      if entry.1 = key then (key, tree) :: rest else entry :: Layer.put rest key tree

mutual

def Tree.merge (below : Tree) : Tree → Tree
  | .leaf value origin => .leaf value origin
  | .branch origin upper =>
      match below with
      | .leaf _ _ => .branch origin upper
      | .branch _ lower => .branch origin (Layer.merge lower upper)

def Layer.merge (lower : Layer) : List (List Char × Tree) → Layer
  | [] => lower
  | (key, tree) :: upper =>
      let merged := Layer.merge lower upper
      merged.put key (match merged.lookup key with
        | none => tree
        | some below => below.merge tree)

end

/-- A map is a dictionary; what is inside it reaches no field and is not kept. -/
def Tree.ofValue (value : Value) (origin : Origin) : Tree :=
  match value with
  | .map => .branch origin []
  | other => .leaf other origin

/-- A tree as a field sees it, with its origin. -/
def Tree.seen : Tree → Value × Origin
  | .leaf value origin => (value, origin)
  | .branch origin _ => (.map, origin)

/-- The layer of a variable: the names of its key lead to its value. -/
def Layer.ofVariable (entry : String × String) : Layer :=
  match variableKey? entry.1 with
  | some (name :: names) =>
      let value := Tree.ofValue (Value.ofSpelling entry.2) .environment
      [(name, names.foldr (fun name tree => .branch .environment [(name, tree)]) value)]
  | _ => []

/-- The variables are merged in their order. -/
def Layer.ofEnvironment (environment : Environment) : Layer :=
  environment.foldl (fun layer entry => layer.merge (Layer.ofVariable entry)) []

/-- The kinds of a file's values. Integers of a file may always be negative. -/
def Value.ofToml : Toml.Value → Value
  | .boolean value => .boolean value
  | .integer value => .signed value
  | .number value => .number value
  | .text content => .text (String.ofList content)
  | .moment => .map
  | .array => .sequence
  | .table => .map

mutual

def Tree.ofItem (path : String) : Toml.Item → Tree
  | .value value => .ofValue (Value.ofToml value) (.file path)
  | .table _ entries => .branch (.file path) (Layer.ofEntries path entries)
  | .tables _ => .leaf .sequence (.file path)

/-- The layer of a file, whose path is kept with each of its values. -/
def Layer.ofEntries (path : String) : List (List Char × Toml.Item) → Layer
  | [] => []
  | (key, item) :: entries => (key, Tree.ofItem path item) :: Layer.ofEntries path entries

end

end FeedCache.Settings
