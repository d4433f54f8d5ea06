/-
This file holds the files and directories that a run can see.
-/
import FeedCache.Disk.Fault
import FeedCache.Store.Database
import FeedCache.Text.Pieces

namespace FeedCache

/-- A place is the list of names that lead to it from the root. -/
abbrev Place := List String

/-- A path leads from a directory to a place; two dots lead back. -/
def Place.ofPath (start : Place) (path : String) : Place :=
  let names := (Text.pieces (· == '/') path.toList).map String.ofList
  let start := if path.toList.head? = some '/' then [] else start
  names.foldl
    (fun place name =>
      if name = "" ∨ name = "." then place else if name = ".." then place.dropLast
      else place ++ [name])
    start

/-- What is at a place. -/
inductive Node where
  | directory
  | file (content : ByteArray)
  | store (database : Store.Database)
  deriving DecidableEq

structure Disk where
  nodes : List (Place × Node)

namespace Disk

def empty : Disk := ⟨[]⟩

/-- What is at a place; the root is a directory. -/
def node? (disk : Disk) (place : Place) : Option Node :=
  if place = [] then some .directory else disk.nodes.lookup place

def set (disk : Disk) (place : Place) (node : Node) : Disk :=
  ⟨(place, node) :: disk.nodes.filter fun entry => entry.1 != place⟩

/-- The longest name of a file, in bytes. -/
def longestName : Nat := 255

def isTooLong (name : String) : Bool := longestName < name.utf8ByteSize

def holdsZero (place : Place) : Bool := place.any fun name => name.toList.contains '\x00'

def exists? (disk : Disk) (place : Place) : Bool := !holdsZero place && (disk.node? place).isSome

/-- A directory is made where there is nothing. -/
def makeDirectory (last : Bool) (disk : Disk) (place : Place) : Except Fault Disk :=
  match disk.node? place with
  | some .directory => .ok disk
  | some _ => .error (if last then .exists else .notADirectory)
  | none =>
      if place.getLast?.any isTooLong then .error .nameTooLong
      else .ok (disk.set place .directory)

/-- The directories on the way to a place are made, and the one at the place. -/
def makeDirectories (disk : Disk) (place : Place) : Except Fault Disk :=
  if holdsZero place then .error .zeroInName
  else
    (List.range place.length).foldlM
      (fun disk count => disk.makeDirectory (count + 1 == place.length) (place.take (count + 1)))
      disk

/-- A file is written where there is no directory. -/
def writeFile (disk : Disk) (place : Place) (content : ByteArray) : Except Fault Disk :=
  if holdsZero place then .error .zeroInName
  else match disk.node? place with
    | some .directory => .error .isADirectory
    | _ =>
        match disk.node? place.dropLast with
        | some .directory =>
            if place.getLast?.any isTooLong then .error .nameTooLong
            else .ok (disk.set place (.file content))
        | some _ => .error .notADirectory
        | none => .error .missing

/-- There is a file at a place, be it a store or another one. -/
def isFile (disk : Disk) (place : Place) : Bool :=
  match disk.node? place with
  | some (.file _) | some (.store _) => true
  | some .directory | none => false

/-- The content of a file that is no store. -/
def readFile? (disk : Disk) (place : Place) : Option ByteArray :=
  match disk.node? place with
  | some (.file content) => some content
  | _ => none

end Disk

end FeedCache
