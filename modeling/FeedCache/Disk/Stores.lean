/-
This file opens the stores on a disk.

A store is opened for one operation and closed right after it. What the operation does is kept
only if it succeeds.
-/
import FeedCache.Disk.Basic
import FeedCache.Store.Device

namespace FeedCache.Disk
open Store (Database)

/-- A new store is written beside a journal, whose name is that of the store and eight bytes more. -/
def hasRoomForJournal (place : Place) : Bool :=
  !place.getLast?.any fun name => isTooLong (name ++ "-journal")

/-- The database at a place is brought to the latest schema, or left as it is. -/
def bringUp (disk : Disk) (place : Place) (database : Database) (device : Store.Device := .free) :
    Except Store.Fault Database × Disk :=
  match device.migrate database with
  | .ok database => (.ok database, disk.set place (.store database))
  | .error fault => (.error fault, disk)

/-- A new store is begun in a file that holds nothing. Where there is no room for its journal the
file stays empty. -/
def beginStore (disk : Disk) (place : Place) (device : Store.Device := .free) :
    Except Store.Fault Database × Disk :=
  if hasRoomForJournal place then disk.bringUp place .blank device
  else (.error .noJournal, disk.set place (.file .empty))

/-- A store is opened at a place: the directories above it are made, and it is brought to the
latest schema. A file that holds nothing is a new store, any other file is none. -/
def openStore (disk : Disk) (start : Place) (path : String) (device : Store.Device := .free) :
    Except Store.Fault Database × Disk :=
  let place := Place.ofPath start path
  match disk.makeDirectories place.dropLast with
  | .error fault => (.error (.disk fault), disk)
  | .ok disk =>
      match disk.node? place with
      | some .directory => (.error (.cannotOpen path), disk)
      | some (.file content) =>
          if content.isEmpty then disk.beginStore place device else (.error .notADatabase, disk)
      | some (.store database) => disk.bringUp place database device
      | none =>
          if place.getLast?.any isTooLong then (.error (.cannotOpen path), disk)
          else disk.beginStore place device

/-- The database is changed, or the disk is left as it is. -/
def changeStore {α : Type} (disk : Disk) (place : Place) (database : Database)
    (act : Database → Except Store.Fault (α × Database)) : Except Store.Fault α × Disk :=
  match act database with
  | .ok (answer, changed) => (.ok answer, disk.set place (.store changed))
  | .error fault => (.error fault, disk)

/-- A store is opened, used and closed. -/
def useStore {α : Type} (disk : Disk) (start : Place) (path : String)
    (act : Database → Except Store.Fault (α × Database)) (device : Store.Device := .free) :
    Except Store.Fault α × Disk :=
  match disk.openStore start path device with
  | (.ok database, disk) => disk.changeStore (Place.ofPath start path) database act
  | (.error fault, disk) => (.error fault, disk)

/-- Another program changes the file of a store. It makes no directories and no tables, and
leaves an empty file where there was none. -/
def editStore (disk : Disk) (start : Place) (path : String)
    (change : Database → Except Store.Fault Database) : Except Store.Fault Unit × Disk :=
  let place := Place.ofPath start path
  let edit (disk : Disk) (database : Database) :=
    disk.changeStore place database fun database => return ((), ← change database)
  match disk.node? place with
  | some (.store database) => edit disk database
  | some (.file content) =>
      if content.isEmpty then edit disk .blank else (.error .notADatabase, disk)
  | some .directory => (.error (.cannotOpen path), disk)
  | none =>
      match disk.writeFile place .empty with
      | .ok disk => edit disk .blank
      | .error _ => (.error (.cannotOpen path), disk)

end FeedCache.Disk
