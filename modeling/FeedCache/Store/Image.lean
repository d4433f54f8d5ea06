/-
This file writes a store as a text and reads it back.

Each entry is one line: its key, the time when it was stored, and its body, with a hyphen in place
of a body for a failure. All of them are in base sixteen.
-/
import FeedCache.Store.Entries
import FeedCache.Text.Pieces

namespace FeedCache.Store

/-- The first line of an image, with the version of the schema. -/
def imageSign : List Char := "feedgrab store 1".toList

def hexOfText (text : String) : List Char := Text.hexOfBytes text.toUTF8.toList

def textOfHex? (digits : List Char) : Option String :=
  (Text.bytesOfHex? digits).bind fun bytes => String.fromUTF8? ⟨bytes.toArray⟩

def Payload.image : Payload → List Char
  | .body bytes => Text.hexOfBytes bytes.toList
  | .failed => ['-']

def Payload.ofImage? (text : List Char) : Option Payload :=
  if text = ['-'] then some .failed
  else (Text.bytesOfHex? text).map fun bytes => .body ⟨bytes.toArray⟩

/-- The line of a row; rows that no store operation writes have none. -/
def Row.image? (row : Row) : Option (List Char) :=
  match row.key, row.storedAt, row.payload with
  | .text key, .text storedAt, .ok payload =>
      some (Text.joined ' ' [hexOfText key, hexOfText storedAt, payload.image])
  | _, _, _ => none

def Row.ofImage? (line : List Char) : Option Row :=
  match Text.pieces (· == ' ') line with
  | [key, storedAt, payload] => do
      return (← Payload.ofImage? payload).toRow (← textOfHex? key) (← textOfHex? storedAt)
  | _ => none

/-- The image of a database with the latest schema. -/
def Database.image (database : Database) : String :=
  let rows := (database.entries.map Table.rows).getD []
  String.ofList (Text.joined '\n' (imageSign :: rows.filterMap Row.image?))

def Database.ofImage? (text : String) : Option Database :=
  match Text.pieces (· == '\n') text.toList with
  | sign :: lines =>
      if sign = imageSign then do
        let rows ← lines.mapM Row.ofImage?
        return { Database.fresh with entries := some (rows.foldl Table.insert .empty) }
      else none
  | [] => none

end FeedCache.Store
