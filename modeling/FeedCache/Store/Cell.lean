/-
This file says what the fields of a stored row hold.
-/
import FeedCache.Decimal.Binary
import FeedCache.Text.Bytes

namespace FeedCache.Store

/-- A field holds a value of one of five kinds. -/
inductive Cell where
  | null
  | integer (value : Int)
  | number (value : Decimal.Number)
  | text (value : String)
  | blob (value : ByteArray)
  deriving DecidableEq

inductive Kind where
  | null
  | integer
  | number
  | text
  | blob
  deriving DecidableEq

def Cell.kind : Cell → Kind
  | .null => .null
  | .integer _ => .integer
  | .number _ => .number
  | .text _ => .text
  | .blob _ => .blob

def Kind.name : Kind → String
  | .null => "Null"
  | .integer => "Integer"
  | .number => "Real"
  | .text => "Text"
  | .blob => "Blob"

end FeedCache.Store
