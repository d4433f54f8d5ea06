/-
This file writes bytes as percent signs with two digits, and reads them back.
-/
import FeedCache.Text.Hex

namespace FeedCache.Url

/-- A byte as a percent sign and two upper-case digits. -/
def percentByte (byte : UInt8) : List Char :=
  ['%', Text.upperHexDigit (byte.toNat / 16), Text.upperHexDigit byte.toNat]

/-- The characters in the set are written by their bytes, the others as they are. -/
def percentEncode (set : Char → Bool) (text : List Char) : List Char :=
  text.flatMap fun c =>
    if set c then (String.utf8EncodeChar c).flatMap percentByte else [c]

/-- Controls and all characters outside ASCII. -/
def isControlOrForeign (c : Char) : Bool := c.toNat < 0x20 || 0x7E < c.toNat

def isEncodedInPath (c : Char) : Bool :=
  isControlOrForeign c || [' ', '"', '#', '<', '>', '?', '\x60', '\x7b', '\x7d'].contains c

def isEncodedInUserInfo (c : Char) : Bool :=
  isEncodedInPath c || ['/', ':', ';', '=', '@', '[', '\\', ']', '^', '|'].contains c

def isEncodedInQuery (c : Char) : Bool :=
  isControlOrForeign c || [' ', '"', '#', '<', '>', '\''].contains c

/-- The bytes of a text in which a percent sign with two digits stands for one byte. -/
def percentDecode : List Char → List UInt8
  | [] => []
  | '%' :: high :: low :: rest =>
      match Text.hexValue? high, Text.hexValue? low with
      | some first, some second => UInt8.ofNat (first * 16 + second) :: percentDecode rest
      | _, _ => '%'.toUInt8 :: percentDecode (high :: low :: rest)
  | c :: rest => String.utf8EncodeChar c ++ percentDecode rest

/-- The text that is left when percent signs with digits are read; nothing if its bytes are no
text. A text without percent signs stands for itself. -/
def percentDecodedText (text : List Char) : Option (List Char) :=
  if text.contains '%' then
    (String.fromUTF8? ⟨(percentDecode text).toArray⟩).map String.toList
  else some text

end FeedCache.Url
