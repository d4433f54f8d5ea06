/-
This file writes a text in double quotes, with escapes for what cannot be seen.
-/
import FeedCache.Text.Printable

namespace FeedCache.Text

/-- A character that has no shape of its own is written by its number. -/
def escapeByNumber (c : Char) : List Char :=
  '\\' :: 'u' :: '\x7b' :: (toHex c.toNat ++ ['\x7d'])

/-- The form of one character between double quotes. -/
def escape (c : Char) : List Char :=
  match c with
  | '"' => ['\\', '"']
  | '\\' => ['\\', '\\']
  | '\x00' => ['\\', '0']
  | '\t' => ['\\', 't']
  | '\n' => ['\\', 'n']
  | '\r' => ['\\', 'r']
  | _ => if isShown c then [c] else escapeByNumber c

/-- A text in double quotes with its quotes, backslashes and unseen characters escaped. -/
def quote (text : String) : String :=
  String.ofList ('"' :: (text.toList.flatMap escape ++ ['"']))

end FeedCache.Text
