/-
This file brings host names into the form that goes on the wire.

Capitals and other variants are mapped to one form, each label with characters outside ASCII is
checked and written with the sign `xn--`, and the result must hold no character that ends or
divides a host.
-/
import FeedCache.Host.Punycode
import FeedCache.Text.Pieces
import FeedCache.Unicode.Bidi
import FeedCache.Unicode.Joining
import FeedCache.Unicode.Normal

namespace FeedCache.Host
open Unicode

def isAscii (c : Char) : Bool := c.toNat < 128

/-- The characters that no host name may hold: controls, the space, and what has a meaning in a
URL. -/
def isForbidden (c : Char) : Bool :=
  c.toNat ≤ 0x20 || c.toNat == 0x7F ||
    ['#', '/', ':', '<', '>', '?', '@', '[', '\\', ']', '^', '|', '%'].contains c

/-- The character may stand in a host name on the wire. -/
def isHostCharacter (c : Char) : Bool := isAscii c && !isForbidden c

/-- A label that starts with this sign stands for one with characters outside ASCII. -/
def hasEncodingSign (label : List Char) : Bool :=
  (label.take 4).map Char.toLower == ['x', 'n', '-', '-']

/-- The characters of a name are replaced by what they stand for, if all of them are allowed. -/
def mapCharacters (name : List Char) : Option (List Char) :=
  (name.mapM hostMapping?).map List.flatten

/-- The joiners may stand after a virama, and the non-joiner also between two letters that
connect. The characters before are given in reverse. -/
def joinersFit (before : List Char) : List Char → Bool
  | [] => true
  | c :: after =>
      let afterVirama := match before with
        | [] => false
        | previous :: _ => combiningClass previous == 9
      let connects (types : List JoiningType) (text : List Char) : Bool :=
        match text.dropWhile fun d => joiningType d == .transparent with
        | [] => false
        | d :: _ => types.contains (joiningType d)
      let fits :=
        if c.toNat == 0x200D then afterVirama
        else if c.toNat == 0x200C then
          afterVirama || (connects [.left, .dual] before && connects [.right, .dual] after)
        else true
      fits && joinersFit (c :: before) after

/-- A label is well formed if it does not start with a mark and its joiners fit. -/
def isWellFormed (label : List Char) : Bool :=
  (match label with
    | [] => true
    | first :: _ => !isMark first) && joinersFit [] label

def readsRightToLeft (c : Char) : Bool :=
  bidiClass c == .rightToLeft || bidiClass c == .arabicNumber

/-- In a name with letters of a right-to-left script, each label runs in one direction and ends in
a letter or number of that direction, marks apart. -/
def keepsDirection (label : List Char) : Bool :=
  match label with
  | [] => true
  | first :: _ =>
      let classes := label.map bidiClass
      let last := (classes.reverse.dropWhile (· == .mark)).headD .mark
      match bidiClass first with
      | .rightToLeft =>
          classes.all (· != .leftToRight) &&
            [BidiClass.rightToLeft, .europeanNumber, .arabicNumber].contains last &&
            !(classes.contains .europeanNumber && classes.contains .arabicNumber)
      | .leftToRight =>
          classes.all (fun kind => kind != .rightToLeft && kind != .arabicNumber) &&
            [BidiClass.leftToRight, .europeanNumber].contains last
      | _ => false

/-- The longest label whose encoding is read. -/
def longestEncoded : Nat := 2000

/-- The longest label outside ASCII that is encoded. -/
def longestPlain : Nat := 1000

/-- The characters of a mapped label; an encoded label is read and must be in normal form. -/
def labelCharacters (label : List Char) : Option (List Char) :=
  if hasEncodingSign label then
    let code := label.drop 4
    if code.isEmpty ∨ ¬ code.all isAscii ∨ code.getLast? = some '-' ∨
        longestEncoded < code.length then none
    else (Punycode.decode code).filter fun characters =>
      characters.all isSettled && normal characters == characters
  else if label.all isAscii ∨ label.length ≤ longestPlain then some label
  else none

/-- The label on the wire. -/
def encodeLabel (characters : List Char) : List Char :=
  if characters.all isAscii then characters
  else ['x', 'n', '-', '-'] ++ Punycode.encode characters

/-- The form on the wire of a name with characters outside ASCII or encoded labels. -/
def encodeName (name : List Char) : Option (List Char) := do
  let mapped ← mapCharacters name
  let labels ← (Text.pieces (· == '.') (normal mapped)).mapM labelCharacters
  if labels.all isWellFormed &&
      (!labels.any (fun label => label.any readsRightToLeft) || labels.all keepsDirection) then
    some (Text.joined '.' (labels.map encodeLabel))
  else none

/-- The form of a host name on the wire; nothing for a name that has none. -/
def wireName (name : List Char) : Option (List Char) :=
  let plain := name.all isAscii && !(Text.pieces (· == '.') name).any hasEncodingSign
  let encoded := if plain then some (name.map Char.toLower) else encodeName name
  encoded.filter fun result => result.all isHostCharacter

/-- Every name on the wire is ASCII and holds no forbidden character. -/
theorem wireNameClean {name result : List Char} (h : wireName name = some result) :
    ∀ c ∈ result, isHostCharacter c = true := by
  have kept := (Option.filter_eq_some_iff.1 h).2
  simpa using kept

end FeedCache.Host
