/-
This file brings texts into the composed normal form: every character is decomposed, marks are
put in the order of their classes, and what composes is composed.
-/
import FeedCache.Unicode.Decomposition
import FeedCache.Unicode.Marks

namespace FeedCache.Unicode

/-- The letters of a Hangul syllable: 19 leading consonants, 21 vowels, and 27 trailing consonants
or none. -/
def hangulDecomposition? (c : Char) : Option (List Char) :=
  if 0xAC00 ≤ c.toNat ∧ c.toNat ≤ 0xD7A3 then
    let index := c.toNat - 0xAC00
    let leading := Char.ofNat (0x1100 + index / 588)
    let vowel := Char.ofNat (0x1161 + index % 588 / 28)
    if index % 28 = 0 then some [leading, vowel]
    else some [leading, vowel, Char.ofNat (0x11A7 + index % 28)]
  else none

def hangulComposition? (first second : Char) : Option Char :=
  let leading := first.toNat - 0x1100
  let vowel := second.toNat - 0x1161
  let syllable := first.toNat - 0xAC00
  let trailing := second.toNat - 0x11A7
  if 0x1100 ≤ first.toNat ∧ leading < 19 ∧ 0x1161 ≤ second.toNat ∧ vowel < 21 then
    some (Char.ofNat (0xAC00 + (leading * 21 + vowel) * 28))
  else if 0xAC00 ≤ first.toNat ∧ first.toNat ≤ 0xD7A3 ∧ syllable % 28 = 0 ∧
      0x11A7 < second.toNat ∧ trailing < 28 then
    some (Char.ofNat (first.toNat + trailing))
  else none

def decomposed (c : Char) : List Char :=
  match hangulDecomposition? c with
  | some letters => letters
  | none => ((decompositions.find? c.toNat).map Span.value).getD [c]

def composed? (first second : Char) : Option Char :=
  match hangulComposition? first second with
  | some syllable => some syllable
  | none => composition? first second

/-- A mark moves behind the marks of lower classes that follow it. -/
def insertMark (c : Char) : List Char → List Char
  | [] => [c]
  | other :: rest =>
      if 0 < combiningClass other ∧ combiningClass other < combiningClass c then
        other :: insertMark c rest
      else c :: other :: rest

/-- The marks after each character are put in the order of their classes. -/
def reorderMarks (text : List Char) : List Char := text.foldr insertMark []

/-- The base character takes in each later character that composes with it, unless a character of
the same or a higher class stands between them. The characters between are kept in reverse. -/
def composeFrom (base : Char) (between : List Char) : List Char → List Char
  | [] => base :: between.reverse
  | c :: rest =>
      let free := match between with
        | [] => true
        | nearest :: _ => combiningClass nearest < combiningClass c
      match (if free then composed? base c else none) with
      | some composite => composeFrom composite between rest
      | none =>
          if combiningClass c = 0 then base :: (between.reverse ++ composeFrom c [] rest)
          else composeFrom base (c :: between) rest

/-- The composed normal form of a text. -/
def normal (text : List Char) : List Char :=
  match reorderMarks (text.flatMap decomposed) with
  | [] => []
  | base :: rest => composeFrom base [] rest

end FeedCache.Unicode
