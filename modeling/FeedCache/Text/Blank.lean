/-
This file names the blank characters and removes them around a text.
-/
namespace FeedCache.Text

/-- A blank is a character with the property White_Space. -/
def isBlank (c : Char) : Bool :=
  let point := c.toNat
  (0x9 ≤ point && point ≤ 0xD) || point == 0x20 || point == 0x85 || point == 0xA0 ||
    point == 0x1680 || (0x2000 ≤ point && point ≤ 0x200A) || point == 0x2028 ||
    point == 0x2029 || point == 0x202F || point == 0x205F || point == 0x3000

/-- The characters that satisfy the test are dropped from both ends. -/
def strip (test : Char → Bool) (text : List Char) : List Char :=
  ((text.dropWhile test).reverse.dropWhile test).reverse

def trim (text : List Char) : List Char := strip isBlank text

def trimmed (text : String) : String := String.ofList (trim text.toList)

@[simp] theorem stripNil (test : Char → Bool) : strip test [] = [] := rfl

end FeedCache.Text
