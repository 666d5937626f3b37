/-!
# Blank characters

The characters of the Unicode property White_Space, and texts freed of them at
their ends.
-/

namespace PromptTuning
namespace Text

/-- Ranges of code points, first and last, of the blank characters. -/
def blankRanges : List (Nat × Nat) :=
  [(0x9, 0xD), (0x20, 0x20), (0x85, 0x85), (0xA0, 0xA0), (0x1680, 0x1680),
    (0x2000, 0x200A), (0x2028, 0x2029), (0x202F, 0x202F), (0x205F, 0x205F),
    (0x3000, 0x3000)]

/-- Whether a character is blank. -/
def isBlank (character : Char) : Bool :=
  blankRanges.any fun (first, last) =>
    first ≤ character.toNat && character.toNat ≤ last

/-- A list of characters without the blanks at its start. -/
def trimStart (text : List Char) : List Char :=
  text.dropWhile isBlank

/-- A list of characters without the blanks at its end. -/
def trimEnd (text : List Char) : List Char :=
  (text.reverse.dropWhile isBlank).reverse

/-- A string without the blanks at its ends. -/
def trim (text : String) : String :=
  String.ofList (trimEnd (trimStart text.toList))

/-- Whether a string holds nothing but blanks. -/
def isAllBlank (text : String) : Bool :=
  text.toList.all isBlank

end Text
end PromptTuning
