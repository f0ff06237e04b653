import Cubing.Text.Ranges

/-!
# Blank characters

The characters that count as space: white space and the separators between
lines, units and fields.
-/
namespace Cubing.Text

/-- The blank characters as closed ranges of code points, ascending and apart. -/
def blankRanges : List (Nat × Nat) :=
  [(0x09, 0x0D), (0x1C, 0x20), (0x85, 0x85), (0xA0, 0xA0), (0x1680, 0x1680), (0x2000, 0x200A),
   (0x2028, 0x2029), (0x202F, 0x202F), (0x205F, 0x205F), (0x3000, 0x3000)]

def isBlank (c : Char) : Bool := inRanges blankRanges c

/-- Removes from both ends the characters for which the test holds. -/
def trimBy (test : Char → Bool) (text : List Char) : List Char :=
  ((text.dropWhile test).reverse.dropWhile test).reverse

/-- Removes the blanks from both ends. -/
def trim (text : String) : String := String.ofList (trimBy isBlank text.toList)

/-- Splits off the first word of a text: the letters before the first blank, and the later
words. -/
def leadingWord : List Char → List Char × List (List Char)
  | [] => ([], [])
  | c :: rest =>
    let (word, later) := leadingWord rest
    if isBlank c then ([], if word.isEmpty then later else word :: later) else (c :: word, later)

/-- The words of a text: the longest stretches without a blank. -/
def words (text : String) : List String :=
  let (word, later) := leadingWord text.toList
  (if word.isEmpty then later else word :: later).map String.ofList

end Cubing.Text
