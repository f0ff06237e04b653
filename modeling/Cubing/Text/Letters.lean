/-!
# Comparing words without regard to case

Names are words of ASCII letters. The only characters whose lower case is such
a letter are the ASCII letters themselves and the Kelvin sign, so this is all
that comparing with a name needs.
-/
namespace Cubing.Text

/-- The Kelvin sign, whose lower case is the letter k. -/
def kelvinSign : Char := Char.ofNat 0x212A

/-- The lower case of a character, as far as it is an ASCII letter. -/
def foldLetter (c : Char) : Char := if c = kelvinSign then 'k' else c.toLower

def fold (text : String) : List Char := text.toList.map foldLetter

/-- Is the text the given name, in any case? -/
def isName (name text : String) : Bool := fold name == fold text

/-- Does the name begin with the text, in any case? -/
def beginsName (name text : String) : Bool := (fold text).isPrefixOf (fold name)

end Cubing.Text
