import Expurgate.Unicode.Table.Word
import Expurgate.Unicode.Table.Alphabetic
import Expurgate.Unicode.Table.Numeric
import Expurgate.Unicode.Table.Casing

/-!
The classes of characters that matching, trimming and casing ask about.
-/

namespace Expurgate.Unicode

def Table.space : Ranges :=
  [(0x9, 0xD), (0x20, 0x20), (0x85, 0x85), (0xA0, 0xA0), (0x1680, 0x1680), (0x2000, 0x200A),
   (0x2028, 0x2029), (0x202F, 0x202F), (0x205F, 0x205F), (0x3000, 0x3000)]

/-- Part of a word: a letter, a mark, a decimal digit, connecting punctuation or a join control.
This is the class that `\w` and word edges go by. It holds no numbers other than decimal digits. -/
def isWord (c : Char) : Bool := Table.word.contains c.toNat

/-- White space, line ends included. -/
def isSpace (c : Char) : Bool := Table.space.contains c.toNat

/-- A letter, or a character that counts as one. It is a larger class than the letters, and does not
agree with `isWord` on all of them. -/
def isAlphabetic (c : Char) : Bool := Table.alphabetic.contains c.toNat

def isNumeric (c : Char) : Bool := Table.numeric.contains c.toNat

def isAlphanumeric (c : Char) : Bool := isAlphabetic c || isNumeric c

def isLower (c : Char) : Bool := Table.lowercase.contains c.toNat

def isUpper (c : Char) : Bool := Table.uppercase.contains c.toNat

/-- A letter that has a case. -/
def isCased (c : Char) : Bool := Table.cased.contains c.toNat

/-- A character that is passed over when one looks for a cased neighbour. -/
def isCaseIgnorable (c : Char) : Bool := Table.caseIgnorable.contains c.toNat

def trimStart (s : List Char) : List Char := s.dropWhile isSpace

def trimEnd (s : List Char) : List Char := (s.reverse.dropWhile isSpace).reverse

def trim (s : List Char) : List Char := trimEnd (trimStart s)

end Expurgate.Unicode
