import Expurgate.Unicode.Ranges

/-!
Sets of code points that a pattern asks for by name. They are kept as text, since most programs
name few of them and a text costs nothing until it is read.
-/

namespace Expurgate.Unicode

/-- A set with the names it goes by and its ranges in hexadecimal, such as `41-5A AA B5`. -/
structure NamedRanges where
  names : List String
  chunks : List String

namespace NamedRanges

def digit (c : Char) : Nat :=
  if c.isDigit then c.toNat - '0'.toNat else c.toNat - 'A'.toNat + 10

/-- Reads ranges off a text. `first` is the start of a range whose dash has been read, and `n` the
number read so far. -/
def read (first : Option Nat) (n : Nat) : List Char → List (Nat × Nat)
  | [] => [(first.getD n, n)]
  | c :: rest =>
    if c = ' ' then (first.getD n, n) :: read none 0 rest
    else if c = '-' then read (some n) 0 rest
    else read first (n * 16 + digit c) rest

def ranges (s : NamedRanges) : Ranges :=
  s.chunks.flatMap fun chunk => read none 0 chunk.toList

def find? (sets : List NamedRanges) (name : String) : Option NamedRanges :=
  sets.find? fun s => s.names.contains name

end NamedRanges

end Expurgate.Unicode
