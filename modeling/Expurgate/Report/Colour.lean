import Expurgate.Unicode.Casing

/-!
The sixteen colours of a terminal.
-/

namespace Expurgate

inductive Hue where
  | black
  | red
  | green
  | yellow
  | blue
  | magenta
  | cyan
  | white
  deriving Repr, DecidableEq

namespace Hue

def name : Hue → String
  | black => "black"
  | red => "red"
  | green => "green"
  | yellow => "yellow"
  | blue => "blue"
  | magenta => "magenta"
  | cyan => "cyan"
  | white => "white"

def all : List Hue := [black, red, green, yellow, blue, magenta, cyan, white]

def index : Hue → Nat
  | black => 0
  | red => 1
  | green => 2
  | yellow => 3
  | blue => 4
  | magenta => 5
  | cyan => 6
  | white => 7

end Hue

/-- A basic colour or its bright variant. -/
structure Colour where
  bright : Bool
  hue : Hue
  deriving Repr, DecidableEq

namespace Colour

def name (c : Colour) : String := (if c.bright then "bright" else "") ++ c.hue.name

def all : List Colour := Hue.all.map (⟨false, ·⟩) ++ Hue.all.map (⟨true, ·⟩)

def ofName? (s : String) : Option Colour := all.find? (·.name = Unicode.toLower s)

def unknownMessage (s : String) : String :=
  s!"Invalid theme color '{s}'; expected one of: black, red, green, yellow, blue, magenta, " ++
    "cyan, white, or their bright variants (e.g. brightred)."

/-- The number that selects the colour on a terminal. -/
def code (c : Colour) : Nat := (if c.bright then 90 else 30) + c.hue.index

/-- A text in a colour, with the default colour restored behind it. -/
def paint (c : Colour) (s : String) : String :=
  "\x1b[" ++ toString c.code ++ "m" ++ s ++ "\x1b[39m"

end Colour

end Expurgate
