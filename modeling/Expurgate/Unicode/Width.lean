import Expurgate.Unicode.Table.Width
import Expurgate.Unicode.Property

/-!
How many columns a text takes on a terminal.
-/

namespace Expurgate.Unicode

def charWidth (c : Char) : Nat :=
  if c.toNat < 0x300 then (if c = '\u00AD' then 0 else 1)
  else if Table.zeroWidth.contains c.toNat then 0
  else if Table.wide.contains c.toNat then 2
  else 1

/-- A character that the emoji style selector makes two columns wide. -/
def isEmoji (c : Char) : Bool :=
  match binary? "emoji" with
  | some r => Ranges.contains r c.toNat
  | none => false

/-- The columns of a text. A pair of carriage return and line feed counts once, a character followed
by the emoji style selector is wide, and an emoji joined to the one before it takes no room. -/
def textWidth : List Char → Nat
  | [] => 0
  | '\r' :: '\n' :: rest => 1 + textWidth rest
  | '\u200D' :: c :: rest => if isEmoji c then textWidth rest else charWidth c + textWidth rest
  | c :: '\uFE0F' :: rest => (if isEmoji c then 2 else charWidth c) + textWidth rest
  | c :: rest => charWidth c + textWidth rest

end Expurgate.Unicode
