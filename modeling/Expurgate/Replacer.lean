import Expurgate.Term.Match

/-!
The three things that can be done with a match: mask it, put another text in its place, or take it
out.
-/

namespace Expurgate

open Unicode

/-- Chooses among several candidates, again and again. A fixed one always takes the same candidate.
One that draws takes the next of its draws for each choice among several. -/
inductive Selector where
  /-- Always the same position, or the last one there is. -/
  | fixed (index : Nat)
  /-- A generator of numbers. What it draws may depend on everything that was drawn before: `past`
  holds the numbers of candidates so far, and `draws` gives the position among the last of them. -/
  | drawn (draws : List Nat → Nat) (past : List Nat)

namespace Selector

/-- The position chosen among `n` candidates; it is below `n` unless `n` is 0. Nothing is drawn
where there is no choice. -/
def select : Selector → Nat → Nat
  | fixed index, n => min index (n - 1)
  | drawn draws past, n => if n ≤ 1 then 0 else min (draws (past ++ [n])) (n - 1)

/-- The selector after a choice among `n` candidates. -/
def after : Selector → Nat → Selector
  | fixed index, _ => fixed index
  | drawn draws past, n => if n ≤ 1 then drawn draws past else drawn draws (past ++ [n])

@[simp]
theorem after_fixed (index n : Nat) : (fixed index).after n = fixed index := rfl

/-- Where there is no choice the selector does not go on. -/
theorem after_of_le_one (s : Selector) {n : Nat} (hFew : n ≤ 1) : s.after n = s := by
  cases s with
  | fixed => rfl
  | drawn => rw [after, if_pos hFew]

end Selector

/-- Masks a word. The mask is as long as the word, or `fixedLength` if that is not 0. A preserved
character takes the place of the first or the last character of the mask, and a word of one
character that is preserved on both sides stays as it is. This is the mask as it is if memory has
the room for it; what is done where it has none is up to those who ask for the mask. -/
def censorWord (word : List Char) (mask : Char) (fixedLength : Nat)
    (preserveFirst preserveLast : Bool) : List Char :=
  let n := if 0 < fixedLength then fixedLength else word.length
  let first := word.head?.toList
  let last := word.getLast?.toList
  match preserveFirst, preserveLast with
  | true, true =>
    if word.length ≤ 1 then word else first ++ List.replicate (n - 2) mask ++ last
  | true, false => first ++ List.replicate (n - 1) mask
  | false, true => List.replicate (n - 1) mask ++ last
  | false, false => List.replicate n mask

/-- Gives a replacement the case of what it replaces: capitals throughout, or a capital at the
beginning. -/
def matchCase (source replacement : List Char) : List Char :=
  if source.any isAlphabetic && !source.any isLower then toUpper replacement
  else if source.head?.any isUpper then
    match replacement with
    | [] => []
    | c :: rest => upperChar c ++ rest
  else replacement

def isBlank (s : List Char) : Bool := !s.isEmpty && s.all isSpace

/-- What stays when a match is taken out. Two words are never joined, and white space is never
doubled. -/
def removeWord (m : MatchParts) (h : Array Char) : List Char :=
  match m with
  | .bounded _ leading _ trailing =>
    let leading := leading.text h
    let trailing := trailing.text h
    if isBlank leading && isBlank trailing then leading
    else if leading.any (!isSpace ·) || trailing.any (!isSpace ·) then trim (leading ++ trailing)
    else []
  | .plain raw =>
    match (raw.text h).head?, (raw.text h).getLast? with
    | some first, some last => if isSpace first && isSpace last then [first] else []
    | _, _ => []

/-- A method with the settings it works under. -/
structure Replacer where
  settings : Settings
  selector : Selector

namespace Replacer

def choosing (r : Replacer) (selector : Selector) : Replacer := { r with selector := selector }

/-- How many candidates the text for a match of a term is chosen among. -/
def choices (r : Replacer) (t : Term) : Nat :=
  if r.settings.filterMethod = .substitute then t.substitutions.length else 0

def censor (r : Replacer) (content : List Char) : List Char :=
  censorWord content r.settings.censorCharacter r.settings.censorFixedLength
    r.settings.preserveFirst r.settings.preserveLast

/-- The candidate that is put in the place of a match. The candidates are the substitutions of the
term, and the default one if it has none. -/
def candidate (r : Replacer) (t : Term) : String :=
  let n := t.substitutions.length
  if n = 0 then r.settings.defaultSubstitution
  else t.substitutions.getD (min (r.selector.select n) (n - 1)) ""

/-- The text that is put in the place of a match. -/
def substitute (r : Replacer) (t : Term) (content : List Char) : List Char :=
  let chosen := (r.candidate t).toList
  let cased := if t.preserveCase then matchCase content chosen else chosen
  if r.settings.substitutionMark then '[' :: cased ++ [']'] else cased

/-- Puts the boundaries of a match back around what replaces its content. They are given back as
they were, whatever became of the content. -/
def reattach (m : MatchParts) (h : Array Char) (replacement : List Char) : List Char :=
  match m with
  | .plain _ => replacement
  | .bounded _ leading _ trailing => leading.text h ++ replacement ++ trailing.text h

/-- What replaces a whole match. -/
def replacement (r : Replacer) (t : Term) (m : MatchParts) (h : Array Char) : List Char :=
  match r.settings.filterMethod with
  | .off => m.raw.text h
  | .censor => reattach m h (r.censor (m.content.text h))
  | .substitute => reattach m h (r.substitute t (m.content.text h))
  | .remove => removeWord m h

end Replacer

end Expurgate
