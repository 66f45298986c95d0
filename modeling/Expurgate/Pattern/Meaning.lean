import Expurgate.Pattern.Parser
import Expurgate.Regex.Basic

/-!
What a written pattern means: the regular expression that it stands for under the flags in force. A
flag set inside a group holds up to the end of that group, across its branches.
-/

namespace Expurgate

open Unicode

structure Flags where
  caseInsensitive : Bool
  multiLine : Bool
  dotMatchesNewLine : Bool
  swapGreed : Bool
  unicode : Bool
  crlf : Bool
  deriving Repr, DecidableEq

namespace Flags

/-- The flags a pattern starts with: terms match without regard to case unless they say otherwise.
-/
def caseless : Flags := ⟨true, false, false, false, true, false⟩

def set (f : Flags) (flag : Flag) (value : Bool) : Flags :=
  match flag with
  | .caseInsensitive => { f with caseInsensitive := value }
  | .multiLine => { f with multiLine := value }
  | .dotMatchesNewLine => { f with dotMatchesNewLine := value }
  | .swapGreed => { f with swapGreed := value }
  | .unicode => { f with unicode := value }
  | .crlf => { f with crlf := value }
  | .ignoreSpace => f

def update (f : Flags) (items : List (Flag × Bool)) : Flags :=
  items.foldl (fun f item => f.set item.1 item.2) f

end Flags

namespace CharSet

def posix : PosixClass → CharSet
  | .alnum => ⟨[(0x30, 0x39), (0x41, 0x5A), (0x61, 0x7A)]⟩
  | .alpha => ⟨[(0x41, 0x5A), (0x61, 0x7A)]⟩
  | .ascii => ⟨[(0x00, 0x7F)]⟩
  | .blank => ⟨[(0x09, 0x09), (0x20, 0x20)]⟩
  | .cntrl => ⟨[(0x00, 0x1F), (0x7F, 0x7F)]⟩
  | .digit => ⟨[(0x30, 0x39)]⟩
  | .graph => ⟨[(0x21, 0x7E)]⟩
  | .lower => ⟨[(0x61, 0x7A)]⟩
  | .print => ⟨[(0x20, 0x7E)]⟩
  | .punct => ⟨[(0x21, 0x2F), (0x3A, 0x40), (0x5B, 0x60), (0x7B, 0x7E)]⟩
  | .space => ⟨[(0x09, 0x0D), (0x20, 0x20)]⟩
  | .upper => ⟨[(0x41, 0x5A)]⟩
  | .word => ⟨[(0x30, 0x39), (0x41, 0x5A), (0x5F, 0x5F), (0x61, 0x7A)]⟩
  | .xdigit => ⟨[(0x30, 0x39), (0x41, 0x46), (0x61, 0x66)]⟩

def short (unicode : Bool) : ShortClass → CharSet
  | .digit => if unicode then digit else posix .digit
  | .space => if unicode then space else posix .space
  | .word => if unicode then word else posix .word

/-- A set of ASCII characters closed under differences of case among them. -/
def asciiCaseless (s : CharSet) : CharSet :=
  ⟨s.ranges.union (s.ranges.members.flatMap fun n =>
    if 0x41 ≤ n ∧ n ≤ 0x5A then [(n + 32, n + 32)]
    else if 0x61 ≤ n ∧ n ≤ 0x7A then [(n - 32, n - 32)]
    else [])⟩

/-- A set closed under differences of case where the flags ask for it. -/
def folded (f : Flags) (s : CharSet) : CharSet :=
  if !f.caseInsensitive then s else if f.unicode then s.caseless else s.asciiCaseless

/-- A set, or its complement. Without Unicode a complement would hold bytes that are no text. -/
def orComplement (f : Flags) (negated : Bool) (s : CharSet) : Except PatternError CharSet :=
  if !negated then .ok s else if f.unicode then .ok s.complement else .error .invalidBytes

def ofProperty (f : Flags) (query : PropertyQuery) (negated : Bool) :
    Except PatternError CharSet :=
  if !f.unicode then .error .unicodeNotAllowed
  else
    match query.ranges? with
    | some ranges => orComplement f negated (folded f ⟨ranges⟩)
    | none => .error .propertyUnknown

/-- A single character, with its other cases where the flags ask for them. -/
def ofChar (f : Flags) (c : Char) : CharSet :=
  if !f.caseInsensitive then single c
  else if f.unicode then letter c
  else asciiCaseless (single c)

end CharSet

namespace ClassSet

/-- The characters that stand between brackets. Each item is closed under case by itself; the union
and the other operations keep that. -/
def meaning (f : Flags) : ClassSet → Except PatternError CharSet
  | empty => .ok .empty
  | literal l =>
    if f.unicode || l.char.toNat < 0x80 then .ok (.ofChar f l.char) else .error .unicodeNotAllowed
  | range a b =>
    if f.unicode || b.char.toNat < 0x80 then .ok (CharSet.folded f (.range a.char b.char))
    else .error .unicodeNotAllowed
  | posix kind negated => CharSet.orComplement f negated (CharSet.folded f (.posix kind))
  | short kind negated => CharSet.orComplement f negated (.short f.unicode kind)
  | property query negated => CharSet.ofProperty f query negated
  | bracketed negated s => do CharSet.orComplement f negated (← s.meaning f)
  | union a b => do return (← a.meaning f).union (← b.meaning f)
  | operation op a b => do
    let a ← a.meaning f
    let b ← b.meaning f
    match op with
    | .intersection => return a.inter b
    | .difference => return a.diff b
    | .symmetricDifference => return a.symmDiff b

end ClassSet

def Anchor.look (f : Flags) : Anchor → Look
  | caret => if !f.multiLine then .start else if f.crlf then .lineStartCRLF else .lineStart
  | dollar => if !f.multiLine then .stop else if f.crlf then .lineStopCRLF else .lineStop
  | textStart => .start
  | textStop => .stop
  | wordEdge => .wordEdge
  | notWordEdge => .notWordEdge
  | wordStart => .wordStart
  | wordStop => .wordStop
  | wordStartHalf => .wordStartHalf
  | wordStopHalf => .wordStopHalf

namespace Regex

/-- An estimate of the bytes a matcher keeps for the expression. It is larger than what the program
takes by itself, because it counts the ranges of a class as they are split into bytes. -/
def cost : Regex → Nat
  | empty => 0
  | set s => 64 + (if s.isAscii then 8 else 60) * s.ranges.length
  | look _ _ => 32
  | capture _ r => r.cost + 64
  | seq a b => a.cost + b.cost
  | alt a b => a.cost + b.cost + 72
  | option _ r | loop _ r => r.cost + 72

/-- The largest expression that is accepted. A pattern beyond it is refused, and this is the one way
in which the pattern of a plain word can fail. -/
def maxCost : Nat := 10 * 0x100000

end Regex

namespace Pattern

def dotSet (f : Flags) : CharSet :=
  if f.dotMatchesNewLine then .any
  else if f.crlf then (CharSet.single '\n').union (.single '\r') |>.complement
  else (CharSet.single '\n').complement

/-- The expression a pattern stands for, with the flags in force behind it. -/
def meaning (f : Flags) : Pattern → Except PatternError (Regex × Flags)
  | empty => .ok (.empty, f)
  | flags items => .ok (.empty, f.update items)
  | literal l =>
    if !f.unicode && l.form = .byte && 0x80 ≤ l.char.toNat then .error .invalidBytes
    else .ok (.set (.ofChar f l.char), f)
  | dot => if f.unicode then .ok (.set (dotSet f), f) else .error .invalidBytes
  | anchor a => .ok (.look (a.look f) !f.unicode, f)
  | short kind negated => do
    return (.set (← CharSet.orComplement f negated (.short f.unicode kind)), f)
  | property query negated => do return (.set (← CharSet.ofProperty f query negated), f)
  | bracket negated s => do
    return (.set (← CharSet.orComplement f negated (← s.meaning f)), f)
  | repetition min max greedy body => do
    let (r, after) ← body.meaning f
    if r.cost * Nat.max min (max.getD 1) ≤ Regex.maxCost || r.isZeroWidth then
      return (r.repetition min max (greedy ^^ f.swapGreed), after)
    else throw .tooLarge
  | group (.capture index _) body => do
    let (r, _) ← body.meaning f
    return (.capture index r, f)
  | group (.plain items) body => do
    let (r, _) ← body.meaning (f.update items)
    return (r, f)
  | alternate a b => do
    let (r, f) ← a.meaning f
    let (s, f) ← b.meaning f
    return (.alt r s, f)
  | seq a b => do
    let (r, f) ← a.meaning f
    let (s, f) ← b.meaning f
    return (.seq r s, f)

/-- The expression a whole pattern stands for, without regard to case. -/
def regex (p : Pattern) : Except PatternError Regex := do
  let (r, _) ← p.meaning .caseless
  if r.cost ≤ Regex.maxCost then return r else throw .tooLarge

end Pattern

/-- Reads a text as a pattern and gives its expression. -/
def Regex.ofText (s : String) : Except PatternError Regex := do (← Pattern.parse s).regex

end Expurgate
