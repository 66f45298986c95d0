import Expurgate.Pattern.Basic

/-!
The text of a pattern.
-/

namespace Expurgate

open Unicode

/-- The digits of a number in base sixteen, at least `width` of them. -/
def hexDigits (n width : Nat) : String :=
  let digits := (Nat.toDigits 16 n).map Char.toUpper
  String.ofList (List.replicate (width - digits.length) '0' ++ digits)

def Literal.source (l : Literal) : String :=
  match l.form with
  | .verbatim => String.ofList [l.char]
  | .escaped => String.ofList ['\\', l.char]
  | .byte => "\\x" ++ hexDigits l.char.toNat 2
  | .code => "\\u\x7b" ++ hexDigits l.char.toNat 1 ++ "\x7d"

def ShortClass.source (kind : ShortClass) (negated : Bool) : String :=
  match kind, negated with
  | .digit, false => "\\d"
  | .digit, true => "\\D"
  | .space, false => "\\s"
  | .space, true => "\\S"
  | .word, false => "\\w"
  | .word, true => "\\W"

def PosixClass.name : PosixClass → String
  | alnum => "alnum"
  | alpha => "alpha"
  | ascii => "ascii"
  | blank => "blank"
  | cntrl => "cntrl"
  | digit => "digit"
  | graph => "graph"
  | lower => "lower"
  | print => "print"
  | punct => "punct"
  | space => "space"
  | upper => "upper"
  | word => "word"
  | xdigit => "xdigit"

def PosixClass.all : List PosixClass :=
  [alnum, alpha, ascii, blank, cntrl, digit, graph, lower, print, punct, space, upper, word, xdigit]

def propertySource (query : PropertyQuery) (negated : Bool) : String :=
  let letter := if negated then "\\P" else "\\p"
  match query with
  | .name s => letter ++ "\x7b" ++ s ++ "\x7d"
  | .value p v => letter ++ "\x7b" ++ p ++ "=" ++ v ++ "\x7d"

def SetOperation.source : SetOperation → String
  | intersection => "&&"
  | difference => "--"
  | symmetricDifference => "~~"

def ClassSet.source : ClassSet → String
  | empty => ""
  | literal l => l.source
  | range first last => first.source ++ "-" ++ last.source
  | posix kind negated => "[:" ++ (if negated then "^" else "") ++ kind.name ++ ":]"
  | short kind negated => kind.source negated
  | property query negated => propertySource query negated
  | bracketed negated s => "[" ++ (if negated then "^" else "") ++ s.source ++ "]"
  | union a b => a.source ++ b.source
  | operation op a b => a.source ++ op.source ++ b.source

def Anchor.source : Anchor → String
  | caret => "^"
  | dollar => "$"
  | textStart => "\\A"
  | textStop => "\\z"
  | wordEdge => "\\b"
  | notWordEdge => "\\B"
  | wordStart => "\\b\x7bstart\x7d"
  | wordStop => "\\b\x7bend\x7d"
  | wordStartHalf => "\\b\x7bstart-half\x7d"
  | wordStopHalf => "\\b\x7bend-half\x7d"

def Flag.letter : Flag → Char
  | caseInsensitive => 'i'
  | multiLine => 'm'
  | dotMatchesNewLine => 's'
  | swapGreed => 'U'
  | unicode => 'u'
  | crlf => 'R'
  | ignoreSpace => 'x'

/-- The text of flags, those that are switched off after a dash. -/
def flagSource (items : List (Flag × Bool)) : String :=
  let on := (items.filter (·.2)).map (·.1.letter)
  let off := (items.filter (!·.2)).map (·.1.letter)
  String.ofList (on ++ if off.isEmpty then [] else '-' :: off)

def countSource (min : Nat) (max : Option Nat) : String :=
  match min, max with
  | 0, some 1 => "?"
  | 0, none => "*"
  | 1, none => "+"
  | n, none => "\x7b" ++ toString n ++ ",\x7d"
  | n, some m =>
    if n = m then "\x7b" ++ toString n ++ "\x7d"
    else "\x7b" ++ toString n ++ "," ++ toString m ++ "\x7d"

def GroupKind.source : GroupKind → String
  | capture _ none => "("
  | capture _ (some name) => "(?P<" ++ name ++ ">"
  | plain flags => "(?" ++ flagSource flags ++ ":"

def Pattern.source : Pattern → String
  | empty => ""
  | flags items => "(?" ++ flagSource items ++ ")"
  | literal l => l.source
  | dot => "."
  | anchor a => a.source
  | short kind negated => kind.source negated
  | property query negated => propertySource query negated
  | bracket negated s => "[" ++ (if negated then "^" else "") ++ s.source ++ "]"
  | repetition min max greedy body =>
    body.source ++ countSource min max ++ (if greedy then "" else "?")
  | group kind body => kind.source ++ body.source ++ ")"
  | alternate a b => a.source ++ "|" ++ b.source
  | seq a b => a.source ++ b.source

end Expurgate
