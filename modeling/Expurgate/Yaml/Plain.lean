import Expurgate.Yaml.Node

/-!
What plain scalars stand for: nothing, truth values, numbers, or else their own text.
-/

namespace Expurgate.Yaml

def isNullText (s : String) : Bool := ["null", "Null", "NULL", "~"].contains s

def flagOfText (s : String) : Option Bool :=
  if ["true", "True", "TRUE"].contains s then some true
  else if ["false", "False", "FALSE"].contains s then some false
  else none

def digitValue (c : Char) : Option Nat := hexValue [c]

def numberInBase (base : Nat) (digits : List Char) : Option Nat :=
  if digits.isEmpty then none
  else
    digits.foldlM (fun n d =>
      (digitValue d).bind fun v => if v < base then some (base * n + v) else none) 0

/-- The base that a marked number is written in, and its digits. -/
def markedBase : List Char → Option (Nat × List Char)
  | '0' :: 'x' :: digits => some (16, digits)
  | '0' :: 'o' :: digits => some (8, digits)
  | '0' :: 'b' :: digits => some (2, digits)
  | _ => none

def withoutSign (signs : List Char) : List Char → List Char
  | c :: rest => if signs.contains c then rest else c :: rest
  | [] => []

/-- Digits that begin with a needless zero are no number. -/
def isZeroPadded (s : List Char) : Bool :=
  match withoutSign ['-', '+'] s with
  | '0' :: d :: rest => (d :: rest).all Char.isDigit
  | _ => false

/-- A number below `limit` without a minus sign. -/
def naturalOfText (limit : Nat) (s : List Char) : Option Nat :=
  let digits := withoutSign ['+'] s
  match (markedBase digits).bind fun (base, digits) => numberInBase base digits with
  | some n => if n < limit then some n else none
  | none =>
    if isZeroPadded s then none
    else (numberInBase 10 digits).filter (· < limit)

/-- Whether a text is a number with a minus sign, of which `limit` is the greatest size. -/
def isNegative (limit : Nat) (s : List Char) : Bool :=
  match s with
  | '-' :: digits =>
    match (markedBase digits).bind fun (base, digits) => numberInBase base digits with
    | some n => n ≤ limit
    | none => !isZeroPadded s && (numberInBase 10 digits).any (· ≤ limit)
  | _ => false

/-- Whether a text is a whole number. Larger ones count as fractions do. -/
def isWholeNumber (s : List Char) : Bool :=
  (naturalOfText (1 <<< 128) s).isSome || isNegative (1 <<< 127) s

/-- The least size that is too large for a floating-point number and is taken for infinite. -/
def infiniteFrom : Nat := (1 <<< 1024) - (1 <<< 970)

/-- Whether `n * 10 ^ e` is small enough for a floating-point number. -/
def isFinite (n : Nat) (e : Int) : Bool :=
  if n = 0 then true
  else if 400 < e then false
  else if 0 ≤ e then n * Nat.pow 10 e.toNat < infiniteFrom
  else n < infiniteFrom || (Nat.toDigits 10 n).length + e ≤ 300
    || n < infiniteFrom * Nat.pow 10 (-e).toNat

/-- The number of a run of digits, which may be empty. -/
def runValue (digits : List Char) : Nat := digits.foldl (fun n d => 10 * n + (d.toNat - 48)) 0

/-- The exponent behind a number, if that is all that follows. -/
def exponentOf : List Char → Option Int
  | [] => some 0
  | e :: rest =>
    if e = 'e' || e = 'E' then
      let digits := withoutSign ['-', '+'] rest
      if digits.isEmpty || !digits.all Char.isDigit then none
      else if rest.head? = some '-' then some (-(runValue digits)) else some (runValue digits)
    else none

def isDecimal (s : List Char) : Bool :=
  let whole := s.takeWhile Char.isDigit
  let (part, rest) := match s.dropWhile Char.isDigit with
    | '.' :: rest => (rest.takeWhile Char.isDigit, rest.dropWhile Char.isDigit)
    | rest => ([], rest)
  if whole.isEmpty && part.isEmpty then false
  else
    match exponentOf rest with
    | some e => isFinite (runValue (whole ++ part)) (e - part.length)
    | none => false

def isFloat (s : List Char) : Bool :=
  let special := String.ofList (withoutSign ['-', '+'] s)
  if [".inf", ".Inf", ".INF"].contains special then true
  else if [".nan", ".NaN", ".NAN"].contains (String.ofList s) then true
  else isDecimal (withoutSign ['-', '+'] s)

/-- Whether a plain scalar stands for its own text. -/
def isPlainText (s : String) : Bool :=
  let chars := s.toList
  !(s.isEmpty || isNullText s || (flagOfText s).isSome || isWholeNumber chars
    || (!isZeroPadded chars && isFloat chars))

end Expurgate.Yaml
