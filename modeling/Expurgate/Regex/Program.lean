import Expurgate.Regex.Basic

/-!
A regular expression as a program: an array of instructions, each of which names the instructions
that may follow it. Where two may follow, the first is preferred.
-/

namespace Expurgate

inductive Instr where
  | accept
  | fail
  | set (s : CharSet) (next : Nat)
  | look (l : Look) (ascii : Bool) (next : Nat)
  | mark (slot next : Nat)
  | split (first second : Nat)
  deriving Repr, DecidableEq

/-- Instructions together with the one to start at. Running it is a matter of `Regex.Search`, and
what it finds is told there by the expression that it was made from. -/
structure Program where
  code : Array Instr
  entry : Nat
  deriving Repr, DecidableEq

namespace Program

/-- A choice between going on at `body` and at `next`; a greedy one prefers the body. The order of
the two is all that is left of greediness in a program. -/
def choice (greedy : Bool) (body next : Nat) : Instr :=
  if greedy then .split body next else .split next body

def push (code : Array Instr) (i : Instr) : Nat × Array Instr := (code.size, code.push i)

/-- Adds the instructions that match `r` and go on at `next`; the result is the address to enter at.
The choice at the end of a loop is placed before the body, which needs its address, and is filled in
after it. -/
def emit : Regex → (next : Nat) → Array Instr → Nat × Array Instr
  | .empty, next, code => (next, code)
  | .set s, next, code => push code (.set s next)
  | .look l ascii, next, code => push code (.look l ascii next)
  | .capture i r, next, code =>
    let (close, code) := push code (.mark (2 * i + 1) next)
    let (body, code) := emit r close code
    push code (.mark (2 * i) body)
  | .seq a b, next, code =>
    let (second, code) := emit b next code
    emit a second code
  | .alt a b, next, code =>
    let (second, code) := emit b next code
    let (first, code) := emit a next code
    push code (.split first second)
  | .option greedy r, next, code =>
    let (body, code) := emit r next code
    push code (choice greedy body next)
  | .loop greedy r, next, code =>
    let (again, code) := push code .fail
    let (body, code) := emit r again code
    (body, code.setIfInBounds again (choice greedy body next))

end Program

def Regex.program (r : Regex) : Program :=
  let (entry, code) := Program.emit r 0 #[.accept]
  ⟨code, entry⟩

end Expurgate
