import Expurgate.Outcome
import Expurgate.TermSet

/-!
One term's turn on a text: every match is decided upon, and the text is put together anew.
-/

namespace Expurgate

structure PassContext where
  allowList : AllowList
  replacer : Replacer

/-- The same, with another one to choose. -/
def PassContext.choosing (ctx : PassContext) (selector : Selector) : PassContext :=
  { ctx with replacer := ctx.replacer.choosing selector }

section Choosing

variable (ctx : PassContext) (s s' : Selector)

@[simp]
theorem PassContext.allowList_choosing : (ctx.choosing s).allowList = ctx.allowList := rfl

@[simp]
theorem PassContext.settings_choosing :
    (ctx.choosing s).replacer.settings = ctx.replacer.settings := rfl

@[simp]
theorem PassContext.choosing_choosing : (ctx.choosing s).choosing s' = ctx.choosing s' := rfl

@[simp]
theorem PassContext.choosing_self : ctx.choosing ctx.replacer.selector = ctx := rfl

end Choosing

inductive Resolution where
  /-- The match stays, without a trace. -/
  | skipped
  /-- The match stays since its word is allowed. -/
  | exempted (record : LogRecord)
  /-- The match is replaced, by a text that was chosen among `choices` candidates. -/
  | replaced (text : List Char) (record : LogRecord) (result : TermMatch) (choices : Nat)
  deriving Repr, DecidableEq

namespace Resolution

def match? : Resolution → Option TermMatch
  | replaced _ _ m _ => some m
  | _ => none

def record? : Resolution → Option LogRecord
  | skipped => none
  | exempted r => some r
  | replaced _ r _ _ => some r

/-- How many candidates there were to choose among. -/
def choices : Resolution → Nat
  | replaced _ _ _ n => n
  | _ => 0

/-- The text that stands for a stretch afterwards. -/
def text (r : Resolution) (h : Array Char) (s : Span) : List Char :=
  match r with
  | replaced t _ _ _ => t
  | _ => s.text h

end Resolution

/-- The selector after the choices that go with several decisions. A decision between one word and
itself draws nothing. -/
def Selector.afterAll (s : Selector) (decided : List Resolution) : Selector :=
  decided.foldl (fun s r => s.after r.choices) s

/-- A selector that always makes the same choice is the same after any number of decisions, so a run
with it needs no account of what was chosen before. -/
@[simp]
theorem Selector.afterAll_fixed (index : Nat) (decided : List Resolution) :
    (fixed index).afterAll decided = fixed index := by
  induction decided with
  | nil => rfl
  | cons r rest ih => exact ih

/-- Nothing is drawn for decisions that leave no choice, so a generator does not notice them. -/
theorem Selector.afterAll_of_le_one (s : Selector) {decided : List Resolution}
    (hFew : ∀ r ∈ decided, r.choices ≤ 1) : s.afterAll decided = s := by
  induction decided with
  | nil => rfl
  | cons r rest ih =>
      obtain ⟨hFirst, hRest⟩ := List.forall_mem_cons.mp hFew
      rw [afterAll, List.foldl_cons, s.after_of_le_one hFirst]
      exact ih hRest

/-- What the passes work with after several decisions. -/
def PassContext.after (ctx : PassContext) (decided : List Resolution) : PassContext :=
  ctx.choosing (ctx.replacer.selector.afterAll decided)

/-- Decides upon one match. A match without content carries nothing to replace. An exempt match is
left alone, and only the log tells of it. What the allow list builds on the way is kept for the
matches behind. -/
def resolve (ctx : PassContext) (t : Term) (h : Array Char) (c : Captures) (cache : TokenCache) :
    Resolution × TokenCache :=
  match t.split c with
  | none => (.skipped, cache)
  | some m =>
    let content := m.content.text h
    if content.isEmpty then (.skipped, cache)
    else
      let (exempt, cache) := ctx.allowList.exempts t m h cache
      let found := String.ofList content
      if exempt then (.exempted (.exempt t.text found), cache)
      else
        let replacement := ctx.replacer.replacement t m h
        let shown := String.ofList replacement
        let raw := String.ofList (m.raw.text h)
        (.replaced replacement (.replace t.text raw shown)
          { key := t.text
            found := found
            replacement := shown
            start := byteOffset h m.raw.start
            stop := byteOffset h m.raw.stop }
          (ctx.replacer.choices t),
          cache)

/-- Decides upon matches one after another. Patterns for tokens are kept from one to the next, and
each choice is made after those for the earlier matches. -/
def resolveAll (ctx : PassContext) (t : Term) (h : Array Char) :
    List Captures → TokenCache → List (Span × Resolution) × TokenCache
  | [], cache => ([], cache)
  | c :: rest, cache =>
    let (r, cache) := resolve ctx t h c cache
    let (others, cache) := resolveAll (ctx.after [r]) t h rest cache
    ((⟨c.start, c.stop⟩, r) :: others, cache)

/-- A text from a position on, with the stretches replaced. The stretches are in order and apart, so
each part of the text between them is copied once. -/
def splice (h : Array Char) (start : Nat) : List (Span × Resolution) → List Char
  | [] => (h.extract start h.size).toList
  | (s, r) :: rest => (h.extract start s.start).toList ++ r.text h s ++ splice h s.stop rest

/-- What a term's turn leads to: the text, and what was decided about its matches, in order. The
decisions are needed for what is told of the matches, and for the choices that come after. -/
structure PassResult where
  text : Array Char
  decided : List Resolution

@[simp]
def PassResult.matched (p : PassResult) : List TermMatch := p.decided.filterMap (·.match?)

/-- A term's turn on a text. All its matches are found in the text as it was at the beginning of the
turn. -/
def Term.pass (ctx : PassContext) (t : Term) (h : Array Char) (cache : TokenCache) :
    PassResult × TokenCache :=
  let (resolved, cache) := resolveAll ctx t h (t.occurrences h) cache
  (⟨(splice h 0 resolved).toArray, resolved.map (·.2)⟩, cache)

/-- The turns of several terms, each on what the one before it left. The longest terms come first,
so a shorter one sees what they have put in. -/
def passes (ctx : PassContext) :
    List Term → Array Char → TokenCache → PassResult
  | [], h, _ => ⟨h, []⟩
  | t :: rest, h, cache =>
    let (first, cache) := t.pass ctx h cache
    let others := passes (ctx.after first.decided) rest first.text cache
    ⟨others.text, first.decided ++ others.decided⟩

/-- Expurgates a text with the terms of a set. Besides the outcome it gives what was decided about
each match. -/
def TermSet.expurgate (set : TermSet) (ctx : PassContext) (text : String) :
    Outcome × List Resolution :=
  let result := passes ctx set.terms text.toList.toArray .empty
  let filtered := String.ofList result.text.toList
  (⟨text, filtered, filtered ≠ text, result.matched⟩, result.decided)

/-- What a recording expurgation keeps of its matches: how many were replaced, and who was told of
which, in order. -/
structure Tally where
  occurrences : UInt64
  notified : List (Nat × TermMatch)

/-- Enters a decision as soon as it is made. Only a match that is replaced counts, and the observer
is told of it. -/
def Tally.enter (observer : Option Nat) (t : Tally) : Resolution → Tally
  | .skipped | .exempted _ => t
  | .replaced _ _ m _ => ⟨t.occurrences + 1, t.notified ++ observer.toList.map fun id => (id, m)⟩

end Expurgate
