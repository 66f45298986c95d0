import Expurgate.Pattern.Parser
import Expurgate.Term.Shape
import Mathlib.Tactic.Common

/-! Patterns that are read back from their texts. A text is read item by item, so what is to be
shown of an item is what reading does with its text wherever it stands. -/
namespace Expurgate.Pattern

open Unicode

/-- A cursor before a text in which blanks count and no group has a name. -/
def Cursor.before (w : List Char) (groups : Nat) : Cursor := ⟨w, false, groups, []⟩

@[simp]
theorem Cursor.skipBlanks_before (w : List Char) (g : Nat) :
    (Cursor.before w g).skipBlanks = .before w g :=
  rfl

@[simp]
theorem Cursor.rest_before (w : List Char) (g : Nat) : (Cursor.before w g).rest = w := rfl

/-- The text does not begin with a sign that would change what was read before it. -/
def Calm (w : List Char) : Prop := w.head? ≠ some '?' ∧ w.head? ≠ some '\x7b'

/-- What follows an item must not be read as belonging to it. A question mark or a brace behind a
repetition would be, and no other character. -/
theorem Calm.cons {c : Char} (hMark : c ≠ '?') (hBrace : c ≠ '\x7b') (w : List Char) :
    Calm (c :: w) := by
  simp [Calm, hMark, hBrace]

def text (ps : List Pattern) : List Char := ps.flatMap (·.source.toList)

/-- The source of a sequence is that of its parts one after the other. This fails of alternations,
which are not parts of a sequence here. -/
theorem source_concat (ps : List Pattern) : (concat ps).source.toList = text ps := by
  induction ps using concat.induct with
  | case1 => rfl
  | case2 p => simp [concat, text]
  | case3 p rest hRest ih =>
      rw [concat.eq_3 _ _ hRest, source, String.toList_append, ih]
      rfl

section Step

variable {f g : Nat} {acc : List Pattern} {rest : List Char} {next : Cursor} {p : Pattern}

/-- The characters that open or close something, or repeat what stands before them. -/
def controls : List Char := ['|', ')', '(', '[', '\x7b', '?', '*', '+']

/-- A character that controls nothing is read as an item of its own, and the reading goes on behind
it. -/
theorem parseItems_primitive {c : Char} (hControl : c ∉ controls)
    (hRead : parsePrimitive c (.before rest g) = .ok (p, next)) :
    parseItems (f + 1) acc (.before (c :: rest) g) = parseItems f (p :: acc) next := by
  simp only [controls, List.mem_cons, List.not_mem_nil, not_or, or_false] at hControl
  have hSign : signCounts? c = none := by simp [signCounts?, hControl]
  rw [Cursor.before] at hRead
  simp [parseItems, Cursor.before, Cursor.skipBlanks, Cursor.goto, hControl, hSign, hRead, bind,
    Except.bind]

theorem parseItems_class (hRead : parseClass (.before rest g) = .ok (p, next)) :
    parseItems (f + 1) acc (.before ('[' :: rest) g) = parseItems f (p :: acc) next := by
  rw [Cursor.before] at hRead
  simp [parseItems, Cursor.before, Cursor.skipBlanks, Cursor.goto, hRead, bind, Except.bind]

/-- A group is read with the number that is next, and the reading goes on behind its bracket with
the numbers that its body has left. -/
theorem parseItems_group {i g' : Nat} {w tail : List Char}
    (hHead : parseGroupHead (.before w g) = .ok (.group (.capture i none), .before w i))
    (hBody : parseBranches f (.before w i) = .ok (p, .before (')' :: tail) g')) :
    parseItems (f + 1) acc (.before ('(' :: w) g) =
      parseItems f (.group (.capture i none) p :: acc) (.before tail g') := by
  rw [Cursor.before] at hHead hBody
  simp [parseItems, Cursor.before, Cursor.skipBlanks, Cursor.goto, hHead, hBody, bind, Except.bind]

/-- A sign that counts takes the last item back and puts its repetition in the place. The counts may
be refused, so that they are not is a hypothesis. -/
theorem parseItems_sign {c : Char} {min : Nat} {max : Option Nat}
    (hSign : signCounts? c = some (min, max)) (hCalm : Calm rest)
    (hLast : repeatLast min max true (p :: acc) = .ok (.repetition min max true p :: acc)) :
    parseItems (f + 1) (p :: acc) (.before (c :: rest) g) =
      parseItems f (.repetition min max true p :: acc) (.before rest g) := by
  have hGreed : parseGreed ⟨rest, false, g, []⟩ = (true, ⟨rest, false, g, []⟩) := by
    cases rest with
    | nil => rfl
    | cons d rest =>
        have hMark : d ≠ '?' := by simpa [Calm] using hCalm.1
        simp [parseGreed, hMark]
  have hControl : c ≠ '|' ∧ c ≠ ')' ∧ c ≠ '(' ∧ c ≠ '[' ∧ c ≠ '\x7b' := by
    refine ⟨?_, ?_, ?_, ?_, ?_⟩ <;> rintro rfl <;> simp [signCounts?] at hSign
  simp [parseItems, Cursor.before, Cursor.skipBlanks, Cursor.goto, hControl, hSign, hGreed, hLast,
    bind, Except.bind]

/-- A branch ends with the text, or before a bar or a closing parenthesis. -/
def Ends (w : List Char) : Prop := ∀ c ∈ w.head?, c = '|' ∨ c = ')'

/-- A sequence ends at a closing bracket, at a bar or with the text. Its items were collected in
reverse. -/
theorem parseItems_end (hEnds : Ends rest) :
    parseItems (f + 1) acc (.before rest g) = .ok (acc.reverse, .before rest g) := by
  cases rest with
  | nil => simp [parseItems, Cursor.before, Cursor.skipBlanks]
  | cons c rest =>
      have hEnd : c = '|' ∨ c = ')' := hEnds c rfl
      simp [parseItems, Cursor.before, Cursor.skipBlanks, hEnd]

end Step

section Class

variable {f g : Nat} {tail : List Char} {item : ClassSet}

/-- Items that are read between brackets as they are written: classes with a letter of their own,
characters that mean nothing there, and escaped ones. -/
def isPlainItem : ClassSet → Bool
  | .short _ _ => true
  | .literal ⟨c, .verbatim⟩ => decide (c ∉ ['[', ']', '\\', '-', '&', '~', '^'])
  | .literal ⟨c, .escaped⟩ => isMeta c
  | _ => false

theorem not_isDigit_of_isMeta {c : Char} (hMeta : isMeta c = true) : c.isDigit = false := by
  have hNot : (!c.isDigit) = true :=
    (List.all_eq_true (p := fun d => !d.isDigit)).mp (by decide) c (List.contains_iff_mem.mp hMeta)
  simpa using hNot

/-- A character that means something by itself stands for itself behind a backslash. -/
theorem parseEscape_meta {c : Char} (hMeta : isMeta c = true) :
    parseEscape (.before (c :: tail) g) = .ok (.literal ⟨c, .escaped⟩, .before tail g) := by
  simp [parseEscape, Cursor.before, Cursor.goto, not_isDigit_of_isMeta hMeta, isEscapable, hMeta]

theorem parseEscape_short (kind : ShortClass) (negated : Bool) :
    ∃ c, (kind.source negated).toList = ['\\', c] ∧ parseEscape (.before (c :: tail) g) =
      .ok (.short kind negated, .before tail g) := by
  cases kind <;> cases negated <;> exact ⟨_, rfl, rfl⟩

/-- An item begins with a character that means nothing else between brackets. -/
theorem head_of_plain (hPlain : isPlainItem item = true) : ∃ c w, item.source.toList = c :: w ∧
    c ∉ ['[', ']', '-', '&', '~', '^'] := by
  match item, hPlain with
  | .short kind negated, _ =>
      obtain ⟨c, hSource, -⟩ := @parseEscape_short 0 [] kind negated
      exact ⟨'\\', [c], hSource, by decide⟩
  | .literal ⟨c, .verbatim⟩, hPlain =>
      refine ⟨c, [], by simp [ClassSet.source, Literal.source], fun hMem => ?_⟩
      have hOthers : ['[', ']', '-', '&', '~', '^'] ⊆ ['[', ']', '\\', '-', '&', '~', '^'] := by
        decide
      exact of_decide_eq_true hPlain (hOthers hMem)
  | .literal ⟨c, .escaped⟩, _ =>
      exact ⟨'\\', [c], by simp [ClassSet.source, Literal.source], by decide⟩

/-- A plain item that no dash follows is no range. -/
theorem parseClassRange_plain (hPlain : isPlainItem item = true) {d : Char} (hDash : d ≠ '-') :
    parseClassRange (.before (item.source.toList ++ d :: tail) g) =
      .ok (item, .before (d :: tail) g) := by
  have hAtom : ∃ p, classItem p = .ok item ∧
      parseClassAtom (.before (item.source.toList ++ d :: tail) g) =
        .ok (p, .before (d :: tail) g) := by
    match item, hPlain with
    | .short kind negated, _ =>
        obtain ⟨c, hSource, hRead⟩ := @parseEscape_short g (d :: tail) kind negated
        refine ⟨.short kind negated, rfl, ?_⟩
        rw [ClassSet.source, hSource]
        exact hRead
    | .literal ⟨c, .verbatim⟩, hPlain =>
        have hSlash : c ≠ '\\' := by
          rintro rfl
          revert hPlain
          decide
        have hSource : (ClassSet.literal ⟨c, .verbatim⟩).source.toList = [c] := by
          simp [ClassSet.source, Literal.source]
        refine ⟨.literal ⟨c, .verbatim⟩, rfl, ?_⟩
        rw [hSource]
        simp [parseClassAtom, Cursor.before, Cursor.goto]
    | .literal ⟨c, .escaped⟩, hPlain =>
        refine ⟨.literal ⟨c, .escaped⟩, rfl, ?_⟩
        have hSource : (ClassSet.literal ⟨c, .escaped⟩).source.toList = ['\\', c] := by
          simp [ClassSet.source, Literal.source]
        rw [hSource]
        exact parseEscape_meta hPlain
  obtain ⟨p, hItem, hRead⟩ := hAtom
  simp only [parseClassRange, hRead, bind, Except.bind]
  simp [Cursor.before, Cursor.skipBlanks, hItem, hDash, pure, Except.pure]

/-- One plain item of a bracketed class is read and added to the set. The character behind it must
not be a dash, which would make a range of it. -/
theorem parseClassItems_plain (hPlain : isPlainItem item = true) {d : Char} (hDash : d ≠ '-')
    (acc : ClassSet) : parseClassItems (f + 1) none acc
        (.before (item.source.toList ++ d :: tail) g) =
      parseClassItems f none (acc.add item) (.before (d :: tail) g) := by
  have hRange := @parseClassRange_plain g tail item hPlain d hDash
  obtain ⟨c, w, hSource, hFirst⟩ := head_of_plain hPlain
  simp only [List.mem_cons, List.not_mem_nil, not_or, or_false] at hFirst
  rw [hSource, List.cons_append] at hRange ⊢
  rw [Cursor.before] at hRange
  simp [parseClassItems, Cursor.before, Cursor.skipBlanks, hFirst, hRange, bind, Except.bind]

/-- Plain items begin with a character that the reader of a class does not take for anything else,
so the class is read item by item. -/
theorem head_of_items {items : List ClassSet} (hSome : items ≠ [])
    (hPlain : items.all isPlainItem = true) (w : List Char) :
    ∃ c v, items.flatMap (·.source.toList) ++ w = c :: v ∧
      c ∉ ['[', ']', '-', '&', '~', '^'] := by
  obtain ⟨first, rest, rfl⟩ := List.exists_cons_of_ne_nil hSome
  obtain ⟨c, v, hSource, hFirst⟩ := head_of_plain ((Bool.and_eq_true _ _).mp hPlain).1
  refine ⟨c, v ++ (rest.flatMap (·.source.toList) ++ w), ?_, hFirst⟩
  rw [List.flatMap_cons, hSource, List.cons_append, List.cons_append, List.append_assoc]

/-- Each item takes a character at least, so the length of the text is fuel enough for its items. -/
theorem length_le_items {items : List ClassSet} (hPlain : items.all isPlainItem = true) :
    items.length ≤ (items.flatMap (·.source.toList)).length := by
  induction items with
  | nil => exact Nat.le_refl _
  | cons item rest ih =>
      obtain ⟨hItem, hRest⟩ := (Bool.and_eq_true _ _).mp hPlain
      obtain ⟨c, w, hSource, -⟩ := head_of_plain hItem
      have := ih hRest
      simp only [List.flatMap_cons, List.length_append, List.length_cons, hSource]
      omega

/-- All the items of a class are read in order, up to the bracket that closes it. -/
theorem parseClassItems_items {items : List ClassSet} (hPlain : items.all isPlainItem = true)
    (hFuel : items.length < f) (acc : ClassSet) :
    parseClassItems f none acc
        (.before (items.flatMap (·.source.toList) ++ ']' :: tail) g) =
      .ok (items.foldl ClassSet.add acc, .before tail g) := by
  induction items generalizing f acc with
  | nil =>
      obtain ⟨f, rfl⟩ := Nat.exists_eq_succ_of_ne_zero (Nat.ne_of_gt hFuel)
      simp [parseClassItems, Cursor.before, Cursor.skipBlanks, Cursor.goto, finishOperation]
  | cons item rest ih =>
      obtain ⟨hItem, hRest⟩ := (Bool.and_eq_true _ _).mp hPlain
      obtain ⟨f, rfl⟩ := Nat.exists_eq_succ_of_ne_zero (Nat.ne_of_gt (Nat.zero_lt_of_lt hFuel))
      -- Between the item and what follows no dash can stand: this is another item or the bracket.
      have hNext : ∃ d w, rest.flatMap (·.source.toList) ++ ']' :: tail = d :: w ∧ d ≠ '-' := by
        by_cases hSome : rest = []
        · subst hSome
          exact ⟨']', tail, rfl, by decide⟩
        · obtain ⟨d, w, hText, hFirst⟩ := head_of_items hSome hRest (']' :: tail)
          refine ⟨d, w, hText, ?_⟩
          rintro rfl
          exact hFirst (by decide)
      obtain ⟨d, w, hText, hDash⟩ := hNext
      rw [List.flatMap_cons, List.append_assoc, hText, parseClassItems_plain hItem hDash, ← hText,
        ih hRest (by simpa using hFuel)]
      rfl

theorem source_items (items : List ClassSet) :
    (Pattern.items items).source.toList = items.flatMap (·.source.toList) := by
  have hFold (acc : ClassSet) : (items.foldl ClassSet.add acc).source.toList =
      acc.source.toList ++ items.flatMap (·.source.toList) := by
    induction items generalizing acc with
    | nil => simp
    | cons item rest ih =>
        have hAdd : (acc.add item).source.toList =
            acc.source.toList ++ item.source.toList := by
          cases acc <;> simp [ClassSet.add, ClassSet.source]
        rw [List.foldl_cons, ih, hAdd, List.flatMap_cons, List.append_assoc]
  exact hFold .empty

/-- Behind the bracket, and a caret if there is one, the items begin at once. -/
theorem parseClassOpen_of_head {c : Char} (hFirst : c ∉ ['[', ']', '-', '&', '~', '^'])
    (negated : Bool) (w : List Char) :
    parseClassOpen (.before ((if negated then ['^'] else []) ++ c :: w) g) =
      (negated, .empty, .before (c :: w) g) := by
  simp only [List.mem_cons, List.not_mem_nil, not_or, or_false] at hFirst
  have hDashes (n : Nat) : parseDashes n .empty ⟨c :: w, false, g, []⟩ =
      (.empty, ⟨c :: w, false, g, []⟩) := by
    cases n <;> simp [parseDashes, hFirst]
  cases negated <;>
    simp [parseClassOpen, Cursor.before, Cursor.advance, Cursor.skipBlanks, Cursor.goto, hFirst,
      hDashes]

/-- A bracketed class of plain items reads back as itself, negated or not. -/
theorem parseClass_items {items : List ClassSet} (hSome : items ≠ [])
    (hPlain : items.all isPlainItem = true) (negated : Bool) :
    parseClass (.before ((if negated then ['^'] else []) ++
        (items.flatMap (·.source.toList) ++ ']' :: tail)) g) =
      .ok (.bracket negated (Pattern.items items), .before tail g) := by
  have hLength := length_le_items hPlain
  obtain ⟨c, w, hText, hFirst⟩ := head_of_items hSome hPlain (']' :: tail)
  have hOpen := @parseClassOpen_of_head g c hFirst negated w
  have hItems := @parseClassItems_items
    (((if negated then ['^'] else []) ++ c :: w).length + 1) g tail items hPlain
    (by rw [← hText]; simp only [List.length_append]; omega) .empty
  rw [hText] at hItems ⊢
  simp only [parseClass, Cursor.skipBlanks_before, hOpen, Cursor.rest_before, hItems, bind,
    Except.bind, pure, Except.pure]
  rfl

end Class

/-- An item that its text is read as, whatever follows. It may be repeated. -/
structure Atom (p : Pattern) : Prop where
  calm : ∀ w, Calm (p.source.toList ++ w)
  length_pos : 0 < p.source.toList.length
  read : ∀ f g acc tail, parseItems (f + 1) acc (.before (p.source.toList ++ tail) g) =
    parseItems f (p :: acc) (.before tail g)
  repeatable : ∀ min max acc, repeatLast min max true (p :: acc) =
    .ok (.repetition min max true p :: acc)

theorem atom_literal (c : Char) : Atom (.literal (.quoted c)) := by
  by_cases hMeta : isMeta c = true
  · have hQuoted : Literal.quoted c = ⟨c, .escaped⟩ := by simp [Literal.quoted, hMeta]
    have hSource : (Pattern.literal ⟨c, .escaped⟩).source.toList = ['\\', c] := by
      simp [source, Literal.source]
    rw [hQuoted]
    refine ⟨fun w => ?_, by simp [hSource], fun f g acc tail => ?_, fun _ _ _ => rfl⟩
    · rw [hSource]
      exact .cons (by decide) (by decide) _
    · rw [hSource]
      exact parseItems_primitive (by decide) (parseEscape_meta hMeta)
  · have hQuoted : Literal.quoted c = ⟨c, .verbatim⟩ := by simp [Literal.quoted, hMeta]
    have hSource : (Pattern.literal ⟨c, .verbatim⟩).source.toList = [c] := by
      simp [source, Literal.source]
    have hNe {d : Char} (hd : isMeta d = true) : c ≠ d := by
      rintro rfl
      exact hMeta hd
    have hControl : c ∉ controls := by
      intro hMem
      exact hMeta (List.all_eq_true.mp (by decide : controls.all isMeta = true) c hMem)
    have hRead (g : Nat) (tail : List Char) : parsePrimitive c (.before tail g) =
        .ok (.literal ⟨c, .verbatim⟩, .before tail g) := by
      have hSlash : c ≠ '\\' := hNe (by decide)
      have hDot : c ≠ '.' := hNe (by decide)
      have hCaret : c ≠ '^' := hNe (by decide)
      have hDollar : c ≠ '$' := hNe (by decide)
      simp [parsePrimitive]
    rw [hQuoted]
    refine ⟨fun w => ?_, by simp [hSource], fun f g acc tail => ?_, fun _ _ _ => rfl⟩
    · rw [hSource]
      exact .cons (hNe (by decide)) (hNe (by decide)) _
    · rw [hSource]
      exact parseItems_primitive hControl (hRead g tail)

theorem atom_short (kind : ShortClass) (negated : Bool) : Atom (.short kind negated) := by
  obtain ⟨c, hSource, -⟩ := @parseEscape_short 0 [] kind negated
  refine ⟨fun w => ?_, by simp [source, hSource], fun f g acc tail => ?_, fun _ _ _ => rfl⟩
  · rw [source, hSource]
    exact .cons (by decide) (by decide) _
  · obtain ⟨d, hText, hRead⟩ := @parseEscape_short g tail kind negated
    rw [source, hText]
    exact parseItems_primitive (by decide) hRead

/-- Bracketed classes of plain items are atoms. Nested classes and operators between them are left
out, as no expression is written with them. -/
theorem atom_bracket {items : List ClassSet} (hSome : items ≠ [])
    (hPlain : items.all isPlainItem = true) (negated : Bool) :
    Atom (.bracket negated (Pattern.items items)) := by
  have hSource (w : List Char) :
      (Pattern.bracket negated (Pattern.items items)).source.toList ++ w =
        '[' :: ((if negated then ['^'] else []) ++
          (items.flatMap (·.source.toList) ++ ']' :: w)) := by
    cases negated <;> simp [source, source_items]
  refine ⟨fun w => ?_, ?_, fun f g acc tail => ?_, fun _ _ _ => rfl⟩
  · rw [hSource]
    exact .cons (by decide) (by decide) _
  · rw [← List.append_nil (source _).toList, hSource]
    simp
  · rw [hSource]
    exact parseItems_class (parseClass_items hSome hPlain negated)

/-- The text of the items is read as these items, unless something follows that would change the
last one. The groups in it are numbered from `g` on up to `g'`. Two steps for each character and one
for the end are enough, and what is read leaves as many for the rest. -/
structure Reads (ps : List Pattern) (g g' : Nat) : Prop where
  calm : ∀ w, Calm w → Calm (text ps ++ w)
  read : ∀ tail acc f, Calm tail → 2 * (text ps ++ tail).length + 1 ≤ f →
    ∃ f', 2 * tail.length + 1 ≤ f' ∧ parseItems f acc (.before (text ps ++ tail) g) =
      parseItems f' (ps.reverse ++ acc) (.before tail g')

/-- The text of the pattern is read as the branches of a group, or of a whole text. -/
structure ReadsBranches (p : Pattern) (g g' : Nat) : Prop where
  calm : ∀ w, Calm w → Calm (p.source.toList ++ w)
  read : ∀ tail f, (tail = [] ∨ ∃ w, tail = ')' :: w) →
    2 * (p.source.toList ++ tail).length + 2 ≤ f →
    parseBranches f (.before (p.source.toList ++ tail) g) = .ok (p, .before tail g')

section Compose

variable {p q : Pattern} {ps qs : List Pattern} {g g₁ g' : Nat}

theorem Reads.nil (g : Nat) : Reads [] g g :=
  ⟨fun _ hw => hw, fun _ _ f _ hFuel => ⟨f, hFuel, rfl⟩⟩

theorem text_append (ps qs : List Pattern) : text (ps ++ qs) = text ps ++ text qs := by
  simp [text]

theorem text_singleton (p : Pattern) : text [p] = p.source.toList := by simp [text]

/-- Sequences read one after the other, each with the group numbers that the one before it left. -/
theorem Reads.append (first : Reads ps g g₁) (second : Reads qs g₁ g') :
    Reads (ps ++ qs) g g' := by
  refine ⟨fun w hw => ?_, fun tail acc f hTail hFuel => ?_⟩
  · rw [text_append, List.append_assoc]
    exact first.calm _ (second.calm w hw)
  · rw [text_append, List.append_assoc] at hFuel ⊢
    obtain ⟨f₁, hFuel₁, hFirst⟩ := first.read (text qs ++ tail) acc f (second.calm tail hTail) hFuel
    obtain ⟨f₂, hFuel₂, hSecond⟩ := second.read tail (ps.reverse ++ acc) f₁ hTail hFuel₁
    refine ⟨f₂, hFuel₂, ?_⟩
    rw [hFirst, hSecond, List.reverse_append, List.append_assoc]

/-- An item in front of a sequence is read first. This is the step of inductions over sequences. -/
theorem Reads.cons (first : Reads [p] g g₁) (rest : Reads ps g₁ g') : Reads (p :: ps) g g' :=
  first.append rest

/-- One step reads the item where its text stands, if nothing follows that would change it. -/
theorem reads_of_step (hText : ∀ w, Calm (p.source.toList ++ w))
    (hLength : 0 < p.source.toList.length)
    (hStep : ∀ f acc tail, Calm tail →
      parseItems (f + 1) acc (.before (p.source.toList ++ tail) g) =
        parseItems f (p :: acc) (.before tail g')) : Reads [p] g g' := by
  refine ⟨fun w _ => ?_, fun tail acc f hTail hFuel => ?_⟩
  · rw [text_singleton]
    exact hText w
  · rw [text_singleton, List.length_append] at hFuel
    obtain ⟨f, rfl⟩ := Nat.exists_eq_succ_of_ne_zero (show f ≠ 0 by omega)
    refine ⟨f, by omega, ?_⟩
    rw [text_singleton]
    exact hStep f acc tail hTail

/-- An atom is read the same wherever it stands and opens no group. -/
theorem Atom.reads (atom : Atom p) (g : Nat) : Reads [p] g g :=
  reads_of_step atom.calm atom.length_pos fun f acc tail _ => atom.read f g acc tail

/-- A repetition is read in two steps: the item, then the sign behind it. -/
theorem Atom.repetition (atom : Atom p) (c : Char) {min : Nat} {max : Option Nat}
    (hSign : signCounts? c = some (min, max)) (hSource : countSource min max = String.singleton c)
    (g : Nat) : Reads [.repetition min max true p] g g := by
  have hText (w : List Char) : text [.repetition min max true p] ++ w =
      p.source.toList ++ c :: w := by
    simp [text, source, hSource]
  refine ⟨fun w _ => ?_, fun tail acc f hTail hFuel => ?_⟩
  · rw [hText]
    exact atom.calm _
  · rw [hText, List.length_append, List.length_cons] at hFuel
    have := atom.length_pos
    obtain ⟨f, rfl⟩ := Nat.exists_eq_add_of_le (show 2 ≤ f by omega)
    refine ⟨f, by omega, ?_⟩
    rw [hText, Nat.add_comm 2 f, atom.read (f + 1),
      parseItems_sign hSign hTail (atom.repeatable _ _ _)]
    rfl

theorem reads_caret (g : Nat) : Reads [.anchor .caret] g g :=
  reads_of_step (fun _ => .cons (by decide) (by decide) _) (by decide)
    fun _ _ _ _ => parseItems_primitive (by decide) rfl

theorem reads_dollar (g : Nat) : Reads [.anchor .dollar] g g :=
  reads_of_step (fun _ => .cons (by decide) (by decide) _) (by decide)
    fun _ _ _ _ => parseItems_primitive (by decide) rfl

/-- A word edge is one unless a brace follows. -/
theorem reads_edge (g : Nat) : Reads [edge] g g := by
  have hRead (tail : List Char) (hTail : Calm tail) :
      parseEscape (.before ('b' :: tail) g) = .ok (edge, .before tail g) := by
    have hEdge : parseWordEdge (.before tail g) = .ok (edge, .before tail g) := by
      cases tail with
      | nil => rfl
      | cons d tail =>
          have hBrace : d ≠ '\x7b' := by simpa [Calm] using hTail.2
          simp [parseWordEdge, Cursor.before, edge, hBrace]
    exact hEdge
  exact reads_of_step (fun _ => .cons (by decide) (by decide) _) (by decide)
    fun _ _ tail hTail => parseItems_primitive (by decide) (hRead tail hTail)

/-- Reading the items of a branch ends where the branch does. -/
theorem Reads.parseItems_eq (reads : Reads ps g g') {tail : List Char} {f : Nat}
    (hEnds : Ends tail) (hFuel : 2 * (text ps ++ tail).length + 1 ≤ f) :
    parseItems f [] (.before (text ps ++ tail) g) = .ok (ps, .before tail g') := by
  have hCalm : Calm tail := by
    refine ⟨fun hMark => ?_, fun hBrace => ?_⟩
    · rcases hEnds _ hMark with h | h <;> revert h <;> decide
    · rcases hEnds _ hBrace with h | h <;> revert h <;> decide
  obtain ⟨f', hLeft, hRead⟩ := reads.read tail [] f hCalm hFuel
  obtain ⟨f', rfl⟩ := Nat.exists_eq_succ_of_ne_zero (show f' ≠ 0 by omega)
  rw [hRead, parseItems_end hEnds, List.append_nil, List.reverse_reverse]

/-- A sequence without a bar is the only branch of what is read. -/
theorem Reads.branches (reads : Reads ps g g') : ReadsBranches (concat ps) g g' := by
  refine ⟨fun w hw => ?_, fun tail f hTail hFuel => ?_⟩
  · rw [source_concat]
    exact reads.calm w hw
  · rw [source_concat] at hFuel ⊢
    obtain ⟨f, rfl⟩ := Nat.exists_eq_succ_of_ne_zero (show f ≠ 0 by omega)
    have hItems := @Reads.parseItems_eq ps g g' reads tail f
      (by rcases hTail with rfl | ⟨w, rfl⟩ <;> simp [Ends]) (by omega)
    rw [parseBranches, hItems]
    rcases hTail with rfl | ⟨w, rfl⟩ <;> rfl

/-- A bar separates the first branch from the others, which are numbered on from it. -/
theorem Reads.alternate (first : Reads ps g g₁) (others : ReadsBranches q g₁ g') :
    ReadsBranches (.alternate (concat ps) q) g g' := by
  have hSource (w : List Char) : (Pattern.alternate (concat ps) q).source.toList ++ w =
      text ps ++ '|' :: (q.source.toList ++ w) := by
    simp [source, source_concat]
  refine ⟨fun w _ => ?_, fun tail f hTail hFuel => ?_⟩
  · rw [hSource]
    exact first.calm _ (.cons (by decide) (by decide) _)
  · rw [hSource] at hFuel ⊢
    obtain ⟨f, rfl⟩ := Nat.exists_eq_succ_of_ne_zero (show f ≠ 0 by omega)
    have hItems := @Reads.parseItems_eq ps g g₁ first ('|' :: (q.source.toList ++ tail)) f
      (by simp [Ends]) (by omega)
    have hOthers := others.read tail f hTail (by
      rw [List.length_append, List.length_cons] at hFuel
      omega)
    rw [parseBranches, hItems]
    simp only [bind, Except.bind, Cursor.before, Cursor.goto]
    rw [← Cursor.before, hOthers]
    rfl

/-- A bracket without a question mark behind it opens a group with the next number. -/
theorem parseGroupHead_calm {w : List Char} (hCalm : Calm w) :
    parseGroupHead (.before w g) = .ok (.group (.capture (g + 1) none), .before w (g + 1)) := by
  cases w with
  | nil => rfl
  | cons c w =>
      have hMark : c ≠ '?' := by simpa [Calm] using hCalm.1
      simp [parseGroupHead, Cursor.before, Cursor.skipBlanks, openCapture, hMark]

/-- A group takes the next number, and its body is numbered from there. -/
theorem Reads.capture (body : ReadsBranches p (g + 1) g') :
    Reads [.group (.capture (g + 1) none) p] g g' := by
  have hSource (w : List Char) : text [.group (.capture (g + 1) none) p] ++ w =
      '(' :: (p.source.toList ++ ')' :: w) := by
    simp [text, source, GroupKind.source]
  refine ⟨fun w _ => ?_, fun tail acc f hTail hFuel => ?_⟩
  · rw [hSource]
    exact .cons (by decide) (by decide) _
  · rw [hSource, List.length_cons] at hFuel
    obtain ⟨f, rfl⟩ := Nat.exists_eq_succ_of_ne_zero (show f ≠ 0 by omega)
    have hHead := @parseGroupHead_calm g (p.source.toList ++ ')' :: tail)
      (body.calm _ (.cons (by decide) (by decide) _))
    have hBody := body.read (')' :: tail) f (.inr ⟨tail, rfl⟩) (by omega)
    rw [List.length_append, List.length_cons] at hFuel
    refine ⟨f, by omega, ?_⟩
    rw [hSource, parseItems_group hHead hBody]
    rfl

/-- A pattern nests no deeper inside something than it does by itself, because a part of a sequence
may share the level of the sequence. -/
theorem nesting_le_nothing (within : Within) (p : Pattern) :
    nesting within p ≤ nesting .nothing p := by
  cases p <;> cases within <;> simp [nesting]

/-- A sequence is counted once, however many parts it has. -/
theorem nesting_concat_le {n : Nat} (hParts : ∀ p ∈ ps, nesting .nothing p ≤ n) :
    nesting .nothing (concat ps) ≤ n + 1 := by
  -- Inside a sequence that is counted already, the parts alone count.
  have hInner : nesting .sequence (concat ps) ≤ n := by
    induction ps using concat.induct with
    | case1 => exact Nat.zero_le n
    | case2 p => exact Nat.le_trans (nesting_le_nothing _ _) (hParts p (by simp))
    | case3 p rest hRest ih =>
        rw [concat.eq_3 _ _ hRest, nesting, if_pos rfl, Nat.add_zero]
        exact Nat.max_le.mpr ⟨hParts p (by simp), ih fun q hq => hParts q (by simp [hq])⟩
  have hOnce (p : Pattern) : nesting .nothing p ≤ nesting .sequence p + 1 := by
    cases p <;> simp [nesting]
  exact Nat.le_trans (hOnce _) (Nat.succ_le_succ hInner)

/-- Items that are read as they are written make a text that is read as they are. -/
theorem Reads.parse_source (reads : Reads ps 0 g')
    (hParts : ∀ p ∈ ps, nesting .nothing p < maxNesting) :
    parse (concat ps).source = .ok (concat ps) := by
  have hBranches := reads.branches.read [] (2 * (concat ps).source.toList.length + 2) (.inl rfl)
    (Nat.le_of_eq (by rw [List.append_nil]))
  rw [List.append_nil, Cursor.before] at hBranches
  have hDepth : nesting .nothing (concat ps) ≤ maxNesting :=
    nesting_concat_le fun p hp => Nat.le_pred_of_lt (hParts p hp)
  simp only [parse, hBranches, bind, Except.bind, Cursor.before, List.isEmpty_nil, Bool.not_true,
    Bool.false_eq_true, if_false, if_pos hDepth, pure, Except.pure]

end Compose

end Expurgate.Pattern
