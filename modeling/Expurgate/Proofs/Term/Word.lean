import Expurgate.Proofs.Term.Meaning

/-! Where words begin and end in a text, and which words the matches of a plain term take along where
the term is removed. -/
namespace Expurgate

open Unicode

/-- A word begins at a place of a text. -/
structure BeginsWord (h : Array Char) (p : Nat) : Prop where
  here : ∃ c, h[p]? = some c ∧ isWord c = true
  before : ∀ c, charBefore h p = some c → isWord c = false

/-- A word ends in front of a place of a text. -/
structure EndsWord (h : Array Char) (q : Nat) : Prop where
  before : ∃ c, charBefore h q = some c ∧ isWord c = true
  here : ∀ c, h[q]? = some c → isWord c = false

/-- A text begins and ends with word characters. -/
structure WordEdged (l : List Char) : Prop where
  head : ∀ c ∈ l.head?, isWord c = true
  last : ∀ c ∈ l.getLast?, isWord c = true

theorem wordEdged_iff {l : List Char} :
    WordEdged l ↔ (l.head?.all isWord && l.getLast?.all isWord) = true := by
  rw [Bool.and_eq_true, Option.all_eq_true, Option.all_eq_true]
  exact ⟨fun hEdged => ⟨hEdged.head, hEdged.last⟩, fun hAll => ⟨hAll.1, hAll.2⟩⟩

variable {h : Array Char} {p q i j : Nat}

theorem charBefore_succ (h : Array Char) (p : Nat) : charBefore h (p + 1) = h[p]? := rfl

/-- At the edge of a word one begins or one ends, and never both at one position. -/
theorem holds_wordEdge_iff :
    Look.wordEdge.holds isWord h p = true ↔ BeginsWord h p ∨ EndsWord h p := by
  have hSplit (a b : Option Char) : (a.any isWord ≠ b.any isWord) ↔
      ((∃ c, b = some c ∧ isWord c = true) ∧ ∀ c, a = some c → isWord c = false) ∨
        ((∃ c, a = some c ∧ isWord c = true) ∧ ∀ c, b = some c → isWord c = false) := by
    cases a <;> cases b <;> simp
    rename_i c d
    cases isWord c <;> cases isWord d <;> simp
  simp only [Look.holds, decide_eq_true_eq]
  rw [hSplit]
  constructor
  · rintro (⟨hHere, hBefore⟩ | ⟨hBefore, hHere⟩)
    · exact .inl ⟨hHere, hBefore⟩
    · exact .inr ⟨hBefore, hHere⟩
  · rintro (hBegins | hEnds)
    · exact .inl ⟨hBegins.here, hBegins.before⟩
    · exact .inr ⟨hEnds.before, hEnds.here⟩

theorem beginsWord_of_edge (hEdge : Look.wordEdge.holds isWord h p = true)
    (hHere : ∃ c, h[p]? = some c ∧ isWord c = true) : BeginsWord h p := by
  rcases holds_wordEdge_iff.mp hEdge with hBegins | hEnds
  · exact hBegins
  · obtain ⟨c, hChar, hWord⟩ := hHere
    rw [hEnds.here c hChar] at hWord
    cases hWord

theorem endsWord_of_edge (hEdge : Look.wordEdge.holds isWord h p = true)
    (hBefore : ∃ c, charBefore h p = some c ∧ isWord c = true) : EndsWord h p := by
  rcases holds_wordEdge_iff.mp hEdge with hBegins | hEnds
  · obtain ⟨c, hChar, hWord⟩ := hBefore
    rw [hBegins.before c hChar] at hWord
    cases hWord
  · exact hEnds

namespace Regex

/-- From each place a run leads to the first character of another kind, or to the end. -/
theorem Run.exists_stop (kind : Char → Bool) (hp : p ≤ h.size) :
    ∃ q, Run kind h p q ∧ ∀ c, h[q]? = some c → kind c = false := by
  induction hLeft : h.size - p generalizing p with
  | zero =>
      refine ⟨p, .refl p, fun c hChar => ?_⟩
      have := (Array.getElem?_eq_some_iff.mp hChar).1
      omega
  | succ n ih =>
      have hChar : h[p]? = some h[p] := Array.getElem?_eq_getElem (by omega)
      cases hKind : kind h[p] with
      | false =>
          refine ⟨p, .refl p, fun c hc => ?_⟩
          rw [hChar] at hc
          rwa [← Option.some.inj hc]
      | true =>
          obtain ⟨q, run, hEnd⟩ := ih (p := p + 1) (by omega) (by omega)
          exact ⟨q, run.cons hChar hKind, hEnd⟩

theorem Run.joins (run : Run isWord h p q) : Run Shape.plain.joins h p q :=
  run.imp fun c hc => by simp [Shape.joins, hc]

end Regex

namespace EndsWord

open Regex

/-- The word that ends at a place begins somewhere in front of it. -/
theorem exists_begin (hEnds : EndsWord h q) : ∃ p, p < q ∧ Run isWord h p q ∧ BeginsWord h p := by
  obtain ⟨a, hBefore, hWord⟩ := hEnds.before
  obtain ⟨p, run, hLongest⟩ := Run.exists_longest isWord h q
  have hLess := run.longest_lt hLongest hBefore hWord
  exact ⟨p, hLess, run, (run.head hLess).1, run.before_longest hLongest⟩

/-- Hyphens behind a word lead to the next one. -/
theorem exists_next (hEnds : EndsWord h i) (run : Run Shape.plain.joins h i j)
    (hHere : ∃ c, h[j]? = some c ∧ isWord c = true) :
    ∃ k, i < k ∧ Run Shape.plain.joins h i k ∧ BeginsWord h k := by
  obtain ⟨b, hChar, hWord⟩ := hHere
  have hSize := (Array.getElem?_eq_some_iff.mp hChar).1
  have hLe := run.le
  obtain ⟨k, hyphens, hEnd⟩ := Run.exists_stop (!isWord ·) (p := i) (h := h) (by omega)
  have hk : k ≤ j := by
    by_contra hNot
    obtain ⟨b', hChar', hNone⟩ := hyphens.each j hLe (by omega)
    obtain rfl := Option.some.inj (hChar.symm.trans hChar')
    simp [hWord] at hNone
  have hFirst : h[k]? = some h[k] := Array.getElem?_eq_getElem (by omega)
  have hFirstWord : isWord h[k] = true := by simpa using hEnd _ hFirst
  have hLess : i < k := by
    refine Nat.lt_of_le_of_ne hyphens.le ?_
    rintro rfl
    rw [hEnds.here _ hFirst] at hFirstWord
    cases hFirstWord
  refine ⟨k, hLess, run.mono (Nat.le_refl i) hyphens.le hk, ⟨_, hFirst, hFirstWord⟩, fun e he => ?_⟩
  rw [charBefore, if_neg (by omega)] at he
  obtain ⟨e', he', hNone⟩ := hyphens.each (k - 1) (by omega) (by omega)
  obtain rfl := Option.some.inj (he.symm.trans he')
  simpa using hNone

end EndsWord

section Spelled

variable {repeated separators : Bool} {l w : List Char}

/-- The first and the last character of what spells a word fold like the word's own, so they are
word characters together. -/
theorem Spells.wordEdged (spells : Spells repeated separators l w) (hEdged : WordEdged l) :
    WordEdged w := by
  obtain ⟨hHead, hLast⟩ := spells.sameFold_ends
  constructor
  · intro d hd
    obtain ⟨c, hc, hSame⟩ := hHead d hd
    rw [← isWord_of_sameFold hSame]
    exact hEdged.head c hc
  · intro d hd
    obtain ⟨c, hc, hSame⟩ := hLast d hd
    rw [← isWord_of_sameFold hSame]
    exact hEdged.last c hc

/-- A stretch whose text begins and ends with word characters, as places of the text. -/
theorem WordEdged.places (hEdged : WordEdged (Span.text ⟨i, j⟩ h)) (hLess : i < j)
    (hTo : j ≤ h.size) :
    (∃ c, h[i]? = some c ∧ isWord c = true) ∧ ∃ c, charBefore h j = some c ∧ isWord c = true := by
  constructor
  · have hChar : h[i]? = some h[i] := Array.getElem?_eq_getElem (by omega)
    exact ⟨h[i], hChar, hEdged.head _ ((Span.head?_text hLess).trans hChar)⟩
  · have hChar : charBefore h j = some h[j - 1] := by
      rw [charBefore, if_neg (by omega)]
      exact Array.getElem?_eq_getElem (by omega)
    exact ⟨_, hChar, hEdged.last _ ((Span.getLast?_text hLess hTo).trans hChar)⟩

/-- A spelling of a word with word edges is not empty and has word characters at both ends. -/
theorem Spells.places (spells : Spells repeated separators l (Span.text ⟨i, j⟩ h))
    (hEdged : WordEdged l) (hText : l ≠ []) (hTo : j ≤ h.size) :
    i < j ∧ (∃ c, h[i]? = some c ∧ isWord c = true) ∧
      ∃ c, charBefore h j = some c ∧ isWord c = true := by
  have hLong := spells.length_le
  have hPos := List.length_pos_iff.mpr hText
  rw [Span.length_text hTo] at hLong
  have hLess : i < j := by omega
  exact ⟨hLess, (spells.wordEdged hEdged).places hLess hTo⟩

end Spelled

/-- The second place is the first one, or white space leads from the first to it. -/
def SpaceTo (h : Array Char) (p q : Nat) : Prop :=
  q = p ∨ (q = p + 1 ∧ ∃ c, h[p]? = some c ∧ isSpace c = true)

namespace Regex

variable {m : List (Nat × Nat)} {body : List Regex} {along : Bool}

theorem matches_optionalSpace_iff :
    optionalSpace.Matches h p q m ↔ SpaceTo h p q ∧ m = [] := by
  have hKind : CharSet.space.contains = isSpace := rfl
  rw [optionalSpace, matches_option_iff, matches_set_iff, hKind]
  constructor
  · rintro (⟨hSpace, hNext, hMarks⟩ | ⟨hSame, hMarks⟩)
    · exact ⟨.inr ⟨hNext, hSpace⟩, hMarks⟩
    · exact ⟨.inl hSame, hMarks⟩
  · rintro ⟨hSame | ⟨hNext, hSpace⟩, hMarks⟩
    · exact .inr ⟨hSame, hMarks⟩
    · exact .inl ⟨hSpace, hNext, hMarks⟩

/-- White space is taken wherever it is. -/
theorem optionalSpace_taken (way : optionalSpace.Prefers h (fun _ => True) p p m) :
    ∀ c, h[p]? = some c → isSpace c = false := by
  intro c hChar
  cases way with
  | option choice =>
      cases choice with
      | left taken => exact absurd (matches_set_iff.mp taken.matches.1).2.1 (by omega)
      | right hLeft _ =>
          rw [← Bool.not_eq_true]
          intro hSpace
          exact hLeft ⟨p + 1, [], .set hChar hSpace, trivial⟩

/-- An expression, with the white space around its matches taken along or not. -/
def spaced (along : Bool) (body : List Regex) : List Regex :=
  if along then optionalSpace :: (body ++ [optionalSpace]) else body

theorem matches_spaced (way : (sequence body).Matches h p q m) :
    (sequence (spaced along body)).Matches h p q m := by
  cases along
  · exact way
  · exact matches_spaces way

/-- White space next to a match is taken along. -/
theorem matches_spaced_along (front : SpaceTo h p i) (way : (sequence body).Matches h i j m)
    (behind : SpaceTo h j q) : (sequence (spaced true body)).Matches h p q m := by
  have hBehind : (sequence [optionalSpace]).Matches h j q [] :=
    matches_optionalSpace_iff.mpr ⟨behind, rfl⟩
  have rest := (matches_sequence_append body [optionalSpace]).mpr ⟨j, m, [], way, hBehind, rfl⟩
  exact (matches_sequence_cons _ _).mpr
    ⟨i, [], m, matches_optionalSpace_iff.mpr ⟨front, rfl⟩, rest, (List.append_nil m).symm⟩

/-- A match that takes white space along takes at most one character of it on either side, and where
it takes none behind, there is none. -/
theorem prefers_spaced (way : (sequence (spaced along body)).Prefers h (fun _ => True) p q m) :
    ∃ i j m', SpaceTo h p i ∧ (sequence body).Prefers h (fun _ => True) i j m' ∧ SpaceTo h j q ∧
      if along then q = j → ∀ c, h[j]? = some c → isSpace c = false else i = p ∧ j = q := by
  cases along with
  | false => exact ⟨p, q, m, .inl rfl, way, .inl rfl, rfl, rfl⟩
  | true =>
      have hGoes : (sequence [optionalSpace]).Goes h (fun _ => True) = fun _ => True := by
        funext k
        simp only [Goes, eq_iff_iff, iff_true]
        exact ⟨k, [], matches_optionalSpace_iff.mpr ⟨.inl rfl, rfl⟩, trivial⟩
      obtain ⟨i, _, _, front, rest, -⟩ := prefers_sequence_cons _ _ way
      obtain ⟨j, m', _, inner, behind, -⟩ := prefers_sequence_append _ _ rest
      rw [hGoes] at inner
      obtain ⟨hBehind, -⟩ := matches_optionalSpace_iff.mp behind.matches.1
      refine ⟨i, j, m', (matches_optionalSpace_iff.mp front.matches.1).1, inner, hBehind, ?_⟩
      rintro rfl
      exact optionalSpace_taken behind

/-- A match of a phrase with the rest of its word: it reaches from one word edge to another, and
behind the phrase as far as it can. -/
structure WordParts (repeated separators : Bool) (l : List Char) (h : Array Char) (i x y j : Nat) :
    Prop where
  head : Run Shape.plain.joins h i x
  le : x ≤ y
  spells : Spells repeated separators l (Span.text ⟨x, y⟩ h)
  tail : Run Shape.plain.joins h y j
  le_size : j ≤ h.size
  edge_start : Look.wordEdge.holds isWord h i = true
  edge_stop : Look.wordEdge.holds isWord h j = true
  greatest : ∀ k, Run Shape.plain.joins h y k → Look.wordEdge.holds isWord h k = true → k ≤ j

variable {repeated separators : Bool} {l : List Char}

/-- A preferred match of a whole word has its phrase inside it and the rest of the word in front and
behind. Behind the phrase it goes as far as a word edge can be found. -/
theorem parts_of_wholeWord (hp : p ≤ h.size)
    (way : (sequence (wholeWord (phrase repeated separators l))).Prefers h (fun _ => True) p q m) :
    ∃ x y, WordParts repeated separators l h p x y q := by
  have hTo := way.matches.1.le_size hp
  obtain ⟨_, _, _, hFirst, rest, -⟩ := prefers_sequence_cons _ _ way
  obtain ⟨hStart, rfl, -⟩ := matches_look_iff.mp hFirst.matches.1
  obtain ⟨x, _, _, hHead, rest, -⟩ := prefers_sequence_cons _ _ rest
  obtain ⟨y, _, _, hPhrase, rest, -⟩ := prefers_sequence_append _ _ rest
  obtain ⟨j, _, _, hTail, hLast, -⟩ := prefers_sequence_cons _ _ rest
  obtain ⟨hStop, rfl, -⟩ := matches_look_iff.mp hLast.matches.1
  have hKind : CharSet.wordOrHyphen.contains = Shape.plain.joins :=
    funext CharSet.contains_wordOrHyphen
  obtain ⟨headRun, -⟩ := matches_wordRun_iff.mp hHead.matches.1
  obtain ⟨tailRun, -, hMost⟩ := hTail.greatest_star
  rw [hKind] at tailRun hMost
  have hLe := hPhrase.matches.1.le
  have hSpells := ((matches_phrase_iff hLe (Nat.le_trans tailRun.le hTo)).mp hPhrase.matches.1).1
  refine ⟨x, y, headRun, hLe, hSpells, tailRun, hTo, hStart, hStop, fun k run hEdge => ?_⟩
  exact hMost k run ⟨k, [], .look hEdge, trivial⟩

namespace WordParts

variable {x y : Nat}

theorem le_stop (parts : WordParts repeated separators l h i x y j) : i ≤ j :=
  Nat.le_trans parts.head.le (Nat.le_trans parts.le parts.tail.le)

/-- The rest of a word is taken up to its end. -/
theorem endsWord (parts : WordParts repeated separators l h i x y j) : EndsWord h j := by
  rcases holds_wordEdge_iff.mp parts.edge_stop with hBegins | hEnds
  · obtain ⟨k, run, hEnd⟩ := Run.exists_stop isWord parts.le_size
    obtain ⟨c, hChar, hWord⟩ := hBegins.here
    have hFar : j ≠ k := by
      rintro rfl
      rw [hEnd c hChar] at hWord
      cases hWord
    have hLess := Nat.lt_of_le_of_ne run.le hFar
    have hLast : EndsWord h k := by
      refine ⟨?_, hEnd⟩
      rw [charBefore, if_neg (by omega)]
      exact run.each (k - 1) (by omega) (by omega)
    have := parts.greatest k (parts.tail.trans run.joins) (holds_wordEdge_iff.mpr (.inr hLast))
    omega
  · exact hEnds

/-- The match of a phrase may begin with any word in front of it that hyphens lead on from. -/
theorem matches_from {z : Nat} (parts : WordParts repeated separators l h i x y j)
    (run : Run Shape.plain.joins h z i) (hBegins : BeginsWord h z) :
    (sequence (wholeWord (phrase repeated separators l))).Matches h z j [] := by
  refine matches_wholeWord_iff.mpr ⟨⟨holds_wordEdge_iff.mpr (.inl hBegins), parts.edge_stop⟩, ?_⟩
  exact (matches_filled_iff parts.le_size).mpr
    ⟨⟨x, y, run.trans parts.head, parts.le, parts.spells, parts.tail⟩, rfl⟩

end WordParts

section Whole

variable {c : Captures} {x y : Nat}

theorem productive_spaced_wholeWord (along : Bool) :
    (sequence (spaced along (wholeWord (phrase repeated separators l)))).Productive := by
  cases along
  · exact productive_ofPhrase (fun _ => productive_of_mem_phrase) .whole .plain true
  · exact productive_ofPhrase (fun _ => productive_of_mem_phrase) .within .plain true

theorem consumes_spaced_wholeWord (along : Bool) (hText : l ≠ []) :
    (sequence (spaced along (wholeWord (phrase repeated separators l)))).consumes = true := by
  cases along
  · exact consumes_ofPhrase hText .whole .plain true
  · exact consumes_ofPhrase hText .within .plain true

/-- The same with the white space that is removed along with the word. -/
theorem parts_of_spaced_wholeWord (hMem : c ∈ (sequence (spaced along
      (wholeWord (phrase repeated separators l)))).program.findAll h) :
    ∃ i x y j, SpaceTo h c.start i ∧ WordParts repeated separators l h i x y j ∧
      SpaceTo h j c.stop ∧
      if along then c.stop = j → ∀ d, h[j]? = some d → isSpace d = false
      else i = c.start ∧ j = c.stop := by
  obtain ⟨hp, way⟩ := prefers_of_mem_findAll (productive_spaced_wholeWord along) hMem
  obtain ⟨i, j, m', front, inner, behind, hAlong⟩ := prefers_spaced way
  have hi : i ≤ h.size := by
    rcases front with rfl | ⟨rfl, d, hChar, -⟩
    · exact hp
    · exact (Array.getElem?_eq_some_iff.mp hChar).1
  obtain ⟨x, y, parts⟩ := parts_of_wholeWord hi inner
  exact ⟨i, x, y, j, front, parts, behind, hAlong⟩

/-- A match that ends within a word, or with it, ends with it. -/
theorem stop_eq_of_run {z : Nat} (parts : WordParts repeated separators l h i x y j)
    (behind : SpaceTo h j q) (run : Run isWord h z p) (hFrom : z < q) (hTo : q ≤ p) :
    q = j ∧ j = p := by
  have hDone : q = j := by
    rcases behind with hSame | ⟨rfl, b, hChar, hSpace⟩
    · exact hSame
    · obtain ⟨b', hChar', hWord⟩ := run.each j (by omega) (by omega)
      obtain rfl := Option.some.inj (hChar.symm.trans hChar')
      rw [isWord_of_isSpace hSpace] at hWord
      cases hWord
  refine ⟨hDone, ?_⟩
  by_contra hNot
  obtain ⟨b, hChar, hWord⟩ := run.each j (by omega) (by omega)
  rw [parts.endsWord.here b hChar] at hWord
  cases hWord

/-- A match of a phrase with the rest of its word begins with the word. It never begins with a
hyphen behind another word, since the match in front of it would have taken that hyphen along. -/
theorem WordParts.beginsWord (hEdged : WordEdged l) (hText : l ≠ [])
    (hMem : c ∈ (sequence (spaced along
      (wholeWord (phrase repeated separators l)))).program.findAll h)
    (front : SpaceTo h c.start i) (parts : WordParts repeated separators l h i x y j) :
    BeginsWord h i := by
  rcases holds_wordEdge_iff.mp parts.edge_start with hBegins | hEnds
  · exact hBegins
  have hSize := Nat.le_trans parts.le_stop parts.le_size
  have hStart : i = c.start := by
    rcases front with hSame | ⟨rfl, d, hChar, hSpace⟩
    · exact hSame
    · obtain ⟨a, hBefore, hWord⟩ := hEnds.before
      rw [charBefore_succ, hChar] at hBefore
      obtain rfl := Option.some.inj hBefore
      rw [isWord_of_isSpace hSpace] at hWord
      cases hWord
  -- The match that takes the word in front ends with it, although it could go on to the next word.
  obtain ⟨z, hFar, run, hBegins⟩ := hEnds.exists_begin
  obtain ⟨d, hOther, hFrom, hTo⟩ := exists_mem_findAll (productive_spaced_wholeWord along)
    (consumes_spaced_wholeWord along hText) (matches_spaced (parts.matches_from run.joins hBegins))
    (Nat.le_trans run.le hSize)
  have hStop : d.stop ≤ i := by
    rw [hStart]
    exact Program.successive_findAll.stop_le_of_lt hOther hMem (by omega)
  obtain ⟨i', x', y', j', -, parts', behind', -⟩ := parts_of_spaced_wholeWord hOther
  obtain ⟨-, rfl⟩ := stop_eq_of_run parts' behind' run hTo hStop
  obtain ⟨-, hPhrase, -⟩ := parts.spells.places hEdged hText
    (Nat.le_trans parts.tail.le parts.le_size)
  obtain ⟨k, hLess, hyphens, hNext⟩ := hEnds.exists_next parts.head hPhrase
  have := parts'.greatest k (parts'.tail.trans hyphens) (holds_wordEdge_iff.mpr (.inl hNext))
  omega

end Whole

end Regex

end Expurgate
