import Expurgate.Proofs.Lines
import Expurgate.Proofs.Term.Alone

/-! The parts of a match. Every match can be divided. A bounded one is made up of its borders and its
content, in this order and without a gap, and the word of any match is its content without the white
space at its ends; the bytes at the offsets of a part are those of its text. -/
namespace Expurgate

open Unicode

variable {h : Array Char} {p q i j : Nat}

section Bytes

/-- A text has as many bytes as its characters take, so byte lengths and encodings agree. -/
theorem length_utf8 (l : List Char) : (utf8 l).length = byteLength l := by
  induction l with
  | nil => rfl
  | cons c rest ih =>
      have hCons : utf8 (c :: rest) = String.utf8EncodeChar c ++ utf8 rest := List.flatMap_cons
      rw [hCons, List.length_append, String.length_utf8EncodeChar, ih, byteLength]

/-- The bytes of a text between the byte offsets of a stretch. -/
def Span.bytes (s : Span) (h : Array Char) : List UInt8 :=
  (utf8 h.toList).extract (byteOffset h s.start) (byteOffset h s.stop)

/-- These are the bytes of the characters of the stretch. -/
theorem Span.bytes_eq (hLe : i ≤ j) (hTo : j ≤ h.size) :
    Span.bytes ⟨i, j⟩ h = utf8 (Span.text ⟨i, j⟩ h) := by
  have hText : h.toList =
      Span.text ⟨0, i⟩ h ++ (Span.text ⟨i, j⟩ h ++ Span.text ⟨j, h.size⟩ h) := by
    rw [Span.text_append hLe hTo, Span.text_append (Nat.zero_le i) (Nat.le_trans hLe hTo),
      Span.text_zero_size]
  have hFront : byteOffset h i = (utf8 (Span.text ⟨0, i⟩ h)).length := by
    rw [length_utf8, byteOffset_eq]
  have hLength : byteOffset h j - byteOffset h i = (utf8 (Span.text ⟨i, j⟩ h)).length := by
    rw [length_utf8, byteOffset_add hLe, Nat.add_sub_cancel_left]
  rw [Span.bytes, List.extract_eq_take_drop, hLength, hFront, hText, utf8_append, utf8_append,
    List.drop_left, List.take_left]

end Bytes

section Word

/-- A text is the white space in front, the trimmed text, and the white space behind. -/
theorem takeWhile_append_trim (l : List Char) :
    l.takeWhile isSpace ++ (trim l ++ (trimStart l).rtakeWhile isSpace) = l := by
  have hTrim : trim l = (trimStart l).rdropWhile isSpace := rfl
  rw [hTrim, List.rdropWhile_append_rtakeWhile, trimStart, List.takeWhile_append_dropWhile]

/-- A trimmed text does not end with white space. -/
theorem getLast?_trim (l : List Char) : ∀ c ∈ (trim l).getLast?, isSpace c = false := by
  rw [trim, trimEnd, List.getLast?_reverse]
  exact head?_trimStart _

/-- A word takes up all of a content but the white space at its ends, and the bytes at its offsets are
those of its characters. -/
structure Stripped (h : Array Char) (content word : Span) : Prop where
  front : Regex.Run isSpace h content.start word.start
  le : word.start ≤ word.stop
  behind : Regex.Run isSpace h word.stop content.stop
  head : ∀ d ∈ (word.text h).head?, isSpace d = false
  last : ∀ d ∈ (word.text h).getLast?, isSpace d = false
  bytes : word.bytes h = utf8 (word.text h)

/-- The word of a match is its content, trimmed, at the place where it stands in the text. -/
theorem MatchParts.stripped_word {m : MatchParts} (hLe : m.content.start ≤ m.content.stop)
    (hTo : m.content.stop ≤ h.size) :
    Stripped h m.content (m.word h) ∧ (m.word h).text h = trim (m.content.text h) := by
  let text := m.content.text h
  -- The content is cut where the white space in front ends and where that behind begins.
  obtain ⟨x, hx, hxStop, hFront, hRest⟩ :=
    Span.exists_cut hLe hTo (takeWhile_append_trim text).symm
  obtain ⟨y, hy, hyStop, hTrim, hBehind⟩ := Span.exists_cut hxStop hTo hRest
  have hWord : m.word h = ⟨x, y⟩ := by
    have hStart := Span.length_text (h := h) (i := m.content.start) (Nat.le_trans hxStop hTo)
    have hStop := Span.length_text (h := h) (i := x) (Nat.le_trans hyStop hTo)
    rw [hFront] at hStart
    rw [hTrim] at hStop
    change (⟨m.content.start + (text.takeWhile isSpace).length,
      m.content.start + (text.takeWhile isSpace).length + (trim text).length⟩ : Span) = ⟨x, y⟩
    congr 1 <;> omega
  rw [hWord]
  refine ⟨⟨?_, hy, ?_, ?_, ?_, Span.bytes_eq hy (Nat.le_trans hyStop hTo)⟩, hTrim⟩
  · apply Regex.run_of_text hx (Nat.le_trans hxStop hTo)
    rw [hFront]
    exact fun c hc => List.mem_takeWhile_imp hc
  · apply Regex.run_of_text hyStop hTo
    rw [hBehind]
    exact fun c hc => List.mem_rtakeWhile_imp hc
  · rw [hTrim]
    exact head?_trim text
  · rw [hTrim]
    exact getLast?_trim text

end Word

/-- The parts of a bounded match. Their texts make up that of the match, and their byte offsets follow
one another. The borders are made of boundary characters. -/
structure Framed (h : Array Char) (raw leading content trailing : Span) : Prop where
  text : raw.text h = leading.text h ++ content.text h ++ trailing.text h
  content_start : byteOffset h content.start = byteOffset h raw.start + byteLength (leading.text h)
  content_stop : byteOffset h content.stop = byteOffset h content.start + byteLength (content.text h)
  raw_stop : byteOffset h raw.stop = byteOffset h content.stop + byteLength (trailing.text h)
  content_bytes : content.bytes h = utf8 (content.text h)
  leading_boundary : ∀ d ∈ leading.text h, isBoundary d = true
  trailing_boundary : ∀ d ∈ trailing.text h, isBoundary d = true

/-- A match is framed by its boundaries if these are runs of boundary characters around a stretch,
each of which may be empty. -/
theorem framed_of_runs (leading : Regex.Run isBoundary h p i) (hLe : i ≤ j)
    (trailing : Regex.Run isBoundary h j q) (hTo : q ≤ h.size) :
    Framed h ⟨p, q⟩ ⟨p, i⟩ ⟨i, j⟩ ⟨j, q⟩ where
  text := by
    rw [Span.text_append leading.le hLe,
      Span.text_append (Nat.le_trans leading.le hLe) trailing.le]
  content_start := byteOffset_add leading.le
  content_stop := byteOffset_add hLe
  raw_stop := byteOffset_add trailing.le
  content_bytes := Span.bytes_eq hLe (Nat.le_trans trailing.le hTo)
  leading_boundary := leading.forall_text
  trailing_boundary := trailing.forall_text

namespace Term

variable {o : TermOptions} {s : Settings} {t : Term} {c : Captures}

/-- A bounded match inside a word is all content. -/
theorem Prepared.split_within (ht : Prepared o s t) (hMethod : o.methodIn s = .within)
    (hKeep : s.filterMethod ≠ .remove) (hShape : t.shape = .bounded) (hMem : c ∈ t.occurrences h) :
    t.split c = some (.bounded ⟨c.start, c.stop⟩ ⟨c.start, c.start⟩ ⟨c.start, c.stop⟩
      ⟨c.stop, c.stop⟩) := by
  obtain ⟨hLe, -, -, m, hSplit, -, hContent⟩ := ht.within_parts hMethod hKeep hMem
  obtain ⟨m', hSplit', tiles⟩ := ht.tiles_of_mem_occurrences hMem hLe
  obtain rfl := Option.some.inj (hSplit.symm.trans hSplit')
  cases tiles with
  | plain => simp [split, hShape] at hSplit
  | bounded =>
      obtain ⟨hi, hj⟩ := Span.mk.inj hContent
      rw [hSplit, hi, hj]

/-- Every match of a bounded term is framed. A term that matches inside words, and is not removed,
takes no borders along; else only an end of the text takes the place of a border. -/
theorem Prepared.framed (ht : Prepared o s t) (hShape : t.shape = .bounded)
    (hMem : c ∈ t.occurrences h) : ∃ leading content trailing,
      t.split c = some (.bounded ⟨c.start, c.stop⟩ leading content trailing) ∧
        content.start ≤ content.stop ∧ content.stop ≤ h.size ∧
        Framed h ⟨c.start, c.stop⟩ leading content trailing ∧
        if t.method = .within ∧ s.filterMethod ≠ .remove then
          leading.text h = [] ∧ trailing.text h = []
        else (leading.text h = [] → c.start = 0) ∧ (trailing.text h = [] → c.stop = h.size) := by
  have hMethod := ht.method_ne_of_bounded hShape
  have hSize := (ht.bounds_of_mem hMethod hMem).2
  rw [ht.method]
  split
  · rename_i hBare
    have hLe : c.start ≤ c.stop := Nat.le_of_lt (ht.bounds_of_mem hMethod hMem).1
    exact ⟨_, _, _, ht.split_within hBare.1 hBare.2 hShape hMem, hLe, hSize,
      framed_of_runs (.refl _) hLe (.refl _) hSize, Span.text_self _ h, Span.text_self _ h⟩
  · rename_i hBorders
    have hWithin : o.methodIn s = .within → s.filterMethod = .remove := fun hMatch =>
      of_not_not fun hKeep => hBorders ⟨hMatch, hKeep⟩
    obtain ⟨i, j, hSplit, bordered⟩ := ht.bordered hMethod hWithin (ht.shape.symm.trans hShape) hMem
    have hTo : j ≤ h.size := Nat.le_trans bordered.trailing.le hSize
    refine ⟨_, _, _, hSplit, bordered.le, hTo,
      framed_of_runs bordered.leading bordered.le bordered.trailing hSize, ?_, ?_⟩
    · intro hNone
      refine bordered.front.resolve_left fun hLess => ?_
      exact Span.text_ne_nil hLess (Nat.le_trans bordered.le hTo) hNone
    · intro hNone
      exact bordered.behind.resolve_left fun hLess => Span.text_ne_nil hLess hSize hNone

/-- Every match of a term can be divided. A plain match is all content, and a bounded one is framed;
unless it is one inside a word that is not removed, a border is missing only at an end of the text. The
word of a match is its content without the white space around it, at the place where it stands. -/
theorem split_tiles (hCompile : compile o s = .ok t) (hMem : c ∈ t.occurrences h) :
    ∃ m, t.split c = some m ∧ m.raw = ⟨c.start, c.stop⟩ ∧
      (t.shape = .plain → m = .plain m.raw) ∧
      (t.shape = .bounded → ∃ leading trailing, m = .bounded m.raw leading m.content trailing ∧
        Framed h m.raw leading m.content trailing ∧
        if t.method = .within ∧ s.filterMethod ≠ .remove then
          leading.text h = [] ∧ trailing.text h = []
        else (leading.text h = [] → c.start = 0) ∧ (trailing.text h = [] → c.stop = h.size)) ∧
      Stripped h m.content (m.word h) ∧ (m.word h).text h = trim (m.content.text h) := by
  have ht := prepared_of_compile hCompile
  -- A plain term may be a pattern of the user's own, of which only the bounds of a match are known.
  cases hShape : t.shape with
  | plain =>
      obtain ⟨hLe, hTo⟩ := t.program.successive_findAll.bounds_of_mem hMem
      exact ⟨_, split_plain hShape c, rfl, fun _ => rfl, nofun,
        (MatchParts.plain _).stripped_word hLe hTo⟩
  | bounded =>
      obtain ⟨leading, content, trailing, hSplit, hLe, hTo, framed, hBorders⟩ :=
        ht.framed hShape hMem
      exact ⟨_, hSplit, rfl, nofun, fun _ => ⟨leading, trailing, rfl, framed, hBorders⟩,
        (MatchParts.bounded _ _ content _).stripped_word hLe hTo⟩

/-- A term that begins with an ideographic space leaves the one in front of it to the border, and its
word begins behind both: these take three bytes each, and the comma one. -/
theorem split_tiles_indented :
    let o := TermOptions.ofText "\u3000бля"
    let s := { Settings.default with filterMethod := .remove }
    let h := ",\u3000\u3000бля".toList.toArray
    ∃ t c m, compile o s = .ok t ∧ c ∈ t.occurrences h ∧ t.split c = some m ∧
      m.content = ⟨2, 6⟩ ∧ (m.word h).text h = "бля".toList ∧
      byteOffset h (m.word h).start = 7 ∧ byteOffset h (m.word h).stop = 13 ∧
      (m.word h).bytes h = utf8 "бля".toList := by
  intro o s h
  have removed : o.RemovedExactly s := ⟨rfl, rfl, rfl, rfl⟩
  have hHere : Span.text ⟨2, 6⟩ h = o.text.toList := by decide
  have alone : Alone o.text.toList h 2 6 := by
    refine ⟨by decide, by decide, hHere ▸ .refl _, fun x y hLe hTo hEq => ?_⟩
    have hOnly : ∀ x < 3, FoldEq o.text.toList (Span.text ⟨x, x + 4⟩ h) → x = 2 := by decide
    have hLetters : o.text.toList.length = 4 := by decide
    have hSize : h.size = 6 := rfl
    have hLength := hEq.length_eq
    rw [Span.length_text hTo, hLetters] at hLength
    obtain rfl : y = x + 4 := by omega
    exact hOnly x (by omega) hEq
  obtain ⟨t, hCompile⟩ := @exists_compile o s (by decide) (by decide) (by decide)
  obtain ⟨c, hOnly, hCut, -⟩ := (prepared_of_compile hCompile).exists_bordered removed alone
    (by decide) (.inr ⟨'\u3000', rfl, by decide⟩) (.inl rfl)
  have hMem : c ∈ t.occurrences h := by
    rw [hOnly]
    exact List.mem_singleton_self c
  obtain ⟨m, hSplit, -, -, -, stripped, hText⟩ := split_tiles hCompile hMem
  have hContent : m.content = ⟨2, 6⟩ := by
    rw [← Option.some.inj (hCut.symm.trans hSplit)]
    rfl
  have hWord : m.word h = ⟨3, 6⟩ := by
    rw [MatchParts.word, hContent]
    decide
  have hLetters : (m.word h).text h = "бля".toList := by
    rw [hText, hContent]
    decide
  have hBytes := stripped.bytes
  rw [hLetters] at hBytes
  refine ⟨t, c, m, hCompile, hMem, hSplit, hContent, hLetters, ?_, ?_, hBytes⟩
  · rw [hWord]
    decide
  · rw [hWord]
    decide

end Term

end Expurgate
