import Expurgate.Stream
import Mathlib.Data.List.DropRight
import Mathlib.Tactic.Common

/-! Lines of characters and of bytes. A text is cut into the same lines whether its characters are
looked at or its bytes, for no other character has the byte of a line feed in it. -/
namespace Expurgate

section Cut

variable {α : Type} [DecidableEq α] {lineBreak : α} {l rest : List α}

/-- Without a line break there is one line, or none if there is nothing. -/
theorem linesWithBreaks_of_not_mem (hFree : lineBreak ∉ l) :
    linesWithBreaks lineBreak l = if l = [] then [] else [l] := by
  induction l with
  | nil => rfl
  | cons a rest ih =>
      obtain ⟨ha, hRest⟩ := not_or.mp (mt List.mem_cons.mpr hFree)
      rw [linesWithBreaks, if_neg (Ne.symm ha), ih hRest]
      cases rest <;> rfl

/-- The first line ends with the first line break, which belongs to it. -/
theorem linesWithBreaks_append (hFree : lineBreak ∉ l) :
    linesWithBreaks lineBreak (l ++ lineBreak :: rest) =
      (l ++ [lineBreak]) :: linesWithBreaks lineBreak rest := by
  induction l with
  | nil => rw [List.nil_append, linesWithBreaks, if_pos rfl, List.nil_append]
  | cons a l ih =>
      obtain ⟨ha, hRest⟩ := not_or.mp (mt List.mem_cons.mpr hFree)
      rw [List.cons_append, linesWithBreaks, if_neg (Ne.symm ha), ih hRest]
      rfl

/-- Whole lines and what follows the last of them. -/
def joined (lineBreak : α) (lines : List (List α)) (last : List α) : List α :=
  lines.flatMap (· ++ [lineBreak]) ++ last

/-- A text that does not end with a line break has one more line. -/
def lastOf (last : List α) : List (List α) := if last = [] then [] else [last]

omit [DecidableEq α] in
theorem joined_cons (line : List α) (lines : List (List α)) (last : List α) :
    joined lineBreak (line :: lines) last = line ++ lineBreak :: joined lineBreak lines last := by
  simp [joined]

omit [DecidableEq α] in
/-- Even an empty line leaves its break, so only nothing comes out of nothing. -/
theorem joined_eq_nil_iff {lines : List (List α)} {last : List α} :
    joined lineBreak lines last = [] ↔ lines = [] ∧ last = [] := by
  cases lines <;> simp [joined]

omit [DecidableEq α] in
/-- Breaks come from whole lines alone, as the rest behind them has none. -/
theorem mem_joined_iff {lines : List (List α)} {last : List α} (hLast : lineBreak ∉ last) :
    lineBreak ∈ joined lineBreak lines last ↔ lines ≠ [] := by
  cases lines with
  | nil => simpa [joined] using hLast
  | cons line lines => simp [joined]

/-- Every text consists of lines. -/
theorem exists_joined (lineBreak : α) (l : List α) : ∃ lines last,
    l = joined lineBreak lines last ∧ (∀ line ∈ lines, lineBreak ∉ line) ∧ lineBreak ∉ last := by
  induction l with
  | nil => exact ⟨[], [], rfl, nofun, List.not_mem_nil⟩
  | cons a rest ih =>
      obtain ⟨lines, last, rfl, hLines, hLast⟩ := ih
      by_cases ha : a = lineBreak
      · subst ha
        exact ⟨[] :: lines, last, by rw [joined_cons, List.nil_append],
          List.forall_mem_cons.mpr ⟨List.not_mem_nil, hLines⟩, hLast⟩
      · have hFree {line : List α} (hRest : lineBreak ∉ line) : lineBreak ∉ a :: line :=
          mt List.mem_cons.mp (not_or.mpr ⟨Ne.symm ha, hRest⟩)
        cases lines with
        | nil => exact ⟨[], a :: last, rfl, nofun, hFree hLast⟩
        | cons line lines =>
            obtain ⟨hFirst, hOthers⟩ := List.forall_mem_cons.mp hLines
            exact ⟨(a :: line) :: lines, last, by rw [joined_cons, joined_cons, List.cons_append],
              List.forall_mem_cons.mpr ⟨hFree hFirst, hOthers⟩, hLast⟩

/-- Lines that are joined are the lines that are found again, each with its break. Every text is
joined from some lines, so this tells what the lines of a text are. -/
theorem linesWithBreaks_joined {lines : List (List α)} {last : List α}
    (hLines : ∀ line ∈ lines, lineBreak ∉ line) (hLast : lineBreak ∉ last) :
    linesWithBreaks lineBreak (joined lineBreak lines last) =
      lines.map (· ++ [lineBreak]) ++ lastOf last := by
  induction lines with
  | nil => exact linesWithBreaks_of_not_mem hLast
  | cons line lines ih =>
      obtain ⟨hFirst, hOthers⟩ := List.forall_mem_cons.mp hLines
      rw [joined_cons, linesWithBreaks_append hFirst, ih hOthers]
      rfl

/-- To split at the breaks gives the lines without them, and the rest even if it is empty. -/
theorem splitOn_joined {lines : List (List α)} {last : List α}
    (hLines : ∀ line ∈ lines, lineBreak ∉ line) (hLast : lineBreak ∉ last) :
    (joined lineBreak lines last).splitOn lineBreak = lines ++ [last] := by
  induction lines with
  | nil => exact List.splitOn_eq_singleton hLast
  | cons line lines ih =>
      obtain ⟨hFirst, hOthers⟩ := List.forall_mem_cons.mp hLines
      rw [joined_cons, List.splitOn_append_cons_self, List.splitOn_eq_singleton hFirst, ih hOthers]
      rfl

/-- Seen from the end, nothing matters that stands in front of a break. -/
theorem rtakeWhile_append_cons (l rest : List α) :
    (l ++ lineBreak :: rest).rtakeWhile (· ≠ lineBreak) = rest.rtakeWhile (· ≠ lineBreak) := by
  rw [List.rtakeWhile, List.rtakeWhile, List.reverse_append, List.reverse_cons, List.append_assoc,
    List.takeWhile_append]
  split
  · rename_i hAll
    rw [List.singleton_append, List.takeWhile_cons_of_neg (by simp), List.append_nil,
      List.Sublist.eq_of_length (List.takeWhile_sublist _) hAll]
  · rfl

/-- What follows the last line break. -/
theorem rtakeWhile_joined {lines : List (List α)} {last : List α} (hLast : lineBreak ∉ last) :
    (joined lineBreak lines last).rtakeWhile (· ≠ lineBreak) = last := by
  induction lines with
  | nil =>
      refine List.rtakeWhile_eq_self_iff.mpr fun a ha => decide_eq_true ?_
      rintro rfl
      exact hLast ha
  | cons line lines ih => rw [joined_cons, rtakeWhile_append_cons, ih]

end Cut

def utf8 (l : List Char) : List UInt8 := l.flatMap String.utf8EncodeChar

theorem utf8_append (l l' : List Char) : utf8 (l ++ l') = utf8 l ++ utf8 l' := List.flatMap_append

theorem utf8_concat (l : List Char) (c : Char) :
    utf8 (l ++ [c]) = utf8 l ++ String.utf8EncodeChar c := by
  simp [utf8]

/-- The last byte of a text is one of its last character. -/
theorem mem_of_getLast?_utf8 {l : List Char} {c : Char} {b : UInt8}
    (hLast : (utf8 (l ++ [c])).getLast? = some b) : b ∈ String.utf8EncodeChar c := by
  rw [utf8_concat, List.getLast?_append_of_ne_nil _ String.utf8EncodeChar_ne_nil] at hLast
  exact List.mem_of_mem_getLast? hLast

/-- A byte below 128 stands for a character of its own. -/
theorem toNat_of_mem_utf8EncodeChar {c : Char} {b : UInt8} (hMem : b ∈ String.utf8EncodeChar c)
    (hLow : b.toNat < 128) : c.toNat = b.toNat := by
  have hChar : c.val.toNat = c.toNat := rfl
  unfold String.utf8EncodeChar at hMem
  simp only [hChar] at hMem
  split at hMem
  · obtain rfl := List.mem_singleton.mp hMem
    rw [UInt8.toNat_ofNat']
    omega
  · split at hMem
    · simp only [List.mem_cons, List.not_mem_nil, or_false] at hMem
      rcases hMem with rfl | rfl <;> rw [UInt8.toNat_ofNat'] at hLow <;> omega
    · split at hMem
      · simp only [List.mem_cons, List.not_mem_nil, or_false] at hMem
        rcases hMem with rfl | rfl | rfl <;> rw [UInt8.toNat_ofNat'] at hLow <;> omega
      · simp only [List.mem_cons, List.not_mem_nil, or_false] at hMem
        rcases hMem with rfl | rfl | rfl | rfl <;> rw [UInt8.toNat_ofNat'] at hLow <;> omega

/-- The byte of an ASCII character occurs in no other character, so where it is found the character
stands. Line breaks can be looked for among bytes therefore. -/
theorem mem_of_mem_utf8 {c : Char} (hc : c.toNat < 128) {l : List Char}
    (hMem : UInt8.ofNat c.toNat ∈ utf8 l) : c ∈ l := by
  have hByte : (UInt8.ofNat c.toNat).toNat = c.toNat := by
    rw [UInt8.toNat_ofNat']
    omega
  obtain ⟨d, hd, hIn⟩ := List.mem_flatMap.mp hMem
  have hSame := toNat_of_mem_utf8EncodeChar hIn (by omega)
  rwa [← Char.toNat_inj.mp (hSame.trans hByte)]

theorem utf8_eq_nil {l : List Char} : utf8 l = [] ↔ l = [] := by
  cases l with
  | nil => exact iff_of_true rfl rfl
  | cons c rest =>
      refine iff_of_false ?_ (List.cons_ne_nil c rest)
      rw [utf8, List.flatMap_cons]
      exact List.append_ne_nil_of_left_ne_nil String.utf8EncodeChar_ne_nil _

/-- The bytes of joined lines are the joined bytes of the lines. -/
theorem utf8_joined (lines : List (List Char)) (last : List Char) :
    utf8 (joined '\n' lines last) = joined 10 (lines.map utf8) (utf8 last) := by
  simp only [utf8, joined, List.flatMap_append, List.flatMap_assoc, List.flatMap_map]
  rfl

theorem toUTF8_ofList (l : List Char) : (String.ofList l).toUTF8.data.toList = utf8 l := by
  rw [String.toUTF8_eq_toByteArray, String.toByteArray_ofList, List.utf8Encode,
    List.data_toByteArray]
  rfl

/-- The bytes of a text stand for this text. The other direction is that only its bytes do. -/
theorem decodeText_utf8 (l : List Char) : decodeText (utf8 l) = some (String.ofList l) := by
  have hBytes : (⟨(utf8 l).toArray⟩ : ByteArray) = (String.ofList l).toByteArray := by
    rw [← toUTF8_ofList, Array.toArray_toList, String.toUTF8_eq_toByteArray]
  rw [decodeText, hBytes, String.fromUTF8?, dif_pos (String.ofList l).isValidUTF8]
  rfl

/-- A carriage return is a byte of its own, at the end of a line too. -/
theorem dropEnding_utf8 (l : List Char) : dropEnding 13 (utf8 l) = utf8 (dropEnding '\r' l) := by
  rcases l.eq_nil_or_concat' with rfl | ⟨front, c, rfl⟩
  · rfl
  · by_cases hReturn : c = '\r'
    · subst hReturn
      rw [utf8_concat, show String.utf8EncodeChar '\r' = [13] from by decide, dropEnding, dropEnding,
        List.getLast?_concat, List.getLast?_concat, if_pos rfl, if_pos rfl, List.dropLast_concat,
        List.dropLast_concat]
    · have hLast : (utf8 (front ++ [c])).getLast? ≠ some 13 := by
        intro hEnd
        have hSame := toNat_of_mem_utf8EncodeChar (mem_of_getLast?_utf8 hEnd) (by decide)
        exact hReturn (Char.toNat_inj.mp hSame)
      rw [dropEnding, if_neg hLast, dropEnding, if_neg (by simpa using hReturn)]

/-- Of a line that is ended a carriage return is dropped with the line feed. -/
theorem lineContent_concat (l : List UInt8) : lineContent (l ++ [10]) = dropEnding 13 l := by
  rw [lineContent, List.getLast?_concat, if_pos rfl, List.dropLast_concat]

/-- A last line that is not ended keeps a carriage return. -/
theorem lineContent_of_not_mem {l : List UInt8} (hFeed : 10 ∉ l) : lineContent l = l :=
  if_neg fun hLast => hFeed (List.mem_of_mem_getLast? hLast)

/-- A stream of text has the lines of the text, without a carriage return where one is ended by a
line feed. -/
theorem streamLines_utf8 {lines : List (List Char)} {last : List Char}
    (hLines : ∀ line ∈ lines, '\n' ∉ line) (hLast : '\n' ∉ last) :
    streamLines (utf8 (joined '\n' lines last)) =
      (lines.map (dropEnding '\r') ++ lastOf last).map fun l => some (String.ofList l) := by
  have hFeed {l : List Char} (hFree : '\n' ∉ l) : 10 ∉ utf8 l :=
    mt (mem_of_mem_utf8 (c := '\n') (by decide)) hFree
  have hLine (l : List Char) : decodeText (lineContent (utf8 l ++ [10])) =
      some (String.ofList (dropEnding '\r' l)) := by
    rw [lineContent_concat, dropEnding_utf8, decodeText_utf8]
  rw [streamLines, utf8_joined, linesWithBreaks_joined
    (List.forall_mem_map.mpr fun l hl => hFeed (hLines l hl)) (hFeed hLast), List.map_append,
    List.map_append, List.map_map, List.map_map, List.map_map]
  refine congrArg₂ _ (List.map_congr_left fun l _ => hLine l) ?_
  by_cases hNone : last = []
  · subst hNone
    rfl
  · rw [lastOf, lastOf, if_neg hNone, if_neg (mt utf8_eq_nil.mp hNone), List.map_singleton,
      lineContent_of_not_mem (hFeed hLast), decodeText_utf8, List.map_singleton]

/-- A stream of text without carriage returns has the lines of the text. -/
theorem streamLines_joined {lines : List (List Char)} {last : List Char}
    (hLines : ∀ line ∈ lines, '\n' ∉ line) (hLast : '\n' ∉ last)
    (hReturn : ∀ line ∈ lines, '\r' ∉ line) :
    streamLines (utf8 (joined '\n' lines last)) =
      (lines ++ lastOf last).map fun l => some (String.ofList l) := by
  have hSame : lines.map (dropEnding '\r') = lines.map id :=
    List.map_congr_left fun l hl =>
      if_neg fun hEnd => hReturn l hl (List.mem_of_mem_getLast? hEnd)
  rw [streamLines_utf8 hLines hLast, hSame, List.map_id]

/-- Bytes that stand for a text are the bytes of its characters. -/
theorem eq_utf8_of_decodeText {bytes : List UInt8} {text : String}
    (hText : decodeText bytes = some text) : bytes = utf8 text.toList := by
  rw [decodeText, String.fromUTF8?] at hText
  split at hText
  · obtain rfl := Option.some.inj hText
    rw [← toUTF8_ofList, String.ofList_toList]
    rfl
  · cases hText

/-- A stream of text has lines of text only. -/
theorem none_not_mem_streamLines {bytes : List UInt8} {text : String}
    (hText : decodeText bytes = some text) : none ∉ streamLines bytes := by
  obtain ⟨lines, last, hJoined, hLines, hLast⟩ := exists_joined '\n' text.toList
  rw [eq_utf8_of_decodeText hText, hJoined, streamLines_utf8 hLines hLast]
  simp

end Expurgate
