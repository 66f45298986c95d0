import Expurgate.Term.Match
import Mathlib.Tactic.Common

/-! Stretches of a text: their characters and the bytes before them. -/
namespace Expurgate

variable {h : Array Char}

def byteLength : List Char → Nat
  | [] => 0
  | c :: rest => c.utf8Size + byteLength rest

theorem byteLength_append (l l' : List Char) :
    byteLength (l ++ l') = byteLength l + byteLength l' := by
  induction l with
  | nil => rw [List.nil_append, byteLength, Nat.zero_add]
  | cons c rest ih => rw [List.cons_append, byteLength, byteLength, ih, Nat.add_assoc]

theorem byteLength_pos {l : List Char} (hNonempty : l ≠ []) : 0 < byteLength l := by
  cases l with
  | nil => exact absurd rfl hNonempty
  | cons c rest =>
      have := Char.utf8Size_pos c
      rw [byteLength]
      omega

namespace Span

theorem text_eq (s : Span) (h : Array Char) :
    s.text h = (h.toList.drop s.start).take (s.stop - s.start) := by
  rw [text, Array.toList_extract, List.extract_eq_take_drop]

/-- Two spans that meet make one. -/
theorem text_append {i j k : Nat} (hLeft : i ≤ j) (hRight : j ≤ k) :
    Span.text ⟨i, j⟩ h ++ Span.text ⟨j, k⟩ h = Span.text ⟨i, k⟩ h := by
  rw [text, text, text, ← Array.toList_append, Array.extract_append_extract,
    Nat.min_eq_left hLeft, Nat.max_eq_right hRight]

theorem length_text {i j : Nat} (hTo : j ≤ h.size) : (Span.text ⟨i, j⟩ h).length = j - i := by
  rw [text, Array.length_toList, Array.size_extract, Nat.min_eq_left hTo]

theorem text_ne_nil {i j : Nat} (hLess : i < j) (hTo : j ≤ h.size) : Span.text ⟨i, j⟩ h ≠ [] := by
  intro hNil
  have := length_text (i := i) hTo
  rw [hNil, List.length_nil] at this
  omega

theorem text_zero_size (h : Array Char) : Span.text ⟨0, h.size⟩ h = h.toList := by
  simp [text]

theorem text_self (p : Nat) (h : Array Char) : Span.text ⟨p, p⟩ h = [] := by
  rw [text_eq, Nat.sub_self, List.take_zero]

/-- The stretches that three parts of a text take. -/
theorem text_parts {a b c : List Char} (hText : h.toList = a ++ (b ++ c)) :
    Span.text ⟨0, a.length⟩ h = a ∧ Span.text ⟨a.length, a.length + b.length⟩ h = b ∧
      Span.text ⟨a.length + b.length, h.size⟩ h = c := by
  have hSize : h.size = a.length + b.length + c.length := by
    rw [← Array.length_toList, hText, List.length_append, List.length_append, Nat.add_assoc]
  rw [text_eq, text_eq, text_eq, hText, hSize]
  simp

/-- Where the text of a stretch is cut, the stretch is cut. -/
theorem exists_cut {p q : Nat} {a b : List Char} (hLe : p ≤ q) (hTo : q ≤ h.size)
    (hText : Span.text ⟨p, q⟩ h = a ++ b) : ∃ s, p ≤ s ∧ s ≤ q ∧
      Span.text ⟨p, s⟩ h = a ∧ Span.text ⟨s, q⟩ h = b := by
  have hLength := length_text (i := p) hTo
  rw [hText, List.length_append] at hLength
  have hCut := text_append (h := h) (Nat.le_add_right p a.length) (k := q) (by omega)
  rw [hText] at hCut
  have hSize : (Span.text ⟨p, p + a.length⟩ h).length = a.length := by
    rw [length_text (by omega)]
    omega
  obtain ⟨hFirst, hSecond⟩ := List.append_inj hCut hSize
  exact ⟨p + a.length, by omega, by omega, hFirst, hSecond⟩

theorem getElem?_text {p q : Nat} (i : Nat) (hi : p + i < q) :
    (Span.text ⟨p, q⟩ h)[i]? = h[p + i]? := by
  rw [text_eq, List.getElem?_take_of_lt (by dsimp only; omega), List.getElem?_drop]
  simp

theorem head?_text {p q : Nat} (hLess : p < q) : (Span.text ⟨p, q⟩ h).head? = h[p]? := by
  rw [List.head?_eq_getElem?, getElem?_text 0 (by omega), Nat.add_zero]

theorem getLast?_text {p q : Nat} (hLess : p < q) (hTo : q ≤ h.size) :
    (Span.text ⟨p, q⟩ h).getLast? = charBefore h q := by
  rw [List.getLast?_eq_getElem?, length_text hTo, getElem?_text _ (by omega), charBefore,
    if_neg (by omega), show p + (q - p - 1) = q - 1 by omega]

theorem text_succ {p : Nat} {c : Char} (hChar : h[p]? = some c) :
    Span.text ⟨p, p + 1⟩ h = [c] := by
  have hSize := (Array.getElem?_eq_some_iff.mp hChar).1
  have hLength := length_text (i := p) (j := p + 1) (h := h) hSize
  obtain ⟨d, hText⟩ := List.length_eq_one_iff.mp (hLength.trans (by omega))
  have hGet := getElem?_text (h := h) (p := p) (q := p + 1) 0 (by omega)
  rw [hText, Nat.add_zero, hChar] at hGet
  rw [hText, Option.some.inj hGet]

end Span

theorem byteOffset_eq (h : Array Char) (p : Nat) :
    byteOffset h p = byteLength (Span.text ⟨0, p⟩ h) := by
  have hFold (l : List Char) (n : Nat) :
      l.foldl (fun n c => n + c.utf8Size) n = n + byteLength l := by
    induction l generalizing n with
    | nil => rfl
    | cons c rest ih => rw [List.foldl_cons, ih, byteLength, Nat.add_assoc]
  rw [byteOffset, Array.foldl_eq_foldl_extract, ← Array.foldl_toList, hFold, Nat.zero_add]
  rfl

theorem byteOffset_zero (h : Array Char) : byteOffset h 0 = 0 := by
  rw [byteOffset_eq, Span.text_eq]
  rfl

/-- Offsets in bytes are apart by the bytes of what is between them. -/
theorem byteOffset_add {i j : Nat} (hLe : i ≤ j) :
    byteOffset h j = byteOffset h i + byteLength (Span.text ⟨i, j⟩ h) := by
  rw [byteOffset_eq, byteOffset_eq, ← byteLength_append, Span.text_append (Nat.zero_le i) hLe]

theorem byteOffset_le {i j : Nat} (hLe : i ≤ j) : byteOffset h i ≤ byteOffset h j := by
  rw [byteOffset_add hLe]
  exact Nat.le_add_right _ _

/-- Different positions in a text have different offsets, in the same order. -/
theorem byteOffset_lt {i j : Nat} (hLess : i < j) (hTo : j ≤ h.size) :
    byteOffset h i < byteOffset h j := by
  have := byteLength_pos (Span.text_ne_nil hLess hTo)
  rw [byteOffset_add (Nat.le_of_lt hLess)]
  omega

end Expurgate
