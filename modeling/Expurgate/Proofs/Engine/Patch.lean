import Expurgate.Proofs.Term.Span

/-! Texts in which stretches are replaced. Each place of the new text shows a character of the old
one that stayed, or one that was put in. -/
namespace Expurgate

/-- A stretch of a text and what is put in its place. -/
structure Edit where
  span : Span
  text : List Char

/-- A text from a position on, with stretches replaced. -/
def patch (h : Array Char) (start : Nat) : List Edit → List Char
  | [] => Span.text ⟨start, h.size⟩ h
  | e :: rest => Span.text ⟨start, e.span.start⟩ h ++ e.text ++ patch h e.span.stop rest

/-- The stretches follow one another from `start` on in a text of `size` characters. -/
inductive InOrder (size : Nat) : Nat → List Edit → Prop where
  | nil {start : Nat} (hStart : start ≤ size) : InOrder size start []
  | cons {start : Nat} {e : Edit} {rest : List Edit} (hFrom : start ≤ e.span.start)
      (hLe : e.span.start ≤ e.span.stop) (tail : InOrder size e.span.stop rest) :
      InOrder size start (e :: rest)

/-- Where a character is from: a position of the old text, or a place in what was put in. -/
inductive Source where
  | kept (position : Nat)
  | inserted (edit : Edit) (offset : Nat)

/-- The character that is found there. -/
def Source.char? (h : Array Char) : Source → Option Char
  | kept p => h[p]?
  | inserted e i => e.text[i]?

/-- Where the character at a position of the new text is from. -/
def source (start : Nat) : List Edit → Nat → Source
  | [], k => .kept (start + k)
  | e :: rest, k =>
    let gap := e.span.start - start
    if k < gap then .kept (start + k)
    else if k < gap + e.text.length then .inserted e (k - gap)
    else source e.span.stop rest (k - (gap + e.text.length))

variable {h : Array Char} {start k p : Nat} {edits : List Edit}

namespace InOrder

/-- Edits in order start within the text, even if there are none. -/
theorem le {size : Nat} (order : InOrder size start edits) : start ≤ size := by
  induction order with
  | nil hStart => exact hStart
  | cons hFrom hLe _ ih => omega

/-- Each edit of an ordered list lies between the start and the end of the text. -/
theorem bounds_of_mem {size : Nat} (order : InOrder size start edits) {e : Edit}
    (hMem : e ∈ edits) :
    start ≤ e.span.start ∧ e.span.start ≤ e.span.stop ∧ e.span.stop ≤ size := by
  induction order with
  | nil => simp at hMem
  | cons hFrom hLe tail ih =>
      rcases List.mem_cons.mp hMem with rfl | hLater
      · exact ⟨hFrom, hLe, tail.le⟩
      · have := ih hLater
        omega

/-- Edits that are in order from one position on are so from any earlier one. -/
theorem earlier {size start' : Nat} (order : InOrder size start edits) (hLe : start' ≤ start) :
    InOrder size start' edits := by
  cases order with
  | nil hStart => exact .nil (Nat.le_trans hLe hStart)
  | cons hFrom hSpan tail => exact .cons (Nat.le_trans hLe hFrom) hSpan tail

end InOrder

/-- Text that stays may be taken as part of the patched text. -/
theorem patch_earlier (order : InOrder h.size start edits) {i j : Nat} (hFrom : i ≤ j)
    (hLe : j ≤ start) :
    Span.text ⟨i, j⟩ h ++ Span.text ⟨j, start⟩ h ++ patch h start edits = patch h i edits := by
  rw [Span.text_append hFrom hLe]
  cases order with
  | nil hStart => exact Span.text_append (Nat.le_trans hFrom hLe) hStart
  | cons hFirst _ _ =>
      rw [patch, patch, ← List.append_assoc, ← List.append_assoc,
        Span.text_append (Nat.le_trans hFrom hLe) hFirst]

/-- Each position of a patched text shows the character that is found at its source. -/
theorem getElem?_patch (order : InOrder h.size start edits) (k : Nat) :
    (patch h start edits)[k]? = (source start edits k).char? h := by
  have hGap {i j : Nat} (hTo : j ≤ h.size) : (Span.text ⟨i, j⟩ h).length = j - i :=
    Span.length_text hTo
  induction order generalizing k with
  | @nil start hStart =>
      by_cases hk : start + k < h.size
      · exact Span.getElem?_text k hk
      · have hLength := @hGap start h.size (Nat.le_refl _)
        rw [patch, source, Source.char?, List.getElem?_eq_none (by omega),
          Array.getElem?_eq_none (Nat.not_lt.mp hk)]
  | @cons start e rest hFrom hLe tail ih =>
      have hSize := tail.le
      have hLength := @hGap start e.span.start (by omega)
      simp only [patch, source]
      split
      · rw [List.append_assoc, List.getElem?_append_left (by omega),
          Span.getElem?_text k (by omega), Source.char?]
      · split
        · rw [List.append_assoc, List.getElem?_append_right (by omega), hLength,
            List.getElem?_append_left (by omega), Source.char?]
        · rw [List.getElem?_append_right (by rw [List.length_append]; omega), List.length_append,
            hLength, ih]

/-- Each character of an edited text is read off at its source, which is a position of the old text
or a place in an inserted one. -/
theorem getElem?_of_patch {g : Array Char} (order : InOrder h.size start edits)
    (hPatch : g.toList = patch h start edits) (k : Nat) :
    g[k]? = (source start edits k).char? h := by
  rw [← Array.getElem?_toList, hPatch, getElem?_patch order]

/-- A source among the inserted texts names one of the edits and a position inside its text. -/
theorem mem_of_source_inserted {e : Edit} {i : Nat} (hSource : source start edits k = .inserted e i) :
    e ∈ edits ∧ i < e.text.length := by
  induction edits generalizing start k with
  | nil => cases hSource
  | cons d rest ih =>
      simp only [source] at hSource
      split at hSource
      · cases hSource
      · split at hSource
        · obtain ⟨rfl, rfl⟩ := Source.inserted.inj hSource
          exact ⟨List.mem_cons_self, by omega⟩
        · obtain ⟨hMem, hi⟩ := ih hSource
          exact ⟨List.mem_cons_of_mem _ hMem, hi⟩

/-- An edit at the beginning comes first. -/
theorem source_first {e : Edit} (hk : k < e.text.length) :
    source e.span.start (e :: edits) k = .inserted e k := by
  simp [source, hk]

/-- A character that stayed is from outside the replaced stretches. -/
theorem apart_of_source_kept {size : Nat} (order : InOrder size start edits)
    (hSource : source start edits k = .kept p) :
    start ≤ p ∧ ∀ e ∈ edits, p < e.span.start ∨ e.span.stop ≤ p := by
  induction order generalizing k with
  | nil =>
      obtain rfl := Source.kept.inj hSource
      exact ⟨Nat.le_add_right _ _, nofun⟩
  | @cons start d rest hFrom hLe tail ih =>
      simp only [source] at hSource
      split at hSource
      · obtain rfl := Source.kept.inj hSource
        refine ⟨Nat.le_add_right _ _, fun e hMem => .inl ?_⟩
        rcases List.mem_cons.mp hMem with rfl | hLater
        · omega
        · have := (tail.bounds_of_mem hLater).1
          omega
      · split at hSource
        · cases hSource
        · obtain ⟨hFar, hApart⟩ := ih hSource
          exact ⟨by omega, List.forall_mem_cons.mpr ⟨.inr hFar, hApart⟩⟩

/-- Behind a character that stayed there is the next one, unless an edit begins there. -/
theorem source_succ (hSource : source start edits k = .kept p)
    (hNone : ∀ e ∈ edits, e.span.start ≠ p + 1) : source start edits (k + 1) = .kept (p + 1) := by
  induction edits generalizing start k with
  | nil =>
      obtain rfl := Source.kept.inj hSource
      rfl
  | cons d rest ih =>
      obtain ⟨hFirst, hRest⟩ := List.forall_mem_cons.mp hNone
      simp only [source] at hSource ⊢
      split at hSource
      · obtain rfl := Source.kept.inj hSource
        rw [if_pos (by omega)]
        rfl
      · split at hSource
        · cases hSource
        · rw [if_neg (by omega), if_neg (by omega), Nat.sub_add_comm (by omega)]
          exact ih hSource hRest

/-- In front of a character that stayed there is the one before it, unless an edit ends there. -/
theorem source_pred {size : Nat} (order : InOrder size start edits)
    (hSource : source start edits k = .kept p) (hStart : start < p)
    (hNone : ∀ e ∈ edits, e.span.stop ≠ p) :
    ∃ j, k = j + 1 ∧ source start edits j = .kept (p - 1) := by
  induction order generalizing k with
  | nil =>
      obtain rfl := Source.kept.inj hSource
      exact ⟨k - 1, by omega, congrArg Source.kept (by omega)⟩
  | @cons start d rest hFrom hLe tail ih =>
      obtain ⟨hFirst, hRest⟩ := List.forall_mem_cons.mp hNone
      simp only [source] at hSource ⊢
      split at hSource
      · obtain rfl := Source.kept.inj hSource
        refine ⟨k - 1, by omega, ?_⟩
        rw [if_pos (by omega)]
        exact congrArg Source.kept (by omega)
      · split at hSource
        · cases hSource
        · have hFar := (apart_of_source_kept tail hSource).1
          obtain ⟨j, hj, hPred⟩ := ih hSource (by omega) hRest
          refine ⟨d.span.start - start + d.text.length + j, by omega, ?_⟩
          rw [if_neg (by omega), if_neg (by omega), Nat.add_sub_cancel_left, hPred]

/-- Characters that stayed next to each other were next to each other, where no edit only takes
away. -/
theorem source_next {q : Nat} (hTexts : ∀ e ∈ edits, e.text ≠ [])
    (hSource : source start edits k = .kept p) (hNext : source start edits (k + 1) = .kept q) :
    q = p + 1 := by
  induction edits generalizing start k with
  | nil =>
      obtain rfl := Source.kept.inj hSource
      exact (Source.kept.inj hNext).symm
  | cons d rest ih =>
      obtain ⟨hFirst, hRest⟩ := List.forall_mem_cons.mp hTexts
      have hPos := List.length_pos_iff.mpr hFirst
      simp only [source] at hSource hNext
      split at hSource
      · obtain rfl := Source.kept.inj hSource
        split at hNext
        · exact (Source.kept.inj hNext).symm
        · rw [if_pos (by omega)] at hNext
          cases hNext
      · split at hSource
        · cases hSource
        · rw [if_neg (by omega), if_neg (by omega), Nat.sub_add_comm (by omega)] at hNext
          exact ih hRest hSource hNext

end Expurgate
