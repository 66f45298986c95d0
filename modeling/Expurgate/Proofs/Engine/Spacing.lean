import Expurgate.Proofs.Term.Removed
import Mathlib.Data.List.Chain

/-! White space in texts that terms are removed from. A match that takes the white space around it
along leaves no two white space characters together. A whole word in plain shape takes none along,
and between borders of a bounded match white space may come together. -/
namespace Expurgate

open Unicode

/-- No two white space characters stand next to each other. -/
def Spaced (l : List Char) : Prop := l.IsChain fun c d => ¬(isSpace c = true ∧ isSpace d = true)

namespace Spaced

variable {l l' : List Char} {h : Array Char} {p q : Nat}

/-- Two texts without doubled spaces make one when no space ends the first where a space starts the
second. -/
theorem append_iff : Spaced (l ++ l') ↔ Spaced l ∧ Spaced l' ∧
    ∀ c ∈ l.getLast?, ∀ d ∈ l'.head?, ¬(isSpace c = true ∧ isSpace d = true) :=
  List.isChain_append

/-- Any stretch of a text without doubled spaces is one, as the neighbours in it were neighbours
before. -/
theorem of_infix (hSpaced : Spaced l) (hInfix : l' <:+: l) : Spaced l' :=
  List.IsChain.infix hSpaced hInfix

theorem text (hSpaced : Spaced h.toList) (s : Span) : Spaced (s.text h) := by
  rw [Span.text_eq]
  exact hSpaced.of_infix ((List.take_prefix _ _).isInfix.trans (List.drop_suffix _ _).isInfix)

/-- No position of such a text has a space on either hand. -/
theorem not_both (hSpaced : Spaced h.toList) {c d : Char} (hBefore : charBefore h p = some c)
    (hHere : h[p]? = some d) : ¬(isSpace c = true ∧ isSpace d = true) := by
  rw [charBefore] at hBefore
  split at hBefore
  · cases hBefore
  · obtain ⟨hp, hd⟩ := Array.getElem?_eq_some_iff.mp hHere
    obtain ⟨hp', hc⟩ := Array.getElem?_eq_some_iff.mp hBefore
    have hStep := List.isChain_iff_getElem.mp hSpaced (p - 1)
      (by rw [Array.length_toList]; omega)
    simp only [Array.getElem_toList, Nat.sub_add_cancel (show 1 ≤ p by omega)] at hStep
    rwa [hc, hd] at hStep

end Spaced

/-- White space in front of a place and white space behind another one. -/
def SpaceAround (h : Array Char) (p q : Nat) : Prop :=
  (∃ c, charBefore h p = some c ∧ isSpace c = true) ∧ ∃ d, h[q]? = some d ∧ isSpace d = true

/-- How far stretches reach that follow directly on a position, one after another. -/
def reach (p : Nat) : List Span → Nat
  | [] => p
  | s :: rest => if s.start = p then reach s.stop rest else p

/-- There is white space around a stretch, or around several that follow directly on one another. -/
def SpaceAroundSome (h : Array Char) : List Span → Prop
  | [] => False
  | s :: rest => SpaceAround h s.start (reach s.stop rest) ∨ SpaceAroundSome h rest

/-- White space comes together within what stays of a match: it stands at the inner ends of two
borders that both have other characters too. -/
def MatchParts.Doubles (h : Array Char) : MatchParts → Prop
  | plain _ => False
  | bounded _ leading _ trailing =>
    (∃ c ∈ (leading.text h).getLast?, isSpace c = true) ∧
      (∃ c ∈ (trailing.text h).head?, isSpace c = true) ∧
      (∃ c ∈ leading.text h, isSpace c = false) ∧ ∃ c ∈ trailing.text h, isSpace c = false

/-- What a turn removes brings white space together: around whole words in plain shape, or within
what stays of a bounded match. -/
def Turn.Doubles (ctx : PassContext) (u : Turn) : Prop :=
  (u.term.method = .whole ∧ u.term.shape = .plain ∧
    SpaceAroundSome u.text ((u.replaced ctx).map (·.raw))) ∨
  ∃ m ∈ u.replaced ctx, m.Doubles u.text

/-- A plain match has no boundaries of its own that could be left next to each other. -/
theorem MatchParts.not_doubles_of_plain {t : Term} (hShape : t.shape = .plain) {c : Captures}
    {m : MatchParts} (hSplit : t.split c = some m) (h : Array Char) : ¬m.Doubles h := by
  rw [Term.split_plain hShape] at hSplit
  obtain rfl := Option.some.inj hSplit
  exact id

variable {h : Array Char} {start : Nat} {edits : List Edit}

section Snug

/-- An edit leaves no white space behind it, and begins with white space only in the place of some. -/
structure Edit.Snug (h : Array Char) (e : Edit) : Prop where
  front : ∀ c ∈ e.text.head?, isSpace c = true → ∃ d, h[e.span.start]? = some d ∧ isSpace d = true
  behind : ∀ c, h[e.span.stop]? = some c → isSpace c = false

/-- Snug edits make a text begin with white space only where it does already. -/
theorem head_patch (order : InOrder h.size start edits) (hSnug : ∀ e ∈ edits, e.Snug h) :
    ∀ c ∈ (patch h start edits).head?, isSpace c = true →
      ∃ d, h[start]? = some d ∧ isSpace d = true := by
  induction order with
  | @nil start hStart =>
      intro c hc hSpace
      rcases Nat.eq_or_lt_of_le hStart with rfl | hLess
      · rw [patch, Span.text_self] at hc
        cases hc
      · rw [patch, Span.head?_text hLess] at hc
        exact ⟨c, hc, hSpace⟩
  | @cons start e rest hFrom hLe tail ih =>
      obtain ⟨hFirst, hRest⟩ := List.forall_mem_cons.mp hSnug
      intro c hc hSpace
      rcases Nat.eq_or_lt_of_le hFrom with hSame | hLess
      · rw [patch, hSame, Span.text_self, List.nil_append, List.head?_append] at hc
        rw [hSame]
        cases hHead : e.text.head? with
        | some d =>
            rw [hHead] at hc
            exact hFirst.front d hHead (by rwa [Option.some.inj hc])
        | none =>
            rw [hHead] at hc
            obtain ⟨d, hChar, hdSpace⟩ := ih hRest c hc hSpace
            rw [hFirst.behind d hChar] at hdSpace
            cases hdSpace
      · have hSize := tail.le
        have hGap := Span.text_ne_nil (h := h) hLess (by omega)
        rw [patch, List.append_assoc, List.head?_append_of_ne_nil _ hGap,
          Span.head?_text hLess] at hc
        exact ⟨c, hc, hSpace⟩

/-- A text with snug edits is as well spaced as what is put in. -/
theorem spaced_patch_iff (hSpaced : Spaced h.toList) (order : InOrder h.size start edits)
    (hSnug : ∀ e ∈ edits, e.Snug h) :
    Spaced (patch h start edits) ↔ ∀ e ∈ edits, Spaced e.text := by
  induction order with
  | nil => simpa [patch] using hSpaced.text _
  | @cons start e rest hFrom hLe tail ih =>
      obtain ⟨hFirst, hRest⟩ := List.forall_mem_cons.mp hSnug
      have hSize := tail.le
      have hFront : Spaced (Span.text ⟨start, e.span.start⟩ h ++ e.text) ↔ Spaced e.text := by
        rw [Spaced.append_iff]
        refine ⟨fun hBoth => hBoth.2.1, fun hText => ⟨hSpaced.text _, hText, ?_⟩⟩
        rintro c hc d hd ⟨hcSpace, hdSpace⟩
        obtain ⟨d', hChar, hdSpace'⟩ := hFirst.front d hd hdSpace
        have hLess : start < e.span.start := by
          by_contra hNot
          rw [show start = e.span.start by omega, Span.text_self] at hc
          cases hc
        rw [Span.getLast?_text hLess (by omega)] at hc
        exact hSpaced.not_both hc hChar ⟨hcSpace, hdSpace'⟩
      rw [patch, Spaced.append_iff, hFront, ih hRest, List.forall_mem_cons]
      refine ⟨fun hAll => ⟨hAll.1, hAll.2.1⟩, fun hAll => ⟨hAll.1, hAll.2, ?_⟩⟩
      rintro c - d hd ⟨-, hdSpace⟩
      obtain ⟨d', hChar, hdSpace'⟩ := head_patch tail hRest d hd hdSpace
      rw [hFirst.behind d' hChar] at hdSpace'
      cases hdSpace'

end Snug

section Cut

/-- An edit takes text away up to the end of a word. -/
structure Edit.CutsWord (h : Array Char) (e : Edit) : Prop where
  nothing : e.text = []
  ends : EndsWord h e.span.stop

/-- Behind what was cut out the text goes on. -/
theorem head_patch_cut (order : InOrder h.size start edits) (hCuts : ∀ e ∈ edits, e.CutsWord h) :
    (patch h start edits).head? = h[reach start (edits.map (·.span))]? := by
  induction order with
  | @nil start hStart =>
      rcases Nat.eq_or_lt_of_le hStart with rfl | hLess
      · rw [patch, Span.text_self, List.map_nil, reach, Array.getElem?_eq_none (Nat.le_refl _)]
        rfl
      · rw [patch, Span.head?_text hLess]
        rfl
  | @cons start e rest hFrom hLe tail ih =>
      obtain ⟨hFirst, hRest⟩ := List.forall_mem_cons.mp hCuts
      have hSize := tail.le
      rw [patch, hFirst.nothing, List.append_nil, List.map_cons, reach]
      rcases Nat.eq_or_lt_of_le hFrom with hSame | hLess
      · rw [if_pos hSame.symm, hSame, Span.text_self, List.nil_append, ih hRest]
      · rw [if_neg (by omega), List.head?_append_of_ne_nil _ (Span.text_ne_nil hLess (by omega)),
          Span.head?_text hLess]

/-- A text that words are cut out of stays well spaced unless there is white space around them. -/
theorem spaced_cut_iff (hSpaced : Spaced h.toList) (order : InOrder h.size start edits)
    (hCuts : ∀ e ∈ edits, e.CutsWord h) (hStart : start = 0 ∨ EndsWord h start) :
    Spaced (patch h start edits) ↔ ¬SpaceAroundSome h (edits.map (·.span)) := by
  induction order with
  | nil => exact iff_of_true (hSpaced.text _) id
  | @cons start e rest hFrom hLe tail ih =>
      obtain ⟨hFirst, hRest⟩ := List.forall_mem_cons.mp hCuts
      have hSize := tail.le
      -- Where one cut follows on another, no white space stands in front of it.
      have hGap : (∃ c ∈ (Span.text ⟨start, e.span.start⟩ h).getLast?, isSpace c = true) ↔
          ∃ c, charBefore h e.span.start = some c ∧ isSpace c = true := by
        rcases Nat.eq_or_lt_of_le hFrom with hSame | hLess
        · rw [← hSame, Span.text_self]
          refine iff_of_false nofun ?_
          rintro ⟨c, hc, hSpace⟩
          rcases hStart with rfl | hEnds
          · cases hc
          · obtain ⟨d, hd, hWord⟩ := hEnds.before
            obtain rfl := Option.some.inj (hc.symm.trans hd)
            rw [isWord_of_isSpace hSpace] at hWord
            cases hWord
        · rw [Span.getLast?_text hLess (by omega)]
          rfl
      have hJoint : (∀ c ∈ (Span.text ⟨start, e.span.start⟩ h).getLast?,
          ∀ d ∈ h[reach e.span.stop (rest.map (·.span))]?, ¬(isSpace c = true ∧ isSpace d = true)) ↔
          ¬SpaceAround h e.span.start (reach e.span.stop (rest.map (·.span))) := by
        rw [SpaceAround, ← hGap]
        constructor
        · rintro hApart ⟨⟨c, hc, hcSpace⟩, d, hd, hdSpace⟩
          exact hApart c hc d hd ⟨hcSpace, hdSpace⟩
        · rintro hNot c hc d hd ⟨hcSpace, hdSpace⟩
          exact hNot ⟨⟨c, hc, hcSpace⟩, d, hd, hdSpace⟩
      rw [patch, hFirst.nothing, List.append_nil, Spaced.append_iff, head_patch_cut tail hRest,
        hJoint, ih hRest (.inr hFirst.ends), List.map_cons, SpaceAroundSome, not_or]
      exact ⟨fun hAll => ⟨hAll.2.2, hAll.2.1⟩, fun hBoth => ⟨hSpaced.text _, hBoth.2, hBoth.1⟩⟩

end Cut

/-- Trimming two texts together brings white space together only where it stands at their inner ends
and neither of them is blank. -/
theorem spaced_trim_iff {l l' : List Char} (hl : Spaced l) (hl' : Spaced l') :
    Spaced (trim (l ++ l')) ↔ ¬((∃ c ∈ l.getLast?, isSpace c = true) ∧
      (∃ c ∈ l'.head?, isSpace c = true) ∧ (∃ c ∈ l, isSpace c = false) ∧
        ∃ c ∈ l', isSpace c = false) := by
  have hVisible (k : List Char) : (¬k.all isSpace = true) ↔ ∃ c ∈ k, isSpace c = false := by
    simp [List.all_eq_true]
  have hTrim {k : List Char} (hk : Spaced k) : Spaced (trim k) := hk.of_infix (trim_isInfix k)
  rw [← hVisible, ← hVisible, trim, trimStart_append]
  by_cases hBlank : l.all isSpace = true
  · rw [if_pos hBlank]
    exact iff_of_true (hTrim hl') fun hBoth => hBoth.2.2.1 hBlank
  rw [if_neg hBlank, trimEnd_append]
  by_cases hBlank' : l'.all isSpace = true
  · rw [if_pos hBlank']
    exact iff_of_true (hTrim hl) fun hBoth => hBoth.2.2.2 hBlank'
  rw [if_neg hBlank', Spaced.append_iff, getLast?_trimStart hBlank, head?_trimEnd hBlank']
  constructor
  · rintro ⟨-, -, hJoint⟩ ⟨⟨c, hc, hcSpace⟩, ⟨d, hd, hdSpace⟩, -⟩
    exact hJoint c hc d hd ⟨hcSpace, hdSpace⟩
  · intro hNot
    refine ⟨hl.of_infix (trimStart_isSuffix l).isInfix, hl'.of_infix (trimEnd_isPrefix l').isInfix, ?_⟩
    rintro c hc d hd ⟨hcSpace, hdSpace⟩
    exact hNot ⟨⟨c, hc, hcSpace⟩, ⟨d, hd, hdSpace⟩, hBlank, hBlank'⟩

section Removal

variable {o : TermOptions} {s : Settings} {t : Term} {c : Captures}

/-- What stays of a bounded match is well spaced exactly if its borders bring no white space
together. -/
theorem Bordered.spaced_iff {p i j q : Nat} (hSpaced : Spaced h.toList) :
    Spaced (removeWord (.bounded ⟨p, q⟩ ⟨p, i⟩ ⟨i, j⟩ ⟨j, q⟩) h) ↔
      ¬MatchParts.Doubles h (.bounded ⟨p, q⟩ ⟨p, i⟩ ⟨i, j⟩ ⟨j, q⟩) := by
  rcases removeWord_bounded ⟨p, q⟩ ⟨p, i⟩ ⟨i, j⟩ ⟨j, q⟩ h with
    ⟨hKept, -, hFront, -⟩ | ⟨hKept, -⟩ | ⟨hKept, -, hAll⟩
  · rw [hKept]
    refine iff_of_true (hSpaced.text _) ?_
    rintro ⟨-, -, ⟨d, hd, hNot⟩, -⟩
    rw [hFront d hd] at hNot
    cases hNot
  · rw [hKept]
    exact spaced_trim_iff (hSpaced.text _) (hSpaced.text _)
  · rw [hKept]
    refine iff_of_true .nil ?_
    rintro ⟨-, -, ⟨d, hd, hNot⟩, -⟩
    rw [hAll d (List.mem_append_left _ hd)] at hNot
    cases hNot

/-- A removed match takes the boundary characters behind it along, and what is left of it begins
with white space only where the match did. -/
theorem Bordered.snug {p i j q : Nat} (bordered : Bordered h p i j q) :
    Edit.Snug h ⟨⟨p, q⟩, removeWord (.bounded ⟨p, q⟩ ⟨p, i⟩ ⟨i, j⟩ ⟨j, q⟩) h⟩ := by
  constructor
  · intro d hd hSpace
    rcases removeWord_bounded ⟨p, q⟩ ⟨p, i⟩ ⟨i, j⟩ ⟨j, q⟩ h with
      ⟨hKept, hFront, -⟩ | ⟨hKept, -⟩ | ⟨hKept, -⟩
    · have hLess : p < i := by
        by_contra hNot
        have := bordered.leading.le
        rw [show i = p by omega, Span.text_self] at hFront
        exact hFront rfl
      rw [hKept, Span.head?_text hLess] at hd
      exact ⟨d, hd, hSpace⟩
    · rw [hKept] at hd
      rw [head?_trim _ d hd] at hSpace
      cases hSpace
    · rw [hKept] at hd
      cases hd
  · intro d hChar
    cases hSpace : isSpace d with
    | false => rfl
    | true => rw [← bordered.greatest d hChar, isBoundary_of_isSpace hSpace]

section Plain

variable (ht : Term.Prepared o s t) (hRemove : s.filterMethod = .remove)
  (hMethod : o.methodIn s ≠ .regex) (hShape : o.shapeIn s = .plain) (hMem : c ∈ t.occurrences h)
include ht hRemove hMethod hShape hMem

/-- A plain match that takes white space along leaves at most one character of it. -/
theorem Term.Prepared.snug_plain (hNot : o.methodIn s ≠ .whole) (hSpaced : Spaced h.toList) :
    Edit.Snug h ⟨⟨c.start, c.stop⟩, removeWord (.plain ⟨c.start, c.stop⟩) h⟩ ∧
      Spaced (removeWord (.plain ⟨c.start, c.stop⟩) h) := by
  obtain ⟨hLess, hTo⟩ := ht.bounds_of_mem hMethod hMem
  have hBehind : ∀ d, h[c.stop]? = some d → isSpace d = false := by
    rcases ht.space_taken hRemove hMethod hShape hMem hNot with ⟨b, hBefore, hSpace⟩ | hNone
    · intro d hChar
      rw [← Bool.not_eq_true]
      exact fun hdSpace => hSpaced.not_both hBefore hChar ⟨hSpace, hdSpace⟩
    · exact hNone
  rcases removeWord_plain hLess hTo with ⟨hKept, -⟩ | ⟨d, hChar, hSpace, hKept, -⟩
  · rw [hKept]
    exact ⟨⟨nofun, hBehind⟩, .nil⟩
  · rw [hKept]
    refine ⟨⟨fun e he _ => ?_, hBehind⟩, .singleton d⟩
    obtain rfl : d = e := Option.some.inj he
    exact ⟨d, hChar, hSpace⟩

/-- Of a whole word in plain shape nothing stays. -/
theorem Term.Prepared.cutsWord (hWhole : o.methodIn s = .whole) :
    Edit.CutsWord h ⟨⟨c.start, c.stop⟩, removeWord (.plain ⟨c.start, c.stop⟩) h⟩ := by
  obtain ⟨hLess, hTo⟩ := ht.bounds_of_mem hMethod hMem
  have hEnds := ht.endsWord_of_whole hRemove hMethod hShape hMem hWhole
  refine ⟨?_, hEnds⟩
  rcases removeWord_plain hLess hTo with ⟨hKept, -⟩ | ⟨-, -, -, -, d, hChar, hSpace⟩
  · exact hKept
  · obtain ⟨d', hChar', hWord⟩ := hEnds.before
    obtain rfl := Option.some.inj (hChar.symm.trans hChar')
    rw [isWord_of_isSpace hSpace] at hWord
    cases hWord

end Plain

section Turn

variable {ctx : PassContext} {u : Turn} (ht : Term.Prepared o ctx.replacer.settings u.term)
  (hRemove : ctx.replacer.settings.filterMethod = .remove)
  (hMethod : o.methodIn ctx.replacer.settings ≠ .regex) (hSpaced : Spaced u.text.toList)

include hRemove in
/-- Each match of a turn that removes is an occurrence of the term, with what is left of it in its
place. -/
theorem Turn.exists_of_mem_replaced {m : MatchParts} (hm : m ∈ u.replaced ctx) :
    ∃ c ∈ u.term.occurrences u.text, u.term.split c = some m ∧
      ctx.edit u.term u.text m = ⟨m.raw, removeWord m u.text⟩ := by
  obtain ⟨c, hMem, hSplit, -⟩ := mem_replacedIn hm
  refine ⟨c, hMem, hSplit, ?_⟩
  rw [PassContext.edit, Replacer.replacement, hRemove]

/-- A turn that removes has nothing to choose, so its edits are those that its matches call for. -/
theorem Turn.removal_inOrder (ctx : PassContext) (u : Turn)
    (hRemove : ctx.replacer.settings.filterMethod = .remove) :
    InOrder u.text.size 0 ((u.replaced ctx).map (ctx.edit u.term u.text)) ∧
      (u.result ctx).text.toList =
        patch u.text 0 ((u.replaced ctx).map (ctx.edit u.term u.text)) := by
  have hFew : ctx.replacer.choices u.term ≤ 1 :=
    Replacer.choices_of_method (by simp [hRemove]) u.term
  rw [← u.edits_of_few hFew]
  exact u.edits_inOrder ctx

include ht hRemove hMethod hSpaced

/-- Bounded matches leave a well spaced text exactly if each of them does. -/
theorem Turn.spaced_iff_bounded (hShape : o.shapeIn ctx.replacer.settings = .bounded) :
    Spaced (u.result ctx).text.toList ↔ ¬∃ m ∈ u.replaced ctx, m.Doubles u.text := by
  obtain ⟨order, hText⟩ := u.removal_inOrder ctx hRemove
  have hBordered : ∀ m ∈ u.replaced ctx, (ctx.edit u.term u.text m).Snug u.text ∧
      (Spaced (ctx.edit u.term u.text m).text ↔ ¬m.Doubles u.text) := by
    intro m hm
    obtain ⟨c, hMem, hSplit, hEdit⟩ := Turn.exists_of_mem_replaced hRemove hm
    obtain ⟨i, j, hParts, bordered⟩ := ht.bordered hMethod (fun _ => hRemove) hShape hMem
    obtain rfl := Option.some.inj (hParts.symm.trans hSplit)
    rw [hEdit]
    exact ⟨bordered.snug, Bordered.spaced_iff hSpaced⟩
  rw [hText, spaced_patch_iff hSpaced order
      (List.forall_mem_map.mpr fun m hm => (hBordered m hm).1),
    List.forall_mem_map, forall₂_congr fun m hm => (hBordered m hm).2]
  simp

/-- Plain matches always leave one, unless they are whole words. Those leave one exactly if there is
no white space on both sides of one. -/
theorem Turn.spaced_iff_plain (hShape : o.shapeIn ctx.replacer.settings = .plain) :
    Spaced (u.result ctx).text.toList ↔ ¬(o.methodIn ctx.replacer.settings = .whole ∧
      SpaceAroundSome u.text ((u.replaced ctx).map (·.raw))) := by
  obtain ⟨order, hText⟩ := u.removal_inOrder ctx hRemove
  have hPlain : ∀ m ∈ u.replaced ctx, ∃ c ∈ u.term.occurrences u.text,
      ctx.edit u.term u.text m =
        ⟨⟨c.start, c.stop⟩, removeWord (.plain ⟨c.start, c.stop⟩) u.text⟩ := by
    intro m hm
    obtain ⟨c, hMem, hSplit, hEdit⟩ := Turn.exists_of_mem_replaced hRemove hm
    rw [Term.split_plain (ht.shape.trans hShape)] at hSplit
    obtain rfl := Option.some.inj hSplit
    exact ⟨c, hMem, hEdit⟩
  rw [hText]
  by_cases hWhole : o.methodIn ctx.replacer.settings = .whole
  · have hCuts : ∀ e ∈ (u.replaced ctx).map (ctx.edit u.term u.text), e.CutsWord u.text := by
      refine List.forall_mem_map.mpr fun m hm => ?_
      obtain ⟨c, hMem, hEdit⟩ := hPlain m hm
      rw [hEdit]
      exact ht.cutsWord hRemove hMethod hShape hMem hWhole
    rw [spaced_cut_iff hSpaced order hCuts (.inl rfl), List.map_map]
    simp [hWhole, Function.comp_def, PassContext.edit]
  · have hSnug : ∀ m ∈ u.replaced ctx, (ctx.edit u.term u.text m).Snug u.text ∧
        Spaced (ctx.edit u.term u.text m).text := by
      intro m hm
      obtain ⟨c, hMem, hEdit⟩ := hPlain m hm
      rw [hEdit]
      exact ht.snug_plain hRemove hMethod hShape hMem hWhole hSpaced
    rw [spaced_patch_iff hSpaced order (List.forall_mem_map.mpr fun m hm => (hSnug m hm).1)]
    exact iff_of_true (List.forall_mem_map.mpr fun m hm => (hSnug m hm).2)
      fun hDoubles => hWhole hDoubles.1

/-- A turn that removes a term from a well spaced text leaves a well spaced text exactly if what it
removes brings no white space together. -/
theorem Turn.spaced_iff : Spaced (u.result ctx).text.toList ↔ ¬u.Doubles ctx := by
  rw [Doubles, ht.method, ht.shape, not_or]
  cases hShape : o.shapeIn ctx.replacer.settings with
  | bounded =>
      rw [Turn.spaced_iff_bounded ht hRemove hMethod hSpaced hShape]
      simp
  | plain =>
      have hWithin : ¬∃ m ∈ u.replaced ctx, m.Doubles u.text := by
        rintro ⟨m, hm, hDoubles⟩
        obtain ⟨c, -, hSplit, -⟩ := mem_replacedIn hm
        exact MatchParts.not_doubles_of_plain (ht.shape.trans hShape) hSplit u.text hDoubles
      rw [and_iff_left hWithin, Turn.spaced_iff_plain ht hRemove hMethod hSpaced hShape]
      simp

end Turn

end Removal

/-- A configuration that removes a whole word. -/
def Config.removingDamn : Config :=
  { Config.empty with
    settings := { Settings.default with filterMethod := .remove }
    terms := [(TermOptions.ofText "damn").withMethod .whole] }

/-- In the text "a damn b" the word is all that a match covers. -/
theorem Term.Prepared.bounds_of_damn {t : Term}
    (ht : Prepared ((TermOptions.ofText "damn").withMethod .whole) Config.removingDamn.settings t)
    {c : Captures} (hMem : c ∈ t.occurrences "a damn b".toList.toArray) :
    c.start = 2 ∧ c.stop = 6 := by
  obtain ⟨body, -, hMem, hBody⟩ := ht.spaced_of_plain rfl (by decide) (by decide) hMem
  obtain rfl := hBody.resolve_right fun hExact => absurd hExact.1 (by decide)
  obtain ⟨i, x, y, j, -, parts, -, hAlong⟩ := Regex.parts_of_spaced_wholeWord hMem
  rw [if_neg (by decide)] at hAlong
  obtain ⟨rfl, rfl⟩ := hAlong
  have hSpells : Spells false false "damn".toList (Span.text ⟨x, y⟩ "a damn b".toList.toArray) :=
    parts.spells
  have hSize : y ≤ 8 := Nat.le_trans parts.tail.le parts.le_size
  have hLong := hSpells.length_le
  have hSame := (spells_iff_foldEq.mp hSpells).length_eq
  rw [Span.length_text (by exact hSize)] at hLong hSame
  change 4 ≤ y - x at hLong
  change 4 = y - x at hSame
  -- The only place of the text where the word can begin is the third.
  have hx : x = 2 := by
    have hOnly : ∀ k < 8, (("a damn b".toList.toArray)[k]?.any (sameFold 'd')) = true → k = 2 := by
      decide
    have hIn : x < "a damn b".toList.toArray.size := by
      change x < 8
      omega
    have hChar := Array.getElem?_eq_getElem hIn
    obtain ⟨d, hd, hFold⟩ := hSpells.sameFold_ends.1 _
      ((Span.head?_text (by omega)).trans hChar)
    obtain rfl : 'd' = d := Option.some.inj hd
    exact hOnly x hIn (by rw [hChar]; exact hFold)
  have hBlank {p q : Nat} (run : Regex.Run Shape.plain.joins "a damn b".toList.toArray p q) :
      ¬(p ≤ 1 ∧ 1 < q) ∧ ¬(p ≤ 6 ∧ 6 < q) := by
    constructor <;> rintro ⟨hFrom, hTo⟩
    · obtain ⟨d, hd, hJoins⟩ := run.each 1 hFrom hTo
      obtain rfl : ' ' = d := Option.some.inj hd
      exact absurd hJoins (by decide)
    · obtain ⟨d, hd, hJoins⟩ := run.each 6 hFrom hTo
      obtain rfl : ' ' = d := Option.some.inj hd
      exact absurd hJoins (by decide)
  have hFront := (hBlank parts.head).1
  have hBehind := (hBlank parts.tail).2
  have := parts.head.le
  have := parts.tail.le
  omega

namespace Engine

/-- White space is doubled only where what a turn removes brings it together: each turn on a well
spaced text leaves a well spaced one exactly if it does not do so, and the filtered text of a well
spaced one is well spaced unless a turn does. Plain terms that are not matched as whole words never
do. -/
theorem expurgate_spaced_unless (c : Config) (selector : Selector) (before : List Operation)
    (text : String) (profile : ProfileId) (record : Bool) :
    let e := (new c selector).after before
    let current := c.after before
    let s := current.settings
    let ctx := current.context e.selector
    let turns := current.turns e.selector profile text
    let outcome := (e.expurgate text profile record).1.outcome
    s.filterMethod = .remove → (∀ o ∈ current.terms, o.methodIn s ≠ .regex) →
    Spaced text.toList →
    (∀ u ∈ turns, Spaced u.text.toList →
      (Spaced (u.result ctx).text.toList ↔ ¬u.Doubles ctx)) ∧
    (¬Spaced outcome.filtered.toList → ∃ u ∈ turns, Spaced u.text.toList ∧ u.Doubles ctx) ∧
    ((∀ o ∈ current.terms, o.shapeIn s = .plain ∧ o.methodIn s ≠ .whole) →
      Spaced outcome.filtered.toList) := by
  intro e current s ctx turns outcome hRemove hTerms hSpaced
  have hTurn : ∀ u ∈ turns, Spaced u.text.toList →
      (Spaced (u.result ctx).text.toList ↔ ¬u.Doubles ctx) := by
    intro u hMem hText
    obtain ⟨o, ho, ht⟩ := Config.prepared_of_mem_turns hMem
    exact Turn.spaced_iff ht hRemove (hTerms o ho) hText
  have hUnless : ¬Spaced outcome.filtered.toList →
      ∃ u ∈ turns, Spaced u.text.toList ∧ u.Doubles ctx := by
    intro hDoubled
    by_contra hNone
    refine hDoubled (expurgate_relates (R := fun l l' => Spaced l → Spaced l') (fun _ => id)
      (fun _ _ _ left right hl => right (left hl)) c selector before text profile record ?_ hSpaced)
    intro u hMem hText
    exact (hTurn u hMem hText).mpr fun hDoubles => hNone ⟨u, hMem, hText, hDoubles⟩
  refine ⟨hTurn, hUnless, fun hPlain => ?_⟩
  by_contra hDoubled
  obtain ⟨u, hMem, -, hDoubles⟩ := hUnless hDoubled
  obtain ⟨o, ho, ht⟩ := Config.prepared_of_mem_turns hMem
  obtain ⟨hShape, hMethod⟩ := hPlain o ho
  rcases hDoubles with ⟨hWhole, -⟩ | ⟨m, hm, hInner⟩
  · exact hMethod (ht.method.symm.trans hWhole)
  · obtain ⟨d, -, hSplit, -⟩ := mem_replacedIn hm
    exact MatchParts.not_doubles_of_plain (ht.shape.trans hShape) hSplit u.text hInner

/-- A whole word that stands between spaces leaves them both. -/
theorem expurgate_spaced_unless_whole :
    let c := Config.removingDamn
    let outcome := ((new c (.fixed 0)).expurgate "a damn b" .all true).1.outcome
    c.settings.filterMethod = .remove ∧
      (∀ o ∈ c.terms, o.methodIn c.settings ≠ .regex) ∧
      Spaced "a damn b".toList ∧ ¬Spaced outcome.filtered.toList := by
  intro c outcome
  let ctx := c.context (.fixed 0)
  have hTerms : ∀ o ∈ c.terms, o.methodIn c.settings ≠ .regex :=
    List.forall_mem_singleton.mpr (by decide)
  have hSpaced : Spaced "a damn b".toList := by
    rw [Spaced]
    decide
  refine ⟨rfl, hTerms, hSpaced, fun hStill => ?_⟩
  obtain ⟨t, hCompile⟩ := @Term.exists_compile ((TermOptions.ofText "damn").withMethod .whole)
    c.settings (by decide) (by decide) (by decide)
  have ht := Term.prepared_of_compile hCompile
  have hFresh : (c.freshSet (c.resolve .all)).terms = [t] := by
    rw [show c.resolve .all = .all from rfl, Config.terms_freshSet_all (List.pairwise_singleton _ _)]
    exact congrArg (fun r => [r].filterMap Except.toOption) hCompile
  let u : Turn := ⟨t, "a damn b".toList.toArray, .empty, .fixed 0⟩
  have hTurns : c.turns (.fixed 0) .all "a damn b" = [u] := by
    rw [Config.turns, hFresh]
    rfl
  have hFiltered : outcome.filtered.toList = (u.result ctx).text.toList := by
    refine (filtered_after c (.fixed 0) [] .all true (by decide) (by decide)).trans ?_
    rw [show c.after [] = c from rfl, hFresh]
    rfl
  have hSplit {d : Captures} (hMem : d ∈ t.occurrences "a damn b".toList.toArray) :
      t.split d = some (.plain ⟨2, 6⟩) := by
    obtain ⟨hStart, hStop⟩ := ht.bounds_of_damn hMem
    rw [Term.split_plain (ht.shape.trans (by decide)), hStart, hStop]
  have hEach : ∀ m ∈ u.replaced ctx, m.raw = ⟨2, 6⟩ := by
    intro m hm
    obtain ⟨d, hMem, hParts, -⟩ := mem_replacedIn hm
    rw [hSplit hMem] at hParts
    obtain rfl := Option.some.inj hParts
    rfl
  have hSuits : TermOptions.Suits ((TermOptions.ofText "damn").withMethod .whole) c.settings
      "a damn b".toList.toArray 2 6 :=
    ⟨by decide, by decide, .self _ _ _, 2, 6, .refl 2, .refl 6, by decide, by decide +kernel⟩
  obtain ⟨d, hMem⟩ := List.exists_mem_of_ne_nil _ (ht.occurrences_ne_nil (by decide) hSuits)
  have hContent : (MatchParts.plain ⟨2, 6⟩).content.text "a damn b".toList.toArray ≠ [] := by
    decide
  have hStrict : ctx.allowList.isEmpty = true := rfl
  have hRemoved := mem_replacedIn_of_strict hStrict hMem (hSplit hMem) hContent .empty
  obtain ⟨m, rest, hReplaced⟩ : ∃ m rest, u.replaced ctx = m :: rest :=
    List.exists_cons_of_ne_nil (List.ne_nil_of_mem hRemoved)
  have hDoubles : u.Doubles ctx := by
    refine .inl ⟨ht.method, ht.shape.trans (by decide), ?_⟩
    have hFirst := hEach m (by rw [hReplaced]; exact List.mem_cons_self)
    have hReach : reach 6 (rest.map (·.raw)) = 6 := by
      cases rest with
      | nil => rfl
      | cons m' rest =>
          have hNext := hEach m' (by rw [hReplaced]; exact List.mem_cons_of_mem _ List.mem_cons_self)
          rw [List.map_cons, reach, hNext, if_neg (by decide)]
    rw [hReplaced, List.map_cons, SpaceAroundSome, hFirst, hReach]
    exact .inl ⟨⟨' ', rfl, by decide⟩, ' ', rfl, by decide⟩
  refine ((expurgate_spaced_unless c (.fixed 0) [] "a damn b" .all true rfl hTerms hSpaced).1 u
    (hTurns ▸ List.mem_cons_self) hSpaced).mp
    (hFiltered ▸ hStill) hDoubles

end Engine

end Expurgate
