import Expurgate.Proofs.Term.Removed
import Mathlib.Data.List.Chain

/-! What removing terms leaves of a text. The characters that stay keep their order, and words that
were apart are not joined. -/
namespace Expurgate

open Unicode

/-- `place` tells where the characters of a thinned text were before. Characters that now stand next
to each other in a word did so before. -/
structure Thinning (l l' : List Char) (place : Nat → Nat) : Prop where
  char : ∀ k < l'.length, l'[k]? = l[place k]?
  strict : ∀ j k, j < k → k < l'.length → place j < place k
  joined : ∀ k c d, l'[k]? = some c → l'[k + 1]? = some d → isWord c = true → isWord d = true →
    place (k + 1) = place k + 1

namespace Thinning

variable {l l' l'' : List Char} {first second : Nat → Nat}

/-- A text is a thinning of itself in which every character stays at its place. -/
theorem refl (l : List Char) : Thinning l l id :=
  ⟨fun _ _ => rfl, fun _ _ hLess _ => hLess, fun _ _ _ _ _ _ _ => rfl⟩

/-- No character of a thinned text comes from beyond the end of the text. -/
theorem lt_length (thinning : Thinning l l' first) {k : Nat} (hk : k < l'.length) :
    first k < l.length := by
  have hChar := thinning.char k hk
  rw [List.getElem?_eq_getElem hk] at hChar
  exact (List.getElem?_eq_some_iff.mp hChar.symm).1

/-- To thin a thinned text is to thin it once, with the places followed back through both. -/
theorem trans (left : Thinning l l' first) (right : Thinning l' l'' second) :
    Thinning l l'' (first ∘ second) := by
  refine ⟨?_, ?_, ?_⟩
  · intro k hk
    rw [right.char k hk, left.char _ (right.lt_length hk)]
    rfl
  · intro j k hLess hk
    exact left.strict _ _ (right.strict j k hLess hk) (right.lt_length hk)
  · intro k c d hc hd hcWord hdWord
    have hNext := right.joined k c d hc hd hcWord hdWord
    have hk := (List.getElem?_eq_some_iff.mp hd).1
    rw [right.char _ (by omega)] at hc
    rw [right.char _ hk, hNext] at hd
    exact (congrArg first hNext).trans (left.joined _ c d hc hd hcWord hdWord)

end Thinning

variable {h : Array Char}

/-- One position of a text may follow another in a thinned text. -/
def Follows (h : Array Char) (i j : Nat) : Prop :=
  i < j ∧ ∀ c d, h[i]? = some c → h[j]? = some d → isWord c = true → isWord d = true → j = i + 1

/-- The places of a thinned text may be told by a list. -/
theorem thinning_of_kept {kept : List Nat} {l : List Char}
    (hText : l.map some = kept.map (h[·]?)) (hChain : kept.IsChain (Follows h)) :
    Thinning h.toList l (kept.getD · 0) := by
  have hLength : l.length = kept.length := by simpa using congrArg List.length hText
  have hPlace {k : Nat} (hk : k < l.length) : kept.getD k 0 = kept[k] := by
    rw [List.getD_eq_getElem?_getD, List.getElem?_eq_getElem (by omega), Option.getD_some]
  have hChar {k : Nat} (hk : k < l.length) : l[k]? = h[kept[k]]? := by
    have hGet := congrArg (·[k]?) hText
    simp only [List.getElem?_map] at hGet
    rw [List.getElem?_eq_getElem hk, List.getElem?_eq_getElem (by omega)] at hGet
    rw [List.getElem?_eq_getElem hk]
    exact Option.some.inj hGet
  have hIncreasing : kept.Pairwise (· < ·) :=
    List.isChain_iff_pairwise.mp (hChain.imp fun _ _ hFollows => hFollows.1)
  refine ⟨?_, ?_, ?_⟩
  · intro k hk
    rw [hChar hk, hPlace hk, Array.getElem?_toList]
  · intro j k hLess hk
    rw [hPlace hk, hPlace (by omega)]
    exact List.pairwise_iff_getElem.mp hIncreasing j k (by omega) (by omega) hLess
  · intro k c d hc hd hcWord hdWord
    have hk := (List.getElem?_eq_some_iff.mp hd).1
    rw [hChar (by omega)] at hc
    rw [hChar hk] at hd
    rw [hPlace hk, hPlace (by omega)]
    exact (List.isChain_iff_getElem.mp hChain k (by omega)).2 c d hc hd hcWord hdWord

theorem Span.map_some_text {s : Span} (hTo : s.stop ≤ h.size) :
    (s.text h).map some = (List.range' s.start (s.stop - s.start)).map (h[·]?) := by
  have hLength : (s.text h).length = s.stop - s.start := length_text hTo
  refine List.ext_getElem? fun k => ?_
  rw [List.getElem?_map, List.getElem?_map]
  by_cases hk : k < s.stop - s.start
  · have hGet : (s.text h)[k]? = h[s.start + k]? := getElem?_text k (by omega)
    rw [hGet, List.getElem?_range' (by omega), Nat.one_mul, Array.getElem?_eq_getElem (by omega)]
    simp
  · rw [List.getElem?_eq_none (by omega), List.getElem?_eq_none (by simpa using hk)]
    rfl

/-- An edit only takes characters away, and no word characters stay. Where nothing stays, no word
characters come together. -/
structure Edit.Loosens (h : Array Char) (e : Edit) : Prop where
  sublist : e.text.Sublist (e.span.text h)
  apart : ∀ c ∈ e.text, isWord c = false
  bare : e.text = [] → e.span.start = 0 ∨ BeginsWord h e.span.start ∨
    ∀ c, h[e.span.stop]? = some c → isWord c = false

/-- Neighbouring positions follow each other. There is nothing between them that could have kept two
words apart. -/
theorem isChain_range' (start n : Nat) : (List.range' start n).IsChain (Follows h) := by
  refine List.isChain_iff_getElem.mpr fun k hk => ?_
  simp only [List.getElem_range', Nat.one_mul]
  exact ⟨by omega, fun _ _ _ _ _ _ => rfl⟩

/-- The positions of the characters that an edit leaves. -/
theorem Edit.Loosens.exists_kept {e : Edit} (loosens : e.Loosens h) (hTo : e.span.stop ≤ h.size) :
    ∃ kept : List Nat, e.text.map some = kept.map (h[·]?) ∧ kept.IsChain (Follows h) ∧
      ∀ k ∈ kept, e.span.start ≤ k ∧ k < e.span.stop ∧ ∀ c, h[k]? = some c → isWord c = false := by
  have hSome := loosens.sublist.map some
  rw [Span.map_some_text hTo] at hSome
  obtain ⟨kept, hKept, hText⟩ := List.sublist_map_iff.mp hSome
  have hApart : ∀ k ∈ kept, ∀ c, h[k]? = some c → isWord c = false := by
    intro k hk c hc
    have hMem : some c ∈ e.text.map some := by
      rw [hText, ← hc]
      exact List.mem_map_of_mem hk
    obtain ⟨d, hd, hSame⟩ := List.mem_map.mp hMem
    exact loosens.apart c (Option.some.inj hSame ▸ hd)
  have hRange : ∀ k ∈ kept, e.span.start ≤ k ∧ k < e.span.stop := by
    intro k hk
    have := List.mem_range'_1.mp (hKept.subset hk)
    omega
  refine ⟨kept, hText, ?_, fun k hk => ⟨(hRange k hk).1, (hRange k hk).2, hApart k hk⟩⟩
  have hIncreasing : kept.Pairwise (· < ·) := List.Pairwise.sublist hKept List.pairwise_lt_range'
  refine List.IsChain.imp_of_mem_imp ?_ hIncreasing.isChain
  intro j k hj _ hLess
  refine ⟨hLess, fun c d hc _ hWord => ?_⟩
  rw [hApart j hj c hc] at hWord
  cases hWord

/-- Positions from `start` on, in the order of the text, that keep words apart. -/
structure Keeps (h : Array Char) (start : Nat) (kept : List Nat) : Prop where
  chain : kept.IsChain (Follows h)
  from_start : ∀ k ∈ kept.head?, start ≤ k

/-- The first of some positions has no word character. -/
def Parted (h : Array Char) (kept : List Nat) : Prop :=
  ∀ k ∈ kept.head?, ∀ c, h[k]? = some c → isWord c = false

/-- In front of positions that are kept goes what an edit leaves. -/
theorem Edit.Loosens.exists_keeps {e : Edit} (loosens : e.Loosens h)
    (hLe : e.span.start ≤ e.span.stop) (hTo : e.span.stop ≤ h.size) {behind : List Nat}
    (keeps : Keeps h e.span.stop behind)
    (hParted : 0 < e.span.stop → (∀ c, h[e.span.stop]? = some c → isWord c = false) →
      Parted h behind) :
    ∃ here : List Nat, e.text.map some = here.map (h[·]?) ∧ Keeps h e.span.start (here ++ behind) ∧
      (0 < e.span.start → ¬BeginsWord h e.span.start → Parted h (here ++ behind)) := by
  obtain ⟨here, hHere, chainHere, hAll⟩ := loosens.exists_kept hTo
  refine ⟨here, hHere, ⟨?_, ?_⟩, ?_⟩
  · refine List.isChain_append.mpr ⟨chainHere, keeps.chain, fun j hj k hk => ?_⟩
    obtain ⟨-, hStop, hApart⟩ := hAll j (List.mem_of_mem_getLast? hj)
    refine ⟨Nat.lt_of_lt_of_le hStop (keeps.from_start k hk), fun c d hc _ hWord => ?_⟩
    rw [hApart c hc] at hWord
    cases hWord
  · intro k hk
    cases here with
    | nil => exact Nat.le_trans hLe (keeps.from_start k hk)
    | cons x here =>
        obtain rfl : x = k := Option.some.inj hk
        exact (hAll x List.mem_cons_self).1
  · intro hPos hNot k hk
    cases here with
    | cons x here =>
        obtain rfl : x = k := Option.some.inj hk
        exact (hAll x List.mem_cons_self).2.2
    | nil =>
        have hNone : e.text = [] := by simpa using hHere
        rcases loosens.bare hNone with hZero | hBegins | hEnd
        · omega
        · exact absurd hBegins hNot
        · exact hParted (by omega) hEnd k hk

/-- In front of positions that are kept goes a stretch that stays as it is. -/
theorem Keeps.stretch {start i : Nat} {kept : List Nat} (keeps : Keeps h i kept) (hFrom : start ≤ i)
    (hParted : 0 < i → ¬BeginsWord h i → Parted h kept) :
    Keeps h start (List.range' start (i - start) ++ kept) ∧
      (0 < start → (∀ c, h[start]? = some c → isWord c = false) →
        Parted h (List.range' start (i - start) ++ kept)) := by
  refine ⟨⟨List.isChain_append.mpr ⟨isChain_range' _ _, keeps.chain, ?_⟩, ?_⟩, ?_⟩
  · intro j hj k hk
    have hLater := keeps.from_start k hk
    rw [List.getLast?_range'] at hj
    split at hj
    · cases hj
    obtain rfl : start + (i - start) - 1 = j := by simpa using hj
    refine ⟨by omega, fun c d hc hd hcWord hdWord => ?_⟩
    have hBefore : charBefore h i = some c := by
      rw [charBefore, if_neg (by omega), ← hc]
      congr 1
      omega
    have hNot : ¬BeginsWord h i := fun hBegins => by
      rw [hBegins.before c hBefore] at hcWord
      cases hcWord
    rw [hParted (by omega) hNot k hk d hd] at hdWord
    cases hdWord
  · intro k hk
    rw [List.head?_append, List.head?_range'] at hk
    split at hk
    · exact Nat.le_trans hFrom (keeps.from_start k hk)
    · obtain rfl : start = k := Option.some.inj hk
      exact Nat.le_refl _
  · intro hPos hHere k hk
    rw [List.head?_append, List.head?_range'] at hk
    split at hk
    · have hSame : i = start := by omega
      refine hParted (by omega) (fun hBegins => ?_) k hk
      obtain ⟨c, hc, hWord⟩ := hBegins.here
      rw [hHere c (hSame ▸ hc)] at hWord
      cases hWord
    · obtain rfl : start = k := Option.some.inj hk
      exact hHere

/-- Where edits only loosen a text, the characters that stay can be told by their positions. If the
text goes on with something other than a word, so does what stays of it. -/
theorem exists_kept {start : Nat} {edits : List Edit} (order : InOrder h.size start edits)
    (hLoosens : ∀ e ∈ edits, e.Loosens h) :
    ∃ kept : List Nat, (patch h start edits).map some = kept.map (h[·]?) ∧ Keeps h start kept ∧
      (0 < start → (∀ c, h[start]? = some c → isWord c = false) → Parted h kept) := by
  have hStretch {i j : Nat} (hTo : j ≤ h.size) :
      (Span.text ⟨i, j⟩ h).map some = (List.range' i (j - i)).map (h[·]?) :=
    Span.map_some_text hTo
  induction order with
  | @nil start hStart =>
      have keeps : Keeps h h.size [] := ⟨.nil, nofun⟩
      refine ⟨_, ?_, keeps.stretch hStart fun _ _ => nofun⟩
      rw [patch, hStretch (Nat.le_refl _), List.append_nil]
  | @cons start e rest hFrom hLe tail ih =>
      obtain ⟨hFirst, hRest⟩ := List.forall_mem_cons.mp hLoosens
      obtain ⟨behind, hBehind, keeps, hParted⟩ := ih hRest
      obtain ⟨here, hHere, keepsHere, hPartedHere⟩ :=
        hFirst.exists_keeps hLe tail.le keeps hParted
      refine ⟨_, ?_, keepsHere.stretch hFrom hPartedHere⟩
      have hSize := tail.le
      rw [patch, List.map_append, List.map_append, hHere, hBehind, hStretch (by omega),
        List.append_assoc, List.map_append, List.map_append]

section Removal

variable {o : TermOptions} {s : Settings} {t : Term} {c : Captures} {m : MatchParts}

/-- A removed plain match leaves white space at most. Where it leaves nothing, it began or ended
with a word, so no two words on either side of it meet. -/
theorem Term.Prepared.loosens_plain (ht : Prepared o s t) (hRemove : s.filterMethod = .remove)
    (hMethod : o.methodIn s ≠ .regex) (hShape : o.shapeIn s = .plain)
    (hEdged : WordEdged o.text.toList) (hMem : c ∈ t.occurrences h) :
    Edit.Loosens h ⟨⟨c.start, c.stop⟩, removeWord (.plain ⟨c.start, c.stop⟩) h⟩ := by
  obtain ⟨hLess, hTo⟩ := ht.bounds_of_mem hMethod hMem
  have detached := ht.detached hRemove hMethod hShape hMem hEdged
  rcases removeWord_plain hLess hTo with ⟨hKept, hNot⟩ | ⟨d, hChar, hSpace, hKept, -⟩
  · rw [hKept]
    refine ⟨List.nil_sublist _, nofun, fun _ => .inr ?_⟩
    rcases hNot with hFirst | hLast
    · rcases detached.front with ⟨d, hChar, hSpace⟩ | hBegins
      · rw [hFirst d hChar] at hSpace
        cases hSpace
      · exact .inl hBegins
    · rcases detached.behind with ⟨d, hChar, hSpace⟩ | hEnds
      · rw [hLast d hChar] at hSpace
        cases hSpace
      · exact .inr hEnds.here
  · rw [hKept]
    refine ⟨?_, ?_, fun hNil => absurd hNil (List.cons_ne_nil d [])⟩
    · refine List.singleton_sublist.mpr (List.mem_iff_getElem?.mpr ⟨0, ?_⟩)
      rw [Span.getElem?_text 0 (by omega), Nat.add_zero, hChar]
    · intro d' hd'
      obtain rfl := List.mem_singleton.mp hd'
      exact isWord_of_isSpace hSpace

/-- A removed match with boundaries leaves characters of these only, and none at all only at an end
of the text. -/
theorem Bordered.loosens {p i j q : Nat} (bordered : Bordered h p i j q) : Edit.Loosens h
    ⟨⟨p, q⟩, removeWord (.bounded ⟨p, q⟩ ⟨p, i⟩ ⟨i, j⟩ ⟨j, q⟩) h⟩ := by
  have hj := bordered.trailing.le
  have hij := bordered.le
  have hTo := bordered.le_size
  have hSublist := removeWord_sublist ⟨p, q⟩ ⟨p, i⟩ ⟨i, j⟩ ⟨j, q⟩ h
  refine ⟨hSublist.trans ?_, ?_, fun hNil => ?_⟩
  · dsimp only
    rw [← Span.text_append bordered.leading.le (Nat.le_trans hij hj), ← Span.text_append hij hj]
    exact (List.Sublist.refl _).append (List.sublist_append_right _ _)
  · intro d hd
    have hBoundary : isBoundary d = true := by
      rcases List.mem_append.mp (hSublist.subset hd) with hFront | hBehind
      · exact bordered.leading.forall_text d hFront
      · exact bordered.trailing.forall_text d hBehind
    cases hWord : isWord d with
    | false => rfl
    | true => rw [isBoundary_of_isWord hWord] at hBoundary; exact hBoundary.symm
  · rcases borders_of_removeWord_eq_nil ⟨p, q⟩ ⟨p, i⟩ ⟨i, j⟩ ⟨j, q⟩ hNil with hFront | hBehind
    · have hNone : ¬p < i := fun hLess => Span.text_ne_nil hLess (by omega) hFront
      exact .inl (bordered.front.resolve_left hNone)
    · have hNone : ¬j < q := fun hLess => Span.text_ne_nil hLess hTo hBehind
      refine .inr (.inr fun d hChar => ?_)
      rw [bordered.behind.resolve_left hNone, Array.getElem?_eq_none (Nat.le_refl _)] at hChar
      cases hChar

/-- A turn that removes a term only loosens its text, if the term is a bounded one or begins and ends
with word characters. -/
theorem Turn.loosens (ctx : PassContext) {u : Turn}
    (ht : Term.Prepared o ctx.replacer.settings u.term)
    (hRemove : ctx.replacer.settings.filterMethod = .remove)
    (hMethod : o.methodIn ctx.replacer.settings ≠ .regex)
    (hEdged : o.shapeIn ctx.replacer.settings = .plain → WordEdged o.text.toList) :
    ∀ e ∈ u.edits ctx, e.Loosens u.text := by
  intro e hEdit
  rw [u.edits_of_few (Replacer.choices_of_method (by simp [hRemove]) u.term)] at hEdit
  obtain ⟨m, hReplaced, rfl⟩ := List.mem_map.mp hEdit
  obtain ⟨c, hMem, hSplit, -⟩ := mem_replacedIn hReplaced
  have hReplacement : ctx.replacer.replacement u.term m u.text = removeWord m u.text := by
    rw [Replacer.replacement, hRemove]
  rw [PassContext.edit, hReplacement]
  cases hShape : o.shapeIn ctx.replacer.settings with
  | plain =>
      rw [Term.split_plain (ht.shape.trans hShape)] at hSplit
      obtain rfl := Option.some.inj hSplit
      exact ht.loosens_plain hRemove hMethod hShape (hEdged hShape) hMem
  | bounded =>
      obtain ⟨i, j, hParts, bordered⟩ := ht.bordered hMethod (fun _ => hRemove) hShape hMem
      rw [hParts] at hSplit
      obtain rfl := Option.some.inj hSplit
      exact bordered.loosens

end Removal

namespace Engine

/-- Removing terms only takes characters out of a text and never joins words, whatever words are
allowed: the characters of the filtered text stand in the text in the same order, and those that are
next to each other in a word of the filtered text are so in the text. -/
theorem expurgate_thins (c : Config) (selector : Selector) (before : List Operation)
    (text : String) (profile : ProfileId) (record : Bool) :
    let current := c.after before
    let s := current.settings
    let outcome := (((new c selector).after before).expurgate text profile record).1.outcome
    s.filterMethod = .remove →
    (∀ o ∈ current.terms, o.methodIn s ≠ .regex ∧
      (o.shapeIn s = .plain → WordEdged o.text.toList)) →
    ∃ place : Nat → Nat, Thinning text.toList outcome.filtered.toList place := by
  intro current s outcome hRemove hTerms
  refine expurgate_relates (R := fun l l' => ∃ place, Thinning l l' place)
    (fun l => ⟨id, .refl l⟩) ?_ c selector before text profile record ?_
  · rintro l l' l'' ⟨first, left⟩ ⟨second, right⟩
    exact ⟨first ∘ second, left.trans right⟩
  · intro u hMem
    let chooser := ((new c selector).after before).selector
    obtain ⟨o, ho, ht⟩ := Config.prepared_of_mem_turns hMem
    obtain ⟨hMethod, hEdged⟩ := hTerms o ho
    obtain ⟨order, hText⟩ := u.edits_inOrder (current.context chooser)
    obtain ⟨kept, hKept, keeps, -⟩ := exists_kept order
      (Turn.loosens (current.context chooser) ht hRemove hMethod hEdged)
    rw [hText]
    exact ⟨_, thinning_of_kept hKept keeps.chain⟩

/-- Two terms of either shape are taken out of a text, behind a hyphen and between points. -/
theorem expurgate_thins_mixed :
    let removing : Settings := { Settings.default with filterMethod := .remove }
    let c : Config := { Config.empty with
      settings := removing
      terms := [(TermOptions.ofText "damn").withMethod .whole, .ofText "бля"] }
    let outcome := ((new c (.fixed 0)).expurgate "well-damn damn.бля.x" .all true).1.outcome
    c.settings.filterMethod = .remove ∧
      (∀ o ∈ c.terms, o.methodIn c.settings ≠ .regex ∧
        (o.shapeIn c.settings = .plain → WordEdged o.text.toList)) ∧
      ∃ place : Nat → Nat,
        Thinning "well-damn damn.бля.x".toList outcome.filtered.toList place := by
  intro removing c outcome
  have hTerms : ∀ o ∈ c.terms, o.methodIn c.settings ≠ .regex ∧
      (o.shapeIn c.settings = .plain → WordEdged o.text.toList) := by
    refine List.forall_mem_cons.mpr ⟨⟨by decide, fun _ => wordEdged_iff.mpr (by decide)⟩,
      List.forall_mem_singleton.mpr ⟨by decide, fun hPlain => ?_⟩⟩
    cases hPlain
  exact ⟨rfl, hTerms, expurgate_thins c (.fixed 0) [] "well-damn damn.бля.x" .all true rfl hTerms⟩

end Engine

end Expurgate
