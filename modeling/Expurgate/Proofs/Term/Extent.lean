import Expurgate.Proofs.Term.Removed

/-! What the matches of a term take up where the term is not removed, and of which characters a
match can never cover one. -/
namespace Expurgate

open Unicode

/-- What a match takes up, part by part: boundaries, the rest of a word or token, a spelling of the
term, and the same behind it. Only whole words and tokens have a rest, and only in the bounded shape
there are boundaries. -/
structure TermOptions.Takes (o : TermOptions) (s : Settings) (h : Array Char) (p i' i j j' q : Nat) :
    Prop where
  leading : Regex.Run isBoundary h p i'
  head : Regex.Run (o.shapeIn s).joins h i' i
  le : i ≤ j
  spells : Spells (o.repeatedIn s) (o.separatorsIn s) o.text.toList (Span.text ⟨i, j⟩ h)
  tail : Regex.Run (o.shapeIn s).joins h j j'
  trailing : Regex.Run isBoundary h j' q
  le_size : q ≤ h.size
  bare : o.methodIn s ≠ .whole → i' = i ∧ j' = j
  unbounded : o.shapeIn s = .plain ∨ o.methodIn s = .within → p = i' ∧ q = j'
  admits : o.methodIn s ≠ .within → (o.shapeIn s).Admits h i' j'

/-- A stretch that a match of the term may take up. -/
def TermOptions.Occupies (o : TermOptions) (s : Settings) (h : Array Char) (p q : Nat) : Prop :=
  ∃ i' i j j', o.Takes s h p i' i j j' q

/-- A character that a match of the term may cover. -/
def TermOptions.Reads (o : TermOptions) (s : Settings) (d : Char) : Prop :=
  (∃ c ∈ o.text.toList, sameFold c d = true) ∨
    (o.separatorsIn s = true ∧ isSeparator d = true) ∨
    (o.methodIn s = .whole ∧ (o.shapeIn s).joins d = true) ∨
    (o.shapeIn s = .bounded ∧ o.methodIn s ≠ .within ∧ isBoundary d = true)

/-- In some text that has this part, a match of the term may cover a character of it. -/
def TermOptions.Exposed (o : TermOptions) (s : Settings) (part : List Char) : Prop :=
  ∃ before after n p q, n < part.length ∧
    o.Occupies s (before ++ part ++ after).toArray p q ∧
    p ≤ before.length + n ∧ before.length + n < q

variable {o : TermOptions} {s : Settings} {h : Array Char} {p q k : Nat} {d : Char}

/-- Between its borders the content of a bounded match stands where the shape admits it. -/
theorem Bordered.admits {i j : Nat} (bordered : Bordered h p i j q) :
    Shape.bounded.Admits h i j := by
  have hp := bordered.leading.le
  have hq := bordered.trailing.le
  constructor
  · rcases Nat.eq_or_lt_of_le hp with hSame | hLess
    · exact .inl (hSame.symm.trans (bordered.front.resolve_left (by omega)))
    · refine .inr ?_
      rw [charBefore, if_neg (by omega)]
      exact bordered.leading.each (i - 1) (by omega) (by omega)
  · rcases Nat.eq_or_lt_of_le hq with hSame | hLess
    · exact .inl (hSame.trans (bordered.behind.resolve_left (by omega)))
    · exact .inr (bordered.trailing.each j (Nat.le_refl j) hLess)

/-- What is spelled in a match suits the term. -/
theorem TermOptions.Takes.suits {i' i j j' : Nat} (takes : o.Takes s h p i' i j j' q)
    (hKeep : s.filterMethod ≠ .remove) (hMethod : o.methodIn s ≠ .regex) : o.Suits s h i j := by
  have hTo := Nat.le_trans takes.tail.le (Nat.le_trans takes.trailing.le takes.le_size)
  refine ⟨takes.le, hTo, takes.spells, ?_⟩
  cases hKind : o.methodIn s with
  | regex => exact absurd hKind hMethod
  | exact =>
      obtain ⟨rfl, rfl⟩ := takes.bare (by simp [hKind])
      exact takes.admits (by simp [hKind])
  | within =>
      intro hRemove
      exact absurd (of_decide_eq_true hRemove) hKeep
  | whole => exact ⟨i', j', takes.head, takes.tail, takes.admits (by simp [hKind])⟩

/-- A match covers only characters that the term reads. -/
theorem TermOptions.Occupies.reads (occupies : o.Occupies s h p q) (hFrom : p ≤ k) (hTo : k < q)
    (hChar : h[k]? = some d) : o.Reads s d := by
  obtain ⟨i', i, j, j', takes⟩ := occupies
  have hKind {kind : Char → Bool} {a b : Nat} (run : Regex.Run kind h a b) (hLeft : a ≤ k)
      (hRight : k < b) : kind d = true := by
    obtain ⟨c, hc, hKind⟩ := run.each k hLeft hRight
    rw [hChar] at hc
    rwa [Option.some.inj hc]
  have hRest (hOutside : i' ≠ i ∨ j' ≠ j) : o.methodIn s = .whole := by
    by_contra hNot
    have := takes.bare hNot
    omega
  have hBorder (hOutside : p ≠ i' ∨ q ≠ j') :
      o.shapeIn s = .bounded ∧ o.methodIn s ≠ .within := by
    have hNot : ¬(o.shapeIn s = .plain ∨ o.methodIn s = .within) := fun hEither => by
      have := takes.unbounded hEither
      omega
    obtain ⟨hShape, hMethod⟩ := not_or.mp hNot
    cases hKind : o.shapeIn s with
    | plain => exact absurd hKind hShape
    | bounded => exact ⟨rfl, hMethod⟩
  rcases Nat.lt_or_ge k i' with hLeading | hk
  · obtain ⟨hShape, hMethod⟩ := hBorder (.inl (by omega))
    exact .inr (.inr (.inr ⟨hShape, hMethod, hKind takes.leading hFrom hLeading⟩))
  rcases Nat.lt_or_ge k i with hHead | hk
  · exact .inr (.inr (.inl ⟨hRest (.inl (by omega)), hKind takes.head (by omega) hHead⟩))
  rcases Nat.lt_or_ge k j with hSpelled | hk
  · have hMem : d ∈ Span.text ⟨i, j⟩ h := by
      refine List.mem_iff_getElem?.mpr ⟨k - i, ?_⟩
      rw [Span.getElem?_text _ (by omega), Nat.add_sub_cancel' (by omega), hChar]
    rcases takes.spells.mem_cases d hMem with hLetter | hSeparator
    · exact .inl hLetter
    · exact .inr (.inl hSeparator)
  rcases Nat.lt_or_ge k j' with hTail | hk
  · exact .inr (.inr (.inl ⟨hRest (.inr (by omega)), hKind takes.tail (by omega) hTail⟩))
  · obtain ⟨hShape, hMethod⟩ := hBorder (.inr (by omega))
    exact .inr (.inr (.inr ⟨hShape, hMethod, hKind takes.trailing hk hTo⟩))

/-- A part is exposed to a term only if the term reads one of its characters. -/
theorem TermOptions.Exposed.exists_reads {part : List Char} (exposed : o.Exposed s part) :
    ∃ d ∈ part, o.Reads s d := by
  obtain ⟨before, after, n, p, q, hn, occupies, hFrom, hTo⟩ := exposed
  refine ⟨part[n], List.getElem_mem hn, occupies.reads hFrom hTo ?_⟩
  rw [List.getElem?_toArray, List.append_assoc, List.getElem?_append_right (by omega),
    Nat.add_sub_cancel_left, List.getElem?_append_left hn, List.getElem?_eq_getElem hn]

namespace Term

variable {t : Term} {c : Captures}

section Kept

variable (ht : Prepared o s t) (hKeep : s.filterMethod ≠ .remove)
  (hMethod : o.methodIn s ≠ .regex) (hMem : c ∈ t.occurrences h)
include ht hKeep hMethod hMem

/-- A plain match occupies what it matches, and has word edges at its ends. -/
theorem Prepared.occupies_plain (hShape : o.shapeIn s = .plain)
    (hWithin : o.methodIn s ≠ .within) : o.Occupies s h c.start c.stop := by
  rw [occurrences, ht.program_eq hMethod] at hMem
  obtain ⟨hFrom, way⟩ := Regex.prefers_of_mem_findAll (o.productive_expression s) hMem
  have hTo := way.matches.1.le_size hFrom
  have hMatches := way.matches.1
  rw [TermOptions.expression, hShape, decide_eq_false hKeep] at hMatches
  cases hKind : o.methodIn s with
  | regex => exact absurd hKind hMethod
  | within => exact absurd hKind hWithin
  | exact =>
      rw [hKind] at hMatches
      obtain ⟨hAdmits, inner⟩ := Regex.matches_edges_iff.mp hMatches
      have spells := ((Regex.matches_phrase_iff inner.le hTo).mp inner).1
      exact ⟨c.start, c.start, c.stop, c.stop, .refl _, .refl _, inner.le, spells, .refl _, .refl _,
        hTo, fun _ => ⟨rfl, rfl⟩, fun _ => ⟨rfl, rfl⟩, fun _ => hShape ▸ hAdmits⟩
  | whole =>
      rw [hKind] at hMatches
      obtain ⟨hAdmits, inner⟩ := Regex.matches_wholeWord_iff.mp hMatches
      obtain ⟨⟨i, j, head, hLe, spells, tail⟩, -⟩ := (Regex.matches_filled_iff hTo).mp inner
      exact ⟨c.start, i, j, c.stop, .refl _, hShape ▸ head, hLe, spells, hShape ▸ tail, .refl _,
        hTo, fun hNot => absurd hKind hNot, fun _ => ⟨rfl, rfl⟩, fun _ => hShape ▸ hAdmits⟩

/-- A bounded match occupies its token, with a boundary or the end of the text on either side. -/
theorem Prepared.occupies_bounded (hShape : o.shapeIn s = .bounded)
    (hWithin : o.methodIn s ≠ .within) : o.Occupies s h c.start c.stop := by
  have hProductive := o.productive_expression s
  rw [occurrences, ht.program_eq hMethod] at hMem
  rw [TermOptions.expression, hShape, decide_eq_false hKeep] at hMem hProductive
  have hOpen : ¬(o.shapeIn s = .plain ∨ o.methodIn s = .within) := by simp [hShape, hWithin]
  let phrase := Regex.phrase (o.repeatedIn s) (o.separatorsIn s) o.text.toList
  have hBare : ∀ r ∈ phrase, r.Bare := fun _ => Regex.bare_of_mem_phrase
  cases hKind : o.methodIn s with
  | regex => exact absurd hKind hMethod
  | within => exact absurd hKind hWithin
  | exact =>
      rw [hKind] at hMem hProductive
      obtain ⟨i, j, -, inner, bordered⟩ := Regex.bordered_of_between hBare hProductive hMem
      have hTo := Nat.le_trans bordered.trailing.le bordered.le_size
      have spells := ((Regex.matches_phrase_iff inner.le hTo).mp inner).1
      exact ⟨i, i, j, j, bordered.leading, .refl _, inner.le, spells, .refl _, bordered.trailing,
        bordered.le_size, fun _ => ⟨rfl, rfl⟩, fun hNot => absurd hNot hOpen,
        fun _ => hShape ▸ bordered.admits⟩
  | whole =>
      rw [hKind, show Regex.ofPhrase .whole .bounded false phrase =
        Regex.between (Regex.filled .bounded phrase) from rfl] at hMem hProductive
      obtain ⟨i', j', -, inner, bordered⟩ :=
        Regex.bordered_of_between (Regex.bare_of_mem_filled hBare) hProductive hMem
      have hTo := Nat.le_trans bordered.trailing.le bordered.le_size
      obtain ⟨⟨i, j, head, hLe, spells, tail⟩, -⟩ := (Regex.matches_filled_iff hTo).mp inner
      exact ⟨i', i, j, j', bordered.leading, hShape ▸ head, hLe, spells, hShape ▸ tail,
        bordered.trailing, bordered.le_size, fun hNot => absurd hKind hNot,
        fun hNot => absurd hNot hOpen, fun _ => hShape ▸ bordered.admits⟩

/-- What the matches of a term that is not removed take up. -/
theorem Prepared.occupies : o.Occupies s h c.start c.stop := by
  by_cases hWithin : o.methodIn s = .within
  · obtain ⟨hLe, hTo, spells, -⟩ := ht.within_parts hWithin hKeep hMem
    rw [ht.repeated, ht.separators, ht.text] at spells
    exact ⟨c.start, c.start, c.stop, c.stop, .refl _, .refl _, hLe, spells, .refl _, .refl _, hTo,
      fun _ => ⟨rfl, rfl⟩, fun _ => ⟨rfl, rfl⟩, fun hNot => absurd hWithin hNot⟩
  · cases hShape : o.shapeIn s with
    | plain => exact ht.occupies_plain hKeep hMethod hMem hShape hWithin
    | bounded => exact ht.occupies_bounded hKeep hMethod hMem hShape hWithin

end Kept

/-- Where no boundaries and no rest of a word are taken along, some match covers the beginning of
every stretch that suits the term. -/
theorem Prepared.exists_overlap (ht : Prepared o s t) (hKeep : s.filterMethod ≠ .remove)
    (hBare : o.methodIn s = .within ∨ o.methodIn s = .exact ∧ o.shapeIn s = .plain) {i j : Nat}
    (suits : o.Suits s h i j) : ∃ c ∈ t.occurrences h, c.start ≤ i ∧ i < c.stop := by
  rcases hBare with hWithin | ⟨hExact, hShape⟩
  · refine ht.exists_within hWithin hKeep suits.le suits.le_size ?_
    rw [ht.repeated, ht.separators, ht.text]
    exact suits.spells
  · have hText := ht.toList_ne_nil
    have hDemands := suits.demands
    rw [hExact, hShape] at hDemands
    rw [occurrences, ht.program_eq (by simp [hExact]), TermOptions.expression, hExact, hShape]
    exact Regex.exists_mem_findAll
      (Regex.productive_ofPhrase (fun _ => Regex.productive_of_mem_phrase) _ _ _)
      (Regex.consumes_exact .plain hText)
      (Regex.matches_of_plain suits.le suits.le_size suits.spells hDemands)
      (Nat.le_trans suits.le suits.le_size)

end Term

end Expurgate
