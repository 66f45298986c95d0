import Expurgate.Proofs.Term.Meaning

/-! Terms in their own texts. A term finds itself, as a single match of all its text, unless it has
to stand between word edges and a character at one of its ends counts as alphanumeric without being
part of a word. -/
namespace Expurgate

open Unicode

/-- The superscript digits and the fractions of Latin-1. They are numbers, but no part of a word. -/
def isBareNumber (c : Char) : Bool := ['²', '³', '¹', '¼', '½', '¾'].contains c

/-- In Latin-1 these are the only characters about which terms and word edges disagree. -/
theorem isWord_of_isEdgeWord {c : Char} (hLatin : c.toNat ≤ 0xFF) (hEdge : isEdgeWord c = true) :
    isWord c = !isBareNumber c := by
  have hCheck : ∀ n < 256, isEdgeWord (Char.ofNat n) = true →
      isWord (Char.ofNat n) = !isBareNumber (Char.ofNat n) := by decide +kernel
  have hChar := hCheck c.toNat (Nat.lt_succ_of_le hLatin)
  rw [Char.ofNat_toNat] at hChar
  exact hChar hEdge

/-- The pattern of a term asks for word edges. -/
def TermOptions.Anchored (o : TermOptions) (s : Settings) : Prop :=
  o.shapeIn s = .plain ∧ (o.methodIn s = .within → s.filterMethod = .remove)

/-- The search through the text of the term gives one match, and its content is all of the text. -/
def Term.FindsItself (t : Term) : Prop :=
  ∃ c m, t.occurrences t.text.toList.toArray = [c] ∧ t.split c = some m ∧
    m.content = ⟨0, t.text.toList.length⟩

section Edges

variable {l : List Char}

/-- A text begins at the edge of a word exactly if it begins with a word character, as there is
nothing in front of it. -/
theorem holds_wordEdge_zero :
    Look.wordEdge.holds isWord l.toArray 0 = true ↔ ∃ c ∈ l.head?, isWord c = true := by
  cases l <;> simp [Look.holds, charBefore]

theorem holds_wordEdge_size :
    Look.wordEdge.holds isWord l.toArray l.length = true ↔ ∃ c ∈ l.getLast?, isWord c = true := by
  cases l with
  | nil => simp [Look.holds, charBefore]
  | cons c rest => simp [Look.holds, charBefore, List.getLast?_eq_getElem?]

/-- In its own text a term has nothing around it that it could be embedded in. -/
theorem embeds_self_iff {shape : Shape} :
    shape.Embeds l.toArray 0 l.length ↔ shape.Admits l.toArray 0 l.length := by
  constructor
  · rintro ⟨i', j', headRun, tailRun, hAdmits⟩
    have hStart : i' = 0 := Nat.le_zero.mp headRun.le
    have hStop : j' = l.length := by
      apply Nat.le_antisymm
      · exact tailRun.le_size (Nat.le_of_eq List.size_toArray.symm)
      · exact tailRun.le
    rwa [hStart, hStop] at hAdmits
  · intro hAdmits
    exact ⟨0, l.length, .refl 0, .refl l.length, hAdmits⟩

/-- As a text of its own, a word has no character on either side, so the bounded shape always admits
it. Only the plain shape can fail to. -/
theorem admits_bounded_self : Shape.bounded.Admits l.toArray 0 l.length :=
  ⟨.inl rfl, .inl List.size_toArray.symm⟩

/-- A text in plain shape is taken for a word exactly if no bare number stands at its ends. -/
theorem admits_plain_self_iff (hText : l ≠ []) (hShape : Shape.ofText l = .plain) :
    Shape.plain.Admits l.toArray 0 l.length ↔
      ∀ c, c ∈ l.head? ∨ c ∈ l.getLast? → isBareNumber c = false := by
  have hEdges : hasNonLatin l = false ∧ hasEdgePunctuation l = false := by
    simpa [Shape.ofText] using hShape
  have hLatin {c : Char} (hc : c ∈ l) : c.toNat ≤ 0xFF := by
    simpa using List.any_eq_false.mp hEdges.1 c hc
  have hPunctuation := hEdges.2
  rw [hasEdgePunctuation, Bool.or_eq_false_iff] at hPunctuation
  have hc : l.head? = some (l.head hText) := List.head?_eq_some_head hText
  have hd : l.getLast? = some (l.getLast hText) := List.getLast?_eq_some_getLast hText
  revert hc hd
  generalize l.head hText = c, l.getLast hText = d
  intro hc hd
  have hcWord : isWord c = !isBareNumber c :=
    isWord_of_isEdgeWord (hLatin (List.mem_of_mem_head? hc)) (by simpa [hc] using hPunctuation.1)
  have hdWord : isWord d = !isBareNumber d :=
    isWord_of_isEdgeWord (hLatin (List.mem_of_mem_getLast? hd)) (by simpa [hd] using hPunctuation.2)
  rw [Shape.Admits, holds_wordEdge_zero, holds_wordEdge_size, hc, hd]
  simp [or_imp, forall_and, hcWord, hdWord]

end Edges

namespace TermOptions

variable {o : TermOptions} {s : Settings}

/-- The text of a term suits the term as a whole if the method allows it to stand alone. -/
theorem suits_self_iff : o.Suits s o.text.toList.toArray 0 o.text.toList.length ↔
    (o.methodIn s).Demands (o.shapeIn s) (s.filterMethod = .remove) o.text.toList.toArray 0
      o.text.toList.length := by
  have hSize : o.text.toList.toArray.size = o.text.toList.length := List.size_toArray
  refine ⟨fun suits => suits.demands, fun demands => ⟨Nat.zero_le _, Nat.le_of_eq hSize.symm, ?_,
    demands⟩⟩
  rw [← hSize, Span.text_zero_size]
  exact .self _ _ _

/-- A stretch that suits a term is all of a text that is as long as the term. -/
theorem Suits.eq_all (hText : o.text.toList ≠ []) {h : Array Char}
    (hSize : h.size = o.text.toList.length) {i j : Nat} (suits : o.Suits s h i j) :
    i = 0 ∧ j = o.text.toList.length := by
  have hLong := suits.spells.length_le
  have hTo := suits.le_size
  have hSome := List.length_pos_iff.mpr hText
  rw [Span.length_text hTo] at hLong
  omega

/-- Only a term that asks for word edges can fail to suit its own text. -/
theorem demands_self_iff (hMethod : o.methodIn s ≠ .regex) :
    (o.methodIn s).Demands (o.shapeIn s) (s.filterMethod = .remove) o.text.toList.toArray 0
        o.text.toList.length ↔
      (o.Anchored s → Shape.plain.Admits o.text.toList.toArray 0 o.text.toList.length) := by
  have hBounded := @admits_bounded_self o.text.toList
  rw [Anchored]
  cases hMatch : o.methodIn s with
  | regex => exact absurd hMatch hMethod
  | exact => cases o.shapeIn s <;> simp [MatchMethod.Demands, hBounded]
  | whole => cases o.shapeIn s <;> simp [MatchMethod.Demands, embeds_self_iff, hBounded]
  | within => cases o.shapeIn s <;> simp [MatchMethod.Demands, embeds_self_iff, hBounded]

end TermOptions

namespace Term

variable {o : TermOptions} {s : Settings} {t : Term}

section Whole

variable (ht : Prepared o s t) (hMethod : o.methodIn s ≠ .regex) {h : Array Char}
  (hSize : h.size = t.text.toList.length)
include ht hMethod hSize

/-- A match in a text that is as long as the term has all of the text for its content. -/
theorem Prepared.eq_all {c : Captures} (hMem : c ∈ t.occurrences h) :
    c.start = 0 ∧ c.stop = t.text.toList.length ∧
      ∃ m, t.split c = some m ∧ m.content = ⟨0, t.text.toList.length⟩ := by
  have hText := ht.toList_ne_nil
  obtain ⟨m, i, j, covers⟩ := ht.exists_covers hMem hMethod
  have hStart := covers.start_le
  have hContent := covers.content_le
  have hContent' := covers.le_content
  have hStop := covers.le_stop
  have hTo := covers.le_size
  rw [ht.text] at hSize ⊢
  obtain ⟨hi, hj⟩ := covers.suits.eq_all hText hSize
  refine ⟨by omega, by omega, m, covers.split, ?_⟩
  cases hSpan : m.content with
  | mk start stop =>
      rw [hSpan] at hStart hContent hContent' hStop
      dsimp only at hStart hContent hContent' hStop
      congr 1 <;> omega

/-- There cannot be two of them. -/
theorem Prepared.occurrences_eq_singleton (hSome : t.occurrences h ≠ []) :
    ∃ c m, t.occurrences h = [c] ∧ t.split c = some m ∧
      m.content = ⟨0, t.text.toList.length⟩ := by
  have hLength := List.length_pos_iff.mpr ht.toList_ne_nil
  rw [← ht.text] at hLength
  obtain ⟨c, hMem⟩ := List.exists_mem_of_ne_nil _ hSome
  obtain ⟨-, -, m, hSplit, hContent⟩ := ht.eq_all hMethod hSize hMem
  refine ⟨c, m, t.program.successive_findAll.eq_singleton hMem 0 fun d hd => ?_, hSplit,
    hContent⟩
  -- Another match would begin behind this one, at the end of the text, but every match begins at 0.
  obtain ⟨hStart, hStop, -⟩ := ht.eq_all hMethod hSize hd
  exact ⟨Nat.le_of_eq hStart, by rwa [hStop]⟩

end Whole

/-- One match in its own text is enough for a term to find itself. -/
theorem Prepared.findsItself_of_mem (ht : Prepared o s t) (hMethod : o.methodIn s ≠ .regex)
    (hSome : t.occurrences t.text.toList.toArray ≠ []) : t.FindsItself :=
  ht.occurrences_eq_singleton hMethod List.size_toArray hSome

/-- A term finds itself if and only if its own text suits it from end to end. A match of the text
cannot leave any of it out. -/
theorem Prepared.findsItself_iff_suits (ht : Prepared o s t) (hMethod : o.methodIn s ≠ .regex) :
    t.FindsItself ↔ o.Suits s o.text.toList.toArray 0 o.text.toList.length := by
  have hText := ht.toList_ne_nil
  constructor
  · rintro ⟨c, m, hAll, -, -⟩
    have hSome : t.occurrences o.text.toList.toArray ≠ [] := by
      rw [← ht.text, hAll]
      exact List.cons_ne_nil c []
    obtain ⟨i, j, suits⟩ := (ht.occurrences_ne_nil_iff hMethod).mp hSome
    obtain ⟨rfl, rfl⟩ := suits.eq_all hText List.size_toArray
    exact suits
  · intro suits
    apply ht.findsItself_of_mem hMethod
    rw [ht.text]
    exact ht.occurrences_ne_nil hMethod suits

/-- A term finds itself unless it asks for word edges and begins or ends with a number that is no
part of a word. -/
theorem findsItself_iff (hCompile : compile o s = .ok t) (hMethod : o.methodIn s ≠ .regex) :
    t.FindsItself ↔ ¬(o.Anchored s ∧
      ∃ c, (c ∈ o.text.toList.head? ∨ c ∈ o.text.toList.getLast?) ∧ isBareNumber c = true) := by
  have ht := prepared_of_compile hCompile
  have hText := ht.toList_ne_nil
  rw [ht.findsItself_iff_suits hMethod, TermOptions.suits_self_iff,
    TermOptions.demands_self_iff hMethod, not_and]
  refine forall_congr' fun hAnchored => ?_
  have hShape : Shape.ofText o.text.toList = .plain := by
    have hPlain := hAnchored.1
    rwa [TermOptions.shapeIn, if_neg hMethod] at hPlain
  rw [admits_plain_self_iff hText hShape]
  simp

/-- A square metre does not find itself: the square is a number, but there is no word edge behind
it. -/
theorem findsItself_iff_squared : ∃ t, compile (.ofText "m²") .default = .ok t ∧
    TermOptions.methodIn (.ofText "m²") .default ≠ .regex ∧ ¬t.FindsItself := by
  obtain ⟨t, ht⟩ := @exists_compile (.ofText "m²") .default (by decide) (by decide) (by decide)
  refine ⟨t, ht, by decide, fun hFinds => ?_⟩
  refine (findsItself_iff ht (by decide)).mp hFinds ⟨⟨by decide, nofun⟩, '²', ?_, by decide⟩
  exact .inr (by decide)

end Term

end Expurgate
