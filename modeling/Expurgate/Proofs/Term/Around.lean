import Expurgate.Proofs.Term.Whole

/-! The token that a pattern finds around a stretch of a text. A plain pattern finds the one token
that is there, a bounded one may be kept from it by the token in front. -/
namespace Expurgate

open Unicode Regex

variable {h : Array Char} {word : List Char} {i j : Nat}

theorem joins_of_isSpace {c : Char} (hSpace : isSpace c = true) : Shape.plain.joins c = false := by
  have hHyphen : c ≠ '-' := by
    rintro rfl
    revert hSpace
    decide
  simp [Shape.joins, isWord_of_isSpace hSpace, hHyphen]

/-- A word between white space is a token. -/
theorem Delimited.isToken (hDelimited : Delimited h i j) : IsToken h ⟨i, j⟩ := by
  have hLess := hDelimited.lt
  have longest : LongestRun Shape.plain.joins h i j := by
    refine ⟨hDelimited.word.joins, fun c hBefore => ?_, fun c hChar => ?_⟩
    · rcases hDelimited.before with rfl | ⟨d, hSome, hSpace⟩
      · cases hBefore
      · rw [← Option.some.inj (hSome.symm.trans hBefore)]
        exact joins_of_isSpace hSpace
    · rcases hDelimited.after with rfl | ⟨d, hSome, hSpace⟩
      · simp at hChar
      · rw [← Option.some.inj (hSome.symm.trans hChar)]
        exact joins_of_isSpace hSpace
  refine ⟨⟨i, j, longest, .refl i, .refl j⟩, hLess, ?_, ?_⟩
  · exact ne_hyphen_of_isWord (hDelimited.word.head hLess).1
  · apply ne_hyphen_of_isWord
    rw [charBefore, if_neg (by dsimp only; omega)]
    exact hDelimited.word.each (j - 1) (by omega) (by omega)

namespace TokenPattern

/-- A plain pattern finds the token around each stretch that spells the word it was built for, since
every token that spells the word is a match, and no other match is around the stretch. -/
theorem enclosing_token {p : TokenPattern} {s : Span} (hShape : p.shape = .plain)
    (hProgram : p.program = (plainToken word).program) (hWord : ∀ d ∈ word, isWord d = true)
    (token : IsToken h s) (hFrom : s.start ≤ i) (hTo : j ≤ s.stop) (hLess : i < j)
    (hEq : FoldEq word (Span.text ⟨i, j⟩ h)) : p.enclosing ⟨i, j⟩ h = some s := by
  have hNonempty := ne_nil_of_foldEq hLess (Nat.le_trans hTo token.le_size) hEq
  obtain ⟨c, hMem, rfl⟩ := (mem_findAll_wholeWord_iff hNonempty hWord).mpr
    ⟨token, i, j, hFrom, Nat.le_of_lt hLess, hTo, spells_iff_foldEq.mpr hEq⟩
  have hSpan (x : Captures) : p.token? x = some ⟨x.start, x.stop⟩ := by rw [token?, hShape]
  have hMem' : c ∈ p.program.findAll h := by
    rw [hProgram]
    exact hMem
  apply enclosing_eq hMem' (hSpan c) hFrom hTo
  intro x hx hStop s' hs'
  rw [hSpan x] at hs'
  obtain rfl := Option.some.inj hs'
  have := p.program.successive_findAll.le_of_mem hx
  dsimp only at *
  omega

/-- The pattern for a word of Latin-1 finds the token around each place where the word stands. -/
theorem bind_enclosing (hWord : ∀ d ∈ word, isWord d = true)
    (hLatin : ∀ d ∈ word, d.toNat ≤ 0xFF) {s : Span} (token : IsToken h s) (hFrom : s.start ≤ i)
    (hTo : j ≤ s.stop) (hLess : i < j) (hText : Span.text ⟨i, j⟩ h = word) :
    (build word).bind (·.enclosing ⟨i, j⟩ h) = if (build word).isSome then some s else none := by
  cases hBuild : build word with
  | none => rfl
  | some p =>
      obtain ⟨hShape, hProgram⟩ := build_eq_some hBuild
      rw [Shape.ofText_eq_plain hLatin (fun d hd => hWord d (List.mem_of_mem_head? hd))
        fun d hd => hWord d (List.mem_of_mem_getLast? hd)] at hShape
      rw [hShape] at hProgram
      have hSame : FoldEq word (Span.text ⟨i, j⟩ h) := by
        rw [hText]
        exact .refl word
      exact enclosing_token hShape hProgram hWord token hFrom hTo hLess hSame

end TokenPattern

section Around

variable {repeated separators : Bool} {l : List Char} {h : Array Char} {i j a b : Nat}
  (hDelimited : Delimited h i j) (hLeft : i ≤ a) (hRight : b ≤ j) (hLess : a < b)
  (hWord : ∀ c ∈ l, isWord c = true) (hReach : Reachable repeated separators l h i)
include hDelimited hLeft hRight hLess hWord hReach

/-- The pattern for a word that a term matched finds the word around each equal stretch. -/
theorem TokenPattern.enclosing_of_found {word : List Char}
    (found : Found repeated separators l h word) (hEq : FoldEq word (Span.text ⟨a, b⟩ h))
    {p : TokenPattern} (hBuild : build word = some p) : p.enclosing ⟨a, b⟩ h = some ⟨i, j⟩ := by
  obtain ⟨hShape, hProgram⟩ := build_eq_some hBuild
  cases hKind : p.shape with
  | plain =>
      rw [hKind] at hProgram
      exact enclosing_token hKind hProgram
        (isWord_of_mem_word hDelimited hLeft hRight hLess hEq) hDelimited.isToken hLeft hRight hLess
        hEq
  | bounded =>
      rw [hKind, Regex.ofPhrase_whole_bounded] at hProgram
      rcases hReach with hLatin | ⟨hFree, -⟩
      · rw [hShape, found.shape_eq hLatin hWord] at hKind
        cases hKind
      · refine enclosing_of_bounded hDelimited hLeft hRight hLess hEq hKind hProgram ?_
        intro k x y run token hy hSame
        exact hFree k x y run token hy (found.spells.of_foldEq hSame)

/-- Whatever matches of the term the patterns in a cache were built for, the word around a match is
found as long as a pattern for it can be built. -/
theorem TokenCache.BuiltFor.enclosing_of_found {cache : TokenCache}
    (hBuilt : cache.BuiltFor (Found repeated separators l h))
    (found : Found repeated separators l h (Span.text ⟨a, b⟩ h))
    (hBuild : ∀ word, FoldEq word (Span.text ⟨a, b⟩ h) → (TokenPattern.build word).isSome) :
    (cache.enclosing (Span.text ⟨a, b⟩ h) ⟨a, b⟩ h).1 = some ⟨i, j⟩ := by
  have hSize := hDelimited.le_size
  have hNonempty := Span.text_ne_nil (h := h) hLess (by omega)
  obtain ⟨-, word, found', hKey, hToken⟩ := hBuilt.enclosing found hNonempty ⟨a, b⟩ h
  have hEq := found.foldEq found' hReach hKey
  obtain ⟨p, hp⟩ := Option.isSome_iff_exists.mp (hBuild word hEq)
  rw [hToken, hp]
  exact TokenPattern.enclosing_of_found hDelimited hLeft hRight hLess hWord hReach found' hEq hp

end Around

end Expurgate
