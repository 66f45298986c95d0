import Expurgate.Proofs.Term.Token

/-! The token around a match of a term that matches inside words. Its pattern may have been built for
an earlier match that is equal to this one in lower case, so this says when the earlier pattern does
as well. -/
namespace Expurgate

open Unicode

namespace TokenCache

variable {P : List Char → Prop} {cache : TokenCache} {word : List Char}

/-- Every pattern was built for one of certain words and is kept under the lower case of its word. -/
def BuiltFor (P : List Char → Prop) (cache : TokenCache) : Prop :=
  ∀ entry ∈ cache.entries, ∃ word, P word ∧
    entry = (toLower (String.ofList word), TokenPattern.build word)

theorem builtFor_empty : empty.BuiltFor P := by
  intro entry hMem
  cases hMem

/-- The pattern for a word is one that was built for a word with the same lower case. It was found
in the cache, or it is new. -/
theorem BuiltFor.pattern (hBuilt : cache.BuiltFor P) (hWord : P word) :
    (cache.pattern word).2.BuiltFor P ∧ ∃ word', P word' ∧
      toLower (String.ofList word') = toLower (String.ofList word) ∧
      (cache.pattern word).1 = TokenPattern.build word' := by
  simp only [TokenCache.pattern]
  split
  · rename_i key p hFind
    obtain ⟨word', hWord', hEntry⟩ := hBuilt _ (List.mem_of_find?_eq_some hFind)
    obtain ⟨rfl, rfl⟩ := Prod.mk.inj hEntry
    have hKey : toLower (String.ofList word') = toLower (String.ofList word) := by
      simpa using List.find?_some hFind
    exact ⟨hBuilt, word', hWord', hKey, rfl⟩
  · refine ⟨?_, word, hWord, rfl, rfl⟩
    intro entry hMem
    rcases List.mem_cons.mp hMem with rfl | hOld
    · exact ⟨word, hWord, rfl⟩
    · exact hBuilt entry hOld

/-- The same of the token that is found with it. The other word is one of those that the cache is
for, which is what bounds how far the two may differ. -/
theorem BuiltFor.enclosing (hBuilt : cache.BuiltFor P) (hWord : P word) (hNonempty : word ≠ [])
    (range : Span) (h : Array Char) : (cache.enclosing word range h).2.BuiltFor P ∧
      ∃ word', P word' ∧ toLower (String.ofList word') = toLower (String.ofList word) ∧
        (cache.enclosing word range h).1 =
          (TokenPattern.build word').bind (·.enclosing range h) := by
  obtain ⟨hAfter, word', hWord', hKey, hPattern⟩ := hBuilt.pattern hWord
  have hFull : word.isEmpty = false := by simpa using hNonempty
  rw [TokenCache.enclosing, hFull]
  refine ⟨hAfter, word', hWord', hKey, ?_⟩
  rw [← hPattern]
  rfl

/-- A token encloses the range that was asked about. -/
theorem enclosing_bounds {range s : Span} {h : Array Char}
    (hToken : (cache.enclosing word range h).1 = some s) :
    s.start ≤ range.start ∧ range.stop ≤ s.stop := by
  rw [TokenCache.enclosing] at hToken
  split at hToken
  · cases hToken
  · obtain ⟨p, -, hFound⟩ := Option.bind_eq_some_iff.mp hToken
    exact p.enclosing_bounds hFound

end TokenCache

/-- The words that a term can match in a text. -/
structure Found (repeated separators : Bool) (l : List Char) (h : Array Char) (word : List Char) :
    Prop where
  spells : Spells repeated separators l word
  mem : ∀ d ∈ word, d ∈ h.toList

/-- No character beyond Latin-1 in a text is one of the term's in another case. -/
def LatinOnly (l : List Char) (h : Array Char) : Prop :=
  ∀ c ∈ l, ∀ d ∈ h.toList, sameFold c d = true → d.toNat ≤ 0xFF

/-- The token in front of a place, with nothing but boundaries between them, does not hold the
term. -/
def FreeBefore (repeated separators : Bool) (l : List Char) (h : Array Char) (i : Nat) : Prop :=
  ∀ k x y, Regex.Run isBoundary h k i → Regex.Run (!isBoundary ·) h x k → y ≤ k →
    ¬Spells repeated separators l (Span.text ⟨x, y⟩ h)

/-- Lower case tells the words that a term can match apart, up to case. -/
def KeysApart (repeated separators : Bool) (l : List Char) : Prop :=
  'İ' ∉ l ∨ (repeated = false ∧ separators = false)

/-- When the token around a match in a word that begins at a place is sure to be this word. -/
def Reachable (repeated separators : Bool) (l : List Char) (h : Array Char) (i : Nat) : Prop :=
  LatinOnly l h ∨ (FreeBefore repeated separators l h i ∧ KeysApart repeated separators l)

/-- Only at its ends a text of Latin-1 could need boundaries. -/
theorem Shape.ofText_eq_plain {word : List Char} (hLatin : ∀ d ∈ word, d.toNat ≤ 0xFF)
    (hHead : ∀ d ∈ word.head?, isWord d = true) (hLast : ∀ d ∈ word.getLast?, isWord d = true) :
    Shape.ofText word = .plain := by
  have hEdge {d : Char} (hd : d ∈ word) (hKind : isWord d = true) : isEdgeWord d = true := by
    rcases latin_word hKind (hLatin d hd) with hLetter | rfl
    · simp [isEdgeWord, hLetter]
    · simp [isEdgeWord]
  have hNonLatin : hasNonLatin word = false := by simpa [hasNonLatin] using hLatin
  have hPunctuation : hasEdgePunctuation word = false := by
    simp only [hasEdgePunctuation, Bool.or_eq_false_iff, Option.any_eq_false]
    constructor
    · intro d hd
      simpa using hEdge (List.mem_of_mem_head? hd) (hHead d hd)
    · intro d hd
      simpa using hEdge (List.mem_of_mem_getLast? hd) (hLast d hd)
  simp [Shape.ofText, hNonLatin, hPunctuation]

namespace Found

variable {repeated separators : Bool} {l word word' : List Char} {h : Array Char}

theorem latin (found : Found repeated separators l h word) (hLatin : LatinOnly l h) :
    ∀ d ∈ word, d.toNat ≤ 0xFF := by
  intro d hd
  rcases found.spells.mem_cases d hd with ⟨c, hc, hSame⟩ | ⟨-, hSeparator⟩
  · exact hLatin c hc d (found.mem d hd) hSame
  · rcases isSeparator_iff.mp hSeparator with rfl | rfl | rfl <;> decide

/-- A term without the dotted capital finds no word with it, since that letter folds to nothing
else. -/
theorem not_dotted (found : Found repeated separators l h word) (hDotted : 'İ' ∉ l) :
    'İ' ∉ word := by
  intro hMem
  rcases found.spells.mem_cases _ hMem with ⟨c, hc, hSame⟩ | ⟨-, hSeparator⟩
  · obtain rfl := sameFold_dotted hSame
    exact hDotted hc
  · revert hSeparator
    decide

/-- The pattern for a word of Latin-1 is plain if the term is made of word characters. -/
theorem shape_eq (found : Found repeated separators l h word) (hLatin : LatinOnly l h)
    (hWord : ∀ c ∈ l, isWord c = true) : Shape.ofText word = .plain := by
  have hAll := found.latin hLatin
  have hKind {d : Char} (hSome : ∃ c ∈ l, sameFold c d = true) : isWord d = true := by
    obtain ⟨c, hc, hSame⟩ := hSome
    exact (isWord_of_sameFold hSame).symm.trans (hWord c hc)
  obtain ⟨hHead, hLast⟩ := found.spells.ends
  exact Shape.ofText_eq_plain hAll (fun d hd => hKind (hHead d hd)) fun d hd => hKind (hLast d hd)

/-- Words under one key are equal up to case. -/
theorem foldEq {i : Nat} (found : Found repeated separators l h word)
    (found' : Found repeated separators l h word') (hReach : Reachable repeated separators l h i)
    (hKey : toLower (String.ofList word') = toLower (String.ofList word)) : FoldEq word' word := by
  have hLarge : ¬ ('İ'.toNat ≤ 0xFF) := by decide
  rcases hReach with hLatin | ⟨-, hDotted | ⟨rfl, rfl⟩⟩
  · exact foldEq_of_toLower_eq (fun hMem => hLarge (found'.latin hLatin _ hMem))
      (fun hMem => hLarge (found.latin hLatin _ hMem)) hKey
  · exact foldEq_of_toLower_eq (found'.not_dotted hDotted) (found.not_dotted hDotted) hKey
  · exact (spells_iff_foldEq.mp found'.spells).symm.trans (spells_iff_foldEq.mp found.spells)

end Found

end Expurgate
