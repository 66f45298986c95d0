import Expurgate.Proofs.Unicode.Casing
import Expurgate.Replacer

/-! What is put in the place of a match. A mask tells of a word what it keeps of it, and nothing else
but its length, or not even that. A substitution follows the capitals of what it replaces, except that
letters without case count as capitals. -/
namespace Expurgate

open Unicode

section Censor

variable {w w' : List Char}

/-- The end of a word is a character if there is one, which is what a preserved character adds to a
mask. -/
theorem length_head? (w : List Char) : w.head?.toList.length = min 1 w.length := by
  cases w with
  | nil => rfl
  | cons c rest => simp

theorem length_getLast? (w : List Char) : w.getLast?.toList.length = min 1 w.length := by
  rcases w.eq_nil_or_concat' with rfl | ⟨start, d, rfl⟩
  · rfl
  · simp

/-- How long a mask is. It has the length that is asked for, unless two preserved ends take up more,
and a single character that is preserved on both sides stays alone. -/
theorem length_censorWord (hNonempty : w ≠ []) (mask : Char) (n : Nat)
    (preserveFirst preserveLast : Bool) :
    (censorWord w mask n preserveFirst preserveLast).length =
      if n = 0 then w.length
      else if preserveFirst && preserveLast then if w.length = 1 then 1 else max n 2
      else n := by
  have hSome : 0 < w.length := List.length_pos_iff.mpr hNonempty
  have hFirst : w.head?.toList.length = 1 := by
    rw [length_head?]
    omega
  have hLast : w.getLast?.toList.length = 1 := by
    rw [length_getLast?]
    omega
  cases preserveFirst <;> cases preserveLast <;>
    simp only [censorWord, List.length_append, List.length_replicate, hFirst, hLast, Bool.and_true,
      Bool.and_false, Bool.false_eq_true, if_true, if_false]
  case true.true =>
    by_cases hOne : w.length = 1
    · rw [if_pos hOne.le, if_pos hOne]
      split <;> omega
    · rw [if_neg (by omega), if_neg hOne, List.length_append, List.length_append,
        List.length_replicate, hFirst, hLast]
      split <;> split <;> omega
  all_goals split <;> split <;> omega

/-- A word of at most one character is its first and its last one. -/
theorem eq_head?_of_length_le (hShort : w.length ≤ 1) : w = w.head?.toList := by
  rcases w with _ | ⟨c, _ | ⟨d, rest⟩⟩
  · rfl
  · rfl
  · simp at hShort

/-- Of a word that is masked only the characters that are kept matter, and its length. If the mask has
a length of its own, only whether there are two characters to be kept. -/
theorem censorWord_congr (mask : Char) {n : Nat} {preserveFirst preserveLast : Bool}
    (hLength : n = 0 → w.length = w'.length) (hShort : w.length ≤ 1 ↔ w'.length ≤ 1)
    (hFirst : preserveFirst = true → w.head? = w'.head?)
    (hLast : preserveLast = true → w.getLast? = w'.getLast?) :
    censorWord w mask n preserveFirst preserveLast =
      censorWord w' mask n preserveFirst preserveLast := by
  have hSlots : (if 0 < n then n else w.length) = if 0 < n then n else w'.length := by
    split
    · rfl
    · exact hLength (by omega)
  cases preserveFirst <;> cases preserveLast
  · simp only [censorWord, hSlots]
  · simp only [censorWord, hSlots, hLast rfl]
  · simp only [censorWord, hSlots, hFirst rfl]
  · simp only [censorWord, hSlots, hFirst rfl, hLast rfl]
    by_cases hOne : w.length ≤ 1
    · rw [if_pos hOne, if_pos (hShort.mp hOne), eq_head?_of_length_le hOne, hFirst rfl,
        ← eq_head?_of_length_le (hShort.mp hOne)]
    · rw [if_neg hOne, if_neg (hOne ∘ hShort.mpr)]

section Lengths

variable (hLength : w.length = w'.length) (mask : Char) (n : Nat) (preserveFirst preserveLast : Bool)

include hLength

/-- The length of a mask depends on that of the word. -/
theorem length_censorWord_congr :
    (censorWord w mask n preserveFirst preserveLast).length =
      (censorWord w' mask n preserveFirst preserveLast).length := by
  cases preserveFirst <;> cases preserveLast <;>
    simp only [censorWord, hLength, List.length_append, List.length_replicate, length_head?,
      length_getLast?]
  split <;> simp [hLength, length_head?, length_getLast?]

/-- Masks of words of one length differ in the characters that they keep, and nowhere else. -/
theorem censorWord_eq_iff :
    censorWord w mask n preserveFirst preserveLast =
        censorWord w' mask n preserveFirst preserveLast ↔
      (if preserveFirst then w.head? else none) = (if preserveFirst then w'.head? else none) ∧
        (if preserveLast then w.getLast? else none) =
          (if preserveLast then w'.getLast? else none) := by
  have hHead : w.head?.toList = w'.head?.toList ↔ w.head? = w'.head? := by
    cases w.head? <;> cases w'.head? <;> simp
  have hLast : w.getLast?.toList = w'.getLast?.toList ↔ w.getLast? = w'.getLast? := by
    cases w.getLast? <;> cases w'.getLast? <;> simp
  have hHeads : w.head?.toList.length = w'.head?.toList.length := by
    rw [length_head?, length_head?, hLength]
  cases preserveFirst <;> cases preserveLast
  · simp [censorWord, hLength]
  · simp [censorWord, hLength, hLast]
  · simp [censorWord, hLength, hHead]
  · simp only [censorWord, hLength, if_true]
    split
    · rcases w with _ | ⟨c, _ | ⟨d, rest⟩⟩ <;> rcases w' with _ | ⟨c', _ | ⟨d', rest'⟩⟩ <;>
        simp at *
    · rw [← hHead, ← hLast, List.append_assoc, List.append_assoc]
      constructor
      · intro hEq
        obtain ⟨hFirst, hRest⟩ := List.append_inj hEq hHeads
        exact ⟨hFirst, List.append_cancel_left hRest⟩
      · rintro ⟨hFirst, hEnd⟩
        rw [hFirst, hEnd]

end Lengths

/-- A mask has the length that is promised, and what it hides of a word does not show. -/
theorem censorWord_conceals {word : List Char} (hNonempty : word ≠ []) (mask : Char)
    (fixedLength : Nat) (preserveFirst preserveLast : Bool) :
    let masked := fun w => censorWord w mask fixedLength preserveFirst preserveLast
    (masked word).length =
        (if fixedLength = 0 then word.length
        else if preserveFirst && preserveLast then
          if word.length = 1 then 1 else max fixedLength 2
        else fixedLength) ∧
      (preserveFirst = true → preserveLast = true → word.length = 1 → masked word = word) ∧
      ∀ other ≠ [],
        (if fixedLength = 0 then other.length = word.length
        else other.length = 1 ↔ word.length = 1) →
        (preserveFirst = true → other.head? = word.head?) →
        (preserveLast = true → other.getLast? = word.getLast?) → masked other = masked word := by
  intro masked
  refine ⟨length_censorWord hNonempty mask fixedLength preserveFirst preserveLast, ?_, ?_⟩
  · rintro rfl rfl hOne
    exact if_pos hOne.le
  · intro other hOther hAlike hFirst hLast
    have hSome : 0 < word.length := List.length_pos_iff.mpr hNonempty
    have hSome' : 0 < other.length := List.length_pos_iff.mpr hOther
    refine censorWord_congr mask (fun hZero => by simpa [hZero] using hAlike) ?_ hFirst hLast
    split at hAlike
    · rw [hAlike]
    · omega

/-- A mask of one character makes room for the two that are kept, and words of different lengths get
the same one. -/
theorem censorWord_conceals_kept :
    let masked := fun w => censorWord w '*' 1 true true
    "shit".toList ≠ [] ∧ (masked "shit".toList).length = 2 ∧
      masked "submit".toList = masked "shit".toList := by
  have hNonempty : "shit".toList ≠ [] := by decide
  obtain ⟨hLength, -, hSame⟩ := censorWord_conceals hNonempty '*' 1 true true
  exact ⟨hNonempty, hLength, hSame "submit".toList (by decide) (by decide) (fun _ => by decide)
    (fun _ => by decide)⟩

end Censor

section Casing

def capitalized : List Char → List Char
  | [] => []
  | c :: rest => upperChar c ++ rest

/-- A replacement in the case of what it replaces: in capitals if this has some and no small letter,
with a capital in front if this begins with one, and else as it is. -/
def inCaseOf (source replacement : List Char) : List Char :=
  if source.any isUpper && !source.any isLower then toUpper replacement
  else if source.head?.any isUpper then capitalized replacement
  else replacement

/-- A text with letters all of which are neither capital nor small. -/
def Caseless (l : List Char) : Prop :=
  (∃ c ∈ l, isAlphabetic c = true) ∧ ∀ c ∈ l, isUpper c = false ∧ isLower c = false

instance (l : List Char) : Decidable (Caseless l) :=
  decidable_of_iff ((l.any isAlphabetic && l.all fun c => !isUpper c && !isLower c) = true)
    (by simp [Caseless])

variable {source : List Char} (replacement : List Char)

/-- Small letters ask for nothing: the replacement is put in as the user wrote it. -/
theorem inCaseOf_of_not_upper (hNone : ∀ c ∈ source, isUpper c = false) :
    inCaseOf source replacement = replacement := by
  have hNowhere : source.any isUpper = false := by simpa using hNone
  have hFirst : source.head?.any isUpper = false := by
    cases source with
    | nil => rfl
    | cons c rest => simpa using hNone c List.mem_cons_self
  simp [inCaseOf, hNowhere, hFirst]

/-- Letters without case are all capitals to this function, since none of them is small. This is
where it departs from what it is for. -/
theorem matchCase_of_caseless (hCaseless : Caseless source) :
    matchCase source replacement = toUpper replacement := by
  obtain ⟨hLetter, hNone⟩ := hCaseless
  have hLetters : source.any isAlphabetic = true := List.any_eq_true.mpr hLetter
  have hSmall : source.any isLower = false := by simpa using fun c hc => (hNone c hc).2
  simp [matchCase, hLetters, hSmall]

/-- For all other texts the function does what it is for. -/
theorem matchCase_of_not_caseless (hCased : ¬Caseless source) :
    matchCase source replacement = inCaseOf source replacement := by
  have hCapitals : (source.any isAlphabetic && !source.any isLower) = true ↔
      (source.any isUpper && !source.any isLower) = true := by
    have hSmall : (!source.any isLower) = true ↔ ∀ c ∈ source, isLower c = false := by simp
    rw [Bool.and_eq_true, Bool.and_eq_true, List.any_eq_true, List.any_eq_true, hSmall]
    refine and_congr_left fun hNone => ⟨fun hLetter => ?_, ?_⟩
    · by_contra hCapital
      exact hCased ⟨hLetter, fun c hc => ⟨by simpa using fun h => hCapital ⟨c, hc, h⟩, hNone c hc⟩⟩
    · rintro ⟨c, hc, hUpper⟩
      exact ⟨c, hc, isAlphabetic_of_isUpper hUpper⟩
  simp only [matchCase, inCaseOf, hCapitals]
  rfl

/-- A replacement comes out in the case of what it replaces, unless this is of letters without case.
Such a text has no capital, and yet the replacement is put in capitals; no other text without capitals
alters it. -/
theorem matchCase_eq (source replacement : List Char) :
    matchCase source replacement =
        (if Caseless source then toUpper replacement else inCaseOf source replacement) ∧
      (matchCase source replacement = inCaseOf source replacement ↔
        (Caseless source → toUpper replacement = replacement)) ∧
      ((∀ c ∈ source, isUpper c = false) → ¬Caseless source →
        matchCase source replacement = replacement) := by
  by_cases hCaseless : Caseless source
  · have hSame : inCaseOf source replacement = replacement :=
      inCaseOf_of_not_upper replacement fun c hc => (hCaseless.2 c hc).1
    rw [if_pos hCaseless, matchCase_of_caseless replacement hCaseless, hSame]
    simp [hCaseless]
  · rw [if_neg hCaseless, matchCase_of_not_caseless replacement hCaseless]
    exact ⟨rfl, ⟨fun _ hCased => absurd hCased hCaseless, fun _ => rfl⟩,
      fun hNone _ => inCaseOf_of_not_upper replacement hNone⟩

/-- Digits have no case, but they are no letters either. -/
theorem matchCase_eq_digits :
    (∀ c ∈ "123".toList, isUpper c = false) ∧ ¬Caseless "123".toList ∧
      matchCase "123".toList "dang".toList = "dang".toList := by
  have hNone : ∀ c ∈ "123".toList, isUpper c = false := by
    have hAny : "123".toList.any isUpper = false := by decide
    simpa only [List.any_eq_false, Bool.not_eq_true] using hAny
  have hCased : ¬Caseless "123".toList := by decide
  exact ⟨hNone, hCased, (matchCase_eq "123".toList "dang".toList).2.2 hNone hCased⟩

/-- No letter of "日本" is a capital. -/
example : Caseless "日本".toList ∧ matchCase "日本".toList "dang".toList = "DANG".toList ∧
    inCaseOf "日本".toList "dang".toList = "dang".toList := by
  decide +kernel

end Casing

end Expurgate
