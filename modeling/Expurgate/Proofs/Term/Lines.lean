import Expurgate.Proofs.Regex.Window
import Expurgate.Proofs.Term.Removed
import Expurgate.Replacer

/-! Plain terms and lines. A term without a line feed is found in each line as if the line stood
alone, and neither a mask nor a substitution breaks a line that it is put in. -/
namespace Expurgate

open Unicode

namespace Unicode

/-- A line feed has no case. -/
theorem sameFold_feed {c : Char} : sameFold c '\n' = true ↔ c = '\n' := by
  have hOrbit : orbit '\n'.toNat = ['\n'.toNat] := by decide
  rw [sameFold_iff, ← mem_orbit, hOrbit, List.mem_singleton]
  exact Char.toNat_inj

theorem ofNat_eq_feed {n : Nat} : Char.ofNat n = '\n' ↔ n = 10 := by
  constructor
  · intro hChar
    by_cases hValid : n.isValidChar
    · exact (toNat_ofNat hValid).symm.trans (congrArg Char.toNat hChar)
    · rw [Char.ofNat, dif_neg hValid] at hChar
      cases hChar
  · rintro rfl
    rfl

/-- Nothing but a line feed has one in its upper case form. -/
theorem feed_mem_upperChar {c : Char} (hMem : '\n' ∈ upperChar c) : c = '\n' := by
  have hForms : ∀ e ∈ Table.upperExpanding, 10 ∉ e.2 := by decide
  have hRuns : ∀ r ∈ Table.upper, r.preimage? 10 = none := by decide +kernel
  rw [upperChar] at hMem
  split at hMem
  · rename_i forms hFind
    obtain ⟨n, hn, hChar⟩ := List.mem_map.mp hMem
    rw [ofNat_eq_feed] at hChar
    exact absurd (hChar ▸ hn) (hForms _ (List.mem_of_find?_eq_some hFind))
  · have hChar := ofNat_eq_feed.mp (List.mem_singleton.mp hMem).symm
    rcases CaseRun.map_cases Table.upper c.toNat with hSame | ⟨r, hr, hImage⟩
    · exact Char.toNat_inj.mp (hSame.symm.trans hChar)
    · rw [hChar] at hImage
      have := CaseRun.preimage?_of_image? hImage
      rw [hRuns r hr] at this
      cases this

/-- No character but a line feed has one in its upper case. -/
theorem feed_mem_toUpper {l : List Char} (hMem : '\n' ∈ toUpper l) : '\n' ∈ l := by
  obtain ⟨c, hc, hChar⟩ := List.mem_flatMap.mp hMem
  exact feed_mem_upperChar hChar ▸ hc

end Unicode

namespace Regex

theorem lineBound_sequence (l : List Regex) :
    (sequence l).LineBound ↔ ∀ r ∈ l, r.LineBound := by
  induction l using sequence.induct with
  | case1 => simp [sequence, LineBound]
  | case2 r => simp [sequence]
  | case3 r rest hRest ih => simp [sequence, LineBound, ih]

theorem lineBound_letter (repeated : Bool) {c : Char} (hc : c ≠ '\n') :
    (letter repeated c).LineBound := by
  have hSet : (CharSet.letter c).contains '\n' = false := by
    rw [CharSet.contains_letter, Bool.eq_false_iff, ne_eq, sameFold_feed]
    exact hc
  cases repeated <;> exact hSet

theorem lineBound_phrase {repeated separators : Bool} {l : List Char} (hText : '\n' ∉ l) :
    ∀ r ∈ phrase repeated separators l, r.LineBound := by
  refine forall_mem_phrase (fun c hc => lineBound_letter repeated ?_) ?_
  · rintro rfl
    exact hText hc
  · exact CharSet.contains_separator '\n'

/-- A phrase in plain shape stays within its line, unless white space is taken along with it. -/
theorem lineBound_ofPhrase {body : List Regex} (hBody : ∀ r ∈ body, r.LineBound)
    (method : MatchMethod) : (sequence (ofPhrase method .plain false body)).LineBound := by
  have hEdge : edge.LineBound := ⟨rfl, rfl⟩
  have hWord : wordRun.LineBound := by
    refine (CharSet.contains_wordOrHyphen '\n').trans ?_
    decide
  rw [lineBound_sequence]
  cases method <;> simp [ofPhrase, or_imp, forall_and, hEdge, hWord]
  all_goals exact hBody

end Regex

/-- Under these settings masks and texts of last resort hold no line feed. -/
structure Settings.KeepsLines (s : Settings) : Prop where
  method : s.filterMethod = .censor ∨ s.filterMethod = .substitute
  mask : s.censorCharacter ≠ '\n'
  default : '\n' ∉ s.defaultSubstitution.toList

/-- A plain term without a line feed, with at most one substitution and none in that. -/
structure Term.KeepsLines (t : Term) : Prop where
  method : t.method ≠ .regex
  shape : t.shape = .plain
  text : '\n' ∉ t.text.toList
  substitutions : ∀ s ∈ t.substitutions, '\n' ∉ s.toList
  single : t.substitutions.length ≤ 1

/-- The same of a term that has yet to be prepared. -/
structure TermOptions.KeepsLines (o : TermOptions) (s : Settings) : Prop where
  method : o.methodIn s ≠ .regex
  shape : o.shapeIn s = .plain
  text : '\n' ∉ o.text.toList
  substitutions : ∀ r ∈ o.substitutions, '\n' ∉ r.toList
  single : o.substitutions.length ≤ 1

/-- What is asked of the options is passed on to the term, since a term takes over its text and its
substitutions as they stand. -/
theorem TermOptions.KeepsLines.compiled {o : TermOptions} {s : Settings} {t : Term}
    (keeps : o.KeepsLines s) (hCompile : Term.compile o s = .ok t) : t.KeepsLines := by
  have ht := Term.prepared_of_compile hCompile
  have hSubstitutions := Term.substitutions_of_compile hCompile
  exact ⟨ht.method ▸ keeps.method, ht.shape.trans keeps.shape, ht.text ▸ keeps.text,
    hSubstitutions ▸ keeps.substitutions, hSubstitutions ▸ keeps.single⟩

theorem Settings.KeepsLines.not_remove {s : Settings} (hs : s.KeepsLines) :
    s.filterMethod ≠ .remove := by
  rcases hs.method with hMethod | hMethod <;> rw [hMethod] <;> nofun

namespace Term

variable {o : TermOptions} {s : Settings} {t : Term}

/-- The matches in two texts with a line feed between them are those of the first and those of the
second. -/
theorem Prepared.occurrences_joinLines (ht : Prepared o s t) (hs : s.KeepsLines)
    (keeps : t.KeepsLines) (a b : Array Char) :
    t.occurrences (joinLines a b) =
      t.occurrences a ++ (t.occurrences b).map (Captures.shift (a.size + 1)) := by
  have hMethod : o.methodIn s ≠ .regex := ht.method ▸ keeps.method
  have hFound : (o.expression s).LineBound := by
    rw [TermOptions.expression, ← ht.shape, keeps.shape, decide_eq_false hs.not_remove]
    exact Regex.lineBound_ofPhrase (Regex.lineBound_phrase (ht.text ▸ keeps.text)) _
  rw [occurrences, occurrences, occurrences, ht.program_eq hMethod]
  exact Regex.findAll_joinLines a b (o.productive_expression s)
    (Regex.consumes_ofPhrase ht.toList_ne_nil _ _ _) hFound

theorem Prepared.occurrences_empty (ht : Prepared o s t) (hMethod : o.methodIn s ≠ .regex) :
    t.occurrences #[] = [] := by
  refine List.eq_nil_iff_forall_not_mem.mpr fun c hMem => ?_
  have hBounds := ht.bounds_of_mem hMethod hMem
  exact absurd hBounds.2 (by simp; omega)

end Term

/-- A mask is made of the mask character and of what is preserved of the word. -/
theorem mem_censorWord {word : List Char} {mask c : Char} {n : Nat} {first last : Bool}
    (hMem : c ∈ censorWord word mask n first last) : c ∈ word ∨ c = mask := by
  have hFirst (hc : c ∈ word.head?.toList) : c ∈ word :=
    List.mem_of_mem_head? (Option.mem_toList.mp hc)
  have hLast (hc : c ∈ word.getLast?.toList) : c ∈ word :=
    List.mem_of_mem_getLast? (Option.mem_toList.mp hc)
  have hMask {k : Nat} (hc : c ∈ List.replicate k mask) : c = mask := List.eq_of_mem_replicate hc
  cases first <;> cases last <;> simp only [censorWord] at hMem
  · exact .inr (hMask hMem)
  · exact (List.mem_append.mp hMem).elim (.inr ∘ hMask) (.inl ∘ hLast)
  · exact (List.mem_append.mp hMem).elim (.inl ∘ hFirst) (.inr ∘ hMask)
  · split at hMem
    · exact .inl hMem
    · exact (List.mem_append.mp hMem).elim
        (fun hc => (List.mem_append.mp hc).elim (.inl ∘ hFirst) (.inr ∘ hMask)) (.inl ∘ hLast)

theorem feed_mem_matchCase {source l : List Char} (hMem : '\n' ∈ matchCase source l) :
    '\n' ∈ l := by
  unfold matchCase at hMem
  split at hMem
  · exact feed_mem_toUpper hMem
  · split at hMem
    · cases l with
      | nil => exact hMem
      | cons c rest =>
          rcases List.mem_append.mp hMem with hc | hRest
          · exact List.mem_cons.mpr (.inl (feed_mem_upperChar hc).symm)
          · exact List.mem_cons_of_mem _ hRest
    · exact hMem

namespace Replacer

variable {r : Replacer} {t : Term}

/-- Whatever a term is replaced with holds no line feed, be it one of its own substitutions or the
default one. -/
theorem feed_not_mem_candidate (hs : r.settings.KeepsLines) (keeps : t.KeepsLines) :
    '\n' ∉ (r.candidate t).toList := by
  rw [candidate]
  split
  · exact hs.default
  · rw [List.getD_eq_getElem?_getD]
    cases hGet : t.substitutions[min (r.selector.select t.substitutions.length)
        (t.substitutions.length - 1)]? with
    | none => exact List.not_mem_nil
    | some chosen => exact keeps.substitutions _ (List.mem_of_getElem? hGet)

/-- What stands for a text without a line feed has none either. -/
theorem feed_not_mem_replacement (hs : r.settings.KeepsLines) (keeps : t.KeepsLines) {s : Span}
    {h : Array Char} (hText : '\n' ∉ s.text h) : '\n' ∉ r.replacement t (.plain s) h := by
  have hContent : (MatchParts.plain s).content.text h = s.text h := rfl
  intro hMem
  rcases hs.method with hMethod | hMethod
  · simp only [replacement, hMethod, reattach, censor, hContent] at hMem
    exact (mem_censorWord hMem).elim hText fun hMask => hs.mask hMask.symm
  · have hChosen := feed_not_mem_candidate hs keeps
    simp only [replacement, hMethod, reattach, substitute, hContent] at hMem
    have hCased : '\n' ∈ if t.preserveCase then
        matchCase (s.text h) (r.candidate t).toList else (r.candidate t).toList := by
      split at hMem
      · simpa using hMem
      · exact hMem
    split at hCased
    · exact hChosen (feed_mem_matchCase hCased)
    · exact hChosen hCased

end Replacer

end Expurgate
