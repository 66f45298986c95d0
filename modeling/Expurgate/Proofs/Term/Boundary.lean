import Expurgate.Proofs.Term.Spelling

/-! What surrounds the content of a bounded term: a run of boundary characters, or an end of the
text. -/
namespace Expurgate

open Unicode

theorem isBoundary_of_isSpace {c : Char} (hSpace : isSpace c = true) : isBoundary c = true := by
  simp [isBoundary, hSpace]

theorem isBoundary_of_isWord {c : Char} (hWord : isWord c = true) : isBoundary c = false := by
  have hMarks : (['.', ',', '\'', '"', '+', '!', '?', '|', '-'].all fun d => !isWord d) = true := by
    decide
  rw [isBoundary, isSpace_of_isWord hWord, Bool.false_or, ← Bool.not_eq_true]
  intro hMark
  have hNot := List.all_eq_true.mp hMarks c (List.contains_iff_mem.mp hMark)
  rw [hWord] at hNot
  cases hNot

namespace Regex

variable {h : Array Char} {i j p q : Nat} {m : List (Nat × Nat)}

private theorem boundary_kind : CharSet.boundary.contains = isBoundary :=
  funext CharSet.contains_boundary

private theorem token_kind : CharSet.boundary.complement.contains = fun c => !isBoundary c := by
  funext c
  rw [CharSet.contains_complement CharSet.normal_boundary, CharSet.contains_boundary]

theorem Run.not_boundary (run : Run isWord h p q) : Run (!isBoundary ·) h p q :=
  run.imp fun c hc => by rw [isBoundary_of_isWord hc]; rfl

/-- What surrounds the content of a bounded term. -/
def leading : Regex := .alt (.look .start false) boundaryRun

def trailing : Regex := .alt boundaryRun (.look .stop false)

theorem bare_leading : leading.Bare := ⟨trivial, trivial⟩

theorem bare_trailing : trailing.Bare := ⟨trivial, trivial⟩

/-- The boundaries of a token are runs of boundary characters, one at least. -/
theorem matches_boundaryRun_iff :
    boundaryRun.Matches h p q m ↔ Run isBoundary h p q ∧ p < q ∧ m = [] := by
  rw [boundaryRun, matches_loop_set_iff, boundary_kind]

/-- In front of a token there is a boundary or the beginning of the text, and both are matched. -/
theorem matches_leading (run : Run isBoundary h p i) (hSome : p < i ∨ i = 0) :
    leading.Matches h p i [] := by
  rcases hSome with hLess | rfl
  · exact .right (matches_boundaryRun_iff.mpr ⟨run, hLess, rfl⟩)
  · obtain rfl := Nat.le_zero.mp run.le
    exact .left (.look (by simp [Look.holds]))

/-- Behind a token that ends at a boundary there is always something to match, at the end of the
text too. How far it goes is left open here. -/
theorem matches_trailing (hAfter : j = h.size ∨ ∃ c, h[j]? = some c ∧ isBoundary c = true) :
    ∃ q, trailing.Matches h j q [] := by
  rcases hAfter with rfl | ⟨c, hChar, hBoundary⟩
  · exact ⟨h.size, .right (.look (by simp [Look.holds]))⟩
  · exact ⟨j + 1, .left (matches_boundaryRun_iff.mpr
      ⟨.cons hChar hBoundary (.refl _), Nat.lt_succ_self j, rfl⟩)⟩

/-- What is matched in front of a token is nothing, at the beginning of the text, or a run of
boundary characters. -/
theorem leading_cases (way : leading.Matches h p i m) :
    (p = 0 ∧ i = 0) ∨ (Run isBoundary h p i ∧ p < i) := by
  rcases matches_alt_iff.mp way with hStart | hRun
  · obtain ⟨hHolds, rfl, -⟩ := matches_look_iff.mp hStart
    have : i = 0 := by simpa [Look.holds] using hHolds
    exact .inl ⟨this, this⟩
  · obtain ⟨run, hLess, -⟩ := matches_boundaryRun_iff.mp hRun
    exact .inr ⟨run, hLess⟩

theorem trailing_run (way : trailing.Matches h j q m) : Run isBoundary h j q := by
  rcases matches_alt_iff.mp way with hRun | hStop
  · exact (matches_boundaryRun_iff.mp hRun).1
  · obtain ⟨-, rfl, -⟩ := matches_look_iff.mp hStop
    exact .refl q

/-- At the beginning of a text no boundary is taken in front if the rest matches from there. -/
theorem leading_zero {K : Nat → Prop} (way : leading.Prefers h K 0 i []) (hK : K 0) : i = 0 := by
  cases way with
  | left hStart => exact (matches_look_iff.mp hStart.matches.1).2.1
  | right hLeft _ => exact absurd ⟨0, [], .look (by simp [Look.holds]), hK⟩ hLeft

/-- Behind the content all boundary characters are taken. -/
theorem trailing_greatest (way : trailing.Prefers h (fun _ => True) j q []) :
    Run isBoundary h j q ∧ ∀ k, Run isBoundary h j k → k ≤ q := by
  refine ⟨trailing_run way.matches.1, fun k hk => ?_⟩
  cases way with
  | left hRun =>
      obtain ⟨run, -, -, hMost⟩ := Prefers.greatest_loop hRun
      rw [boundary_kind] at hMost
      rcases Nat.eq_or_lt_of_le hk.le with rfl | hFar
      · exact run.le
      · exact hMost k hk hFar trivial
  | right hLeft hStop =>
      obtain ⟨-, rfl, -⟩ := matches_look_iff.mp hStop.matches.1
      by_contra hFar
      exact hLeft ⟨k, [], matches_boundaryRun_iff.mpr ⟨hk, by omega, rfl⟩, trivial⟩

/-- The rest of a token is any run of characters that are no boundaries, the empty one included. -/
theorem matches_tokenRun_iff :
    tokenRun.Matches h p q m ↔ Run (!isBoundary ·) h p q ∧ m = [] := by
  rw [tokenRun, matches_star_set_iff, token_kind]

/-- As much of a token is taken as lets the rest match. -/
theorem tokenRun_greatest {K : Nat → Prop} (way : tokenRun.Prefers h K p q m) :
    Run (!isBoundary ·) h p q ∧ ∀ k, Run (!isBoundary ·) h p k → K k → k ≤ q := by
  obtain ⟨run, -, hMost⟩ := way.greatest_star
  rw [token_kind] at run hMost
  exact ⟨run, hMost⟩

end Regex

end Expurgate
