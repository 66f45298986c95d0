import Expurgate.Proofs.Regex.Simulation

/-! Successive matches in a text. Those of any program follow one another without an overlap; those
of an expression that always reads something leave no place out at which it matches. -/
namespace Expurgate

/-- Stretches of a text of `size` characters that follow one another from `start` on. -/
inductive Successive (size : Nat) : Nat → List Captures → Prop where
  | nil (start : Nat) : Successive size start []
  | cons {start : Nat} {c : Captures} {rest : List Captures} (hFrom : start ≤ c.start)
      (hLe : c.start ≤ c.stop) (hSize : c.stop ≤ size) (tail : Successive size c.stop rest) :
      Successive size start (c :: rest)

theorem Successive.bounds_of_mem {size start : Nat} {l : List Captures}
    (hSuccessive : Successive size start l) {c : Captures} (hMem : c ∈ l) :
    c.start ≤ c.stop ∧ c.stop ≤ size := by
  induction hSuccessive with
  | nil => simp at hMem
  | cons _ hLe hSize _ ih =>
      rcases List.mem_cons.mp hMem with rfl | hLater
      · exact ⟨hLe, hSize⟩
      · exact ih hLater

theorem Successive.le_of_mem {size start : Nat} {l : List Captures}
    (hSuccessive : Successive size start l) {c : Captures} (hMem : c ∈ l) : c.start ≤ c.stop :=
  (hSuccessive.bounds_of_mem hMem).1

theorem Successive.start_le_of_mem {size start : Nat} {l : List Captures}
    (hSuccessive : Successive size start l) {c : Captures} (hMem : c ∈ l) : start ≤ c.start := by
  induction hSuccessive with
  | nil => simp at hMem
  | cons hFrom hLe _ _ ih =>
      rcases List.mem_cons.mp hMem with rfl | hLater
      · exact hFrom
      · have := ih hLater
        omega

/-- A match ends before any later one starts. -/
theorem Successive.stop_le_of_append {size start : Nat} {before behind : List Captures}
    {c : Captures} (hSuccessive : Successive size start (before ++ c :: behind)) :
    ∀ x ∈ before, x.stop ≤ c.start := by
  induction before generalizing start with
  | nil => exact nofun
  | cons d before ih =>
      cases hSuccessive with
      | cons _ _ _ tail =>
          refine List.forall_mem_cons.mpr ⟨?_, ih tail⟩
          exact tail.start_le_of_mem (by simp)

/-- Two matches of which one starts earlier do not overlap, wherever they stand in the list. -/
theorem Successive.stop_le_of_lt {size start : Nat} {l : List Captures}
    (hSuccessive : Successive size start l) {c d : Captures} (hc : c ∈ l) (hd : d ∈ l)
    (hLess : c.start < d.start) : c.stop ≤ d.start := by
  induction hSuccessive with
  | nil => simp at hc
  | @cons _ e rest _ hLe _ tail ih =>
      rcases List.mem_cons.mp hd with rfl | hLater
      · rcases List.mem_cons.mp hc with rfl | hBehind
        · omega
        · have := tail.start_le_of_mem hBehind
          omega
      · rcases List.mem_cons.mp hc with rfl | hBehind
        · exact tail.start_le_of_mem hLater
        · exact ih hBehind hLater

/-- Matches one after the other are apart in pairs, and not only next to each other. -/
theorem Successive.pairwise {size start : Nat} {l : List Captures}
    (hSuccessive : Successive size start l) : l.Pairwise fun c d => c.stop ≤ d.start := by
  induction hSuccessive with
  | nil => exact .nil
  | cons _ _ _ tail ih => exact .cons (fun d hd => tail.start_le_of_mem hd) ih

/-- Matches that are all around one place cannot be several. -/
theorem Successive.eq_singleton {size start : Nat} {l : List Captures}
    (hSuccessive : Successive size start l) {c : Captures} (hMem : c ∈ l) (i : Nat)
    (hAround : ∀ d ∈ l, d.start ≤ i ∧ i < d.stop) : l = [c] := by
  cases hSuccessive with
  | nil => cases hMem
  | @cons _ d rest _ _ _ tail =>
      obtain ⟨⟨-, hStop⟩, hLater⟩ := List.forall_mem_cons.mp hAround
      have hNone : rest = [] := List.eq_nil_iff_forall_not_mem.mpr fun e he => by
        have := tail.start_le_of_mem he
        have := (hLater e he).1
        omega
      rw [hNone] at hMem ⊢
      rw [List.mem_singleton.mp hMem]

namespace Program

variable {p : Program} {h : Array Char}

/-- What every step keeps, and the threads on the stack have, the accepted thread has too. -/
theorem walk_invariant {base : Nat} {I : Thread → Prop}
    (hStep : ∀ t, I t → ∀ u ∈ p.step h t, I u) (fuel : Nat) (v : Visited) (stack : List Thread)
    (hStack : ∀ t ∈ stack, I t) {r : Thread} (hFound : (p.walk h base fuel v stack).1 = some r) :
    I r := by
  induction fuel generalizing v stack with
  | zero => simp [walk] at hFound
  | succ fuel ih =>
      cases stack with
      | nil => simp [walk] at hFound
      | cons t stack =>
          have hRest : ∀ u ∈ stack, I u := fun u hu => hStack u (by simp [hu])
          rw [walk] at hFound
          split at hFound
          · exact ih _ _ hRest hFound
          · split at hFound
            · obtain rfl : t = r := by simpa using hFound
              exact hStack t (by simp)
            · refine ih _ _ ?_ hFound
              intro u hu
              rcases List.mem_append.mp hu with hNext | hu
              · exact hStep t (hStack t (by simp)) u hNext
              · exact hRest u hu

/-- What is found within a stretch of starts lies between the first one and the end of the text. -/
theorem findWithin_bounds {base n start : Nat} {v : Visited} {c : Captures}
    (hCount : start + n ≤ h.size + 1) (hFound : p.findWithin h base n start v = some c) :
    start ≤ c.start ∧ c.start ≤ c.stop ∧ c.stop ≤ h.size := by
  induction n generalizing start v with
  | zero => simp [findWithin] at hFound
  | succ n ih =>
      simp only [findWithin] at hFound
      split at hFound
      · rename_i t _ hWalk
        obtain rfl : _ = c := Option.some.inj hFound
        have hBounds : start ≤ t.pos ∧ t.pos ≤ h.size := by
          refine walk_invariant (p := p) (h := h) (I := fun t => start ≤ t.pos ∧ t.pos ≤ h.size) ?_
            _ _ _ ?_ (congrArg Prod.fst hWalk)
          · intro t ht u hu
            have := pos_of_mem_step hu ht.2
            exact ⟨Nat.le_trans ht.1 this.1, this.2⟩
          · intro t ht
            obtain rfl := List.mem_singleton.mp ht
            exact ⟨Nat.le_refl _, by simp; omega⟩
        exact ⟨Nat.le_refl _, hBounds⟩
      · have := ih (by omega) hFound
        exact ⟨by omega, this.2⟩

theorem findFrom_bounds {start : Nat} {c : Captures} (hFound : p.findFrom h start = some c) :
    start ≤ c.start ∧ c.start ≤ c.stop ∧ c.stop ≤ h.size := by
  by_cases hStart : start ≤ h.size + 1
  · exact findWithin_bounds (by omega) hFound
  · rw [findFrom, show h.size + 1 - start = 0 by omega] at hFound
    simp [findWithin] at hFound

/-- The same of the next match after another, where an empty match right behind the last one is
passed over. -/
theorem findNext_bounds {start : Nat} {last : Option Nat} {c : Captures}
    (hFound : p.findNext h start last = some c) :
    start ≤ c.start ∧ c.start ≤ c.stop ∧ c.stop ≤ h.size := by
  rw [findNext] at hFound
  split at hFound
  · rename_i hFirst
    split at hFound
    · have := findFrom_bounds hFound
      exact ⟨by omega, this.2⟩
    · obtain rfl := Option.some.inj hFound
      exact findFrom_bounds hFirst
  · simp at hFound

/-- All matches from a position on follow each other without overlap, by induction over the fuel of
the search. -/
theorem successive_matchesFrom (n start : Nat) (last : Option Nat) :
    Successive h.size start (p.matchesFrom h n start last) := by
  induction n generalizing start last with
  | zero => exact .nil start
  | succ n ih =>
      rw [matchesFrom]
      split
      · rename_i c hFound
        obtain ⟨hFrom, hLe, hSize⟩ := findNext_bounds hFound
        exact .cons hFrom hLe hSize (ih _ _)
      · exact .nil start

theorem successive_findAll : Successive h.size 0 (p.findAll h) := successive_matchesFrom _ _ _

end Program

namespace Regex

variable {r : Regex} {h : Array Char}

/-- Each of the successive matches is one in the preferred way. -/
theorem prefers_of_mem_matchesFrom (hProductive : r.Productive) {n start : Nat}
    {last : Option Nat} {c : Captures} (hStart : start ≤ h.size)
    (hMem : c ∈ r.program.matchesFrom h n start last) :
    c.start ≤ h.size ∧ r.Prefers h (fun _ => True) c.start c.stop c.marks := by
  induction n generalizing start last with
  | zero => simp [Program.matchesFrom] at hMem
  | succ n ih =>
      rw [Program.matchesFrom] at hMem
      split at hMem
      · rename_i d hFound
        rcases List.mem_cons.mp hMem with rfl | hLater
        · rw [Program.findNext] at hFound
          split at hFound
          · rename_i e hFirst
            split at hFound
            · have hFinds := (findFrom_program hProductive (by omega)).1 c hFound
              exact ⟨hFinds.start_le_size, hFinds.way⟩
            · obtain rfl := Option.some.inj hFound
              have hFinds := (findFrom_program hProductive (by omega)).1 e hFirst
              exact ⟨hFinds.start_le_size, hFinds.way⟩
          · simp at hFound
        · exact ih (Program.findNext_bounds hFound).2.2 hLater
      · simp at hMem

/-- What is found is what the expression prefers at its start. The program has no other ways through
it than the expression. -/
theorem prefers_of_mem_findAll (hProductive : r.Productive) {c : Captures}
    (hMem : c ∈ r.program.findAll h) :
    c.start ≤ h.size ∧ r.Prefers h (fun _ => True) c.start c.stop c.marks :=
  prefers_of_mem_matchesFrom hProductive (Nat.zero_le _) hMem

/-- For an expression that always reads something, the next match is the leftmost one. -/
theorem findNext_program (hProductive : r.Productive) (hConsumes : r.consumes = true)
    {start : Nat} {last : Option Nat} (hStart : start ≤ h.size) :
    r.program.findNext h start last = r.program.findFrom h start := by
  rw [Program.findNext]
  split
  · rename_i c hFound
    have hFinds := (findFrom_program hProductive (by omega)).1 c hFound
    have hLess := hFinds.way.matches.1.lt_of_consumes hConsumes
    rw [if_neg (by omega), hFound]
  · rename_i hNone
    exact hNone.symm

/-- A place where the expression matches lies in one of the successive matches. -/
theorem exists_mem_matchesFrom (hProductive : r.Productive) (hConsumes : r.consumes = true)
    {n start pos q : Nat} {last : Option Nat} {m : List (Nat × Nat)}
    (way : r.Matches h pos q m) (hFrom : start ≤ pos) (hSize : pos ≤ h.size)
    (hEnough : h.size < start + n) :
    ∃ c ∈ r.program.matchesFrom h n start last, c.start ≤ pos ∧ pos < c.stop := by
  induction n generalizing start last with
  | zero => omega
  | succ n ih =>
      have hSearch := @findFrom_program r h hProductive start (by omega)
      rw [Program.matchesFrom, findNext_program hProductive hConsumes (by omega)]
      cases hFound : r.program.findFrom h start with
      | none => exact absurd ⟨q, m, way⟩ (hSearch.2 hFound pos hFrom hSize)
      | some c =>
          have hFinds := hSearch.1 c hFound
          have hLess := hFinds.way.matches.1.lt_of_consumes hConsumes
          have hLeft : c.start ≤ pos := by
            by_contra hRight
            exact hFinds.none_before pos hFrom (by omega) ⟨q, m, way⟩
          by_cases hInside : pos < c.stop
          · exact ⟨c, by simp, hLeft, hInside⟩
          · have := hFinds.start_le
            obtain ⟨d, hMem, hAround⟩ := @ih c.stop (some c.stop) (by omega) (by omega)
            exact ⟨d, List.mem_cons_of_mem _ hMem, hAround⟩

/-- Wherever the expression matches, some match is found that covers the place. It may be one that
starts before, which is why no more can be said. -/
theorem exists_mem_findAll (hProductive : r.Productive) (hConsumes : r.consumes = true)
    {pos q : Nat} {m : List (Nat × Nat)} (way : r.Matches h pos q m) (hSize : pos ≤ h.size) :
    ∃ c ∈ r.program.findAll h, c.start ≤ pos ∧ pos < c.stop :=
  exists_mem_matchesFrom hProductive hConsumes way (Nat.zero_le _) hSize (by omega)

end Regex

end Expurgate
