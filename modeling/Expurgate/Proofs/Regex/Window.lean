import Expurgate.Proofs.Regex.Scan

/-! Matches within lines. An expression that reads no line feed and looks at nothing but the edges of
words does not tell lines in a text from the same lines alone. Main statement: the successive matches
in two texts with a line feed between them are those of the first and those of the second. -/
namespace Expurgate

open Unicode

/-- Whole lines `h` of a text `H`, behind its first `off` characters. -/
structure Window (H h : Array Char) (off : Nat) : Prop where
  same : ∀ p < h.size, H[off + p]? = h[p]?
  before : ∀ c, charBefore H off = some c → c = '\n'
  behind : ∀ c, H[off + h.size]? = some c → c = '\n'

namespace Window

variable {H h : Array Char} {off p : Nat}

theorem lt_of_get (w : Window H h off) {c : Char} (hp : p ≤ h.size) (hChar : H[off + p]? = some c)
    (hc : c ≠ '\n') : p < h.size := by
  rcases Nat.lt_or_eq_of_le hp with hLess | rfl
  · exact hLess
  · exact absurd (w.behind c hChar) hc

/-- At the ends of the lines there is no word character, as at the ends of a text. -/
theorem holds_wordEdge (w : Window H h off) (hp : p ≤ h.size) :
    Look.wordEdge.holds isWord H (off + p) = Look.wordEdge.holds isWord h p := by
  have hFeed : isWord '\n' = false := by decide
  have hSilent {a : Option Char} (ha : ∀ c, a = some c → c = '\n') : a.any isWord = false := by
    cases a with
    | none => rfl
    | some c =>
        rw [ha c rfl]
        exact hFeed
  have hBefore : (charBefore H (off + p)).any isWord = (charBefore h p).any isWord := by
    cases p with
    | zero => exact hSilent w.before
    | succ n =>
        rw [charBefore, charBefore, if_neg (by omega), if_neg (by omega), ← w.same _ (by omega)]
        rfl
  have hAfter : H[off + p]?.any isWord = h[p]?.any isWord := by
    rcases Nat.lt_or_eq_of_le hp with hLess | rfl
    · rw [w.same p hLess]
    · rw [hSilent w.behind, Array.getElem?_eq_none (Nat.le_refl _)]
      rfl
  simp only [Look.holds, hBefore, hAfter]

end Window

namespace Regex

/-- No line feed is read, no group is captured, and only the edges of words are looked at. -/
def LineBound : Regex → Prop
  | empty => True
  | set s => s.contains '\n' = false
  | look l ascii => l = .wordEdge ∧ ascii = false
  | capture _ _ => False
  | seq a b | alt a b => a.LineBound ∧ b.LineBound
  | option _ r | loop _ r => r.LineBound

theorem LineBound.ordered {greedy : Bool} {r : Regex} (hr : (option greedy r).LineBound) :
    (ordered greedy r .empty).LineBound := by
  cases greedy
  · exact ⟨trivial, hr⟩
  · exact ⟨hr, trivial⟩

variable {H h : Array Char} {off : Nat} {r : Regex}

theorem Matches.widen (w : Window H h off) {p q : Nat} {m : List (Nat × Nat)}
    (way : r.Matches h p q m) (hr : r.LineBound) (hp : p ≤ h.size) :
    r.Matches H (off + p) (off + q) m := by
  induction way with
  | empty => exact .empty _
  | set hChar hMem =>
      have hLess := (Array.getElem?_eq_some_iff.mp hChar).1
      exact .set ((w.same _ hLess).trans hChar) hMem
  | look hHolds =>
      obtain ⟨rfl, rfl⟩ := hr
      exact .look ((w.holds_wordEdge hp).trans hHolds)
  | capture => exact hr.elim
  | seq first _ ihFirst ihSecond =>
      exact .seq (ihFirst hr.1 hp) (ihSecond hr.2 (first.le_size hp))
  | left _ ih => exact .left (ih hr.1 hp)
  | right _ ih => exact .right (ih hr.2 hp)
  | option _ ih => exact .option (ih (LineBound.ordered hr) hp)
  | loop _ ih => exact .loop (ih ⟨hr, hr⟩ hp)

theorem Matches.narrow (w : Window H h off) {s s' : Nat} {m : List (Nat × Nat)}
    (way : r.Matches H s s' m) (hr : r.LineBound) {p : Nat} (hp : p ≤ h.size) (hs : s = off + p) :
    ∃ q ≤ h.size, s' = off + q ∧ r.Matches h p q m := by
  induction way generalizing p with
  | empty => exact ⟨p, hp, hs, .empty _⟩
  | @set set _ c hChar hMem =>
      subst hs
      have hc : c ≠ '\n' := by
        rintro rfl
        rw [LineBound, hMem] at hr
        cases hr
      have hLess := w.lt_of_get hp hChar hc
      exact ⟨p + 1, hLess, rfl, .set ((w.same p hLess).symm.trans hChar) hMem⟩
  | look hHolds =>
      subst hs
      obtain ⟨rfl, rfl⟩ := hr
      exact ⟨p, hp, rfl, .look ((w.holds_wordEdge hp).symm.trans hHolds)⟩
  | capture => exact hr.elim
  | seq _ _ ihFirst ihSecond =>
      obtain ⟨q, hq, hMiddle, first⟩ := ihFirst hr.1 hp hs
      obtain ⟨q', hq', hEnd, second⟩ := ihSecond hr.2 hq hMiddle
      exact ⟨q', hq', hEnd, .seq first second⟩
  | left _ ih =>
      obtain ⟨q, hq, hEnd, way⟩ := ih hr.1 hp hs
      exact ⟨q, hq, hEnd, .left way⟩
  | right _ ih =>
      obtain ⟨q, hq, hEnd, way⟩ := ih hr.2 hp hs
      exact ⟨q, hq, hEnd, .right way⟩
  | option _ ih =>
      obtain ⟨q, hq, hEnd, way⟩ := ih (LineBound.ordered hr) hp hs
      exact ⟨q, hq, hEnd, .option way⟩
  | loop _ ih =>
      obtain ⟨q, hq, hEnd, way⟩ := ih ⟨hr, hr⟩ hp hs
      exact ⟨q, hq, hEnd, .loop way⟩

theorem goes_window (w : Window H h off) (hr : r.LineBound) {K K' : Nat → Prop}
    (hK : ∀ q ≤ h.size, K q ↔ K' (off + q)) {p : Nat} (hp : p ≤ h.size) :
    r.Goes h K p ↔ r.Goes H K' (off + p) := by
  constructor
  · rintro ⟨q, m, way, hq⟩
    exact ⟨off + q, m, way.widen w hr hp, (hK q (way.le_size hp)).mp hq⟩
  · rintro ⟨_, m, way, hq'⟩
    obtain ⟨q, hq, rfl, inner⟩ := way.narrow w hr hp rfl
    exact ⟨q, m, inner, (hK q hq).mpr hq'⟩

/-- The preferred way stays the preferred one among lines before and behind. -/
theorem Prefers.widen (w : Window H h off) {K K' : Nat → Prop} {p q : Nat} {m : List (Nat × Nat)}
    (way : r.Prefers h K p q m) (hr : r.LineBound) (hp : p ≤ h.size)
    (hK : ∀ q ≤ h.size, K q ↔ K' (off + q)) : r.Prefers H K' (off + p) (off + q) m := by
  induction way generalizing K' with
  | empty hHere => exact .empty ((hK _ hp).mp hHere)
  | set hChar hMem hHere =>
      have hLess := (Array.getElem?_eq_some_iff.mp hChar).1
      exact .set ((w.same _ hLess).trans hChar) hMem ((hK _ hLess).mp hHere)
  | look hHolds hHere =>
      obtain ⟨rfl, rfl⟩ := hr
      exact .look ((w.holds_wordEdge hp).trans hHolds) ((hK _ hp).mp hHere)
  | capture => exact hr.elim
  | seq first _ ihFirst ihSecond =>
      exact .seq (ihFirst hr.1 hp fun q hq => goes_window w hr.2 hK hq)
        (ihSecond hr.2 (first.matches.1.le_size hp) hK)
  | left _ ih => exact .left (ih hr.1 hp hK)
  | right hLeft _ ih =>
      exact .right (fun hGoes => hLeft ((goes_window w hr.1 hK hp).mpr hGoes)) (ih hr.2 hp hK)
  | option _ ih => exact .option (ih (LineBound.ordered hr) hp hK)
  | loop _ ih => exact .loop (ih ⟨hr, hr⟩ hp hK)

/-- There is only one preferred way. -/
theorem Prefers.unique {K : Nat → Prop} {p q q' : Nat} {m m' : List (Nat × Nat)}
    (way : r.Prefers h K p q m) (other : r.Prefers h K p q' m') : q = q' ∧ m = m' := by
  induction way generalizing q' m' with
  | empty =>
      cases other
      exact ⟨rfl, rfl⟩
  | set =>
      cases other
      exact ⟨rfl, rfl⟩
  | look =>
      cases other
      exact ⟨rfl, rfl⟩
  | capture _ ih =>
      cases other with
      | capture body =>
          obtain ⟨rfl, rfl⟩ := ih body
          exact ⟨rfl, rfl⟩
  | seq _ _ ihFirst ihSecond =>
      cases other with
      | seq first second =>
          obtain ⟨rfl, rfl⟩ := ihFirst first
          obtain ⟨rfl, rfl⟩ := ihSecond second
          exact ⟨rfl, rfl⟩
  | left branch ih =>
      cases other with
      | left branch' => exact ih branch'
      | right hLeft _ => exact absurd ⟨_, _, branch.matches.1, branch.matches.2⟩ hLeft
  | right hLeft _ ih =>
      cases other with
      | left branch' => exact absurd ⟨_, _, branch'.matches.1, branch'.matches.2⟩ hLeft
      | right _ branch' => exact ih branch'
  | option _ ih =>
      cases other with
      | option choice => exact ih choice
  | loop _ ih =>
      cases other with
      | loop rounds => exact ih rounds

theorem FindsAt.unique {start : Nat} {c c' : Captures} (finds : r.FindsAt h start c)
    (finds' : r.FindsAt h start c') : c = c' := by
  have hMatches {d : Captures} (finds : r.FindsAt h start d) : ∃ q m, r.Matches h d.start q m :=
    ⟨_, _, finds.way.matches.1⟩
  have hStart : c.start = c'.start := by
    rcases Nat.lt_trichotomy c.start c'.start with hLess | hEq | hLess
    · exact absurd (hMatches finds) (finds'.none_before _ finds.start_le hLess)
    · exact hEq
    · exact absurd (hMatches finds') (finds.none_before _ finds'.start_le hLess)
  obtain ⟨hStop, hMarks⟩ := finds.way.unique (hStart ▸ finds'.way)
  cases c
  cases c'
  simp_all

/-- Leftmost matches from `start` on, each behind the one before it, and nothing matches behind the
last one. -/
inductive Scan (r : Regex) (h : Array Char) : Nat → List Captures → Prop where
  | done {start : Nat}
      (hNone : ∀ pos, start ≤ pos → pos ≤ h.size → ¬∃ q m, r.Matches h pos q m) : Scan r h start []
  | next {start : Nat} {c : Captures} {rest : List Captures} (finds : r.FindsAt h start c)
      (tail : Scan r h c.stop rest) : Scan r h start (c :: rest)

namespace Scan

variable {start : Nat} {l l' : List Captures}

theorem unique (scan : r.Scan h start l) (scan' : r.Scan h start l') : l = l' := by
  have hNever {start : Nat} {c : Captures} (finds : r.FindsAt h start c)
      (hNone : ∀ pos, start ≤ pos → pos ≤ h.size → ¬∃ q m, r.Matches h pos q m) : False :=
    hNone c.start finds.start_le finds.start_le_size ⟨_, _, finds.way.matches.1⟩
  induction scan generalizing l' with
  | done hNone =>
      cases scan' with
      | done => rfl
      | next finds _ => exact (hNever finds hNone).elim
  | next finds _ ih =>
      cases scan' with
      | done hNone => exact (hNever finds hNone).elim
      | next finds' tail =>
          obtain rfl := finds.unique finds'
          rw [ih tail]

/-- A scan may begin earlier, where nothing matches. -/
theorem earlier {start' : Nat} (scan : r.Scan h start l) (hLe : start' ≤ start)
    (hNone : ∀ pos, start' ≤ pos → pos < start → ¬∃ q m, r.Matches h pos q m) :
    r.Scan h start' l := by
  cases scan with
  | done hRest =>
      refine .done fun pos hFrom hTo => ?_
      rcases Nat.lt_or_ge pos start with hBefore | hBehind
      · exact hNone pos hFrom hBefore
      · exact hRest pos hBehind hTo
  | next finds tail =>
      refine .next ⟨Nat.le_trans hLe finds.start_le, finds.start_le_size, finds.way, ?_⟩ tail
      intro pos hFrom hTo
      rcases Nat.lt_or_ge pos start with hBefore | hBehind
      · exact hNone pos hFrom hBefore
      · exact finds.none_before pos hBehind hTo

end Scan

/-- The successive matches of an expression that always reads something are a scan of the text. -/
theorem scan_matchesFrom (hProductive : r.Productive) (hConsumes : r.consumes = true) {n start : Nat}
    {last : Option Nat} (hStart : start ≤ h.size) (hEnough : h.size < start + n) :
    r.Scan h start (r.program.matchesFrom h n start last) := by
  induction n generalizing start last with
  | zero => omega
  | succ n ih =>
      have hSearch := @findFrom_program r h hProductive start (by omega)
      rw [Program.matchesFrom, findNext_program hProductive hConsumes hStart]
      cases hFound : r.program.findFrom h start with
      | none => exact .done (hSearch.2 hFound)
      | some c =>
          have finds := hSearch.1 c hFound
          have hLess := finds.way.matches.1.lt_of_consumes hConsumes
          have := finds.start_le
          exact .next finds (ih (Program.findFrom_bounds hFound).2.2 (by omega))

theorem scan_findAll (hProductive : r.Productive) (hConsumes : r.consumes = true) :
    r.Scan h 0 (r.program.findAll h) :=
  scan_matchesFrom hProductive hConsumes (Nat.zero_le _) (by omega)

end Regex

def Captures.shift (off : Nat) (c : Captures) : Captures :=
  { c with start := off + c.start, stop := off + c.stop }

namespace Regex

variable {H h : Array Char} {off start : Nat} {r : Regex} {l : List Captures}

theorem FindsAt.widen (w : Window H h off) (hr : r.LineBound) {c : Captures}
    (finds : r.FindsAt h start c) (hSize : off + h.size ≤ H.size) :
    r.FindsAt H (off + start) (c.shift off) := by
  refine ⟨Nat.add_le_add_left finds.start_le off,
    Nat.le_trans (Nat.add_le_add_left finds.start_le_size off) hSize,
    finds.way.widen w hr finds.start_le_size fun _ _ => Iff.rfl, ?_⟩
  rintro pos hFrom hTo ⟨q, m, way⟩
  simp only [Captures.shift] at hTo
  have hLe := finds.start_le_size
  obtain ⟨q, -, -, way⟩ := way.narrow w hr (p := pos - off) (by omega) (by omega)
  exact finds.none_before (pos - off) (by omega) (by omega) ⟨q, m, way⟩

/-- A scan of the last lines of a text is a scan of the text from there on. -/
theorem Scan.widen_last (w : Window H h off) (hr : r.LineBound) (hSize : off + h.size = H.size)
    (scan : r.Scan h start l) : r.Scan H (off + start) (l.map (Captures.shift off)) := by
  induction scan with
  | done hNone =>
      refine .done fun pos hFrom hTo hMatches => ?_
      obtain ⟨q, m, way⟩ := hMatches
      obtain ⟨q, -, -, way⟩ := way.narrow w hr (p := pos - off) (by omega) (by omega)
      exact hNone (pos - off) (by omega) (by omega) ⟨q, m, way⟩
  | next finds _ ih => exact .next (finds.widen w hr (Nat.le_of_eq hSize)) ih

/-- A scan of the first lines of a text goes on with one of what follows their line feed. -/
theorem Scan.widen_first (w : Window H h 0) (hr : r.LineBound) (hSize : h.size < H.size)
    (scan : r.Scan h start l) (hStart : start ≤ h.size) {rest : List Captures}
    (scan' : r.Scan H (h.size + 1) rest) : r.Scan H start (l ++ rest) := by
  induction scan with
  | done hNone =>
      refine scan'.earlier (by omega) fun pos hFrom hTo hMatches => ?_
      obtain ⟨q, m, way⟩ := hMatches
      obtain ⟨q, -, -, inner⟩ := way.narrow w hr (p := pos) (by omega) (by omega)
      exact hNone pos hFrom (by omega) ⟨q, m, inner⟩
  | @next start c rest finds _ ih =>
      have finds' := finds.widen w hr (by omega)
      rw [Nat.zero_add, show c.shift 0 = c by simp [Captures.shift]] at finds'
      exact .next finds' (ih (finds.way.matches.1.le_size finds.start_le_size))

end Regex

/-- Two texts with a line feed between them. -/
def joinLines (a b : Array Char) : Array Char := a.push '\n' ++ b

section Join

variable (a b : Array Char)

theorem toList_joinLines : (joinLines a b).toList = a.toList ++ '\n' :: b.toList := by
  simp [joinLines]

theorem size_joinLines : (joinLines a b).size = a.size + 1 + b.size := by
  simp [joinLines]

theorem joinLines_get_feed : (joinLines a b)[a.size]? = some '\n' := by
  simp [← Array.getElem?_toList, toList_joinLines]

theorem window_joinLines_left : Window (joinLines a b) a 0 where
  same p hp := by
    rw [Nat.zero_add, ← Array.getElem?_toList, toList_joinLines, ← Array.getElem?_toList]
    exact List.getElem?_append_left hp
  before c hChar := by
    rw [charBefore, if_pos rfl] at hChar
    cases hChar
  behind c hChar := by
    rw [Nat.zero_add, joinLines_get_feed] at hChar
    exact (Option.some.inj hChar).symm

theorem window_joinLines_right : Window (joinLines a b) b (a.size + 1) where
  same p _ := by
    rw [← Array.getElem?_toList, toList_joinLines, ← Array.getElem?_toList,
      List.getElem?_append_right (by rw [Array.length_toList]; omega), Array.length_toList,
      show a.size + 1 + p - a.size = p + 1 by omega, List.getElem?_cons_succ]
  before c hChar := by
    rw [charBefore, if_neg (Nat.succ_ne_zero _), Nat.add_sub_cancel, joinLines_get_feed] at hChar
    exact (Option.some.inj hChar).symm
  behind c hChar := by
    rw [← size_joinLines, Array.getElem?_eq_none (Nat.le_refl _)] at hChar
    cases hChar

/-- The successive matches in two texts with a line feed between them are those of the first and
those of the second. -/
theorem Regex.findAll_joinLines {r : Regex} (hProductive : r.Productive)
    (hConsumes : r.consumes = true) (hr : r.LineBound) :
    r.program.findAll (joinLines a b) =
      r.program.findAll a ++ (r.program.findAll b).map (Captures.shift (a.size + 1)) := by
  have last := (scan_findAll (h := b) hProductive hConsumes).widen_last
    (window_joinLines_right a b) hr (size_joinLines a b).symm
  have whole := (scan_findAll (h := a) hProductive hConsumes).widen_first
    (window_joinLines_left a b) hr (by rw [size_joinLines]; omega) (Nat.zero_le _) last
  exact (scan_findAll hProductive hConsumes).unique whole

end Join

end Expurgate
