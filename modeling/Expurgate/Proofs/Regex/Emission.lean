import Expurgate.Proofs.Regex.Matching

/-! Where the instructions for an expression lie. Emission yields a fragment for each part of the
expression, and nothing that is emitted later changes it. -/
namespace Expurgate

open Unicode

/-- Instructions that match an expression from the address `entry` on and go on at `next`. -/
inductive Fragment (code : Array Instr) : Regex → Nat → Nat → Prop where
  | empty (next : Nat) : Fragment code .empty next next
  | set {s : CharSet} {entry next : Nat} (hCode : code[entry]? = some (.set s next)) :
      Fragment code (.set s) entry next
  | look {l : Look} {ascii : Bool} {entry next : Nat}
      (hCode : code[entry]? = some (.look l ascii next)) :
      Fragment code (.look l ascii) entry next
  | capture {i : Nat} {r : Regex} {entry body close next : Nat}
      (hOpen : code[entry]? = some (.mark (2 * i) body)) (inner : Fragment code r body close)
      (hClose : code[close]? = some (.mark (2 * i + 1) next)) :
      Fragment code (.capture i r) entry next
  | seq {a b : Regex} {entry middle next : Nat} (first : Fragment code a entry middle)
      (second : Fragment code b middle next) : Fragment code (.seq a b) entry next
  | alt {a b : Regex} {entry left right next : Nat}
      (hCode : code[entry]? = some (.split left right)) (first : Fragment code a left next)
      (second : Fragment code b right next) : Fragment code (.alt a b) entry next
  | option {greedy : Bool} {r : Regex} {entry body next : Nat}
      (hCode : code[entry]? = some (Program.choice greedy body next))
      (inner : Fragment code r body next) : Fragment code (.option greedy r) entry next
  | loop {greedy : Bool} {r : Regex} {body again next : Nat}
      (hCode : code[again]? = some (Program.choice greedy body next))
      (inner : Fragment code r body again) : Fragment code (.loop greedy r) body next

namespace Program

/-- Code is only ever added at the end, so what was emitted before stays where it is. -/
theorem size_le_emit (r : Regex) (next : Nat) (code : Array Instr) :
    code.size ≤ (emit r next code).2.size := by
  induction r generalizing next code with
  | empty => simp [emit]
  | set | look => simp [emit, push]
  | capture i r ih =>
      simp only [emit, push, Array.size_push]
      have := ih code.size (code.push (.mark (2 * i + 1) next))
      simp only [Array.size_push] at this
      omega
  | seq a b iha ihb => exact Nat.le_trans (ihb _ _) (iha _ _)
  | alt a b iha ihb =>
      simp only [emit, push, Array.size_push]
      exact Nat.le_succ_of_le (Nat.le_trans (ihb next code) (iha _ _))
  | option greedy r ih =>
      simp only [emit, push, Array.size_push]
      exact Nat.le_succ_of_le (ih next code)
  | loop greedy r ih =>
      simp only [emit, push, Array.size_setIfInBounds]
      have := ih code.size (code.push .fail)
      simp only [Array.size_push] at this
      omega

/-- Emitting leaves the instructions that are there as they are. -/
theorem getElem?_emit (r : Regex) (next : Nat) (code : Array Instr) {i : Nat}
    (hi : i < code.size) : (emit r next code).2[i]? = code[i]? := by
  induction r generalizing next code with
  | empty => simp [emit]
  | set | look => simp [emit, push, Array.getElem?_push, Nat.ne_of_lt hi]
  | capture k r ih =>
      have hSize := size_le_emit r code.size (code.push (.mark (2 * k + 1) next))
      simp only [Array.size_push] at hSize
      simp only [emit, push]
      rw [Array.getElem?_push, if_neg (by omega), ih _ _ (by simp; omega), Array.getElem?_push,
        if_neg (by omega)]
  | seq a b iha ihb =>
      simp only [emit]
      rw [iha _ _ (Nat.lt_of_lt_of_le hi (size_le_emit b next code)), ihb _ _ hi]
  | alt a b iha ihb =>
      have hb := size_le_emit b next code
      have ha := size_le_emit a next (emit b next code).2
      simp only [emit, push]
      rw [Array.getElem?_push, if_neg (by omega), iha _ _ (by omega), ihb _ _ hi]
  | option greedy r ih =>
      have hr := size_le_emit r next code
      simp only [emit, push]
      rw [Array.getElem?_push, if_neg (by omega), ih _ _ hi]
  | loop greedy r ih =>
      simp only [emit, push]
      rw [Array.getElem?_setIfInBounds_ne (by omega), ih _ _ (by simp; omega),
        Array.getElem?_push, if_neg (by omega)]

/-- Whatever is emitted later, and whatever choice is filled in before it, the instructions emitted
for an expression stay a fragment for it. -/
theorem fragment_emit (r : Regex) (next : Nat) (code final : Array Instr)
    (hFinal : ∀ i, code.size ≤ i → i < (emit r next code).2.size →
      final[i]? = (emit r next code).2[i]?) :
    Fragment final r (emit r next code).1 next := by
  induction r generalizing next code with
  | empty => exact .empty next
  | set s =>
      simp only [emit, push, Array.size_push] at hFinal ⊢
      refine .set ?_
      rw [hFinal _ (Nat.le_refl _) (by omega), Array.getElem?_push, if_pos rfl]
  | look l ascii =>
      simp only [emit, push, Array.size_push] at hFinal ⊢
      refine .look ?_
      rw [hFinal _ (Nat.le_refl _) (by omega), Array.getElem?_push, if_pos rfl]
  | capture k r ih =>
      have hSize := size_le_emit r code.size (code.push (.mark (2 * k + 1) next))
      simp only [Array.size_push] at hSize
      simp only [emit, push, Array.size_push] at hFinal ⊢
      refine @Fragment.capture _ k r _ _ code.size _ ?_
        (ih code.size (code.push (.mark (2 * k + 1) next)) ?_) ?_
      · rw [hFinal _ (by omega) (by omega), Array.getElem?_push, if_pos rfl]
      · intro i hLower hUpper
        simp only [Array.size_push] at hLower
        rw [hFinal i (by omega) (by omega), Array.getElem?_push, if_neg (by omega)]
      · rw [hFinal _ (Nat.le_refl _) (by omega), Array.getElem?_push, if_neg (by omega),
          getElem?_emit _ _ _ (by simp), Array.getElem?_push, if_pos rfl]
  | seq a b iha ihb =>
      have hb := size_le_emit b next code
      have ha := size_le_emit a (emit b next code).1 (emit b next code).2
      simp only [emit] at hFinal ⊢
      refine .seq (iha _ _ ?_) (ihb next code ?_)
      · intro i hLower hUpper
        exact hFinal i (by omega) hUpper
      · intro i hLower hUpper
        rw [hFinal i hLower (by omega), getElem?_emit _ _ _ hUpper]
  | alt a b iha ihb =>
      have hb := size_le_emit b next code
      have ha := size_le_emit a next (emit b next code).2
      simp only [emit, push, Array.size_push] at hFinal ⊢
      refine .alt ?_ (iha next (emit b next code).2 ?_) (ihb next code ?_)
      · rw [hFinal _ (by omega) (by omega), Array.getElem?_push, if_pos rfl]
      · intro i hLower hUpper
        rw [hFinal i (by omega) (by omega), Array.getElem?_push, if_neg (by omega)]
      · intro i hLower hUpper
        rw [hFinal i hLower (by omega), Array.getElem?_push, if_neg (by omega),
          getElem?_emit _ _ _ hUpper]
  | option greedy r ih =>
      have hr := size_le_emit r next code
      simp only [emit, push, Array.size_push] at hFinal ⊢
      refine @Fragment.option _ greedy r _ (emit r next code).1 _ ?_ (ih next code ?_)
      · rw [hFinal _ (by omega) (by omega), Array.getElem?_push, if_pos rfl]
      · intro i hLower hUpper
        rw [hFinal i hLower (by omega), Array.getElem?_push, if_neg (by omega)]
  | loop greedy r ih =>
      have hr := size_le_emit r code.size (code.push .fail)
      simp only [Array.size_push] at hr
      simp only [emit, push, Array.size_setIfInBounds] at hFinal ⊢
      refine @Fragment.loop _ greedy r _ code.size _ ?_ (ih code.size (code.push .fail) ?_)
      · rw [hFinal _ (Nat.le_refl _) (by omega), Array.getElem?_setIfInBounds_self_of_lt (by omega)]
      · intro i hLower hUpper
        simp only [Array.size_push] at hLower
        rw [hFinal i (by omega) hUpper, Array.getElem?_setIfInBounds_ne (by omega)]

end Program

/-- The program of an expression is one fragment that goes on at the accepting instruction. -/
theorem Regex.fragment_program (r : Regex) : Fragment r.program.code r r.program.entry 0 :=
  Program.fragment_emit r 0 #[.accept] _ fun _ _ _ => rfl

/-- The first instruction of a program is the one that accepts. The code of the expression is emitted
behind it and leads there. -/
theorem Regex.program_accept (r : Regex) : r.program.code[0]? = some .accept := by
  have hOld := Program.getElem?_emit r 0 #[.accept] (i := 0) (by simp)
  simpa [Regex.program] using hOld

namespace Fragment

variable {p : Program} {h : Array Char}

/-- A choice in front of a body and of what follows is an alternative of the two. -/
theorem ordered {greedy : Bool} {r : Regex} {entry body next : Nat}
    (inner : Fragment p.code r body next)
    (hCode : p.code[entry]? = some (Program.choice greedy body next)) :
    Fragment p.code (Regex.ordered greedy r .empty) entry next := by
  cases greedy
  · exact .alt hCode (.empty next) inner
  · exact .alt hCode inner (.empty next)

/-- A loop is its body followed by the choice of another loop. -/
theorem unroll {greedy : Bool} {r : Regex} {body again next : Nat}
    (inner : Fragment p.code r body again)
    (hCode : p.code[again]? = some (Program.choice greedy body next)) :
    Fragment p.code (.seq r (.option greedy (.loop greedy r))) body next :=
  .seq inner (.option hCode (.loop hCode inner))

end Fragment

end Expurgate
