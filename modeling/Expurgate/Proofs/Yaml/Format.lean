import Expurgate.Yaml.Format
import Expurgate.Proofs.Config.Format
import Mathlib.Tactic.Common

/-! JSON values as YAML nodes: texts and names in quotes, flags and numbers as they are. YAML reads
them back as JSON does. -/
namespace Expurgate.Yaml

mutual

/-- The node that stands for a JSON value. -/
def Node.ofJson : Json → Node
  | .null => .scalar "null" .plain none
  | .flag b => .scalar (if b then "true" else "false") .plain none
  | .integer n => .scalar (toString n) .plain none
  | .decimal digits => .scalar digits .plain none
  | .text s => .scalar s .quoted none
  | .list values => .sequence (Node.ofJsonList values) none
  | .object fields => .mapping (Node.ofJsonFields fields) none

def Node.ofJsonList : List Json → List Node
  | [] => []
  | v :: rest => Node.ofJson v :: Node.ofJsonList rest

def Node.ofJsonFields : List (String × Json) → List (Node × Node)
  | [] => []
  | (name, v) :: rest => (.scalar name .quoted none, Node.ofJson v) :: Node.ofJsonFields rest

end

theorem Node.ofJsonList_eq (l : List Json) : Node.ofJsonList l = l.map Node.ofJson := by
  induction l with
  | nil => rfl
  | cons v rest ih => rw [Node.ofJsonList, ih, List.map_cons]

/-- Field by field, with the names as quoted scalars that are never taken for anything but text. -/
theorem Node.ofJsonFields_eq (l : List (String × Json)) :
    Node.ofJsonFields l = l.map fun f => (.scalar f.1 .quoted none, Node.ofJson f.2) := by
  induction l with
  | nil => rfl
  | cons f rest ih => rw [Node.ofJsonFields, ih, List.map_cons]

section Digits

/-- The digits that a number is written in have their own values. -/
theorem digitValue_digitChar : ∀ d < 10, digitValue d.digitChar = some d := by decide

/-- A number is read back from its decimal digits. The most significant one comes first on both
sides. -/
theorem numberInBase_toDigits (n : Nat) : numberInBase 10 (Nat.toDigits 10 n) = some n := by
  have hFull (n : Nat) : (Nat.toDigits 10 n).isEmpty = false := by
    simp [Nat.toDigits_ne_nil]
  induction n using Nat.strongRecOn with
  | ind n ih =>
      rcases Nat.lt_or_ge n 10 with hOne | hMore
      · rw [Nat.toDigits_of_lt_base hOne]
        simp [numberInBase, digitValue_digitChar n hOne, hOne]
      · have hLast : n % 10 < 10 := Nat.mod_lt _ (by decide)
        have hFront := ih (n / 10) (by omega)
        rw [numberInBase, hFull] at hFront
        rw [numberInBase, hFull, Nat.toDigits_of_base_le (by decide) hMore]
        simp only [Bool.false_eq_true, if_false] at hFront ⊢
        rw [List.foldlM_append, hFront]
        simp [digitValue_digitChar _ hLast, hLast]
        omega

/-- Only zero is written with a zero in front. -/
theorem head_toDigits {n : Nat} (hPos : 0 < n) : (Nat.toDigits 10 n).head? ≠ some '0' := by
  induction n using Nat.strongRecOn with
  | ind n ih =>
      rcases Nat.lt_or_ge n 10 with hOne | hMore
      · rw [Nat.toDigits_of_lt_base hOne]
        exact (by decide : ∀ d < 10, 0 < d → [d.digitChar].head? ≠ some '0') n hOne hPos
      · have hFront := ih (n / 10) (by omega) (by omega)
        rw [Nat.toDigits_of_base_le (by decide) hMore]
        cases hDigits : Nat.toDigits 10 (n / 10) with
        | nil => exact absurd hDigits Nat.toDigits_ne_nil
        | cons c rest => simpa [hDigits] using hFront

/-- A number is read from its digits. -/
theorem naturalOfText_repr {limit n : Nat} (hFits : n < limit) :
    naturalOfText limit n.repr.toList = some n := by
  rw [Nat.toList_repr]
  have hOther (c : Char) (hNot : c.isDigit = false) : c ∉ Nat.toDigits 10 n := fun hMem =>
    Bool.false_ne_true (hNot.symm.trans (Nat.isDigit_of_mem_toDigits (by decide) (by decide) hMem))
  have hSign (signs : List Char) (hSigns : signs.all (!·.isDigit)) :
      withoutSign signs (Nat.toDigits 10 n) = Nat.toDigits 10 n := by
    cases hDigits : Nat.toDigits 10 n with
    | nil => rfl
    | cons c rest =>
        refine if_neg fun hMem => ?_
        have hNot := List.all_eq_true.mp hSigns c (List.contains_iff_mem.mp hMem)
        exact hOther c (by simpa using hNot) (hDigits ▸ List.mem_cons_self)
  have hMarked : markedBase (Nat.toDigits 10 n) = none := by
    unfold markedBase
    split <;> rename_i hDigits
    · exact absurd (by simp [hDigits]) (hOther 'x' rfl)
    · exact absurd (by simp [hDigits]) (hOther 'o' rfl)
    · exact absurd (by simp [hDigits]) (hOther 'b' rfl)
    · rfl
  have hZero : isZeroPadded (Nat.toDigits 10 n) = false := by
    rw [isZeroPadded, hSign _ (by decide)]
    split
    · rename_i d rest hDigits
      rcases Nat.eq_zero_or_pos n with rfl | hPos
      · simp [Nat.toDigits_zero] at hDigits
      · exact absurd (by rw [hDigits]; rfl) (head_toDigits hPos)
    · rfl
  simp [naturalOfText, hSign, hMarked, hZero, numberInBase_toDigits, hFits]

/-- Only numbers below the limit are read at all. -/
theorem lt_of_naturalOfText {limit n : Nat} {s : List Char}
    (hRead : naturalOfText limit s = some n) : n < limit := by
  simp only [naturalOfText] at hRead
  generalize (markedBase (withoutSign ['+'] s)).bind (fun x => numberInBase x.1 x.2) = marked
    at hRead
  cases marked with
  | some m =>
      obtain ⟨hFits, hSame⟩ := Option.ite_none_right_eq_some.mp hRead
      exact Option.some.inj hSame ▸ hFits
  | none =>
      obtain ⟨-, hFiltered⟩ := Option.ite_none_left_eq_some.mp hRead
      exact of_decide_eq_true (Option.filter_eq_some_iff.mp hFiltered).2

end Digits

namespace Document

variable (d : Document)

/-- So no count is read that does not fit into 64 bits. -/
theorem bounded_format : d.format.Bounded := by
  intro doc n hCount
  change d.count doc = some n at hCount
  unfold count at hCount
  split at hCount
  · split at hCount
    · exact lt_of_naturalOfText hCount
    · cases hCount
  · cases hCount

/-- YAML reads back the node of every value, kind by kind. Texts and names are written in quotes, so
that none of them is taken for a number, a flag or nothing. -/
theorem reads_format : d.format.Reads Node.ofJson where
  null := rfl
  presentText _ := rfl
  presentFlag b := by cases b <;> rfl
  presentList _ := rfl
  text _ := rfl
  flag b := by cases b <;> rfl
  count n hFits := naturalOfText_repr hFits
  name _ := rfl
  list l := congrArg some (Node.ofJsonList_eq l)
  record fields hNodup := by
    let node : String × Node → Node × Node := fun f => (.scalar f.1 .quoted none, f.2)
    let known : List (String × Node) := fields.map fun f => (f.1, Node.ofJson f.2)
    have hNodes : Node.ofJsonFields fields = known.map node := by
      rw [Node.ofJsonFields_eq, List.map_map]
      rfl
    have hNames : known.map (·.1) = fields.map (·.1) := by simp [known]
    have hAll : known.filter (fun f => (fields.map (·.1)).contains f.1) = known :=
      List.filter_eq_self.mpr fun f hf =>
        List.contains_iff_mem.mpr (hNames ▸ List.mem_map_of_mem hf)
    have hRead : (known.map node).mapM (fun f => (d.text f.1).map fun k => (k, f.2)) = some known :=
      mapM_map fun _ _ => rfl
    change d.record _ (.mapping (Node.ofJsonFields fields) none) = some known
    rw [hNodes, record]
    simp only [Document.fields, resolve, hRead, Option.bind_eq_bind, Option.bind_some, hAll, hNames,
      hNodup, if_true]
  texts l := by
    change d.texts (.sequence (Node.ofJsonList (l.map .text)) none) = some l
    rw [Node.ofJsonList_eq, List.map_map]
    exact mapM_map fun _ _ => rfl

end Document

end Expurgate.Yaml
