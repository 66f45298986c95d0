import Expurgate.Files
import Expurgate.Proofs.Lines

/-! A file that is put where a path lets it be written is found at the end of this path. -/
namespace Expurgate.FileTree

variable {t : FileTree} {k l folder : Location} {s path : String}

theorem file?_put_self (t : FileTree) (l : Location) (s : String) :
    (t.put l s).file? l = some (.text s) := by
  simp [file?, put]

/-- Files elsewhere stay. -/
theorem file?_put_of_ne (hNe : k ≠ l) : (t.put l s).file? k = t.file? k := by
  have hOthers (files : List (Location × FileContent)) :
      (files.filter (·.1 ≠ l)).lookup k = files.lookup k := by
    induction files with
    | nil => rfl
    | cons f rest ih =>
        obtain ⟨place, content⟩ := f
        by_cases hPlace : place = l
        · subst hPlace
          rw [List.filter_cons_of_neg (by simp), ih, List.lookup_cons, beq_eq_false_iff_ne.mpr hNe]
        · rw [List.filter_cons_of_pos (by simpa using hPlace), List.lookup_cons, List.lookup_cons, ih]
  rw [file?, put, List.lookup_cons, beq_eq_false_iff_ne.mpr hNe]
  exact hOthers t.files

/-- A folder stays one, for a file that is put in the place of another is in the same folder. -/
theorem isFolder_put (hFolder : t.isFolder k) : (t.put l s).isFolder k := by
  simp only [isFolder, put, Bool.or_eq_true, List.any_cons, List.any_eq_true] at hFolder ⊢
  rcases hFolder with hListed | ⟨f, hf, hIn⟩
  · exact .inl hListed
  · by_cases hPlace : f.1 = l
    · exact .inr (.inl (hPlace ▸ hIn))
    · exact .inr (.inr ⟨f, List.mem_filter.mpr ⟨hf, decide_eq_true hPlace⟩, hIn⟩)

/-- One name of a path is followed if there is a folder to follow it in. A name may also stand for
the folder itself, or lead back. -/
theorem walk_cons (hFree : t.file? k = none) (hFolder : t.isFolder k = true) (name : String)
    (rest : List String) : t.walk k (name :: rest) =
      t.walk (if name = "" ∨ name = "." then k else if name = ".." then k.dropLast
        else k ++ [name]) rest := by
  rw [walk, hFree, hFolder]
  simp only [Option.isSome_none, Bool.false_eq_true, if_false, Bool.not_true]
  repeat' split
  all_goals rfl

/-- Where a way could be gone on, there was a folder at its beginning. -/
theorem folder_of_walk_cons {name : String} {rest : List String}
    (hWalk : t.walk k (name :: rest) = .ok l) : t.file? k = none ∧ t.isFolder k = true := by
  rw [walk] at hWalk
  split at hWalk
  · cases hWalk
  · rename_i hFree
    split at hWalk
    · cases hWalk
    · rename_i hFolder
      exact ⟨by simpa using hFree, by simpa using hFolder⟩

/-- The way to a place that is no folder does not lead over this place, so it is still there when a
file is put at its end. -/
theorem walk_put {names : List String} (hWalk : t.walk k names = .ok l)
    (hEnd : t.isFolder l = false) : (t.put l s).walk k names = .ok l := by
  induction names generalizing k with
  | nil => exact hWalk
  | cons name rest ih =>
      obtain ⟨hFree, hFolder⟩ := folder_of_walk_cons hWalk
      have hNe : k ≠ l := fun hSame => Bool.false_ne_true (hEnd.symm.trans (hSame ▸ hFolder))
      rw [walk_cons hFree hFolder] at hWalk
      rw [walk_cons ((file?_put_of_ne hNe).trans hFree) (isFolder_put hFolder)]
      exact ih hWalk

/-- A path that does not end in a slash has a name at its end. -/
theorem getLast?_splitOn {a c : Char} {l : List Char} (hLast : l.getLast? = some c) (hNe : c ≠ a) :
    (l.splitOn a).getLast? ≠ some [] := by
  obtain ⟨lines, last, rfl, hLines, hFree⟩ := exists_joined a l
  rw [splitOn_joined hLines hFree, List.getLast?_concat]
  rintro ⟨⟩
  rcases lines.eq_nil_or_concat' with rfl | ⟨front, line, rfl⟩
  · cases hLast
  · have hEnd : (joined a (front ++ [line]) []).getLast? = some a := by simp [joined]
    exact hNe (Option.some.inj (hLast.symm.trans hEnd))

/-- The names of a path that does not end in a slash have no empty one at their end. -/
theorem names_rdropWhile (hPath : path ≠ "") (hSlash : path.toList.getLast? ≠ some '/') :
    ((names path).reverse.dropWhile (· = "")).reverse = names path := by
  refine List.rdropWhile_eq_self_iff.mpr fun hSome hEmpty => ?_
  obtain ⟨c, hLast⟩ : ∃ c, path.toList.getLast? = some c :=
    Option.ne_none_iff_exists'.mp fun hNone =>
      hPath (String.toList_eq_nil_iff.mp (List.getLast?_eq_none_iff.mp hNone))
  have hName : ((path.toList.splitOn '/').map String.ofList).getLast? = some "" := by
    rw [← of_decide_eq_true hEmpty]
    exact List.getLast?_eq_some_getLast hSome
  rw [List.getLast?_map] at hName
  obtain ⟨last, hThere, hNone⟩ := Option.map_eq_some_iff.mp hName
  obtain rfl : last = [] := by simpa using hNone
  have hNe : c ≠ '/' := fun hSame => hSlash (hSame ▸ hLast)
  exact getLast?_splitOn hLast hNe hThere

/-- Where a file may be written, the path leads to a place that is no folder. -/
theorem walk_of_target (hTarget : t.target folder path = .ok l) :
    path ≠ "" ∧ t.walk (origin folder path) (names path) = .ok l ∧ t.isFolder l = false := by
  by_cases hPath : path = ""
  · subst hPath
    cases hTarget
  · simp only [target, if_neg hPath, bind, Except.bind] at hTarget
    split at hTarget
    · cases hTarget
    · rename_i place hWalk
      split at hTarget
      · cases hTarget
      · rename_i hOpen
        obtain ⟨hSlash, hFolder⟩ := not_or.mp hOpen
        obtain rfl := Except.ok.inj hTarget
        refine ⟨hPath, ?_, Bool.eq_false_iff.mpr hFolder⟩
        rwa [names_rdropWhile hPath hSlash] at hWalk

/-- The text of a file that was put at the place of a path is read along this path. -/
theorem read_put (hTarget : t.target folder path = .ok l) :
    (t.put l s).read folder path = .ok s := by
  obtain ⟨hPath, hWalk, hEnd⟩ := walk_of_target hTarget
  have hLocate : (t.put l s).locate folder path = .ok l := by
    rw [locate, if_neg hPath, walk_put hWalk hEnd]
  rw [read, hLocate]
  simp [bind, Except.bind, file?_put_self, pure, Except.pure]

end Expurgate.FileTree
