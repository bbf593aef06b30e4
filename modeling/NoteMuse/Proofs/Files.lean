import NoteMuse.Grammar.File
import NoteMuse.Proofs.Text.Separable

/-!
Entries of directories. No name of an entry holds a stroke, so the path of an entry leads to a file of that
name; and the entries of a directory are listed in the order of their names. Main statements:
`Path.fileName_join`, `FileNode.sorted_perm`, `FileNode.sorted_pairwise`.
-/

namespace NoteMuse

open Text

/-! ### Paths of entries -/

namespace Path

variable {path name : String}

theorem fileName_of_splitOn (hempty : name ≠ "") (hdot : name ≠ ".") (front : List (List Char))
    (h : splitOn ['/'] path.toList = front ++ [name.toList]) : fileName path = name := by
  have hpieces : pieces "/" path = front.map String.ofList ++ [name] := by
    show (splitOn ['/'] path.toList).map String.ofList = _
    rw [h, List.map_append, List.map_singleton, String.ofList_toList]
  rw [fileName, names, hpieces, List.filter_append]
  simp [hempty, hdot]

theorem fileName_join (hempty : name ≠ "") (hdot : name ≠ ".") (hstroke : '/' ∉ name.toList)
    (directory : String) : fileName (join directory name) = name := by
  have hafter : ∀ front : List Char, (join directory name).toList = front ++ '/' :: name.toList →
      fileName (join directory name) = name := fun front h =>
    fileName_of_splitOn hempty hdot _ (by rw [h, splitOn_append_cons hstroke])
  unfold join at hafter ⊢
  split at hafter
  · next hends =>
    rw [if_pos hends]
    rw [Bool.or_eq_true, decide_eq_true_eq, String.isEmpty_iff] at hends
    rcases hends with rfl | hlast
    · refine fileName_of_splitOn hempty hdot [] ?_
      rw [String.empty_append, splitOn_of_cutAt_none (cutAt_eq_none hstroke), List.nil_append]
    · obtain ⟨front, hfront⟩ := List.getLast?_eq_some_iff.mp hlast
      exact hafter front (by rw [String.toList_append, hfront, List.append_assoc, List.singleton_append])
  · next hends =>
    rw [if_neg hends]
    exact hafter directory.toList (by rw [String.toList_append, String.toList_append]; simp)

end Path

/-! ### Names of files -/

namespace FileName

theorem eq_of_split? {name stem ext : String} (h : split? name = some (stem, ext)) :
    name = stem ++ "." ++ ext := by
  unfold split? at h
  split at h
  · next ext' before rest hsplit =>
    have hpieces : splitOn ['.'] name.toList = (before :: rest).reverse ++ [ext'] := by
      rw [← List.reverse_cons, ← hsplit, List.reverse_reverse]
    have hname := intercalate_splitOn (List.cons_ne_nil '.' []) name.toList
    rw [hpieces, intercalate_concat (by simp)] at hname
    simp only at h
    split at h
    · cases h
    · cases h
      refine String.toList_inj.mp ?_
      simp only [← hname, String.toList_append, String.toList_ofList, List.append_assoc]
      rfl
  · cases h

theorem eq_of_extension? {name ext : String} (h : extension? name = some ext) :
    name = stem name ++ "." ++ ext := by
  obtain ⟨⟨stem, ext'⟩, hsplit, rfl⟩ := Option.map_eq_some_iff.mp h
  rw [FileName.stem, hsplit]
  exact eq_of_split? hsplit

theorem extension?_empty : extension? "" = none := by
  have hsplit : splitOn ['.'] "".toList = [[]] := splitOn_of_cutAt_none rfl
  rw [extension?, split?, hsplit]
  rfl

theorem extension?_dot : extension? "." = none := by
  have hsplit : splitOn ['.'] ".".toList = splitOn ['.'] [] ++ [[]] :=
    splitOn_append_cons List.not_mem_nil []
  rw [extension?, split?, hsplit, splitOn_of_cutAt_none rfl]
  rfl

end FileName

theorem GeistFile.fileName_join {name : String} (h : isName name = true) (hstroke : '/' ∉ name.toList)
    (directory : String) : Path.fileName (Path.join directory name) = name := by
  refine Path.fileName_join ?_ ?_ hstroke directory
  · rintro rfl
    rw [isName, FileName.extension?_empty] at h
    cases h
  · rintro rfl
    rw [isName, FileName.extension?_dot] at h
    cases h

/-! ### Order -/

namespace FileNode

variable (entries : List (String × FileNode))

theorem sorted_perm : (sorted entries).Perm entries := List.mergeSort_perm _ _

theorem sorted_pairwise : (sorted entries).Pairwise fun a b => a.1 ≤ b.1 := by
  refine (List.pairwise_mergeSort (fun a b c hab hbc => ?_) (fun a b => ?_) entries).imp of_decide_eq_true
  · exact decide_eq_true (String.le_trans (of_decide_eq_true hab) (of_decide_eq_true hbc))
  · simpa only [Bool.or_eq_true, decide_eq_true_eq] using String.le_total a.1 b.1

end FileNode

end NoteMuse
