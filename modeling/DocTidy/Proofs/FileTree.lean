import DocTidy.FileTree

/-!
# Writing to a file tree

A write changes one file at most, and no path.  Where paths lead to depends on the paths of the
tree alone, so it stays as it is.
-/

namespace DocTidy.FileTree

/-- The paths of the files of a tree. -/
def paths (tree : FileTree) : List Path := tree.map (·.1)

variable {tree tree' : FileTree} {file path : Path} {t : Text}

theorem hasDirectory_eq_any (tree : FileTree) (path : Path) :
    tree.hasDirectory path =
      (path.isEmpty || tree.paths.any fun p => path.isPrefixOf p && path.length < p.length) := by
  simp only [hasDirectory, paths, List.any_map, Function.comp_def]

theorem resolve?_congr (h : tree'.paths = tree.paths) (path : Path) :
    tree'.resolve? path = tree.resolve? path := by
  have hdir : tree'.hasDirectory = tree.hasDirectory := by
    funext p
    rw [hasDirectory_eq_any, hasDirectory_eq_any, h]
  rw [resolve?, resolve?, hdir]

theorem paths_write (tree : FileTree) (file : Path) (t : Text) :
    (tree.write file t).paths = tree.paths := by
  unfold write paths
  cases tree.resolve? file <;> simp [Function.comp_def]

/-- Only the file that the path leads to can look different after a write. -/
theorem lookup_write_of_ne (h : tree.resolve? file ≠ some path) :
    (tree.write file t).lookup path = tree.lookup path := by
  unfold write
  split
  · rename_i place hplace
    have hne : path ≠ place := by
      rintro rfl
      exact h hplace
    clear h hplace
    induction tree with
    | nil => rfl
    | cons entry rest ih =>
      obtain ⟨p, c⟩ := entry
      rw [List.map_cons, List.lookup_cons, List.lookup_cons, ih]
      by_cases hp : path = p
      · subst hp
        simp [hne]
      · simp [beq_eq_false_iff_ne.mpr hp]
  · rfl

/-- Reading depends only on the file that the path leads to. -/
theorem read?_congr (hpaths : tree'.paths = tree.paths)
    (hcontent : ∀ place, tree.resolve? file = some place →
      tree'.lookup place = tree.lookup place) :
    tree'.read? file = tree.read? file := by
  unfold read? content?
  rw [resolve?_congr hpaths]
  cases hresolve : tree.resolve? file with
  | none => rfl
  | some place => simp only [Option.bind_some, hcontent place hresolve]

end DocTidy.FileTree
