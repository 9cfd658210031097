import UnitCatalogue.Directory.Replacement

/-!
# What stands where

Each change of a tree is told by what stands at each place afterwards.
-/

namespace UnitCatalogue.Directory.Tree

theorem lookup_replace (place other : Place) (node : Node) (entries : List (Place × Node)) :
    (replace place node entries).lookup other =
      if other = place then some node else entries.lookup other := by
  induction entries with
  | nil =>
    by_cases same : other = place
    · simp [replace, same]
    · have differs : (other == place) = false := by simpa using same
      simp [replace, List.lookup_cons, same, differs]
  | cons entry rest ih =>
    obtain ⟨p, n⟩ := entry
    by_cases here : p = place
    · subst here
      by_cases same : other = p
      · simp [replace, same]
      · have differs : (other == p) = false := by simpa using same
        simp [replace, List.lookup_cons, same, differs]
    · by_cases same : other = p
      · subst same
        simp [replace, here]
      · have differs : (other == p) = false := by simpa using same
        simp only [replace, if_neg here, List.lookup_cons, differs, ih]

theorem node?_put {tree : Tree} {place : Place} {node : Node} (other : Place)
    (not_root : place ≠ []) :
    (tree.put place node).node? other = if other = place then some node else tree.node? other := by
  unfold node? put
  by_cases root : other = []
  · subst root
    simp [Ne.symm not_root]
  · simp [root, lookup_replace]

theorem lookup_filter_ne (place other : Place) (entries : List (Place × Node)) :
    (entries.filter (·.1 != place)).lookup other =
      if other = place then none else entries.lookup other := by
  induction entries with
  | nil => simp
  | cons entry rest ih =>
    obtain ⟨p, n⟩ := entry
    by_cases removed : p = place
    · subst removed
      by_cases same : other = p
      · subst same
        simpa using ih
      · have differs : (other == p) = false := by simpa using same
        simp [List.lookup_cons, ih, same, differs]
    · by_cases same : other = p
      · subst same
        simp [removed]
      · have differs : (other == p) = false := by simpa using same
        simp [List.lookup_cons, removed, differs, ih]

theorem node?_remove (tree : Tree) (place other : Place) (not_root : place ≠ []) :
    (tree.remove place).node? other = if other = place then none else tree.node? other := by
  unfold node? remove
  by_cases root : other = []
  · subst root
    simp [Ne.symm not_root]
  · simp [root, lookup_filter_ne]

theorem replace_eq_self {place : Place} {node : Node} {entries : List (Place × Node)}
    (stands : entries.lookup place = some node) : replace place node entries = entries := by
  induction entries with
  | nil => cases stands
  | cons entry rest ih =>
    obtain ⟨p, n⟩ := entry
    by_cases here : p = place
    · subst here
      obtain rfl : n = node := by simpa using stands
      simp [replace]
    · have differs : (place == p) = false := by simpa using Ne.symm here
      rw [List.lookup_cons, differs] at stands
      rw [replace, if_neg here, ih stands]

theorem put_eq_self {tree : Tree} {place : Place} {node : Node} (not_root : place ≠ [])
    (stands : tree.node? place = some node) : tree.put place node = tree := by
  rw [node?, if_neg not_root] at stands
  rw [put, replace_eq_self stands]

theorem filter_replace_of_absent {place : Place} {node : Node} {entries : List (Place × Node)}
    (absent : entries.lookup place = none) :
    (replace place node entries).filter (·.1 != place) = entries := by
  induction entries with
  | nil => simp [replace]
  | cons entry rest ih =>
    obtain ⟨p, n⟩ := entry
    by_cases here : p = place
    · simp [here] at absent
    · have differs : (place == p) = false := by simpa using Ne.symm here
      rw [List.lookup_cons, differs] at absent
      simp [replace, here, ih absent]

/-- What is put at a free place and removed again has left no trace. -/
theorem remove_put_of_absent {tree : Tree} {place : Place} {node : Node} (not_root : place ≠ [])
    (absent : tree.node? place = none) : (tree.put place node).remove place = tree := by
  rw [node?, if_neg not_root] at absent
  rw [remove, put, filter_replace_of_absent absent]

end UnitCatalogue.Directory.Tree
