import MacroShell.Proofs.Coupling

/-! # Trees with like files

Two trees with the same directories and files in the same places, where the texts of the files may
differ in some way.  A path leads to the same place in both, reading it fails in both or gives texts
that differ in this way, and writing such texts gives such trees again.
-/

namespace MacroShell

inductive FileEntry.Like (R : String → String → Prop) : FileEntry → FileEntry → Prop
  | text {a b : String} (like : R a b) : FileEntry.Like R (.text a) (.text b)
  | binary : FileEntry.Like R .binary .binary
  | directory : FileEntry.Like R .directory .directory

namespace FileTree

def LikeFiles (R : String → String → Prop) (a b : FileTree) : Prop :=
  ∀ location, Option.Rel (FileEntry.Like R) (a.find? location) (b.find? location)

theorem find?_insert (tree : FileTree) (location other : Location) (entry : FileEntry) :
    (tree.insert location entry).find? other = if location = other then some entry else tree.find? other := by
  unfold insert find?
  by_cases here : location = other
  · subst here
    simp
  · have differs : (other == location) = false := by simpa using Ne.symm here
    rw [if_neg here, List.lookup_cons, differs]
    dsimp only
    induction tree.entries with
    | nil => rfl
    | cons first entries ih =>
        by_cases dropped : first.1 = location
        · rw [List.filter_cons_of_neg (by simpa using dropped), List.lookup_cons, dropped, differs]
          exact ih
        · rw [List.filter_cons_of_pos (by simpa using dropped), List.lookup_cons, List.lookup_cons, ih]

namespace LikeFiles

variable {R : String → String → Prop} {a b : FileTree}

theorem refl (same : ∀ text, R text text) (tree : FileTree) : LikeFiles R tree tree := by
  intro location
  cases tree.find? location with
  | none => exact .none
  | some entry =>
      cases entry with
      | text content => exact .some (.text (same content))
      | binary => exact .some .binary
      | directory => exact .some .directory

theorem insert (alike : LikeFiles R a b) (location : Location) {entry entry' : FileEntry}
    (like : entry.Like R entry') : LikeFiles R (a.insert location entry) (b.insert location entry') := by
  intro other
  rw [find?_insert, find?_insert]
  split
  · exact .some like
  · exact alike other

theorem child (alike : LikeFiles R a b) (directory : Location) (name : String) :
    Agreed (FileEntry.Like R) (a.child directory name) (b.child directory name) := by
  have found := alike (directory ++ [name])
  unfold FileTree.child
  split
  · exact .error _
  · generalize a.find? (directory ++ [name]) = x at found
    generalize b.find? (directory ++ [name]) = y at found
    cases found with
    | none => exact .error _
    | some like => exact .ok like

theorem enter_eq (alike : LikeFiles R a b) : a.enter = b.enter := by
  funext directory name
  have found := alike.child directory name
  unfold FileTree.enter
  generalize a.child directory name = x at found
  generalize b.child directory name = y at found
  cases found with
  | error e => rfl
  | ok like => cases like <;> rfl

theorem locate_eq (alike : LikeFiles R a b) (path : String) : a.locate path = b.locate path := by
  unfold FileTree.locate
  rw [alike.enter_eq]

theorem read (alike : LikeFiles R a b) (path : String) : Agreed R (a.read path) (b.read path) := by
  unfold FileTree.read
  rw [alike.locate_eq]
  cases b.locate path with
  | error e => exact .error e
  | ok place =>
      obtain ⟨directory, _ | name⟩ := place
      · exact .error .isDirectory
      · have found := alike.child directory name
        simp only [bind, Except.bind]
        generalize a.child directory name = x at found
        generalize b.child directory name = y at found
        cases found with
        | error e => exact .error e
        | ok like =>
            cases like with
            | directory => exact .error .isDirectory
            | text like =>
                dsimp only
                split
                · exact .error .notDirectory
                · exact .ok like
            | binary =>
                dsimp only
                split
                · exact .error .notDirectory
                · exact .error .notText

theorem write (alike : LikeFiles R a b) (path : String) {content content' : String}
    (like : R content content') : Agreed (LikeFiles R) (a.write path content) (b.write path content') := by
  unfold FileTree.write
  rw [alike.locate_eq]
  cases b.locate path with
  | error e => exact .error e
  | ok place =>
      obtain ⟨directory, _ | name⟩ := place
      · exact .error .isDirectory
      · have found := alike.child directory name
        have written := alike.insert (directory ++ [name]) (.text like)
        simp only [bind, Except.bind]
        split
        · exact .error .isDirectory
        · generalize a.child directory name = x at found
          generalize b.child directory name = y at found
          cases found with
          | error e => cases e <;> first | exact .ok written | exact .error _
          | ok like =>
              cases like with
              | directory => exact .error .isDirectory
              | text | binary => exact .ok written

end LikeFiles
end FileTree
end MacroShell
