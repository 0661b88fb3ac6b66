import LuceneQuery.Settings.Discovery
import LuceneQuery.Proofs.Places

/-!
# The settings files that are found

A settings file counts in the working directory and in every place above it, up to the first
root file. The home directory's file comes last, where no root file was met and the file was not
met on the way.
-/

namespace LuceneQuery

set_option autoImplicit false

namespace FileTree

/-- What the file at a path holds, where there is a file. -/
def contents? (tree : FileTree) (path : Path) : Option ByteArray :=
  match tree.findGiven path.text path with
  | .ok (.file contents) => some contents
  | _ => none

theorem is_file_eq (tree : FileTree) (path : Path) :
    tree.isFile path = (tree.contents? path).isSome := by
  unfold isFile contents?
  split
  · rename_i entry found
    cases entry <;> simp [found, Entry.isFile]
  · rename_i problem found
    simp [found]

theorem read_text_of_contents (tree : FileTree) (path : Path) (contents : ByteArray)
    (held : tree.contents? path = some contents) : tree.readText path = textOf contents := by
  unfold contents? at held
  split at held
  · rename_i own found
    cases held
    rw [readText, readGiven, found]
    rfl
  · cases held

theorem contents_of_read_text (tree : FileTree) (path : Path) (text : Text)
    (read : tree.readText path = .ok text) : ∃ contents, tree.contents? path = some contents := by
  unfold readText readGiven at read
  unfold contents?
  cases found : tree.findGiven path.text path with
  | error problem =>
      rw [found] at read
      cases read
  | ok entry =>
      cases entry with
      | file contents => exact ⟨contents, rfl⟩
      | directory =>
          rw [found] at read
          cases read

end FileTree

namespace Settings

/-- Where a settings file is looked for, from the directory upwards. -/
def places (directory : Path) : List Path :=
  directory.ancestors.map fun above => above.child fileName

/-- The names of the places are those of the directory and of what is above it. -/
theorem places_names (directory : Path) :
    (places directory).map Path.names =
      directory.names.inits.reverse.map fun names => names ++ [fileName] := by
  have moves : staysInPlace fileName = false := by decide
  rw [places, List.map_map, ← directory.ancestors_names, List.map_map]
  congr 1
  funext above
  exact above.names_child fileName moves

theorem places_distinct (directory : Path) : ((places directory).map Path.names).Nodup := by
  rw [places_names]
  have distinct := List.nodup_reverse.mpr (nodup_inits directory.names)
  exact distinct.map (List.append_left_injective [fileName])

/-- The file can be read and says that it is a root. -/
def IsRootFile (tree : FileTree) (path : Path) : Prop :=
  ∃ file, readFile tree path = .ok file ∧ file.content.root = some true

theorem is_root_iff (tree : FileTree) (path : Path) :
    isRoot tree path = true ↔ IsRootFile tree path := by
  unfold isRoot IsRootFile
  cases readFile tree path <;> simp

/-- What can be read is a file. -/
theorem is_file_of_read (tree : FileTree) (path : Path) (file : NamedFile)
    (read : readFile tree path = .ok file) : tree.isFile path = true := by
  unfold readFile at read
  split at read
  · rename_i text found
    obtain ⟨contents, held⟩ := tree.contents_of_read_text path text found
    rw [tree.is_file_eq, held]
    rfl
  · cases read

theorem is_file_of_root (tree : FileTree) (path : Path) (root : IsRootFile tree path) :
    tree.isFile path = true := by
  obtain ⟨file, read, _⟩ := root
  exact is_file_of_read tree path file read

/-- One directory of the search: its file counts if it is there, and the search goes on unless
it is a root. -/
theorem mem_chain_cons (tree : FileTree) (directory : Path) (above : List Path) (path : Path) :
    path ∈ chain tree (directory :: above) ↔
      (path = directory.child fileName ∧ tree.isFile path = true) ∨
        (¬ IsRootFile tree (directory.child fileName) ∧ path ∈ chain tree above) := by
  rw [chain, ← is_root_iff]
  cases file : tree.isFile (directory.child fileName) with
  | false =>
      have notRoot : isRoot tree (directory.child fileName) = false := by
        rw [← Bool.not_eq_true, is_root_iff]
        exact mt (is_file_of_root tree _) (by simp [file])
      have other : ¬ (path = directory.child fileName ∧ tree.isFile path = true) := by
        rintro ⟨rfl, held⟩
        simp [file] at held
      simp [notRoot, other]
  | true =>
      have same : path = directory.child fileName ∧ tree.isFile path = true ↔
          path = directory.child fileName := by
        constructor
        · exact fun both => both.1
        · rintro rfl
          exact ⟨rfl, file⟩
      cases root : isRoot tree (directory.child fileName) <;> simp [same]

/-- The search meets the files that are there, but none that is farther than a root file. -/
theorem mem_chain (tree : FileTree) (directories : List Path) (path : Path) :
    path ∈ chain tree directories ↔
      ∃ nearer farther, directories.map (fun above => above.child fileName) =
          nearer ++ path :: farther ∧
        tree.isFile path = true ∧ ∀ other ∈ nearer, ¬ IsRootFile tree other := by
  induction directories with
  | nil => simp [chain]
  | cons directory above induction =>
      rw [mem_chain_cons, induction]
      constructor
      · rintro (⟨rfl, file⟩ | ⟨notRoot, nearer, farther, split, file, none⟩)
        · exact ⟨[], _, rfl, file, by simp⟩
        · exact ⟨_ :: nearer, farther, by rw [List.map_cons, split, List.cons_append], file,
            List.forall_mem_cons.mpr ⟨notRoot, none⟩⟩
      · rintro ⟨nearer, farther, split, file, none⟩
        cases nearer with
        | nil =>
            rw [List.map_cons, List.nil_append, List.cons.injEq] at split
            exact .inl ⟨split.1.symm, file⟩
        | cons first others =>
            rw [List.map_cons, List.cons_append, List.cons.injEq] at split
            obtain ⟨rfl, split⟩ := split
            obtain ⟨notRoot, none⟩ := List.forall_mem_cons.mp none
            exact .inr ⟨notRoot, others, farther, split, file, none⟩

theorem chain_sublist (tree : FileTree) (directories : List Path) :
    (chain tree directories).Sublist (directories.map fun above => above.child fileName) := by
  induction directories with
  | nil => exact .refl _
  | cons directory above induction =>
      rw [chain, List.map_cons]
      split
      · exact induction.cons _
      · split
        · exact (List.nil_sublist _).cons_cons _
        · exact induction.cons_cons _

/-- What the search finds: near are the files of the directories, last is the home
directory's own. -/
structure Finds (tree : FileTree) (home : Option Path) (directory : Path)
    (near last : List Path) : Prop where
  ordered : near.Sublist (places directory)
  mem_near : ∀ path, path ∈ near ↔
    ∃ nearer farther, places directory = nearer ++ path :: farther ∧ tree.isFile path = true ∧
      ∀ other ∈ nearer, ¬ IsRootFile tree other
  mem_last : ∀ path, path ∈ last ↔
    homeFile home = some path ∧ tree.isFile path = true ∧
      (∀ other ∈ near, ¬ IsRootFile tree other) ∧ ∀ other ∈ near, other.names ≠ path.names
  distinct : ((near ++ last).map Path.names).Nodup

theorem mem_after_chain (tree : FileTree) (home : Option Path) (near : List Path) (path : Path) :
    path ∈ afterChain tree home near ↔
      homeFile home = some path ∧ tree.isFile path = true ∧
        (∀ other ∈ near, ¬ IsRootFile tree other) ∧ ∀ other ∈ near, other.names ≠ path.names := by
  unfold afterChain
  cases met : near.any (isRoot tree) with
  | true =>
      obtain ⟨other, member, root⟩ := List.any_eq_true.mp met
      rw [is_root_iff] at root
      constructor
      · rintro ⟨⟩
      · rintro ⟨_, _, none, _⟩
        exact absurd root (none other member)
  | false =>
      have none : ∀ other ∈ near, ¬ IsRootFile tree other := by
        simpa [is_root_iff] using List.any_eq_false.mp met
      have unmet : near.any path.isSame = false ↔ ∀ other ∈ near, other.names ≠ path.names := by
        rw [List.any_eq_false]
        refine forall₂_congr fun other _ => ?_
        rw [Path.isSame, beq_iff_eq]
        exact ne_comm
      simp only [Bool.false_eq_true, if_false, List.mem_filter, Option.mem_toList,
        Bool.and_eq_true, Bool.not_eq_true', unmet]
      constructor
      · rintro ⟨own, file, apart⟩
        exact ⟨own, file, none, apart⟩
      · rintro ⟨own, file, _, apart⟩
        exact ⟨own, file, apart⟩

/-- At most the home directory's file comes after the others. -/
theorem after_chain_length (tree : FileTree) (home : Option Path) (near : List Path) :
    (afterChain tree home near).length ≤ 1 := by
  unfold afterChain
  split
  · simp
  · exact (List.length_filter_le _ _).trans (by cases homeFile home <;> simp)

theorem discover_finds (tree : FileTree) (home : Option Path) (directory : Path) :
    ∃ near last, discover tree home directory = near ++ last ∧
      Finds tree home directory near last := by
  let near := chain tree directory.ancestors
  let last := afterChain tree home near
  have ordered : near.Sublist (places directory) := chain_sublist tree directory.ancestors
  have apart := mem_after_chain tree home near
  have distinct : ((near ++ last).map Path.names).Nodup := by
    rw [List.map_append, List.nodup_append]
    refine ⟨(ordered.map Path.names).nodup (places_distinct directory), ?_, ?_⟩
    · have short := after_chain_length tree home near
      change last.length ≤ 1 at short
      rcases last with _ | ⟨only, _ | ⟨second, more⟩⟩
      · simp
      · simp
      · simp at short
    · intro names among other behind
      obtain ⟨path, member, rfl⟩ := List.mem_map.mp among
      obtain ⟨own, inside, rfl⟩ := List.mem_map.mp behind
      exact ((apart own).mp inside).2.2.2 path member
  exact ⟨near, last, rfl, ordered, mem_chain tree directory.ancestors, apart, distinct⟩

end Settings

end LuceneQuery
