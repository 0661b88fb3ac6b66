import LuceneQuery.Proofs.Discovery
import LuceneQuery.Proofs.Outcome

/-!
# A root file isolates a project

Nothing farther away than a root file is looked at. Two file trees that hold the same settings
files up to a root file load alike, whatever else they and the home directories hold.
-/

namespace LuceneQuery.Settings

set_option autoImplicit false

variable {left right : FileTree} {path : Path}

theorem is_file_agrees (same : left.contents? path = right.contents? path) :
    left.isFile path = right.isFile path := by
  rw [left.is_file_eq, right.is_file_eq, same]

theorem read_file_agrees (same : left.contents? path = right.contents? path)
    (file : left.isFile path = true) : readFile left path = readFile right path := by
  rw [left.is_file_eq, Option.isSome_iff_exists] at file
  obtain ⟨contents, held⟩ := file
  have other : right.contents? path = some contents := same ▸ held
  rw [readFile, readFile, left.read_text_of_contents path contents held,
    right.read_text_of_contents path contents other]

theorem root_file_agrees (same : left.contents? path = right.contents? path)
    (root : IsRootFile left path) : IsRootFile right path := by
  have agrees := read_file_agrees same (is_file_of_root left path root)
  obtain ⟨file, read, isRoot⟩ := root
  exact ⟨file, agrees ▸ read, isRoot⟩

theorem is_root_agrees (same : left.contents? path = right.contents? path) :
    isRoot left path = isRoot right path := by
  rw [Bool.eq_iff_iff, is_root_iff, is_root_iff]
  exact ⟨root_file_agrees same, root_file_agrees same.symm⟩

/-- The search depends on nothing but the settings files of its directories. -/
theorem chain_agrees (directories : List Path)
    (same : ∀ near ∈ directories,
      left.contents? (near.child fileName) = right.contents? (near.child fileName)) :
    chain left directories = chain right directories := by
  induction directories with
  | nil => rfl
  | cons directory above induction =>
      have here := same directory (by simp)
      have later := induction fun near member => same near (List.mem_cons_of_mem _ member)
      rw [chain, chain, is_file_agrees here, is_root_agrees here, later]

/-- Nothing above a root file is searched. -/
theorem chain_stops_at_root (tree : FileTree) (before : List Path) (root : Path)
    (after : List Path) (isRoot : IsRootFile tree (root.child fileName)) :
    chain tree (before ++ root :: after) = chain tree (before ++ [root]) := by
  induction before with
  | nil =>
      have file := is_file_of_root tree _ isRoot
      have met := (is_root_iff tree _).mpr isRoot
      simp [chain, file, met]
  | cons directory above induction =>
      rw [List.cons_append, List.cons_append, chain, chain, induction]

theorem chain_meets_root (tree : FileTree) (before : List Path) (root : Path)
    (isRoot : IsRootFile tree (root.child fileName)) :
    ∃ path ∈ chain tree (before ++ [root]), IsRootFile tree path := by
  induction before with
  | nil =>
      refine ⟨root.child fileName, ?_, isRoot⟩
      rw [List.nil_append, mem_chain_cons]
      exact .inl ⟨rfl, is_file_of_root tree _ isRoot⟩
  | cons directory above induction =>
      by_cases nearer : IsRootFile tree (directory.child fileName)
      · refine ⟨directory.child fileName, ?_, nearer⟩
        rw [List.cons_append, mem_chain_cons]
        exact .inl ⟨rfl, is_file_of_root tree _ nearer⟩
      · obtain ⟨path, member, met⟩ := induction
        refine ⟨path, ?_, met⟩
        rw [List.cons_append, mem_chain_cons]
        exact .inr ⟨nearer, member⟩

/-- With a root file on the way, only the directories up to it count, and not the home
directory. -/
theorem discover_of_root (tree : FileTree) (home : Option Path) (directory : Path)
    (before : List Path) (root : Path) (after : List Path)
    (above : directory.ancestors = before ++ root :: after)
    (isRoot : IsRootFile tree (root.child fileName)) :
    discover tree home directory = chain tree (before ++ [root]) := by
  obtain ⟨path, member, met⟩ := chain_meets_root tree before root isRoot
  have some : (chain tree (before ++ [root])).any (Settings.isRoot tree) = true :=
    List.any_eq_true.mpr ⟨path, member, (is_root_iff tree path).mpr met⟩
  rw [discover, above, chain_stops_at_root tree before root after isRoot, afterChain, some]
  simp

/-- Two file trees that agree on the settings files up to a root file load the same settings, or
fail with the same error, whatever lies above the root file and in the home directories. -/
theorem root_file_isolates (left right : FileTree) (home other : Option Path) (directory : Path)
    (before : List Path) (root : Path) (after : List Path)
    (above : directory.ancestors = before ++ root :: after)
    (same : ∀ near ∈ before ++ [root],
      left.contents? (near.child fileName) = right.contents? (near.child fileName))
    (isRoot : IsRootFile left (root.child fileName)) :
    load left home directory = load right other directory := by
  have rightRoot := root_file_agrees (same root (by simp)) isRoot
  have read : ∀ path ∈ chain left (before ++ [root]), readFile left path = readFile right path := by
    intro path member
    have listed := (chain_sublist left (before ++ [root])).subset member
    obtain ⟨near, among, rfl⟩ := List.mem_map.mp listed
    obtain ⟨_, _, _, file, _⟩ := (mem_chain left _ _).mp member
    exact read_file_agrees (same near among) file
  rw [load, load, discover_of_root left home directory before root after above isRoot,
    discover_of_root right other directory before root after above rightRoot,
    ← chain_agrees _ same, loadFiles, loadFiles, map_m_congr _ _ _ read]

/-- A root file with a settings file below it. -/
def project : FileTree :=
  ⟨[([['p']], .directory), ([['p'], ['s']], .directory),
    ([['p'], fileName], .file "root = true\n".toUTF8),
    ([['p'], ['s'], fileName], .file "[query]\noperator = \"or\"\n".toUTF8)]⟩

/-- The project below a file that cannot be read as settings. -/
def surrounded : FileTree := project.put [fileName] (.file "root = [".toUTF8)

/-- The project beside a home directory with such a file. -/
def homed : FileTree :=
  (project.put [['h']] .directory).put [['h'], fileName] (.file "query = 1".toUTF8)

theorem project_loads_alike :
    Path.ancestors ⟨[['p'], ['s']]⟩ = [⟨[['p'], ['s']]⟩] ++ ⟨[['p']]⟩ :: [⟨[]⟩] ∧
    (∀ near ∈ [⟨[['p'], ['s']]⟩] ++ [⟨[['p']]⟩],
      surrounded.contents? (Path.child near fileName) =
        homed.contents? (Path.child near fileName)) ∧
    IsRootFile surrounded (Path.child ⟨[['p']]⟩ fileName) ∧
    load surrounded (some ⟨[['h']]⟩) ⟨[['p'], ['s']]⟩ =
      load homed (some ⟨[['h']]⟩) ⟨[['p'], ['s']]⟩ := by
  have above : Path.ancestors ⟨[['p'], ['s']]⟩ =
      [⟨[['p'], ['s']]⟩] ++ ⟨[['p']]⟩ :: [⟨[]⟩] := by decide
  have same : ∀ near ∈ [⟨[['p'], ['s']]⟩] ++ [⟨[['p']]⟩],
      surrounded.contents? (Path.child near fileName) =
        homed.contents? (Path.child near fileName) := by
    intro near member
    simp only [List.cons_append, List.nil_append, List.mem_cons, List.not_mem_nil,
      or_false] at member
    rcases member with rfl | rfl <;> rfl
  have root : IsRootFile surrounded (Path.child ⟨[['p']]⟩ fileName) :=
    (is_root_iff _ _).mp (by decide +kernel)
  exact ⟨above, same, root,
    root_file_isolates surrounded homed _ _ ⟨[['p'], ['s']]⟩ _ _ _ above same root⟩

end LuceneQuery.Settings
