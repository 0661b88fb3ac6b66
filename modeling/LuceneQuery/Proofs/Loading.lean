import LuceneQuery.Proofs.Discovery
import LuceneQuery.Proofs.Merging

/-!
# Loading the settings of a directory

The files that are found are all read, the nearest first, before any of them is merged. Loading
stops at the nearest file that cannot be read, or else at an operator that cannot be; otherwise
it gives the files and what they set.
-/

namespace LuceneQuery.Settings

set_option autoImplicit false

def unreadable (tree : FileTree) (path : Path) : List SettingsError :=
  refusals (readFile tree) (some path)

/-- The operators at a path that cannot be read, where the file can. -/
def refusedAt (tree : FileTree) (path : Path) : List SettingsError :=
  match readFile tree path with
  | .ok file => file.refused
  | .error _ => []

theorem read_file_stops (tree : FileTree) (path : Path) :
    StopsAtFirst (unreadable tree path) (readFile tree path) := by
  unfold unreadable refusals
  simp only [Option.map_some]
  cases readFile tree path <;> exact rfl

theorem path_of_read (tree : FileTree) (path : Path) (file : NamedFile)
    (read : readFile tree path = .ok file) : file.path = path.text := by
  unfold readFile NamedFile.read at read
  split at read
  · split at read
    · cases read
      rfl
    · cases read
  · cases read

theorem paths_of_files (tree : FileTree) (paths : List Path) (files : List NamedFile)
    (read : List.Forall₂ (fun path file => readFile tree path = .ok file) paths files) :
    files.map NamedFile.path = paths.map Path.text := by
  induction read with
  | nil => rfl
  | cons here _ induction =>
      rw [List.map_cons, List.map_cons, path_of_read tree _ _ here, induction]

/-- Once all files are read, what is refused at the paths is what is refused in the files. -/
theorem refused_at_paths (tree : FileTree) (paths : List Path) (files : List NamedFile)
    (read : List.Forall₂ (fun path file => readFile tree path = .ok file) paths files) :
    paths.reverse.flatMap (refusedAt tree) = files.reverse.flatMap NamedFile.refused := by
  induction read with
  | nil => rfl
  | cons here _ induction =>
      rw [List.reverse_cons, List.reverse_cons, List.flatMap_append, List.flatMap_append,
        induction, List.flatMap_singleton, List.flatMap_singleton, refusedAt, here]

theorem load_files_stops (tree : FileTree) (paths : List Path) :
    StopsAtFirst (paths.flatMap (unreadable tree) ++ paths.reverse.flatMap (refusedAt tree))
      (loadFiles tree paths) := by
  have reading := StopsAtFirst.mapM paths fun path _ => read_file_stops tree path
  refine reading.bind fun files all => ?_
  rw [refused_at_paths tree paths files (map_m_eq_ok _ paths files all)]
  exact Effective.of_files_stops files

/-- The file cannot be read as settings, or an operator in it cannot be read. -/
def IsFaulty (tree : FileTree) (path : Path) : Prop :=
  (∃ error, readFile tree path = .error error) ∨
    ∃ file, readFile tree path = .ok file ∧ file.HasInvalidOperator

theorem not_faulty_iff (tree : FileTree) (path : Path) :
    unreadable tree path = [] ∧ refusedAt tree path = [] ↔ ¬ IsFaulty tree path := by
  unfold unreadable refusals refusedAt IsFaulty
  simp only [Option.map_some]
  cases readFile tree path with
  | error problem => simp
  | ok file => simp [NamedFile.refused_eq_nil]

theorem load_files_fails_iff (tree : FileTree) (paths : List Path) :
    (∃ error, loadFiles tree paths = .error error) ↔ ∃ path ∈ paths, IsFaulty tree path := by
  rw [(load_files_stops tree paths).fails_iff, Ne, List.append_eq_nil_iff,
    List.flatMap_eq_nil_iff, List.flatMap_eq_nil_iff]
  simp only [List.mem_reverse, ← forall₂_and, not_faulty_iff, not_forall, not_not, exists_prop]

/-- The nearest file that cannot be read comes before every operator that cannot be. -/
theorem load_files_nearest (tree : FileTree) (nearer : List Path) (path : Path)
    (farther : List Path) (error : SettingsError)
    (readable : ∀ other ∈ nearer, ∃ file, readFile tree other = .ok file)
    (failed : readFile tree path = .error error) :
    loadFiles tree (nearer ++ path :: farther) = .error error := by
  have none : nearer.flatMap (unreadable tree) = [] := by
    rw [List.flatMap_eq_nil_iff]
    intro other member
    obtain ⟨file, read⟩ := readable other member
    simp [unreadable, refusals, read]
  rw [(load_files_stops tree _).error_iff, List.flatMap_append, none, List.flatMap_cons]
  simp [unreadable, refusals, failed]

theorem load_files_eq_ok (tree : FileTree) (paths : List Path) (effective : Effective)
    (loaded : loadFiles tree paths = .ok effective) :
    effective.files = paths.map Path.text ∧
      ∃ files, List.Forall₂ (fun path file => readFile tree path = .ok file) paths files ∧
        InForce files effective.settings := by
  unfold loadFiles at loaded
  simp only [bind_eq_ok] at loaded
  obtain ⟨files, all, merged⟩ := loaded
  obtain ⟨inForce, listed⟩ := Effective.of_files_eq_ok files effective merged
  have read := map_m_eq_ok _ paths files all
  exact ⟨listed.trans (paths_of_files tree paths files read), files, read, inForce⟩

/-- The settings of a directory: which files are found, when loading them fails and with what,
and what they set. -/
theorem load_resolves_directories (tree : FileTree) (home : Option Path) (directory : Path) :
    (places directory).map Path.names =
      directory.names.inits.reverse.map (fun names => names ++ [fileName]) ∧
    (∃ near last, discover tree home directory = near ++ last ∧
      Finds tree home directory near last) ∧
    ((∃ error, load tree home directory = .error error) ↔
      ∃ path ∈ discover tree home directory, IsFaulty tree path) ∧
    (∀ nearer path farther error, discover tree home directory = nearer ++ path :: farther →
      (∀ other ∈ nearer, ∃ file, readFile tree other = .ok file) →
      readFile tree path = .error error → load tree home directory = .error error) ∧
    (∀ effective, load tree home directory = .ok effective →
      effective.files = (discover tree home directory).map Path.text ∧
        ∃ files, List.Forall₂ (fun path file => readFile tree path = .ok file)
            (discover tree home directory) files ∧
          InForce files effective.settings) := by
  refine ⟨places_names directory, discover_finds tree home directory,
    load_files_fails_iff tree _, ?_, load_files_eq_ok tree _⟩
  intro nearer path farther error found readable failed
  rw [load, found]
  exact load_files_nearest tree nearer path farther error readable failed

/-- An operator that cannot be read, below a file that cannot be. -/
def faultyFiles : FileTree :=
  ⟨[([['p']], .directory), ([['p'], fileName], .file "[query]\noperator = \"nor\"\n".toUTF8),
    ([fileName], .file "root = [".toUTF8)]⟩

/-- The file that cannot be read is reported, though the nearer one has the bad operator. -/
theorem malformed_file_reported_first :
    discover faultyFiles none ⟨[['p']]⟩ = [⟨[['p'], fileName]⟩] ++ ⟨[fileName]⟩ :: [] ∧
    (∃ file, readFile faultyFiles ⟨[['p'], fileName]⟩ = .ok file) ∧
    ∃ problem, readFile faultyFiles ⟨[fileName]⟩ = .error (.malformed "/.lq.toml".toList problem) ∧
      load faultyFiles none ⟨[['p']]⟩ = .error (.malformed "/.lq.toml".toList problem) := by
  have found : discover faultyFiles none ⟨[['p']]⟩ =
      [⟨[['p'], fileName]⟩] ++ ⟨[fileName]⟩ :: [] := by decide +kernel
  have near : (readFile faultyFiles ⟨[['p'], fileName]⟩).isOk = true := by decide +kernel
  have far : (SettingsFile.read "root = [".toList).isOk = false := by decide +kernel
  have readable : ∃ file, readFile faultyFiles ⟨[['p'], fileName]⟩ = .ok file := by
    cases outcome : readFile faultyFiles ⟨[['p'], fileName]⟩ with
    | ok file => exact ⟨file, rfl⟩
    | error problem =>
        rw [outcome] at near
        cases near
  have failed : ∃ problem, readFile faultyFiles ⟨[fileName]⟩ =
      .error (.malformed "/.lq.toml".toList problem) := by
    cases outcome : SettingsFile.read "root = [".toList with
    | ok file =>
        rw [outcome] at far
        cases far
    | error problem =>
        refine ⟨problem, ?_⟩
        have text : faultyFiles.readText ⟨[fileName]⟩ = .ok "root = [".toList := by
          decide +kernel
        rw [readFile, text]
        simp only [NamedFile.read, outcome]
        rfl
  obtain ⟨problem, failed⟩ := failed
  obtain ⟨_, _, _, nearest, _⟩ := load_resolves_directories faultyFiles none ⟨[['p']]⟩
  exact ⟨found, readable, problem, failed,
    nearest _ _ _ _ found (List.forall_mem_singleton.mpr readable) failed⟩

end LuceneQuery.Settings
