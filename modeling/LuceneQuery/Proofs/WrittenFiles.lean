import LuceneQuery.FileTree
import LuceneQuery.Proofs.Outcome

/-!
# Files found and written

A path leads to one location, through directories only. A write puts a file there and leaves every
other location as it was, and as no directory is replaced the path still leads to the file.
-/

namespace LuceneQuery.FileTree

set_option autoImplicit false

/-- The bytes are a text just when they are its encoding. -/
theorem text_of_eq_ok (contents : ByteArray) (text : Text) :
    textOf contents = .ok text ↔ contents = (String.ofList text).toUTF8 := by
  unfold textOf String.fromUTF8?
  constructor
  · intro decoded
    split at decoded
    · next found same =>
      split at same
      · next valid =>
        cases same
        cases decoded
        rw [String.ofList_toList]
        rfl
      · cases same
    · cases decoded
  · rintro rfl
    have valid : ((String.ofList text).toUTF8).IsValidUTF8 := (String.ofList text).isValidUTF8
    rw [dif_pos valid]
    exact congrArg Except.ok String.toList_ofList

section Finding

variable (tree : FileTree) (given : Text) (path : Path)

theorem find_given_eq_ok (entry : Entry) :
    tree.findGiven given path = .ok entry ↔ pathProblem? given = none ∧
      ∃ location, tree.locate path = .ok location ∧ tree.at? location = some entry := by
  unfold findGiven
  cases pathProblem? given with
  | some problem => simp
  | none =>
      simp only [find, bind_eq_ok, true_and]
      refine exists_congr fun location => and_congr_right fun _ => ?_
      cases tree.at? location <;> simp

theorem read_given_eq_ok (text : Text) :
    tree.readGiven given path = .ok text ↔ pathProblem? given = none ∧
      ∃ location, tree.locate path = .ok location ∧
        tree.at? location = some (.file (String.ofList text).toUTF8) := by
  rw [← find_given_eq_ok]
  unfold readGiven
  simp only [bind_eq_ok]
  constructor
  · rintro ⟨entry, found, read⟩
    cases entry with
    | file contents => rw [found, (text_of_eq_ok contents text).mp read]
    | directory => cases read
  · exact fun found => ⟨_, found, (text_of_eq_ok _ text).mpr rfl⟩

theorem at_of_not_there (location : Location) (named : pathProblem? path.text = none)
    (located : tree.locate path = .ok location) (absent : tree.isThere path = false) :
    tree.at? location = none := by
  cases held : tree.at? location with
  | none => rfl
  | some entry =>
      have found := (tree.find_given_eq_ok path.text path entry).mpr ⟨named, _, located, held⟩
      rw [isThere, found] at absent
      cases absent

end Finding

section Putting

variable (tree : FileTree) (location : Location) (entry : Entry)

theorem at_put_self (inside : location ≠ []) :
    (tree.put location entry).at? location = some entry := by
  simp [at?, put, inside]

theorem at_put_other (other : Location) (apart : other ≠ location) :
    (tree.put location entry).at? other = tree.at? other := by
  have different : (other == location) = false := by simpa using apart
  simp [at?, put, List.lookup_cons, different]

/-- A place that is no directory is not on the way to anything, so that a path leads where it led
whatever is put there. -/
theorem walk_put (blocked : tree.at? location ≠ some .directory) (steps : List Text) :
    ∀ first reached, tree.walk first steps = .ok reached →
      (tree.put location entry).walk first steps = .ok reached := by
  induction steps with
  | nil => exact fun _ _ walked => walked
  | cons step later induction =>
      intro first reached walked
      unfold walk at walked ⊢
      split at walked
      · cases walked
      · cases walked
      · next directory =>
        -- The walk goes on from directories only, so it is not at the location here.
        have apart : first ≠ location := by
          rintro rfl
          exact blocked directory
        rw [tree.at_put_other location entry first apart, directory]
        split at walked
        · cases walked
        · next short =>
          simp only [if_neg short]
          exact induction _ _ walked

end Putting

/-- What a write finds where the path leads, and what it leaves. -/
structure Writes (tree : FileTree) (path : Path) (contents : ByteArray) (location : Location)
    (written : FileTree) : Prop where
  named : pathProblem? path.text = none
  located : tree.locate path = .ok location
  noDirectory : tree.at? location ≠ some .directory
  above : tree.at? location = none → tree.at? location.dropLast = some .directory
  written_eq : written = tree.put location (.file contents)

theorem write_eq_ok (tree : FileTree) (path : Path) (contents : ByteArray) (written : FileTree) :
    tree.write path contents = .ok written ↔
      ∃ location, tree.Writes path contents location written := by
  unfold write
  constructor
  · intro wrote
    split at wrote
    · cases wrote
    · next named =>
      obtain ⟨location, located, put⟩ := (bind_eq_ok _ _ _).mp wrote
      refine ⟨location, ?_⟩
      split at put
      · cases put
      · next contents held =>
        cases put
        exact ⟨named, located, by simp [held], by simp [held], rfl⟩
      · next absent =>
        split at put
        · next above =>
          cases put
          exact ⟨named, located, by simp [absent], fun _ => above, rfl⟩
        · cases put
        · cases put
  · rintro ⟨location, named, located, noDirectory, above, rfl⟩
    simp only [named, bind_eq_ok]
    refine ⟨location, located, ?_⟩
    split
    · next directory => exact absurd directory noDirectory
    · rfl
    · next absent =>
      rw [above absent]

namespace Writes

variable {tree written : FileTree} {path : Path} {contents : ByteArray} {location : Location}
  (wrote : tree.Writes path contents location written)

include wrote

theorem held : written.at? location = some (.file contents) := by
  have inside : location ≠ [] := by
    rintro rfl
    exact wrote.noDirectory rfl
  rw [wrote.written_eq, at_put_self tree location _ inside]

theorem kept (other : Location) (apart : other ≠ location) :
    written.at? other = tree.at? other := by
  rw [wrote.written_eq, at_put_other tree location _ other apart]

/-- The path leads to the file that was written at it. -/
theorem read_back (text : Text) (encodes : contents = (String.ofList text).toUTF8) :
    written.readText path = .ok text := by
  have located : written.locate path = .ok location := by
    rw [wrote.written_eq]
    exact walk_put tree location _ wrote.noDirectory path.steps [] location wrote.located
  exact (read_given_eq_ok _ _ _ _).mpr ⟨wrote.named, location, located, encodes ▸ wrote.held⟩

end Writes

end LuceneQuery.FileTree
