import Mathlib.Data.List.Infix
import Mathlib.Data.List.Nodup
import LuceneQuery.FileTree

/-!
# The places above a path

What is above a path is what its names begin with, from the longest beginning to the empty one.
Steps that stay in place make no difference to it.
-/

namespace LuceneQuery

set_option autoImplicit false

theorem nodup_inits {Item : Type} (items : List Item) : items.inits.Nodup := by
  induction items with
  | nil => simp
  | cons item later induction =>
      rw [List.inits_cons, List.nodup_cons]
      exact ⟨by simp, List.Nodup.map List.cons_injective induction⟩

namespace Path

theorem names_opened (path : Path) : names ⟨path.opened⟩ = path.names := by
  unfold opened
  split
  · rename_i ends
    obtain ⟨front, same⟩ := List.getLast?_eq_some_iff.mp ends
    simp [names, same, staysInPlace]
  · rfl

/-- A name is put behind the names of the path. -/
theorem names_child (path : Path) (name : Text) (moves : staysInPlace name = false) :
    (path.child name).names = path.names ++ [name] := by
  have opened := path.names_opened
  unfold names at opened ⊢
  rw [child, List.filter_append, opened]
  simp [moves]

theorem names_above (steps : List Text) :
    names ⟨(steps.dropWhile staysInPlace).reverse⟩ =
      (steps.filter fun step => !staysInPlace step).reverse := by
  rw [names, List.filter_reverse]
  congr 1
  induction steps with
  | nil => rfl
  | cons step outer induction =>
      cases stays : staysInPlace step with
      | true => simp [stays, induction]
      | false => simp [stays]

theorem tails_eq_cons (steps : List Text) : steps.tails = steps :: steps.tails.tail := by
  cases steps <;> rfl

/-- What is left of the steps that move, from the second ending on. -/
theorem above_steps_names (steps : List Text) :
    (aboveSteps steps).map names =
      (steps.filter fun step => !staysInPlace step).tails.tail.map List.reverse := by
  induction steps with
  | nil => rfl
  | cons step outer induction =>
      rw [aboveSteps]
      cases stays : staysInPlace step with
      | true => simpa [stays] using induction
      | false =>
          rw [List.filter_cons_of_pos (by simp [stays]), List.tails_cons, List.tail_cons,
            tails_eq_cons, List.map_cons, ← induction, ← names_above]
          rfl

/-- The beginnings of the names, the longest first. -/
theorem ancestors_names (path : Path) : path.ancestors.map names = path.names.inits.reverse := by
  rw [ancestors, List.map_cons, above_steps_names, List.filter_reverse]
  change path.names :: path.names.reverse.tails.tail.map List.reverse = path.names.inits.reverse
  calc path.names :: path.names.reverse.tails.tail.map List.reverse
      = (path.names.reverse :: path.names.reverse.tails.tail).map List.reverse := by simp
    _ = path.names.reverse.tails.map List.reverse := by rw [← tails_eq_cons]
    _ = path.names.inits.reverse := by rw [List.map_reverse_tails, List.reverse_reverse]

end Path

end LuceneQuery
