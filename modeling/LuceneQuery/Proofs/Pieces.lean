import Mathlib.Data.List.Chain
import LuceneQuery.Proofs.Skeleton
import LuceneQuery.Proofs.Written

/-!
# Pieces of a written clause

A clause is written in pieces: the texts that callers give as values and fields, each escaped,
and the fixed text around them. A given text stands between characters that a lexer stops at, so
what a lexer makes of it depends on nothing but whether it is inside of quotes there.

Bounds of ranges count as fixed text. They are written as they are, and one that holds a quote
can put all that follows it between quotes.
-/

namespace LuceneQuery

set_option autoImplicit false

inductive Piece where
  | fixed (text : Text)
  | given (token : Text)
  deriving DecidableEq

namespace Piece

def write : Piece → Text
  | .fixed text => text
  | .given token => escapeToken token

def writeAll (pieces : List Piece) : Text := pieces.flatMap write

/-- The same piece with another text given. -/
def fill (token : Text) : Piece → Piece
  | .fixed text => .fixed text
  | .given _ => .given token

end Piece

def Mark.pieces : Mark → List Piece
  | .required => [.fixed ['+']]
  | .prohibited => [.fixed ['-']]
  | .field name => [.given name, .fixed [':']]

def Leaf.pieces : Leaf → List Piece
  | .term value none => [.given value]
  | .term value (some fuzziness) => [.given value, .fixed ('~' :: fuzziness)]
  | .range inclusive start stop => [.fixed (Leaf.range inclusive start stop).write]

def boostPieces (boosts : List Text) : List Piece := boosts.map fun boost => .fixed ('^' :: boost)

namespace Reading

mutual

def pieces : Reading → List Piece
  | .leaf marks held boosts => marks.flatMap Mark.pieces ++ held.pieces ++ boostPieces boosts
  | .group marks operator children boosts =>
      marks.flatMap Mark.pieces ++
        .fixed ['('] :: List.intercalate [.fixed (separator operator)] (piecesOfAll children) ++
        .fixed [')'] :: boostPieces boosts

def piecesOfAll : List Reading → List (List Piece)
  | [] => []
  | child :: later => child.pieces :: piecesOfAll later

end

theorem pieces_of_all_eq (children : List Reading) :
    piecesOfAll children = children.map pieces := by
  induction children with
  | nil => rfl
  | cons child later induction => simp [piecesOfAll, induction]

end Reading

namespace Piece

@[simp] theorem write_all_nil : writeAll [] = [] := rfl

@[simp] theorem write_all_cons (piece : Piece) (rest : List Piece) :
    writeAll (piece :: rest) = piece.write ++ writeAll rest := rfl

@[simp] theorem write_all_append (first later : List Piece) :
    writeAll (first ++ later) = writeAll first ++ writeAll later := by
  simp [writeAll]

theorem write_all_marks (marks : List Mark) :
    writeAll (marks.flatMap Mark.pieces) = writeMarks marks := by
  induction marks with
  | nil => rfl
  | cons mark later induction =>
      rw [List.flatMap_cons, write_all_append, induction]
      cases mark <;> simp [writeMarks, Mark.pieces, Mark.write, write]

theorem write_all_leaf (held : Leaf) : writeAll held.pieces = held.write := by
  cases held with
  | term value fuzziness => cases fuzziness <;> simp [Leaf.pieces, Leaf.write, write]
  | range inclusive start stop => simp [Leaf.pieces, write]

theorem write_all_boosts (boosts : List Text) :
    writeAll (boostPieces boosts) = writeBoosts boosts := by
  induction boosts with
  | nil => rfl
  | cons boost later induction =>
      have rest : writeAll (boostPieces later) = writeBoosts later := induction
      rw [boostPieces, List.map_cons, ← boostPieces, write_all_cons, rest]
      rfl

theorem write_all_intercalate (between : Piece) (parts : List (List Piece)) :
    writeAll (List.intercalate [between] parts) =
      List.intercalate between.write (parts.map writeAll) := by
  induction parts with
  | nil => rfl
  | cons first later induction =>
      cases later with
      | nil => simp
      | cons second rest => simpa [List.intercalate] using induction

theorem mem_intercalate (piece between : Piece) (parts : List (List Piece))
    (member : piece ∈ List.intercalate [between] parts) :
    piece = between ∨ ∃ part ∈ parts, piece ∈ part := by
  induction parts with
  | nil => simp at member
  | cons first later induction =>
      cases later with
      | nil => exact Or.inr ⟨first, by simp, by simpa using member⟩
      | cons second rest =>
          have split : piece ∈ first ∨ piece = between ∨
              piece ∈ List.intercalate [between] (second :: rest) := by
            simpa [List.intercalate] using member
          rcases split with here | same | behind
          · exact Or.inr ⟨first, by simp, here⟩
          · exact Or.inl same
          · refine (induction behind).imp_right ?_
            rintro ⟨part, inside, found⟩
            exact ⟨part, List.mem_cons_of_mem _ inside, found⟩

end Piece

theorem Reading.write_all_pieces (reading : Reading) :
    Piece.writeAll reading.pieces = reading.write := by
  induction reading with
  | leaf marks held boosts =>
      rw [pieces, write, Piece.write_all_append, Piece.write_all_append, Piece.write_all_marks,
        Piece.write_all_leaf, Piece.write_all_boosts]
  | group marks operator children boosts induction =>
      have parts : (children.map pieces).map Piece.writeAll = children.map write := by
        simpa using induction
      simp [pieces, write, pieces_of_all_eq, write_all_eq_map, Piece.write_all_intercalate, parts,
        Piece.write_all_marks, Piece.write_all_boosts, Piece.write]

namespace Piece

/-- A given text ends in front of such a piece. -/
def Opens : Piece → Prop
  | .fixed text => ∃ c ∈ text.head?, isBoundary c = true
  | .given _ => False

/-- A given text starts behind such a piece, inside or outside of quotes. -/
def Closes : Piece → Prop
  | .fixed text => ∃ c ∈ text.getLast?, isBoundary c = true ∧ c ≠ '"' ∧ c ≠ '\\'
  | .given _ => False

def Meets (first second : Piece) : Prop := first.Closes ∨ second.Opens

theorem chain_behind (piece : Piece) (rest : List Piece) (chain : rest.IsChain Meets)
    (closes : piece.Closes) : (piece :: rest).IsChain Meets :=
  List.isChain_cons.mpr ⟨fun _ _ => Or.inl closes, chain⟩

theorem chain_marks (marks : List Mark) (rest : List Piece) (chain : rest.IsChain Meets) :
    (marks.flatMap Mark.pieces ++ rest).IsChain Meets := by
  have closes : ∀ c ∈ ['+', '-', ':'], (fixed [c]).Closes := by
    intro c member
    refine ⟨c, rfl, ?_⟩
    simp only [List.mem_cons, List.not_mem_nil, or_false] at member
    rcases member with rfl | rfl | rfl <;> decide
  induction marks with
  | nil => exact chain
  | cons mark later induction =>
      rw [List.flatMap_cons, List.append_assoc]
      cases mark with
      | required => exact chain_behind _ _ induction (closes '+' (by simp))
      | prohibited => exact chain_behind _ _ induction (closes '-' (by simp))
      | field name =>
          refine List.isChain_cons.mpr ⟨?_, chain_behind _ _ induction (closes ':' (by simp))⟩
          intro next head
          obtain rfl : fixed [':'] = next := by simpa using head
          exact Or.inr ⟨':', rfl, by decide⟩

def RestOpens (rest : List Piece) : Prop := ∀ piece ∈ rest.head?, piece.Opens

theorem rest_opens_cons (c : Char) (text : Text) (rest : List Piece)
    (boundary : isBoundary c = true) : RestOpens (.fixed (c :: text) :: rest) := by
  intro piece head
  obtain rfl : fixed (c :: text) = piece := by simpa using head
  exact ⟨c, rfl, boundary⟩

theorem chain_before (piece : Piece) (rest : List Piece) (chain : rest.IsChain Meets)
    (opens : RestOpens rest) : (piece :: rest).IsChain Meets :=
  List.isChain_cons.mpr ⟨fun next head => Or.inr (opens next head), chain⟩

theorem chain_boosts (boosts : List Text) (rest : List Piece) (chain : rest.IsChain Meets)
    (opens : RestOpens rest) :
    (boostPieces boosts ++ rest).IsChain Meets ∧ RestOpens (boostPieces boosts ++ rest) := by
  induction boosts with
  | nil => exact ⟨chain, opens⟩
  | cons boost later induction =>
      exact ⟨chain_before _ _ induction.1 induction.2, rest_opens_cons '^' boost _ (by decide)⟩

theorem chain_leaf (held : Leaf) (rest : List Piece) (chain : rest.IsChain Meets)
    (opens : RestOpens rest) : (held.pieces ++ rest).IsChain Meets := by
  cases held with
  | term value fuzziness =>
      cases fuzziness with
      | none => exact chain_before _ _ chain opens
      | some text =>
          exact chain_before _ _ (chain_before _ _ chain opens)
            (rest_opens_cons '~' text _ (by decide))
  | range inclusive start stop => exact chain_before _ _ chain opens

theorem chain_intercalate (operator : Operator) (parts : List (List Piece)) (rest : List Piece)
    (chain : rest.IsChain Meets) (opens : RestOpens rest)
    (each : ∀ part ∈ parts, ∀ rest : List Piece, rest.IsChain Meets → RestOpens rest →
      (part ++ rest).IsChain Meets) :
    (List.intercalate [.fixed (separator operator)] parts ++ rest).IsChain Meets := by
  induction parts with
  | nil => exact chain
  | cons first later induction =>
      cases later with
      | nil => simpa using each first (by simp) rest chain opens
      | cons second more =>
          have behind := induction fun part member => each part (List.mem_cons_of_mem _ member)
          have closes : (fixed (separator operator)).Closes := by
            refine ⟨' ', ?_, by decide⟩
            cases operator <;> rfl
          have separated := chain_behind _ _ behind closes
          have joined := each first (by simp) _ separated
            (rest_opens_cons ' ' _ _ (by decide))
          simpa [List.intercalate] using joined

end Piece

theorem Reading.chain_pieces (reading : Reading) (rest : List Piece)
    (chain : rest.IsChain Piece.Meets) (opens : Piece.RestOpens rest) :
    (reading.pieces ++ rest).IsChain Piece.Meets := by
  induction reading generalizing rest with
  | leaf marks held boosts =>
      obtain ⟨tail, follows⟩ := Piece.chain_boosts boosts rest chain opens
      rw [pieces, List.append_assoc, List.append_assoc]
      exact Piece.chain_marks marks _ (Piece.chain_leaf held _ tail follows)
  | group marks operator children boosts induction =>
      obtain ⟨tail, follows⟩ := Piece.chain_boosts boosts rest chain opens
      have closed := Piece.chain_before (.fixed [')']) _ tail follows
      have inner := Piece.chain_intercalate operator (children.map pieces) _ closed
        (Piece.rest_opens_cons ')' [] _ (by decide)) (by
          intro part member
          obtain ⟨child, inside, rfl⟩ := List.mem_map.mp member
          exact induction child inside)
      have opened := Piece.chain_behind (.fixed ['(']) _ inner ⟨'(', rfl, by decide⟩
      rw [pieces, pieces_of_all_eq]
      simpa using Piece.chain_marks marks _ opened

end LuceneQuery
