/-!
# Pieces of a sequence

Cutting a sequence at a separator, and putting pieces together again.
-/

namespace TagSpec

/-- The pieces of `xs` between occurrences of `sep`: one more than there are separators. -/
def pieces {α : Type} [DecidableEq α] (sep : α) : List α → List (List α)
  | [] => [[]]
  | x :: xs =>
    if x = sep then [] :: pieces sep xs
    else
      match pieces sep xs with
      | [] => [[x]]
      | p :: ps => (x :: p) :: ps

/-- The pieces put together with `sep` between them. -/
def joinPieces {α : Type} (sep : List α) : List (List α) → List α
  | [] => []
  | [p] => p
  | p :: q :: ps => p ++ sep ++ joinPieces sep (q :: ps)

/-- There is always a first piece. -/
theorem pieces_ne_nil {α : Type} [DecidableEq α] (sep : α) (xs : List α) : pieces sep xs ≠ [] := by
  cases xs with
  | nil => simp [pieces]
  | cons x xs =>
    unfold pieces
    split
    · simp
    · split <;> simp

/-- The pieces of a text between occurrences of a character. -/
def textPieces (sep : Char) (s : String) : List String :=
  (pieces sep s.toList).map String.ofList

end TagSpec
