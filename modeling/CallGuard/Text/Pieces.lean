/-! Cutting a text at every place of one character. -/
namespace CallGuard.Text

variable {α : Type} [DecidableEq α]

/-- One step of `pieces` from the right: the separator starts a piece anew. -/
def consPiece (sep x : α) : List (List α) → List (List α)
  | [] => [[x]]
  | piece :: pieces => if x = sep then [] :: piece :: pieces else (x :: piece) :: pieces

/-- What stands between the separators: one piece more than there are of them. -/
def pieces (sep : α) (xs : List α) : List (List α) := xs.foldr (consPiece sep) [[]]

/-- What stands before and after the first separator. -/
def cutFirst? (sep : α) : List α → Option (List α × List α)
  | [] => none
  | x :: xs =>
    if x = sep then some ([], xs)
    else (cutFirst? sep xs).map fun (front, rest) => (x :: front, rest)

/-- What stands before and after the last separator. -/
def cutLast? (sep : α) (xs : List α) : Option (List α × List α) :=
  (cutFirst? sep xs.reverse).map fun (last, front) => (front.reverse, last.reverse)

end CallGuard.Text
