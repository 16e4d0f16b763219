/-!
# Lines — the lines of a text

  A line ends with a line feed, and a carriage return right before the line feed
  belongs to the line's end. The last line may lack the line feed; then a carriage
  return at its end is part of it. A text that ends with a line feed has no empty line
  after it.
-/

namespace Admission.Text

/-! ### Splitting -/

/-- What stands before the first occurrence of a mark, and the pieces between the marks
after it. -/
def pieces (mark : Char) : List Char → List Char × List (List Char)
  | [] => ([], [])
  | c :: cs =>
    let (first, others) := pieces mark cs
    if c = mark then ([], first :: others) else (c :: first, others)

/-- A text without the carriage return at its end, if there is one. -/
def dropReturn : List Char → List Char
  | [] => []
  | ['\r'] => []
  | c :: cs => c :: dropReturn cs

/-- The lines of pieces between line feeds; all but the last one were ended. -/
def closeLines (first : List Char) : List (List Char) → List (List Char)
  | [] => if first.isEmpty then [] else [first]
  | next :: others => dropReturn first :: closeLines next others

/-- The lines of a text, without their ends. -/
def lines (cs : List Char) : List (List Char) :=
  let (first, others) := pieces '\n' cs
  closeLines first others

/-! ### Small laws -/

@[simp] theorem pieces_nil (mark : Char) : pieces mark [] = ([], []) := rfl

@[simp] theorem lines_nil : lines [] = [] := rfl

theorem pieces_mark (mark : Char) (cs : List Char) :
    pieces mark (mark :: cs) = ([], (pieces mark cs).1 :: (pieces mark cs).2) := by
  simp [pieces]

theorem pieces_other {mark c : Char} (h : c ≠ mark) (cs : List Char) :
    pieces mark (c :: cs) = (c :: (pieces mark cs).1, (pieces mark cs).2) := by
  simp [pieces, h]

/-- A piece that is ended stands before the pieces of what follows. -/
theorem pieces_append_mark {mark : Char} {piece : List Char} (h : mark ∉ piece)
    (cs : List Char) :
    pieces mark (piece ++ mark :: cs) = (piece, (pieces mark cs).1 :: (pieces mark cs).2) := by
  induction piece with
  | nil => exact pieces_mark mark cs
  | cons c piece ih =>
    have hc : c ≠ mark := fun he => h (he ▸ List.mem_cons_self)
    have hl : mark ∉ piece := fun hm => h (List.mem_cons_of_mem _ hm)
    rw [List.cons_append, pieces_other hc, ih hl]

/-- Reading lines undoes ending a line. -/
theorem lines_append_newline {line : List Char} (h : '\n' ∉ line) (cs : List Char) :
    lines (line ++ '\n' :: cs) = dropReturn line :: lines cs := by
  simp [lines, pieces_append_mark h, closeLines]

end Admission.Text
