import Typeset.Text.Blank

/-!
Lines of a text and pieces of a byte stream.  Both are cut after each line feed; they differ in what
they remove from the end of a piece.
-/

namespace Typeset.Text

/-- The pieces that end with the stop, and a last one without it if anything is left. -/
def cutAfter [DecidableEq α] (stop : α) : List α → List (List α)
  | [] => []
  | head :: tail =>
      if head = stop then [head] :: cutAfter stop tail
      else
        match cutAfter stop tail with
        | [] => [[head]]
        | piece :: pieces => (head :: piece) :: pieces

/-- A line without its line feed and one carriage return before it.  A line that the text ends in
the middle of is kept as it is. -/
def dropLineBreak (line : Text) : Text :=
  match line.reverse with
  | '\n' :: '\r' :: rest => rest.reverse
  | '\n' :: rest => rest.reverse
  | _ => line

def lines (text : Text) : List Text :=
  (cutAfter '\n' text).map dropLineBreak

theorem flatten_cutAfter [DecidableEq α] (stop : α) (items : List α) :
    (cutAfter stop items).flatten = items := by
  induction items with
  | nil => rfl
  | cons head tail ih =>
      simp only [cutAfter]
      split
      · simp [ih]
      · cases pieces : cutAfter stop tail with
        | nil => simp [pieces] at ih; simp [← ih]
        | cons piece others => simp [pieces] at ih ⊢; exact ih

end Typeset.Text
