/-
This file cuts a text at separators and joins the pieces again.
-/
namespace FeedCache.Text

/-- The pieces between the separators, in order; a text without separators is one piece. -/
def pieces (separator : Char → Bool) : List Char → List (List Char)
  | [] => [[]]
  | c :: rest =>
      if separator c then [] :: pieces separator rest
      else match pieces separator rest with
        | [] => [[c]]
        | piece :: others => (c :: piece) :: others

/-- The pieces with the separator between each two. -/
def joined (separator : Char) : List (List Char) → List Char
  | [] => []
  | [piece] => piece
  | piece :: others => piece ++ separator :: joined separator others

theorem piecesNeNil (separator : Char → Bool) (text : List Char) :
    pieces separator text ≠ [] := by
  cases text with
  | nil => simp [pieces]
  | cons c rest =>
      rw [pieces]
      split
      · simp
      · split <;> simp

/-- A text without separators is one piece. -/
theorem piecesOfNone (separator : Char → Bool) (text : List Char)
    (none : ∀ c ∈ text, separator c = false) : pieces separator text = [text] := by
  induction text with
  | nil => rfl
  | cons c rest hypothesis =>
      rw [pieces, hypothesis fun d member => none d (by simp [member])]
      simp [none c (by simp)]

/-- The first separator ends the first piece. -/
theorem piecesAppendCons (separator : Char → Bool) (piece : List Char) (c : Char)
    (rest : List Char) (none : ∀ d ∈ piece, separator d = false) (cut : separator c = true) :
    pieces separator (piece ++ c :: rest) = piece :: pieces separator rest := by
  induction piece with
  | nil => simp [pieces, cut]
  | cons d piece hypothesis =>
      rw [List.cons_append, pieces, hypothesis fun e member => none e (by simp [member])]
      simp [none d (by simp)]

/-- Cutting undoes joining. -/
theorem piecesJoined (separator : Char) (first : List Char) (others : List (List Char))
    (clean : ∀ piece ∈ first :: others, ∀ c ∈ piece, c ≠ separator) :
    pieces (· == separator) (joined separator (first :: others)) = first :: others := by
  induction others generalizing first with
  | nil =>
      exact piecesOfNone _ _ fun c member => by simpa using clean first (by simp) c member
  | cons second others hypothesis =>
      rw [joined, piecesAppendCons _ _ _ _
        (fun c member => by simpa using clean first (by simp) c member) (by simp)]
      · rw [hypothesis second fun piece member => clean piece (by simp [member])]
      · simp

end FeedCache.Text
