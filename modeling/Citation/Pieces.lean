/-! Cutting: lists at the elements of a class, texts at characters outside braces. -/
namespace Citation

/-- Puts an element in front of the first piece. -/
def extendFirst {α : Type} (a : α) : List (List α) → List (List α)
  | [] => [[a]]
  | p :: ps => (a :: p) :: ps

/-- What stands between the elements that satisfy `cut`. -/
def pieces {α : Type} (cut : α → Bool) : List α → List (List α)
  | [] => [[]]
  | a :: s => if cut a then [] :: pieces cut s else extendFirst a (pieces cut s)

/-- The brace depth behind a character. A stray closing brace leaves it at zero. -/
def depthAfter (c : Char) (depth : Nat) : Nat :=
  if c = '{' then depth + 1 else if c = '}' then depth - 1 else depth

/-- What stands between the characters that satisfy `cut` at depth zero. -/
def piecesOutside (cut : Char → Bool) (depth : Nat) : List Char → List (List Char)
  | [] => [[]]
  | c :: s =>
      if depth = 0 ∧ cut c = true then [] :: piecesOutside cut 0 s
      else extendFirst c (piecesOutside cut (depthAfter c depth) s)

@[simp] theorem extendFirst_ne_nil {α : Type} (a : α) (ps : List (List α)) :
    extendFirst a ps ≠ [] := by
  cases ps <;> simp [extendFirst]

theorem piecesOutside_ne_nil (cut : Char → Bool) (depth : Nat) (s : List Char) :
    piecesOutside cut depth s ≠ [] := by
  cases s with
  | nil => simp [piecesOutside]
  | cons c s => simp only [piecesOutside]; split <;> simp

end Citation
