import Citation.Value

/-! Places in a text, by line and column, both counted from one. -/
namespace Citation

structure Location where
  line : Nat
  column : Nat
  deriving DecidableEq

namespace Location

def next (l : Location) (c : Char) : Location :=
  if c = '\n' then ⟨l.line + 1, 1⟩ else ⟨l.line, l.column + 1⟩

/-- The place right behind a text. -/
def behind (s : List Char) : Location := s.foldl next ⟨1, 1⟩

def display (l : Location) : List Char := decimal l.line ++ ':' :: decimal l.column

@[simp] theorem behind_append (s t : List Char) :
    behind (s ++ t) = t.foldl next (behind s) := by simp [behind]

end Location

/-- The number of bytes that a text takes in UTF-8. -/
def byteCount : List Char → Nat
  | [] => 0
  | c :: s => c.utf8Size + byteCount s

@[simp] theorem byteCount_append (s t : List Char) :
    byteCount (s ++ t) = byteCount s + byteCount t := by
  induction s with
  | nil => simp [byteCount]
  | cons c s ih => simp [byteCount, ih, Nat.add_assoc]

/-- The longest start of a text that takes at most `n` bytes in UTF-8. -/
def firstBytes : Nat → List Char → List Char
  | _, [] => []
  | n, c :: s => if c.utf8Size ≤ n then c :: firstBytes (n - c.utf8Size) s else []

@[simp] theorem firstBytes_zero (s : List Char) : firstBytes 0 s = [] := by
  cases s with
  | nil => rfl
  | cons c s => simp [firstBytes, Nat.ne_of_gt c.utf8Size_pos]

@[simp] theorem firstBytes_append (s t : List Char) :
    firstBytes (byteCount s) (s ++ t) = s := by
  induction s with
  | nil => simp [byteCount]
  | cons c s ih => simp [byteCount, firstBytes, ih]

end Citation
