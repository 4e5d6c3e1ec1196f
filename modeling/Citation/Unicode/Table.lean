import Citation.Pieces

/-! Tables of code points. A table is a list of blocks, each under its first code point; a block
is a list of rows of numbers. Blocks, and the rows of a block, ascend by their first numbers. -/
namespace Citation.Unicode

abbrev Table := List (Nat × List (List Nat))

def hexDigit (c : Char) : Nat :=
  if c ≤ '9' then c.toNat - '0'.toNat else c.toNat - 'A'.toNat + 10

def hexNumber (s : List Char) : Nat := s.foldl (fun n c => 16 * n + hexDigit c) 0

/-- The rows of a block in writing: blanks between rows, commas between hexadecimal numbers. -/
def rows (block : String) : List (List Nat) :=
  (pieces (· == ' ') block.toList).map fun row => (pieces (· == ',') row).map hexNumber

def Table.ofBlocks (blocks : List (Nat × String)) : Table :=
  blocks.map fun b => (b.1, rows b.2)

/-- The last element with a key of at most `n`, among elements with ascending keys. -/
def lastUpTo {α : Type} (key : α → Nat) (n : Nat) (xs : List α) : Option α :=
  (xs.takeWhile (key · ≤ n)).getLast?

/-- The row that starts at `n` or last before it. -/
def Table.rowOf (t : Table) (n : Nat) : List Nat :=
  match lastUpTo Prod.fst n t with
  | some (_, block) => (lastUpTo (·.headD 0) n block).getD []
  | none => []

/-- Membership in a table of ranges. -/
def Table.contains (t : Table) (n : Nat) : Bool :=
  match t.rowOf n with
  | [_, last] => n ≤ last
  | _ => false

/-- The value that a table of ranges gives, zero outside them. -/
def Table.value (t : Table) (n : Nat) : Nat :=
  match t.rowOf n with
  | [_, last, value] => if n ≤ last then value else 0
  | _ => 0

/-- The image in a table of runs: a run steps through its points, and its image with it. -/
def Table.shifted (t : Table) (n : Nat) : Option Nat :=
  match t.rowOf n with
  | [first, last, step, image] =>
      if n ≤ last ∧ (n - first) % step = 0 then some (image + (n - first)) else none
  | _ => none

/-- What stands beside `n` in a table of single points. -/
def Table.expansion (t : Table) (n : Nat) : List Nat :=
  match t.rowOf n with
  | point :: image => if point = n then image else []
  | [] => []

end Citation.Unicode
