import Citation.Unicode.DecompositionTable

/-! Canonical composition, and the folding of text to its bare letters. -/
namespace Citation.Unicode

/-- Combining marks. No ASCII character is one. -/
def isMark (c : Char) : Bool :=
  if c.toNat < 128 then false else markTable.contains c.toNat

/-- Zero for a character that starts a cluster. -/
def combiningClass (c : Char) : Nat := combiningClassRanges.value c.toNat

/-- A Hangul syllable is a leading consonant, a vowel and perhaps a trailing consonant. -/
def hangulDecomposition (n : Nat) : List Char :=
  let i := n - 0xAC00
  let lead := Char.ofNat (0x1100 + i / 588)
  let vowel := Char.ofNat (0x1161 + i % 588 / 28)
  if i % 28 = 0 then [lead, vowel] else [lead, vowel, Char.ofNat (0x11A7 + i % 28)]

def isHangulSyllable (n : Nat) : Bool := 0xAC00 ≤ n && n ≤ 0xD7A3

def canonicalDecomposition (c : Char) : List Char :=
  if c.toNat < 128 then [c]
  else if isHangulSyllable c.toNat then hangulDecomposition c.toNat
  else match canonicalExpansions.expansion c.toNat with
    | n :: ns => (n :: ns).map Char.ofNat
    | [] => match canonicalRuns.shifted c.toNat with
      | some n => [Char.ofNat n]
      | none => [c]

def compatibilityDecomposition (c : Char) : List Char :=
  if c.toNat < 128 then [c]
  else match compatibilityExpansions.expansion c.toNat with
    | n :: ns => (n :: ns).map Char.ofNat
    | [] => match compatibilityRuns.shifted c.toNat with
      | some n => [Char.ofNat n]
      | none => canonicalDecomposition c

/-- Puts a mark behind the marks of lower class that follow it. -/
def insertMark (c : Char) : List Char → List Char
  | [] => [c]
  | d :: ds =>
      if combiningClass d ≠ 0 ∧ combiningClass d < combiningClass c then d :: insertMark c ds
      else c :: d :: ds

/-- Each run of marks in ascending order of class; marks of one class keep their order. -/
def orderMarks : List Char → List Char
  | [] => []
  | c :: cs => insertMark c (orderMarks cs)

def hangulComposite (a b : Nat) : Option Nat :=
  if 0x1100 ≤ a ∧ a ≤ 0x1112 ∧ 0x1161 ≤ b ∧ b ≤ 0x1175 then
    some (0xAC00 + (a - 0x1100) * 588 + (b - 0x1161) * 28)
  else if isHangulSyllable a ∧ (a - 0xAC00) % 28 = 0 ∧ 0x11A8 ≤ b ∧ b ≤ 0x11C2 then
    some (a + (b - 0x11A7))
  else none

/-- The one character that a pair of characters composes to. -/
def composite (a b : Char) : Option Char :=
  match hangulComposite a.toNat b.toNat with
  | some n => some (Char.ofNat n)
  | none => match compositionTable.expansion (a.toNat * 0x1000000 + b.toNat) with
    | n :: _ => some (Char.ofNat n)
    | [] => none

/-- A mark already passed by, of the same class or a higher one, hides a character from the
starter. -/
def isHidden (c : Char) : List Char → Bool
  | [] => false
  | passed :: _ => combiningClass c ≤ combiningClass passed

/-- Composes a starter with what follows; `passed` holds the marks that stay, last mark first. -/
def composeOnto (starter : Char) (passed : List Char) : List Char → List Char
  | [] => starter :: passed.reverse
  | c :: cs =>
      match if isHidden c passed then none else composite starter c with
      | some d => composeOnto d passed cs
      | none =>
          if combiningClass c = 0 then starter :: passed.reverse ++ composeOnto c [] cs
          else composeOnto starter (c :: passed) cs

def compose : List Char → List Char
  | [] => []
  | c :: cs => if combiningClass c = 0 then composeOnto c [] cs else c :: compose cs

/-- The canonical composed form of a text. -/
def composed (s : List Char) : List Char :=
  compose (orderMarks (s.flatMap canonicalDecomposition))

/-- The letters of the compatibility decomposition. All that the order of marks could change is
dropped with the marks. -/
def withoutMarks (s : List Char) : List Char :=
  (s.flatMap compatibilityDecomposition).filter fun c => !isMark c

end Citation.Unicode
