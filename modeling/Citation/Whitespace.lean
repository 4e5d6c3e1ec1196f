/-! White space: the Unicode property, and the two smaller classes that separate the tokens of a
bibliography source. -/
namespace Citation

/-- The 25 characters with the property White_Space. -/
def isWhitespace (c : Char) : Bool :=
  let n := c.toNat
  (9 ≤ n && n ≤ 13) || n == 0x20 || n == 0x85 || n == 0xA0 || n == 0x1680 ||
    (0x2000 ≤ n && n ≤ 0x200A) || n == 0x2028 || n == 0x2029 || n == 0x202F ||
    n == 0x205F || n == 0x3000

/-- What may stand around a token: space, tab, line feed, carriage return. -/
def isSpacing (c : Char) : Bool := c == ' ' || c == '\t' || c == '\n' || c == '\r'

/-- What may stand between items and between fields: spacing and the form feed. -/
def isBlank (c : Char) : Bool := isSpacing c || c == '\x0c'

def skipSpacing (s : List Char) : List Char := s.dropWhile isSpacing

def skipBlank (s : List Char) : List Char := s.dropWhile isBlank

def trimStart (s : List Char) : List Char := s.dropWhile isWhitespace

def trimEnd (s : List Char) : List Char := (s.reverse.dropWhile isWhitespace).reverse

def trim (s : List Char) : List Char := trimEnd (trimStart s)

theorem isBlank_of_isSpacing {c : Char} (h : isSpacing c = true) : isBlank c = true := by
  simp [isBlank, h]

theorem isWhitespace_of_isBlank {c : Char} (h : isBlank c = true) : isWhitespace c = true := by
  simp only [isBlank, isSpacing, Bool.or_eq_true, beq_iff_eq] at h
  rcases h with ((( rfl | rfl) | rfl) | rfl) | rfl <;> rfl

end Citation
