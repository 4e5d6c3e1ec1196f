/-! Scanning a source in its UTF-8 form. Positions are offsets of bytes: a byte is read only within
the input, and a part is cut out of it only between two boundaries of characters. -/
namespace Citation.Source

/-- The UTF-8 form of a text. -/
def utf8 (s : List Char) : List UInt8 := s.flatMap String.utf8EncodeChar

/-- What an offset must not do. -/
inductive Fault
  /-- Lie behind the end, where a byte is read. -/
  | outside
  /-- Lie behind the end or within a character, or in front of another one, where a part is cut. -/
  | noBoundary
  deriving DecidableEq

/-- The value of a scanner, if it has one, and the input as the scanner leaves it. -/
structure Scanned where
  value : Option (List UInt8)
  input : List UInt8
  deriving DecidableEq

namespace Bytes

def byteAt (s : List UInt8) (i : Nat) : Except Fault UInt8 :=
  match s[i]? with
  | some b => .ok b
  | none => .error .outside

def bytesFrom (s : List UInt8) (i : Nat) : Except Fault (List UInt8) :=
  if i ≤ s.length then .ok (s.drop i) else .error .outside

/-- A character may begin at the offset: it is at one of the ends, or at a byte that continues no
character. -/
def isBoundary (s : List UInt8) (i : Nat) : Bool :=
  match s[i]? with
  | some b => i == 0 || !(0x80 ≤ b && b < 0xc0)
  | none => i == s.length

def cut (s : List UInt8) (i j : Nat) : Except Fault (List UInt8) :=
  if i ≤ j ∧ isBoundary s i = true ∧ isBoundary s j = true then .ok ((s.take j).drop i)
  else .error .noBoundary

/-- A search for three bytes. -/
abbrev Search := UInt8 → UInt8 → UInt8 → List UInt8 → Option Nat

/-- It gives the offset of the first of them, or nothing where there is none. -/
def Search.FindsFirst (search : Search) : Prop :=
  ∀ x y z s, search x y z s = s.findIdx? fun b => b == x || b == y || b == z

section
variable (search : Search)

/-- The offset of the brace that closes a group of the given depth. The search leaps from one brace
or backslash to the next, and over one byte behind a backslash. -/
def closingBrace (s : List UInt8) (depth pos : Nat) : Except Fault (Option Nat) :=
  if pos < s.length then do
    let rest ← bytesFrom s pos
    match search '{'.toUInt8 '}'.toUInt8 '\\'.toUInt8 rest with
    | none => return none
    | some offset =>
        let b ← byteAt s (pos + offset)
        if b = '{'.toUInt8 then closingBrace s (depth + 1) (pos + offset + 1)
        else if b = '}'.toUInt8 then
          match depth with
          | 0 => return some (pos + offset)
          | depth + 1 => closingBrace s depth (pos + offset + 1)
        else closingBrace s depth (pos + offset + 2)
  else return none
termination_by s.length - pos

/-- The contents of a brace group, up to the brace that closes it. -/
def groupBody (s : List UInt8) : Except Fault Scanned := do
  match ← closingBrace search s 0 0 with
  | none => return ⟨none, s⟩
  | some pos =>
      let rest ← cut s pos s.length
      let body ← cut s 0 pos
      return ⟨some body, rest⟩

end

/-- The offset of the quote that ends a string. Byte by byte, but for one behind a backslash. -/
def closingQuote (s : List UInt8) (depth pos : Nat) : Except Fault (Option Nat) :=
  if pos < s.length then do
    let b ← byteAt s pos
    if b = '\\'.toUInt8 then closingQuote s depth (pos + 2)
    else if b = '\"'.toUInt8 ∧ depth = 0 then return some pos
    else if b = '{'.toUInt8 then closingQuote s (depth + 1) (pos + 1)
    else if b = '}'.toUInt8 then closingQuote s (depth - 1) (pos + 1)
    else closingQuote s depth (pos + 1)
  else return none
termination_by s.length - pos

/-- The contents of a string in quotes. -/
def quoted (s : List UInt8) : Except Fault Scanned :=
  if s.head? = some '\"'.toUInt8 then do
    match ← closingQuote s 0 1 with
    | none => return ⟨none, s⟩
    | some pos =>
        let rest ← cut s (pos + 1) s.length
        let body ← cut s 1 pos
        return ⟨some body, rest⟩
  else return ⟨none, s⟩

end Bytes
end Citation.Source
