import Citation.Pieces
import Citation.Unicode.Class
import Citation.Value
import Citation.Whitespace

/-! Persons: the parts of a name, and the three written forms `First von Last`,
`von Last, First` and `von Last, Jr, First`. The words of a name keep their markup. -/
namespace Citation
open Unicode

structure Person where
  first : List (List Char) := []
  middle : List (List Char) := []
  particles : List (List Char) := []
  family : List (List Char) := []
  lineage : List (List Char) := []
  deriving DecidableEq

/-- Words stand between white space and ties outside braces. -/
def wordsOf (s : List Char) : List (List Char) :=
  (piecesOutside (fun c => isWhitespace c || c == '~') 0 s).filter (· ≠ [])

def commaPieces (s : List Char) : List (List Char) :=
  (piecesOutside (· == ',') 0 s).map trim

/-- The letter that decides the case of a group which opens with a command: the first one behind
the command's name, else the first of the name. -/
def commandIsSmall (s : List Char) : Bool :=
  let command := s.takeWhile isAlphabetic
  let rest := s.dropWhile isAlphabetic
  let argument := if command = [] then rest.drop 1 else rest
  match (argument.takeWhile (· ≠ '}')).find? isAlphabetic with
  | some c => isLowercase c
  | none => command.head?.any isLowercase

/-- A particle is a word whose first letter outside braces is small. A group that opens with a
command counts as a letter. -/
def isParticleAt (depth : Nat) : List Char → Bool
  | [] => false
  | c :: s =>
      if depth = 0 ∧ c = '{' ∧ s.head? = some '\\' then commandIsSmall (s.drop 1)
      else if depth = 0 ∧ isAlphabetic c then isLowercase c
      else isParticleAt (depthAfter c depth) s

def isParticle (word : List Char) : Bool := isParticleAt 0 word

namespace Person

/-- The name that closes an open list. -/
def othersName : List Char := "others".toList

def others : Person where
  family := [othersName]

def standsForOthers (p : Person) : Bool := p.family.head? == some othersName

def given (p : Person) : List (List Char) := p.first ++ p.middle

def withGiven (p : Person) (words : List (List Char)) : Person :=
  { p with first := words.take 1, middle := words.drop 1 }

/-- The particles end with the last small word, but the last word is never one of them. -/
def withFamily (p : Person) (words : List (List Char)) : Person :=
  let small := (words.reverse.dropWhile (!isParticle ·)).reverse
  match (words.reverse.takeWhile (!isParticle ·)).reverse with
  | [] => { p with particles := small.dropLast, family := small.getLast?.toList }
  | w :: ws => { p with particles := small, family := w :: ws }

/-- Without a comma the family part starts at the first particle, or is the last word. -/
def ofWords (words : List (List Char)) : Person :=
  let before := words.takeWhile (!isParticle ·)
  match words.dropWhile (!isParticle ·) with
  | [] => (withGiven {} before.dropLast).withFamily before.getLast?.toList
  | w :: ws => (withGiven {} before).withFamily (w :: ws)

/-- Behind the second comma stand the given names, whatever further commas they hold. -/
def parse (name : List Char) : Person :=
  match commaPieces name with
  | [] => ofWords (wordsOf name)
  | [_] => ofWords (wordsOf name)
  | [family, given] => (withFamily {} (wordsOf family)).withGiven (wordsOf given)
  | family :: lineage :: given =>
      { (withFamily {} (wordsOf family)).withGiven (wordsOf ([' '].intercalate given)) with
        lineage := wordsOf lineage }

/-- The name in the form `von Last, Jr, First Middle`. -/
def display (p : Person) : List Char :=
  let behindComma (words : List (List Char)) : List Char :=
    if words = [] then [] else ", ".toList ++ [' '].intercalate words
  [' '].intercalate (p.particles ++ p.family) ++ behindComma p.lineage ++ behindComma p.given

def ofListed (words : List (List Char)) : Person :=
  let name := [' '].intercalate words
  if name = othersName then others else parse name

/-- The persons of a list: names stand between the word `and` in any case. -/
def parseList (names : List Char) : List Person :=
  ((pieces (sameName "and".toList) (wordsOf names)).filter (· ≠ [])).map ofListed

end Person

/-- The group that a text starts with, or all of the text if the group never closes. -/
def firstGroup (depth : Nat) : List Char → List Char
  | [] => []
  | c :: s =>
      if c = '}' ∧ depthAfter c depth = 0 then [c] else c :: firstGroup (depthAfter c depth) s

/-- A leading brace group counts as one letter. -/
def initial : List Char → List Char
  | [] => []
  | c :: s => if c = '{' then firstGroup 0 (c :: s) else [c]

/-- The initials of a given name: one for each piece between hyphens. -/
def initialsOf (word : List Char) : List Char :=
  ['-'].intercalate
    (((piecesOutside (· == '-') 0 word).filter (· ≠ [])).map fun p => initial p ++ ['.'])

end Citation
