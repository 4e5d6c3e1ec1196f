import Citation.Text

/-! Entries in citation form, and bibliographies. -/
namespace Citation

/-- An entry in citation form: the sentences of the citation, none of them empty, and the label
that the entry has in its bibliography. -/
structure CitedEntry where
  key : List Char
  type : List Char
  label : List Char
  blocks : List Text
  deriving DecidableEq

namespace CitedEntry

/-- A block behind a text, with a space unless the text ends with one. -/
def addBlock (t block : Text) : Text :=
  if t.last.any (· != ' ') then t ++ .ofChars [' '] ++ block else t ++ block

/-- The whole citation. -/
def text (e : CitedEntry) : Text := (e.blocks.foldl addBlock .nil).trimEnd

def atPlace (e : CitedEntry) (n : Nat) : CitedEntry :=
  { e with label := Nat.toDigits 10 n }

end CitedEntry

/-- Cited entries in bibliography order. -/
abbrev Bibliography := List CitedEntry

namespace Bibliography

def find (b : Bibliography) (key : List Char) : Option CitedEntry :=
  List.find? (fun e => e.key = key) b

/-- The last of the labels with the most characters. -/
def widestLabel (b : Bibliography) : List Char :=
  b.foldl (fun best e => if best.length ≤ e.label.length then e.label else best) []

/-- Labels from one on. -/
def labelled (b : Bibliography) : Bibliography := b.mapIdx fun i e => e.atPlace (i + 1)

end Bibliography
end Citation
