import Citation.Text

/-! Joining texts. Empty parts are left out, so that no separator stands beside nothing. -/
namespace Citation

/-- What goes between parts, with special cases for two parts and for the last of more. -/
structure Separators where
  between : String
  pair : Option String := none
  last : Option String := none

namespace Text

/-- The texts of a list with something in them. -/
def present (ts : List Text) : List Text := ts.filter (!·.isEmpty)

/-- One separator before the last text, another one before the others. -/
def chain (between last : List Char) : List Text → Text
  | [] => .nil
  | [t] => t
  | [t, u] => t ++ ofChars last ++ u
  | t :: u :: v :: ts => t ++ ofChars between ++ chain between last (u :: v :: ts)

/-- All texts of a list with the same separator between them. -/
def join (sep : List Char) (ts : List Text) : Text :=
  (present ts).foldl (fun t u => if t.isEmpty then u else t ++ ofChars sep ++ u) .nil

end Text

namespace Separators

/-- The separator before the last of a number of parts. -/
def beforeLast (s : Separators) (count : Nat) : String :=
  if count = 2 then s.pair.getD s.between else s.last.getD s.between

def join (s : Separators) (ts : List Text) : Text :=
  let ts := Text.present ts
  Text.chain s.between.toList (s.beforeLast ts.length).toList ts

end Separators
end Citation
