import Citation.Error
import Citation.Latex.Decode
import Citation.Person
import Citation.Text.Join

/-! The layout of a person's name. The parts of a name are groups of words held together by ties. -/
namespace Citation

/-- Parts that are tied together. -/
def tied : Separators where
  between := "\u00a0"

/-- Parts that are tied together but for the last of three or more. -/
def tiedButLast : Separators where
  between := "\u00a0"
  last := some " "

/-- What follows a text that should not part from the next: a tie behind a short one. -/
def spaceBehind (t : Text) : Char := if t.length < 3 then tie else ' '

inductive NameStyle
  /-- Family name first: `von Last Jr, First Middle`. -/
  | familyFirst
  /-- `First Middle von Last, Jr`. -/
  | givenFirst
  deriving DecidableEq

namespace NameStyle

def name : NameStyle → List Char
  | .familyFirst => "lastfirst".toList
  | .givenFirst => "plain".toList

def all : List NameStyle := [.familyFirst, .givenFirst]

def ofName (s : List Char) : Except Error NameStyle :=
  match all.find? fun style => style.name = s with
  | some style => .ok style
  | none => .error (.noSuchNameStyle s)

/-- The words of a group, decoded and tied together. -/
def group (words : List (List Char)) : Text := tied.join (words.map Text.ofLatex)

/-- A group behind `before`, or nothing at all if the group is empty. -/
def behind (before : String) (t : Text) : Text :=
  if t.isEmpty then .nil else .ofChars before.toList ++ t

/-- A group that keeps to what follows it. -/
def sticky (t : Text) : Text := if t.isEmpty then .nil else t ++ .ofChars [spaceBehind t]

/-- The name of a person. The name that stands for further persons has no other parts. -/
def text (style : NameStyle) (initials : Bool) (p : Person) : Text :=
  if p.standsForOthers then .ofChars Person.othersName
  else
    let given := group (if initials then p.given.map initialsOf else p.given)
    match style with
    | .familyFirst =>
        sticky (group p.particles) ++ group p.family ++ behind " " (group p.lineage)
          ++ behind ", " given
    | .givenFirst =>
        sticky given ++ sticky (group p.particles) ++ group p.family
          ++ behind ", " (group p.lineage)

end NameStyle
end Citation
