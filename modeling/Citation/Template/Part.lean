import Citation.Entry
import Citation.Error
import Citation.Latex.Decode
import Citation.NameStyle
import Citation.Text.Case
import Citation.Text.Dash

/-! Templates: what a citation is made of, as data, and the text that a template has for an entry.
A part without its field fails; an optional part is empty instead. -/
namespace Citation

namespace Entry

/-- Why an entry has no text for a field: the field's first undefined macro, or its absence. -/
def lack (e : Entry) (name : List Char) : Error :=
  match e.openReference name with
  | some macroName => .undefinedMacro e.key name macroName
  | none => .missingField e.key e.type.name name

/-- The text of a field without the white space around it. -/
def need (e : Entry) (name : List Char) : Except Error (List Char) :=
  match e.text name with
  | some s => .ok (trim s)
  | none => .error (e.lack name)

def needPersons (e : Entry) (role : List Char) : Except Error (List Person) :=
  match e.persons role with
  | some ps => .ok ps
  | none => .error (e.lack role)

end Entry

inductive Modifier
  | emph
  | sentenceCase
  | lowerCase
  | capital
  | period
  deriving DecidableEq

def Modifier.apply : Modifier → Text → Text
  | .emph => Text.within .emph
  | .sentenceCase => Text.sentenceCase
  | .lowerCase => Text.lower
  | .capital => Text.capitalizeFirst
  | .period => Text.withPeriod

inductive Part
  | words (s : String)
  /-- A field, decoded. -/
  | field (name : String)
  /-- A field of numbers with hyphens between them, which become en dashes. -/
  | range (name : String)
  /-- The names of the persons of a field. -/
  | names (role : String)
  /-- A word for the persons of a field, by whether they are more than one. -/
  | byCount (role one many : String)
  /-- A field as it is, with `before` in front, that links to itself behind `target`. -/
  | link (name before target : String)
  | modified (m : Modifier) (p : Part)
  | joined (s : Separators) (ps : List Part)
  | optional (p : Part)
  /-- The first part with some text. -/
  | firstPresent (ps : List Part)

/-- Names in a list: `A`, `A and B`, `A, B, and C`. -/
def nameList : Separators where
  between := ", "
  pair := some " and "
  last := some ", and "

/-- The text of an optional part. -/
def orNothing : Except Error Text → Except Error Text
  | .ok t => .ok t
  | .error err => if err.isLack then .ok .nil else .error err

namespace Part

mutual

/-- The text of a part for an entry, with `person` for the layout of names. -/
def text (person : Person → Text) (e : Entry) : Part → Except Error Text
  | .words s => .ok (.ofChars s.toList)
  | .field name => (e.need name.toList).map Text.ofLatex
  | .range name => (e.need name.toList).map fun s => .ofLatex (enDashes s)
  | .names role => (e.needPersons role.toList).map fun ps => nameList.join (ps.map person)
  | .byCount role one many => (e.needPersons role.toList).map fun ps =>
      .ofChars (if 1 < ps.length then many else one).toList
  | .link name before target => (e.need name.toList).map fun s =>
      .within (.link (target.toList ++ s)) (.ofChars (before.toList ++ s))
  | .modified m p => (p.text person e).map m.apply
  | .joined s ps => (texts person e ps).map s.join
  | .optional p => orNothing (p.text person e)
  | .firstPresent ps => firstText person e ps

/-- The texts of parts in order, or the first failure among them. -/
def texts (person : Person → Text) (e : Entry) : List Part → Except Error (List Text)
  | [] => .ok []
  | p :: ps => match p.text person e with
    | .error err => .error err
    | .ok t => (texts person e ps).map (t :: ·)

/-- The first text with something in it. A failure counts if it comes before one. -/
def firstText (person : Person → Text) (e : Entry) : List Part → Except Error Text
  | [] => .ok .nil
  | p :: ps => match p.text person e with
    | .error err => .error err
    | .ok t => if t.isEmpty then firstText person e ps else .ok t

end

end Part
end Citation
