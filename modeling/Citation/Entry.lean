import Citation.EntryType
import Citation.Person

/-! Entries: a type, a citation key and fields in source order. A field is found under its name
in any ASCII case, and the first of several counts. -/
namespace Citation

structure Field where
  name : List Char
  value : Value

structure Entry where
  type : EntryType
  key : List Char
  fields : List Field

namespace Entry

def find (e : Entry) (name : List Char) : Option Field :=
  e.fields.find? fun f => sameName f.name name

/-- The text of a field that holds a single literal. -/
def literal? (e : Entry) (name : List Char) : Option (List Char) :=
  (e.find name).bind (·.value.literal?)

def text (e : Entry) (name : List Char) : Option (List Char) :=
  (e.find name).bind (·.value.text)

def openReference (e : Entry) (name : List Char) : Option (List Char) :=
  (e.find name).bind (·.value.openReference)

def has (e : Entry) (name : List Char) : Bool := (e.find name).isSome

/-- The persons of a name field, if it holds any. -/
def persons (e : Entry) (role : List Char) : Option (List Person) :=
  match e.text role with
  | none => none
  | some names => match Person.parseList names with
    | [] => none
    | p :: ps => some (p :: ps)

def push (e : Entry) (f : Field) : Entry := { e with fields := e.fields ++ [f] }

/-- The required fields without a text, in the order that the type lists them. -/
def lacking (e : Entry) : List String := e.type.required.filter fun f => (e.text f.toList).isNone

def isComplete (e : Entry) : Bool := e.lacking.isEmpty

end Entry
end Citation
