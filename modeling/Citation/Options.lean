import Citation.Options.Document
import Citation.Style

/-! Style options: the names that a style is chosen by, and their reading from a document. -/
namespace Citation

structure Options where
  style : List Char := Style.name
  nameStyle : List Char := NameStyle.familyFirst.name
  initials : Bool := false
  sorting : Sorting := .authorYearTitle
  deriving DecidableEq

namespace Options
open Document

/-- The options that a document can set, in the order of an array. -/
inductive Key
  | style
  | nameStyle
  | initials
  | sorting
  deriving DecidableEq

def Key.name : Key → List Char
  | .style => "style".toList
  | .nameStyle => "name_style".toList
  | .initials => "abbreviate_names".toList
  | .sorting => "sorting".toList

def Key.all : List Key := [.style, .nameStyle, .initials, .sorting]

def sortingOf? (name : List Char) : Option Sorting := (Sorting.ofName name).toOption

/-- Sets an option, if the value is of its kind. -/
def set (o : Options) : Key → Token → Option Options
  | .style, .text s => some { o with style := s }
  | .nameStyle, .text s => some { o with nameStyle := s }
  | .initials, .truth b => some { o with initials := b }
  | .sorting, .text s => (sortingOf? s).map fun sorting => { o with sorting }
  | .sorting, .tagged s => (sortingOf? s).map fun sorting => { o with sorting }
  | _, _ => none

/-- Sets the options named by `keys`, each one once. -/
def setMembers (o : Options) (keys : List Key) :
    List (List Char × Token) → Option Options
  | [] => some o
  | (name, value) :: ms => match keys.find? fun k => k.name = name with
    | some k => (o.set k value).bind fun o => o.setMembers (keys.erase k) ms
    | none => none

/-- Sets options by their place. Items beyond the last option are refused. -/
def setElements (o : Options) : List Key → List Token → Option Options
  | _, [] => some o
  | k :: ks, value :: vs => (o.set k value).bind fun o => o.setElements ks vs
  | [], _ :: _ => none

/-- The options of a document that has been cut into tokens. -/
def ofTokens : List Token → Option Options
  | [.punctuation '{', .punctuation '}'] => some {}
  | .punctuation '{' :: ts => (members ts).bind (setMembers {} Key.all)
  | [.punctuation '[', .punctuation ']'] => some {}
  | .punctuation '[' :: ts => (elements ts).bind (setElements {} Key.all)
  | _ => none

/-- Reads options; what a document does not set keeps its default. -/
def read (s : List Char) : Except Error Options :=
  match ((tokens s).map tagNames).bind ofTokens with
  | some o => .ok o
  | none => .error .badOptions

/-- The style that the options choose. -/
def toStyle (o : Options) : Except Error Style :=
  match Style.ofName o.style with
  | .error err => .error err
  | .ok style => (NameStyle.ofName o.nameStyle).map fun nameStyle =>
      { style with nameStyle, initials := o.initials, sorting := o.sorting }

end Options

end Citation
