import Citation.Bibliography
import Citation.Sorting
import Citation.Template.Standard

/-! The citation style: formatting of entries and of whole bibliographies. -/
namespace Citation

structure Style where
  nameStyle : NameStyle := .familyFirst
  initials : Bool := false
  sorting : Sorting := .authorYearTitle
  deriving DecidableEq

namespace Style

/-- The name that the style is chosen by. -/
def name : List Char := "alpha-numbered".toList

def ofName (s : List Char) : Except Error Style :=
  if s = name then .ok {} else .error (.noSuchStyle s)

def personText (style : Style) (p : Person) : Text := style.nameStyle.text style.initials p

def blocks (style : Style) (e : Entry) (template : List Part) : Except Error (List Text) :=
  (Part.texts style.personText e template).map Text.present

/-- An entry in citation form, without a label. A required field that lacks a text is reported
before the template is looked at. -/
def cite (style : Style) (e : Entry) : Except Error CitedEntry :=
  match Template.ofType e.type with
  | none => .error (.unsupportedType e.key e.type.name)
  | some template => match e.lacking with
    | f :: _ => .error (e.lack f.toList)
    | [] => (style.blocks e template).map fun blocks =>
        { key := e.key, type := e.type.name, label := [], blocks }

/-- Each entry in bibliography order, labelled with its place there. -/
def citeAll (style : Style) (es : List Entry) : List (Except Error CitedEntry) :=
  (style.sorting.sort es).mapIdx fun i e => (style.cite e).map (·.atPlace (i + 1))

/-- All results, or the first error. -/
def allOrError {α : Type} : List (Except Error α) → Except Error (List α)
  | [] => .ok []
  | .error err :: _ => .error err
  | .ok a :: rs => (allOrError rs).map (a :: ·)

def bibliography (style : Style) (es : List Entry) : Except Error Bibliography :=
  allOrError (style.citeAll es)

/-- The entries that can be cited, labelled anew. -/
def citableBibliography (style : Style) (es : List Entry) : Bibliography :=
  Bibliography.labelled ((style.citeAll es).filterMap Except.toOption)

end Style
end Citation
