import Citation.Bibliography
import Citation.Output.Format

/-! Writing entries and bibliographies in an output format. -/
namespace Citation

/-- A format, and whether labels are shown. -/
structure Layout where
  format : Format := .text
  labels : Bool := true

namespace Layout

/-- The label of an entry, if it has one and labels are shown. -/
def label? (l : Layout) (e : CitedEntry) : Option (List Char) :=
  if l.labels = true ∧ e.label ≠ [] then some e.label else none

def printText (l : Layout) (t : Text) : List Char := l.format.write t

/-- What stands around the citation of an entry. -/
def framed (l : Layout) (e : CitedEntry) (body : List Char) : List Char :=
  match l.format, l.label? e with
  | .html, some label =>
      "<dt>".toList ++ label.flatMap Format.htmlForm ++ "</dt>\n<dd>".toList ++ body
        ++ "</dd>\n".toList
  | .html, none => "<dd>".toList ++ body ++ "</dd>\n".toList
  | .latex, some label =>
      "\\bibitem[".toList ++ label ++ "]\x7b".toList ++ e.key ++ "\x7d\n".toList ++ body
        ++ "\n\n".toList
  | .latex, none => "\\bibitem\x7b".toList ++ e.key ++ "\x7d\n".toList ++ body ++ "\n\n".toList
  | .text, some label => '[' :: label ++ "] ".toList ++ body ++ ['\n']
  | .text, none => body ++ ['\n']
  | .markdown, some label => '[' :: label ++ "] ".toList ++ body ++ ['\n']
  | .markdown, none => body ++ ['\n']

def printEntry (l : Layout) (e : CitedEntry) : List Char :=
  l.framed e (l.format.write e.text)

/-- What stands before the first entry. -/
def opening (l : Layout) (b : Bibliography) : List Char :=
  match l.format with
  | .html => "<dl>\n".toList
  | .latex => "\\begin\x7bthebibliography\x7d\x7b".toList ++ b.widestLabel ++ "\x7d\n\n".toList
  | .text => []
  | .markdown => []

/-- What stands behind the last entry. -/
def closing (l : Layout) : List Char :=
  match l.format with
  | .html => "</dl>\n".toList
  | .latex => "\\end\x7bthebibliography\x7d\n".toList
  | .text => []
  | .markdown => []

/-- What stands between two entries: an empty line in Markdown. -/
def separator (l : Layout) : List Char := if l.format = .markdown then ['\n'] else []

def print (l : Layout) (b : Bibliography) : List Char :=
  l.opening b ++ l.separator.intercalate (b.map l.printEntry) ++ l.closing

end Layout
end Citation
