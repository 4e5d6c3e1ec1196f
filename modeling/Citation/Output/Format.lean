import Citation.Error
import Citation.Text

/-! Output formats: how rich text is written as plain text, HTML, Markdown and LaTeX. -/
namespace Citation

inductive Format
  | text
  | html
  | markdown
  | latex
  deriving DecidableEq

namespace Format

def name : Format → List Char
  | .text => "text".toList
  | .html => "html".toList
  | .markdown => "markdown".toList
  | .latex => "latex".toList

def all : List Format := [.text, .html, .markdown, .latex]

/-- The names a format is chosen by, in any ASCII case. -/
def names : List (String × Format) :=
  [("text", .text), ("plain", .text), ("html", .html), ("markdown", .markdown),
    ("md", .markdown), ("latex", .latex)]

def ofName (s : List Char) : Except Error Format :=
  match names.find? fun n => sameName n.1.toList s with
  | some n => .ok n.2
  | none => .error (.noSuchFormat s)

/-- A character that markup would mistake becomes an entity. -/
def htmlForm (c : Char) : List Char :=
  if c = '&' then "&amp;".toList
  else if c = '<' then "&lt;".toList
  else if c = '>' then "&gt;".toList
  else if c = '\"' then "&quot;".toList
  else [c]

def markdownForm (c : Char) : List Char :=
  if ['\\', '*', '_', '[', ']', '\x60', '<', '>', '#'].contains c then ['\\', c] else [c]

def latexForm (c : Char) : List Char :=
  if c = enDash then "--".toList
  else if c = emDash then "---".toList
  else if ['&', '%', '$', '#', '_', '{', '}'].contains c then ['\\', c]
  else if c = '~' then "\\textasciitilde\x7b\x7d".toList
  else if c = '^' then "\\textasciicircum\x7b\x7d".toList
  else if c = '\\' then "\\textbackslash\x7b\x7d".toList
  else [c]

/-- A character of a plain run. Each format has its own form of a tie. -/
def escape (f : Format) (c : Char) : List Char :=
  match f with
  | .text => if c = tie then [' '] else [c]
  | .html => if c = tie then "&nbsp;".toList else htmlForm c
  | .markdown => if c = tie then "&nbsp;".toList else markdownForm c
  | .latex => if c = tie then ['~'] else latexForm c

/-- A link target in the place that the format has for it. -/
def target (f : Format) (url : List Char) : List Char :=
  match f with
  | .text => []
  | .html => url.flatMap htmlForm
  | .markdown => url.flatMap fun c => if c = ')' then "%29".toList else [c]
  | .latex => url.flatMap fun c => if c = '%' ∨ c = '#' then ['\\', c] else [c]

/-- What stands before and behind a wrapped text. -/
def marks (f : Format) (w : Wrap) : List Char × List Char :=
  match f, w with
  | .text, _ => ([], [])
  | .html, .emph => ("<em>".toList, "</em>".toList)
  | .html, .strong => ("<strong>".toList, "</strong>".toList)
  | .html, .guarded => ("<span class=\"bibtex-protected\">".toList, "</span>".toList)
  | .html, .link url => ("<a href=\"".toList ++ f.target url ++ "\">".toList, "</a>".toList)
  | .markdown, .emph => (['*'], ['*'])
  | .markdown, .strong => (['*', '*'], ['*', '*'])
  | .markdown, .guarded => ([], [])
  | .markdown, .link url => (['['], "](".toList ++ f.target url ++ [')'])
  | .latex, .emph => ("\\emph\x7b".toList, ['}'])
  | .latex, .strong => ("\\textbf\x7b".toList, ['}'])
  | .latex, .guarded => (['{'], ['}'])
  | .latex, .link url => ("\\href\x7b".toList ++ f.target url ++ ['}', '{'], ['}'])

def write (f : Format) : Text → List Char
  | .nil => []
  | .run s rest => s.flatMap f.escape ++ f.write rest
  | .wrap w inner rest =>
      (f.marks w).1 ++ f.write inner ++ (f.marks w).2 ++ f.write rest

@[simp] theorem write_consRun (f : Format) (s : List Char) (t : Text) :
    f.write (.consRun s t) = s.flatMap f.escape ++ f.write t := by
  unfold Text.consRun
  split
  · simp_all
  · cases t <;> simp [write]

end Format
end Citation
