import Citation.Database
import Citation.Options
import Citation.Output.Bibliography

/-! From a bibliography source to its written bibliography. -/
namespace Citation

/-- The bibliography of a source in an output format, or the first error: of the options, of the
source, or of the first entry in bibliography order that cannot be cited. -/
def typeset (source : List Char) (o : Options) (f : Format) : Except Error (List Char) :=
  match o.toStyle with
  | .error err => .error err
  | .ok style => match Database.parse source with
    | .error err => .error err
    | .ok db =>
        (style.bibliography db.entries).map (Layout.print { format := f })

end Citation
