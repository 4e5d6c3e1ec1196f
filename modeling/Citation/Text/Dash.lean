import Citation.Text

/-! Dashes in place of hyphens. -/
namespace Citation

/-- One en dash for each run of hyphens; `inRun` says that one is under way. -/
def enDashesAfter (inRun : Bool) : List Char → List Char
  | [] => []
  | c :: s =>
      if c = '-' then if inRun then enDashesAfter true s else enDash :: enDashesAfter true s
      else c :: enDashesAfter false s

def enDashes (s : List Char) : List Char := enDashesAfter false s

end Citation
