import Citation.Value

/-! The types of bibliography entries, and the fields that each one requires. -/
namespace Citation

inductive EntryType
  | article
  | book
  | inCollection
  | inProceedings
  | manual
  | misc
  | phdThesis
  | techReport
  | unpublished
  /-- A type that no citation template knows, as the source spells it. -/
  | other (name : List Char)
  deriving DecidableEq

namespace EntryType

def spelling : EntryType → String
  | .article => "article"
  | .book => "book"
  | .inCollection => "incollection"
  | .inProceedings => "inproceedings"
  | .manual => "manual"
  | .misc => "misc"
  | .phdThesis => "phdthesis"
  | .techReport => "techreport"
  | .unpublished => "unpublished"
  | .other name => String.ofList name

def name (t : EntryType) : List Char := t.spelling.toList

def standard : List EntryType :=
  [.article, .book, .inCollection, .inProceedings, .manual, .misc, .phdThesis, .techReport,
    .unpublished]

/-- Standard names are known in any ASCII case; `conference` is another name for
`inproceedings`. -/
def ofName (s : List Char) : EntryType :=
  match standard.find? fun t => sameName t.name s with
  | some t => t
  | none => if sameName "conference".toList s then .inProceedings else .other s

def isOther : EntryType → Bool
  | .other _ => true
  | _ => false

/-- The fields that an entry of the type must have a text for. A book needs an author or an
editor besides. -/
def required : EntryType → List String
  | .article => ["author", "year", "title", "journal"]
  | .book => ["year", "title", "publisher"]
  | .inCollection | .inProceedings => ["author", "year", "title", "booktitle"]
  | .manual => ["year", "title"]
  | .misc => ["year"]
  | .phdThesis => ["author", "year", "title", "school"]
  | .techReport => ["author", "year", "title", "institution"]
  | .unpublished => ["author", "year", "title", "note"]
  | .other _ => []

@[simp] theorem name_other (s : List Char) : (other s).name = s := by
  simp [name, spelling]

end EntryType
end Citation
