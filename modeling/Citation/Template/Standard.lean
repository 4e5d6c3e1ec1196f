import Citation.Template.Part

/-! The templates of the standard entry types, one sentence or block to a part. -/
namespace Citation.Template

/-- Parts with commas between them, and a period at the end. -/
def sentence (ps : List Part) : Part := .modified .period (.joined { between := ", " } ps)

def spaced (ps : List Part) : Part := .joined { between := " " } ps

def adjacent (ps : List Part) : Part := .joined { between := "" } ps

def commas (ps : List Part) : Part := .joined { between := ", " } ps

def unbroken (ps : List Part) : Part := .joined tiedButLast ps

def maybe (name : String) : Part := .optional (.field name)

def authors : Part := sentence [.names "author"]

def date : Part := adjacent [adjacent [.words "(", .field "year", .words ")"], .words ". "]

/-- A title in sentence case. -/
def title : Part := sentence [.modified .sentenceCase (.field "title")]

def emphasized (name : String) : Part := .modified .emph (.field name)

/-- The title of a work that stands on its own. -/
def workTitle : Part := sentence [emphasized "title"]

def pages : Part := .range "pages"

def editors : Part := commas [.names "editor", .byCount "editor" "editor" "editors"]

def authorsOrEditors : Part := .firstPresent [.optional authors, sentence [editors]]

/-- The place in a series, with the given words for volume and number. -/
def placeInSeries (volume number : String) : Part :=
  .firstPresent
    [.optional (spaced [unbroken [.words volume, .field "volume"],
        .optional (spaced [.words "of", .field "series"])]),
      .optional (spaced [unbroken [.words number, .field "number"],
        .optional (spaced [.words "in", .field "series"])]),
      maybe "series"]

def seriesSentence : Part := .modified .capital (sentence [placeInSeries "Volume" "Number"])

def edition : Part := .optional (spaced [.modified .lowerCase (.field "edition"), .words "edition"])

def isbn : Part := spaced [.words "ISBN", .field "isbn"]

def placeInBook : Part :=
  commas [.optional (unbroken [.words "chapter", .field "chapter"]),
    .optional (unbroken [.words "pp.", pages])]

def placeInJournal : Part :=
  .firstPresent
    [.optional (adjacent [.field "volume",
        .optional (adjacent [.words "(", .field "number", .words ")"]), .words ":", pages]),
      spaced [.words "pages", pages]]

def url : Part := spaced [.words "URL:", .link "url" "" ""]

def eprint : Part := .link "eprint" "arXiv:" "https://arxiv.org/abs/"

def pubmed : Part := .link "pubmed" "PMID:" "https://www.ncbi.nlm.nih.gov/pubmed/"

def doi : Part := adjacent [.words "DOI: ", .link "doi" "" "https://doi.org/"]

def references : Part :=
  sentence
    [.optional (adjacent [url,
        .optional (adjacent [.words " (visited on ", .field "urldate", .words ")"])]),
      .optional eprint, .optional pubmed, .optional doi]

def note : Part := sentence [maybe "note"]

def article : List Part :=
  [authors, date, title, sentence [emphasized "journal", .optional placeInJournal], note,
    references]

def book : List Part :=
  [authorsOrEditors, date, workTitle, seriesSentence,
    sentence [.field "publisher", maybe "address", edition],
    .optional (sentence [isbn]), note, references]

/-- A work in a collection or in proceedings. -/
def inCollection : List Part :=
  [authors, date, workTitle,
    spaced [.words "In:", sentence [.optional editors, emphasized "booktitle",
      placeInSeries "volume" "number", placeInBook]],
    sentence [maybe "publisher", maybe "address", edition], note, references]

def manual : List Part :=
  [.optional authors, date, workTitle,
    sentence [maybe "organization", maybe "address", edition], note, references]

def misc : List Part :=
  [.optional authors, date, .optional workTitle, sentence [maybe "howpublished"], note,
    references]

def phdThesis : List Part :=
  [authors, date, title,
    sentence [.firstPresent [maybe "type", .words "PhD thesis"], .field "school",
      maybe "address"],
    note, references]

def techReport : List Part :=
  [authors, date, title,
    sentence [spaced [.firstPresent [maybe "type", .words "Technical Report"],
      maybe "number"], .field "institution", maybe "address"],
    note, references]

def unpublished : List Part := [authors, date, title, sentence [.field "note"], references]

/-- The template of a type, if the type is a standard one. -/
def ofType : EntryType → Option (List Part)
  | .article => some article
  | .book => some book
  | .inCollection => some inCollection
  | .inProceedings => some inCollection
  | .manual => some manual
  | .misc => some misc
  | .phdThesis => some phdThesis
  | .techReport => some techReport
  | .unpublished => some unpublished
  | .other _ => none

end Citation.Template
