import Citation.Proofs.Heedless
import Citation.Proofs.Refusal
import Mathlib

/-! The fields that templates set beside words of their own. A blank field is as good as absent to a
template that does not set it so. -/
namespace Citation

namespace Entry

def hasText (e : Entry) (name : String) : Bool := (e.text name.toList).isSome

/-- The fields that the place in a series sets beside words. -/
def seriesWorded (e : Entry) : List String :=
  if e.hasText "volume" then ["volume", "series"]
  else if e.hasText "number" then ["number", "series"] else []

/-- The fields that the place in a journal sets beside words. -/
def journalWorded (e : Entry) : List String :=
  if e.hasText "pages" then
    if e.hasText "volume" then ["volume", "number", "pages"] else ["pages"]
  else []

/-- The fields that the references set beside words. -/
def referencesWorded (e : Entry) : List String :=
  ["url", "eprint", "pubmed", "doi"] ++ if e.hasText "url" then ["urldate"] else []

/-- The fields that the sentences in front of the references set beside words. -/
def sentencesWorded (e : Entry) : List String :=
  match e.type with
  | .article => e.journalWorded
  | .book => e.seriesWorded ++ ["edition", "isbn"]
  | .inCollection | .inProceedings => e.seriesWorded ++ ["chapter", "pages", "edition"]
  | .manual => ["edition"]
  | _ => []

/-- The fields that the template of the entry sets beside words of its own. -/
def worded (e : Entry) : List String := e.sentencesWorded ++ e.referencesWorded

/-- The fields that some sentence in front of the references sets beside words. -/
def sentenceFields : List String :=
  ["volume", "number", "series", "chapter", "pages", "edition", "isbn"]

/-- The fields that some references set beside words. -/
def referenceFields : List String := ["url", "urldate", "eprint", "pubmed", "doi"]

/-- The fields that can stop the citation of some type. -/
def decisiveFields : List String :=
  ["author", "editor", "year", "title", "journal", "booktitle", "publisher", "school",
    "institution", "note"]

variable {e : Entry} {f g : String}

theorem seriesWorded_cases (hf : f ∈ e.seriesWorded) :
    (e.text "volume".toList).isSome = true ∧ (f = "volume" ∨ f = "series") ∨
      e.text "volume".toList = none ∧ (e.text "number".toList).isSome = true ∧
        (f = "number" ∨ f = "series") := by
  unfold seriesWorded hasText at hf
  split at hf
  · simp_all
  · split at hf <;> simp_all

theorem journalWorded_cases (hf : f ∈ e.journalWorded) : (e.text "pages".toList).isSome = true ∧
    (f = "pages" ∨ (e.text "volume".toList).isSome = true ∧ (f = "volume" ∨ f = "number")) := by
  unfold journalWorded hasText at hf
  split at hf
  · split at hf <;> simp_all
    tauto
  · cases hf

theorem referencesWorded_cases (hf : f ∈ e.referencesWorded) :
    f = "url" ∨ f = "eprint" ∨ f = "pubmed" ∨ f = "doi" ∨
      f = "urldate" ∧ (e.text "url".toList).isSome = true := by
  rcases List.mem_append.1 hf with hf | hf
  · simp only [List.mem_cons, List.not_mem_nil, or_false] at hf
    tauto
  · rw [List.mem_ite_nil_right, List.mem_singleton] at hf
    tauto

theorem mem_sentenceFields (hf : f ∈ e.sentencesWorded) : f ∈ sentenceFields := by
  grind [sentencesWorded, seriesWorded, journalWorded, sentenceFields]

theorem mem_referenceFields (hf : f ∈ e.referencesWorded) : f ∈ referenceFields := by
  grind [referencesWorded, referenceFields]

theorem mem_decisiveFields {t : EntryType} (hf : f ∈ t.decisive) : f ∈ decisiveFields := by
  cases t <;> simp_all [EntryType.decisive, EntryType.required, decisiveFields] <;> grind

/-- No field that is set beside words can stop a citation. -/
theorem not_same_of_worded (hf : f ∈ e.worded) (hg : g ∈ e.type.decisive) :
    sameName g.toList f.toList = false := by
  have hall : ∀ f ∈ sentenceFields ++ referenceFields, ∀ g ∈ decisiveFields,
      sameName g.toList f.toList = false := by decide
  refine hall f ?_ g (mem_decisiveFields hg)
  rcases List.mem_append.1 hf with hf | hf
  · exact List.mem_append_left _ (mem_sentenceFields hf)
  · exact List.mem_append_right _ (mem_referenceFields hf)

/-- The references and the sentences in front of them have no field in common. -/
theorem not_same_of_reference (hf : f ∈ e.referencesWorded) (hg : g ∈ e.sentencesWorded) :
    sameName f.toList g.toList = false ∧ sameName g.toList f.toList = false := by
  have hall : ∀ f ∈ referenceFields, ∀ g ∈ sentenceFields,
      sameName f.toList g.toList = false ∧ sameName g.toList f.toList = false := by decide
  exact hall f (mem_referenceFields hf) g (mem_sentenceFields hg)

/-- The place in a series has no field in common with what else is set beside words in a book. -/
theorem not_same_of_series (hf : f ∈ e.seriesWorded)
    (hg : g ∈ ["chapter", "pages", "edition", "isbn"]) :
    sameName f.toList g.toList = false ∧ sameName g.toList f.toList = false := by
  have hall : ∀ f ∈ ["volume", "number", "series"], ∀ g ∈ ["chapter", "pages", "edition", "isbn"],
      sameName f.toList g.toList = false ∧ sameName g.toList f.toList = false := by decide
  refine hall f ?_ g hg
  grind [seriesWorded]

end Entry

namespace Template
open Citation.Part

variable {e : Entry} {blank : List Char → Bool}

theorem heedless_placeInSeries {volume number : String} (hvolume : volume.toList ≠ [])
    (hnumber : number.toList ≠ []) (h : ∀ f ∈ e.seriesWorded, blank f.toList = false) :
    (placeInSeries volume number).heedless blank e = true := by
  by_cases hv : e.hasText "volume"
  · simp_all [Entry.seriesWorded, Entry.hasText, placeInSeries, spaced, unbroken]
  · by_cases hn : e.hasText "number"
    · simp_all [Entry.seriesWorded, Entry.hasText, placeInSeries, spaced, unbroken]
    · simp_all [Entry.hasText, placeInSeries, spaced, unbroken, maybe]

theorem heedless_placeInJournal (h : ∀ f ∈ e.journalWorded, blank f.toList = false)
    (hpages : blank "pages".toList = true → e.hasText "pages" = true) :
    placeInJournal.heedless blank e = true := by
  by_cases hp : e.hasText "pages"
  · by_cases hv : e.hasText "volume"
    · simp_all [Entry.journalWorded, Entry.hasText, placeInJournal, adjacent, spaced, pages]
    · simp_all [Entry.journalWorded, Entry.hasText, placeInJournal, adjacent, spaced, pages]
  · simp_all [Entry.hasText, placeInJournal, adjacent, spaced, pages]

theorem heedless_references (h : ∀ f ∈ e.referencesWorded, blank f.toList = false) :
    references.heedless blank e = true := by
  by_cases hu : e.hasText "url"
  · simp_all [Entry.referencesWorded, Entry.hasText, references, url, eprint, pubmed, doi,
      sentence, adjacent, spaced]
  · simp_all [Entry.referencesWorded, Entry.hasText, references, url, eprint, pubmed, doi,
      sentence, adjacent, spaced]

@[simp] theorem heedless_authors : authors.heedless blank e = true := by
  simp [authors, sentence]

@[simp] theorem heedless_editors : editors.heedless blank e = true := by
  simp [editors, commas]

@[simp] theorem heedless_date : date.heedless blank e = !blank "year".toList := by
  simp [date, adjacent]

@[simp] theorem heedless_title : title.heedless blank e = !blank "title".toList := by
  simp [title, sentence]

@[simp] theorem heedless_workTitle : workTitle.heedless blank e = !blank "title".toList := by
  simp [workTitle, emphasized, sentence]

@[simp] theorem heedless_maybe (name : String) : (maybe name).heedless blank e = true := by
  simp [maybe]

@[simp] theorem heedless_note : note.heedless blank e = true := by
  simp [note, sentence]

/-- In front of the references, the template of a type tells a blank field from an absent one only
if the field is required or set beside words. -/
theorem exists_heedless_sentences {ps : List Part} (hps : ofType e.type = some ps)
    (hreq : ∀ f ∈ e.type.required, f ≠ "author" → blank f.toList = false)
    (hworded : ∀ f ∈ e.sentencesWorded, blank f.toList = false)
    (hthere : ∀ name, blank name = true → (e.text name).isSome = true) :
    ∃ qs, ps = qs ++ [references] ∧ allHeedless blank e qs = true := by
  cases ht : e.type <;> rw [ht] at hps hreq <;>
    simp only [ofType, Option.some.injEq, reduceCtorEq] at hps <;> subst hps
  case article =>
    have hjournal : placeInJournal.heedless blank e = true := by
      apply heedless_placeInJournal
      · exact fun f hf => hworded f (by simp [Entry.sentencesWorded, ht, hf])
      · exact hthere _
    refine ⟨article.dropLast, rfl, ?_⟩
    simp_all [EntryType.required, article, sentence, emphasized]
  case book =>
    have hseries : (placeInSeries "Volume" "Number").heedless blank e = true := by
      apply heedless_placeInSeries (by decide) (by decide)
      exact fun f hf => hworded f (by simp [Entry.sentencesWorded, ht, hf])
    have hedition := hworded "edition" (by simp [Entry.sentencesWorded, ht])
    have hisbn := hworded "isbn" (by simp [Entry.sentencesWorded, ht])
    refine ⟨book.dropLast, rfl, ?_⟩
    simp_all [EntryType.required, book, authorsOrEditors, seriesSentence, edition, isbn, sentence,
      spaced]
  case inCollection | inProceedings =>
    have hseries : (placeInSeries "volume" "number").heedless blank e = true := by
      apply heedless_placeInSeries (by decide) (by decide)
      exact fun f hf => hworded f (by simp [Entry.sentencesWorded, ht, hf])
    have hedition := hworded "edition" (by simp [Entry.sentencesWorded, ht])
    have hchapter := hworded "chapter" (by simp [Entry.sentencesWorded, ht])
    have hpages := hworded "pages" (by simp [Entry.sentencesWorded, ht])
    refine ⟨inCollection.dropLast, rfl, ?_⟩
    simp_all [EntryType.required, inCollection, placeInBook, pages, edition, sentence, spaced,
      commas, unbroken, emphasized]
  case manual =>
    have hedition := hworded "edition" (by simp [Entry.sentencesWorded, ht])
    refine ⟨manual.dropLast, rfl, ?_⟩
    simp_all [EntryType.required, manual, edition, sentence, spaced]
  case misc =>
    refine ⟨misc.dropLast, rfl, ?_⟩
    simp_all [EntryType.required, misc, workTitle, sentence, emphasized]
  case phdThesis =>
    refine ⟨phdThesis.dropLast, rfl, ?_⟩
    simp_all [EntryType.required, phdThesis, sentence]
  case techReport =>
    refine ⟨techReport.dropLast, rfl, ?_⟩
    simp_all [EntryType.required, techReport, sentence, spaced]
  case unpublished =>
    refine ⟨unpublished.dropLast, rfl, ?_⟩
    simp_all [EntryType.required, unpublished, sentence]

/-- The template of a type tells a blank field from an absent one only if the field is required or
set beside words. -/
theorem heedless_template {ps : List Part} (hps : ofType e.type = some ps)
    (hreq : ∀ f ∈ e.type.required, f ≠ "author" → blank f.toList = false)
    (hworded : ∀ f ∈ e.worded, blank f.toList = false)
    (hthere : ∀ name, blank name = true → (e.text name).isSome = true) :
    allHeedless blank e ps = true := by
  have hrefs : references.heedless blank e = true :=
    heedless_references fun f hf => hworded f (List.mem_append_right _ hf)
  obtain ⟨qs, rfl, hqs⟩ := exists_heedless_sentences hps hreq
    (fun f hf => hworded f (List.mem_append_left _ hf)) hthere
  simp [allHeedless_append, hqs, hrefs]

end Template

end Citation
