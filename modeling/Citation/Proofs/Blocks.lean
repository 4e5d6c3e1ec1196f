import Citation.Proofs.Leftovers

/-! Blocks with leftovers: a blank field that the template of an entry sets beside words shows in
one of the blocks of the citation. -/
namespace Citation.Template
open Text Citation.Part

variable {person : Person → Text} {e e' : Entry} {blank : List Char → Bool}

theorem changes_edition (hb : Entry.Blanked blank e e') (h : blank "edition".toList = true)
    (p q : Part) (hp : p.heedless blank e = true) (hq : q.heedless blank e = true) :
    Changes person e e' (sentence [p, q, edition]) :=
  Tells.changes_sentence [p, q] [] hb (by simp [hp, hq]) (tells_edition hb h) rfl

theorem heedless_placeInSeries_of_other {volume number f : String} (hvolume : volume.toList ≠ [])
    (hnumber : number.toList ≠ []) (hf : f ∈ ["chapter", "pages", "edition", "isbn"]) :
    (placeInSeries volume number).heedless (sameName · f.toList) e = true := by
  apply heedless_placeInSeries hvolume hnumber
  intro g hg
  exact (Entry.not_same_of_series hg hf).1

section
variable {f : String} {ps : List Part} {ts us : List Text}
  (hb : Entry.Blanked (sameName · f.toList) e e')
  (hrefs : references.heedless (sameName · f.toList) e = true)
include hb hrefs

theorem article_present_ne (hf : f ∈ e.journalWorded)
    (hreq : ∀ g ∈ EntryType.article.required, sameName g.toList f.toList = false)
    (hts : texts person e article = .ok ts) (hus : texts person e' article = .ok us) :
    present ts ≠ present us := by
  have hjournal : Changes person e e'
      (sentence [emphasized "journal", .optional placeInJournal]) := by
    apply Tells.changes_sentence [emphasized "journal"] [] hb _ (tells_placeInJournal hb hf) rfl
    simp_all [EntryType.required, emphasized]
  apply hjournal.present_ne [authors, date, title] [note, references] hb _ _ hts hus
  · simp_all [EntryType.required]
  · simpa using hrefs

theorem book_present_ne (hf : f ∈ e.seriesWorded ++ ["edition", "isbn"])
    (hreq : ∀ g ∈ EntryType.book.required, sameName g.toList f.toList = false)
    (hts : texts person e book = .ok ts) (hus : texts person e' book = .ok us) :
    present ts ≠ present us := by
  rcases List.mem_append.1 hf with hf | hf
  · have hedition := (Entry.not_same_of_series hf (g := "edition") (by simp)).2
    have hisbn := (Entry.not_same_of_series hf (g := "isbn") (by simp)).2
    have hseries : Changes person e e' seriesSentence := changes_seriesSentence hb hf
    apply hseries.present_ne [authorsOrEditors, date, workTitle]
      [sentence [.field "publisher", maybe "address", edition], .optional (sentence [isbn]), note,
        references] hb _ _ hts hus
    · simp_all [EntryType.required, authorsOrEditors, sentence]
    · simp_all [EntryType.required, edition, isbn, sentence, spaced]
  · have hself := sameName_self f.toList
    have hseries : (placeInSeries "Volume" "Number").heedless (sameName · f.toList) e = true :=
      heedless_placeInSeries_of_other (by decide) (by decide) (by simp at hf ⊢; tauto)
    simp only [List.mem_cons, List.not_mem_nil, or_false] at hf
    rcases hf with rfl | rfl
    · have hsentence : Changes person e e'
          (sentence [.field "publisher", maybe "address", edition]) := by
        apply changes_edition hb hself
        · simp_all [EntryType.required]
        · simp
      apply hsentence.present_ne [authorsOrEditors, date, workTitle, seriesSentence]
        [.optional (sentence [isbn]), note, references] hb _ _ hts hus
      · simp_all [EntryType.required, authorsOrEditors, seriesSentence, sentence]
      · simp_all [isbn, sentence, spaced, sameName]
    · have hisbn : Changes person e e' (.optional (sentence [isbn])) :=
        (tells_isbn hb hself).changes
      apply hisbn.present_ne [authorsOrEditors, date, workTitle, seriesSentence,
        sentence [.field "publisher", maybe "address", edition]] [note, references] hb _ _ hts hus
      · simp_all [EntryType.required, authorsOrEditors, seriesSentence, edition, sentence, spaced,
          sameName]
      · simpa using hrefs

/-- The sentence on the collection that a work is in. -/
def collection : Part :=
  sentence [.optional editors, emphasized "booktitle", placeInSeries "volume" "number", placeInBook]

theorem present_ne_of_collection (hedition : sameName "edition".toList f.toList = false)
    (hreq : ∀ g ∈ EntryType.inCollection.required, sameName g.toList f.toList = false)
    (hcollection : Changes person e e' collection)
    (hts : texts person e inCollection = .ok ts) (hus : texts person e' inCollection = .ok us) :
    present ts ≠ present us := by
  have hlabelled : Changes person e e' (spaced [.words "In:", collection]) :=
    hcollection.labelled (by decide)
  apply hlabelled.present_ne [authors, date, workTitle]
    [sentence [maybe "publisher", maybe "address", edition], note, references] hb _ _ hts hus
  · simp_all [EntryType.required]
  · simp_all [edition, sentence, spaced]

theorem inCollection_present_ne (hf : f ∈ e.seriesWorded ++ ["chapter", "pages", "edition"])
    (hreq : ∀ g ∈ EntryType.inCollection.required, sameName g.toList f.toList = false)
    (hts : texts person e inCollection = .ok ts) (hus : texts person e' inCollection = .ok us) :
    present ts ≠ present us := by
  have hbooktitle : (emphasized "booktitle").heedless (sameName · f.toList) e = true := by
    simp_all [EntryType.required, emphasized]
  rcases List.mem_append.1 hf with hf | hf
  · have hchapter := (Entry.not_same_of_series hf (g := "chapter") (by simp)).2
    have hpages := (Entry.not_same_of_series hf (g := "pages") (by simp)).2
    have hedition := (Entry.not_same_of_series hf (g := "edition") (by simp)).2
    refine present_ne_of_collection hb hrefs hedition hreq ?_ hts hus
    apply Tells.changes_sentence [.optional editors, emphasized "booktitle"] [placeInBook] hb _
      (tells_placeInSeries hb hf)
    · simp_all [placeInBook, pages, unbroken, commas]
    · simpa using hbooktitle
  · have hself := sameName_self f.toList
    have hseries : (placeInSeries "volume" "number").heedless (sameName · f.toList) e = true :=
      heedless_placeInSeries_of_other (by decide) (by decide) (by simp at hf ⊢; tauto)
    have hcases : f ∈ ["chapter", "pages"] ∨ f = "edition" := by
      simp only [List.mem_cons, List.not_mem_nil, or_false] at hf ⊢
      tauto
    rcases hcases with hf | rfl
    · have hedition : ∀ f ∈ ["chapter", "pages"], sameName "edition".toList f.toList = false := by
        decide
      refine present_ne_of_collection hb hrefs (hedition f hf) hreq ?_ hts hus
      apply Tells.changes_sentence [.optional editors, emphasized "booktitle",
        placeInSeries "volume" "number"] [] hb _ (tells_placeInBook hb hf) rfl
      simp_all
    · have hsentence : Changes person e e'
          (sentence [maybe "publisher", maybe "address", edition]) :=
        changes_edition hb hself _ _ (by simp) (by simp)
      apply hsentence.present_ne [authors, date, workTitle, spaced [.words "In:", collection]]
        [note, references] hb _ _ hts hus
      · simp_all [EntryType.required, collection, placeInBook, pages, unbroken, commas, sentence,
          spaced, sameName]
      · simpa using hrefs

theorem manual_present_ne (hf : f = "edition")
    (hreq : ∀ g ∈ EntryType.manual.required, sameName g.toList f.toList = false)
    (hts : texts person e manual = .ok ts) (hus : texts person e' manual = .ok us) :
    present ts ≠ present us := by
  subst hf
  have hsentence : Changes person e e'
      (sentence [maybe "organization", maybe "address", edition]) :=
    changes_edition hb (sameName_self _) _ _ (by simp) (by simp)
  apply hsentence.present_ne [.optional authors, date, workTitle] [note, references] hb _ _ hts hus
  · simp_all [EntryType.required]
  · simpa using hrefs

end

/-- With a blank field that the sentences set beside words, one of these is different. -/
theorem present_ne_of_sentence {f : String} {ps : List Part} {ts us : List Text}
    (hb : Entry.Blanked (sameName · f.toList) e e') (hf : f ∈ e.sentencesWorded)
    (hps : ofType e.type = some ps) (hts : texts person e ps = .ok ts)
    (hus : texts person e' ps = .ok us) : present ts ≠ present us := by
  have hworded : f ∈ e.worded := List.mem_append_left _ hf
  have hrefs : references.heedless (sameName · f.toList) e = true :=
    heedless_references fun g hg => (Entry.not_same_of_reference hg hf).1
  have hreq : ∀ g ∈ e.type.required, sameName g.toList f.toList = false :=
    fun g hg => Entry.not_same_of_worded hworded (List.mem_append_left _ hg)
  cases ht : e.type <;> rw [ht] at hps hreq <;> simp only [Entry.sentencesWorded, ht] at hf <;>
    simp only [ofType, Option.some.injEq, reduceCtorEq] at hps <;> subst hps
  case article => exact article_present_ne hb hrefs hf hreq hts hus
  case book => exact book_present_ne hb hrefs hf hreq hts hus
  case inCollection | inProceedings => exact inCollection_present_ne hb hrefs hf hreq hts hus
  case manual => exact manual_present_ne hb hrefs (List.mem_singleton.1 hf) hreq hts hus
  all_goals cases hf

/-- With a blank field that the template sets beside words, the blocks are different. -/
theorem present_ne_of_worded {f : String} {ps : List Part} {ts us : List Text}
    (hb : Entry.Blanked (sameName · f.toList) e e') (hf : f ∈ e.worded)
    (hps : ofType e.type = some ps) (hts : texts person e ps = .ok ts)
    (hus : texts person e' ps = .ok us) : present ts ≠ present us := by
  rcases List.mem_append.1 hf with hf' | hf'
  · exact present_ne_of_sentence hb hf' hps hts hus
  · have hsentences : ∃ qs, ps = qs ++ [references] ∧
        allHeedless (sameName · f.toList) e qs = true := by
      apply exists_heedless_sentences hps
      · exact fun g hg _ => Entry.not_same_of_worded hf (List.mem_append_left _ hg)
      · exact fun g hg => (Entry.not_same_of_reference hf' hg).2
      · exact fun _ h => hb.isSome_text h
    obtain ⟨qs, rfl, hqs⟩ := hsentences
    exact (changes_references hb hf').present_ne qs [] hb hqs rfl hts hus

end Citation.Template
