import Citation.Proofs.Capitals
import Citation.Proofs.Fields
import Citation.Proofs.Telling
import Citation.Proofs.Worded
import Mathlib

/-! What blank fields leave standing: the words that a template sets beside a field stay when the
field is blank and go when it is absent, so that the text of the template differs. -/
namespace Citation

theorem Entry.Blanked.isSome_text {e e' : Entry} {blank : List Char → Bool} {name : List Char}
    (hb : Blanked blank e e') (h : blank name = true) : (e.text name).isSome = true := by
  have hneed := hb.need_blank name h
  cases ht : e.text name with
  | some s => rfl
  | none => simp [need, ht] at hneed

namespace Template
open Text Citation.Part Separators

variable {person : Person → Text} {e e' : Entry} {blank : List Char → Bool} {t u : Text}

theorem tells_edition (hb : Entry.Blanked blank e e') (h : blank "edition".toList = true) :
    Tells person e e' edition := by
  apply Tells.optional_of_lacking
  · simpa [spaced] using hb.isSome_text h
  · simpa [spaced] using hb.gone _ h

theorem tells_isbn (hb : Entry.Blanked blank e e') (h : blank "isbn".toList = true) :
    Tells person e e' (.optional (sentence [isbn])) := by
  apply Tells.optional_of_lacking
  · simpa [sentence, isbn, spaced] using hb.isSome_text h
  · simpa [sentence, isbn, spaced] using hb.gone _ h

theorem tells_placeInBook {f : String} (hb : Entry.Blanked (sameName · f.toList) e e')
    (hf : f ∈ ["chapter", "pages"]) : Tells person e e' placeInBook := by
  simp only [List.mem_cons, List.not_mem_nil, or_false] at hf
  rcases hf with rfl | rfl
  · have htext := hb.isSome_text (sameName_self "chapter".toList)
    have hgone := hb.gone _ (sameName_self "chapter".toList)
    apply Tells.joined [] [.optional (unbroken [.words "pp.", pages])] hb (by decide) rfl
    · apply Tells.optional_of_lacking
      · simpa [unbroken] using htext
      · simpa [unbroken] using hgone
    · simp [unbroken, pages, sameName]
  · have htext := hb.isSome_text (sameName_self "pages".toList)
    have hgone := hb.gone _ (sameName_self "pages".toList)
    apply Tells.joined [.optional (unbroken [.words "chapter", .field "chapter"])] [] hb (by decide)
    · simp [unbroken, sameName]
    · apply Tells.optional_of_lacking
      · simpa [unbroken, pages] using htext
      · simpa [unbroken, pages] using hgone
    · rfl

/-- Between words, a blank field leaves the words. -/
theorem length_bracketed {name : String} (hb : Entry.Blanked blank e e')
    (h : blank name.toList = true) {before after : String} (hbefore : before.toList ≠ [])
    (hafter : after.toList ≠ [])
    (ht : (Part.optional (adjacent [.words before, .field name, .words after])).text person e =
      .ok t)
    (hu : (Part.optional (adjacent [.words before, .field name, .words after])).text person e' =
      .ok u) : u.plain.length + 2 ≤ t.plain.length := by
  have hlacking : (adjacent [.words before, .field name, .words after]).lacking e' = true := by
    simp [adjacent, hb.gone _ h]
  have hshows : (adjacent [.words before, .field name, .words after]).shows e = true := by
    simp [adjacent, hb.isSome_text h, hbefore]
  rw [text_optional_of_lacking hlacking, Except.ok.injEq] at hu
  rw [text_optional_of_shows hshows] at ht
  obtain ⟨ts, hts, rfl⟩ := map_eq_ok_iff.1 ht
  have htexts : ts = [.ofChars before.toList, .nil, .ofChars after.toList] := by
    simpa [texts, Part.text, hb.need_blank _ h, Except.map, ofLatex_nil] using hts.symm
  have hplain : ((uniform "").join ts).plain = before.toList ++ after.toList := by
    rw [plain_join_adjacent, htexts]
    simp [plain]
  have hbefore' := List.length_pos_iff.2 hbefore
  have hafter' := List.length_pos_iff.2 hafter
  subst hu
  change Text.nil.plain.length + 2 ≤ ((uniform "").join ts).plain.length
  rw [hplain, List.length_append]
  simp only [plain, List.length_nil]
  omega

/-! The references. -/

/-- The day of a visit, behind the address. -/
def visited : Part :=
  .optional (adjacent [.words " (visited on ", .field "urldate", .words ")"])

theorem shows_url (h : (e.text "url".toList).isSome = true) :
    (adjacent [url, visited]).shows e = true := by
  simp_all [adjacent, url, spaced, visited]

theorem lacking_url (h : e.text "url".toList = none) :
    (adjacent [url, visited]).lacking e = true := by
  simp_all [adjacent, url, spaced]

theorem changes_references {f : String} (hb : Entry.Blanked (sameName · f.toList) e e')
    (hf : f ∈ e.referencesWorded) : Changes person e e' references := by
  have htext := hb.isSome_text (sameName_self f.toList)
  have hgone := hb.gone _ (sameName_self f.toList)
  rcases Entry.referencesWorded_cases hf with rfl | rfl | rfl | rfl | ⟨rfl, hurl⟩
  · apply Tells.changes_sentence [] [.optional eprint, .optional pubmed, .optional doi] hb rfl
      (p := .optional (adjacent [url, visited])) _ _
    · exact Tells.optional_of_lacking (shows_url htext) (lacking_url hgone)
    · simp [eprint, pubmed, doi, adjacent, sameName]
  · apply Tells.changes_sentence [.optional (adjacent [url, visited])]
      [.optional pubmed, .optional doi] hb _ (p := .optional eprint) _ _
    · simp [url, visited, adjacent, spaced, sameName]
    · apply Tells.optional_of_lacking
      · simpa [eprint] using htext
      · simpa [eprint] using hgone
    · simp [pubmed, doi, adjacent, sameName]
  · apply Tells.changes_sentence [.optional (adjacent [url, visited]), .optional eprint]
      [.optional doi] hb _ (p := .optional pubmed) _ _
    · simp [url, visited, eprint, adjacent, spaced, sameName]
    · apply Tells.optional_of_lacking
      · simpa [pubmed] using htext
      · simpa [pubmed] using hgone
    · simp [doi, adjacent, sameName]
  · apply Tells.changes_sentence
      [.optional (adjacent [url, visited]), .optional eprint, .optional pubmed] [] hb _
      (p := .optional doi) _ rfl
    · simp [url, visited, eprint, pubmed, adjacent, spaced, sameName]
    · apply Tells.optional_of_lacking
      · simpa [doi, adjacent] using htext
      · simpa [doi, adjacent] using hgone
  · apply Tells.changes_sentence [] [.optional eprint, .optional pubmed, .optional doi] hb rfl
      (p := .optional (adjacent [url, visited])) _ _
    · have hkept := hb.kept "url".toList (by decide)
      apply Tells.optional
      · apply Tells.adjacent [url] [] hb _ _ rfl
        · simp [url, spaced, sameName]
        · intro t u
          exact length_bracketed hb (sameName_self "urldate".toList) (by decide) (by decide)
      · exact shows_url hurl
      · exact shows_url (hkept ▸ hurl)
    · simp [eprint, pubmed, doi, adjacent, sameName]

/-! The place in a journal. -/

/-- The place by volume, number and pages. -/
def placeInVolume : Part :=
  adjacent [.field "volume", .optional (adjacent [.words "(", .field "number", .words ")"]),
    .words ":", pages]

def placeByPages : Part := spaced [.words "pages", pages]

theorem shows_placeInVolume (hvolume : (e.text "volume".toList).isSome = true)
    (hpages : (e.text "pages".toList).isSome = true) : placeInVolume.shows e = true := by
  simp_all [placeInVolume, adjacent, pages]

theorem shows_placeByPages (hpages : (e.text "pages".toList).isSome = true) :
    placeByPages.shows e = true := by
  simpa [placeByPages, spaced, pages] using hpages

theorem text_placeInJournal_of_volume (hvolume : (e.text "volume".toList).isSome = true)
    (hpages : (e.text "pages".toList).isSome = true) :
    (Part.optional placeInJournal).text person e = placeInVolume.text person e := by
  have hshows := shows_placeInVolume hvolume hpages
  have hjournal : placeInJournal.text person e = placeInVolume.text person e := by
    change firstText person e [.optional placeInVolume, placeByPages] = _
    rw [firstText_of_shows (p := .optional placeInVolume) hshows, text_optional_of_shows hshows]
  have hok : ∃ t, placeInVolume.text person e = .ok t ∧ t.plain ≠ [] :=
    plain_ne_nil_of_shows placeInVolume hshows
  obtain ⟨t, ht, -⟩ := hok
  rw [text_optional, hjournal, ht]
  rfl

theorem text_placeInJournal_of_no_volume (hvolume : e.text "volume".toList = none)
    (hpages : (e.text "pages".toList).isSome = true) :
    (Part.optional placeInJournal).text person e = placeByPages.text person e := by
  have hlacking : placeInVolume.lacking e = true := by
    simpa [placeInVolume, adjacent] using .inl hvolume
  have hshows := shows_placeByPages hpages
  have hjournal : placeInJournal.text person e = placeByPages.text person e := by
    change firstText person e [.optional placeInVolume, placeByPages] = _
    rw [firstText_of_lacking hlacking, firstText_of_shows hshows]
  have hok : ∃ t, placeByPages.text person e = .ok t ∧ t.plain ≠ [] :=
    plain_ne_nil_of_shows placeByPages hshows
  obtain ⟨t, ht, -⟩ := hok
  rw [text_optional, hjournal, ht]
  rfl

/-- Without pages there is no place in a journal. -/
theorem text_placeInJournal_of_no_pages (h : e.text "pages".toList = none) :
    (Part.optional placeInJournal).text person e = .ok .nil := by
  have hvolume : placeInVolume.lacking e = true := by
    simpa [placeInVolume, adjacent, pages] using .inr h
  have hpages : placeByPages.lacking e = true := by
    simpa [placeByPages, spaced, pages] using h
  have herr : ∃ err, placeByPages.text person e = .error err := text_isError placeByPages hpages
  obtain ⟨err, herr⟩ := herr
  have hjournal : placeInJournal.text person e = .error err := by
    change firstText person e [.optional placeInVolume, placeByPages] = _
    rw [firstText_of_lacking hvolume, firstText, herr]
  rw [text_optional, hjournal]
  rfl

theorem plain_placeInJournal_ne_nil (hpages : (e.text "pages".toList).isSome = true)
    (ht : (Part.optional placeInJournal).text person e = .ok t) : t.plain ≠ [] := by
  have hok : ∃ t, (Part.optional placeInJournal).text person e = .ok t ∧ t.plain ≠ [] := by
    cases hvolume : e.text "volume".toList with
    | some s =>
      rw [text_placeInJournal_of_volume (by simp only [hvolume, Option.isSome_some]) hpages]
      exact plain_ne_nil_of_shows placeInVolume
        (shows_placeInVolume (by simp only [hvolume, Option.isSome_some]) hpages)
    | none =>
      rw [text_placeInJournal_of_no_volume hvolume hpages]
      exact plain_ne_nil_of_shows placeByPages (shows_placeByPages hpages)
  obtain ⟨t', ht', hplain⟩ := hok
  rw [ht, Except.ok.injEq] at ht'
  exact ht' ▸ hplain

theorem startsWith_placeByPages (ht : placeByPages.text person e = .ok t) : StartsWith 'p' t := by
  obtain ⟨ts, hts, rfl⟩ := map_eq_ok_iff.1 ht
  obtain ⟨w, us, hw, -, rfl⟩ := texts_cons_eq_ok hts
  obtain rfl := Except.ok.inj hw
  exact (startsWith_ofChars 'p' "ages".toList).join _ us

/-- Behind a blank volume comes the number, or else the colon. -/
theorem plain_placeInVolume_of_blank (h : e.need "volume".toList = .ok [])
    (ht : placeInVolume.text person e = .ok t) : ∃ c r, t.plain = c :: r ∧ c ≠ 'p' := by
  obtain ⟨ts, hts, rfl⟩ := map_eq_ok_iff.1 ht
  obtain ⟨v, us, hv, hus, rfl⟩ := texts_cons_eq_ok hts
  obtain ⟨n, vs, hn, hvs, rfl⟩ := texts_cons_eq_ok hus
  obtain ⟨colon, ws, hcolon, hws, rfl⟩ := texts_cons_eq_ok hvs
  obtain rfl := Except.ok.inj hcolon
  have hv' : v = .nil := by
    obtain ⟨x, hx, rfl⟩ := map_eq_ok_iff.1 hv
    rw [h, Except.ok.injEq] at hx
    rw [← hx, ofLatex_nil]
  have hplain : ((uniform "").join (v :: n :: .ofChars ":".toList :: ws)).plain =
      n.plain ++ ':' :: ws.flatMap plain := by
    rw [plain_join_adjacent, hv']
    simp [plain]
  change ∃ c r, ((uniform "").join _).plain = c :: r ∧ c ≠ 'p'
  rw [hplain]
  have hnumber : n = .nil ∨ StartsWith '(' n := by
    rw [text_optional, Except.ok.injEq] at hn
    cases hnumber : (adjacent [.words "(", .field "number", .words ")"]).text person e with
    | error err => exact .inl (by rw [← hn, hnumber]; rfl)
    | ok m =>
      have hm : m = n := by rw [← hn, hnumber]; rfl
      subst hm
      obtain ⟨ms, hms, rfl⟩ := map_eq_ok_iff.1 hnumber
      obtain ⟨w, ms, hw, -, rfl⟩ := texts_cons_eq_ok hms
      obtain rfl := Except.ok.inj hw
      exact .inr ((startsWith_ofChars '(' []).join _ ms)
  rcases hnumber with rfl | hstart
  · exact ⟨':', _, rfl, by decide⟩
  · obtain ⟨r, hr⟩ := hstart.plain_eq
    exact ⟨'(', r ++ ':' :: ws.flatMap plain, by rw [hr]; rfl, by decide⟩

theorem tells_placeInJournal {f : String} (hb : Entry.Blanked (sameName · f.toList) e e')
    (hf : f ∈ e.journalWorded) : Tells person e e' (.optional placeInJournal) := by
  have hgone := hb.gone _ (sameName_self f.toList)
  have hneed := hb.need_blank _ (sameName_self f.toList)
  obtain ⟨hpages, rfl | ⟨hvolume, rfl | rfl⟩⟩ := Entry.journalWorded_cases hf
  · intro t u ht hu
    rw [text_placeInJournal_of_no_pages hgone, Except.ok.injEq] at hu
    exact .nothing (plain_placeInJournal_ne_nil hpages ht) hu.symm
  · intro t u ht hu
    rw [text_placeInJournal_of_volume hvolume hpages] at ht
    rw [← hb.kept "pages".toList (by decide)] at hpages
    rw [text_placeInJournal_of_no_volume hgone hpages] at hu
    obtain ⟨c, r, hr, hc⟩ := plain_placeInVolume_of_blank hneed ht
    obtain ⟨s, hs⟩ := (startsWith_placeByPages hu).plain_eq
    exact .parted (w := []) hc hr hs
  · have htells : Tells person e e' placeInVolume := by
      apply Tells.adjacent [.field "volume"] [.words ":", pages] hb
      · simp [sameName]
      · intro t u
        exact length_bracketed hb (sameName_self "number".toList) (by decide) (by decide)
      · simp [pages, sameName]
    intro t u ht hu
    rw [text_placeInJournal_of_volume hvolume hpages] at ht
    rw [← hb.kept "pages".toList (by decide)] at hpages
    rw [← hb.kept "volume".toList (by decide)] at hvolume
    rw [text_placeInJournal_of_volume hvolume hpages] at hu
    exact htells t u ht hu

/-! The place in a series. -/

/-- The place in a series by a field, behind a word for it. -/
def inSeries (word field between : String) : Part :=
  spaced [unbroken [.words word, .field field],
    .optional (spaced [.words between, .field "series"])]

/-- The series is the same if another field is blank. -/
theorem text_series_of_kept {f : String} (hb : Entry.Blanked (sameName · f.toList) e e')
    (hf : sameName "series".toList f.toList = false)
    (hu : (maybe "series").text person e' = .ok u) : (maybe "series").text person e = .ok u := by
  have hheedless : (maybe "series").heedless (sameName · f.toList) e = true := by
    simp only [maybe, heedless, hf]
    rfl
  obtain ⟨t, ht⟩ : ∃ t, (maybe "series").text person e = .ok t := optional_isOk (.field "series")
  rw [ht, eq_of_heedless hb hheedless ht hu]

section
variable {word field between : String}

theorem shows_inSeries (hword : word.toList ≠ []) (h : (e.text field.toList).isSome = true) :
    (inSeries word field between).shows e = true := by
  simp [inSeries, spaced, unbroken, h, hword]

theorem lacking_inSeries (h : e.text field.toList = none) :
    (inSeries word field between).lacking e = true := by
  simp [inSeries, spaced, unbroken, h]

theorem startsWith_inSeries {c : Char} {s : List Char} (hword : word.toList = c :: s)
    (ht : (inSeries word field between).text person e = .ok t) : StartsWith c t := by
  obtain ⟨ts, hts, rfl⟩ := map_eq_ok_iff.1 ht
  obtain ⟨x, us, hx, -, rfl⟩ := texts_cons_eq_ok hts
  obtain ⟨vs, hvs, rfl⟩ := map_eq_ok_iff.1 hx
  obtain ⟨w, ws, hw, -, rfl⟩ := texts_cons_eq_ok hvs
  obtain rfl := Except.ok.inj hw
  rw [hword]
  exact ((startsWith_ofChars c s).join _ ws).join _ us

/-- The place in a series is longer than the series by the word at least. -/
theorem length_inSeries (ht : (inSeries word field between).text person e = .ok t)
    (hu : (maybe "series").text person e = .ok u) :
    word.toList.length + u.plain.length ≤ t.plain.length := by
  obtain ⟨ts, hts, rfl⟩ := map_eq_ok_iff.1 ht
  obtain ⟨x, us, hx, hus, rfl⟩ := texts_cons_eq_ok hts
  obtain ⟨y, vs, hy, hvs, rfl⟩ := texts_cons_eq_ok hus
  obtain rfl := Except.ok.inj hvs
  have hsum := length_flatMap_plain_le { between := " " } [x, y]
  have hx' : word.toList.length ≤ x.plain.length := by
    obtain ⟨ws, hws, rfl⟩ := map_eq_ok_iff.1 hx
    obtain ⟨w, zs, hw, -, rfl⟩ := texts_cons_eq_ok hws
    obtain rfl := Except.ok.inj hw
    have hle := length_flatMap_plain_le tiedButLast (ofChars word.toList :: zs)
    simp only [List.flatMap_cons, List.length_append, plain_ofChars] at hle
    omega
  have hy' : u.plain.length ≤ y.plain.length := by
    rw [maybe, text_optional, Except.ok.injEq] at hu
    rw [text_optional, Except.ok.injEq] at hy
    cases hseries : e.need "series".toList with
    | error err =>
      have hnil : u = .nil := by rw [← hu, Part.text, hseries]; rfl
      simp [hnil, plain]
    | ok s =>
      have hu' : u = ofLatex s := by rw [← hu, Part.text, hseries]; rfl
      have hy' : y = (uniform " ").join [ofChars between.toList, ofLatex s] := by
        rw [← hy, spaced, Part.text, texts, Part.text]
        simp only [texts, Part.text, hseries, Except.map, Except.toOption, Option.getD_some]
        rfl
      have hle := length_flatMap_plain_le (uniform " ") [ofChars between.toList, ofLatex s]
      simp only [List.flatMap_cons, List.flatMap_nil, List.length_append, List.length_nil] at hle
      rw [hu', hy']
      omega
  simp only [List.flatMap_cons, List.flatMap_nil, List.length_append, List.length_nil] at hsum
  omega

theorem tells_inSeries (hb : Entry.Blanked (sameName · "series".toList) e e')
    (hfield : sameName field.toList "series".toList = false) (hbetween : between.toList ≠ []) :
    Tells person e e' (inSeries word field between) := by
  have htext := hb.isSome_text (sameName_self "series".toList)
  have hgone := hb.gone _ (sameName_self "series".toList)
  apply Tells.joined [unbroken [.words word, .field field]] [] hb (by decide)
  · simp only [unbroken, heedless, allHeedless, hfield]
    rfl
  · apply Tells.optional_of_lacking
    · simp only [spaced, shows, allSupplied, supplied, anyShows, htext]
      simp [hbetween]
    · simp only [spaced, lacking, anyLacking, hgone]
      rfl
  · rfl

end

section
variable {volume number : String}

theorem text_placeInSeries_of_volume (hvolume : volume.toList ≠ [])
    (h : (e.text "volume".toList).isSome = true) :
    (placeInSeries volume number).text person e =
      (inSeries volume "volume" "of").text person e := by
  have hshows : (inSeries volume "volume" "of").shows e = true :=
    shows_inSeries hvolume h
  change firstText person e (.optional (inSeries volume "volume" "of") :: _) = _
  rw [firstText_of_shows (p := .optional _) hshows, text_optional_of_shows hshows]

theorem text_placeInSeries_of_number (hnumber : number.toList ≠ [])
    (hnone : e.text "volume".toList = none) (h : (e.text "number".toList).isSome = true) :
    (placeInSeries volume number).text person e =
      (inSeries number "number" "in").text person e := by
  have hshows : (inSeries number "number" "in").shows e = true :=
    shows_inSeries hnumber h
  change firstText person e (.optional (inSeries volume "volume" "of") ::
    .optional (inSeries number "number" "in") :: _) = _
  rw [firstText_of_lacking (lacking_inSeries hnone), firstText_of_shows (p := .optional _) hshows,
    text_optional_of_shows hshows]

theorem text_placeInSeries_of_neither (hnone : e.text "volume".toList = none)
    (hnone' : e.text "number".toList = none) :
    (placeInSeries volume number).text person e = (maybe "series").text person e := by
  change firstText person e [.optional (inSeries volume "volume" "of"),
    .optional (inSeries number "number" "in"), maybe "series"] = _
  rw [firstText_of_lacking (lacking_inSeries hnone), firstText_of_lacking (lacking_inSeries hnone'),
    firstText, maybe, text_optional]
  cases ((Part.field "series").text person e).toOption.getD .nil <;> rfl

/-- A blank field leaves the word of the place in a series, which is else another word or none. -/
theorem placeInSeries_of_blank {c d : Char} {v n : List Char} (hvolume : volume.toList = c :: v)
    (hnumber : number.toList = d :: n) (hne : c ≠ d) {f : String}
    (hb : Entry.Blanked (sameName · f.toList) e e') (hf : f ∈ e.seriesWorded)
    (ht : (placeInSeries volume number).text person e = .ok t)
    (hu : (placeInSeries volume number).text person e' = .ok u) :
    (StartsWith c t ∨ StartsWith d t) ∧
      ((StartsWith c u ∨ StartsWith d u) ∧ t.Apart u ∨
        min volume.toList.length number.toList.length + u.plain.length ≤ t.plain.length) := by
  have hgone := hb.gone _ (sameName_self f.toList)
  have hvolume' : volume.toList ≠ [] := by simp [hvolume]
  have hnumber' : number.toList ≠ [] := by simp [hnumber]
  rcases Entry.seriesWorded_cases hf with ⟨hvol, rfl | rfl⟩ | ⟨hnone, hnum, rfl | rfl⟩
  · rw [text_placeInSeries_of_volume hvolume' hvol] at ht
    have hstart := startsWith_inSeries hvolume ht
    refine ⟨.inl hstart, ?_⟩
    cases hnum : e'.text "number".toList with
    | some s =>
      have hnum' : (e'.text "number".toList).isSome = true := by rw [hnum]; rfl
      rw [text_placeInSeries_of_number hnumber' hgone hnum'] at hu
      have hstart' := startsWith_inSeries hnumber hu
      obtain ⟨r, hr⟩ := hstart.plain_eq
      obtain ⟨s, hs⟩ := hstart'.plain_eq
      exact .inl ⟨.inr hstart', .parted (w := []) hne hr hs⟩
    | none =>
      rw [text_placeInSeries_of_neither hgone hnum] at hu
      have hlength := length_inSeries ht (text_series_of_kept hb (by decide) hu)
      exact .inr (by omega)
  · rw [text_placeInSeries_of_volume hvolume' hvol] at ht
    rw [← hb.kept "volume".toList (by decide)] at hvol
    rw [text_placeInSeries_of_volume hvolume' hvol] at hu
    have htells : Tells person e e' (inSeries volume "volume" "of") :=
      tells_inSeries hb (by decide) (by decide)
    exact ⟨.inl (startsWith_inSeries hvolume ht),
      .inl ⟨.inl (startsWith_inSeries hvolume hu), htells t u ht hu⟩⟩
  · rw [text_placeInSeries_of_number hnumber' hnone hnum] at ht
    rw [← hb.kept "volume".toList (by decide)] at hnone
    rw [text_placeInSeries_of_neither hnone hgone] at hu
    have hlength := length_inSeries ht (text_series_of_kept hb (by decide) hu)
    exact ⟨.inr (startsWith_inSeries hnumber ht), .inr (by omega)⟩
  · rw [text_placeInSeries_of_number hnumber' hnone hnum] at ht
    rw [← hb.kept "volume".toList (by decide)] at hnone
    rw [← hb.kept "number".toList (by decide)] at hnum
    rw [text_placeInSeries_of_number hnumber' hnone hnum] at hu
    have htells : Tells person e e' (inSeries number "number" "in") :=
      tells_inSeries hb (by decide) (by decide)
    exact ⟨.inr (startsWith_inSeries hnumber ht),
      .inl ⟨.inr (startsWith_inSeries hnumber hu), htells t u ht hu⟩⟩

end

theorem tells_placeInSeries {f : String} (hb : Entry.Blanked (sameName · f.toList) e e')
    (hf : f ∈ e.seriesWorded) : Tells person e e' (placeInSeries "volume" "number") := by
  intro t u ht hu
  obtain ⟨-, ⟨-, hapart⟩ | hlength⟩ :=
    placeInSeries_of_blank (c := 'v') (d := 'n') rfl rfl (by decide) hb hf ht hu
  · exact hapart
  · have hwords : min "volume".toList.length "number".toList.length = 6 := by decide
    exact .longer (by omega)

/-- A capital at the start of the sentence is nothing new for either word. -/
theorem changes_seriesSentence {f : String} (hb : Entry.Blanked (sameName · f.toList) e e')
    (hf : f ∈ e.seriesWorded) : Changes person e e' seriesSentence := by
  intro t u ht hu
  have hcapital : ∀ {t : Text}, StartsWith 'V' t ∨ StartsWith 'N' t →
      t.withPeriod.capitalizeFirst = t.withPeriod := by
    rintro t (h | h)
    · exact h.withPeriod.capitalizeFirst (Unicode.upperChar_of_capital (by decide) (by decide))
    · exact h.withPeriod.capitalizeFirst (Unicode.upperChar_of_capital (by decide) (by decide))
  have hplace : ∀ {e : Entry} {t : Text}, seriesSentence.text person e = .ok t →
      ∃ t', (placeInSeries "Volume" "Number").text person e = .ok t' ∧
        t = t'.withPeriod.capitalizeFirst := by
    intro e t ht
    obtain ⟨s, hs, rfl⟩ := map_eq_ok_iff.1 ht
    rw [text_sentence] at hs
    obtain ⟨t', ht', rfl⟩ := map_eq_ok_iff.1 hs
    exact ⟨t', ht', rfl⟩
  obtain ⟨t', ht', rfl⟩ := hplace ht
  obtain ⟨u', hu', rfl⟩ := hplace hu
  obtain ⟨hstart, ⟨hstart', hapart⟩ | hlength⟩ :=
    placeInSeries_of_blank (c := 'V') (d := 'N') rfl rfl (by decide) hb hf ht' hu'
  · rw [hcapital hstart, hcapital hstart']
    exact ⟨plain_withPeriod_ne_nil hapart.plain_ne_nil, hapart.plain_withPeriod_ne⟩
  · have hwords : min "Volume".toList.length "Number".toList.length = 6 := by decide
    have hwith := (length_withPeriod t').1
    have hwith' := (length_withPeriod u').2
    have hcapital' := length_capitalizeFirst_le u'.withPeriod
    rw [hcapital hstart]
    constructor
    · rw [← List.length_pos_iff]
      omega
    · intro heq
      rw [heq] at hwith
      omega

end Template
end Citation
