import Citation.Proofs.Blocks
import Citation.Proofs.NormalTexts

/-! Citations as sentences. Every block but the date ends with a mark that ends a sentence, and in a
citation the blocks stand in a row with one space between them. -/
namespace Citation

/-- Characters in a row, with a space between two unless the first of these ends with one. -/
def inRow : List (List Char) → List Char
  | [] => []
  | [s] => s
  | s :: t :: ss => s ++ (if s.getLast? = some ' ' then [] else [' ']) ++ inRow (t :: ss)

namespace Text

variable {t u : Text}

/-- The last character that a text shows is a mark that ends a sentence. -/
def Stops (t : Text) : Prop := ∃ c ∈ ['.', '?', '!'], t.plain.getLast? = some c

theorem Normal.endsSentence_iff (h : t.Normal) : t.endsSentence = true ↔ t.Stops := by
  rw [h.endsSentence_eq, Option.any_eq_true, Stops]
  simp only [List.contains_iff_mem, and_comm]

theorem Stops.plain_ne_nil (h : t.Stops) : t.plain ≠ [] := by
  obtain ⟨c, -, hc⟩ := h
  intro hnil
  simp [hnil] at hc

theorem Stops.append (t : Text) (h : u.Stops) : (t ++ u).Stops := by
  obtain ⟨c, hmem, hc⟩ := h
  exact ⟨c, hmem, by rw [plain_append, List.getLast?_append, hc, Option.some_or]⟩

theorem Normal.stops_withPeriod (h : t.Normal) (hne : t ≠ .nil) : t.withPeriod.Stops := by
  unfold Text.withPeriod
  split
  · next hend => exact h.endsSentence_iff.1 (hend.resolve_left hne)
  · exact Stops.append t ⟨'.', by simp, by simp⟩

/-- A capital at the start leaves the mark at the end, also where it is the only character. -/
theorem Stops.capitalizeFirst (h : t.Stops) : t.capitalizeFirst.Stops := by
  obtain ⟨d, hmem, hd⟩ := h
  refine ⟨d, hmem, ?_⟩
  rcases plain_capitalizeFirst t with hplain | ⟨c, s, hs, hplain⟩
  · rwa [hplain]
  · rw [hs] at hd
    rw [hplain, List.getLast?_append]
    cases s with
    | nil =>
      obtain rfl : c = d := by simpa using hd
      have hsame : Unicode.upperChar c = [c] := by
        simp only [List.mem_cons, List.not_mem_nil, or_false] at hmem
        rcases hmem with rfl | rfl | rfl <;>
          exact Unicode.upperChar_of_capital (by decide) (by decide)
      rw [hsame]
      rfl
    | cons c' s =>
      rw [List.getLast?_cons_cons] at hd
      rw [hd, Option.some_or]

/-! The end of a text without its spaces. -/

theorem rdropWhile_append {s' s : List Char} (h : s.rdropWhile (· == ' ') ≠ []) :
    (s' ++ s).rdropWhile (· == ' ') = s' ++ s.rdropWhile (· == ' ') := by
  have hreverse : (s.reverse.dropWhile (· == ' ')).isEmpty = false := by
    simpa [List.rdropWhile] using h
  simp only [List.rdropWhile, List.reverse_append, List.dropWhile_append, hreverse,
    Bool.false_eq_true, if_false, List.reverse_reverse]

theorem trimEnd_ofChars (s : List Char) :
    (ofChars s).trimEnd = ofChars (s.rdropWhile (· == ' ')) := by
  by_cases hs : s = []
  · subst hs
    rfl
  · have hrun : ofChars s = .run s .nil := if_neg hs
    rw [hrun]
    rfl

/-- Behind any text, the spaces at the end of plain characters go. -/
theorem Normal.trimEnd_append_ofChars (ht : t.Normal) {s : List Char}
    (hs : s.rdropWhile (· == ' ') ≠ []) :
    (t ++ ofChars s).trimEnd = t ++ ofChars (s.rdropWhile (· == ' ')) := by
  induction t with
  | nil => exact trimEnd_ofChars s
  | run s' rest ih =>
    cases rest with
    | nil =>
      rw [ht.run_eq, append_assoc, append_assoc, nil_append, nil_append, ofChars_append_ofChars,
        ofChars_append_ofChars, trimEnd_ofChars, rdropWhile_append hs]
    | run s'' rest => exact absurd rfl (ht.2.1 s'' rest)
    | wrap w inner rest =>
      -- The wrapped text stays between the two runs, so that they do not become one.
      have hinner : inner ≠ .nil := ht.2.2.1
      have hrest := ih ht.2.2
      simp only [wrap_append, consWrap, if_neg hinner] at hrest
      simp only [run_append, wrap_append, consWrap, if_neg hinner, consRun, if_neg ht.1]
      rw [Text.trimEnd, hrest]
      simp
  | wrap w inner rest _ ih =>
    simp only [wrap_append, consWrap, if_neg ht.1, Text.trimEnd, ih ht.2.2]

theorem plain_trimEnd_of_last (h : t.plain.getLast? ≠ some ' ') : t.trimEnd.plain = t.plain := by
  have hbehind : ∀ {s s' : List Char}, (s ++ s').getLast? ≠ some ' ' → s'.getLast? ≠ some ' ' :=
    fun {s s'} => mt fun hs' => by rw [List.getLast?_append, hs', Option.some_or]
  fun_induction trimEnd t with
  | case1 => rfl
  | case2 s =>
    have hsame : s.rdropWhile (· == ' ') = s := by
      rw [List.rdropWhile_eq_self_iff]
      intro hs
      simpa [plain, List.getLast?_eq_some_getLast hs] using h
    rw [plain_ofChars, plain, plain, List.append_nil]
    exact hsame
  | case3 s rest _ ih => rw [plain, plain, ih (hbehind h)]
  | case4 w inner rest ih => rw [plain, plain, ih (hbehind h)]

/-- A text that ends a sentence, if need be before the spaces at its end. -/
def Closes (t : Text) : Prop := t.Stops ∨ ∃ u, u.Normal ∧ t = u ++ ofChars ". ".toList

theorem Closes.append (ht : t.Normal) (hu : u.Closes) : (t ++ u).Closes := by
  rcases hu with hu | ⟨v, hv, rfl⟩
  · exact .inl (hu.append t)
  · exact .inr ⟨t ++ v, ht.append hv, (append_assoc t v _).symm⟩

theorem Closes.trimEnd (h : t.Closes) :
    t.trimEnd.plain = t.plain.rdropWhile (· == ' ') ∧ t.trimEnd.Stops := by
  rcases h with hstops | ⟨u, hu, rfl⟩
  · obtain ⟨c, hmem, hc⟩ := hstops
    have hspace : c ≠ ' ' := by
      rintro rfl
      simp at hmem
    have hlast : t.plain.getLast? ≠ some ' ' := by simpa [hc] using hspace
    have hsame := plain_trimEnd_of_last hlast
    refine ⟨?_, c, hmem, by rw [hsame, hc]⟩
    rw [hsame, eq_comm, List.rdropWhile_eq_self_iff]
    intro hne
    simpa [List.getLast?_eq_some_getLast hne] using hlast
  · have hne : ". ".toList.rdropWhile (· == ' ') ≠ [] := by decide
    have hdot : ". ".toList.rdropWhile (· == ' ') = ['.'] := by decide
    rw [hu.trimEnd_append_ofChars hne, plain_append, plain_append, plain_ofChars, plain_ofChars,
      rdropWhile_append hne]
    refine ⟨rfl, Stops.append u ⟨'.', by simp, ?_⟩⟩
    rw [plain_ofChars, hdot]
    rfl

end Text

/-! The blocks. -/

namespace Part
open Text

mutual

/-- A part that ends a sentence if it has some text. -/
@[simp] def closes : Part → Bool
  | .modified .period _ => true
  | .modified .capital p => p.closes
  | .optional p => p.closes
  | .firstPresent ps => allClose ps
  | _ => false

@[simp] def allClose : List Part → Bool
  | [] => true
  | p :: ps => p.closes && allClose ps

end

variable {person : Person → Text} {e : Entry}

mutual

theorem stops_of_closes (hperson : ∀ p, (person p).Normal) : ∀ (p : Part) (t : Text),
    p.closes = true → p.text person e = .ok t → t ≠ .nil → t.Stops
  | .modified .period p, _, _, h, hne => by
    obtain ⟨u, hu, rfl⟩ := map_eq_ok_iff.1 h
    exact (normal_text hperson p u hu).stops_withPeriod (mt (withPeriod_eq_nil_iff u).2 hne)
  | .modified .capital p, _, hp, h, hne => by
    obtain ⟨u, hu, rfl⟩ := map_eq_ok_iff.1 h
    have hstops := stops_of_closes hperson p u hp hu (mt (capitalizeFirst_eq_nil_iff u).2 hne)
    exact hstops.capitalizeFirst
  | .optional p, t, hp, h, hne => by
    rw [text_optional, Except.ok.injEq] at h
    cases hu : p.text person e with
    | ok u =>
      obtain rfl : u = t := by rw [← h, hu]; rfl
      exact stops_of_closes hperson p u hp hu hne
    | error err =>
      rw [hu] at h
      exact absurd h.symm hne
  | .firstPresent ps, t, hps, h, hne => stops_of_allClose hperson ps t hps h hne

theorem stops_of_allClose (hperson : ∀ p, (person p).Normal) : ∀ (ps : List Part) (t : Text),
    allClose ps = true → firstText person e ps = .ok t → t ≠ .nil → t.Stops
  | [], _, _, h, hne => absurd (Except.ok.inj h).symm hne
  | p :: ps, t, hps, h, hne => by
    obtain ⟨hp, hps⟩ := Bool.and_eq_true_iff.1 hps
    cases hu : p.text person e with
    | error err => simp [firstText, hu] at h
    | ok u =>
      simp only [firstText, hu] at h
      split at h
      · exact stops_of_allClose hperson ps t hps h hne
      · obtain rfl := Except.ok.inj h
        exact stops_of_closes hperson p u hp hu hne

end

end Part

namespace Template
open Citation.Part Text

variable {person : Person → Text} {e : Entry}

/-- Of the parts of a template, the date and the one on a collection need not end a sentence. -/
theorem closes_of_ofType {t : EntryType} {ps : List Part} (hps : ofType t = some ps) :
    ∀ p ∈ ps, p.closes = true ∨ p = date ∨
      p = spaced [.words "In:", collection] ∧ (t = .inCollection ∨ t = .inProceedings) := by
  cases t <;> cases hps <;>
    simp [article, book, inCollection, manual, misc, phdThesis, techReport, unpublished, authors,
      authorsOrEditors, title, workTitle, seriesSentence, collection, note, references, sentence]

theorem stops_collection (hperson : ∀ p, (person p).Normal)
    (hbooktitle : ∀ s, e.need "booktitle".toList = .ok s → ofLatex s ≠ .nil) {t : Text}
    (ht : collection.text person e = .ok t) : t.Stops := by
  have hsentence : collection.closes = true := rfl
  apply stops_of_closes hperson collection t hsentence ht
  obtain ⟨row, hrow, rfl⟩ := map_eq_ok_iff.1 ht
  obtain ⟨ts, hts, rfl⟩ := map_eq_ok_iff.1 hrow
  obtain ⟨b, hb, hbook⟩ := exists_text_of_texts hts (p := emphasized "booktitle") (by simp)
  obtain ⟨u, hu, rfl⟩ := map_eq_ok_iff.1 hbook
  obtain ⟨s, hs, rfl⟩ := map_eq_ok_iff.1 hu
  have hplain : (Modifier.emph.apply (ofLatex s)).plain ≠ [] := by
    rw [Modifier.apply, plain_within]
    exact mt (normal_ofLatex s).plain_eq_nil_iff.1 (hbooktitle s hs)
  have hrow := Separators.plain_join_ne_nil (s := { between := ", " }) hb hplain
  exact ne_nil_of_plain_ne_nil (plain_withPeriod_ne_nil hrow)

/-- With a text in front of it, a sentence still ends as it does. -/
theorem stops_labelled {word : String} {p : Part} (hword : word.toList ≠ [])
    (hp : ∀ u, p.text person e = .ok u → u.Stops) {t : Text}
    (ht : (spaced [.words word, p]).text person e = .ok t) : t.Stops := by
  obtain ⟨u, hu, rfl⟩ := exists_text_of_labelled ht
  have hstops := hp u hu
  have hpresent : present [u] ≠ [] := by
    simp [Separators.present_cons (ne_nil_of_plain_ne_nil hstops.plain_ne_nil)]
  have hfirst : ofChars word.toList ≠ .nil := ne_nil_of_plain_ne_nil (by simpa using hword)
  rw [Separators.uniform_join_cons hfirst hpresent, Separators.join_singleton]
  exact hstops.append _

theorem exists_text_date (hperson : ∀ p, (person p).Normal) {t : Text}
    (ht : date.text person e = .ok t) : ∃ u, u.Normal ∧ t = u ++ ofChars ". ".toList := by
  obtain ⟨ts, hts, rfl⟩ := map_eq_ok_iff.1 ht
  obtain ⟨year, us, hyear, hus, rfl⟩ := texts_cons_eq_ok hts
  obtain ⟨stop, vs, hstop, hvs, rfl⟩ := texts_cons_eq_ok hus
  obtain rfl := Except.ok.inj hstop
  obtain rfl := Except.ok.inj hvs
  have hnormal : year.Normal := normal_text hperson _ _ hyear
  have hyearne : year ≠ .nil := by
    obtain ⟨ws, hws, rfl⟩ := map_eq_ok_iff.1 hyear
    obtain ⟨bracket, _, hbracket, -, rfl⟩ := texts_cons_eq_ok hws
    obtain rfl := Except.ok.inj hbracket
    have hshown : (ofChars "(".toList).plain ≠ [] := by simp
    exact ne_nil_of_plain_ne_nil (Separators.plain_join_ne_nil (by simp) hshown)
  refine ⟨year ++ ofChars "".toList, hnormal.append (normal_ofChars _), ?_⟩
  exact Separators.uniform_join_cons hyearne (by decide)

end Template

/-! The whole citation. -/

namespace CitedEntry
open Text

variable {t u : Text}

theorem plain_addBlock (ht : t.Normal) (hne : t ≠ .nil) : (addBlock t u).plain =
    t.plain ++ (if t.plain.getLast? = some ' ' then [] else [' ']) ++ u.plain := by
  obtain ⟨c, hc⟩ : ∃ c, t.plain.getLast? = some c := by
    rw [← Option.ne_none_iff_exists', ← ht.last_eq]
    exact mt ht.last_eq_none_iff.1 hne
  rw [addBlock, ht.last_eq, hc]
  by_cases hspace : c = ' ' <;> simp [hspace]

theorem closes_addBlock (ht : t.Normal) (hu : u.Closes) : (addBlock t u).Closes := by
  unfold addBlock
  split
  · exact hu.append (ht.append (normal_ofChars _))
  · exact hu.append ht

theorem inRow_cons {s : List Char} {ss : List (List Char)} (hss : ss ≠ []) : inRow (s :: ss) =
    s ++ (if s.getLast? = some ' ' then [] else [' ']) ++ inRow ss := by
  cases ss with
  | nil => exact absurd rfl hss
  | cons t ss => rfl

/-- Whatever stands in front of the first characters of a row stands in front of the row. -/
theorem inRow_append_cons (s : List Char) {s' : List Char} (hs' : s' ≠ [])
    (ss : List (List Char)) : inRow ((s ++ s') :: ss) = s ++ inRow (s' :: ss) := by
  cases ss with
  | nil => rfl
  | cons t ss =>
    have hlast : (s ++ s').getLast? = s'.getLast? := by
      rw [List.getLast?_append, Option.or_of_isSome (List.getLast?_isSome.2 hs')]
    rw [inRow, inRow, hlast]
    simp only [List.append_assoc]

theorem plain_foldl_addBlock (ht : t.Normal) (hne : t ≠ .nil) {blocks : List Text}
    (hblocks : ∀ u ∈ blocks, u.Normal ∧ u ≠ .nil) :
    (blocks.foldl addBlock t).plain = inRow (t.plain :: blocks.map plain) := by
  induction blocks generalizing t with
  | nil => rfl
  | cons u us ih =>
    obtain ⟨⟨hu, hune⟩, hus⟩ := List.forall_mem_cons.1 hblocks
    have huplain : u.plain ≠ [] := mt hu.plain_eq_nil_iff.1 hune
    have hnext : addBlock t u ≠ .nil :=
      ne_nil_of_plain_ne_nil (by simp [plain_addBlock ht hne, huplain])
    rw [List.foldl_cons, ih (normal_addBlock ht hu) hnext hus, plain_addBlock ht hne,
      inRow_append_cons _ huplain, List.map_cons, inRow_cons (List.cons_ne_nil _ _)]

/-- The blocks of a citation stand in a row. -/
theorem plain_foldl_blocks {blocks : List Text} (hblocks : ∀ u ∈ blocks, u.Normal ∧ u ≠ .nil) :
    (blocks.foldl addBlock .nil).plain = inRow (blocks.map plain) := by
  cases blocks with
  | nil => rfl
  | cons t us =>
    obtain ⟨⟨ht, hne⟩, hus⟩ := List.forall_mem_cons.1 hblocks
    exact plain_foldl_addBlock ht hne hus

end CitedEntry

namespace Style
open Text Template

variable {style : Style} {e : Entry} {c : CitedEntry}

theorem stops_or_date_of_mem_blocks (hc : style.cite e = .ok c)
    (hbooktitle : e.type = .inCollection ∨ e.type = .inProceedings →
      ∀ s, e.need "booktitle".toList = .ok s → ofLatex s ≠ .nil)
    {block : Text} (hblock : block ∈ c.blocks) :
    date.text style.personText e = .ok block ∨ block.Stops := by
  obtain ⟨ps, -, hps, -, -⟩ := exists_texts_of_cite hc
  obtain ⟨hne, p, hp, htext⟩ := (mem_blocks_iff hc hps).1 hblock
  rcases closes_of_ofType hps p hp with hcloses | rfl | ⟨rfl, htype⟩
  · exact .inr (Part.stops_of_closes style.normal_personText p block hcloses htext hne)
  · exact .inl htext
  · exact .inr (stops_labelled (by decide)
      (fun u => stops_collection style.normal_personText (hbooktitle htype)) htext)

theorem blocks_ne_nil (hc : style.cite e = .ok c) : c.blocks ≠ [] := by
  obtain ⟨ps, ts, hps, hts, hblocks⟩ := exists_texts_of_cite hc
  have hmem := (mem_of_ofType hps).1
  obtain ⟨t, ht, hdate⟩ := Part.exists_text_of_texts hts hmem
  obtain ⟨u, -, rfl⟩ := exists_text_date style.normal_personText hdate
  have hblock : u ++ ofChars ". ".toList ∈ c.blocks :=
    (mem_blocks_iff hc hps).2 ⟨ne_nil_of_plain_ne_nil (by simp), date, hmem, hdate⟩
  exact List.ne_nil_of_mem hblock

/-- The last block ends the citation, and the citation ends as it does. -/
theorem closes_foldl_blocks (hc : style.cite e = .ok c)
    (hbooktitle : e.type = .inCollection ∨ e.type = .inProceedings →
      ∀ s, e.need "booktitle".toList = .ok s → ofLatex s ≠ .nil) :
    (c.blocks.foldl CitedEntry.addBlock .nil).Closes := by
  obtain ⟨before, last, hblocks⟩ :=
    (List.eq_nil_or_concat c.blocks).resolve_left (blocks_ne_nil hc)
  have hlast : last.Closes := by
    have hmem : last ∈ c.blocks := by simp [hblocks]
    rcases stops_or_date_of_mem_blocks hc hbooktitle hmem
      with hdate | hstops
    · exact .inr (exists_text_date style.normal_personText hdate)
    · exact .inl hstops
  have hbefore : ∀ block ∈ before, block.Normal :=
    fun block hblock => normal_blocks hc block (by simp [hblocks, hblock])
  rw [hblocks, List.concat_eq_append, List.foldl_append]
  exact CitedEntry.closes_addBlock
    (normal_foldl (fun _ _ => CitedEntry.normal_addBlock) normal_nil hbefore) hlast

/-- A citation reads as sentences: each block but the date ends with a mark that ends a sentence,
and so does the citation, which shows the blocks in a row without spaces at the end. -/
theorem cite_reads_as_sentences (style : Style) (e : Entry) (c : CitedEntry)
    (hc : style.cite e = .ok c)
    (hbooktitle : e.type = .inCollection ∨ e.type = .inProceedings →
      ∀ s, e.need "booktitle".toList = .ok s → ofLatex s ≠ .nil) :
    (∀ block ∈ c.blocks, date.text style.personText e = .ok block ∨ block.Stops) ∧
      c.text ≠ .nil ∧ c.text.plain = (inRow (c.blocks.map plain)).rdropWhile (· == ' ') ∧
      c.text.Stops := by
  have hblocks : ∀ block ∈ c.blocks, block.Normal ∧ block ≠ .nil := by
    obtain ⟨ps, -, hps, -, -⟩ := exists_texts_of_cite hc
    exact fun block hblock =>
      ⟨normal_blocks hc block hblock, ((mem_blocks_iff hc hps).1 hblock).1⟩
  obtain ⟨hplain, hstops⟩ := (closes_foldl_blocks hc hbooktitle).trimEnd
  rw [CitedEntry.plain_foldl_blocks hblocks] at hplain
  exact ⟨fun block => stops_or_date_of_mem_blocks hc hbooktitle,
    ne_nil_of_plain_ne_nil hstops.plain_ne_nil, hplain, hstops⟩

/-- A work in a collection, with a question for its title. -/
def question : Entry where
  type := .inCollection
  key := "k".toList
  fields := [⟨"author".toList, .literal "A. B.".toList⟩, ⟨"title".toList, .literal "Why?".toList⟩,
    ⟨"booktitle".toList, .literal "S!".toList⟩, ⟨"year".toList, .number 2000⟩]

def questionBlocks : List Text :=
  [.run "B., A.".toList .nil, .run "(2000). ".toList .nil,
    .wrap .emph (.run "Why?".toList .nil) .nil,
    .run "In: ".toList (.wrap .emph (.run "S!".toList .nil) .nil)]

theorem cite_reads_as_sentences_question :
    ∃ c, ({} : Style).cite question = .ok c ∧
      (∀ block ∈ c.blocks, date.text ({} : Style).personText question = .ok block ∨ block.Stops) ∧
      c.text.plain = "B., A. (2000). Why? In: S!".toList ∧ c.text.Stops := by
  have hcite : ({} : Style).cite question =
      .ok ⟨"k".toList, "incollection".toList, [], questionBlocks⟩ :=
    toOption_eq_some_iff.1 (by decide +kernel)
  have hbooktitle : ∀ s, question.need "booktitle".toList = .ok s → ofLatex s ≠ .nil := by
    intro s hs
    obtain rfl : "S!".toList = s := Except.ok.inj hs
    decide +kernel
  obtain ⟨hblocks, -, hplain, hstops⟩ :=
    cite_reads_as_sentences {} question _ hcite fun _ => hbooktitle
  refine ⟨_, hcite, hblocks, ?_, hstops⟩
  rw [hplain]
  decide +kernel

end Style
end Citation
