import Citation.Proofs.Blocks
import Citation.Proofs.NormalTexts

/-! Texts in a row. Only texts with something in them count, so that no separator stands beside
nothing: the names of a citation read `A`, `A and B` or `A, B, and C`, and two ways of joining with
one separator give the same segments. -/
namespace Citation

/-- Names in a row: `A`, `A and B`, `A, B, and C`. -/
def enumerated : List (List Char) → List Char
  | [] => []
  | [s] => s
  | [s, t] => s ++ " and ".toList ++ t
  | s :: t :: u :: ss =>
      ", ".toList.intercalate (s :: t :: u :: ss).dropLast ++ ", and ".toList
        ++ (u :: ss).getLast (by simp)

namespace Text

variable {between last sep : List Char} {t u : Text} {ts : List Text}

theorem plain_chain_append (h : ts ≠ []) (t : Text) : (chain between last (ts ++ [t])).plain =
    between.intercalate (ts.map plain) ++ last ++ t.plain := by
  induction ts with
  | nil => exact absurd rfl h
  | cons u us ih =>
    cases us with
    | nil => simp [chain]
    | cons v vs =>
      -- The last text stands behind two others, so the chain starts with the separator `between`.
      have hchain : chain between last (u :: v :: vs ++ [t]) =
          u ++ ofChars between ++ chain between last (v :: vs ++ [t]) := by
        cases vs <;> rfl
      rw [hchain, plain_append, plain_append, plain_ofChars, ih (List.cons_ne_nil v vs)]
      simp only [List.map_cons, List.intercalate_cons_cons, List.append_assoc]

theorem chain_cons_cons (sep : List Char) (t u : Text) (us : List Text) :
    chain sep sep (t :: u :: us) = t ++ ofChars sep ++ chain sep sep (u :: us) := by
  cases us <;> rfl

theorem chain_append_cons (sep : List Char) (t u : Text) (us : List Text) :
    chain sep sep ((t ++ u) :: us) = t ++ chain sep sep (u :: us) := by
  cases us with
  | nil => rfl
  | cons v vs => simp only [chain_cons_cons, append_assoc]

/-- Texts that are added to a text one by one, each behind a separator. -/
theorem foldl_join_eq_chain (ht : t.plain ≠ []) (ts : List Text) :
    ts.foldl (fun t u => if t.isEmpty then u else t ++ ofChars sep ++ u) t =
      chain sep sep (t :: ts) := by
  induction ts generalizing t with
  | nil => rfl
  | cons u us ih =>
    have hnext : (t ++ ofChars sep ++ u).plain ≠ [] := by simp [ht]
    simp only [List.foldl_cons, isEmpty_of_plain_ne_nil ht, Bool.false_eq_true, ↓reduceIte]
    rw [ih hnext, chain_append_cons, chain_cons_cons]

/-- Normal texts are joined with the same segments, whether the separators are set before the
texts that follow or between the texts that are there. -/
theorem join_eq_uniform_join {sep : String} (hts : ∀ t ∈ ts, t.Normal) :
    join sep.toList ts = (Separators.uniform sep).join ts := by
  rw [Separators.uniform_join, join]
  cases hpresent : present ts with
  | nil => rfl
  | cons t us =>
    have hmem : t ∈ present ts := by simp [hpresent]
    have hnormal : t.Normal := hts t (mem_of_mem_present hmem)
    have hplain : t.plain ≠ [] :=
      mt hnormal.plain_eq_nil_iff.1 (Separators.ne_nil_of_mem_present hmem)
    exact foldl_join_eq_chain hplain us

/-- The last of three or more texts stands behind a separator of its own. -/
theorem plain_chain_of_three (t u v : Text) (ts : List Text) :
    (chain ", ".toList ", and ".toList (t :: u :: v :: ts)).plain =
      enumerated ((t :: u :: v :: ts).map plain) := by
  have hparted : (t :: u :: v :: ts).dropLast ++ [(v :: ts).getLast (List.cons_ne_nil v ts)] =
      t :: u :: v :: ts := by
    simp [List.dropLast_append_getLast]
  have hfront : (t :: u :: v :: ts).dropLast ≠ [] := by simp
  have hlast : ((v :: ts).getLast (List.cons_ne_nil v ts)).plain =
      (v.plain :: ts.map plain).getLast (List.cons_ne_nil _ _) := (List.getLast_map (by simp)).symm
  rw [← hparted, plain_chain_append hfront, hparted, List.map_dropLast, hlast]
  rfl

theorem plain_nameList_join (ts : List Text) :
    (nameList.join ts).plain = enumerated ((present ts).map plain) := by
  rw [Separators.join]
  cases present ts with
  | nil => rfl
  | cons t us =>
    cases us with
    | nil => rfl
    | cons u vs =>
      cases vs with
      | nil => simp [nameList, Separators.beforeLast, chain, enumerated]
      | cons v vs => exact plain_chain_of_three t u v vs

/-- The first text stands at the front of the row. -/
theorem plain_prefix_uniform_join (sep : String) (t : Text) (ts : List Text) :
    t.plain <+: ((Separators.uniform sep).join (t :: ts)).plain := by
  by_cases ht : t = .nil
  · subst ht
    exact List.nil_prefix
  · by_cases hts : present ts = []
    · rw [Separators.uniform_join_cons_alone hts]
    · rw [Separators.uniform_join_cons ht hts, plain_append, plain_append, List.append_assoc]
      exact List.prefix_append _ _

theorem plain_prefix_withPeriod (t : Text) : t.plain <+: t.withPeriod.plain := by
  rcases plain_withPeriod t with h | h
  · rw [h]
  · rw [h]
    exact List.prefix_append _ _

end Text

/-! The names of authors and editors in a citation. -/

/-- The names of persons in a row, each as the style lays it out. -/
def Style.names (style : Style) (ps : List Person) : Text := nameList.join (ps.map style.personText)

/-- What the persons of a list are called behind their names. -/
def editorWord (ps : List Person) : List Char :=
  (if 1 < ps.length then "editors" else "editor").toList

namespace Style
open Citation.Part Template Separators Text

variable {style : Style} {e : Entry} {ps : List Person}

theorem text_editors (h : e.persons "editor".toList = some ps) :
    editors.text style.personText e =
      .ok ((uniform ", ").join [style.names ps, .ofChars (editorWord ps)]) := by
  have hneed : e.needPersons "editor".toList = .ok ps := by rw [Entry.needPersons, h]
  simp only [editors, commas, Part.text, texts, hneed]
  rfl

theorem plain_editors (hnames : style.names ps ≠ .nil) :
    ((uniform ", ").join [style.names ps, .ofChars (editorWord ps)]).plain =
      (style.names ps).plain ++ ", ".toList ++ editorWord ps := by
  have hword : Text.ofChars (editorWord ps) ≠ .nil := by
    unfold editorWord
    split <;> decide
  rw [plain_uniform_join_pair hnames, if_neg hword, plain_ofChars, List.append_assoc]

theorem head?_blocks {c : CitedEntry} (hc : style.cite e = .ok c) {p : Part} {qs : List Part}
    (hps : ofType e.type = some (p :: qs)) {t : Text} (ht : p.text style.personText e = .ok t)
    (hne : t ≠ .nil) : c.blocks.head? = some t := by
  obtain ⟨ps', ts, hps', hts, hblocks⟩ := exists_texts_of_cite hc
  obtain rfl : ps' = p :: qs := Option.some.inj (hps'.symm.trans hps)
  obtain ⟨u, us, hu, -, rfl⟩ := texts_cons_eq_ok hts
  obtain rfl : u = t := Except.ok.inj (hu.symm.trans ht)
  rw [hblocks, present_cons hne]
  rfl

/-- Each template starts with the names of the authors. -/
theorem exists_byline {t : EntryType} {ps : List Part} (h : ofType t = some ps) :
    ∃ p qs, ps = p :: qs ∧ p ∈ [authors, .optional authors, authorsOrEditors] := by
  cases t <;> cases h <;> exact ⟨_, _, rfl, by simp⟩

theorem text_byline (h : e.persons "author".toList = some ps) (hnames : style.names ps ≠ .nil)
    {p : Part} (hp : p ∈ [authors, .optional authors, authorsOrEditors]) :
    p.text style.personText e = .ok (style.names ps).withPeriod := by
  have hauthors : authors.text style.personText e = .ok (style.names ps).withPeriod :=
    text_authors_of_persons h
  simp only [List.mem_cons, List.not_mem_nil, or_false] at hp
  rcases hp with rfl | rfl | rfl
  · exact hauthors
  · rw [text_optional, hauthors]
    rfl
  · exact text_authorsOrEditors_of_persons h hnames

/-- The authors stand first in a citation. -/
theorem head?_blocks_of_authors {c : CitedEntry} (hc : style.cite e = .ok c)
    (h : e.persons "author".toList = some ps) (hnames : style.names ps ≠ .nil) :
    c.blocks.head? = some (style.names ps).withPeriod := by
  obtain ⟨template, -, hps, -, -⟩ := exists_texts_of_cite hc
  obtain ⟨p, qs, rfl, hp⟩ := exists_byline hps
  exact head?_blocks hc hps (text_byline h hnames hp) (mt (withPeriod_eq_nil_iff _).1 hnames)

theorem normal_names (style : Style) (ps : List Person) : (style.names ps).Normal :=
  Separators.normal_join (by simpa using fun p _ => style.normal_personText p)

/-- The word for the editors ends no sentence, so that a period follows it. -/
theorem plain_editors_withPeriod (hnames : style.names ps ≠ .nil) :
    ((uniform ", ").join [style.names ps, .ofChars (editorWord ps)]).withPeriod.plain =
      (style.names ps).plain ++ ", ".toList ++ editorWord ps ++ ['.'] := by
  have hnormal : ((uniform ", ").join [style.names ps, .ofChars (editorWord ps)]).Normal :=
    Separators.normal_join (by simp [normal_names, normal_ofChars])
  have hne : (uniform ", ").join [style.names ps, .ofChars (editorWord ps)] ≠ .nil :=
    Text.ne_nil_of_plain_ne_nil (by simp [plain_editors hnames])
  have hends : ((uniform ", ").join [style.names ps, .ofChars (editorWord ps)]).endsSentence =
      false := by
    rw [hnormal.endsSentence_eq, plain_editors hnames, editorWord]
    split <;> simp [List.getLast?_append]
  rw [withPeriod, if_neg (by simp [hne, hends]), plain_append, plain_editors hnames, plain_ofChars]

/-- The editors of a book stand first if it has no authors to name. -/
theorem head?_blocks_of_editors {c : CitedEntry} (hc : style.cite e = .ok c)
    (htype : e.type = .book)
    (hauthors : ∀ qs, e.persons "author".toList = some qs → style.names qs = .nil)
    (h : e.persons "editor".toList = some ps) (hnames : style.names ps ≠ .nil) :
    c.blocks.head?.map plain =
      some ((style.names ps).plain ++ ", ".toList ++ editorWord ps ++ ['.']) := by
  have hps : ofType e.type = some book := by rw [htype]; rfl
  have htext : authorsOrEditors.text style.personText e =
      .ok ((uniform ", ").join [style.names ps, .ofChars (editorWord ps)]).withPeriod := by
    rw [text_authorsOrEditors_of_nil hauthors, text_editors h]
    rfl
  have hplain := plain_editors_withPeriod hnames
  have hne : ((uniform ", ").join [style.names ps, .ofChars (editorWord ps)]).withPeriod ≠ .nil :=
    Text.ne_nil_of_plain_ne_nil (by simp [hplain])
  rw [head?_blocks hc hps htext hne, Option.map_some, hplain]

/-- The sentence on a collection starts with the editors. -/
theorem plain_prefix_collection (h : e.persons "editor".toList = some ps)
    (hnames : style.names ps ≠ .nil) {t : Text}
    (ht : collection.text style.personText e = .ok t) :
    (style.names ps).plain ++ ", ".toList ++ editorWord ps <+: t.plain := by
  obtain ⟨row, hrow, rfl⟩ := map_eq_ok_iff.1 ht
  obtain ⟨ts, hts, rfl⟩ := map_eq_ok_iff.1 hrow
  obtain ⟨u, us, hu, -, rfl⟩ := texts_cons_eq_ok hts
  obtain rfl : (uniform ", ").join [style.names ps, .ofChars (editorWord ps)] = u := by
    rw [text_optional, text_editors h] at hu
    exact Except.ok.inj hu
  rw [← plain_editors hnames]
  exact (plain_prefix_uniform_join ", " _ us).trans (plain_prefix_withPeriod _)

/-- In a collection the editors follow a word of their own. -/
theorem exists_block_of_editors {c : CitedEntry} (hc : style.cite e = .ok c)
    (htype : e.type = .inCollection ∨ e.type = .inProceedings)
    (h : e.persons "editor".toList = some ps) (hnames : style.names ps ≠ .nil) :
    ∃ block ∈ c.blocks,
      "In: ".toList ++ ((style.names ps).plain ++ ", ".toList ++ editorWord ps)
        <+: block.plain := by
  have hps : ofType e.type = some inCollection := by rcases htype with h | h <;> rw [h] <;> rfl
  have hlabelled : spaced [.words "In:", collection] ∈ inCollection := by
    simp [inCollection, collection]
  obtain ⟨template, ts, htemplate, hts, hblocks⟩ := exists_texts_of_cite hc
  obtain rfl : template = inCollection := Option.some.inj (htemplate.symm.trans hps)
  obtain ⟨t, ht, htext⟩ := exists_text_of_texts hts hlabelled
  obtain ⟨u, hu, rfl⟩ := exists_text_of_labelled htext
  have hrow := plain_prefix_collection h hnames hu
  have hune : u ≠ .nil := by
    rintro rfl
    simp [plain] at hrow
  have hplain : ((uniform " ").join [ofChars "In:".toList, u]).plain =
      "In: ".toList ++ u.plain := by
    rw [plain_uniform_join_pair (by decide), if_neg hune]
    rfl
  have hne : ((uniform " ").join [ofChars "In:".toList, u]).plain ≠ [] := by
    rw [hplain]
    simp
  refine ⟨_, hblocks ▸ mem_present_iff.2 ⟨ht, Text.ne_nil_of_plain_ne_nil hne⟩, ?_⟩
  rw [hplain]
  exact (List.prefix_append_right_inj _).2 hrow

end Style

section
open Text

/-- Names in a row have separators between them and nowhere else, and so has the line of the
authors in a citation. Two ways of joining normal texts with one separator make the same segments,
whatever the separator. -/
theorem names_enumerated :
    (∀ ts, (nameList.join ts).plain = enumerated ((present ts).map plain) ∧
      (present ts = [] → nameList.join ts = .nil)) ∧
    (∀ (style : Style) ps,
      (style.names ps).plain = enumerated ((present (ps.map style.personText)).map plain)) ∧
    (∀ (style : Style) e c ps, style.cite e = .ok c → style.names ps ≠ .nil →
      (e.persons "author".toList = some ps → c.blocks.head? = some (style.names ps).withPeriod) ∧
      (e.persons "editor".toList = some ps →
        (e.type = .book →
          (∀ qs, e.persons "author".toList = some qs → style.names qs = .nil) →
          c.blocks.head?.map plain =
            some ((style.names ps).plain ++ ", ".toList ++ editorWord ps ++ ['.'])) ∧
        (e.type = .inCollection ∨ e.type = .inProceedings → ∃ block ∈ c.blocks,
          "In: ".toList ++ ((style.names ps).plain ++ ", ".toList ++ editorWord ps) <+:
            block.plain))) ∧
    ∀ (sep : String) ts, (∀ t ∈ ts, t.Normal) →
      join sep.toList ts = (Separators.uniform sep).join ts := by
  refine ⟨?_, fun style ps => plain_nameList_join _, ?_, fun sep ts => join_eq_uniform_join⟩
  · intro ts
    refine ⟨plain_nameList_join ts, fun hts => ?_⟩
    rw [Separators.join, hts]
    rfl
  · intro style e c ps hc hnames
    refine ⟨fun h => Style.head?_blocks_of_authors hc h hnames, fun h => ⟨?_, ?_⟩⟩
    · exact fun htype hauthors => Style.head?_blocks_of_editors hc htype hauthors h hnames
    · exact fun htype => Style.exists_block_of_editors hc htype h hnames

/-- A work with three authors in a collection of two editors. -/
def contribution : Entry where
  type := .inCollection
  key := "k".toList
  fields := [⟨"author".toList, .literal "A and B and C".toList⟩,
    ⟨"editor".toList, .literal "D and E".toList⟩, ⟨"title".toList, .literal ['T']⟩,
    ⟨"booktitle".toList, .literal ['S']⟩, ⟨"year".toList, .number 2000⟩]

def contributionBlocks : List Text :=
  [.run "A, B, and C.".toList .nil, .run "(2000). ".toList .nil,
    .wrap .emph (.run ['T'] .nil) (.run ['.'] .nil),
    .run "In: D and E, editors, ".toList (.wrap .emph (.run ['S'] .nil) (.run ['.'] .nil))]

theorem names_enumerated_contribution :
    ∃ c, ({} : Style).cite contribution = .ok c ∧ c.blocks = contributionBlocks ∧
      c.blocks.head?.map plain = some "A, B, and C.".toList ∧
      (∃ block ∈ c.blocks, "In: D and E, editors".toList <+: block.plain) ∧
      join [','] c.blocks = (Separators.uniform ",").join c.blocks := by
  have hcite : ({} : Style).cite contribution =
      .ok ⟨"k".toList, "incollection".toList, [], contributionBlocks⟩ :=
    toOption_eq_some_iff.1 (by decide +kernel)
  obtain ⟨ps, hauthors, hps⟩ : ∃ ps, contribution.persons "author".toList = some ps ∧
      ({} : Style).names ps = ofChars "A, B, and C".toList :=
    ⟨[⟨[], [], [], [['A']], []⟩, ⟨[], [], [], [['B']], []⟩, ⟨[], [], [], [['C']], []⟩],
      by decide +kernel, by decide +kernel⟩
  obtain ⟨qs, heditors, hqs, hword⟩ : ∃ qs, contribution.persons "editor".toList = some qs ∧
      ({} : Style).names qs = ofChars "D and E".toList ∧ editorWord qs = "editors".toList :=
    ⟨[⟨[], [], [], [['D']], []⟩, ⟨[], [], [], [['E']], []⟩],
      by decide +kernel, by decide +kernel, rfl⟩
  obtain ⟨-, -, hlines, hsegments⟩ := names_enumerated
  obtain ⟨hauthorLine, -⟩ := hlines _ _ _ ps hcite (by rw [hps]; decide)
  obtain ⟨-, heditorLine⟩ := hlines _ _ _ qs hcite (by rw [hqs]; decide)
  refine ⟨_, hcite, rfl, ?_, ?_, hsegments "," _ (Style.normal_blocks hcite)⟩
  · rw [hauthorLine hauthors, hps]
    rfl
  · have hblock := (heditorLine heditors).2 (.inl rfl)
    rwa [hqs, hword] at hblock

end
end Citation
