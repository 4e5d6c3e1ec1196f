import Citation.Proofs.Bibliography
import Citation.Proofs.Fields
import Citation.Proofs.Readings
import Citation.Proofs.Words

/-! White space around the texts of fields. Templates trim what they read, and words stand between
white space, unless a brace is open in front of it. The order of a bibliography does not trim: the
white space around a year or a title counts in it, between works by the same authors. -/
namespace Citation

/-- The second text is the first one with white space in front of it and behind it. -/
def Surrounded (s s' : List Char) : Prop :=
  ∃ l r : List Char, (∀ c ∈ l, isWhitespace c = true) ∧ (∀ c ∈ r, isWhitespace c = true) ∧
    s' = l ++ (s ++ r)

theorem Surrounded.refl (s : List Char) : Surrounded s s := ⟨[], [], by simp, by simp, by simp⟩

theorem Surrounded.trim_eq {s s' : List Char} (h : Surrounded s s') : trim s' = trim s := by
  obtain ⟨l, r, hl, hr, rfl⟩ := h
  have hrev : ∀ c ∈ r.reverse, isWhitespace c = true := by simpa using hr
  rw [trim, trimStart, List.dropWhile_append_of_pos hl]
  -- If the text is white space, what stands behind it is trimmed from the front with it.
  by_cases hs : ∀ c ∈ s, isWhitespace c = true
  · have hsr : ∀ c ∈ s ++ r, isWhitespace c = true := by
      simpa [or_imp, forall_and] using And.intro hs hr
    rw [List.dropWhile_eq_nil_iff.2 hsr, trim_of_whitespace hs]
    rfl
  · have hstart : (s ++ r).dropWhile isWhitespace = trimStart s ++ r := by
      rw [List.dropWhile_append, if_neg]
      · rfl
      · simpa [List.isEmpty_iff, List.dropWhile_eq_nil_iff] using hs
    rw [hstart, trimEnd, List.reverse_append, List.dropWhile_append_of_pos hrev]
    rfl

/-! Words. -/

/-- White space makes no difference to words in front of them, and behind them if no brace is
open. -/
theorem Surrounded.wordsOf_eq {s s' : List Char} (h : Surrounded s s')
    (hends : openBraces s = 0 ∨ trimStart s' = trimStart s) : wordsOf s' = wordsOf s := by
  rcases hends with hclosed | hstart
  · obtain ⟨l, r, hl, hr, rfl⟩ := h
    rw [wordsOf_gaps_append fun c hc => isGap_of_isWhitespace (hl c hc),
      wordsOf_append_gaps hclosed fun c hc => isGap_of_isWhitespace (hr c hc)]
  · rw [← wordsOf_trimStart s', hstart, wordsOf_trimStart]

/-! Entries. -/

/-- The same value, with white space around it if it is a literal. -/
inductive Value.Padded : Value → Value → Prop
  | same (v : Value) : Padded v v
  | literal {s s' : List Char} (h : Surrounded s s') : Padded (.literal s) (.literal s')

theorem Value.Padded.text {v v' : Value} (h : v.Padded v') :
    Option.Rel Surrounded v.text v'.text := by
  cases h with
  | same =>
    cases v.text with
    | none => exact .none
    | some s => exact .some (.refl s)
  | literal h => exact .some h

theorem Value.Padded.openReference {v v' : Value} (h : v.Padded v') :
    v'.openReference = v.openReference := by
  cases h <;> rfl

structure Field.Padded (f f' : Field) : Prop where
  name : f'.name = f.name
  value : f.value.Padded f'.value

namespace Entry

/-- The same entry, with white space around the texts of any of its fields. -/
structure Padded (e e' : Entry) : Prop where
  type : e'.type = e.type
  key : e'.key = e.key
  fields : List.Forall₂ Field.Padded e.fields e'.fields

/-- No brace is open where white space stands behind a list of names. -/
def NamesClosed (e e' : Entry) : Prop :=
  ∀ role ∈ nameRoles, ∀ s ∈ e.text role.toList, ∀ s' ∈ e'.text role.toList,
    openBraces s = 0 ∨ trimStart s' = trimStart s

variable {e e' : Entry}

theorem Padded.find (h : e.Padded e') (name : List Char) :
    Option.Rel Field.Padded (e.find name) (e'.find name) := by
  have hfields := h.fields
  unfold Entry.find
  generalize e.fields = fs, e'.fields = fs' at hfields ⊢
  induction hfields with
  | nil => exact .none
  | cons hf _ ih =>
    simp only [List.find?_cons, hf.name]
    split
    · exact .some hf
    · exact ih

theorem Padded.text (h : e.Padded e') (name : List Char) :
    Option.Rel Surrounded (e.text name) (e'.text name) := by
  have hfind := h.find name
  unfold Entry.text
  generalize e.find name = o, e'.find name = o' at hfind ⊢
  cases hfind with
  | none => exact .none
  | some hf => exact hf.value.text

theorem Padded.openReference (h : e.Padded e') (name : List Char) :
    e'.openReference name = e.openReference name := by
  have hfind := h.find name
  unfold Entry.openReference
  generalize e.find name = o, e'.find name = o' at hfind ⊢
  cases hfind with
  | none => rfl
  | some hf => exact hf.value.openReference

theorem Padded.lack (h : e.Padded e') (name : List Char) : e'.lack name = e.lack name := by
  simp only [Entry.lack, h.openReference, h.type, h.key]

theorem Padded.need (h : e.Padded e') (name : List Char) : e'.need name = e.need name := by
  have htext := h.text name
  unfold Entry.need
  generalize e.text name = o, e'.text name = o' at htext ⊢
  cases htext with
  | none => exact congrArg _ (h.lack name)
  | some hs => exact congrArg _ hs.trim_eq

theorem Padded.needPersons (h : e.Padded e') (hnames : e.NamesClosed e') {role : String}
    (hrole : role ∈ nameRoles) : e'.needPersons role.toList = e.needPersons role.toList := by
  have hpersons : e'.persons role.toList = e.persons role.toList := by
    have htext := h.text role.toList
    have hends := hnames role hrole
    unfold Entry.persons
    generalize e.text role.toList = o, e'.text role.toList = o' at htext hends ⊢
    cases htext with
    | none => rfl
    | @some s s' hs => simp only [Person.parseList, hs.wordsOf_eq (hends s rfl s' rfl)]
  simp only [Entry.needPersons, hpersons, h.lack]

theorem Padded.readAlike (h : e.Padded e') (hnames : e.NamesClosed e') : ReadAlike e e' where
  type := h.type
  key := h.key
  need := h.need
  needPersons _ hrole := h.needPersons hnames hrole

end Entry

/-! Lists of entries with their padded copies. -/

/-- Two entries with the same authors have years without white space around them in their copies,
and titles without white space if the years are the same, too. -/
def TiesUnpadded (p q : Entry × Entry) : Prop :=
  p.1.authorKey = q.1.authorKey →
    (∀ x ∈ [p, q], x.2.text "year".toList = x.1.text "year".toList) ∧
      (p.1.fieldKey "year".toList = q.1.fieldKey "year".toList →
        ∀ x ∈ [p, q], x.2.text "title".toList = x.1.text "title".toList)

theorem TiesUnpadded.symm {p q : Entry × Entry} (h : TiesUnpadded p q) : TiesUnpadded q p := by
  intro hauthor
  obtain ⟨hyear, htitle⟩ := h hauthor.symm
  refine ⟨fun x hx => hyear x ?_, fun hkeys x hx => htitle hkeys.symm x ?_⟩
  · simpa [or_comm] using hx
  · simpa [or_comm] using hx

theorem fieldKey_congr {e e' : Entry} {name : List Char} (h : e'.text name = e.text name) :
    e'.fieldKey name = e.fieldKey name := by
  simp only [Entry.fieldKey, h]

/-- The copies of two entries are in the order of the two. -/
theorem TiesUnpadded.orderLe_eq {p q : Entry × Entry} (h : TiesUnpadded p q)
    (hp : p.2.authorKey = p.1.authorKey) (hq : q.2.authorKey = q.1.authorKey) :
    p.2.orderLe q.2 = p.1.orderLe q.1 := by
  simp only [Entry.orderLe, Entry.orderKey, hp, hq]
  -- A later part of the keys is only looked at where the parts in front of it are the same.
  by_cases hauthor : p.1.authorKey = q.1.authorKey
  · obtain ⟨hyear, htitle⟩ := h hauthor
    have hpyear := fieldKey_congr (hyear p (by simp))
    have hqyear := fieldKey_congr (hyear q (by simp))
    rw [hpyear, hqyear]
    by_cases hyears : p.1.fieldKey "year".toList = q.1.fieldKey "year".toList
    · rw [fieldKey_congr (htitle hyears p (by simp)), fieldKey_congr (htitle hyears q (by simp))]
    · simp only [lexLe, hyears, ↓reduceIte]
  · simp only [lexLe, hauthor, ↓reduceIte]

theorem orderLe_eq_of_pairwise {ps : List (Entry × Entry)}
    (hauthor : ∀ p ∈ ps, p.2.authorKey = p.1.authorKey) (hties : ps.Pairwise TiesUnpadded) :
    ∀ p ∈ ps, ∀ q ∈ ps, p.2.orderLe q.2 = p.1.orderLe q.1 := by
  have hself (e : Entry) : e.orderLe e = true := by simpa using orderLe_total e e
  intro p hp q hq
  obtain ⟨i, hi, rfl⟩ := List.getElem_of_mem hp
  obtain ⟨j, hj, rfl⟩ := List.getElem_of_mem hq
  rcases Nat.lt_trichotomy i j with hlt | rfl | hlt
  · have hij := List.pairwise_iff_getElem.1 hties i j hi hj hlt
    exact hij.orderLe_eq (hauthor _ hp) (hauthor _ hq)
  · rw [hself, hself]
  · have hji := List.pairwise_iff_getElem.1 hties j i hj hi hlt
    exact hji.symm.orderLe_eq (hauthor _ hp) (hauthor _ hq)

/-- Pairs are sorted alike by their first and by their second entries if these compare alike. -/
theorem exists_sort_pairs (sorting : Sorting) {ps : List (Entry × Entry)}
    (h : sorting = .authorYearTitle →
      ∀ p ∈ ps, ∀ q ∈ ps, p.2.orderLe q.2 = p.1.orderLe q.1) :
    ∃ qs : List (Entry × Entry), qs.Perm ps ∧
      sorting.sort (ps.map Prod.fst) = qs.map Prod.fst ∧
      sorting.sort (ps.map Prod.snd) = qs.map Prod.snd := by
  cases sorting with
  | asGiven => exact ⟨ps, .refl ps, rfl, rfl⟩
  | authorYearTitle =>
    refine ⟨ps.mergeSort fun p q => p.1.orderLe q.1, List.mergeSort_perm _ _, ?_, ?_⟩
    · rw [sort_authorYearTitle, List.map_mergeSort]
      exact fun _ _ _ _ => rfl
    · rw [sort_authorYearTitle, List.map_mergeSort]
      exact fun p hp q hq => (h rfl p hp q hq).symm

theorem sort_pair (a b : Entry) :
    Sorting.authorYearTitle.sort [a, b] = if a.orderLe b then [a, b] else [b, a] := by
  rw [sort_authorYearTitle]
  cases h : a.orderLe b <;> simp [List.mergeSort, List.MergeSort.Internal.splitInTwo, h]

namespace Style

/-- Entries are cited in the same way when they compare alike and are each cited in the same way. -/
theorem citeAll_pairs {style : Style} {ps : List (Entry × Entry)}
    (hcite : ∀ p ∈ ps, style.cite p.2 = style.cite p.1)
    (horder : style.sorting = .authorYearTitle →
      ∀ p ∈ ps, ∀ q ∈ ps, p.2.orderLe q.2 = p.1.orderLe q.1) :
    style.citeAll (ps.map Prod.snd) = style.citeAll (ps.map Prod.fst) := by
  obtain ⟨qs, hperm, hfst, hsnd⟩ := exists_sort_pairs style.sorting horder
  apply List.ext_getElem?
  intro i
  rw [citeAll_getElem?, citeAll_getElem?, hfst, hsnd, List.getElem?_map, List.getElem?_map]
  cases hq : qs[i]? with
  | none => rfl
  | some q =>
    have hmem : q ∈ ps := hperm.mem_iff.1 (List.mem_of_getElem? hq)
    simp [hcite q hmem]

/-- White space around the texts of fields makes no difference to citations and errors, unless a
brace is open in front of it in a list of names, and none to a bibliography, unless the entries are
sorted and it stands around the year or the title of one with the same authors as another. -/
theorem bibliography_of_padded {style : Style} {ps : List (Entry × Entry)}
    (hpadded : ∀ p ∈ ps, p.1.Padded p.2) (hnames : ∀ p ∈ ps, p.1.NamesClosed p.2) :
    (∀ p ∈ ps, style.cite p.2 = style.cite p.1) ∧
      ((style.sorting = .authorYearTitle → ps.Pairwise TiesUnpadded) →
        style.citeAll (ps.map Prod.snd) = style.citeAll (ps.map Prod.fst) ∧
        style.bibliography (ps.map Prod.snd) = style.bibliography (ps.map Prod.fst) ∧
        style.citableBibliography (ps.map Prod.snd) =
          style.citableBibliography (ps.map Prod.fst)) := by
  have halike : ∀ p ∈ ps, p.1.ReadAlike p.2 := fun p hp =>
    (hpadded p hp).readAlike (hnames p hp)
  have hcite : ∀ p ∈ ps, style.cite p.2 = style.cite p.1 := fun p hp =>
    style.cite_of_readAlike (halike p hp)
  refine ⟨hcite, fun hties => ?_⟩
  have horder : style.sorting = .authorYearTitle →
      ∀ p ∈ ps, ∀ q ∈ ps, p.2.orderLe q.2 = p.1.orderLe q.1 := fun hsorting =>
    orderLe_eq_of_pairwise (fun p hp => (halike p hp).authorKey) (hties hsorting)
  have hall := citeAll_pairs hcite horder
  rw [bibliography, bibliography, citableBibliography, citableBibliography, hall]
  exact ⟨rfl, rfl, rfl⟩

def workOf (key : Char) (author year title : String) : Entry where
  type := .misc
  key := [key]
  fields := [⟨"author".toList, .literal author.toList⟩, ⟨"year".toList, .literal year.toList⟩,
    ⟨"title".toList, .literal title.toList⟩]

/-- Two works by one author, with their copies. -/
def paddedWorks : List (Entry × Entry) :=
  [(workOf 'a' "A" "2001" "T", workOf 'a' " A" "2001" "T "),
    (workOf 'b' "A" "2000" "U", workOf 'b' "A" "2000" " U")]

theorem bibliography_of_padded_titles :
    ((∀ p ∈ paddedWorks, p.1.Padded p.2) ∧ (∀ p ∈ paddedWorks, p.1.NamesClosed p.2) ∧
      paddedWorks.Pairwise TiesUnpadded) ∧
      (∀ p ∈ paddedWorks, ({} : Style).cite p.2 = ({} : Style).cite p.1) ∧
      ({} : Style).citeAll (paddedWorks.map Prod.snd) =
        ({} : Style).citeAll (paddedWorks.map Prod.fst) ∧
      ({} : Style).bibliography (paddedWorks.map Prod.snd) =
        ({} : Style).bibliography (paddedWorks.map Prod.fst) ∧
      ({} : Style).citableBibliography (paddedWorks.map Prod.snd) =
        ({} : Style).citableBibliography (paddedWorks.map Prod.fst) := by
  have hspace : ∀ c ∈ [' '], isWhitespace c = true := by simp [isWhitespace]
  have hfront {s : List Char} : Surrounded s (' ' :: s) := ⟨[' '], [], hspace, by simp, by simp⟩
  have hbehind {s : List Char} : Surrounded s (s ++ [' ']) := ⟨[], [' '], by simp, hspace, rfl⟩
  have hpadded : ∀ p ∈ paddedWorks, p.1.Padded p.2 := by
    refine List.forall_mem_cons.2 ⟨⟨rfl, rfl, ?_⟩, List.forall_mem_cons.2 ⟨⟨rfl, rfl, ?_⟩, by simp⟩⟩
    · exact .cons ⟨rfl, .literal hfront⟩ (.cons ⟨rfl, .same _⟩ (.cons ⟨rfl, .literal hbehind⟩ .nil))
    · exact .cons ⟨rfl, .same _⟩ (.cons ⟨rfl, .same _⟩ (.cons ⟨rfl, .literal hfront⟩ .nil))
  have hnames : ∀ p ∈ paddedWorks, p.1.NamesClosed p.2 := by
    unfold Entry.NamesClosed
    decide +kernel
  have hties : paddedWorks.Pairwise TiesUnpadded := by
    unfold TiesUnpadded
    decide +kernel
  obtain ⟨hcite, hall⟩ := @bibliography_of_padded {} paddedWorks hpadded hnames
  exact ⟨⟨hpadded, hnames, hties⟩, hcite, hall fun _ => hties⟩

/-- A space in front of a year changes the order of two works without authors, and one behind an
open brace changes a name. -/
theorem bibliography_ne_of_padded :
    (∃ d e e' : Entry, e.Padded e' ∧
      ({} : Style).bibliography [d, e'] ≠ ({} : Style).bibliography [d, e]) ∧
      ∃ e e' : Entry, e.Padded e' ∧ ({} : Style).cite e' ≠ ({} : Style).cite e := by
  have hspace : ∀ c ∈ [' '], isWhitespace c = true := by simp [isWhitespace]
  constructor
  · refine ⟨workOf 'a' "" "2000" "", workOf 'b' "" "2001" "", workOf 'b' "" " 2001" "",
      ⟨rfl, rfl, ?_⟩, fun heq => ?_⟩
    · exact .cons ⟨rfl, .same _⟩ (.cons ⟨rfl, .literal ⟨[' '], [], hspace, by simp, rfl⟩⟩
        (.cons ⟨rfl, .same _⟩ .nil))
    · have hle : (workOf 'a' "" "2000" "").orderLe (workOf 'b' "" "2001" "") = true := by
        decide +kernel
      have hnle : (workOf 'a' "" "2000" "").orderLe (workOf 'b' "" " 2001" "") = false := by
        decide +kernel
      have hkeys := congrArg (fun b => (b.toOption.map fun b => b.map CitedEntry.key)) heq
      simp only [bibliography, citeAll, sort_pair, hle, hnle, ↓reduceIte] at hkeys
      revert hkeys
      decide +kernel
  · refine ⟨workOf 'a' "Jane \\\x7bx" "2000" "", workOf 'a' "Jane \\\x7bx " "2000" "",
      ⟨rfl, rfl, ?_⟩, fun heq => ?_⟩
    · exact .cons ⟨rfl, .literal ⟨[], [' '], by simp, hspace, rfl⟩⟩ (.cons ⟨rfl, .same _⟩
        (.cons ⟨rfl, .same _⟩ .nil))
    · have hcited := congrArg Except.toOption heq
      revert hcited
      decide +kernel

end Style
end Citation
