import Citation.Proofs.PartedWords

/-! Names written back. A person is written as `von Last, Jr, First`, a part without words being
left out together with its comma. A lineage in front of no comma reads as given names, and a family
part alone reads as a name without commas. -/
namespace Citation

/-- A word as names have it: no gap or comma stands outside its braces, and these are closed. -/
structure IsClosedWord (w : List Char) : Prop where
  ne_nil : w ≠ []
  closed : openBraces w = 0
  gapless : Uncut isGap 0 w
  commaless : Uncut (· == ',') 0 w

theorem wordsOf_of_isClosedWord {w : List Char} (h : IsClosedWord w) : wordsOf w = [w] := by
  rw [wordsOf_eq, (CutInto.last h.gapless).eq]
  simp [h.ne_nil]

/-- The words of a closed name are closed. -/
theorem isClosedWord_of_mem {s : List Char} (hs : openBraces s = 0) :
    ∀ ws ∈ partedWords s, ∀ w ∈ ws, IsClosedWord w := by
  have hparts := cutInto_piecesOutside (· == ',') 0 s
  refine List.forall_mem_map.2 fun p hp w hw => ?_
  have hpieces := cutInto_piecesOutside isGap 0 p
  obtain ⟨hmem, hne⟩ : w ∈ piecesOutside isGap 0 p ∧ w ≠ [] := by simpa [wordsOf_eq] using hw
  exact {
    ne_nil := hne
    closed := hpieces.closed (by decide) (hparts.closed rfl hs p hp) w hmem
    gapless := hpieces.uncut w hmem
    commaless := hpieces.uncut_of_uncut (by decide) (hparts.uncut p hp) w hmem }

section
variable {ws : List (List Char)}

theorem openBraces_row (h : ∀ w ∈ ws, IsClosedWord w) : openBraces ([' '].intercalate ws) = 0 :=
  openBraces_intercalate fun w hw => (h w hw).closed

theorem uncut_comma_row (h : ∀ w ∈ ws, IsClosedWord w) :
    Uncut (· == ',') 0 ([' '].intercalate ws) := by
  induction ws with
  | nil => exact uncut_nil
  | cons w ws ih =>
    obtain ⟨hw, hws⟩ := List.forall_mem_cons.1 h
    cases ws with
    | nil =>
      rw [List.intercalate_singleton]
      exact hw.commaless
    | cons v ws =>
      rw [List.intercalate_cons_cons, List.append_assoc, List.singleton_append]
      refine uncut_append.2 ⟨hw.commaless, ?_⟩
      rw [show depthBehind 0 w = 0 from hw.closed]
      exact uncut_cons.2 ⟨by simp, ih hws⟩

theorem partedWords_row (h : ∀ w ∈ ws, IsClosedWord w) :
    partedWords ([' '].intercalate ws) = [ws] := by
  have hwords : ws.flatMap wordsOf = ws := by
    rw [List.flatMap_def, List.map_congr_left fun w hw => wordsOf_of_isClosedWord (h w hw),
      ← List.flatMap_def, List.flatMap_singleton']
  rw [partedWords_of_uncut (uncut_comma_row h),
    wordsOf_intercalate fun w hw => (h w (List.dropLast_subset _ hw)).closed, hwords]

end

namespace Person

/-- The words of a part behind its comma. A part without words is left out. -/
def behindComma (words : List (List Char)) : List Char :=
  if words = [] then [] else ',' :: ' ' :: [' '].intercalate words

theorem display_eq (p : Person) : p.display =
    [' '].intercalate (p.particles ++ p.family) ++ behindComma p.lineage ++ behindComma p.given :=
  rfl

theorem partedWords_behindComma {s : List Char} (hs : openBraces s = 0) {ws : List (List Char)}
    (hws : ∀ w ∈ ws, IsClosedWord w) :
    openBraces (s ++ behindComma ws) = 0 ∧
      partedWords (s ++ behindComma ws) = partedWords s ++ [ws].filter (· ≠ []) := by
  unfold behindComma
  split
  · next hnil => simp [hs, hnil]
  · next hne =>
    have hspace : partedWords (' ' :: [' '].intercalate ws) = [ws] := by
      rw [← List.nil_append (' ' :: _), partedWords_gap rfl (by decide), partedWords_row hws]
      rfl
    have hrow : openBraces (s ++ ',' :: ' ' :: [' '].intercalate ws) = 0 := by
      rw [openBraces_append_cons hs rfl]
      exact openBraces_row hws
    refine ⟨hrow, (partedWords_comma hs _).trans ?_⟩
    rw [hspace]
    simp [hne]

/-- A person with the words of the three parts. -/
def ofParts (family lineage given : List (List Char)) : Person :=
  { (withFamily {} family).withGiven given with lineage := lineage }

theorem family_ofParts (family lineage given : List (List Char)) :
    (ofParts family lineage given).particles ++ (ofParts family lineage given).family = family :=
  particles_append_family {} family

theorem given_ofParts (family lineage given : List (List Char)) :
    (ofParts family lineage given).given = given :=
  first_append_middle (withFamily {} family) given

theorem lineage_ofParts (family lineage given : List (List Char)) :
    (ofParts family lineage given).lineage = lineage := rfl

theorem ofParts_no_lineage (family given : List (List Char)) :
    ofParts family [] given = (withFamily {} family).withGiven given := by
  have hlineage : (withFamily {} family).lineage = [] := lineage_withFamily {} family
  unfold ofParts
  generalize withFamily {} family = p at hlineage
  cases p
  subst hlineage
  rfl

/-- Words that are a family part also without a comma: one at most, or the first is a particle. -/
def ReadsAsFamily (words : List (List Char)) : Prop :=
  ∀ w v ws, words = w :: v :: ws → isParticle w = true

/-- Without a comma the given names end at the first particle, or in front of the last word. -/
theorem given_ofWords (words : List (List Char)) : (ofWords words).given =
    if words.dropWhile (!isParticle ·) = [] then (words.takeWhile (!isParticle ·)).dropLast
    else words.takeWhile (!isParticle ·) := by
  unfold ofWords
  split
  · next hnone =>
    rw [if_pos hnone, withFamily_withGiven]
    exact first_append_middle (withFamily {} _) _
  · next w ws hfamily =>
    rw [if_neg (by simp [hfamily]), withFamily_withGiven]
    exact first_append_middle (withFamily {} _) _

theorem given_ofWords_eq_nil_iff (words : List (List Char)) :
    (ofWords words).given = [] ↔ ReadsAsFamily words := by
  rw [given_ofWords]
  match words with
  | [] => simp [ReadsAsFamily]
  | [w] => cases hw : isParticle w <;> simp [ReadsAsFamily, hw]
  | w :: v :: ws =>
    have hfirst : ReadsAsFamily (w :: v :: ws) ↔ isParticle w = true := by
      refine ⟨fun h => h w v ws rfl, fun hw w' v' ws' heq => ?_⟩
      obtain ⟨rfl, -⟩ := List.cons.inj heq
      exact hw
    rw [hfirst]
    cases hw : isParticle w with
    | true => simp [hw]
    | false => split <;> cases hv : isParticle v <;> simp_all

/-- Without a comma the words are given names and a family part. -/
theorem ofWords_eq_iff (family : List (List Char)) :
    ofWords family = ofParts family [] [] ↔ ReadsAsFamily family := by
  rw [← given_ofWords_eq_nil_iff]
  obtain ⟨given, last, hwords, -, hperson⟩ := ofWords_cases family
  have hgiven : (ofWords family).given = given := by
    rw [hperson]
    exact first_append_middle (withFamily {} last) given
  constructor
  · intro h
    rw [h]
    exact given_ofParts family [] []
  · intro h
    obtain rfl : given = [] := hgiven.symm.trans h
    obtain rfl : last = family := hwords
    rw [hperson, ofParts_no_lineage]

/-- The parts of a closed name have closed words. -/
theorem exists_ofParts {name : List Char} (h : openBraces name = 0) :
    ∃ family lineage given, parse name = ofParts family lineage given ∧
      (∀ w ∈ family, IsClosedWord w) ∧ (∀ w ∈ lineage, IsClosedWord w) ∧
      ∀ w ∈ given, IsClosedWord w := by
  have hwords := isClosedWord_of_mem h
  rw [parse_eq h]
  generalize partedWords name = parts at hwords
  match parts with
  | [] => exact ⟨[], [], [], rfl, by simp⟩
  | [words] =>
    obtain ⟨given, family, rfl, -, hperson⟩ := ofWords_cases words
    obtain ⟨hgiven, hfamily⟩ := List.forall_mem_append.1 (hwords _ (.head _))
    refine ⟨family, [], given, ?_, hfamily, by simp, hgiven⟩
    rw [ofPartedWords, hperson, ofParts_no_lineage]
  | [family, given] =>
    refine ⟨family, [], given, ?_, hwords _ (.head _), by simp, hwords _ (.tail _ (.head _))⟩
    rw [ofPartedWords, ofParts_no_lineage]
  | family :: lineage :: first :: given =>
    refine ⟨family, lineage, (first :: given).flatten, rfl, hwords _ (.head _),
      hwords _ (.tail _ (.head _)), fun w hw => ?_⟩
    obtain ⟨ws, hws, hw⟩ := List.mem_flatten.1 hw
    exact hwords ws (.tail _ (.tail _ hws)) w hw

/-- A person is written in its parts, the empty ones left out. -/
theorem parse_display_ofParts {family lineage given : List (List Char)}
    (hfamily : ∀ w ∈ family, IsClosedWord w) (hlineage : ∀ w ∈ lineage, IsClosedWord w)
    (hgiven : ∀ w ∈ given, IsClosedWord w) :
    parse (ofParts family lineage given).display =
      ofPartedWords (family :: [lineage, given].filter (· ≠ [])) := by
  have hrow := openBraces_row hfamily
  obtain ⟨hclosed, hparts⟩ := partedWords_behindComma hrow hlineage
  obtain ⟨hclosed', hparts'⟩ := partedWords_behindComma hclosed hgiven
  rw [display_eq, family_ofParts, lineage_ofParts, given_ofParts, parse_eq hclosed', hparts',
    hparts, partedWords_row hfamily, List.append_assoc, ← List.filter_append]
  rfl

/-- The written form leaves nothing open: there are given names, or there is no lineage either and
the family part is one also without a comma. -/
def IsPlainlyWritten (p : Person) : Prop :=
  p.given ≠ [] ∨ p.lineage = [] ∧ ReadsAsFamily (p.particles ++ p.family)

theorem parse_display_ofParts_iff {family lineage given : List (List Char)}
    (hfamily : ∀ w ∈ family, IsClosedWord w) (hlineage : ∀ w ∈ lineage, IsClosedWord w)
    (hgiven : ∀ w ∈ given, IsClosedWord w) :
    parse (ofParts family lineage given).display = ofParts family lineage given ↔
      (ofParts family lineage given).IsPlainlyWritten := by
  rw [parse_display_ofParts hfamily hlineage hgiven, IsPlainlyWritten, family_ofParts,
    lineage_ofParts, given_ofParts]
  by_cases hg : given = []
  · by_cases hl : lineage = []
    · subst hg hl
      simpa [ofPartedWords] using ofWords_eq_iff family
    · -- The lineage stands behind the only comma, where given names are read.
      have hne : ofPartedWords [family, lineage] ≠ ofParts family lineage given := by
        intro h
        have hnone : ((withFamily {} family).withGiven lineage).lineage = lineage :=
          congrArg Person.lineage h
        exact hl (hnone.symm.trans (lineage_withFamily {} family))
      have hwritten : [lineage, given].filter (· ≠ []) = [lineage] := by simp [hg, hl]
      rw [hwritten]
      exact iff_of_false hne (by simp [hg, hl])
  · by_cases hl : lineage = []
    · simp [hg, hl, ofPartedWords, ofParts_no_lineage]
    · simp [hg, hl, ofPartedWords, ofParts]

theorem isPlainlyWritten_of_no_comma {name : List Char} (h : (commaPieces name).length = 1) :
    (parse name).IsPlainlyWritten := by
  obtain ⟨p, hpieces⟩ := List.length_eq_one_iff.1 h
  have hwords := hasWordsOf_parse name
  rw [hpieces] at hwords
  obtain ⟨hall, hlineage, -⟩ := hwords
  have hparse : parse name = ofWords (wordsOf name) := by rw [parse, hpieces]
  by_cases hgiven : (parse name).given = []
  · refine .inr ⟨hlineage, ?_⟩
    have hfamily : (parse name).particles ++ (parse name).family = wordsOf name := by
      rw [← hall, List.append_assoc]
      exact (congrArg (· ++ _) hgiven).symm
    rw [hfamily, ← given_ofWords_eq_nil_iff, ← hparse, hgiven]
  · exact .inl hgiven

/-- A closed name is read back from its written form exactly if that leaves nothing open, which it
never does for a name without commas. -/
theorem parse_display_iff {name : List Char} (h : openBraces name = 0) :
    (parse (parse name).display = parse name ↔ (parse name).IsPlainlyWritten) ∧
      ((commaPieces name).length = 1 → parse (parse name).display = parse name) := by
  obtain ⟨family, lineage, given, hparse, hfamily, hlineage, hgiven⟩ := exists_ofParts h
  have hiff := parse_display_ofParts_iff hfamily hlineage hgiven
  rw [← hparse] at hiff
  exact ⟨hiff, fun hpieces => hiff.2 (isPlainlyWritten_of_no_comma hpieces)⟩

/-- All parts, with a particle in front, and braces that hide a comma and a space. -/
def fullName : List Char := "de la \x7bFoo, Bar\x7d~Baz, Jr., A.~\x7bB C\x7d".toList

theorem parse_display_iff_full :
    openBraces fullName = 0 ∧ (parse fullName).IsPlainlyWritten ∧
      parse (parse fullName).display = parse fullName ∧
      openBraces "jean de la fontaine".toList = 0 ∧
      (commaPieces "jean de la fontaine".toList).length = 1 ∧
      parse (parse "jean de la fontaine".toList).display = parse "jean de la fontaine".toList := by
  have hclosed : openBraces fullName = 0 := by decide
  have hgiven : (parse fullName).given ≠ [] := by decide +kernel
  have hclosed' : openBraces "jean de la fontaine".toList = 0 := by decide
  have hpieces : (commaPieces "jean de la fontaine".toList).length = 1 := by decide
  exact ⟨hclosed, .inl hgiven, (parse_display_iff hclosed).1.2 (.inl hgiven), hclosed', hpieces,
    (parse_display_iff hclosed').2 hpieces⟩

/-- With no given names behind them, a lineage and a family name of two words are not read back. -/
theorem parse_display_ne :
    (openBraces "Ford, Jr.,".toList = 0 ∧
      parse (parse "Ford, Jr.,".toList).display ≠ parse "Ford, Jr.,".toList) ∧
    openBraces "Ford Prefect,".toList = 0 ∧
      parse (parse "Ford Prefect,".toList).display ≠ parse "Ford Prefect,".toList := by
  decide +kernel

end Person
end Citation
