import Citation.Proofs.Names

/-! The words of a name, parted by its commas. A name is read by these alone: neither the gaps
between the words nor those around the commas have a part in the person. -/
namespace Citation

/-! Pieces of a text outside braces. -/

theorem openBraces_append {s : List Char} (hs : openBraces s = 0) (t : List Char) :
    openBraces (s ++ t) = openBraces t := by
  show depthBehind 0 (s ++ t) = depthBehind 0 t
  rw [depthBehind_append, show depthBehind 0 s = 0 from hs]

theorem openBraces_append_cons {s : List Char} (hs : openBraces s = 0) {c : Char}
    (hc : depthAfter c 0 = 0) (t : List Char) : openBraces (s ++ c :: t) = openBraces t := by
  rw [openBraces_append hs, openBraces, List.foldl_cons, hc]
  rfl

section
variable {cut : Char → Bool}

/-- Cutting starts outside braces, and behind each cut it is outside of them again. -/
@[elab_as_elim]
theorem CutInto.induction_outside
    {motive : (s : List Char) → (ps : List (List Char)) → CutInto cut 0 s ps → Prop}
    (last : ∀ s (hs : Uncut cut 0 s), motive s [s] (.last hs))
    (more : ∀ p c s ps (hp : Uncut cut 0 p) (hclosed : openBraces p = 0) (hc : cut c = true)
      (h : CutInto cut 0 s ps), motive s ps h →
        motive (p ++ c :: s) (p :: ps) (.more hp hclosed hc h))
    {s : List Char} {ps : List (List Char)} (h : CutInto cut 0 s ps) : motive s ps h := by
  suffices hall : ∀ {depth : Nat} {s : List Char} {ps : List (List Char)}
      (h : CutInto cut depth s ps) (hdepth : depth = 0), motive s ps (hdepth ▸ h) from hall h rfl
  intro depth s ps h hdepth
  induction h with
  | last hs =>
    subst hdepth
    exact last _ hs
  | more hp hclosed hc h ih =>
    subst hdepth
    exact more _ _ _ _ hp hclosed hc h (ih rfl)

/-- Pieces are uncut. -/
theorem CutInto.uncut {s : List Char} {ps : List (List Char)} (h : CutInto cut 0 s ps) :
    ∀ p ∈ ps, Uncut cut 0 p := by
  induction h using CutInto.induction_outside with
  | last s hs => simpa using hs
  | more p c s ps hp _ _ _ ih => exact List.forall_mem_cons.2 ⟨hp, ih⟩

theorem CutInto.ne_nil {s : List Char} {ps : List (List Char)} (h : CutInto cut 0 s ps) :
    ps ≠ [] := by
  cases h <;> simp

variable (hopen : cut '\x7b' = false)
include hopen

theorem depthAfter_of_cut {c : Char} (hc : cut c = true) : depthAfter c 0 = 0 := by
  have hne : c ≠ '\x7b' := fun hne => by simp [hne, hopen] at hc
  simp [depthAfter, hne]

/-- No brace is open behind any piece of a closed text. -/
theorem CutInto.closed {s : List Char} {ps : List (List Char)} (h : CutInto cut 0 s ps)
    (hs : openBraces s = 0) : ∀ p ∈ ps, openBraces p = 0 := by
  induction h using CutInto.induction_outside with
  | last s _ => simpa using hs
  | more p c s ps _ hclosed hc _ ih =>
    refine List.forall_mem_cons.2 ⟨hclosed, ih ?_⟩
    rwa [openBraces_append_cons hclosed (depthAfter_of_cut hopen hc)] at hs

/-- What is cut nowhere has no piece that is. -/
theorem CutInto.uncut_of_uncut {cut' : Char → Bool} {s : List Char} {ps : List (List Char)}
    (h : CutInto cut 0 s ps) (hs : Uncut cut' 0 s) : ∀ p ∈ ps, Uncut cut' 0 p := by
  induction h using CutInto.induction_outside with
  | last s _ => simpa using hs
  | more p c s ps _ hclosed hc _ ih =>
    obtain ⟨hp, hbehind⟩ := uncut_append.1 hs
    have hbehind : Uncut cut' 0 (c :: s) := hclosed ▸ hbehind
    have hrest := (uncut_cons.1 hbehind).2
    rw [depthAfter_of_cut hopen hc] at hrest
    exact List.forall_mem_cons.2 ⟨hp, ih hrest⟩

end

/-! Words between commas. -/

/-- The words of each part of a text between commas. -/
def partedWords (s : List Char) : List (List (List Char)) :=
  (piecesOutside (· == ',') 0 s).map wordsOf

/-- Two lists of groups in a row, where the last group of the first and the first of the second are
one group. -/
def meshed {α : Type} : List (List α) → List (List α) → List (List α)
  | [], qs => qs
  | [p], [] => [p]
  | [p], q :: qs => (p ++ q) :: qs
  | p :: p' :: ps, qs => p :: meshed (p' :: ps) qs

theorem meshed_cons {α : Type} (p : List α) {ps : List (List α)} (hps : ps ≠ [])
    (qs : List (List α)) : meshed (p :: ps) qs = p :: meshed ps qs := by
  cases ps with
  | nil => exact absurd rfl hps
  | cons p' ps => rfl

theorem nil_meshed {α : Type} {qs : List (List α)} (hqs : qs ≠ []) : meshed [[]] qs = qs := by
  cases qs with
  | nil => exact absurd rfl hqs
  | cons q qs => rfl

theorem meshed_nil {α : Type} {ps : List (List α)} (hps : ps ≠ []) : meshed ps [[]] = ps := by
  induction ps with
  | nil => exact absurd rfl hps
  | cons p ps ih =>
    cases ps with
    | nil => simp [meshed]
    | cons p' ps => rw [meshed_cons p (List.cons_ne_nil _ _), ih (List.cons_ne_nil _ _)]

theorem partedWords_ne_nil (s : List Char) : partedWords s ≠ [] := by
  rw [partedWords, Ne, List.map_eq_nil_iff]
  exact piecesOutside_ne_nil _ _ _

theorem partedWords_nil : partedWords [] = [[]] := rfl

theorem partedWords_of_uncut {s : List Char} (hs : Uncut (· == ',') 0 s) :
    partedWords s = [wordsOf s] := by
  rw [partedWords, (CutInto.last hs).eq, List.map_singleton]

/-- A comma outside braces parts the words in front of it from those behind it. -/
theorem partedWords_comma {s : List Char} (hs : openBraces s = 0) (t : List Char) :
    partedWords (s ++ ',' :: t) = partedWords s ++ partedWords t := by
  have hpieces := (cutInto_piecesOutside (· == ',') 0 s).append (c := ',') rfl hs rfl
    (cutInto_piecesOutside (· == ',') 0 t)
  rw [partedWords, hpieces.eq, List.map_append, partedWords, partedWords]

theorem depthAfter_of_isGap {c : Char} (hc : isGap c = true) : depthAfter c 0 = 0 :=
  @depthAfter_of_cut isGap (by decide) c hc

/-- A gap outside braces leaves the words on its sides in one part. -/
theorem partedWords_gap {s : List Char} (hs : openBraces s = 0) {c : Char}
    (hc : isGap c = true) (t : List Char) :
    partedWords (s ++ c :: t) = meshed (partedWords s) (partedWords t) := by
  -- By the parts of `s`: the last of them goes on with the first part of `t`.
  have h := cutInto_piecesOutside (· == ',') 0 s
  generalize hps : piecesOutside (· == ',') 0 s = ps at h
  have hparts : partedWords s = ps.map wordsOf := by rw [partedWords, hps]
  rw [hparts]
  clear hps hparts
  induction h using CutInto.induction_outside with
  | last s huncut =>
    obtain ⟨q, qs, hq⟩ := List.exists_cons_of_ne_nil (piecesOutside_ne_nil (· == ',') 0 t)
    have hcomma : c ≠ ',' := by rintro rfl; revert hc; decide
    have hpieces : piecesOutside (· == ',') 0 (s ++ c :: t) = (s ++ c :: q) :: qs := by
      rw [piecesOutside_append huncut, show depthBehind 0 s = 0 from hs, piecesOutside,
        if_neg (by simpa using hcomma), depthAfter_of_isGap hc, hq, extendFirst,
        foldr_extendFirst]
    rw [partedWords, partedWords, hpieces, hq, List.map_cons, wordsOf_append_cons hs hc]
    rfl
  | more p a s ps hp hclosed ha h ih =>
    obtain rfl : a = ',' := by simpa using ha
    rw [openBraces_append_cons hclosed rfl] at hs
    rw [List.append_assoc, List.cons_append, partedWords_comma hclosed, partedWords_of_uncut hp,
      ih hs, List.map_cons, meshed_cons _ (by simpa using h.ne_nil)]
    rfl

/-- Words that are set in a row again, with one space between them, are in the same parts. -/
theorem partedWords_intercalate_wordsOf {s : List Char} (hs : openBraces s = 0) :
    partedWords ([' '].intercalate (wordsOf s)) = partedWords s := by
  have h := cutInto_piecesOutside isGap 0 s
  generalize hps : piecesOutside isGap 0 s = ps at h
  have hwords : wordsOf s = ps.filter (· ≠ []) := by rw [wordsOf_eq, hps]
  rw [hwords]
  clear hps hwords
  induction h using CutInto.induction_outside with
  | last s => by_cases hnil : s = [] <;> simp [hnil]
  | more p c s ps _ hclosed hc _ ih =>
    rw [openBraces_append_cons hclosed (depthAfter_of_isGap hc)] at hs
    rw [partedWords_gap hclosed hc, ← ih hs]
    by_cases hnil : p = []
    · rw [hnil, partedWords_nil, nil_meshed (partedWords_ne_nil _)]
      simp
    · rw [List.filter_cons_of_pos (by simpa using hnil)]
      cases hws : ps.filter (· ≠ []) with
      | nil =>
        rw [List.intercalate_singleton, List.intercalate_nil, partedWords_nil,
          meshed_nil (partedWords_ne_nil _)]
      | cons w ws =>
        rw [List.intercalate_cons_cons, List.append_assoc, List.singleton_append,
          partedWords_gap hclosed (by decide)]

/-- The words of a closed text are closed. -/
theorem openBraces_of_mem_wordsOf {s : List Char} (hs : openBraces s = 0) :
    ∀ w ∈ wordsOf s, openBraces w = 0 := by
  intro w hw
  rw [wordsOf_eq] at hw
  exact (cutInto_piecesOutside isGap 0 s).closed (by decide) hs w (List.mem_of_mem_filter hw)

theorem openBraces_intercalate {ws : List (List Char)} (h : ∀ w ∈ ws, openBraces w = 0) :
    openBraces ([' '].intercalate ws) = 0 := by
  induction ws with
  | nil => rfl
  | cons w ws ih =>
    obtain ⟨hw, hws⟩ := List.forall_mem_cons.1 h
    cases ws with
    | nil => rwa [List.intercalate_singleton]
    | cons v ws =>
      rw [List.intercalate_cons_cons, List.append_assoc, List.singleton_append,
        openBraces_append_cons hw rfl]
      exact ih hws

namespace Person

/-- The person that words in parts between commas stand for. -/
def ofPartedWords : List (List (List Char)) → Person
  | [] => {}
  | [words] => ofWords words
  | [family, given] => (withFamily {} family).withGiven given
  | family :: lineage :: given =>
      { (withFamily {} family).withGiven given.flatten with lineage := lineage }

/-- A closed name is read by its words and its commas. -/
theorem parse_eq {name : List Char} (h : openBraces name = 0) :
    parse name = ofPartedWords (partedWords name) := by
  have hpieces := cutInto_piecesOutside (· == ',') 0 name
  have hclosed := hpieces.closed rfl h
  unfold parse commaPieces partedWords
  generalize piecesOutside (· == ',') 0 name = ps at hpieces hclosed
  have hwords : ∀ p ∈ ps, wordsOf (trim p) = wordsOf p := fun p hp => wordsOf_trim (hclosed p hp)
  match ps with
  | [] => exact absurd rfl hpieces.ne_nil
  | [p] =>
    obtain rfl : p = name := by cases hpieces with
      | last => rfl
      | more _ _ _ h => exact absurd rfl h.ne_nil
    rfl
  | [p₀, p₁] => simp [ofPartedWords, hwords]
  | p₀ :: p₁ :: p₂ :: ps =>
    have hgiven : wordsOf ([' '].intercalate ((p₂ :: ps).map trim)) =
        ((p₂ :: ps).map wordsOf).flatten := by
      have hrest : ∀ p ∈ p₂ :: ps, p ∈ p₀ :: p₁ :: p₂ :: ps := by simp +contextual
      have hclosed : ∀ p ∈ (p₂ :: ps).map trim, openBraces p = 0 :=
        List.forall_mem_map.2 fun p hp => (openBraces_trim p).trans (hclosed p (hrest p hp))
      rw [wordsOf_intercalate fun p hp => hclosed p ((List.dropLast_subset _) hp),
        List.flatMap_def, List.map_map]
      exact congrArg List.flatten (List.map_congr_left fun p hp => hwords p (hrest p hp))
    simp only [List.map_cons] at hgiven ⊢
    simp only [ofPartedWords, hgiven, hwords, List.mem_cons, true_or, or_true]

/-- Names with the same words in the same parts are one name. -/
theorem parse_intercalate_wordsOf {name : List Char} (h : openBraces name = 0) :
    parse ([' '].intercalate (wordsOf name)) = parse name := by
  have hrow := openBraces_intercalate (openBraces_of_mem_wordsOf h)
  rw [parse_eq hrow, partedWords_intercalate_wordsOf h, parse_eq h]

end Person
end Citation
