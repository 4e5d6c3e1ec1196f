import Citation.Proofs.Names

/-! The three written forms of a name. Whatever gaps its words are set out with, `First von Last`,
`von Last, First` and `von Last, Jr, First` are read as one person. -/
namespace Citation

/-! Words and how they are set out. -/

/-- A text of balanced groups in braces, and outside them characters of a class. -/
inductive Grouped : (Char → Prop) → List Char → Prop
  | nil {plain : Char → Prop} : Grouped plain []
  | char {plain : Char → Prop} {c : Char} {s : List Char} (hc : plain c) (hopen : c ≠ '{')
      (hclose : c ≠ '}') (h : Grouped plain s) : Grouped plain (c :: s)
  | group {plain : Char → Prop} {body s : List Char} (hbody : Grouped (fun _ => True) body)
      (h : Grouped plain s) : Grouped plain ('{' :: (body ++ '}' :: s))

/-- A word has no white space, tie or comma outside its braces. -/
structure IsNameWord (w : List Char) : Prop where
  ne_nil : w ≠ []
  grouped : Grouped (fun c => isGap c = false ∧ c ≠ ',') w

/-- A text in which words stand with gaps between them, and maybe around them. -/
inductive SetOut : List (List Char) → List Char → Prop
  | nil {gap : List Char} (hgap : ∀ c ∈ gap, isGap c = true) : SetOut [] gap
  | cons {gap w s : List Char} {ws : List (List Char)} (hgap : ∀ c ∈ gap, isGap c = true)
      (hs : ∀ c ∈ s.head?, isGap c = true) (h : SetOut ws s) : SetOut (w :: ws) (gap ++ (w ++ s))

theorem Grouped.mono {plain plain' : Char → Prop} (hplain : ∀ c, plain c → plain' c)
    {s : List Char} (h : Grouped plain s) : Grouped plain' s := by
  induction h with
  | nil => exact .nil
  | char hc hopen hclose _ ih => exact .char (hplain _ hc) hopen hclose (ih hplain)
  | group hbody _ _ ih => exact .group hbody (ih hplain)

theorem Grouped.append {plain : Char → Prop} {s t : List Char} (h : Grouped plain s)
    (ht : Grouped plain t) : Grouped plain (s ++ t) := by
  induction h with
  | nil => exact ht
  | char hc hopen hclose _ ih => exact .char hc hopen hclose (ih ht)
  | @group plain body s hbody _ _ ih =>
    rw [List.cons_append, List.append_assoc, List.cons_append]
    exact .group hbody (ih ht)

theorem grouped_of_all {plain : Char → Prop} {s : List Char}
    (h : ∀ c ∈ s, plain c ∧ c ≠ '{' ∧ c ≠ '}') : Grouped plain s := by
  induction s with
  | nil => exact .nil
  | cons c s ih =>
    obtain ⟨⟨hc, hopen, hclose⟩, hs⟩ := List.forall_mem_cons.1 h
    exact .char hc hopen hclose (ih hs)

/-- In balanced groups nothing is cut, and none is open behind them. -/
theorem Grouped.uncut {cut : Char → Bool} (hopen : cut '{' = false) {plain : Char → Prop}
    {s : List Char} (h : Grouped plain s) {depth : Nat}
    (hplain : depth = 0 → ∀ c, plain c → cut c = false) :
    Uncut cut depth s ∧ depthBehind depth s = depth := by
  induction h generalizing depth with
  | nil => exact ⟨uncut_nil, rfl⟩
  | @char plain c s hc hne hne' _ ih =>
    have hdepth : depthAfter c depth = depth := by rw [depthAfter, if_neg hne, if_neg hne']
    obtain ⟨huncut, hbehind⟩ := ih hplain
    refine ⟨uncut_cons.2 ⟨?_, by rwa [hdepth]⟩, ?_⟩
    · rintro ⟨hzero, hcut⟩
      rw [hplain hzero c hc] at hcut
      cases hcut
    · rw [depthBehind, List.foldl_cons, hdepth]
      exact hbehind
  | @group plain body s _ _ ihbody ih =>
    obtain ⟨hbody, hclosed⟩ := @ihbody (depth + 1) (fun hzero => absurd hzero (Nat.succ_ne_zero _))
    obtain ⟨huncut, hbehind⟩ := ih hplain
    have hclose : depthAfter '}' (depth + 1) = depth := rfl
    constructor
    · refine uncut_cons.2 ⟨?_, uncut_append.2 ⟨hbody, ?_⟩⟩
      · rintro ⟨-, hcut⟩
        rw [hopen] at hcut
        cases hcut
      · show Uncut cut (depthBehind (depth + 1) body) _
        rw [hclosed]
        exact uncut_cons.2 ⟨fun h => Nat.succ_ne_zero _ h.1, by rwa [hclose]⟩
    · show depthBehind (depth + 1) (body ++ '}' :: s) = depth
      rw [depthBehind_append, hclosed]
      exact hbehind

theorem Grouped.openBraces_eq {plain : Char → Prop} {s : List Char} (h : Grouped plain s) :
    openBraces s = 0 := by
  have hnone : Uncut (fun _ => false) 0 s ∧ depthBehind 0 s = 0 := h.uncut rfl fun _ _ _ => rfl
  exact hnone.2

theorem wordsOf_of_isNameWord {w : List Char} (h : IsNameWord w) : wordsOf w = [w] := by
  have huncut : Uncut isGap 0 w ∧ depthBehind 0 w = 0 :=
    h.grouped.uncut (by decide) fun _ _ hc => hc.1
  rw [wordsOf_eq, (CutInto.last huncut.1).eq]
  simp [h.ne_nil]

theorem wordsOf_of_setOut {ws : List (List Char)} {s : List Char} (h : SetOut ws s)
    (hws : ∀ w ∈ ws, IsNameWord w) : wordsOf s = ws := by
  induction h with
  | nil hgap => exact wordsOf_gaps hgap
  | @cons gap w s ws hgap hs _ ih =>
    obtain ⟨hw, hws⟩ := List.forall_mem_cons.1 hws
    have hrest := ih hws
    rw [wordsOf_gaps_append hgap]
    cases s with
    | nil => rw [List.append_nil, wordsOf_of_isNameWord hw, ← hrest]; rfl
    | cons c s =>
      have hc : isGap c = true := hs c rfl
      have hbehind : wordsOf (c :: s) = wordsOf s := wordsOf_append_cons (s := []) rfl hc s
      rw [wordsOf_append_cons hw.grouped.openBraces_eq hc, wordsOf_of_isNameWord hw, ← hbehind,
        hrest]
      rfl

theorem grouped_gap {gap : List Char} (h : ∀ c ∈ gap, isGap c = true) :
    Grouped (· ≠ ',') gap := by
  refine grouped_of_all fun c hc => ⟨?_, ?_, ?_⟩
  all_goals
    rintro rfl
    have hgap := h _ hc
    revert hgap
    decide

theorem SetOut.grouped {ws : List (List Char)} {s : List Char} (h : SetOut ws s)
    (hws : ∀ w ∈ ws, IsNameWord w) : Grouped (· ≠ ',') s := by
  induction h with
  | nil hgap => exact grouped_gap hgap
  | cons hgap _ _ ih =>
    obtain ⟨hw, hws⟩ := List.forall_mem_cons.1 hws
    exact (grouped_gap hgap).append ((hw.grouped.mono fun _ hc => hc.2).append (ih hws))

/-! Pieces between commas. -/

theorem Grouped.uncut_comma {s : List Char} (h : Grouped (· ≠ ',') s) :
    Uncut (· == ',') 0 s := by
  have huncut : Uncut (· == ',') 0 s ∧ depthBehind 0 s = 0 :=
    h.uncut rfl fun _ c hc => by simpa using hc
  exact huncut.1

theorem commaPieces_of_grouped {s : List Char} (h : Grouped (· ≠ ',') s) :
    commaPieces s = [trim s] := by
  rw [commaPieces, (CutInto.last h.uncut_comma).eq]
  rfl

theorem commaPieces_append {s : List Char} (h : Grouped (· ≠ ',') s) (t : List Char) :
    commaPieces (s ++ ',' :: t) = trim s :: commaPieces t := by
  have hpieces : CutInto (· == ',') 0 (s ++ ',' :: t) (s :: piecesOutside (· == ',') 0 t) :=
    .more h.uncut_comma h.openBraces_eq rfl (cutInto_piecesOutside _ 0 t)
  rw [commaPieces, hpieces.eq]
  rfl

theorem wordsOf_trim_of_setOut {ws : List (List Char)} {s : List Char} (h : SetOut ws s)
    (hws : ∀ w ∈ ws, IsNameWord w) : wordsOf (trim s) = ws := by
  rw [wordsOf_trim (h.grouped hws).openBraces_eq, wordsOf_of_setOut h hws]

/-! Persons. -/

namespace Person

/-- The family part is cut behind its last particle. -/
theorem withFamily_append {particles family : List (List Char)}
    (hlast : ∀ w ∈ particles.getLast?, isParticle w = true)
    (hfamily : ∀ w ∈ family, isParticle w = false) (hne : family ≠ []) (p : Person) :
    p.withFamily (particles ++ family) = { p with particles := particles, family := family } := by
  have hall : ∀ w ∈ family.reverse, (!isParticle w) = true := by simpa using hfamily
  have hstop : particles.reverse.takeWhile (!isParticle ·) = [] ∧
      particles.reverse.dropWhile (!isParticle ·) = particles.reverse := by
    rcases List.eq_nil_or_concat' particles with rfl | ⟨ws, w, rfl⟩
    · exact ⟨rfl, rfl⟩
    · have hw : isParticle w = true := hlast w (by simp)
      simp [hw]
  unfold withFamily
  rw [List.reverse_append, List.takeWhile_append_of_pos hall, List.dropWhile_append_of_pos hall,
    hstop.1, hstop.2, List.append_nil, List.reverse_reverse, List.reverse_reverse]
  cases family with
  | nil => exact absurd rfl hne
  | cons w ws => rfl

/-- Without commas the family part starts at the first particle, or is the last word. -/
theorem ofWords_append {given particles family : List (List Char)}
    (hgiven : ∀ w ∈ given, isParticle w = false) (hfamily : ∀ w ∈ family, isParticle w = false)
    (hfirst : ∀ w ∈ particles.head?, isParticle w = true)
    (hone : particles = [] → family.length = 1) :
    ofWords (given ++ (particles ++ family)) =
      (withFamily {} (particles ++ family)).withGiven given := by
  have hall : ∀ w ∈ given, (!isParticle w) = true := by simpa using hgiven
  unfold ofWords
  rw [List.takeWhile_append_of_pos hall, List.dropWhile_append_of_pos hall]
  cases particles with
  | nil =>
    obtain ⟨w, rfl⟩ := List.length_eq_one_iff.1 (hone rfl)
    have hw : isParticle w = false := hfamily w (by simp)
    simp [hw, withFamily_withGiven]
  | cons w ws =>
    have hw : isParticle w = true := hfirst w rfl
    simp [hw, withFamily_withGiven]

/-- Words for the parts of a name. Only particles look like particles, but between two of them
others may stand, and without any the family name is one word. -/
structure NameParts (given particles family lineage : List (List Char)) : Prop where
  givenWords : ∀ w ∈ given, IsNameWord w ∧ isParticle w = false
  particleWords : ∀ w ∈ particles, IsNameWord w
  familyWords : ∀ w ∈ family, IsNameWord w ∧ isParticle w = false
  lineageWords : ∀ w ∈ lineage, IsNameWord w
  family_ne_nil : family ≠ []
  first : ∀ w ∈ particles.head?, isParticle w = true
  last : ∀ w ∈ particles.getLast?, isParticle w = true
  one : particles = [] → family.length = 1

/-- A name in the three forms, its words set out in any way, is read as one person. -/
theorem parse_forms {given particles family lineage : List (List Char)}
    (h : NameParts given particles family lineage) :
    let person : Person := ⟨given.take 1, given.drop 1, particles, family, []⟩
    (∀ s, SetOut (given ++ (particles ++ family)) s → parse s = person) ∧
      (∀ s t, SetOut (particles ++ family) s → SetOut given t →
        parse (s ++ ',' :: t) = person) ∧
      ∀ s t u, SetOut (particles ++ family) s → SetOut lineage t → SetOut given u →
        parse (s ++ ',' :: (t ++ ',' :: u)) = { person with lineage := lineage } := by
  intro person
  have hgiven : ∀ w ∈ given, isParticle w = false := fun w hw => (h.givenWords w hw).2
  have hfamily : ∀ w ∈ family, isParticle w = false := fun w hw => (h.familyWords w hw).2
  have hgivenWords : ∀ w ∈ given, IsNameWord w := fun w hw => (h.givenWords w hw).1
  have hfamilyWords : ∀ w ∈ particles ++ family, IsNameWord w :=
    List.forall_mem_append.2 ⟨h.particleWords, fun w hw => (h.familyWords w hw).1⟩
  have hall : ∀ w ∈ given ++ (particles ++ family), IsNameWord w :=
    List.forall_mem_append.2 ⟨hgivenWords, hfamilyWords⟩
  have hperson : (withFamily {} (particles ++ family)).withGiven given = person := by
    rw [withFamily_append h.last hfamily h.family_ne_nil]
    rfl
  refine ⟨fun s hs => ?_, fun s t hs ht => ?_, fun s t u hs ht hu => ?_⟩
  · have hpieces := commaPieces_of_grouped (hs.grouped hall)
    rw [parse, hpieces, ← hperson, ← ofWords_append hgiven hfamily h.first h.one,
      wordsOf_of_setOut hs hall]
  · have hpieces : commaPieces (s ++ ',' :: t) = [trim s, trim t] := by
      rw [commaPieces_append (hs.grouped hfamilyWords),
        commaPieces_of_grouped (ht.grouped hgivenWords)]
    rw [parse, hpieces, ← hperson]
    simp only [wordsOf_trim_of_setOut hs hfamilyWords, wordsOf_trim_of_setOut ht hgivenWords]
  · have hpieces : commaPieces (s ++ ',' :: (t ++ ',' :: u)) = [trim s, trim t, trim u] := by
      rw [commaPieces_append (hs.grouped hfamilyWords),
        commaPieces_append (ht.grouped h.lineageWords),
        commaPieces_of_grouped (hu.grouped hgivenWords)]
    rw [parse, hpieces, ← hperson]
    simp only [wordsOf_trim_of_setOut hs hfamilyWords, wordsOf_trim_of_setOut ht h.lineageWords,
      wordsOf_trim_of_setOut hu hgivenWords, List.intercalate_singleton]

/-- Any words can be set out, with one gap in front of each. -/
theorem setOut_flatMap {gap : List Char} (hne : gap ≠ []) (hgap : ∀ c ∈ gap, isGap c = true)
    (ws : List (List Char)) : SetOut ws (ws.flatMap (gap ++ ·)) := by
  induction ws with
  | nil => exact .nil (by simp)
  | cons w ws ih =>
    rw [List.flatMap_cons, List.append_assoc]
    refine .cons hgap ?_ ih
    cases ws with
    | nil => simp
    | cons w' ws =>
      cases gap with
      | nil => exact absurd rfl hne
      | cons c gap => simpa using hgap c (.head _)

/-- An accented letter in braces. -/
def emile : List Char := '{' :: ("\\'E".toList ++ '}' :: "mile".toList)

def barnes : List Char := '{' :: ("Barnes, de".toList ++ '}' :: [])

def emileGiven : List (List Char) := [emile, "Jean".toList]

def emileParticles : List (List Char) := ["de".toList, "La".toList, "la".toList]

def emileFamily : List (List Char) := ["Poussin".toList, barnes]

def wide (ws : List (List Char)) : List Char := ws.flatMap ("~ ".toList ++ ·)

theorem nameParts_emile : NameParts emileGiven emileParticles emileFamily ["Jr.".toList] := by
  have hgrouped {plain : Char → Prop} [DecidablePred plain] {w : List Char}
      (h : w.all (fun c => plain c ∧ c ≠ '{' ∧ c ≠ '}') = true) : Grouped plain w :=
    grouped_of_all (by simpa using h)
  have hplain {w : List Char} (hne : w ≠ [])
      (h : w.all (fun c => (isGap c = false ∧ c ≠ ',') ∧ c ≠ '{' ∧ c ≠ '}') = true) :
      IsNameWord w :=
    ⟨hne, hgrouped h⟩
  have hemile : IsNameWord emile :=
    ⟨by decide, .group (hgrouped (by decide)) (hgrouped (by decide))⟩
  have hbarnes : IsNameWord barnes := ⟨by decide, .group (hgrouped (by decide)) .nil⟩
  exact {
    givenWords := by
      simp only [emileGiven, List.forall_mem_cons]
      exact ⟨⟨hemile, by decide +kernel⟩, ⟨hplain (by decide) (by decide), by decide +kernel⟩,
        by simp⟩
    particleWords := by
      simp only [emileParticles, List.forall_mem_cons]
      exact ⟨hplain (by decide) (by decide), hplain (by decide) (by decide),
        hplain (by decide) (by decide), by simp⟩
    familyWords := by
      simp only [emileFamily, List.forall_mem_cons]
      exact ⟨⟨hplain (by decide) (by decide), by decide +kernel⟩, ⟨hbarnes, by decide +kernel⟩,
        by simp⟩
    lineageWords := by
      simp only [List.forall_mem_cons]
      exact ⟨hplain (by decide) (by decide), by simp⟩
    family_ne_nil := by decide
    first := by decide +kernel
    last := by decide +kernel
    one := by decide }

theorem parse_forms_emile :
    NameParts emileGiven emileParticles emileFamily ["Jr.".toList] ∧
      parse (wide (emileGiven ++ (emileParticles ++ emileFamily))) =
        ⟨[emile], ["Jean".toList], emileParticles, emileFamily, []⟩ ∧
      parse (wide (emileParticles ++ emileFamily) ++ ',' :: wide emileGiven) =
        ⟨[emile], ["Jean".toList], emileParticles, emileFamily, []⟩ ∧
      parse (wide (emileParticles ++ emileFamily) ++ ',' ::
          (wide ["Jr.".toList] ++ ',' :: wide emileGiven)) =
        ⟨[emile], ["Jean".toList], emileParticles, emileFamily, ["Jr.".toList]⟩ := by
  have hwide (ws : List (List Char)) : SetOut ws (wide ws) :=
    setOut_flatMap (by decide) (List.all_eq_true.1 (by decide)) ws
  obtain ⟨hnone, hone, htwo⟩ := parse_forms nameParts_emile
  exact ⟨nameParts_emile, hnone _ (hwide _), hone _ _ (hwide _) (hwide _),
    htwo _ _ _ (hwide _) (hwide _) (hwide _)⟩

end Person
end Citation
