import Citation.Person
import Mathlib.Data.List.TakeWhile

/-! Texts that are cut outside braces. The pieces stand between all the cuts, and so do the words of
a text, which are those of its parts if no brace is open between them. -/
namespace Citation

/-- The number of braces that are open behind a text. -/
def openBraces (s : List Char) : Nat := s.foldl (fun depth c => depthAfter c depth) 0

/-- The number of braces that are open behind a text, given those in front of it. -/
def depthBehind (depth : Nat) (s : List Char) : Nat :=
  s.foldl (fun depth c => depthAfter c depth) depth

/-! Pieces. -/

/-- No cut stands outside the braces of a text, in front of which some are open. -/
def Uncut (cut : Char → Bool) (depth : Nat) (s : List Char) : Prop :=
  ∀ u c v, s = u ++ c :: v → depthBehind depth u = 0 → cut c = false

/-- A text with its pieces, which stand between all the cuts outside braces. -/
inductive CutInto (cut : Char → Bool) : Nat → List Char → List (List Char) → Prop
  | last {depth : Nat} {s : List Char} (hs : Uncut cut depth s) : CutInto cut depth s [s]
  | more {depth : Nat} {p s : List Char} {c : Char} {ps : List (List Char)}
      (hp : Uncut cut depth p) (hclosed : depthBehind depth p = 0) (hc : cut c = true)
      (h : CutInto cut 0 s ps) : CutInto cut depth (p ++ c :: s) (p :: ps)

section
variable {cut : Char → Bool} {depth : Nat}

theorem uncut_nil : Uncut cut depth [] := by
  intro u c v h
  simp at h

theorem uncut_cons {c : Char} {s : List Char} : Uncut cut depth (c :: s) ↔
    ¬(depth = 0 ∧ cut c = true) ∧ Uncut cut (depthAfter c depth) s := by
  constructor
  · intro h
    refine ⟨fun ⟨hdepth, hc⟩ => ?_, fun u a v hs hu => h (c :: u) a v (by rw [hs]; rfl) hu⟩
    rw [h [] c s rfl hdepth] at hc
    cases hc
  · rintro ⟨hc, h⟩ u a v hs hu
    cases u with
    | nil =>
      obtain ⟨rfl, rfl⟩ := List.cons.inj hs
      simpa [show depth = 0 from hu] using hc
    | cons b u =>
      obtain ⟨rfl, rfl⟩ := List.cons.inj hs
      exact h u a v rfl hu

theorem uncut_append {s t : List Char} : Uncut cut depth (s ++ t) ↔
    Uncut cut depth s ∧ Uncut cut (depthBehind depth s) t := by
  induction s generalizing depth with
  | nil => simp [uncut_nil, depthBehind]
  | cons c s ih =>
    rw [List.cons_append, uncut_cons, uncut_cons, ih, and_assoc]
    rfl

theorem CutInto.extendFirst {c : Char} {s : List Char} {ps : List (List Char)}
    (hc : ¬(depth = 0 ∧ cut c = true)) (h : CutInto cut (depthAfter c depth) s ps) :
    CutInto cut depth (c :: s) (extendFirst c ps) := by
  cases h with
  | last hs => exact .last (uncut_cons.2 ⟨hc, hs⟩)
  | @more _ p s a ps hp hclosed ha h =>
    exact .more (p := c :: p) (uncut_cons.2 ⟨hc, hp⟩) hclosed ha h

/-- Cutting a text gives its pieces. -/
theorem cutInto_piecesOutside (cut : Char → Bool) (depth : Nat) (s : List Char) :
    CutInto cut depth s (piecesOutside cut depth s) := by
  induction s generalizing depth with
  | nil => exact .last uncut_nil
  | cons c s ih =>
    rw [piecesOutside]
    split
    · next hc =>
      obtain ⟨rfl, hc⟩ := hc
      exact .more (p := []) uncut_nil rfl hc (ih 0)
    · next hc => exact (ih _).extendFirst hc

theorem foldr_extendFirst (p q : List Char) (ps : List (List Char)) :
    p.foldr extendFirst (q :: ps) = (p ++ q) :: ps := by
  induction p with
  | nil => rfl
  | cons c p ih => rw [List.foldr_cons, ih]; rfl

theorem piecesOutside_append {p : List Char} (hp : Uncut cut depth p) (s : List Char) :
    piecesOutside cut depth (p ++ s) =
      p.foldr extendFirst (piecesOutside cut (depthBehind depth p) s) := by
  induction p generalizing depth with
  | nil => rfl
  | cons c p ih =>
    obtain ⟨hc, hp⟩ := uncut_cons.1 hp
    rw [List.cons_append, piecesOutside, if_neg hc, ih hp]
    rfl

/-- A text has no other pieces than those that cutting gives. -/
theorem CutInto.eq {s : List Char} {ps : List (List Char)} (h : CutInto cut depth s ps) :
    piecesOutside cut depth s = ps := by
  induction h with
  | @last depth s hs =>
    have hpieces := piecesOutside_append hs []
    rwa [List.append_nil, piecesOutside, foldr_extendFirst, List.append_nil] at hpieces
  | @more depth p s c ps hp hclosed hc _ ih =>
    rw [piecesOutside_append hp, hclosed, piecesOutside, if_pos ⟨rfl, hc⟩, foldr_extendFirst, ih,
      List.append_nil]

/-- No brace is open behind a piece but the last. -/
theorem CutInto.openBraces_eq {s : List Char} {ps : List (List Char)} (h : CutInto cut 0 s ps) :
    ∀ p ∈ ps.dropLast, openBraces p = 0 := by
  generalize hdepth : (0 : Nat) = depth at h
  induction h with
  | last => simp
  | @more depth p s c ps hp hclosed hc h ih =>
    subst hdepth
    have hps : ps ≠ [] := by cases h <;> simp
    rw [List.dropLast_cons_of_ne_nil hps]
    exact List.forall_mem_cons.2 ⟨hclosed, ih rfl⟩

theorem depthBehind_append (s t : List Char) :
    depthBehind depth (s ++ t) = depthBehind (depthBehind depth s) t := by
  rw [depthBehind, List.foldl_append]
  rfl

/-- A cut outside braces parts the pieces in front of it from those behind it. -/
theorem CutInto.append (hopen : cut '\x7b' = false) {s t : List Char} {c : Char}
    {ps qs : List (List Char)} (h : CutInto cut depth s ps) (hs : depthBehind depth s = 0)
    (hc : cut c = true) (ht : CutInto cut 0 t qs) : CutInto cut depth (s ++ c :: t) (ps ++ qs) := by
  induction h with
  | last huncut => exact .more huncut hs hc ht
  | @more depth p s a ps hp hclosed ha _ ih =>
    have hdepth : depthAfter a 0 = 0 := by
      have hne : a ≠ '\x7b' := fun hne => by simp [hne, hopen] at ha
      simp [depthAfter, hne]
    have hstep : depthBehind 0 (a :: s) = depthBehind 0 s := by
      rw [depthBehind, List.foldl_cons, hdepth]
      rfl
    rw [depthBehind_append, hclosed, hstep] at hs
    rw [List.append_assoc, List.cons_append, List.cons_append]
    exact .more hp hclosed ha (ih hs)

end

/-! Words. -/

/-- White space or a tie. -/
def isGap (c : Char) : Bool := isWhitespace c || c == '~'

theorem isGap_of_isWhitespace {c : Char} (h : isWhitespace c = true) : isGap c = true := by
  simp [isGap, h]

theorem wordsOf_eq (s : List Char) : wordsOf s = (piecesOutside isGap 0 s).filter (· ≠ []) := rfl

/-- A gap outside braces parts the words in front of it from those behind it. -/
theorem wordsOf_append_cons {s : List Char} (hs : openBraces s = 0) {c : Char}
    (hc : isGap c = true) (t : List Char) :
    wordsOf (s ++ c :: t) = wordsOf s ++ wordsOf t := by
  have hpieces := (cutInto_piecesOutside isGap 0 s).append (by decide) hs hc
    (cutInto_piecesOutside isGap 0 t)
  rw [wordsOf_eq, hpieces.eq, List.filter_append, wordsOf_eq, wordsOf_eq]

theorem wordsOf_gaps {s : List Char} (hs : ∀ c ∈ s, isGap c = true) : wordsOf s = [] := by
  induction s with
  | nil => rfl
  | cons c s ih =>
    obtain ⟨hc, hs⟩ := List.forall_mem_cons.1 hs
    exact (wordsOf_append_cons (s := []) rfl hc s).trans (ih hs)

theorem wordsOf_gaps_append {l : List Char} (hl : ∀ c ∈ l, isGap c = true) (s : List Char) :
    wordsOf (l ++ s) = wordsOf s := by
  induction l with
  | nil => rfl
  | cons c l ih =>
    obtain ⟨hc, hl⟩ := List.forall_mem_cons.1 hl
    exact (wordsOf_append_cons (s := []) rfl hc (l ++ s)).trans (ih hl)

theorem wordsOf_append_gaps {s r : List Char} (hs : openBraces s = 0)
    (hr : ∀ c ∈ r, isGap c = true) : wordsOf (s ++ r) = wordsOf s := by
  cases r with
  | nil => rw [List.append_nil]
  | cons c r =>
    obtain ⟨hc, hr⟩ := List.forall_mem_cons.1 hr
    rw [wordsOf_append_cons hs hc, wordsOf_gaps hr, List.append_nil]

/-! Trimming. -/

theorem wordsOf_trimStart (s : List Char) : wordsOf (trimStart s) = wordsOf s := by
  have hfront : ∀ c ∈ s.takeWhile isWhitespace, isGap c = true := fun c hc =>
    isGap_of_isWhitespace (List.mem_takeWhile_imp hc)
  calc wordsOf (trimStart s) = wordsOf (s.takeWhile isWhitespace ++ s.dropWhile isWhitespace) :=
        (wordsOf_gaps_append hfront _).symm
    _ = wordsOf s := by rw [List.takeWhile_append_dropWhile]

theorem depthBehind_of_isWhitespace {s : List Char} (hs : ∀ c ∈ s, isWhitespace c = true)
    (depth : Nat) : depthBehind depth s = depth := by
  induction s with
  | nil => rfl
  | cons c s ih =>
    obtain ⟨hc, hs⟩ := List.forall_mem_cons.1 hs
    have hdepth : depthAfter c depth = depth := by
      rw [depthAfter, if_neg, if_neg] <;> rintro rfl <;> cases hc
    rw [depthBehind, List.foldl_cons, hdepth]
    exact ih hs

/-- A text is what trimming leaves with white space around it. -/
theorem exists_trim (s : List Char) : ∃ l r, (∀ c ∈ l, isWhitespace c = true) ∧
    (∀ c ∈ r, isWhitespace c = true) ∧ s = l ++ (trim s ++ r) := by
  refine ⟨s.takeWhile isWhitespace, ((trimStart s).reverse.takeWhile isWhitespace).reverse,
    fun c => List.mem_takeWhile_imp, ?_, ?_⟩
  · intro c hc
    exact List.mem_takeWhile_imp (List.mem_reverse.1 hc)
  · rw [trim, trimEnd, ← List.reverse_append, List.takeWhile_append_dropWhile, List.reverse_reverse,
      trimStart, List.takeWhile_append_dropWhile]

theorem openBraces_trim (s : List Char) : openBraces (trim s) = openBraces s := by
  obtain ⟨l, r, hl, hr, hs⟩ := exists_trim s
  calc depthBehind 0 (trim s) = depthBehind 0 (l ++ (trim s ++ r)) := by
        rw [depthBehind_append, depthBehind_append, depthBehind_of_isWhitespace hl,
          depthBehind_of_isWhitespace hr]
    _ = depthBehind 0 s := by rw [← hs]

/-- Words stay when a text is trimmed, unless a brace is open at its end. -/
theorem wordsOf_trim {s : List Char} (hs : openBraces s = 0) : wordsOf (trim s) = wordsOf s := by
  obtain ⟨l, r, hl, hr, heq⟩ := exists_trim s
  have hl : ∀ c ∈ l, isGap c = true := fun c hc => isGap_of_isWhitespace (hl c hc)
  have hr : ∀ c ∈ r, isGap c = true := fun c hc => isGap_of_isWhitespace (hr c hc)
  calc wordsOf (trim s) = wordsOf (l ++ (trim s ++ r)) := by
        rw [wordsOf_gaps_append hl, wordsOf_append_gaps (by rwa [openBraces_trim]) hr]
    _ = wordsOf s := by rw [← heq]

/-- Texts in a row have the words of all if no brace is open behind one but the last. -/
theorem wordsOf_intercalate {ps : List (List Char)} (h : ∀ p ∈ ps.dropLast, openBraces p = 0) :
    wordsOf ([' '].intercalate ps) = ps.flatMap wordsOf := by
  induction ps with
  | nil => rfl
  | cons p ps ih =>
    cases ps with
    | nil => simp only [List.intercalate_singleton, List.flatMap_singleton]
    | cons q qs =>
      obtain ⟨hp, hps⟩ := List.forall_mem_cons.1 h
      rw [List.intercalate_cons_cons, List.append_assoc, List.singleton_append, List.flatMap_cons,
        ← ih hps]
      exact wordsOf_append_cons hp (c := ' ') (by decide) _

end Citation
