import Citation.Proofs.Ordering

/-! The order of authors. Words, parts of names and names are set in a row with one, two and three
spaces between them, and compared as one text. That is the lexicographic order of the names as lists
of lists of words, since no character of a word comes before the space. -/
namespace Citation
open Unicode

/-! Normalizing word by word. -/

theorem meetsCased_space (s t : List Char) : meetsCased (s ++ ' ' :: t) = meetsCased s := by
  have hspace : isCaseIgnorable ' ' = false ∧ isCased ' ' = false := by decide +kernel
  induction s with
  | nil => simp [meetsCased, hspace]
  | cons c s ih =>
    cases hc : isCaseIgnorable c with
    | false => simp [meetsCased, hc]
    | true => simpa [meetsCased, hc] using ih

theorem lowerAfter_behind_space (s before t : List Char) :
    lowerAfter (before ++ ' ' :: t) s = lowerAfter before s := by
  induction s generalizing before with
  | nil => rfl
  | cons c s ih =>
    have hend : endsWord (before ++ ' ' :: t) s = endsWord before s := by
      simp only [endsWord, meetsCased_space]
    rw [lowerAfter, lowerAfter, hend, ← List.cons_append, ih]

theorem lowerAfter_space (s before t : List Char) :
    lowerAfter before (s ++ ' ' :: t) = lowerAfter before s ++ ' ' :: lower t := by
  induction s generalizing before with
  | nil => exact congrArg (List.cons ' ') (lowerAfter_behind_space t [] before)
  | cons c s ih =>
    have hend : endsWord before (s ++ ' ' :: t) = endsWord before s := by
      simp only [endsWord, meetsCased_space]
    rw [List.cons_append, lowerAfter, lowerAfter, hend, ih, List.append_assoc]

/-- A space parts a text into two that are normalized on their own. -/
theorem normalized_space (s t : List Char) :
    normalized (s ++ ' ' :: t) = normalized s ++ ' ' :: normalized t := by
  have hspace : withoutMarks (s ++ ' ' :: t) = withoutMarks s ++ ' ' :: withoutMarks t := by
    simp [withoutMarks, compatibilityDecomposition, isMark]
  rw [normalized, hspace]
  exact lowerAfter_space (withoutMarks s) [] (withoutMarks t)

theorem normalized_intercalate (ws : List (List Char)) :
    normalized ([' '].intercalate ws) = [' '].intercalate (ws.map normalized) := by
  induction ws with
  | nil => rfl
  | cons w ws ih =>
    cases ws with
    | nil => simp
    | cons v ws =>
      simp only [List.map_cons] at ih ⊢
      simp only [List.intercalate_cons_cons, List.append_assoc, List.singleton_append,
        normalized_space, ih]

namespace Person

/-- The words of a name as they are compared. -/
def orderWords (words : List (List Char)) : List (List Char) :=
  words.map fun w => normalized (Latex.plain w)

/-- Family name, given names and lineage, in words. -/
def orderParts (p : Person) : List (List (List Char)) :=
  [orderWords (p.particles ++ p.family), orderWords p.given, orderWords p.lineage]

/-- What an entry is ordered by that has these principals. -/
def listKey (ps : List Person) : List Char := [' ', ' ', ' '].intercalate (ps.map orderKey)

theorem authorKey_eq {e : Entry} {ps : List Person} (h : e.principals = some ps) :
    e.authorKey = listKey ps := by
  rw [Entry.authorKey, h]
  rfl

theorem orderKey_eq (p : Person) : p.orderKey =
    [' '].intercalate (orderWords (p.particles ++ p.family)) ++ ' ' :: ' ' ::
      ([' '].intercalate (orderWords p.given) ++ ' ' :: ' ' ::
        [' '].intercalate (orderWords p.lineage)) := by
  have hgap (s t : List Char) :
      normalized (s ++ ' ' :: ' ' :: t) = normalized s ++ ' ' :: ' ' :: normalized t := by
    rw [normalized_space]
    exact congrArg (normalized s ++ ' ' :: ·) (normalized_space [] t)
  have hwords (words : List (List Char)) :
      normalized ([' '].intercalate (words.map Latex.plain)) =
        [' '].intercalate (orderWords words) := by
    rw [normalized_intercalate, List.map_map]
    rfl
  simp only [orderKey, List.intercalate_cons_cons, List.intercalate_singleton, List.append_assoc,
    List.cons_append, List.nil_append, hgap, hwords]

end Person

/-! Rows of texts. -/

theorem intercalate_cons_eq (sep w : List Char) (ws : List (List Char)) :
    sep.intercalate (w :: ws) = w ++ ws.flatMap (sep ++ ·) := by
  induction ws generalizing w with
  | nil => simp
  | cons v ws ih =>
    rw [List.intercalate_cons_cons, ih, List.flatMap_cons]
    simp only [List.append_assoc]

theorem append_lt_append_iff {α : Type} [LinearOrder α] (s : List α) {t u : List α} :
    s ++ t < s ++ u ↔ t < u := by
  induction s with
  | nil => rfl
  | cons a s ih => simp [ih]

theorem nil_lt_of_ne {α : Type} [LinearOrder α] {s : List α} (h : s ≠ []) : [] < s := by
  obtain ⟨a, s, rfl⟩ := List.exists_cons_of_ne_nil h
  exact List.nil_lt_cons a s

section Rows

variable {α β : Type} [LinearOrder β] {sep : List Char} {f : α → List Char} {g : α → β}
  {Good : α → Prop} {Inner Outer : List Char → Prop}

/-- The text `f x` stands for `g x` in front of any such rest: texts are compared as what they
stand for, and by their rests where that is the same. -/
def Faithful (f : α → List Char) (g : α → β) (Good : α → Prop) (Rest : List Char → Prop) : Prop :=
  ∀ ⦃x y⦄, Good x → Good y → ∀ ⦃s t⦄, Rest s → Rest t →
    (f x ++ s < f y ++ t ↔ g x < g y ∨ g x = g y ∧ s < t)

/-- The end of a row comes before its first text and before a text more. -/
structure Separates (sep : List Char) (f : α → List Char) (Good : α → Prop)
    (Inner Outer : List Char → Prop) : Prop where
  between : ∀ s, Inner (sep ++ s)
  behind : ∀ {s}, Outer s → Inner s
  lt_first : ∀ {s x}, Outer s → Good x → ∀ t, s < f x ++ t
  lt_next : ∀ {s x}, Outer s → Good x → ∀ t, s < sep ++ (f x ++ t)

theorem Separates.inner_further (h : Separates sep f Good Inner Outer) {s : List Char}
    (hs : Outer s) (xs : List α) : Inner ((xs.map f).flatMap (sep ++ ·) ++ s) := by
  cases xs with
  | nil => exact h.behind hs
  | cons x xs => simpa using h.between _

/-- A row without its first text. -/
theorem Faithful.further (h : Faithful f g Good Inner) (hsep : Separates sep f Good Inner Outer) :
    Faithful (fun xs => (xs.map f).flatMap (sep ++ ·)) (List.map g) (∀ x ∈ ·, Good x) Outer := by
  intro xs
  induction xs with
  | nil =>
    intro ys hxs hys s t hs ht
    cases ys with
    | nil => simp
    | cons y ys =>
      have hy : Good y := hys y (.head _)
      simpa using hsep.lt_next hs hy _
  | cons x xs ih =>
    intro ys hxs hys s t hs ht
    obtain ⟨hx, hxs⟩ := List.forall_mem_cons.1 hxs
    cases ys with
    | nil => simpa using (hsep.lt_next ht hx _).le
    | cons y ys =>
      obtain ⟨hy, hys⟩ := List.forall_mem_cons.1 hys
      have hfirst := h hx hy (hsep.inner_further hs xs) (hsep.inner_further ht ys)
      have hrest := ih hxs hys hs ht
      dsimp only at hrest
      simp only [List.map_cons, List.flatMap_cons, List.append_assoc, append_lt_append_iff,
        hfirst, hrest, List.cons_lt_cons_iff, List.cons.injEq, and_or_left, or_assoc,
        and_assoc]

theorem Faithful.row (h : Faithful f g Good Inner) (hsep : Separates sep f Good Inner Outer) :
    Faithful (fun xs => sep.intercalate (xs.map f)) (List.map g) (∀ x ∈ ·, Good x) Outer := by
  intro xs ys hxs hys s t hs ht
  cases xs with
  | nil =>
    cases ys with
    | nil => simp
    | cons y ys =>
      have hy : Good y := hys y (.head _)
      simpa [intercalate_cons_eq] using hsep.lt_first hs hy _
  | cons x xs =>
    obtain ⟨hx, hxs⟩ := List.forall_mem_cons.1 hxs
    cases ys with
    | nil => simpa [intercalate_cons_eq] using (hsep.lt_first ht hx _).le
    | cons y ys =>
      obtain ⟨hy, hys⟩ := List.forall_mem_cons.1 hys
      have hfirst := h hx hy (hsep.inner_further hs xs) (hsep.inner_further ht ys)
      have hrest := h.further hsep hxs hys hs ht
      dsimp only at hrest
      simp only [List.map_cons, intercalate_cons_eq, List.append_assoc, hfirst, hrest,
        List.cons_lt_cons_iff, List.cons.injEq, and_or_left, or_assoc,
        and_assoc]

end Rows

/-! Words, names and lists of names. -/

/-- A word as it is compared: not empty, and all of its characters come behind the space. -/
structure IsBare (w : List Char) : Prop where
  ne_nil : w ≠ []
  above : ∀ c ∈ w, ' ' < c

theorem isBare_iff {w : List Char} :
    IsBare w ↔ w ≠ [] ∧ (w.all fun c => Nat.blt ' '.toNat c.toNat) = true := by
  have habove (c : Char) : Nat.blt ' '.toNat c.toNat = true ↔ ' ' < c := by
    rw [Nat.blt_eq]
    rfl
  simp only [List.all_eq_true, habove]
  exact ⟨fun h => ⟨h.ne_nil, h.above⟩, fun h => ⟨h.1, h.2⟩⟩

instance : DecidablePred IsBare := fun _ => decidable_of_iff _ isBare_iff.symm

theorem IsBare.space_lt {w : List Char} (h : IsBare w) (s t : List Char) : ' ' :: s < w ++ t := by
  obtain ⟨c, w, rfl⟩ := List.exists_cons_of_ne_nil h.ne_nil
  exact List.cons_lt_cons_iff.2 (.inl (h.above c (.head _)))

/-- The text does not go on with a word: it ends, or a second space follows the first. -/
def Pauses (s : List Char) : Prop := s = [] ∨ ∃ u, s = ' ' :: ' ' :: u

/-- Words that end with their texts or in front of a space are compared first. -/
theorem faithful_word :
    Faithful id id (fun w => ∀ c ∈ w, ' ' < c) (fun s => ∀ c ∈ s.head?, c = ' ') := by
  intro x
  induction x with
  | nil =>
    intro y hx hy s t hs ht
    cases y with
    | nil => simp
    | cons d y =>
      have hd : ' ' < d := hy d (.head _)
      cases s with
      | nil => simp
      | cons c s =>
        obtain rfl : c = ' ' := hs c rfl
        simp [List.cons_lt_cons_iff, hd]
  | cons c x ih =>
    intro y hx hy s t hs ht
    obtain ⟨hc, hx⟩ := List.forall_mem_cons.1 hx
    cases y with
    | nil =>
      cases t with
      | nil => simp
      | cons d t =>
        obtain rfl : d = ' ' := ht d rfl
        simp [List.cons_lt_cons_iff, hc.not_gt, hc.ne']
    | cons d y =>
      obtain ⟨-, hy⟩ := List.forall_mem_cons.1 hy
      have hrest := ih hx hy hs ht
      simp only [id] at hrest ⊢
      simp only [List.cons_append, List.cons_lt_cons_iff, hrest, List.cons.injEq, and_or_left,
        or_assoc, and_assoc]

theorem faithful_words :
    Faithful (fun ws : List (List Char) => [' '].intercalate ws) id (∀ w ∈ ·, IsBare w) Pauses := by
  have hword : Faithful id id IsBare fun s => ∀ c ∈ s.head?, c = ' ' :=
    fun _ _ hx hy => faithful_word hx.above hy.above
  have hsep : Separates [' '] id IsBare (fun s => ∀ c ∈ s.head?, c = ' ') Pauses := by
    constructor
    · simp
    · rintro s (rfl | ⟨u, rfl⟩) <;> simp
    · rintro s x (rfl | ⟨u, rfl⟩) hx t
      · exact nil_lt_of_ne (by simp [hx.ne_nil])
      · exact hx.space_lt (' ' :: u) t
    · rintro s x (rfl | ⟨u, rfl⟩) hx t
      · exact List.nil_lt_cons _ _
      · exact List.cons_lt_cons_iff.2 (.inr ⟨rfl, hx.space_lt u t⟩)
  simpa using hword.row hsep

namespace Person

/-- Every word of the name can be compared. -/
def IsOrdered (p : Person) : Prop := ∀ words ∈ p.orderParts, ∀ w ∈ words, IsBare w

instance : DecidablePred IsOrdered := fun p =>
  inferInstanceAs (Decidable (∀ words ∈ p.orderParts, ∀ w ∈ words, IsBare w))

theorem faithful_orderKey : Faithful orderKey orderParts IsOrdered Pauses := by
  have hgap (s : List Char) : Pauses (' ' :: ' ' :: s) := .inr ⟨s, rfl⟩
  intro p q hp hq s t hs ht
  simp only [IsOrdered, orderParts, List.forall_mem_cons] at hp hq
  have hfamily := @faithful_words _ _ hp.1 hq.1
  have hgiven := @faithful_words _ _ hp.2.1 hq.2.1
  have hlineage := faithful_words hp.2.2.1 hq.2.2.1 hs ht
  simp only [id] at hfamily hgiven hlineage
  simp only [orderKey_eq, orderParts, List.append_assoc, List.cons_append,
    hfamily (hgap _) (hgap _), hgiven (hgap _) (hgap _), hlineage, List.cons_lt_cons_iff,
    List.cons.injEq, lt_self_iff_false, true_and, and_true, and_false, false_or, or_false,
    and_or_left, or_assoc, and_assoc]

theorem faithful_listKey :
    Faithful listKey (List.map orderParts) (∀ p ∈ ·, p.IsOrdered) (· = []) := by
  apply faithful_orderKey.row
  have hne (p : Person) (t : List Char) : [] < p.orderKey ++ t := by
    apply nil_lt_of_ne
    simp [orderKey_eq]
  constructor
  · intro s
    exact .inr ⟨_, rfl⟩
  · exact .inl
  · rintro s p rfl - t
    exact hne p t
  · rintro s p rfl - t
    exact List.nil_lt_cons _ _

theorem listKey_lt_iff {ps qs : List Person} (hps : ∀ p ∈ ps, p.IsOrdered)
    (hqs : ∀ q ∈ qs, q.IsOrdered) :
    listKey ps < listKey qs ↔ ps.map orderParts < qs.map orderParts := by
  simpa using faithful_listKey hps hqs rfl rfl

/-- A family name comes before every name of a family that begins with it. -/
theorem orderParts_lt_of_append {p q : Person} {more : List Char} (hp : p.IsOrdered)
    (hq : q.IsOrdered) (hmore : more ≠ [])
    (h : [' '].intercalate (orderWords (q.particles ++ q.family)) =
      [' '].intercalate (orderWords (p.particles ++ p.family)) ++ more) :
    p.orderParts < q.orderParts := by
  have hlt : [' '].intercalate (orderWords (p.particles ++ p.family)) ++ [] <
      [' '].intercalate (orderWords (q.particles ++ q.family)) ++ [] := by
    rw [h, List.append_assoc, append_lt_append_iff, List.append_nil]
    exact nil_lt_of_ne hmore
  obtain hwords | ⟨-, hnil⟩ :=
    (faithful_words (hp _ (.head _)) (hq _ (.head _)) (.inl rfl) (.inl rfl)).1 hlt
  · exact List.cons_lt_cons_iff.2 (.inl hwords)
  · exact absurd hnil (lt_irrefl _)

/-- Authors are ordered as they are read: name by name, in each name first by the words of the
family name, then by those of the given names and of the lineage. -/
theorem authorKey_order {ps qs : List Person} (hps : ∀ p ∈ ps, p.IsOrdered)
    (hqs : ∀ q ∈ qs, q.IsOrdered) :
    (∀ e : Entry, e.principals = some ps → e.authorKey = listKey ps) ∧
      (textLe (listKey ps) (listKey qs) = true ↔ ps.map orderParts ≤ qs.map orderParts) ∧
      (listKey ps = listKey qs ↔ ps.map orderParts = qs.map orderParts) ∧
      (∀ common p q ps' qs' more, ps = common ++ p :: ps' → qs = common ++ q :: qs' →
        more ≠ [] →
        [' '].intercalate (orderWords (q.particles ++ q.family)) =
          [' '].intercalate (orderWords (p.particles ++ p.family)) ++ more →
        listKey ps < listKey qs) ∧
      ∀ more, more ≠ [] → qs = ps ++ more → listKey ps < listKey qs := by
  have hlt := listKey_lt_iff hps hqs
  have hgt := listKey_lt_iff hqs hps
  have hle : listKey ps ≤ listKey qs ↔ ps.map orderParts ≤ qs.map orderParts := by
    rw [← not_lt, hgt, not_lt]
  have hge : listKey qs ≤ listKey ps ↔ qs.map orderParts ≤ ps.map orderParts := by
    rw [← not_lt, hlt, not_lt]
  refine ⟨fun e => authorKey_eq, ?_, ?_, ?_, ?_⟩
  · rw [textLe_iff, hle]
  · rw [le_antisymm_iff, hle, hge, ← le_antisymm_iff]
  · rintro common p q ps' qs' more rfl rfl hmore hfamily
    have hp : p.IsOrdered := hps p (by simp)
    have hq : q.IsOrdered := hqs q (by simp)
    rw [hlt, List.map_append, List.map_append, append_lt_append_iff, List.map_cons, List.map_cons]
    exact List.cons_lt_cons_iff.2 (.inl (orderParts_lt_of_append hp hq hmore hfamily))
  · rintro more hmore rfl
    rw [hlt, List.map_append]
    nth_rewrite 1 [← List.append_nil (ps.map orderParts)]
    rw [append_lt_append_iff]
    exact nil_lt_of_ne (by simpa using hmore)

/-- The shorter family name comes first, though the other has no given names. -/
theorem authorKey_order_longer_family :
    let ford : Person := ⟨["H.".toList], [], [], ["Ford".toList], ["Jr.".toList]⟩
    let shorter : Person := ⟨["Zoe".toList], [], ["de".toList], ["\x7b\\emph la\x7d".toList], []⟩
    let longer : Person := ⟨[], [], ["de".toList, "la".toList], ["Vigne".toList], []⟩
    (∀ p ∈ [ford, shorter], p.IsOrdered) ∧ (∀ p ∈ [ford, longer, shorter], p.IsOrdered) ∧
      listKey [ford, shorter] < listKey [ford, longer, shorter] ∧
      listKey [ford, longer] < listKey [ford, longer, shorter] := by
  intro ford shorter longer
  have hshorter : ∀ p ∈ [ford, shorter], p.IsOrdered := by decide +kernel
  have hlonger : ∀ p ∈ [ford, longer, shorter], p.IsOrdered := by decide +kernel
  have hprefix : ∀ p ∈ [ford, longer], p.IsOrdered :=
    fun p hp => hlonger p (List.mem_append_left [shorter] hp)
  obtain ⟨-, -, -, hfamily, -⟩ := authorKey_order hshorter hlonger
  obtain ⟨-, -, -, -, happend⟩ := authorKey_order hprefix hlonger
  refine ⟨hshorter, hlonger, ?_, happend [shorter] (by simp) rfl⟩
  exact hfamily [ford] shorter longer [] [shorter] " vigne".toList rfl rfl (by decide)
    (by decide +kernel)

end Person
end Citation
