import Citation.Proofs.Texts

/-! Texts that stay different in a sentence. Separators and a period at the end are added to both,
so that it takes more than one character to tell them apart for good. -/
namespace Citation

namespace Text

/-- The texts differ for good: one is nothing, or they differ by two characters in length, or at
one place in them. -/
inductive Apart (t u : Text) : Prop
  | nothing (ht : t.plain ≠ []) (hu : u = .nil)
  | longer (h : u.plain.length + 2 ≤ t.plain.length)
  | parted {w r s : List Char} {a b : Char} (hne : a ≠ b) (ht : t.plain = w ++ a :: r)
      (hu : u.plain = w ++ b :: s)

variable {t u : Text}

theorem ne_nil_of_plain_ne_nil (h : t.plain ≠ []) : t ≠ .nil := by
  rintro rfl
  exact h rfl

theorem length_pos_of_plain_ne_nil (h : t.plain ≠ []) : 0 < t.plain.length :=
  List.length_pos_iff.2 h

theorem Apart.plain_ne_nil (h : Apart t u) : t.plain ≠ [] := by
  cases h with
  | nothing ht => exact ht
  | longer h =>
    intro hnil
    rw [hnil, List.length_nil] at h
    omega
  | parted _ ht => simp [ht]

theorem Apart.plain_ne (h : Apart t u) : t.plain ≠ u.plain := by
  intro heq
  cases h with
  | nothing ht hu =>
    rw [heq, hu] at ht
    exact ht rfl
  | longer h =>
    rw [heq] at h
    omega
  | parted hne ht hu =>
    rw [ht, hu] at heq
    exact hne (List.cons.inj (List.append_cancel_left heq)).1

theorem length_withPeriod (t : Text) : t.plain.length ≤ t.withPeriod.plain.length ∧
    t.withPeriod.plain.length ≤ t.plain.length + 1 := by
  rcases plain_withPeriod t with h | h <;> rw [h]
  · omega
  · rw [List.length_append, List.length_singleton]
    omega

theorem Apart.plain_withPeriod_ne (h : Apart t u) : t.withPeriod.plain ≠ u.withPeriod.plain := by
  intro heq
  cases h with
  | nothing ht hu =>
    have hlength := (length_withPeriod t).1
    have hpos := length_pos_of_plain_ne_nil ht
    subst hu
    rw [heq] at hlength
    exact absurd hlength (by simpa [withPeriod, plain] using ht)
  | longer h =>
    have hlength := (length_withPeriod t).1
    have hlength' := (length_withPeriod u).2
    rw [heq] at hlength
    omega
  | @parted w r s a b hne ht hu =>
    have hwith : ∃ r', t.withPeriod.plain = w ++ a :: r' := by
      rcases plain_withPeriod t with h | h
      · exact ⟨r, h.trans ht⟩
      · exact ⟨r ++ ['.'], by rw [h, ht, List.append_assoc, List.cons_append]⟩
    have hwith' : ∃ s', u.withPeriod.plain = w ++ b :: s' := by
      rcases plain_withPeriod u with h | h
      · exact ⟨s, h.trans hu⟩
      · exact ⟨s ++ ['.'], by rw [h, hu, List.append_assoc, List.cons_append]⟩
    obtain ⟨r', hr⟩ := hwith
    obtain ⟨s', hs⟩ := hwith'
    rw [hr, hs] at heq
    exact hne (List.cons.inj (List.append_cancel_left heq)).1

end Text

namespace Separators
open Text

/-- The same separator everywhere. -/
def uniform (sep : String) : Separators := { between := sep }

variable {sep : String} {t u : Text} {ts us : List Text}

theorem present_cons (h : t ≠ .nil) : present (t :: ts) = t :: present ts := by
  have hempty : t.isEmpty = false := by
    rw [Bool.eq_false_iff]
    exact mt (isEmpty_iff t).1 h
  simp [present, hempty]

theorem uniform_join (ts : List Text) :
    (uniform sep).join ts = chain sep.toList sep.toList (present ts) := by
  simp [join, uniform, beforeLast]

theorem uniform_join_nil_cons (ts : List Text) :
    (uniform sep).join (.nil :: ts) = (uniform sep).join ts := rfl

/-- With nothing behind it, a text stands alone. -/
theorem uniform_join_cons_alone (h : present ts = []) : (uniform sep).join (t :: ts) = t := by
  rw [uniform_join]
  by_cases ht : t = .nil
  · subst ht
    have hnone : present (.nil :: ts) = [] := h
    rw [hnone]
    rfl
  · rw [present_cons ht, h]
    rfl

theorem uniform_join_cons (ht : t ≠ .nil) (h : present ts ≠ []) :
    (uniform sep).join (t :: ts) = t ++ ofChars sep.toList ++ (uniform sep).join ts := by
  rw [uniform_join, uniform_join, present_cons ht]
  cases hts : present ts with
  | nil => exact absurd hts h
  | cons v vs =>
    cases vs with
    | nil => rfl
    | cons w vs => rfl

theorem uniform_join_eq_nil (h : present ts = []) : (uniform sep).join ts = .nil := by
  rw [uniform_join, h]
  rfl

theorem present_ne_nil_of_join (h : ((uniform sep).join ts).plain ≠ []) : present ts ≠ [] :=
  fun hts => h (by rw [uniform_join_eq_nil hts]; rfl)

theorem ne_nil_of_mem_present (h : t ∈ present ts) : t ≠ .nil := by
  rintro rfl
  simp [present, isEmpty] at h

theorem uniform_join_ne_nil (hsep : sep.toList ≠ []) (h : present ts ≠ []) :
    (uniform sep).join ts ≠ .nil := by
  rw [uniform_join]
  cases hts : present ts with
  | nil => exact absurd hts h
  | cons v vs =>
    cases vs with
    | nil =>
      have hv : v ∈ present ts := by simp [hts]
      exact ne_nil_of_mem_present hv
    | cons w ws =>
      apply ne_nil_of_plain_ne_nil
      cases ws <;> simp [chain, hsep]

theorem length_uniform_join_cons (sep : String) (ht : t ≠ .nil) (h : present ts ≠ []) :
    ((uniform sep).join (t :: ts)).plain.length =
      t.plain.length + sep.toList.length + ((uniform sep).join ts).plain.length := by
  rw [uniform_join_cons ht h]
  simp only [plain_append, plain_ofChars, List.length_append]

theorem plain_join_adjacent (ts : List Text) :
    ((uniform "").join ts).plain = ts.flatMap plain := by
  rw [uniform_join, ← flatMap_plain_present]
  generalize present ts = us
  fun_induction chain "".toList "".toList us with
  | case1 => rfl
  | case2 t => simp
  | case3 t u => simp
  | case4 t u v us ih => simpa using ih

theorem plain_uniform_join_pair (ht : t ≠ .nil) (u : Text) :
    ((uniform sep).join [t, u]).plain =
      t.plain ++ if u = .nil then [] else sep.toList ++ u.plain := by
  by_cases hu : u = .nil
  · rw [uniform_join_cons_alone (by rw [hu]; rfl), if_pos hu, List.append_nil]
  · have hpresent : present [u] ≠ [] := by simp [present_cons hu]
    rw [uniform_join_cons ht hpresent, join_singleton, if_neg hu]
    simp

theorem length_flatMap_plain_le_chain (between last : List Char) (ts : List Text) :
    (ts.flatMap plain).length ≤ (chain between last ts).plain.length := by
  fun_induction chain between last ts with
  | case1 => simp
  | case2 t => simp
  | case3 t u =>
    simp only [List.flatMap_cons, List.flatMap_nil, List.append_nil, plain_append,
      List.length_append]
    omega
  | case4 t u v ts ih =>
    rw [List.flatMap_cons, plain_append, plain_append, List.length_append, List.length_append,
      List.length_append]
    omega

/-- No text is cut short where texts are joined. -/
theorem length_flatMap_plain_le (s : Separators) (ts : List Text) :
    (ts.flatMap plain).length ≤ (s.join ts).plain.length := by
  rw [← flatMap_plain_present]
  exact length_flatMap_plain_le_chain _ _ _

theorem Apart.join_head (hsep : sep.toList ≠ []) (h : Apart t u) :
    Apart ((uniform sep).join (t :: ts)) ((uniform sep).join (u :: ts)) := by
  by_cases hts : present ts = []
  · rwa [uniform_join_cons_alone hts, uniform_join_cons_alone hts]
  · have ht := ne_nil_of_plain_ne_nil h.plain_ne_nil
    have hlength := length_uniform_join_cons sep ht hts
    have hsep' : 0 < sep.toList.length := List.length_pos_iff.2 hsep
    cases h with
    | nothing ht' hu =>
      have hpos := length_pos_of_plain_ne_nil ht'
      subst hu
      rw [uniform_join_nil_cons]
      exact .longer (by omega)
    | longer h =>
      by_cases hu : u = .nil
      · subst hu
        rw [uniform_join_nil_cons]
        simp only [plain, List.length_nil] at h
        exact .longer (by omega)
      · have hlength' := length_uniform_join_cons sep hu hts
        exact .longer (by omega)
    | parted hne ht' hu' =>
      have hu : u ≠ .nil := ne_nil_of_plain_ne_nil (by simp [hu'])
      rw [uniform_join_cons ht hts, uniform_join_cons hu hts]
      apply Apart.parted hne
      · simp only [plain_append, ht', List.append_assoc, List.cons_append]
        rfl
      · simp only [plain_append, hu', List.append_assoc, List.cons_append]
        rfl

theorem Apart.join_tail (hsep : sep.toList ≠ []) (t : Text)
    (h : Apart ((uniform sep).join ts) ((uniform sep).join us)) :
    Apart ((uniform sep).join (t :: ts)) ((uniform sep).join (t :: us)) := by
  by_cases ht : t = .nil
  · subst ht
    exact h
  · have hts := present_ne_nil_of_join h.plain_ne_nil
    have hlength := length_uniform_join_cons sep ht hts
    have hsep' : 0 < sep.toList.length := List.length_pos_iff.2 hsep
    have hpos := length_pos_of_plain_ne_nil h.plain_ne_nil
    by_cases hus : present us = []
    · rw [uniform_join_cons_alone hus]
      exact .longer (by omega)
    · have hlength' := length_uniform_join_cons sep ht hus
      cases h with
      | nothing _ hu => exact absurd hu (uniform_join_ne_nil hsep hus)
      | longer h => exact .longer (by omega)
      | @parted w r s a b hne hw hw' =>
        rw [uniform_join_cons ht hts, uniform_join_cons ht hus]
        refine .parted (w := t.plain ++ sep.toList ++ w) (r := r) (s := s) hne ?_ ?_
        · simp [hw]
        · simp [hw']

/-- Texts that differ for good still do so among others. -/
theorem Apart.join (hsep : sep.toList ≠ []) (h : Apart t u) (before after : List Text) :
    Apart ((uniform sep).join (before ++ t :: after))
      ((uniform sep).join (before ++ u :: after)) := by
  induction before with
  | nil => exact Apart.join_head hsep h
  | cons v before ih => exact Apart.join_tail hsep v ih

end Separators
end Citation
