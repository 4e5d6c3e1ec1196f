import Citation.Proofs.Tables
import Citation.Unicode.Normal
import Mathlib.Tactic.Tauto

/-! Characters that composition leaves alone. No decomposition and no composition comes to a line
feed, a hyphen or an em dash, so that a composed text holds one only where the text did. -/
namespace Citation.Unicode

/-- The line feed, the hyphen and the em dash. -/
def unmadePoints : List Nat := [0x0A, 0x2D, 0x2014]

/-- The character is none that a composition makes of others. -/
def Unmade (c : Char) : Prop := c.toNat ∈ unmadePoints

instance : DecidablePred Unmade := fun c => inferInstanceAs (Decidable (c.toNat ∈ unmadePoints))

theorem eq_toNat_of_ofNat {n : Nat} {d : Char} (hd : Unmade d) (h : Char.ofNat n = d) :
    n = d.toNat := by
  by_cases hvalid : n.isValidChar
  · rw [← h, Char.ofNat, dif_pos hvalid]
    rfl
  · rw [Char.ofNat, dif_neg hvalid] at h
    subst h
    exact absurd hd (by decide)

theorem ofNat_ne_of_notMem {n : Nat} {d : Char} (hd : Unmade d) (hn : n ∉ unmadePoints) :
    Char.ofNat n ≠ d :=
  fun h => hn (eq_toNat_of_ofNat hd h ▸ hd)

/-! Tables. -/

/-- Behind the first number of a row stands none of the unmade points. -/
def Table.Spares (t : Table) : Prop :=
  ∀ b ∈ t, ∀ row ∈ b.2, ((row.drop 1).all (!unmadePoints.contains ·)) = true

/-- The images of a run are all in front of the point or all behind it. -/
def runSpares : List Nat → Bool
  | [first, last, _, image] => unmadePoints.all fun n => n < image || image + (last - first) < n
  | _ => true

def Table.SparesInRuns (t : Table) : Prop := ∀ b ∈ t, ∀ row ∈ b.2, runSpares row = true

section
variable {t : Table} {n m : Nat}

theorem Table.Spares.notMem (h : t.Spares) (hm : m ∈ t.expansion n) : m ∉ unmadePoints := by
  unfold Table.expansion at hm
  split at hm
  · next point image hrow =>
    obtain ⟨b, hb, hmem⟩ := Table.rowOf_mem (t := t) (n := n) (by simp [hrow])
    rw [hrow] at hmem
    have hall := List.all_eq_true.1 (h b hb _ hmem)
    split at hm
    · simpa using hall m hm
    · cases hm
  · cases hm

theorem Table.SparesInRuns.notMem (h : t.SparesInRuns) (hm : t.shifted n = some m) :
    m ∉ unmadePoints := by
  unfold Table.shifted at hm
  split at hm
  · next first last step image hrow =>
    obtain ⟨b, hb, hmem⟩ := Table.rowOf_mem (t := t) (n := n) (by simp [hrow])
    rw [hrow] at hmem
    split at hm
    · next hle =>
      obtain rfl := Option.some.inj hm
      intro hpoint
      have hspared := List.all_eq_true.1 (h b hb _ hmem) _ hpoint
      simp only [Bool.or_eq_true, decide_eq_true_eq] at hspared
      omega
    · cases hm
  · cases hm

end

theorem canonicalRuns_spare : canonicalRuns.SparesInRuns := by
  apply Spelled.forall_rows
  case h =>
    repeat apply Spelled.cons
    exact Spelled.nil
  decide +kernel

theorem expansions_spare : canonicalExpansions.Spares ∧ compositionTable.Spares := by
  constructor <;> apply Spelled.forall_rows
  case left.h | right.h =>
    repeat apply Spelled.cons
    exact Spelled.nil
  all_goals decide +kernel

/-! Decomposition. -/

theorem notMem_unmadePoints_of_hangul {n : Nat} (hlow : 0x1100 ≤ n) (hhigh : n < 0x2014) :
    n ∉ unmadePoints := by
  simp only [unmadePoints, List.mem_cons, List.not_mem_nil, or_false]
  omega

variable {d : Char}

theorem notMem_hangulDecomposition (hd : Unmade d) {n : Nat} (hn : isHangulSyllable n = true) :
    d ∉ hangulDecomposition n := by
  have hne : ∀ m, 0x1100 ≤ m → m < 0x2014 → d ≠ Char.ofNat m := fun m hlow hhigh =>
    (ofNat_ne_of_notMem hd (notMem_unmadePoints_of_hangul hlow hhigh)).symm
  have hlast : n ≤ 0xD7A3 := by simpa using (Bool.and_eq_true_iff.1 hn).2
  have hlead := hne (0x1100 + (n - 0xAC00) / 588) (by omega) (by omega)
  have hvowel := hne (0x1161 + (n - 0xAC00) % 588 / 28) (by omega) (by omega)
  have htrail := hne (0x11A7 + (n - 0xAC00) % 28) (by omega) (by omega)
  unfold hangulDecomposition
  simp only
  split <;> simp only [List.mem_cons, hlead, hvowel, htrail, List.not_mem_nil, or_self,
    not_false_eq_true]

theorem eq_of_mem_canonicalDecomposition (hd : Unmade d) {c : Char}
    (h : d ∈ canonicalDecomposition c) : c = d := by
  unfold canonicalDecomposition at h
  split at h
  · exact (List.mem_singleton.1 h).symm
  · split at h
    · next hhangul => exact absurd h (notMem_hangulDecomposition hd hhangul)
    · split at h
      · next m ms himage =>
        obtain ⟨n, hn, heq⟩ := List.mem_map.1 h
        exact absurd heq (ofNat_ne_of_notMem hd (expansions_spare.1.notMem (himage ▸ hn)))
      · split at h
        · next n hn =>
          exact absurd (List.mem_singleton.1 h).symm
            (ofNat_ne_of_notMem hd (canonicalRuns_spare.notMem hn))
        · exact (List.mem_singleton.1 h).symm

/-! Composition. -/

theorem le_of_hangulComposite {a b n : Nat} (h : hangulComposite a b = some n) : 0xAC00 ≤ n := by
  unfold hangulComposite isHangulSyllable at h
  split_ifs at h with hlead hsyllable
  · rw [Option.some.injEq] at h
    omega
  · rw [Option.some.injEq] at h
    have ha : 0xAC00 ≤ a := by simpa using (Bool.and_eq_true_iff.1 hsyllable.1).1
    omega

theorem composite_eq (a b : Char) : composite a b =
    ((hangulComposite a.toNat b.toNat).or
      (compositionTable.expansion (a.toNat * 0x1000000 + b.toNat)).head?).map Char.ofNat := by
  unfold composite
  generalize hangulComposite a.toNat b.toNat = hangul
  generalize compositionTable.expansion (a.toNat * 0x1000000 + b.toNat) = image
  cases hangul <;> cases image <;> rfl

theorem composite_ne (hd : Unmade d) (a b : Char) : composite a b ≠ some d := by
  intro h
  rw [composite_eq] at h
  obtain ⟨n, hn, heq⟩ := Option.map_eq_some_iff.1 h
  refine ofNat_ne_of_notMem hd ?_ heq
  rcases Option.or_eq_some_iff.1 hn with hhangul | ⟨-, hhead⟩
  · have hle := le_of_hangulComposite hhangul
    simp only [unmadePoints, List.mem_cons, List.not_mem_nil, or_false]
    omega
  · exact expansions_spare.2.notMem (List.mem_of_head? hhead)

theorem mem_insertMark {c : Char} {s : List Char} : d ∈ insertMark c s ↔ d ∈ c :: s := by
  induction s with
  | nil => rfl
  | cons e s ih =>
    unfold insertMark
    split
    · simp only [List.mem_cons, ih]
      tauto
    · rfl

theorem mem_orderMarks {s : List Char} : d ∈ orderMarks s ↔ d ∈ s := by
  induction s with
  | nil => rfl
  | cons c s ih => rw [orderMarks, mem_insertMark, List.mem_cons, ih, List.mem_cons]

theorem mem_of_mem_composeOnto (hd : Unmade d) {starter : Char} {passed s : List Char}
    (h : d ∈ composeOnto starter passed s) : d ∈ starter :: (passed ++ s) := by
  induction s generalizing starter passed with
  | nil => simpa [composeOnto] using h
  | cons c s ih =>
    rw [composeOnto] at h
    cases hcomposite : (if isHidden c passed then none else composite starter c) with
    | some e =>
      have he : d ≠ e := by
        rintro rfl
        split at hcomposite
        · cases hcomposite
        · exact composite_ne hd _ _ hcomposite
      simp only [hcomposite] at h
      have hmem := ih h
      simp only [List.mem_cons, he, false_or, List.mem_append] at hmem ⊢
      tauto
    | none =>
      simp only [hcomposite] at h
      split at h
      · rcases List.mem_append.1 h with hfront | hrest
        · simp only [List.mem_cons, List.mem_reverse, List.mem_append] at hfront ⊢
          tauto
        · have hmem := ih hrest
          simp only [List.nil_append, List.mem_cons, List.mem_append] at hmem ⊢
          tauto
      · have hmem := ih h
        simp only [List.mem_cons, List.mem_append] at hmem ⊢
        tauto

theorem mem_of_mem_compose (hd : Unmade d) {s : List Char} (h : d ∈ compose s) : d ∈ s := by
  induction s with
  | nil => exact h
  | cons c s ih =>
    unfold compose at h
    split at h
    · simpa using mem_of_mem_composeOnto hd h
    · rcases List.mem_cons.1 h with rfl | hs
      · exact List.mem_cons_self
      · exact List.mem_cons_of_mem _ (ih hs)

theorem mem_of_mem_composed (hd : Unmade d) {s : List Char} (h : d ∈ composed s) : d ∈ s := by
  have hmem := mem_orderMarks.1 (mem_of_mem_compose hd h)
  obtain ⟨c, hc, hdecomposition⟩ := List.mem_flatMap.1 hmem
  exact eq_of_mem_canonicalDecomposition hd hdecomposition ▸ hc

end Citation.Unicode
