import Citation.Sorting
import Mathlib

/-! The order of a bibliography: keys are compared as lists of texts, texts by code points, and
entries of one key stay in the order of the database. Nothing else is in this order. -/
namespace Citation

theorem lexLe_iff {α : Type} [DecidableEq α] [LinearOrder α] {le : α → α → Bool}
    (hle : ∀ a b, le a b = true ↔ a ≤ b) (s t : List α) : lexLe le s t = true ↔ s ≤ t := by
  rw [← not_lt]
  induction s generalizing t with
  | nil => simp [lexLe]
  | cons a s ih =>
    cases t with
    | nil => simp [lexLe]
    | cons b t =>
      rw [List.cons_lt_cons_iff, not_or, not_lt]
      by_cases h : a = b
      · subst h
        simp [lexLe, ih]
      · have hba : b ≠ a := fun hba => h hba.symm
        simp [lexLe, h, hba, hle]

theorem textLe_iff (s t : List Char) : textLe s t = true ↔ s ≤ t := by
  apply lexLe_iff
  intro c d
  rw [Nat.ble_eq, Char.le_def, UInt32.le_iff_toNat_le]
  rfl

/-- The order of keys is the lexicographic order of lists of texts. -/
theorem keyLe_iff (k l : List (List Char)) : lexLe textLe k l = true ↔ k ≤ l :=
  lexLe_iff textLe_iff k l

def Entry.orderLe (a b : Entry) : Bool := lexLe textLe a.orderKey b.orderKey

theorem orderLe_iff (a b : Entry) : a.orderLe b = true ↔ a.orderKey ≤ b.orderKey := keyLe_iff _ _

theorem orderLe_total (a b : Entry) : (a.orderLe b || b.orderLe a) = true :=
  lexLe_total textLe_total a.orderKey b.orderKey

theorem orderLe_trans (a b c : Entry) (hab : a.orderLe b = true) (hbc : b.orderLe c = true) :
    a.orderLe c = true :=
  lexLe_trans (fun _ _ => textLe_antisymm) (fun _ _ _ => textLe_trans) hab hbc

/-- In the order of the keys, and with the entries of each key as `es` has them. -/
structure StablySorted (es s : List Entry) : Prop where
  ordered : s.Pairwise fun a b => a.orderKey ≤ b.orderKey
  stable : ∀ k, s.filter (·.orderKey = k) = es.filter (·.orderKey = k)

/-- The order that a sorting asks for. -/
def Sorting.Orders : Sorting → List Entry → List Entry → Prop
  | .authorYearTitle, es, s => StablySorted es s
  | .asGiven, es, s => s = es

/-- Keys are computed beside the entries, and compared as if they were looked up anew. -/
theorem sort_authorYearTitle (es : List Entry) :
    Sorting.authorYearTitle.sort es = es.mergeSort Entry.orderLe := by
  have h := List.map_mergeSort (l := es.map fun e => (e.orderKey, e))
    (r := fun a b => lexLe textLe a.1 b.1) (s := Entry.orderLe) (f := Prod.snd) ?_
  · simpa [Sorting.sort, Function.comp_def] using h
  · intro a ha b hb
    obtain ⟨x, -, rfl⟩ := List.mem_map.1 ha
    obtain ⟨y, -, rfl⟩ := List.mem_map.1 hb
    rfl

theorem sort_ordered (es : List Entry) :
    (Sorting.authorYearTitle.sort es).Pairwise fun a b => a.orderKey ≤ b.orderKey := by
  rw [sort_authorYearTitle]
  have h := List.pairwise_mergeSort orderLe_trans orderLe_total es
  exact h.imp fun hab => (orderLe_iff _ _).1 hab

theorem sort_stable (es : List Entry) (k : List (List Char)) :
    (Sorting.authorYearTitle.sort es).filter (·.orderKey = k) = es.filter (·.orderKey = k) := by
  -- The entries of one key are an ordered sublist of `es`, and sorting keeps such sublists.
  have hties : (es.filter (·.orderKey = k)).Pairwise fun a b => a.orderLe b = true := by
    apply List.pairwise_of_forall_mem_list
    intro a ha b hb
    have ha := of_decide_eq_true (List.mem_filter.1 ha).2
    have hb := of_decide_eq_true (List.mem_filter.1 hb).2
    rw [orderLe_iff, ha, hb]
  have hsub := List.sublist_mergeSort orderLe_trans orderLe_total hties List.filter_sublist
  rw [← sort_authorYearTitle] at hsub
  have hfilter := hsub.filter (·.orderKey = k)
  rw [List.filter_filter] at hfilter
  simp only [Bool.and_self] at hfilter
  have hperm := (Sorting.sort_perm .authorYearTitle es).filter (·.orderKey = k)
  exact (hfilter.eq_of_length hperm.length_eq.symm).symm

/-- The first entries of two sorted lists with the same entries of each key have the same key. -/
theorem head_key_eq {a b : Entry} {s t : List Entry}
    (hs : (a :: s).Pairwise fun a b => a.orderKey ≤ b.orderKey)
    (ht : (b :: t).Pairwise fun a b => a.orderKey ≤ b.orderKey)
    (h : ∀ k, (a :: s).filter (·.orderKey = k) = (b :: t).filter (·.orderKey = k)) :
    a.orderKey = b.orderKey := by
  have hle {c d : Entry} {u v : List Entry}
      (hu : (c :: u).Pairwise fun a b => a.orderKey ≤ b.orderKey)
      (huv : (c :: u).filter (·.orderKey = d.orderKey) =
        (d :: v).filter (·.orderKey = d.orderKey)) : c.orderKey ≤ d.orderKey := by
    have hd : d ∈ (c :: u).filter (·.orderKey = d.orderKey) := by simp [huv]
    rcases List.mem_cons.1 (List.mem_filter.1 hd).1 with rfl | hdu
    · exact le_refl _
    · exact List.rel_of_pairwise_cons hu hdu
  exact le_antisymm (hle hs (h b.orderKey)) (hle ht (h a.orderKey).symm)

theorem eq_of_sorted {s t : List Entry} (hs : s.Pairwise fun a b => a.orderKey ≤ b.orderKey)
    (ht : t.Pairwise fun a b => a.orderKey ≤ b.orderKey)
    (h : ∀ k, s.filter (·.orderKey = k) = t.filter (·.orderKey = k)) : s = t := by
  induction s generalizing t with
  | nil =>
    cases t with
    | nil => rfl
    | cons b t =>
      have hb := h b.orderKey
      simp at hb
  | cons a s ih =>
    cases t with
    | nil =>
      have ha := h a.orderKey
      simp at ha
    | cons b t =>
      have hk := head_key_eq hs ht h
      have hab := h a.orderKey
      simp only [hk, decide_true, List.filter_cons_of_pos, List.cons.injEq] at hab
      obtain ⟨rfl, -⟩ := hab
      congr 1
      apply ih (List.Pairwise.of_cons hs) (List.Pairwise.of_cons ht)
      intro l
      have hl := h l
      by_cases hal : a.orderKey = l
      · simpa [hal] using hl
      · simpa [hal] using hl

/-- What a sorting asks for is one list, the one that it makes. -/
theorem orders_iff (sorting : Sorting) (es s : List Entry) :
    sorting.Orders es s ↔ s = sorting.sort es := by
  cases sorting with
  | asGiven => rfl
  | authorYearTitle =>
    constructor
    · intro h
      apply eq_of_sorted h.ordered (sort_ordered es)
      intro k
      rw [h.stable, sort_stable]
    · rintro rfl
      exact ⟨sort_ordered es, sort_stable es⟩

end Citation
