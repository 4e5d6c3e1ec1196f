import Citation.Unicode.Case
import Mathlib.Data.List.Basic

/-! What a table gives for a point is read off one of its rows, so that a check of all rows holds of
whatever the table gives. The rows are checked on their characters. -/
namespace Citation.Unicode

/-- The rows of a block, given its characters. -/
def charRows (s : List Char) : List (List Nat) :=
  (pieces (· == ' ') s).map fun row => (pieces (· == ',') row).map hexNumber

/-- Blocks and their characters. A string becomes characters once and for all here; where a check
of the rows is decided, there are no strings any more. -/
inductive Spelled : List (Nat × String) → List (Nat × List Char) → Prop
  | nil : Spelled [] []
  | cons {n : Nat} {s : List Char} {blocks : List (Nat × String)} {spelled : List (Nat × List Char)}
      (h : Spelled blocks spelled) : Spelled ((n, String.ofList s) :: blocks) ((n, s) :: spelled)

theorem Spelled.forall_rows {blocks : List (Nat × String)} {spelled : List (Nat × List Char)}
    (h : Spelled blocks spelled) {p : List Nat → Bool}
    (hp : (spelled.all fun b => (charRows b.2).all p) = true) :
    ∀ b ∈ Table.ofBlocks blocks, ∀ row ∈ b.2, p row = true := by
  induction h with
  | nil => simp [Table.ofBlocks]
  | @cons n s blocks spelled _ ih =>
    obtain ⟨hs, hspelled⟩ := Bool.and_eq_true_iff.1 hp
    have hrows : rows (String.ofList s) = charRows s := by
      rw [rows, String.toList_ofList]
      rfl
    refine List.forall_mem_cons.2 ⟨fun row hrow => ?_, ih hspelled⟩
    exact List.all_eq_true.1 hs row (hrows ▸ hrow)

theorem mem_of_lastUpTo {α : Type} {key : α → Nat} {n : Nat} {xs : List α} {x : α}
    (h : lastUpTo key n xs = some x) : x ∈ xs :=
  (List.takeWhile_sublist _).subset (List.mem_of_getLast? h)

/-- Whatever a table gives for a point is one of its rows. -/
theorem Table.rowOf_mem {t : Table} {n : Nat} (h : t.rowOf n ≠ []) : ∃ b ∈ t, t.rowOf n ∈ b.2 := by
  unfold Table.rowOf at h ⊢
  split
  · next first block hblock =>
    rw [hblock] at h
    cases hrow : lastUpTo (·.headD 0) n block with
    | none =>
      simp only [hrow] at h
      exact absurd rfl h
    | some row => exact ⟨_, mem_of_lastUpTo hblock, mem_of_lastUpTo hrow⟩
  · next hnone =>
    rw [hnone] at h
    exact absurd rfl h

/-- Behind the first numbers of a row, all are greater than that of a line feed. -/
def Table.PastLineFeed (skipped : Nat) (t : Table) : Prop :=
  ∀ b ∈ t, ∀ row ∈ b.2, ((row.drop skipped).all (10 < ·)) = true

section
variable {t : Table} {n m : Nat}

theorem Table.PastLineFeed.lt_of_expansion (h : t.PastLineFeed 1) (hm : m ∈ t.expansion n) :
    10 < m := by
  unfold Table.expansion at hm
  split at hm
  · next point image hrow =>
    obtain ⟨b, hb, hmem⟩ := Table.rowOf_mem (t := t) (n := n) (by simp [hrow])
    rw [hrow] at hmem
    have hall := List.all_eq_true.1 (h b hb _ hmem)
    split at hm
    · exact of_decide_eq_true (hall m hm)
    · cases hm
  · cases hm

theorem Table.PastLineFeed.lt_of_shifted (h : t.PastLineFeed 3) (hm : t.shifted n = some m) :
    10 < m := by
  unfold Table.shifted at hm
  split at hm
  · next first last step image hrow =>
    obtain ⟨b, hb, hmem⟩ := Table.rowOf_mem (t := t) (n := n) (by simp [hrow])
    rw [hrow] at hmem
    have hall := List.all_eq_true.1 (h b hb _ hmem)
    have himage : 10 < image := of_decide_eq_true (hall image (by simp))
    split at hm
    · obtain rfl := Option.some.inj hm
      omega
    · cases hm
  · cases hm

end

/-- No run of cases comes to a line feed. -/
theorem runs_pastLineFeed : lowerRuns.PastLineFeed 3 ∧ upperRuns.PastLineFeed 3 := by
  constructor <;> apply Spelled.forall_rows
  -- Each string is unified with the string of its characters, and those are checked.
  case left.h | right.h =>
    repeat apply Spelled.cons
    exact Spelled.nil
  all_goals decide +kernel

theorem upperExpansions_pastLineFeed : upperExpansions.PastLineFeed 1 := by
  apply Spelled.forall_rows
  case h =>
    repeat apply Spelled.cons
    exact Spelled.nil
  decide +kernel

end Citation.Unicode
