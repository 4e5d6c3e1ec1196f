import Citation.Proofs.Tables
import Citation.Text.Case
import Citation.Text.Join

/-! A capital at the start of a text: it makes the text a few characters longer at most, and a text
that starts with a capital stays as it is. -/
namespace Citation

namespace Unicode

theorem length_le_of_mem_upperExpansions :
    ∀ b ∈ upperExpansions, ∀ row ∈ b.2, decide (row.length ≤ 4) = true := by
  apply Spelled.forall_rows
  · repeat apply Spelled.cons
    exact Spelled.nil
  · decide +kernel

theorem length_expansion_le (n : Nat) : (upperExpansions.expansion n).length ≤ 3 := by
  unfold Table.expansion
  split
  · next point image hrow =>
    obtain ⟨b, hb, hmem⟩ := Table.rowOf_mem (t := upperExpansions) (n := n) (by simp [hrow])
    rw [hrow] at hmem
    have hlength := of_decide_eq_true (length_le_of_mem_upperExpansions b hb _ hmem)
    rw [List.length_cons] at hlength
    split
    · omega
    · simp
  · simp

theorem length_upperChar_le (c : Char) : (upperChar c).length ≤ 3 := by
  have hexpansion := length_expansion_le c.toNat
  unfold upperChar
  split
  · simp
  · split
    · next d ds himage =>
      rw [himage] at hexpansion
      simpa using hexpansion
    · cases upperRuns.shifted c.toNat <;> simp

theorem upperChar_of_capital {c : Char} (hc : c.toNat < 128) (hupper : c.toUpper = c) :
    upperChar c = [c] := by
  rw [upperChar, if_pos hc, hupper]

end Unicode

namespace Text

/-- A capital goes to the first visible character or to none. -/
theorem plain_capitalizeFirst (t : Text) : t.capitalizeFirst.plain = t.plain ∨
    ∃ c s, t.plain = c :: s ∧ t.capitalizeFirst.plain = Unicode.upperChar c ++ s := by
  induction t with
  | nil => exact .inl rfl
  | run s rest =>
    cases s with
    | nil => exact .inl rfl
    | cons c s =>
      refine .inr ⟨c, s ++ rest.plain, rfl, ?_⟩
      simp [capitalizeFirst, Unicode.capitalizeFirst, plain]
  | wrap w inner rest ih =>
    have hwrap : w = .guarded ∨ (Text.wrap w inner rest).capitalizeFirst =
        .wrap w inner.capitalizeFirst rest := by cases w <;> simp [capitalizeFirst]
    rcases hwrap with rfl | hwrap
    · exact .inl rfl
    · rw [hwrap]
      rcases ih with h | ⟨c, s, hs, h⟩
      · exact .inl (by simp [plain, h])
      · exact .inr ⟨c, s ++ rest.plain, by simp [plain, hs], by simp [plain, h]⟩

theorem length_capitalizeFirst_le (t : Text) :
    t.capitalizeFirst.plain.length ≤ t.plain.length + 2 := by
  rcases plain_capitalizeFirst t with h | ⟨c, s, hs, h⟩
  · rw [h]
    omega
  · have hupper := Unicode.length_upperChar_le c
    rw [h, hs, List.length_append, List.length_cons]
    omega

/-- The text starts with a run that starts with a character. -/
def StartsWith (c : Char) (t : Text) : Prop := ∃ s rest, t = .run (c :: s) rest

theorem startsWith_ofChars (c : Char) (s : List Char) : StartsWith c (ofChars (c :: s)) :=
  ⟨s, .nil, rfl⟩

theorem StartsWith.append {c : Char} {t : Text} (h : StartsWith c t) (u : Text) :
    StartsWith c (t ++ u) := by
  obtain ⟨s, rest, rfl⟩ := h
  rw [run_append]
  cases rest ++ u with
  | nil => exact ⟨s, _, rfl⟩
  | run s' rest' => exact ⟨s ++ s', _, rfl⟩
  | wrap w inner rest' => exact ⟨s, _, rfl⟩

theorem StartsWith.join {c : Char} {t : Text} (h : StartsWith c t) (s : Separators)
    (ts : List Text) : StartsWith c (s.join (t :: ts)) := by
  have hpresent : present (t :: ts) = t :: present ts := by
    obtain ⟨s, rest, rfl⟩ := h
    rfl
  have hchain : ∀ (between last : List Char) (us : List Text),
      StartsWith c (chain between last (t :: us)) := by
    intro between last us
    cases us with
    | nil => exact h
    | cons u us => cases us <;> exact (h.append _).append _
  unfold Separators.join
  rw [hpresent]
  exact hchain _ _ _

theorem StartsWith.plain_eq {c : Char} {t : Text} (h : StartsWith c t) :
    ∃ s, t.plain = c :: s := by
  obtain ⟨s, rest, rfl⟩ := h
  exact ⟨s ++ rest.plain, rfl⟩

theorem StartsWith.withPeriod {c : Char} {t : Text} (h : StartsWith c t) :
    StartsWith c t.withPeriod := by
  unfold Text.withPeriod
  split
  · exact h
  · exact h.append _

theorem StartsWith.capitalizeFirst {c : Char} {t : Text} (h : StartsWith c t)
    (hc : Unicode.upperChar c = [c]) : t.capitalizeFirst = t := by
  obtain ⟨s, rest, rfl⟩ := h
  simp [Text.capitalizeFirst, Unicode.capitalizeFirst, hc]

end Text
end Citation
