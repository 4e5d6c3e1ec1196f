import Citation.Template.Standard

/-! Texts that are empty, and texts that are not, under the operations that citations are made
with. -/
namespace Citation

namespace Text

theorem isEmpty_iff (t : Text) : t.isEmpty = true ↔ t = .nil := by
  cases t <;> simp [isEmpty]

theorem mem_present_iff {t : Text} {ts : List Text} : t ∈ present ts ↔ t ∈ ts ∧ t ≠ .nil := by
  rw [present, List.mem_filter, Bool.not_eq_true', Bool.eq_false_iff, Ne, isEmpty_iff]

theorem isEmpty_of_plain_ne_nil {t : Text} (h : t.plain ≠ []) : t.isEmpty = false := by
  cases t with
  | nil => exact absurd rfl h
  | _ => rfl

theorem ofLatex_nil : ofLatex [] = .nil := by
  simp [ofLatex, ofTokens, Latex.tokens, ofTokensIn, ofChars, consRun]

theorem plain_withPeriod (t : Text) :
    t.withPeriod.plain = t.plain ∨ t.withPeriod.plain = t.plain ++ ['.'] := by
  unfold withPeriod
  split
  · exact .inl rfl
  · exact .inr (by simp)

theorem plain_withPeriod_ne_nil {t : Text} (h : t.plain ≠ []) : t.withPeriod.plain ≠ [] := by
  rcases plain_withPeriod t with hplain | hplain <;> simp [hplain, h]

theorem withPeriod_eq_nil_iff (t : Text) : t.withPeriod = .nil ↔ t = .nil := by
  unfold withPeriod
  split
  · rfl
  · next h =>
    constructor
    · intro hnil
      have hplain : (t ++ ofChars ['.']).plain = [] := by rw [hnil]; rfl
      simp at hplain
    · intro hnil
      exact absurd (Or.inl hnil) h

/-- What is empty has no visible characters. -/
theorem flatMap_plain_present (ts : List Text) :
    (present ts).flatMap plain = ts.flatMap plain := by
  induction ts with
  | nil => rfl
  | cons t ts ih =>
    cases t with
    | nil => exact ih
    | _ => exact congrArg (_ ++ ·) ih

theorem plain_chain_ne_nil {between last : List Char} {ts : List Text} {t : Text} (ht : t ∈ ts)
    (hplain : t.plain ≠ []) : (chain between last ts).plain ≠ [] := by
  fun_induction chain between last ts with
  | case1 => cases ht
  | case2 u => simp_all
  | case3 u v =>
    rcases List.mem_cons.1 ht with rfl | ht
    · simp [hplain]
    · simp_all
  | case4 u v w ts ih =>
    rcases List.mem_cons.1 ht with rfl | ht
    · simp [hplain]
    · simp [ih ht]

end Text

theorem Modifier.apply_nil (m : Modifier) : m.apply .nil = .nil := by
  cases m <;> rfl

namespace Separators

theorem join_singleton (s : Separators) (t : Text) : s.join [t] = t := by
  cases t <;> rfl

theorem join_nil {s : Separators} {ts : List Text} (h : ∀ t ∈ ts, t = .nil) : s.join ts = .nil := by
  have hpresent : Text.present ts = [] := by
    simpa [Text.present, Text.isEmpty] using fun t ht => by rw [h t ht]
  simp [join, hpresent, Text.chain]

theorem plain_join_ne_nil {s : Separators} {ts : List Text} {t : Text} (ht : t ∈ ts)
    (hplain : t.plain ≠ []) : (s.join ts).plain ≠ [] := by
  have hpresent : t ∈ Text.present ts := by
    rw [Text.present, List.mem_filter, Text.isEmpty_of_plain_ne_nil hplain]
    exact ⟨ht, rfl⟩
  exact Text.plain_chain_ne_nil hpresent hplain

end Separators

namespace Template
open Citation.Part

variable {person : Person → Text} {e : Entry}

/-- A sentence of one part is that part and a period. -/
theorem text_sentence (p : Part) :
    (sentence [p]).text person e = (p.text person e).map Text.withPeriod := by
  cases h : p.text person e with
  | error err => simp [sentence, Part.text, texts, h, Except.map]
  | ok t =>
    simp [sentence, Part.text, texts, h, Except.map, Separators.join_singleton, Modifier.apply]

end Template

end Citation
