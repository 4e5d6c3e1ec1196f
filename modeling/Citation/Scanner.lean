import Citation.Whitespace

/-! Scanners read a value off the front of a text. Each one that the library names takes at least
one character when it succeeds, and leaves a suffix of its input. -/
namespace Citation

/-- Reads a value and leaves the rest, or fails. -/
abbrev Scanner (α : Type) := List Char → Option (α × List Char)

/-- What is left is the input without a nonempty start. -/
def Scanner.Consumes {α : Type} (p : Scanner α) : Prop :=
  ∀ s a r, p s = some (a, r) → ∃ w, w ≠ [] ∧ s = w ++ r

theorem Scanner.Consumes.length_lt {α : Type} {p : Scanner α} (hp : p.Consumes)
    {s r : List Char} {a : α} (h : p s = some (a, r)) : r.length < s.length := by
  obtain ⟨w, hw, rfl⟩ := hp s a r h
  have := List.length_pos_iff.2 hw
  simp
  omega

theorem skip_suffix (p : Char → Bool) (s : List Char) : ∃ w, s = w ++ s.dropWhile p :=
  ⟨s.takeWhile p, List.takeWhile_append_dropWhile.symm⟩

theorem skipBlank_length_le (s : List Char) : (skipBlank s).length ≤ s.length :=
  (List.dropWhile_sublist _).length_le

namespace Scanner

/-- The longest run of characters of a class, which has to have one. -/
def run (p : Char → Bool) : Scanner (List Char) := fun s =>
  match s.takeWhile p with
  | [] => none
  | c :: cs => some (c :: cs, s.dropWhile p)

def char (c : Char) : Scanner Char
  | [] => none
  | d :: rest => if d = c then some (c, rest) else none

/-- A value with any spacing around it. -/
def padded {α : Type} (p : Scanner α) : Scanner α := fun s =>
  (p (skipSpacing s)).map fun (a, r) => (a, skipSpacing r)

/-- A word in any mixture of ASCII case, as the text has it. -/
def caseless : List Char → Scanner (List Char)
  | [], s => some ([], s)
  | _ :: _, [] => none
  | w :: ws, c :: s =>
      if w.toLower = c.toLower then (caseless ws s).map fun (m, r) => (c :: m, r) else none

theorem run_consumes (p : Char → Bool) : (run p).Consumes := by
  intro s a r h
  unfold run at h
  split at h
  · simp at h
  · next c cs hc =>
    obtain ⟨rfl, rfl⟩ := by simpa using h
    exact ⟨c :: cs, by simp, by rw [← hc, List.takeWhile_append_dropWhile]⟩

theorem char_consumes (c : Char) : (char c).Consumes := by
  intro s a r h
  cases s with
  | nil => simp [char] at h
  | cons d rest =>
    simp only [char] at h
    split at h
    · next hd => exact ⟨[d], by simp, by simp_all⟩
    · simp at h

theorem padded_consumes {α : Type} {p : Scanner α} (hp : p.Consumes) : (padded p).Consumes := by
  intro s a r h
  obtain ⟨⟨b, t⟩, ht, hr⟩ := Option.map_eq_some_iff.1 h
  obtain ⟨rfl, rfl⟩ := by simpa using hr
  obtain ⟨w, hw, hs⟩ := hp _ _ _ ht
  obtain ⟨u, hu⟩ := skip_suffix isSpacing s
  obtain ⟨v, hv⟩ := skip_suffix isSpacing t
  refine ⟨u ++ w ++ v, by simp [hw], ?_⟩
  calc s = u ++ skipSpacing s := hu
    _ = u ++ (w ++ t) := by rw [hs]
    _ = u ++ w ++ v ++ skipSpacing t := by simp [skipSpacing, ← hv]

theorem caseless_append {w s m r : List Char} (h : caseless w s = some (m, r)) :
    s = m ++ r ∧ m.length = w.length := by
  induction w generalizing s m with
  | nil => simp_all [caseless]
  | cons c ws ih =>
    cases s with
    | nil => simp [caseless] at h
    | cons d s =>
      simp only [caseless] at h
      split at h
      · obtain ⟨⟨m', r'⟩, hm, hr⟩ := Option.map_eq_some_iff.1 h
        obtain ⟨rfl, rfl⟩ := by simpa using hr
        obtain ⟨rfl, hlen⟩ := ih hm
        simp [hlen]
      · simp at h

end Scanner
end Citation
