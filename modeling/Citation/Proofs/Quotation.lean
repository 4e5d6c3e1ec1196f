import Citation.Proofs.FirstStops
import Citation.Proofs.LocalReading

/-! Quotes in the place of braces. A text that a group may hold is read alike between quotes, with
the same value and the same rest behind it, exactly if its quotes are in groups of its own or behind
backslashes that shield them. -/
namespace Citation.Source
open Scanner

/-- Each quote of a text is in a group of the text, or a backslash shields it. -/
def QuotesCovered (s : List Char) : Prop :=
  ∀ a b, s = a ++ '\"' :: b →
    0 < (a.foldl Place.behind .outside).depth ∨ (a.foldl Place.behind .outside).shielded = true

theorem Place.ne_outside_iff (p : Place) : p ≠ .outside ↔ 0 < p.depth ∨ p.shielded = true := by
  obtain ⟨depth, shielded⟩ := p
  rw [Ne, outside, Place.mk.injEq, Nat.pos_iff_ne_zero]
  cases shielded <;> simp

/-- Such a text has no quote that ends a string. -/
theorem quotesCovered_iff {s : List Char} : QuotesCovered s ↔ quotedBody 0 s = none := by
  rw [quotedBody_eq_none_iff]
  constructor
  · rintro hs ⟨a, b, rfl, ha⟩
    exact (Place.ne_outside_iff _).2 (hs a b rfl) ha
  · intro hs a b hsplit
    exact (Place.ne_outside_iff _).1 fun ha => hs ⟨a, b, hsplit, ha⟩

instance : DecidablePred QuotesCovered := fun _ => decidable_of_iff _ quotesCovered_iff.symm

/-- Behind a balanced text all its groups are closed, and no backslash is left. -/
theorem Balanced.outside {s : List Char} (h : Balanced s) :
    s.foldl Place.behind .outside = .outside := by
  obtain ⟨_, -, hfirst⟩ := groupBody_eq_some_iff.1 h
  exact hfirst.1.outside

/-- A string ends at the first quote that is not covered, be it in the text or behind it. -/
theorem quoted_append_iff {s : List Char} (hs : Balanced s) (r : List Char) :
    quoted ('\"' :: (s ++ '\"' :: r)) = some (s, r) ↔ QuotesCovered s := by
  rw [quoted_eq_some_iff]
  constructor
  · rintro ⟨t, ht, -, hfirst⟩ a b hsplit
    obtain rfl : s ++ '\"' :: r = t := (List.cons.inj ht).2
    rw [← Place.ne_outside_iff]
    intro ha
    -- The text would be cut at the open quote, and `s` is longer.
    have hcut := hfirst a (b ++ '\"' :: r) ⟨by simp [hsplit], ha⟩
    rw [hsplit, List.length_append, List.length_cons] at hcut
    omega
  · intro hcovered
    refine ⟨_, rfl, ⟨rfl, hs.outside⟩, ?_⟩
    rintro a b ⟨hsplit, ha⟩
    by_contra hshort
    rcases List.append_eq_append_iff.1 hsplit with ⟨v, rfl, -⟩ | ⟨v, rfl, hv⟩
    · simp at hshort
    · cases v with
      | nil => simp at hshort
      | cons c v =>
        obtain rfl : '\"' = c := (List.cons.inj hv).1
        exact (Place.ne_outside_iff _).2 (hcovered a v rfl) ha

theorem value_of_part {s r : List Char} {v : Value} (h : part s = some (v, r)) :
    value s = mapped moreParts (ofParts v) r := by
  rw [value_eq, andThen, h]

theorem value_braced {s : List Char} (hs : Balanced s) (r : List Char) :
    value ('{' :: (s ++ '}' :: r)) = mapped moreParts (ofParts (.literal s)) r := by
  apply value_of_part
  simp [part, quoted_cons, hs.braced_append]

/-- At a quote only a string is read. -/
theorem part_quote (s : List Char) :
    part ('\"' :: s) = mapped quoted .literal ('\"' :: s) := by
  have hbraced : braced ('\"' :: s) = none := braced_cons (by decide) s
  have hnumber : number ('\"' :: s) = none := number_eq_none_iff.2 (by simp [sign])
  have hreference : reference ('\"' :: s) = none := by
    have hname : name ('\"' :: s) = none := run_eq_none (by simp; decide)
    simp [reference, hname]
  simp only [part, mapped, hbraced, hnumber, hreference]
  cases quoted ('\"' :: s) <;> rfl

/-- A text that is the literal between its quotes is the string between them. -/
theorem quoted_of_value {s : List Char}
    (h : value ('\"' :: (s ++ ['\"'])) = some (.literal s, [])) :
    quoted ('\"' :: (s ++ ['\"'])) = some (s, []) := by
  rw [value_eq, andThen_eq_some] at h
  obtain ⟨v, t, hpart, hmore⟩ := h
  rw [part_quote, mapped_eq_some] at hpart
  obtain ⟨b, hread, rfl⟩ := hpart
  obtain ⟨vs, -, hvs⟩ := mapped_eq_some.1 hmore
  cases vs with
  | cons w vs => cases hvs
  | nil =>
    obtain rfl : b = s := Value.literal.inj hvs
    have hbody : quotedBody 0 (b ++ ['\"']) = some (b, t) := by simpa [quoted] using hread
    obtain rfl : t = [] := by simpa using quotedBody_append hbody
    exact hread

/-- A chain of parts starts with its first part. -/
theorem head?_chainOf_ofParts {v : Value} (hv : ∀ vs, v ≠ .concat vs) (vs : List Value) :
    (chainOf (ofParts v vs)).head? = some v := by
  cases vs with
  | cons w vs => rfl
  | nil =>
    cases v with
    | concat vs => exact absurd rfl (hv vs)
    | _ => rfl

/-- A balanced text reads the same in quotes as in braces, before any text, exactly if its quotes
are covered. What is read is the literal with the parts that follow it. -/
theorem value_quoted_eq_braced {s : List Char} (hs : Balanced s) :
    ((∀ r, value ('\"' :: (s ++ '\"' :: r)) = value ('{' :: (s ++ '}' :: r))) ↔ QuotesCovered s) ∧
      ∀ r, value ('{' :: (s ++ '}' :: r)) =
          (moreParts r).map (fun (vs, t) => (ofParts (.literal s) vs, t)) ∧
        ∀ v t, value ('{' :: (s ++ '}' :: r)) = some (v, t) →
          (chainOf v).head? = some (.literal s) := by
  refine ⟨⟨fun h => ?_, fun h r => ?_⟩, fun r => ⟨value_braced hs r, fun v t hv => ?_⟩⟩
  · have hend : value ('{' :: (s ++ ['}'])) = some (.literal s, []) := by
      rw [value_braced hs, mapped, moreParts_of_end (by simp [skipBlank])]
      rfl
    exact (quoted_append_iff hs []).1 (quoted_of_value ((h []).trans hend))
  · have hread := (quoted_append_iff hs r).2 h
    rw [value_braced hs, value_of_part (by rw [part_quote, mapped, hread]; rfl)]
  · rw [value_braced hs, mapped_eq_some] at hv
    obtain ⟨vs, -, rfl⟩ := hv
    exact head?_chainOf_ofParts (by simp) vs

/-- A shielded quote, a quote in a group, and a shielded brace. -/
theorem value_quoted_eq_braced_covered :
    let s := "\\\"o \x7b\"q\"\x7d \\\x7b".toList
    Balanced s ∧ QuotesCovered s ∧
      (∀ r, value ('\"' :: (s ++ '\"' :: r)) = value ('{' :: (s ++ '}' :: r))) ∧
      ∀ r, value ('{' :: (s ++ '}' :: r)) =
          (moreParts r).map (fun (vs, t) => (ofParts (.literal s) vs, t)) ∧
        ∀ v t, value ('{' :: (s ++ '}' :: r)) = some (v, t) →
          (chainOf v).head? = some (.literal s) := by
  intro s
  have hs : Balanced s := by decide +kernel
  have hcovered : QuotesCovered s := by decide +kernel
  obtain ⟨hsame, hvalue⟩ := value_quoted_eq_braced hs
  exact ⟨hs, hcovered, hsame.2 hcovered, hvalue⟩

end Citation.Source
