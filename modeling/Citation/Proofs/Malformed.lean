import Citation.Proofs.LocalItems
import Citation.Proofs.Results
import Mathlib.Data.List.DropRight

/-! Where reading fails: the error points at the `@` of the first item that cannot be read, and what
stands before it can be read alone. No two places of a text have the same line and column. -/
namespace Citation

namespace Location

/-- The place behind a text has one line more than the text has line feeds, and one column more than
the text has characters behind the last of them. -/
structure IsBehind (l : Location) (s : List Char) : Prop where
  line : l.line = s.count '\n' + 1
  column : l.column = (s.rtakeWhile (· != '\n')).length + 1

theorem behind_concat (s : List Char) (c : Char) : behind (s ++ [c]) = (behind s).next c := by
  simp

theorem isBehind_behind (s : List Char) : (behind s).IsBehind s := by
  induction s using List.reverseRecOn with
  | nil => exact ⟨rfl, rfl⟩
  | append_singleton s c ih =>
    rw [behind_concat, next]
    split
    · next hc =>
      subst hc
      exact ⟨by simp [ih.line], by simp⟩
    · next hc =>
      exact ⟨by simp [ih.line, hc], by simp [ih.column, hc]⟩

/-- More text is at another place. -/
theorem IsBehind.eq_nil_of_append {l : Location} {s t : List Char} (hs : l.IsBehind s)
    (hst : l.IsBehind (s ++ t)) : t = [] := by
  have hline : (s ++ t).count '\n' = s.count '\n' := by
    have := hs.line.symm.trans hst.line
    omega
  have ht : ∀ c ∈ t, (c != '\n') = true := by
    intro c hc
    rw [bne_iff_ne]
    rintro rfl
    have := List.count_pos_iff.2 hc
    rw [List.count_append] at hline
    omega
  have hcolumn := hs.column.symm.trans hst.column
  have hrev : ∀ c ∈ t.reverse, (c != '\n') = true := fun c hc => ht c (List.mem_reverse.1 hc)
  rw [List.rtakeWhile, List.rtakeWhile, List.reverse_append, List.takeWhile_append_of_pos hrev]
    at hcolumn
  simp only [List.length_reverse, List.length_append] at hcolumn
  exact List.eq_nil_of_length_eq_zero (by omega)

/-- A place in a text is behind one start of the text only. -/
theorem IsBehind.unique {l : Location} {p q t u : List Char} (hp : l.IsBehind p)
    (hq : l.IsBehind q) (h : p ++ t = q ++ u) : q = p := by
  rcases List.append_eq_append_iff.1 h with ⟨v, rfl, -⟩ | ⟨v, rfl, -⟩
  · rw [hp.eq_nil_of_append hq, List.append_nil]
  · rw [hq.eq_nil_of_append hp, List.append_nil]

end Location

namespace Source
open Scanner

/-- The longest name behind white space, or nothing if there is none. -/
inductive NamedBehindSpace : List Char → List Char → Prop
  | mk {g n t : List Char} (hg : ∀ c ∈ g, isWhitespace c = true)
      (hsolid : ∀ c ∈ (n ++ t).head?, isWhitespace c = false) (hn : ∀ c ∈ n, isNameChar c = true)
      (ht : ∀ c ∈ t.head?, isNameChar c = false) : NamedBehindSpace (g ++ (n ++ t)) n

/-- The first `n` characters of a text, with dots in the place of any others. -/
inductive IsExcerpt (n : Nat) : List Char → List Char → Prop
  | whole {s : List Char} (h : s.length ≤ n) : IsExcerpt n s s
  | cut {s t : List Char} (hs : s.length = n) (ht : t ≠ []) :
      IsExcerpt n (s ++ t) (s ++ "...".toList)

theorem namedBehindSpace_takeWhile (r : List Char) :
    NamedBehindSpace r ((trimStart r).takeWhile isNameChar) := by
  have hsplit : r = r.takeWhile isWhitespace ++
      ((trimStart r).takeWhile isNameChar ++ (trimStart r).dropWhile isNameChar) := by
    rw [List.takeWhile_append_dropWhile, trimStart, List.takeWhile_append_dropWhile]
  have hnamed : NamedBehindSpace (r.takeWhile isWhitespace ++
      ((trimStart r).takeWhile isNameChar ++ (trimStart r).dropWhile isNameChar))
      ((trimStart r).takeWhile isNameChar) := by
    refine .mk (fun c => List.mem_takeWhile_imp) ?_ (fun c => List.mem_takeWhile_imp)
      (head_dropWhile _ _)
    rw [List.takeWhile_append_dropWhile]
    exact head_dropWhile _ _
  rwa [← hsplit] at hnamed

theorem isExcerpt_excerpt (n : Nat) (s : List Char) : IsExcerpt n s (excerpt n s) := by
  unfold excerpt
  split
  · next h => exact .whole h
  · next h =>
    have hcut : IsExcerpt n (s.take n ++ s.drop n) (s.take n ++ "...".toList) := by
      refine .cut (by simp; omega) ?_
      rw [Ne, List.drop_eq_nil_iff]
      omega
    rwa [List.take_append_drop] at hcut

/-- The text before the first item that cannot be read has items of its own. -/
theorem items_before_error (s : List Char) : ∀ r, items s = .error r →
    ∃ p is t, s = p ++ r ∧ items p = .ok is ∧ r = '@' :: t ∧ item r = none := by
  induction s using items_induction with
  | blank s hs =>
    intro r hr
    rw [items_of_nil hs] at hr
    cases hr
  | stuck s t hs hi =>
    intro r hr
    rw [items_of_stuck hs hi] at hr
    obtain rfl : '@' :: t = r := Except.error.inj hr
    refine ⟨s.takeWhile isBlank, [], t, ?_, ?_, rfl, hi⟩
    · rw [← hs, skipBlank, List.takeWhile_append_dropWhile]
    · apply items_of_nil
      exact List.dropWhile_eq_nil_iff.2 fun c => List.mem_takeWhile_imp
  | more s i r₀ hl ih =>
    intro r hr
    rw [items_of_leading hl, map_eq_error_iff] at hr
    obtain ⟨p, is, t, rfl, his, rfl, hi⟩ := ih r hr
    obtain ⟨w, g, hne, hskip, hg, hw⟩ := settled_leading _ _ _ hl
    obtain ⟨u, rfl, hu⟩ := skip_front hskip hne
    refine ⟨u ++ (w ++ (g ++ p)), i :: is, t, by simp, ?_, rfl, hi⟩
    have hfollow : MayFollow i (g ++ (p ++ '@' :: t)) (g ++ p) := by
      intro _
      rw [← List.append_assoc]
      exact startsLike_append (g ++ p) ('@' :: t)
    obtain ⟨r', hread, hr'⟩ := hw _ hfollow
    have hfront : skipBlank (u ++ (w ++ (g ++ p))) = w ++ (g ++ p) := hu (g ++ p)
    rw [← hfront] at hread
    rw [items_of_leading hread, items_congr (hr'.trans (skipBlank_append_of_blank hg p)), his]
    rfl

theorem malformedAt_append (p r : List Char) :
    malformedAt (p ++ '@' :: r) ('@' :: r) = .malformed (.behind p)
      ((trimStart r).takeWhile isNameChar) (excerpt 40 ('@' :: r)) := by
  simp [malformedAt]

theorem parse_of_items_error {p r : List Char}
    (h : items (p ++ '@' :: r) = .error ('@' :: r)) :
    parse (p ++ '@' :: r) = .error (.malformed (.behind p) ((trimStart r).takeWhile isNameChar)
      (excerpt 40 ('@' :: r))) := by
  simp only [parse, h, malformedAt_append]

/-- A text that cannot be read splits at the first item that cannot be read. -/
theorem exists_split_of_parse_error {s : List Char} {err : Error} (h : parse s = .error err) :
    ∃ p r is, s = p ++ '@' :: r ∧ items s = .error ('@' :: r) ∧ items p = .ok is ∧
      item ('@' :: r) = none ∧ err = .malformed (.behind p) ((trimStart r).takeWhile isNameChar)
        (excerpt 40 ('@' :: r)) := by
  cases hitems : items s with
  | ok is => simp [parse, hitems] at h
  | error rest =>
    obtain ⟨p, is, r, rfl, his, rfl, hi⟩ := items_before_error s rest hitems
    rw [parse_of_items_error hitems, Except.error.injEq] at h
    exact ⟨p, r, is, rfl, rfl, his, hi, h.symm⟩

/-- Reading fails at one character of the text only, the `@` of the first item that cannot be read.
The error has its line and column, the longest name behind it and the text from there on. -/
theorem parse_fails_at_item {s : List Char} {err : Error} (h : parse s = .error err) :
    ∃ l kind text p r, err = .malformed l kind text ∧ s = p ++ '@' :: r ∧
      l.IsBehind p ∧ (∀ q t, s = q ++ t → l.IsBehind q → q = p) ∧
      (∃ is, parse p = .ok is) ∧ item ('@' :: r) = none ∧
      NamedBehindSpace r kind ∧ IsExcerpt 40 ('@' :: r) text := by
  obtain ⟨p, r, is, rfl, -, his, hi, rfl⟩ := exists_split_of_parse_error h
  refine ⟨_, _, _, p, r, rfl, rfl, Location.isBehind_behind p, ?_, ?_, hi,
    namedBehindSpace_takeWhile r, isExcerpt_excerpt 40 _⟩
  · exact fun q t hq hbehind => (Location.isBehind_behind p).unique hbehind hq
  · exact ⟨is, by rw [parse, his]⟩

/-- Text of two lines and an entry without an end. -/
def unfinished : List Char := "é\r\n @x\x7b".toList

theorem parse_unfinished :
    parse unfinished = .error (.malformed ⟨2, 2⟩ "x".toList "@x\x7b".toList) := by
  have hleading : leading (skipBlank unfinished) =
      some (.comment "é".toList, "@x\x7b".toList) := rfl
  have hstuck : items "@x\x7b".toList = .error "@x\x7b".toList :=
    items_of_stuck rfl (by decide)
  have hmalformed : malformedAt unfinished "@x\x7b".toList =
      .malformed ⟨2, 2⟩ "x".toList "@x\x7b".toList := by decide
  rw [parse, items_of_leading hleading, hstuck, ← hmalformed]
  rfl

/-- The error in the second line, behind a carriage return. -/
theorem parse_fails_at_item_unfinished :
    parse unfinished = .error (.malformed ⟨2, 2⟩ "x".toList "@x\x7b".toList) ∧
      ∃ l kind text p r,
        Error.malformed ⟨2, 2⟩ "x".toList "@x\x7b".toList = .malformed l kind text ∧
        unfinished = p ++ '@' :: r ∧ l.IsBehind p ∧
        (∀ q t, unfinished = q ++ t → l.IsBehind q → q = p) ∧
        (∃ is, parse p = .ok is) ∧ item ('@' :: r) = none ∧
        NamedBehindSpace r kind ∧ IsExcerpt 40 ('@' :: r) text :=
  ⟨parse_unfinished, parse_fails_at_item parse_unfinished⟩

end Source
end Citation
