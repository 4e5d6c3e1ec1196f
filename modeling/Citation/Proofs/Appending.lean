import Citation.Proofs.Malformed

/-! Sources that are appended: what the first text holds is read as before, and then what the second
one holds, or its error at the place where it now stands. -/
namespace Citation.Source
open Scanner

/-- An item that stands before others leaves some text to them. -/
theorem ne_nil_of_items {r : List Char} {is : List Item} (h : items r = .ok is) (his : is ≠ []) :
    r ≠ [] := by
  rintro rfl
  rw [items_of_nil rfl] at h
  exact his (Except.ok.inj h).symm

/-- The first item of a text is the same before more text, unless it is a comment that ran up to the
end. -/
theorem items_append_of_leading {a r : List Char} {i : Item}
    (h : leading (skipBlank a) = some (i, r)) (hend : i.isComment = true → r ≠ [])
    (b : List Char) : items (a ++ b) = (items (r ++ b)).map (i :: ·) := by
  obtain ⟨w, g, hne, hskip, hg, hw⟩ := settled_leading _ _ _ h
  obtain ⟨u, rfl, hu⟩ := skip_front hskip hne
  have hfollow : MayFollow i (g ++ r) (g ++ r ++ b) := by
    intro hcomment
    have hrest : g ++ r ≠ [] := by simp [hend hcomment]
    simpa using startsLike_of_ne_nil hrest [] b
  obtain ⟨r', hread, hr'⟩ := hw _ hfollow
  have hfront : skipBlank (u ++ (w ++ (g ++ r)) ++ b) = w ++ (g ++ r ++ b) := by
    simpa [skipBlank] using hu (g ++ r ++ b)
  rw [List.append_assoc, skipBlank_append_of_blank hg] at hr'
  rw [← hfront] at hread
  rw [items_of_leading hread, items_congr hr']

/-- Items do not run on into the text behind them, unless the last one is a comment. -/
theorem items_append (a b : List Char) : ∀ is, items a = .ok is →
    (∀ i ∈ is.getLast?, i.isComment = false) → items (a ++ b) = (items b).map (is ++ ·) := by
  induction a using items_induction with
  | blank a ha =>
    intro is his _
    rw [items_of_nil ha] at his
    obtain rfl : [] = is := Except.ok.inj his
    have hblank : ∀ c ∈ a, isBlank c = true := fun c => List.dropWhile_eq_nil_iff.1 ha c
    rw [items_congr (skipBlank_append_of_blank hblank b)]
    cases items b <;> rfl
  | stuck a t ha hi =>
    intro is his _
    rw [items_of_stuck ha hi] at his
    cases his
  | more a i r hl ih =>
    intro is his hlast
    rw [items_of_leading hl, map_eq_ok_iff] at his
    obtain ⟨js, hjs, rfl⟩ := his
    have hend : i.isComment = true → r ≠ [] := by
      intro hcomment
      apply ne_nil_of_items hjs
      rintro rfl
      rw [hlast i rfl] at hcomment
      cases hcomment
    have hlast' : ∀ j ∈ js.getLast?, j.isComment = false := by
      cases js with
      | nil => exact fun _ hj => nomatch hj
      | cons j js => exact List.getLast?_cons_cons ▸ hlast
    rw [items_append_of_leading hl hend b, ih js hjs hlast']
    cases items b <;> rfl

theorem parse_eq_ok_iff {s : List Char} {is : List Item} : parse s = .ok is ↔ items s = .ok is := by
  unfold parse
  cases items s <;> simp

theorem parse_eq_ok_of_items {s t : List Char} {f : List Item → List Item}
    (h : items s = (items t).map f) (is : List Item) :
    parse s = .ok is ↔ ∃ ts, parse t = .ok ts ∧ is = f ts := by
  rw [parse_eq_ok_iff, h, map_eq_ok_iff]
  constructor
  · rintro ⟨ts, hts, rfl⟩
    exact ⟨ts, parse_eq_ok_iff.2 hts, rfl⟩
  · rintro ⟨ts, hts, rfl⟩
    exact ⟨ts, parse_eq_ok_iff.1 hts, rfl⟩

/-- Behind a source that ends with an entry, a definition or a preamble, or that is blank, a text is
read as it is read alone. An error is at the same character, which is now further behind. -/
theorem parse_append {a : List Char} {is : List Item} (ha : parse a = .ok is)
    (hend : (∀ c ∈ a, isBlank c = true) ∨ ∃ i ∈ is.getLast?, i.isComment = false)
    (b : List Char) :
    (∀ cs, parse (a ++ b) = .ok cs ↔ ∃ bs, parse b = .ok bs ∧ cs = is ++ bs) ∧
      ∀ err, parse b = .error err → ∃ l l' kind text p r,
        err = .malformed l kind text ∧ b = p ++ '@' :: r ∧ l.IsBehind p ∧
        (∀ q t, b = q ++ t → l.IsBehind q → q = p) ∧
        parse (a ++ b) = .error (.malformed l' kind text) ∧ l'.IsBehind (a ++ p) := by
  have hlast : ∀ i ∈ is.getLast?, i.isComment = false := by
    rcases hend with hblank | ⟨i, hi, hcomment⟩
    · rw [parse_eq_ok_iff, items_of_nil (List.dropWhile_eq_nil_iff.2 hblank)] at ha
      obtain rfl : [] = is := Except.ok.inj ha
      exact fun _ hi => nomatch hi
    · intro j hj
      obtain rfl : i = j := Option.some.inj (hi.symm.trans hj)
      exact hcomment
  have happend := items_append a b is (parse_eq_ok_iff.1 ha) hlast
  constructor
  · intro cs
    rw [parse_eq_ok_iff, happend, map_eq_ok_iff]
    constructor
    · rintro ⟨bs, hbs, rfl⟩
      exact ⟨bs, parse_eq_ok_iff.2 hbs, rfl⟩
    · rintro ⟨bs, hbs, rfl⟩
      exact ⟨bs, parse_eq_ok_iff.1 hbs, rfl⟩
  · intro err herr
    obtain ⟨p, r, -, rfl, hitems, -, -, rfl⟩ := exists_split_of_parse_error herr
    have herror : items ((a ++ p) ++ '@' :: r) = .error ('@' :: r) := by
      rw [List.append_assoc, happend, hitems]
      rfl
    have hparse := parse_of_items_error herror
    rw [List.append_assoc] at hparse
    refine ⟨_, _, _, _, p, r, rfl, rfl, Location.isBehind_behind p, ?_, hparse,
      Location.isBehind_behind (a ++ p)⟩
    exact fun q t hq hbehind => (Location.isBehind_behind p).unique hbehind hq

/-- A comment that fills its line, a definition behind it, and a space. -/
def remarked : List Char := "%é\n@string\x7bm=\x7bx\x7d\x7d ".toList

def remarkedItems : List Item :=
  [.comment "%é".toList, .definition "m".toList (.literal "x".toList)]

theorem parse_remarked : parse remarked = .ok remarkedItems := by
  have hcomment : leading (skipBlank remarked) =
      some (.comment "%é".toList, "\n@string\x7bm=\x7bx\x7d\x7d ".toList) := rfl
  have hassignment : WrittenAssignment "m".toList (.literal "x".toList) "m=\x7bx\x7d".toList :=
    .mk isSpacing_nil isSpacing_nil (.one (.literal "x".toList))
  have hkeyword : IsKeyword "string".toList "string".toList := by
    simp [IsKeyword, sameName]
  have hwritten : Written [.definition "m".toList (.literal "x".toList)]
      ("\n".toList ++ ("@string\x7bm=\x7bx\x7d\x7d".toList ++ " ".toList)) :=
    .cons (by simp [IsSpacing, isSpacing]) (.definition isSpacing_nil hkeyword isSpacing_nil
      .braces isSpacing_nil hassignment isSpacing_nil) (.nil (by simp [IsSpacing, isSpacing]))
  have hdefinition := items_of_written hwritten (by decide) _ rfl
  rw [parse_eq_ok_iff, items_of_leading hcomment]
  exact congrArg (Except.map _) hdefinition

/-- Behind a definition, a text keeps its items and the places of its errors move. -/
theorem parse_append_remarked :
    parse remarked = .ok remarkedItems ∧
      ((∀ c ∈ remarked, isBlank c = true) ∨
        ∃ i ∈ remarkedItems.getLast?, i.isComment = false) ∧
      (∀ cs, parse (remarked ++ unfinished) = .ok cs ↔
        ∃ bs, parse unfinished = .ok bs ∧ cs = remarkedItems ++ bs) ∧
      ∀ err, parse unfinished = .error err → ∃ l l' kind text p r,
        err = .malformed l kind text ∧ unfinished = p ++ '@' :: r ∧ l.IsBehind p ∧
        (∀ q t, unfinished = q ++ t → l.IsBehind q → q = p) ∧
        parse (remarked ++ unfinished) = .error (.malformed l' kind text) ∧
        l'.IsBehind (remarked ++ p) := by
  have hend : (∀ c ∈ remarked, isBlank c = true) ∨
      ∃ i ∈ remarkedItems.getLast?, i.isComment = false := .inr ⟨_, rfl, rfl⟩
  exact ⟨parse_remarked, hend, parse_append parse_remarked hend unfinished⟩

end Citation.Source
