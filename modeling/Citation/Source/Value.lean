import Citation.Source.Lexeme
import Citation.Value

/-! Reading field values: quoted or braced literals, numbers, macro names, and chains of these
with `#` between them. -/
namespace Citation.Source
open Unicode Scanner

/-- The number that a run of digits behind an optional sign denotes. -/
def signedValue (s : List Char) : Int :=
  let n := Int.ofNat ((sign s).2.foldl (fun n c => 10 * n + (c.toNat - '0'.toNat)) 0)
  if (sign s).1 = ['-'] then -n else n

/-- A number is kept as one if 64 bits hold it and it is written the way numbers print. Leading
zeros, a plus sign or an overflow leave it as text. -/
def numberValue (s : List Char) : Value :=
  let n := signedValue s
  if -9223372036854775808 ≤ n ∧ n ≤ 9223372036854775807 ∧ decimal n = s then .number n
  else .literal s

def reference : Scanner Value := fun s =>
  match s with
  | [] => none
  | c :: _ => if isNumeric c then none else (name s).map fun (n, r) => (.reference n, r)

/-- One part of a value. The four forms start differently, so their order is free but for a name
that starts like a number. -/
def part : Scanner Value := fun s =>
  match quoted s with
  | some (b, r) => some (.literal b, r)
  | none => match braced s with
    | some (b, r) => some (.literal b, r)
    | none => match number s with
      | some (d, r) => some (numberValue d, r)
      | none => reference s

theorem reference_consumes : Scanner.Consumes reference := by
  intro s a r h
  cases s with
  | nil => simp [reference] at h
  | cons c s =>
    simp only [reference] at h
    split at h
    · simp at h
    · obtain ⟨⟨n, t⟩, hn, hr⟩ := Option.map_eq_some_iff.1 h
      obtain ⟨rfl, rfl⟩ := by simpa using hr
      exact run_consumes _ _ _ _ hn

theorem part_consumes : Scanner.Consumes part := by
  intro s a r h
  unfold part at h
  split at h
  · next b t hq =>
    obtain ⟨rfl, rfl⟩ := by simpa using h
    exact quoted_consumes _ _ _ hq
  · split at h
    · next b t hb =>
      obtain ⟨rfl, rfl⟩ := by simpa using h
      exact braced_consumes _ _ _ hb
    · split at h
      · next d t hd =>
        obtain ⟨rfl, rfl⟩ := by simpa using h
        exact number_consumes _ _ _ hd
      · exact reference_consumes _ _ _ h

theorem shorter_behind {s t r : List Char} {c : Char} {v : Value} (hs : skipBlank s = c :: t)
    (hp : part (skipBlank t) = some (v, r)) : r.length < s.length := by
  have h₁ := part_consumes.length_lt hp
  have h₂ := skipBlank_length_le t
  have h₃ := skipBlank_length_le s
  simp only [hs, List.length_cons] at h₃
  omega

/-- The further parts of a value, each behind a `#`. -/
def moreParts (s : List Char) : Option (List Value × List Char) :=
  match hs : skipBlank s with
  | [] => some ([], s)
  | c :: t =>
      if c = '#' then
        match hp : part (skipBlank t) with
        | none => none
        | some (v, r) =>
          have := shorter_behind hs hp
          (moreParts r).map fun (vs, r) => (v :: vs, r)
      else some ([], s)
termination_by s.length

def value : Scanner Value := fun s =>
  match part s with
  | none => none
  | some (v, r) => match moreParts r with
    | none => none
    | some ([], r) => some (v, r)
    | some (w :: vs, r) => some (.concat (v :: w :: vs), r)

theorem moreParts_append {s r : List Char} {vs : List Value} (h : moreParts s = some (vs, r)) :
    ∃ w, s = w ++ r := by
  fun_induction moreParts s generalizing vs with
  | case1 s _ =>
    obtain ⟨rfl, rfl⟩ := by simpa using h
    exact ⟨[], rfl⟩
  | case2 => simp at h
  | case3 s t v r' hp hs _ ih =>
    obtain ⟨⟨us, r''⟩, hm, hr⟩ := Option.map_eq_some_iff.1 h
    obtain ⟨rfl, rfl⟩ := by simpa using hr
    obtain ⟨w, rfl⟩ := ih hm
    obtain ⟨u, hu⟩ := skip_suffix isBlank s
    obtain ⟨u', hu'⟩ := skip_suffix isBlank t
    obtain ⟨x, _, hx⟩ := part_consumes _ _ _ hp
    refine ⟨u ++ '#' :: u' ++ x ++ w, ?_⟩
    rw [hu]
    change u ++ skipBlank s = _
    rw [hs, hu']
    change u ++ '#' :: (u' ++ skipBlank t) = _
    rw [hx]
    simp
  | case4 s _ _ _ _ =>
    obtain ⟨rfl, rfl⟩ := by simpa using h
    exact ⟨[], rfl⟩

theorem value_consumes : Scanner.Consumes value := by
  intro s a r h
  unfold value at h
  split at h
  · simp at h
  · next v t hp =>
    obtain ⟨w, hw, rfl⟩ := part_consumes _ _ _ hp
    split at h
    · simp at h
    all_goals
      next hm =>
        obtain ⟨rfl, rfl⟩ := by simpa using h
        obtain ⟨u, rfl⟩ := moreParts_append hm
        exact ⟨w ++ u, by simp [hw], by simp⟩

end Citation.Source
