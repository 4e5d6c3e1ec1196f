import Citation.Entry
import Citation.Source.Value

/-! Reading entries: a type, an opening brace or parenthesis, a citation key, and fields behind
commas up to the matching close. -/
namespace Citation.Source
open Scanner

/-- An opening delimiter; its value is the closing one. -/
def opening : Scanner Char
  | [] => none
  | c :: s => if c = '{' then some ('}', s) else if c = '(' then some (')', s) else none

/-- A name, an equals sign and a value. -/
def assignment : Scanner (List Char × Value) := fun s =>
  match padded name s with
  | none => none
  | some (n, r) => match padded (char '=') r with
    | none => none
    | some (_, r) => (padded value r).map fun (v, r) => ((n, v), r)

def field : Scanner Field := fun s => (assignment s).map fun ((n, v), r) => (⟨n, v⟩, r)

theorem opening_consumes : Scanner.Consumes opening := by
  intro s a r h
  cases s with
  | nil => simp [opening] at h
  | cons c s =>
    simp only [opening] at h
    split at h
    · exact ⟨[c], by simp, by simp_all⟩
    · split at h
      · exact ⟨[c], by simp, by simp_all⟩
      · simp at h

theorem assignment_consumes : Scanner.Consumes assignment := by
  intro s a r h
  unfold assignment at h
  split at h
  · simp at h
  · next n r₁ hn =>
    obtain ⟨w₁, hw₁, rfl⟩ := padded_consumes (run_consumes _) _ _ _ hn
    split at h
    · simp at h
    · next r₂ he =>
      obtain ⟨w₂, _, rfl⟩ := padded_consumes (char_consumes _) _ _ _ he
      obtain ⟨⟨v, r₃⟩, hv, hr⟩ := Option.map_eq_some_iff.1 h
      obtain ⟨rfl, rfl⟩ := by simpa using hr
      obtain ⟨w₃, _, rfl⟩ := padded_consumes value_consumes _ _ _ hv
      exact ⟨w₁ ++ w₂ ++ w₃, by simp [hw₁], by simp⟩

theorem field_consumes : Scanner.Consumes field := by
  intro s a r h
  obtain ⟨⟨b, t⟩, hb, hr⟩ := Option.map_eq_some_iff.1 h
  obtain ⟨rfl, rfl⟩ := by simpa using hr
  exact assignment_consumes _ _ _ hb

theorem shorter_behind_comma {s t r : List Char} {c : Char} {f : Field}
    (hf : field (skipBlank s) = some (f, r)) (hr : skipBlank r = c :: t) :
    t.length < s.length := by
  have h₁ := field_consumes.length_lt hf
  have h₂ := skipBlank_length_le s
  have h₃ := skipBlank_length_le r
  simp only [hr, List.length_cons] at h₃
  omega

/-- Fields with commas between them, up to the closing delimiter or the end of the text. A comma
may follow the last field. -/
def fields (close : Char) (s : List Char) : Option (List Field × List Char) :=
  if skipBlank s = [] ∨ (skipBlank s).head? = some close then some ([], skipBlank s)
  else match hf : field (skipBlank s) with
    | none => none
    | some (f, r) => match hr : skipBlank r with
      | [] => none
      | c :: t =>
        if c = ',' then
          have := shorter_behind_comma hf hr
          (fields close t).map fun (fs, r) => (f :: fs, r)
        else if c = close then some ([f], c :: t)
        else none
termination_by s.length

/-- The fields behind the key, if a comma follows it. -/
def fieldsAfterKey (close : Char) : List Char → Option (List Field × List Char)
  | [] => some ([], [])
  | c :: s => if c = ',' then fields close s else some ([], c :: s)

/-- An entry without its `@`. -/
def entry : Scanner Entry := fun s =>
  match name s with
  | none => none
  | some (type, r) => match opening (skipBlank r) with
    | none => none
    | some (close, r) => match padded entryKey r with
      | none => none
      | some (key, r) => match fieldsAfterKey close r with
        | none => none
        | some (fs, r) => (padded (char close) r).map fun (_, r) => (⟨.ofName type, key, fs⟩, r)

theorem fields_append {close : Char} {s r : List Char} {fs : List Field}
    (h : fields close s = some (fs, r)) : ∃ w, s = w ++ r := by
  fun_induction fields close s generalizing fs with
  | case1 s _ =>
    obtain ⟨rfl, rfl⟩ := by simpa using h
    exact skip_suffix isBlank s
  | case2 => simp at h
  | case3 => simp at h
  | case4 s hne f r' hf t hr _ ih =>
    obtain ⟨⟨us, r''⟩, hm, hs⟩ := Option.map_eq_some_iff.1 h
    obtain ⟨rfl, rfl⟩ := by simpa using hs
    obtain ⟨w, rfl⟩ := ih hm
    obtain ⟨u, hu⟩ := skip_suffix isBlank s
    obtain ⟨u', hu'⟩ := skip_suffix isBlank r'
    obtain ⟨x, _, hx⟩ := field_consumes _ _ _ hf
    change s = u ++ skipBlank s at hu
    change r' = u' ++ skipBlank r' at hu'
    exact ⟨u ++ x ++ u' ++ ',' :: w, by rw [hu, hx, hu', hr]; simp⟩
  | case5 s hne f r' hf t hr _ =>
    obtain ⟨rfl, rfl⟩ := by simpa using h
    obtain ⟨u, hu⟩ := skip_suffix isBlank s
    obtain ⟨u', hu'⟩ := skip_suffix isBlank r'
    obtain ⟨x, _, hx⟩ := field_consumes _ _ _ hf
    change s = u ++ skipBlank s at hu
    change r' = u' ++ skipBlank r' at hu'
    exact ⟨u ++ x ++ u', by rw [hu, hx, hu', hr]; simp⟩
  | case6 => simp at h

theorem fieldsAfterKey_append {close : Char} {s r : List Char} {fs : List Field}
    (h : fieldsAfterKey close s = some (fs, r)) : ∃ w, s = w ++ r := by
  cases s with
  | nil => exact ⟨[], by simp_all [fieldsAfterKey]⟩
  | cons c s =>
    simp only [fieldsAfterKey] at h
    split at h
    · obtain ⟨w, rfl⟩ := fields_append h
      exact ⟨c :: w, rfl⟩
    · exact ⟨[], by simp_all⟩

theorem entry_consumes : Scanner.Consumes entry := by
  intro s a r h
  unfold entry at h
  split at h
  · simp at h
  · next type r₁ ht =>
    obtain ⟨w₁, hw₁, rfl⟩ := run_consumes _ _ _ _ ht
    obtain ⟨u, hu⟩ := skip_suffix isBlank r₁
    split at h
    · simp at h
    · next close r₂ ho =>
      obtain ⟨w₂, _, hw₂⟩ := opening_consumes _ _ _ ho
      split at h
      · simp at h
      · next key r₃ hk =>
        obtain ⟨w₃, _, rfl⟩ := padded_consumes (run_consumes _) _ _ _ hk
        split at h
        · simp at h
        · next fs r₄ hf =>
          obtain ⟨w₄, rfl⟩ := fieldsAfterKey_append hf
          obtain ⟨⟨x, r₅⟩, hc, hr⟩ := Option.map_eq_some_iff.1 h
          obtain ⟨rfl, rfl⟩ := by simpa using hr
          obtain ⟨w₅, _, rfl⟩ := padded_consumes (char_consumes _) _ _ _ hc
          change r₁ = u ++ skipBlank r₁ at hu
          exact ⟨w₁ ++ u ++ w₂ ++ w₃ ++ w₄ ++ w₅, by simp [hw₁], by rw [hu, hw₂]; simp⟩

end Citation.Source
