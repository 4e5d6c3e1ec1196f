import Citation.Proofs.Lexemes

/-! Where groups and strings end: at the first stop outside all groups that no backslash shields.
Braces and backslashes are counted character by character. -/
namespace Citation.Source

/-- The place of a character among the braces and backslashes in front of it. -/
structure Place where
  depth : Nat
  shielded : Bool
  deriving DecidableEq

namespace Place

/-- In no group, and behind no backslash that shields. -/
def outside : Place := ⟨0, false⟩

/-- The place behind a character. -/
def behind (p : Place) (c : Char) : Place :=
  if p.shielded then ⟨p.depth, false⟩
  else if c = '\\' then ⟨p.depth, true⟩
  else ⟨depthAfter c p.depth, false⟩

end Place

/-- What a text holds in front of a stop outside all groups, and what it holds behind it. -/
structure EndsAt (stop : Char) (p : Place) (s b r : List Char) : Prop where
  split : s = b ++ stop :: r
  outside : b.foldl Place.behind p = .outside

/-- No such stop is nearer. -/
def EndsFirst (stop : Char) (p : Place) (s b r : List Char) : Prop :=
  EndsAt stop p s b r ∧ ∀ b' r', EndsAt stop p s b' r' → b.length ≤ b'.length

/-- The text before the first stop outside all groups, and the rest from that stop on. -/
def endFrom (stop : Char) (p : Place) : Scanner (List Char)
  | [] => none
  | c :: s =>
      if p = .outside ∧ c = stop then some ([], c :: s)
      else (endFrom stop (p.behind c) s).map fun (b, r) => (c :: b, r)

theorem endsAt_nil {stop c : Char} {p : Place} {s r : List Char} :
    EndsAt stop p (c :: s) [] r ↔ (p = .outside ∧ c = stop) ∧ s = r := by
  refine ⟨fun ⟨hs, hp⟩ => ?_, ?_⟩
  · obtain ⟨rfl, rfl⟩ := by simpa using hs
    exact ⟨⟨hp, rfl⟩, rfl⟩
  · rintro ⟨⟨rfl, rfl⟩, rfl⟩
    exact ⟨rfl, rfl⟩

theorem endsAt_cons {stop c d : Char} {p : Place} {s b r : List Char} :
    EndsAt stop p (c :: s) (d :: b) r ↔ c = d ∧ EndsAt stop (p.behind c) s b r := by
  refine ⟨fun ⟨hs, hp⟩ => ?_, ?_⟩
  · obtain ⟨rfl, rfl⟩ := by simpa using hs
    exact ⟨rfl, rfl, hp⟩
  · rintro ⟨rfl, rfl, hp⟩
    exact ⟨rfl, hp⟩

theorem not_endsAt_nil {stop : Char} {p : Place} {b r : List Char} : ¬EndsAt stop p [] b r := by
  rintro ⟨hs, -⟩
  simp at hs

theorem EndsFirst.unique {stop : Char} {p : Place} {s b r b' r' : List Char}
    (h : EndsFirst stop p s b r) (h' : EndsFirst stop p s b' r') : b = b' ∧ r = r' := by
  have hlength : b.length = b'.length := Nat.le_antisymm (h.2 b' r' h'.1) (h'.2 b r h.1)
  have hsplit : b ++ stop :: r = b' ++ stop :: r' := h.1.split.symm.trans h'.1.split
  obtain ⟨hb, hr⟩ := List.append_inj hsplit hlength
  exact ⟨hb, (List.cons.inj hr).2⟩

theorem endFrom_sound {stop : Char} {p : Place} {s b r : List Char}
    (h : endFrom stop p s = some (b, r)) : ∃ t, r = stop :: t ∧ EndsFirst stop p s b t := by
  induction s generalizing p b with
  | nil => simp [endFrom] at h
  | cons c s ih =>
    rw [endFrom] at h
    split at h
    next hstop =>
      obtain ⟨rfl, rfl⟩ := by simpa using h
      exact ⟨s, by rw [hstop.2], endsAt_nil.2 ⟨hstop, rfl⟩, fun _ _ _ => Nat.zero_le _⟩
    next hstop =>
      obtain ⟨⟨b', r'⟩, hb, hr⟩ := Option.map_eq_some_iff.1 h
      obtain ⟨rfl, rfl⟩ := by simpa using hr
      obtain ⟨t, rfl, hends, hfirst⟩ := ih hb
      refine ⟨t, rfl, endsAt_cons.2 ⟨rfl, hends⟩, fun b' r' h' => ?_⟩
      cases b' with
      | nil => exact absurd (endsAt_nil.1 h').1 hstop
      | cons d b' => exact Nat.succ_le_succ (hfirst b' r' (endsAt_cons.1 h').2)

theorem endFrom_complete {stop : Char} {p : Place} {s b r : List Char}
    (h : EndsAt stop p s b r) : endFrom stop p s ≠ none := by
  induction s generalizing p b with
  | nil => exact absurd h not_endsAt_nil
  | cons c s ih =>
    rw [endFrom]
    split
    next => simp
    next hstop =>
      cases b with
      | nil => exact absurd (endsAt_nil.1 h).1 hstop
      | cons d b => simpa using ih (endsAt_cons.1 h).2

theorem endFrom_eq_some_iff {stop : Char} {p : Place} {s b r : List Char} :
    endFrom stop p s = some (b, r) ↔ ∃ t, r = stop :: t ∧ EndsFirst stop p s b t := by
  refine ⟨endFrom_sound, ?_⟩
  rintro ⟨t, rfl, hfirst⟩
  obtain ⟨⟨b', r'⟩, hend⟩ := Option.ne_none_iff_exists'.1 (endFrom_complete hfirst.1)
  obtain ⟨t', rfl, hfirst'⟩ := endFrom_sound hend
  obtain ⟨rfl, rfl⟩ := hfirst.unique hfirst'
  exact hend

theorem endFrom_eq_none_iff {stop : Char} {p : Place} {s : List Char} :
    endFrom stop p s = none ↔ ¬∃ b r, EndsAt stop p s b r := by
  refine ⟨fun h ⟨b, r, hends⟩ => endFrom_complete hends h, fun h => ?_⟩
  cases hend : endFrom stop p s with
  | none => rfl
  | some x =>
    obtain ⟨t, -, hfirst⟩ := endFrom_sound (b := x.1) (r := x.2) hend
    exact absurd ⟨_, _, hfirst.1⟩ h

/-- A character behind a backslash ends nothing. -/
theorem endFrom_shield {stop : Char} (hstop : stop ≠ '\\') (depth : Nat) (d : Char)
    (s : List Char) : endFrom stop ⟨depth, false⟩ ('\\' :: d :: s) =
      (endFrom stop ⟨depth, false⟩ s).map fun (b, r) => ('\\' :: d :: b, r) := by
  simp [endFrom, Place.outside, Place.behind, hstop.symm, Function.comp_def]

theorem groupBody_eq_endFrom (depth : Nat) (s : List Char) :
    groupBody depth s = endFrom '}' ⟨depth, false⟩ s := by
  fun_induction groupBody depth s with
  | case1 => rfl
  | case2 depth => simp [endFrom]
  | case3 depth d s ih => rw [endFrom_shield (by decide), ih]
  | case4 depth s _ ih => rw [ih]; simp [endFrom, Place.behind, depthAfter]
  | case5 s => simp [endFrom, Place.outside]
  | case6 s _ _ depth ih => rw [ih]; simp [endFrom, Place.outside, Place.behind, depthAfter]
  | case7 depth c s hshield hopen hclose ih =>
    rw [ih]; simp [endFrom, Place.behind, depthAfter, hshield, hopen, hclose]

theorem quotedBody_eq_endFrom (depth : Nat) (s : List Char) :
    quotedBody depth s = (endFrom '\"' ⟨depth, false⟩ s).map fun (b, r) => (b, r.drop 1) := by
  fun_induction quotedBody depth s with
  | case1 => rfl
  | case2 depth => simp [endFrom]
  | case3 depth d s ih =>
    rw [endFrom_shield (by decide), ih]; simp [Function.comp_def]
  | case4 depth c s hshield hc => simp [endFrom, Place.outside, hc]
  | case5 depth c s hshield hc ih =>
    have hstop : ¬((⟨depth, false⟩ : Place) = .outside ∧ c = '\"') := by
      simpa [Place.outside, and_comm] using hc
    rw [ih]
    simp [endFrom, hstop, Place.behind, hshield, Function.comp_def]

theorem groupBody_eq_some_iff {s b r : List Char} :
    groupBody 0 s = some (b, r) ↔ ∃ t, r = '}' :: t ∧ EndsFirst '}' .outside s b t := by
  rw [groupBody_eq_endFrom]
  exact endFrom_eq_some_iff

theorem groupBody_eq_none_iff {s : List Char} :
    groupBody 0 s = none ↔ ¬∃ b t, EndsAt '}' .outside s b t := by
  rw [groupBody_eq_endFrom]
  exact endFrom_eq_none_iff

theorem quotedBody_eq_some_iff {s b r : List Char} :
    quotedBody 0 s = some (b, r) ↔ EndsFirst '\"' .outside s b r := by
  rw [quotedBody_eq_endFrom, Option.map_eq_some_iff]
  refine ⟨fun ⟨x, hend, hx⟩ => ?_, fun hfirst => ?_⟩
  · obtain ⟨t, ht, hfirst⟩ := endFrom_eq_some_iff.1 hend
    obtain ⟨rfl, rfl⟩ := by simpa [ht] using hx
    exact hfirst
  · exact ⟨(b, '\"' :: r), endFrom_eq_some_iff.2 ⟨r, rfl, hfirst⟩, rfl⟩

theorem quotedBody_eq_none_iff {s : List Char} :
    quotedBody 0 s = none ↔ ¬∃ b t, EndsAt '\"' .outside s b t := by
  rw [quotedBody_eq_endFrom, Option.map_eq_none_iff]
  exact endFrom_eq_none_iff

theorem quoted_eq_some_iff {s b r : List Char} :
    quoted s = some (b, r) ↔ ∃ t, s = '\"' :: t ∧ EndsFirst '\"' .outside t b r := by
  cases s with
  | nil => simp [quoted]
  | cons c s =>
    by_cases hc : c = '\"' <;> simp [quoted, hc, quotedBody_eq_some_iff]

theorem quoted_eq_none_iff {s : List Char} :
    quoted s = none ↔ ¬∃ t b r, s = '\"' :: t ∧ EndsAt '\"' .outside t b r := by
  cases s with
  | nil => simp [quoted]
  | cons c s =>
    by_cases hc : c = '\"' <;> simp [quoted, hc, quotedBody_eq_none_iff]

end Citation.Source
