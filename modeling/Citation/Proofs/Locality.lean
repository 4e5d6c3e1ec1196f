import Citation.Proofs.RoundTrip
import Mathlib.Data.List.TakeWhile

/-! Scanners are local: what is read off the front of a text stays the same when the text behind it
is replaced by one that starts alike. What a closing delimiter ends stays the same before any
text. -/
namespace Citation

/-- The same first character, and the same first character behind blanks. -/
structure Alike (r r' : List Char) : Prop where
  first : r'.head? = r.head?
  solid : (skipBlank r').head? = (skipBlank r).head?

/-- `r'` starts like `r`, if it is not empty. -/
def StartsLike (r' r : List Char) : Prop := ∀ c ∈ r'.head?, c ∈ r.head?

theorem StartsLike.append {r r' : List Char} (h : StartsLike r' r) (w : List Char) :
    StartsLike (w ++ r') (w ++ r) := by
  cases w with
  | nil => exact h
  | cons c w => exact fun _ => id

theorem startsLike_of_ne_nil {w : List Char} (h : w ≠ []) (r r' : List Char) :
    StartsLike (w ++ r') (w ++ r) := by
  cases w with
  | nil => exact absurd rfl h
  | cons c w => exact fun _ => id

theorem startsLike_append (w r : List Char) : StartsLike w (w ++ r) := by
  cases w with
  | nil => exact fun _ hc => nomatch hc
  | cons c w => exact fun _ => id

theorem StartsLike.head {p : Char → Bool} {r r' : List Char} (h : StartsLike r' r)
    (hr : ∀ c ∈ r.head?, p c = false) : ∀ c ∈ r'.head?, p c = false :=
  fun c hc => hr c (h c hc)

theorem Alike.startsLike {r r' : List Char} (h : Alike r r') : StartsLike r' r :=
  fun _ hc => h.first ▸ hc

theorem Alike.append {r r' : List Char} (h : Alike r r') (w : List Char) :
    Alike (w ++ r) (w ++ r') := by
  induction w with
  | nil => exact h
  | cons c w ih =>
    refine ⟨rfl, ?_⟩
    by_cases hc : isBlank c
    · simpa [skipBlank, hc] using ih.solid
    · simp [skipBlank, hc]

/-- Behind something solid nothing counts. -/
theorem alike_of_solid {w : List Char} (h : skipBlank w ≠ []) (r r' : List Char) :
    Alike (w ++ r) (w ++ r') := by
  induction w with
  | nil => exact absurd rfl h
  | cons c w ih =>
    refine ⟨rfl, ?_⟩
    by_cases hc : isBlank c
    · simp only [skipBlank, List.cons_append, List.dropWhile_cons_of_pos hc] at h ⊢
      exact (ih h).solid
    · simp [skipBlank, hc]

theorem skipBlank_append_ne_nil {w : List Char} (h : skipBlank w ≠ []) (v : List Char) :
    skipBlank (v ++ w) ≠ [] := by
  rw [skipBlank, Ne, List.dropWhile_eq_nil_iff] at h ⊢
  exact fun hall => h fun c hc => hall c (List.mem_append_right v hc)

theorem head_dropWhile (p : Char → Bool) (s : List Char) :
    ∀ c ∈ (s.dropWhile p).head?, p c = false := by
  intro c hc
  have h := List.head?_dropWhile_not p s
  rwa [Option.mem_def.1 hc] at h

theorem head_skipBlank (s : List Char) : ∀ c ∈ (skipBlank s).head?, isBlank c = false :=
  head_dropWhile isBlank s

theorem dropWhile_of_head {p : Char → Bool} {s : List Char} (h : ∀ c ∈ s.head?, p c = false) :
    s.dropWhile p = s := by
  cases s with
  | nil => rfl
  | cons c s => exact List.dropWhile_cons_of_neg (by simp [h c rfl])

/-- A run of a class ends where the class ends. -/
theorem span_append {p : Char → Bool} {w r : List Char} (hall : ∀ c ∈ w, p c = true)
    (hr : ∀ c ∈ r.head?, p c = false) :
    (w ++ r).takeWhile p = w ∧ (w ++ r).dropWhile p = r := by
  rw [List.takeWhile_append_of_pos hall, List.dropWhile_append_of_pos hall]
  refine ⟨?_, dropWhile_of_head hr⟩
  cases r with
  | nil => simp
  | cons c r => simp [hr c rfl]

/-- What is skipped behind a value is skipped before any text that starts alike. -/
theorem skip_behind {p : Char → Bool} {t r : List Char} (h : t.dropWhile p = r) :
    ∃ v, t = v ++ r ∧ ∀ r', StartsLike r' r → (v ++ r').dropWhile p = r' := by
  refine ⟨t.takeWhile p, by rw [← h, List.takeWhile_append_dropWhile], ?_⟩
  intro r' hr'
  rw [List.dropWhile_append_of_pos fun c hc => List.mem_takeWhile_imp hc]
  exact dropWhile_of_head (hr'.head (h ▸ head_dropWhile p t))

/-- What is skipped in front of a value does not depend on what stands behind the value. -/
theorem skip_front {p : Char → Bool} {s w r : List Char} (h : s.dropWhile p = w ++ r)
    (hw : w ≠ []) : ∃ u, s = u ++ (w ++ r) ∧ ∀ x, (u ++ (w ++ x)).dropWhile p = w ++ x := by
  obtain ⟨u, hs, hu⟩ := skip_behind h
  exact ⟨u, hs, fun x => hu (w ++ x) (startsLike_of_ne_nil hw r x)⟩

namespace Scanner

variable {α β : Type}

/-- What is read would be read before any text that starts like the one behind it. -/
def Local (p : Scanner α) : Prop :=
  ∀ s a r, p s = some (a, r) → ∃ w, s = w ++ r ∧ ∀ r', Alike r r' → p (w ++ r') = some (a, r')

/-- What is read would be read before any text. Spacing behind it is skipped. -/
def Closed (p : Scanner α) : Prop :=
  ∀ s a r, p s = some (a, r) → ∃ w t, skipBlank w ≠ [] ∧ s = w ++ t ∧ r = skipSpacing t ∧
    ∀ t', p (w ++ t') = some (a, skipSpacing t')

/-- One scanner after the other. -/
def andThen (p : Scanner α) (q : α → Scanner β) : Scanner β := fun s =>
  match p s with
  | none => none
  | some (a, r) => q a r

def mapped (p : Scanner α) (f : α → β) : Scanner β := fun s => (p s).map fun (a, r) => (f a, r)

/-- A scanner behind blanks. -/
def behindBlanks (p : Scanner α) : Scanner α := fun s => p (skipBlank s)

variable {p : Scanner α} {q : α → Scanner β}

theorem andThen_eq_some {s r : List Char} {b : β} :
    p.andThen q s = some (b, r) ↔ ∃ a t, p s = some (a, t) ∧ q a t = some (b, r) := by
  unfold andThen
  cases h : p s with
  | none => simp
  | some x =>
    obtain ⟨a, t⟩ := x
    constructor
    · exact fun hq => ⟨a, t, rfl, hq⟩
    · rintro ⟨a', t', hx, hq⟩
      obtain ⟨rfl, rfl⟩ := by simpa using hx
      exact hq

theorem mapped_eq_some {f : α → β} {s r : List Char} {b : β} :
    p.mapped f s = some (b, r) ↔ ∃ a, p s = some (a, r) ∧ f a = b := by
  simp [mapped, Option.map_eq_some_iff]

theorem padded_eq_some {s r : List Char} {a : α} :
    padded p s = some (a, r) ↔ ∃ t, p (skipSpacing s) = some (a, t) ∧ skipSpacing t = r := by
  simp only [padded, Option.map_eq_some_iff, Prod.exists, Prod.mk.injEq]
  constructor
  · rintro ⟨b, t, ht, rfl, hr⟩
    exact ⟨t, ht, hr⟩
  · rintro ⟨t, ht, hr⟩
    exact ⟨a, t, ht, rfl, hr⟩

/-- A closed scanner leaves the text behind its delimiter, up to blanks. -/
theorem Closed.exists_taken (hp : p.Closed) {s r : List Char} {a : α} (h : p s = some (a, r)) :
    ∃ w g, w ≠ [] ∧ s = w ++ (g ++ r) ∧ (∀ c ∈ g, isBlank c = true) ∧
      ∀ t, ∃ r', p (w ++ t) = some (a, r') ∧ skipBlank r' = skipBlank t := by
  obtain ⟨w, t, hsolid, rfl, rfl, hw⟩ := hp _ _ _ h
  refine ⟨w, t.takeWhile isSpacing, ?_, ?_, ?_, ?_⟩
  · rintro rfl
    exact hsolid rfl
  · rw [skipSpacing, List.takeWhile_append_dropWhile]
  · exact fun c hc => isBlank_of_isSpacing (List.mem_takeWhile_imp hc)
  · exact fun t' => ⟨skipSpacing t', hw t', Source.skipBlank_skipSpacing t'⟩

theorem Local.mapped (h : p.Local) (f : α → β) : (p.mapped f).Local := by
  intro s b r hs
  obtain ⟨a, ha, rfl⟩ := mapped_eq_some.1 hs
  obtain ⟨w, rfl, hw⟩ := h _ _ _ ha
  exact ⟨w, rfl, fun r' hr' => mapped_eq_some.2 ⟨a, hw r' hr', rfl⟩⟩

theorem Closed.mapped (h : p.Closed) (f : α → β) : (p.mapped f).Closed := by
  intro s b r hs
  obtain ⟨a, ha, rfl⟩ := mapped_eq_some.1 hs
  obtain ⟨w, t, hsolid, rfl, rfl, hw⟩ := h _ _ _ ha
  exact ⟨w, t, hsolid, rfl, rfl, fun t' => mapped_eq_some.2 ⟨a, hw t', rfl⟩⟩

theorem Local.andThen (hp : p.Local) (hq : ∀ a, (q a).Local) : (p.andThen q).Local := by
  intro s b r hs
  obtain ⟨a, t, ha, hb⟩ := andThen_eq_some.1 hs
  obtain ⟨w, rfl, hw⟩ := hp _ _ _ ha
  obtain ⟨v, rfl, hv⟩ := hq a _ _ _ hb
  refine ⟨w ++ v, by simp, ?_⟩
  intro r' hr'
  rw [List.append_assoc]
  exact andThen_eq_some.2 ⟨a, v ++ r', hw _ (hr'.append v), hv r' hr'⟩

/-- What is closed at its end is closed as a whole. -/
theorem Local.andThen_closed (hp : p.Local)
    (hq : ∀ s a t, p s = some (a, t) → (q a).Closed) : (p.andThen q).Closed := by
  intro s b r hs
  obtain ⟨a, t, ha, hb⟩ := andThen_eq_some.1 hs
  obtain ⟨w, rfl, hw⟩ := hp _ _ _ ha
  obtain ⟨v, u, hsolid, rfl, rfl, hv⟩ := hq _ a _ ha _ _ _ hb
  refine ⟨w ++ v, u, skipBlank_append_ne_nil hsolid w, by simp, rfl, ?_⟩
  intro t'
  rw [List.append_assoc]
  exact andThen_eq_some.2 ⟨a, v ++ t', hw _ (alike_of_solid hsolid u t'), hv t'⟩

/-- The start that a scanner takes is not empty. -/
theorem Local.nonempty (h : p.Local) (hp : p.Consumes) {s r : List Char} {a : α}
    (hs : p s = some (a, r)) :
    ∃ w, w ≠ [] ∧ s = w ++ r ∧ ∀ r', Alike r r' → p (w ++ r') = some (a, r') := by
  obtain ⟨w, rfl, hw⟩ := h _ _ _ hs
  obtain ⟨v, hv, heq⟩ := hp _ _ _ hs
  exact ⟨w, List.append_cancel_right heq ▸ hv, rfl, hw⟩

theorem Local.behindBlanks (h : p.Local) (hp : p.Consumes) : (behindBlanks p).Local := by
  intro s a r hs
  obtain ⟨w, hne, hskip, hw⟩ := h.nonempty hp hs
  obtain ⟨u, rfl, hu⟩ := skip_front hskip hne
  refine ⟨u ++ w, by simp, ?_⟩
  intro r' hr'
  have hfront : skipBlank (u ++ (w ++ r')) = w ++ r' := hu r'
  rw [List.append_assoc, Scanner.behindBlanks, hfront, hw r' hr']

theorem Local.padded (h : p.Local) (hp : p.Consumes) : (padded p).Local := by
  intro s a r hs
  obtain ⟨t, ht, hr⟩ := padded_eq_some.1 hs
  obtain ⟨w, hne, hskip, hw⟩ := h.nonempty hp ht
  obtain ⟨u, rfl, hu⟩ := skip_front hskip hne
  obtain ⟨v, rfl, hv⟩ := skip_behind hr
  refine ⟨u ++ (w ++ v), by simp, ?_⟩
  intro r' hr'
  have hfront : skipSpacing (u ++ (w ++ (v ++ r'))) = w ++ (v ++ r') := hu (v ++ r')
  have hbehind : skipSpacing (v ++ r') = r' := hv r' hr'.startsLike
  rw [List.append_assoc, List.append_assoc, padded_eq_some, hfront]
  exact ⟨v ++ r', hw _ (hr'.append v), hbehind⟩

theorem run_eq_some_iff {c : Char → Bool} {s w r : List Char} :
    run c s = some (w, r) ↔
      s = w ++ r ∧ w ≠ [] ∧ (∀ d ∈ w, c d = true) ∧ ∀ d ∈ r.head?, c d = false := by
  constructor
  · intro hs
    have hall : ∀ d ∈ s.takeWhile c, c d = true := fun d => List.mem_takeWhile_imp
    unfold run at hs
    split at hs
    · cases hs
    · next d ds htake =>
      obtain ⟨rfl, rfl⟩ := by simpa using hs
      rw [← htake, List.takeWhile_append_dropWhile]
      exact ⟨rfl, by simp [htake], hall, head_dropWhile c s⟩
  · rintro ⟨rfl, hne, hall, hhead⟩
    exact Source.run_append hne hall hhead

theorem local_run (c : Char → Bool) : (run c).Local := by
  intro s w r hs
  obtain ⟨rfl, hne, hall, hhead⟩ := run_eq_some_iff.1 hs
  exact ⟨w, rfl, fun r' hr' =>
    run_eq_some_iff.2 ⟨rfl, hne, hall, hr'.startsLike.head hhead⟩⟩

theorem char_eq_some {c d : Char} {s r : List Char} :
    char c s = some (d, r) ↔ s = c :: r ∧ d = c := by
  cases s with
  | nil => simp [char]
  | cons x t =>
    by_cases hx : x = c
    · simp [char, hx, and_comm, eq_comm]
    · simp [char, hx]

theorem local_char (c : Char) : (char c).Local := by
  intro s a r hs
  obtain ⟨rfl, rfl⟩ := char_eq_some.1 hs
  exact ⟨[a], rfl, fun r' _ => char_eq_some.2 ⟨rfl, rfl⟩⟩

/-- A delimiter closes whatever it ends. -/
theorem closed_padded_char {c : Char} (hc : isBlank c = false) : (padded (char c)).Closed := by
  intro s a r hs
  obtain ⟨t, ht, rfl⟩ := padded_eq_some.1 hs
  obtain ⟨hskip, rfl⟩ := char_eq_some.1 ht
  obtain ⟨u, rfl, hu⟩ := skip_front (w := [a]) hskip (by simp)
  have hsolid : skipBlank [a] ≠ [] := by simp [skipBlank, hc]
  refine ⟨u ++ [a], t, skipBlank_append_ne_nil hsolid u, by simp, rfl, ?_⟩
  intro t'
  have hfront : skipSpacing (u ++ ([a] ++ t')) = [a] ++ t' := hu t'
  rw [List.append_assoc, padded_eq_some, hfront]
  exact ⟨t', char_eq_some.2 ⟨rfl, rfl⟩, rfl⟩

end Scanner

end Citation
