import Citation.Proofs.LocalReading

/-! Items end where they stand: an entry, a definition or a preamble is read before any text, a
comment before any text that starts like the one behind it. -/
namespace Citation

def Item.isComment : Item → Bool
  | .comment _ => true
  | _ => false

namespace Source
open Unicode Scanner

/-! Blocks and items. -/

theorem delimited_eq {α : Type} (body : Scanner α) : delimited body =
    andThen (behindBlanks opening) fun close => andThen body fun a =>
      mapped (padded (char close)) fun _ => a := by
  funext s
  cases ho : opening (skipBlank s) with
  | none => simp [delimited, andThen, behindBlanks, ho]
  | some x =>
    obtain ⟨close, r⟩ := x
    cases hb : body r with
    | none => simp [delimited, andThen, behindBlanks, ho, hb]
    | some x => simp [delimited, andThen, behindBlanks, ho, hb, mapped]

theorem closed_delimited {α : Type} {body : Scanner α} (h : body.Local) :
    Scanner.Closed (delimited body) := by
  rw [delimited_eq]
  apply (local_opening.behindBlanks opening_consumes).andThen_closed
  intro _ close _ hclose
  apply h.andThen_closed
  intro _ a _ _
  exact (closed_of_opening hclose).mapped _

theorem isKeyword_of_caseless {k s m r : List Char} (h : caseless k s = some (m, r)) :
    IsKeyword k m := by
  suffices m.map Char.toLower = k.map Char.toLower by simpa [IsKeyword, sameName] using this
  induction k generalizing s m with
  | nil => simp_all [caseless]
  | cons d k ih =>
    cases s with
    | nil => simp [caseless] at h
    | cons c s =>
      simp only [caseless] at h
      split at h
      · next hc =>
        obtain ⟨⟨m', r'⟩, hm, hr⟩ := Option.map_eq_some_iff.1 h
        obtain ⟨rfl, rfl⟩ := by simpa using hr
        simp [hc, ih hm]
      · cases h

theorem keyword_eq_some_iff {k s m r : List Char} : keyword k s = some (m, r) ↔
    s = m ++ r ∧ IsKeyword k m ∧ ∀ c ∈ r.head?, (isAlphanumeric c || c == '_') = false := by
  constructor
  · intro h
    unfold keyword at h
    split at h
    · cases h
    · next hk =>
      obtain ⟨rfl, rfl⟩ := by simpa using h
      exact ⟨(caseless_append hk).1, isKeyword_of_caseless hk, by simp⟩
    · next hk =>
      split at h
      · cases h
      · next hc =>
        obtain ⟨rfl, rfl⟩ := by simpa using h
        exact ⟨(caseless_append hk).1, isKeyword_of_caseless hk, by simpa using hc⟩
  · rintro ⟨rfl, hk, hr⟩
    have hsame : m.map Char.toLower = k.map Char.toLower := by
      simpa [IsKeyword, sameName] using hk
    rw [keyword, caseless_append_of_map_eq hsame]
    cases r with
    | nil => rfl
    | cons c r => simp [hr c rfl]

/-- A keyword that is not found before a character that belongs to none is not found there
whatever follows. -/
theorem keyword_eq_none_of_edge {k n x : List Char} {c : Char}
    (hc : ∀ d ∈ k, d.toLower ≠ c.toLower) (h : keyword k (n ++ c :: x) = none) (y : List Char) :
    keyword k (n ++ c :: y) = none := by
  unfold keyword at h ⊢
  rw [caseless_append_stop hc] at h ⊢
  cases hm : caseless k n with
  | none => rfl
  | some z =>
    obtain ⟨m, rest⟩ := z
    rw [hm] at h
    cases rest <;> simpa using h

/-- The name of a type ends at a character that belongs to no keyword. -/
theorem exists_edge_of_entry {s r : List Char} {e : Entry} (h : entry s = some (e, r)) :
    ∃ n c u, s = n ++ c :: u ∧ c ∈ '{' :: '(' :: blanks := by
  rw [entry_eq] at h
  obtain ⟨type, t, ht, h⟩ := andThen_eq_some.1 h
  obtain ⟨close, t', hopen, -⟩ := andThen_eq_some.1 h
  obtain ⟨w, hw, rfl⟩ := run_consumes _ _ _ _ ht
  obtain ⟨o, ho, hskip⟩ := opening_eq_some.1 hopen
  cases t with
  | nil => cases hskip
  | cons c t =>
    refine ⟨w, c, t, rfl, ?_⟩
    by_cases hc : isBlank c
    · simp [mem_blanks hc]
    · rw [skipBlank, List.dropWhile_cons_of_neg hc] at hskip
      obtain ⟨rfl, rfl⟩ := List.cons.inj hskip
      cases ho <;> simp

theorem toLower_ne_of_edge {k : String} (hk : k ∈ keywords) {c : Char}
    (hc : c ∈ '{' :: '(' :: blanks) : ∀ d ∈ k.toList, d.toLower ≠ c.toLower := by
  have hall : ∀ k ∈ keywords, (('{' :: '(' :: blanks).all fun c =>
      k.toList.all fun d => d.toLower != c.toLower) = true := by decide
  have hedge := List.all_eq_true.1 (hall k hk) c hc
  simpa using hedge

theorem upTo_eq_some_iff {c : Char} {s b r : List Char} :
    upTo c s = some (b, r) ↔ s = b ++ c :: r ∧ c ∉ b := by
  constructor
  · intro h
    have hhead := head_dropWhile (· != c) s
    have hall : ∀ d ∈ s.takeWhile (· != c), (d != c) = true := fun d => List.mem_takeWhile_imp
    unfold upTo at h
    split at h
    · cases h
    · next d t hs =>
      obtain ⟨rfl, rfl⟩ := by simpa using h
      rw [hs] at hhead
      obtain rfl : d = c := by simpa using hhead d rfl
      refine ⟨by rw [← hs, List.takeWhile_append_dropWhile], ?_⟩
      intro hmem
      simpa using hall d hmem
  · rintro ⟨rfl, hb⟩
    have hall : ∀ d ∈ b, (d != c) = true := fun d hd => by
      rw [bne_iff_ne]
      rintro rfl
      exact hb hd
    obtain ⟨htake, hdrop⟩ := span_append (r := c :: r) hall (by simp)
    simp only [upTo, htake, hdrop]

theorem commentBody_of_skip {s t : List Char} {c : Char} (h : skipBlank s = c :: t) :
    commentBody s = if c = '{' then braced (c :: t) else if c = '(' then upTo ')' t
      else some ((c :: t).takeWhile (· != '\n'), (c :: t).dropWhile (· != '\n')) := by
  simp only [commentBody, h]

/-- The body of a comment ends with its delimiter, or else with the line. -/
theorem commentBody_of_startsLike {s b r : List Char} (h : commentBody s = some (b, r)) :
    ∃ w, s = w ++ r ∧ ∀ r', StartsLike r' r → commentBody (w ++ r') = some (b, r') := by
  cases hskip : skipBlank s with
  | nil =>
    obtain ⟨rfl, rfl⟩ : [] = b ∧ [] = r := by simpa [commentBody, hskip] using h
    refine ⟨s, by simp, ?_⟩
    intro r' hr'
    obtain rfl : r' = [] := by
      cases r' with
      | nil => rfl
      | cons c t => cases hr' c rfl
    rwa [List.append_nil]
  | cons c t =>
    rw [commentBody_of_skip hskip] at h
    split at h
    · obtain ⟨hb, hs⟩ := braced_eq_some_iff.1 h
      have hbraces : skipBlank s = ('{' :: (b ++ ['}'])) ++ r := by simpa [hskip] using hs
      obtain ⟨u, rfl, hu⟩ := skip_front hbraces (by simp)
      refine ⟨u ++ '{' :: (b ++ ['}']), by simp, fun r' _ => ?_⟩
      have hfront : skipBlank (u ++ '{' :: (b ++ ['}']) ++ r') = '{' :: (b ++ '}' :: r') := by
        simpa [skipBlank] using hu r'
      rw [commentBody_of_skip hfront, if_pos rfl, hb.braced_append]
    · split at h
      · next hbrace hparenthesis =>
        obtain ⟨rfl, hb⟩ := upTo_eq_some_iff.1 h
        have hrun : skipBlank s = (c :: (b ++ [')'])) ++ r := by simp [hskip]
        obtain ⟨u, rfl, hu⟩ := skip_front hrun (by simp)
        refine ⟨u ++ c :: (b ++ [')']), by simp, fun r' _ => ?_⟩
        have hfront : skipBlank (u ++ c :: (b ++ [')']) ++ r') = c :: (b ++ ')' :: r') := by
          simpa [skipBlank] using hu r'
        rw [commentBody_of_skip hfront, if_neg hbrace, if_pos hparenthesis]
        exact upTo_eq_some_iff.2 ⟨rfl, hb⟩
      · next hbrace hparenthesis =>
        have hc : (c != '\n') = true := by
          rw [bne_iff_ne]
          rintro rfl
          have hblank := head_skipBlank s
          rw [hskip] at hblank
          exact absurd (hblank '\n' rfl) (by decide)
        rw [List.takeWhile_cons_of_pos (p := (· != '\n')) hc,
          List.dropWhile_cons_of_pos (p := (· != '\n')) hc] at h
        obtain ⟨rfl, rfl⟩ := by simpa using h
        have hall : ∀ d ∈ c :: t.takeWhile (· != '\n'), (d != '\n') = true :=
          List.forall_mem_cons.2 ⟨hc, fun d => List.mem_takeWhile_imp⟩
        have hline : skipBlank s = (c :: t.takeWhile (· != '\n')) ++ t.dropWhile (· != '\n') := by
          rw [hskip, List.cons_append, List.takeWhile_append_dropWhile]
        obtain ⟨u, rfl, hu⟩ := skip_front hline (by simp)
        refine ⟨u ++ c :: t.takeWhile (· != '\n'), by simp, fun r' hr' => ?_⟩
        have hfront : skipBlank (u ++ c :: t.takeWhile (· != '\n') ++ r') =
            c :: (t.takeWhile (· != '\n') ++ r') := by
          simpa [skipBlank] using hu r'
        obtain ⟨htake, hdrop⟩ := span_append hall (hr'.head (head_dropWhile _ t))
        rw [commentBody_of_skip hfront, if_neg hbrace, if_neg hparenthesis]
        rw [List.cons_append] at htake hdrop
        rw [htake, hdrop]

/-- What may stand behind an item in the place of `t`: any text, or behind a comment one that
starts like `t`. -/
def MayFollow (i : Item) (t t' : List Char) : Prop := i.isComment = true → StartsLike t' t

/-- An item is read before any text that may follow it, and blanks behind it are of no account. -/
def Settled (p : Scanner Item) : Prop :=
  ∀ s i r, p s = some (i, r) → ∃ w g, w ≠ [] ∧ s = w ++ (g ++ r) ∧ (∀ c ∈ g, isBlank c = true) ∧
    ∀ t, MayFollow i (g ++ r) t → ∃ r', p (w ++ t) = some (i, r') ∧ skipBlank r' = skipBlank t

theorem keyword_of_startsLike {k s m r r' : List Char} (h : keyword k s = some (m, r))
    (hr : StartsLike r' r) : keyword k (m ++ r') = some (m, r') := by
  obtain ⟨-, hk, hhead⟩ := keyword_eq_some_iff.1 h
  exact keyword_eq_some_iff.2 ⟨rfl, hk, hr.head hhead⟩

theorem keyword_ne_nil {k : String} (hk : k ∈ keywords) {s m r : List Char}
    (h : keyword k.toList s = some (m, r)) : m ≠ [] := by
  obtain ⟨-, hm, -⟩ := keyword_eq_some_iff.1 h
  obtain ⟨c, t, rfl, -⟩ := hm.solid hk
  simp

/-- A keyword and a body in delimiters are read before any text. -/
theorem exists_taken_of_delimited {α : Type} {body : Scanner α} (hbody : body.Local) {a : α}
    {k s m s' r : List Char} (hk : keyword k s = some (m, s'))
    (hb : delimited body s' = some (a, r)) :
    ∃ w g, w ≠ [] ∧ s = (m ++ w) ++ (g ++ r) ∧ (∀ c ∈ g, isBlank c = true) ∧
      ∀ t, keyword k (m ++ (w ++ t)) = some (m, w ++ t) ∧
        ∃ r', delimited body (w ++ t) = some (a, r') ∧ skipBlank r' = skipBlank t := by
  obtain ⟨w, g, hne, rfl, hg, hw⟩ := (closed_delimited hbody).exists_taken hb
  obtain ⟨rfl, -, -⟩ := keyword_eq_some_iff.1 hk
  refine ⟨w, g, hne, by simp, hg, ?_⟩
  intro t
  exact ⟨keyword_of_startsLike hk (startsLike_of_ne_nil hne (g ++ r) t), hw t⟩

theorem settled_block : Settled block := by
  intro s i r h
  unfold block at h
  split at h
  · next m s₁ hk =>
    obtain ⟨⟨b, r'⟩, hb, hr⟩ := Option.map_eq_some_iff.1 h
    obtain ⟨rfl, rfl⟩ := by simpa using hr
    obtain ⟨w, rfl, hw⟩ := commentBody_of_startsLike hb
    obtain ⟨rfl, -, -⟩ := keyword_eq_some_iff.1 hk
    refine ⟨m ++ w, [], by simp [keyword_ne_nil (k := "comment") (by decide) hk], by simp,
      by simp, ?_⟩
    intro t ht
    have hstarts : StartsLike t r' := ht rfl
    have hk' := keyword_of_startsLike hk (hstarts.append w)
    refine ⟨t, ?_, rfl⟩
    rw [List.append_assoc]
    simp only [block, hk', hw t hstarts, Option.map_some]
  · next hcomment =>
    split at h
    · next m s₁ hk =>
      obtain ⟨⟨⟨n, v⟩, r'⟩, hb, hr⟩ := Option.map_eq_some_iff.1 h
      obtain ⟨rfl, rfl⟩ := by simpa using hr
      obtain ⟨w, g, hne, rfl, hg, hw⟩ := exists_taken_of_delimited local_assignment hk hb
      obtain ⟨-, hm, -⟩ := keyword_eq_some_iff.1 hk
      refine ⟨m ++ w, g, by simp [hne], rfl, hg, ?_⟩
      intro t _
      obtain ⟨hk', r'', hbody, hskip⟩ := hw t
      have hnone := IsKeyword.keyword_eq_none (v := "comment") (by decide) (by decide) (by decide)
        hm (w ++ t)
      refine ⟨r'', ?_, hskip⟩
      rw [List.append_assoc]
      simp only [block, hnone, hk', hbody, Option.map_some]
    · next hstring =>
      split at h
      · next m s₁ hk =>
        obtain ⟨⟨v, r'⟩, hb, hr⟩ := Option.map_eq_some_iff.1 h
        obtain ⟨rfl, rfl⟩ := by simpa using hr
        obtain ⟨w, g, hne, rfl, hg, hw⟩ :=
          exists_taken_of_delimited (local_value.padded value_consumes) hk hb
        obtain ⟨-, hm, -⟩ := keyword_eq_some_iff.1 hk
        refine ⟨m ++ w, g, by simp [hne], rfl, hg, ?_⟩
        intro t _
        obtain ⟨hk', r'', hbody, hskip⟩ := hw t
        have hnone := IsKeyword.keyword_eq_none (v := "comment") (by decide) (by decide)
          (by decide) hm (w ++ t)
        have hnone' := IsKeyword.keyword_eq_none (v := "string") (by decide) (by decide)
          (by decide) hm (w ++ t)
        refine ⟨r'', ?_, hskip⟩
        rw [List.append_assoc]
        simp only [block, hnone, hnone', hk', hbody, Option.map_some]
      · next hpreamble =>
        obtain ⟨⟨e, r'⟩, he, hr⟩ := Option.map_eq_some_iff.1 h
        obtain ⟨rfl, rfl⟩ := by simpa using hr
        obtain ⟨w, g, hne, rfl, hg, hw⟩ := closed_entry.exists_taken he
        refine ⟨w, g, hne, rfl, hg, ?_⟩
        intro t _
        obtain ⟨r'', hread, hskip⟩ := hw t
        obtain ⟨x, halone, -⟩ := hw []
        obtain ⟨n, c, u, hedge, hc⟩ := exists_edge_of_entry halone
        rw [List.append_nil] at hedge
        have hnone : ∀ k ∈ keywords, keyword k.toList (w ++ (g ++ r')) = none →
            keyword k.toList (w ++ t) = none := by
          intro k hk hnone
          rw [hedge, List.append_assoc] at hnone ⊢
          exact keyword_eq_none_of_edge (toLower_ne_of_edge hk hc) hnone (u ++ t)
        refine ⟨r'', ?_, hskip⟩
        simp only [block, hnone _ (by decide) hcomment, hnone _ (by decide) hstring,
          hnone _ (by decide) hpreamble, hread, Option.map_some]

theorem settled_item : Settled item := by
  intro s i r h
  cases s with
  | nil => cases h
  | cons c s =>
    simp only [item] at h
    split at h
    · next hc =>
      obtain ⟨w, g, hne, hskip, hg, hw⟩ := settled_block _ _ _ h
      obtain ⟨u, rfl, hu⟩ := skip_front hskip hne
      refine ⟨c :: (u ++ w), g, by simp, by simp, hg, ?_⟩
      intro t ht
      obtain ⟨r', hread, hr'⟩ := hw t ht
      have hfront : skipSpacing (u ++ (w ++ t)) = w ++ t := hu t
      refine ⟨r', ?_, hr'⟩
      rw [List.cons_append, List.append_assoc, item, if_pos hc, hfront, hread]
    · cases h

/-- The item that a text starts with, unless it starts with an item that cannot be read. -/
def leading : Scanner Item
  | [] => none
  | c :: s =>
      if c = '@' then item (c :: s)
      else some (.comment (freeText (c :: s)), behindFreeText (c :: s))

theorem textStop_cons (c : Char) (s s' : List Char) : textStop (c :: s) = textStop (c :: s') := rfl

theorem ne_textStop {c : Char} (hc : c ≠ '@') (s : List Char) : c ≠ textStop (c :: s) := by
  unfold textStop
  by_cases hp : c = '%'
  · simp [hp]
  · simpa [hp] using hc

theorem settled_leading : Settled leading := by
  intro s i r h
  cases s with
  | nil => cases h
  | cons c s =>
    by_cases hc : c = '@'
    · rw [leading, if_pos hc] at h
      obtain ⟨w, g, hne, hs, hg, hw⟩ := settled_item _ _ _ h
      cases w with
      | nil => exact absurd rfl hne
      | cons d w =>
        obtain rfl : c = d := (List.cons.inj hs).1
        refine ⟨c :: w, g, hne, hs, hg, ?_⟩
        intro t ht
        rw [List.cons_append, leading, if_pos hc]
        exact hw t ht
    · rw [leading, if_neg hc] at h
      obtain ⟨rfl, rfl⟩ := by simpa using h
      have hstop : (c != textStop (c :: s)) = true := bne_iff_ne.2 (ne_textStop hc s)
      have hall : ∀ d ∈ c :: s.takeWhile (· != textStop (c :: s)),
          (d != textStop (c :: s)) = true :=
        List.forall_mem_cons.2 ⟨hstop, fun d => List.mem_takeWhile_imp⟩
      have hbehind : behindFreeText (c :: s) = s.dropWhile (· != textStop (c :: s)) :=
        List.dropWhile_cons_of_pos (p := (· != textStop (c :: s))) hstop
      have hfree : freeText (c :: s) = trimEnd (c :: s.takeWhile (· != textStop (c :: s))) := by
        rw [freeText, List.takeWhile_cons_of_pos (p := (· != textStop (c :: s))) hstop]
      refine ⟨c :: s.takeWhile (· != textStop (c :: s)), [], by simp, ?_, by simp, ?_⟩
      · rw [hbehind, List.nil_append, List.cons_append, List.takeWhile_append_dropWhile]
      · intro t ht
        have hstarts : StartsLike t (s.dropWhile (· != textStop (c :: s))) := hbehind ▸ ht rfl
        obtain ⟨htake, hdrop⟩ := span_append hall (hstarts.head (head_dropWhile _ s))
        refine ⟨t, ?_, rfl⟩
        rw [List.cons_append] at htake hdrop ⊢
        rw [leading, if_neg hc, hfree, freeText, behindFreeText,
          textStop_cons c _ s, htake, hdrop]

/-! Lists of items, one leading item after the other. -/

theorem items_of_leading {s r : List Char} {i : Item} (h : leading (skipBlank s) = some (i, r)) :
    items s = (items r).map (i :: ·) := by
  cases hs : skipBlank s with
  | nil =>
    rw [hs] at h
    cases h
  | cons c t =>
    rw [hs, leading] at h
    by_cases hc : c = '@'
    · subst hc
      exact items_of_item hs (by simpa using h)
    · rw [if_neg hc] at h
      obtain ⟨rfl, rfl⟩ := by simpa using h
      rw [items]
      split
      · next hnil =>
        rw [hs] at hnil
        cases hnil
      · next c' t' hs' =>
        rw [hs] at hs'
        obtain ⟨rfl, rfl⟩ := List.cons.inj hs'
        simp only [hc, dite_false]

theorem items_of_stuck {s t : List Char} (hs : skipBlank s = '@' :: t)
    (h : item ('@' :: t) = none) : items s = .error ('@' :: t) := by
  rw [items]
  split
  · next hnil =>
    rw [hs] at hnil
    cases hnil
  · next c t' hc =>
    rw [hs] at hc
    obtain ⟨rfl, rfl⟩ := List.cons.inj hc
    simp only [dite_true]
    split
    · rfl
    · next hsome =>
      rw [h] at hsome
      cases hsome

theorem leading_eq_none_iff {s : List Char} (hs : s ≠ []) :
    leading s = none ↔ ∃ t, s = '@' :: t ∧ item s = none := by
  cases s with
  | nil => exact absurd rfl hs
  | cons c s =>
    by_cases hc : c = '@'
    · simp [leading, hc]
    · simp [leading, hc]

/-- A text is blank, or starts with an item that cannot be read, or has a leading item and a
shorter rest. -/
theorem items_induction {motive : List Char → Prop} (blank : ∀ s, skipBlank s = [] → motive s)
    (stuck : ∀ s t, skipBlank s = '@' :: t → item ('@' :: t) = none → motive s)
    (more : ∀ s i r, leading (skipBlank s) = some (i, r) → motive r → motive s)
    (s : List Char) : motive s := by
  fun_induction items s with
  | case1 s hs => exact blank s hs
  | case2 s t hs hi => exact stuck s t hs hi
  | case3 s t i r hs hi _ ih => exact more s i r (by rw [hs, leading, if_pos rfl, hi]) ih
  | case4 s c t hs hc _ ih => exact more s _ _ (by rw [hs, leading, if_neg hc]) ih

theorem skipBlank_append_of_blank {g : List Char} (hg : ∀ c ∈ g, isBlank c = true)
    (s : List Char) : skipBlank (g ++ s) = skipBlank s :=
  List.dropWhile_append_of_pos hg

/-- Blanks in front of the items are of no account. -/
theorem items_congr {s s' : List Char} (h : skipBlank s' = skipBlank s) : items s' = items s := by
  cases hs : skipBlank s with
  | nil => rw [items_of_nil hs, items_of_nil (h.trans hs)]
  | cons c t =>
    cases hl : leading (c :: t) with
    | none =>
      obtain ⟨t', ht, hi⟩ := (leading_eq_none_iff (by simp)).1 hl
      rw [ht] at hs hi
      rw [items_of_stuck hs hi, items_of_stuck (h.trans hs) hi]
    | some x =>
      obtain ⟨i, r⟩ := x
      rw [← hs] at hl
      rw [items_of_leading hl, items_of_leading (h ▸ hl)]

end Source
end Citation
