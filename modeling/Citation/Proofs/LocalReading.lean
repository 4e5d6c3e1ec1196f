import Citation.Proofs.Locality

/-! The scanners for lexemes, values and fields are local, and the one for entries is closed. -/
namespace Citation.Source
open Unicode Scanner

/-! Lexemes. -/

theorem closed_groupBody {depth : Nat} {s b t : List Char}
    (h : groupBody depth s = some (b, '}' :: t)) (t' : List Char) :
    groupBody depth (b ++ '}' :: t') = some (b, '}' :: t') := by
  fun_induction groupBody depth s generalizing b with
  | case1 => simp at h
  | case2 => simp at h
  | case3 depth d s ih =>
    obtain ⟨⟨b', r'⟩, hb, hr⟩ := Option.map_eq_some_iff.1 h
    obtain ⟨rfl, rfl⟩ := by simpa using hr
    simp [groupBody_shielded, ih hb, prepended]
  | case4 depth s _ ih =>
    obtain ⟨⟨b', r'⟩, hb, hr⟩ := Option.map_eq_some_iff.1 h
    obtain ⟨rfl, rfl⟩ := by simpa using hr
    simp [groupBody_open, ih hb, prepended]
  | case5 s =>
    obtain ⟨rfl, rfl⟩ := by simpa using h
    exact groupBody_close t'
  | case6 s _ _ depth ih =>
    obtain ⟨⟨b', r'⟩, hb, hr⟩ := Option.map_eq_some_iff.1 h
    obtain ⟨rfl, rfl⟩ := by simpa using hr
    simp [groupBody_inner, ih hb, prepended]
  | case7 depth c s hshield hopen hclose ih =>
    obtain ⟨⟨b', r'⟩, hb, hr⟩ := Option.map_eq_some_iff.1 h
    obtain ⟨rfl, rfl⟩ := by simpa using hr
    simp [groupBody_plain ⟨hshield, hopen, hclose⟩, ih hb, prepended]

theorem balanced_of_groupBody {s b r : List Char} (h : groupBody 0 s = some (b, r)) :
    Balanced b := by
  obtain ⟨-, t, rfl⟩ := groupBody_append h
  exact closed_groupBody h []

theorem closed_quotedBody {depth : Nat} {s b r : List Char}
    (h : quotedBody depth s = some (b, r)) (r' : List Char) :
    quotedBody depth (b ++ '\"' :: r') = some (b, r') := by
  fun_induction quotedBody depth s generalizing b with
  | case1 => simp at h
  | case2 => simp at h
  | case3 depth d s ih =>
    obtain ⟨⟨b', t⟩, hb, hr⟩ := Option.map_eq_some_iff.1 h
    obtain ⟨rfl, rfl⟩ := by simpa using hr
    simp [quotedBody, ih hb]
  | case4 depth c s _ hc =>
    obtain ⟨rfl, rfl⟩ := by simpa using h
    rw [List.nil_append, quotedBody.eq_def]
    simp [hc]
  | case5 depth c s hshield hquote ih =>
    obtain ⟨⟨b', t⟩, hb, hr⟩ := Option.map_eq_some_iff.1 h
    obtain ⟨rfl, rfl⟩ := by simpa using hr
    rw [List.cons_append, quotedBody.eq_def]
    simp [hshield, hquote, ih hb]

theorem braced_eq_some_iff {s b r : List Char} :
    braced s = some (b, r) ↔ Balanced b ∧ s = '{' :: (b ++ '}' :: r) := by
  constructor
  · intro h
    cases s with
    | nil => cases h
    | cons c s =>
      simp only [braced] at h
      split at h
      · next hc =>
        obtain ⟨⟨b', t⟩, hb, hr⟩ := Option.map_eq_some_iff.1 h
        obtain ⟨rfl, rfl⟩ := by simpa using hr
        have hbalanced := balanced_of_groupBody hb
        obtain ⟨rfl, t, rfl⟩ := groupBody_append hb
        exact ⟨hbalanced, by simp [hc]⟩
      · cases h
  · rintro ⟨hb, rfl⟩
    exact hb.braced_append r

theorem local_braced : Scanner.Local braced := by
  intro s b r hs
  obtain ⟨hb, rfl⟩ := braced_eq_some_iff.1 hs
  exact ⟨'{' :: b ++ ['}'], by simp, fun r' _ => braced_eq_some_iff.2 ⟨hb, by simp⟩⟩

theorem local_quoted : Scanner.Local quoted := by
  intro s b r hs
  cases s with
  | nil => cases hs
  | cons c s =>
    simp only [quoted] at hs
    split at hs
    · next hc =>
      refine ⟨c :: b ++ ['\"'], by simp [quotedBody_append hs], ?_⟩
      intro r' _
      simpa [quoted, hc] using closed_quotedBody hs r'
    · cases hs

theorem run_eq_none_iff {p : Char → Bool} {s : List Char} :
    run p s = none ↔ ∀ c ∈ s.head?, p c = false := by
  refine ⟨?_, run_eq_none⟩
  cases s with
  | nil => simp
  | cons c s => by_cases hc : p c <;> simp [run, hc]

theorem number_eq_none_iff {s : List Char} :
    number s = none ↔ ∀ c ∈ (sign s).2.head?, c.isDigit = false := by
  rw [number, Option.map_eq_none_iff, run_eq_none_iff]

theorem sign_cons_append {c : Char} {w r r' : List Char} (h : Alike r r') :
    StartsLike (sign (c :: (w ++ r'))).2 (sign (c :: (w ++ r))).2 := by
  simp only [sign]
  split
  · exact h.startsLike.append w
  · exact fun _ => id

theorem sign_append_of_ne_nil {s digits r : List Char} (h : (sign s).2 = digits ++ r)
    (hne : digits ≠ []) (x : List Char) :
    sign ((sign s).1 ++ (digits ++ x)) = ((sign s).1, digits ++ x) := by
  cases s with
  | nil => exact absurd (List.append_eq_nil_iff.1 h.symm).1 hne
  | cons c s =>
    by_cases hc : c = '+' ∨ c = '-'
    · simp [sign, hc]
    · simp only [sign, if_neg hc] at h ⊢
      cases digits with
      | nil => exact absurd rfl hne
      | cons d ds =>
        obtain ⟨rfl, -⟩ := List.cons.inj h
        simp [hc]

theorem local_number : number.Local := by
  intro s d r hs
  obtain ⟨⟨digits, t⟩, hd, hr⟩ := Option.map_eq_some_iff.1 hs
  obtain ⟨rfl, rfl⟩ := by simpa using hr
  obtain ⟨hsign, hne, hall, hhead⟩ := run_eq_some_iff.1 hd
  refine ⟨(sign s).1 ++ digits, ?_, ?_⟩
  · rw [List.append_assoc, ← hsign, sign_append]
  · intro r' hr'
    have hrun : run Char.isDigit (digits ++ r') = some (digits, r') :=
      run_append hne hall (hr'.startsLike.head hhead)
    rw [List.append_assoc, number, sign_append_of_ne_nil hsign hne, hrun]
    rfl

theorem local_reference : Scanner.Local reference := by
  intro s v r hs
  cases s with
  | nil => cases hs
  | cons c s =>
    simp only [reference] at hs
    split at hs
    · cases hs
    · next hc =>
      obtain ⟨⟨n, t⟩, hn, hr⟩ := Option.map_eq_some_iff.1 hs
      obtain ⟨rfl, rfl⟩ := by simpa using hr
      obtain ⟨hcons, hne, hall, hhead⟩ := run_eq_some_iff.1 hn
      cases n with
      | nil => exact absurd rfl hne
      | cons d n =>
        obtain ⟨rfl, rfl⟩ := List.cons.inj hcons
        refine ⟨c :: n, rfl, ?_⟩
        intro r' hr'
        have hname : name (c :: (n ++ r')) = some (c :: n, r') :=
          run_append hne hall (hr'.startsLike.head hhead)
        simp [reference, hc, hname]

/-! Values. -/

theorem quoted_eq_none {s : List Char} (h : ∀ c ∈ s.head?, isNameChar c = true ∨ c = '{') :
    quoted s = none := by
  cases s with
  | nil => rfl
  | cons c s =>
    apply quoted_cons
    rintro rfl
    have hc := h _ rfl
    revert hc
    decide

theorem braced_eq_none {s : List Char} (h : ∀ c ∈ s.head?, isNameChar c = true) :
    braced s = none := by
  cases s with
  | nil => rfl
  | cons c s =>
    apply braced_cons
    rintro rfl
    have hc := h _ rfl
    revert hc
    decide

theorem isNameChar_of_isDigit {c : Char} (h : c.isDigit = true) : isNameChar c = true := by
  simp [isNameChar, isAlphanumeric, isNumeric_of_isDigit h]

theorem head_of_number {s d r : List Char} (h : number s = some (d, r)) :
    ∀ c ∈ s.head?, isNameChar c = true := by
  obtain ⟨⟨digits, t⟩, hd, -⟩ := Option.map_eq_some_iff.1 h
  obtain ⟨hsign, hne, hall, -⟩ := run_eq_some_iff.1 hd
  cases s with
  | nil => simp
  | cons c s =>
    simp only [sign] at hsign
    split at hsign
    · next hc => rcases hc with rfl | rfl <;> simp <;> decide
    · cases digits with
      | nil => exact absurd rfl hne
      | cons x ds =>
        obtain ⟨rfl, -⟩ := List.cons.inj hsign
        simpa using isNameChar_of_isDigit (hall c (by simp))

theorem head_of_reference {s r : List Char} {v : Value} (h : reference s = some (v, r)) :
    ∀ c ∈ s.head?, isNameChar c = true := by
  cases s with
  | nil => simp
  | cons c s =>
    simp only [reference] at h
    split at h
    · cases h
    · obtain ⟨⟨n, t⟩, hn, -⟩ := Option.map_eq_some_iff.1 h
      obtain ⟨hcons, hne, hall, -⟩ := run_eq_some_iff.1 hn
      cases n with
      | nil => exact absurd rfl hne
      | cons d n =>
        obtain ⟨rfl, -⟩ := List.cons.inj hcons
        simpa using hall c (by simp)

theorem local_part : Scanner.Local part := by
  intro s v r hs
  unfold part at hs
  split at hs
  · next b t hq =>
    obtain ⟨rfl, rfl⟩ := by simpa using hs
    obtain ⟨w, rfl, hw⟩ := local_quoted _ _ _ hq
    exact ⟨w, rfl, fun r' hr' => by simp [part, hw r' hr']⟩
  · split at hs
    · next b t hb =>
      obtain ⟨rfl, rfl⟩ := by simpa using hs
      obtain ⟨w, rfl, hw⟩ := local_braced _ _ _ hb
      have hhead : (w ++ t).head? = some '{' := by rw [(braced_eq_some_iff.1 hb).2]; rfl
      refine ⟨w, rfl, ?_⟩
      intro r' hr'
      have hquoted : quoted (w ++ r') = none := by
        apply quoted_eq_none
        rw [(hr'.append w).first, hhead]
        simp
      simp [part, hquoted, hw r' hr']
    · split at hs
      · next d t hd =>
        obtain ⟨rfl, rfl⟩ := by simpa using hs
        have hhead := head_of_number hd
        obtain ⟨w, rfl, hw⟩ := local_number _ _ _ hd
        refine ⟨w, rfl, ?_⟩
        intro r' hr'
        rw [← (hr'.append w).first] at hhead
        have hquoted := quoted_eq_none fun c hc => .inl (hhead c hc)
        simp [part, hquoted, braced_eq_none hhead, hw r' hr']
      · next hnumber =>
        have hhead := head_of_reference hs
        obtain ⟨w, hne, rfl, hw⟩ := local_reference.nonempty reference_consumes hs
        refine ⟨w, rfl, ?_⟩
        intro r' hr'
        rw [← (hr'.append w).first] at hhead
        have hquoted := quoted_eq_none fun c hc => .inl (hhead c hc)
        have hnone : number (w ++ r') = none := by
          rw [number_eq_none_iff] at hnumber ⊢
          cases w with
          | nil => exact absurd rfl hne
          | cons c w => exact (sign_cons_append hr').head hnumber
        simp [part, hquoted, braced_eq_none hhead, hnone, hw r' hr']

theorem local_moreParts : Scanner.Local moreParts := by
  intro s vs r hs
  fun_induction moreParts s generalizing vs with
  | case1 s hskip =>
    obtain ⟨rfl, rfl⟩ := by simpa using hs
    refine ⟨[], rfl, fun r' hr' => moreParts_of_end ?_⟩
    simp [hr'.solid, hskip]
  | case2 => cases hs
  | case3 s t v r₀ hp hskip _ ih =>
    obtain ⟨⟨us, r₁⟩, hm, hr⟩ := Option.map_eq_some_iff.1 hs
    obtain ⟨rfl, rfl⟩ := by simpa using hr
    obtain ⟨w, rfl, hw⟩ := ih _ hm
    obtain ⟨x, hx, ht, hpart⟩ := local_part.nonempty part_consumes hp
    obtain ⟨u', rfl, hu'⟩ := skip_front ht hx
    obtain ⟨u, rfl, hu⟩ := skip_front (w := ['#']) hskip (by simp)
    refine ⟨u ++ ('#' :: u' ++ x ++ w), by simp, ?_⟩
    intro r' hr'
    have hhash : skipBlank (u ++ ('#' :: u' ++ x ++ w) ++ r') =
        '#' :: (u' ++ (x ++ (w ++ r'))) := by
      simpa [skipBlank] using hu (u' ++ (x ++ (w ++ r')))
    have hfront : skipBlank (u' ++ (x ++ (w ++ r'))) = x ++ (w ++ r') := hu' (w ++ r')
    have hnext : part (skipBlank (u' ++ (x ++ (w ++ r')))) = some (v, w ++ r') := by
      rw [hfront]
      exact hpart _ (hr'.append w)
    rw [moreParts_of_part hhash hnext, hw r' hr']
    rfl
  | case4 s c t hskip hc =>
    obtain ⟨rfl, rfl⟩ := by simpa using hs
    refine ⟨[], rfl, fun r' hr' => moreParts_of_end ?_⟩
    simpa [hr'.solid, hskip] using hc

/-- The parts of a chain as one value. -/
def ofParts (v : Value) : List Value → Value
  | [] => v
  | w :: vs => .concat (v :: w :: vs)

theorem value_eq : value = andThen part fun v => mapped moreParts (ofParts v) := by
  funext s
  cases h : part s with
  | none => simp [value, andThen, h]
  | some x =>
    obtain ⟨v, r⟩ := x
    simp only [value, andThen, h, mapped]
    cases moreParts r with
    | none => rfl
    | some y => obtain ⟨vs, r'⟩ := y; cases vs <;> rfl

theorem local_value : Scanner.Local value := by
  rw [value_eq]
  exact local_part.andThen fun v => Local.mapped local_moreParts (ofParts v)

theorem assignment_eq : assignment = andThen (padded name) fun n =>
    andThen (padded (char '=')) fun _ => mapped (padded value) fun v => (n, v) := by
  funext s
  cases hn : padded name s with
  | none => simp [assignment, andThen, hn]
  | some x =>
    obtain ⟨n, r⟩ := x
    cases he : padded (char '=') r with
    | none => simp [assignment, andThen, hn, he]
    | some y => simp [assignment, andThen, hn, he, mapped]

theorem local_assignment : Scanner.Local assignment := by
  rw [assignment_eq]
  apply ((local_run _).padded (run_consumes _)).andThen
  intro n
  apply ((local_char '=').padded (char_consumes _)).andThen
  intro _
  exact (local_value.padded value_consumes).mapped _

theorem field_eq : field = mapped assignment fun a => ⟨a.1, a.2⟩ := rfl

theorem local_field : Scanner.Local field := by
  rw [field_eq]
  exact local_assignment.mapped _

theorem opening_eq_some {s r : List Char} {c : Char} :
    opening s = some (c, r) ↔ ∃ o, IsDelimiters o c ∧ s = o :: r := by
  cases s with
  | nil => simp [opening]
  | cons d s =>
    constructor
    · intro h
      simp only [opening] at h
      split at h
      · next hd =>
        obtain ⟨rfl, rfl⟩ := by simpa using h
        exact ⟨d, hd ▸ .braces, rfl⟩
      · split at h
        · next hd =>
          obtain ⟨rfl, rfl⟩ := by simpa using h
          exact ⟨d, hd ▸ .parentheses, rfl⟩
        · cases h
    · rintro ⟨o, ho, hs⟩
      obtain ⟨rfl, rfl⟩ := List.cons.inj hs
      exact opening_of_isDelimiters ho _

theorem local_opening : Scanner.Local opening := by
  intro s c r hs
  obtain ⟨o, ho, rfl⟩ := opening_eq_some.1 hs
  exact ⟨[o], rfl, fun r' _ => opening_of_isDelimiters ho r'⟩

/-! Fields and entries. -/

theorem fields_of_end {close : Char} {s : List Char}
    (h : ∀ c ∈ (skipBlank s).head?, c = close) : fields close s = some ([], skipBlank s) := by
  rw [fields, if_pos]
  cases hs : skipBlank s with
  | nil => exact .inl rfl
  | cons c t =>
    obtain rfl := h c (by simp [hs])
    exact .inr rfl

theorem local_fields (close : Char) : Scanner.Local (fields close) := by
  intro s fs r hs
  fun_induction fields close s generalizing fs with
  | case1 s hend =>
    obtain ⟨rfl, rfl⟩ := by simpa using hs
    obtain ⟨u, hsplit, hu⟩ := skip_behind (t := s) (p := isBlank) rfl
    refine ⟨u, hsplit, ?_⟩
    intro r' hr'
    have hskip : skipBlank (u ++ r') = r' := hu r' hr'.startsLike
    have hclose : ∀ c ∈ (skipBlank (u ++ r')).head?, c = close := by
      intro c hc
      rw [hskip, hr'.first] at hc
      rcases hend with hnil | hhead
      · simp [hnil] at hc
      · simpa [hhead] using hc.symm
    rw [fields_of_end hclose, hskip]
  | case2 => cases hs
  | case3 => cases hs
  | case4 s hne f r₀ hf t hr _ ih =>
    obtain ⟨⟨us, r₁⟩, hm, hsome⟩ := Option.map_eq_some_iff.1 hs
    obtain ⟨rfl, rfl⟩ := by simpa using hsome
    obtain ⟨w, rfl, hw⟩ := ih _ hm
    obtain ⟨u', rfl, hu'⟩ := skip_front (w := [',']) (r := w ++ r₁) hr (by simp)
    obtain ⟨x, hx, hskip, hfield⟩ := local_field.nonempty field_consumes hf
    obtain ⟨u, rfl, hu⟩ := skip_front hskip hx
    refine ⟨u ++ (x ++ (u' ++ ',' :: w)), by simp, ?_⟩
    intro r' hr'
    have hrest : Alike (u' ++ ([','] ++ (w ++ r₁))) (u' ++ ',' :: (w ++ r')) :=
      ((hr'.append w).append [',']).append u'
    have hfront : skipBlank (u ++ (x ++ (u' ++ ',' :: w)) ++ r') =
        x ++ (u' ++ ',' :: (w ++ r')) := by
      simpa [skipBlank] using hu (u' ++ ',' :: (w ++ r'))
    have hcomma : skipBlank (u' ++ ',' :: (w ++ r')) = ',' :: (w ++ r') := hu' (w ++ r')
    have hopen : (skipBlank (u ++ (x ++ (u' ++ ',' :: w)) ++ r')).head? ≠ some close := by
      rw [hfront, (hrest.append x).first, ← hskip]
      exact fun hclose => hne (.inr hclose)
    have hread : field (skipBlank (u ++ (x ++ (u' ++ ',' :: w)) ++ r')) =
        some (f, u' ++ ',' :: (w ++ r')) := by
      rw [hfront]
      exact hfield _ hrest
    rw [fields_of_field hopen hread, hcomma]
    simp [hw r' hr']
  | case5 s hne f r₀ hf t hr hcomma =>
    obtain ⟨rfl, rfl⟩ := by simpa using hs
    obtain ⟨u', rfl, hu'⟩ := skip_behind hr
    obtain ⟨x, hx, hskip, hfield⟩ := local_field.nonempty field_consumes hf
    obtain ⟨u, rfl, hu⟩ := skip_front hskip hx
    refine ⟨u ++ (x ++ u'), by simp, ?_⟩
    intro r' hr'
    obtain ⟨t', rfl⟩ : ∃ t', r' = close :: t' := by
      cases r' with
      | nil => cases hr'.first
      | cons c t' => exact ⟨t', by rw [Option.some.inj hr'.first]⟩
    have hrest := hr'.append u'
    have hfront : skipBlank (u ++ (x ++ u') ++ close :: t') = x ++ (u' ++ close :: t') := by
      simpa [skipBlank] using hu (u' ++ close :: t')
    have hclose : skipBlank (u' ++ close :: t') = close :: t' := hu' _ hr'.startsLike
    have hopen : (skipBlank (u ++ (x ++ u') ++ close :: t')).head? ≠ some close := by
      rw [hfront, (hrest.append x).first, ← hskip]
      exact fun hclose => hne (.inr hclose)
    have hread : field (skipBlank (u ++ (x ++ u') ++ close :: t')) =
        some (f, u' ++ close :: t') := by
      rw [hfront]
      exact hfield _ hrest
    rw [fields_of_field hopen hread, hclose]
    simp [hcomma]
  | case6 => cases hs

theorem local_fieldsAfterKey (close : Char) : Scanner.Local (fieldsAfterKey close) := by
  intro s fs r hs
  cases s with
  | nil =>
    obtain ⟨rfl, rfl⟩ := by simpa [fieldsAfterKey] using hs
    refine ⟨[], rfl, ?_⟩
    intro r' hr'
    cases r' with
    | nil => rfl
    | cons c t => cases hr'.first
  | cons c s =>
    simp only [fieldsAfterKey] at hs
    split at hs
    · next hc =>
      obtain ⟨w, rfl, hw⟩ := local_fields close _ _ _ hs
      exact ⟨c :: w, rfl, fun r' hr' => by simp [fieldsAfterKey, hc, hw r' hr']⟩
    · next hc =>
      obtain ⟨rfl, rfl⟩ := by simpa using hs
      refine ⟨[], rfl, ?_⟩
      intro r' hr'
      cases r' with
      | nil => cases hr'.first
      | cons d t =>
        obtain rfl : d = c := Option.some.inj hr'.first
        simp [fieldsAfterKey, hc]

theorem entry_eq : entry = andThen name fun type =>
    andThen (behindBlanks opening) fun close => andThen (padded entryKey) fun key =>
      andThen (fieldsAfterKey close) fun fs =>
        mapped (padded (char close)) fun _ => ⟨.ofName type, key, fs⟩ := by
  funext s
  cases ht : name s with
  | none => simp [entry, andThen, ht]
  | some x =>
    obtain ⟨type, r⟩ := x
    cases ho : opening (skipBlank r) with
    | none => simp [entry, andThen, behindBlanks, ht, ho]
    | some x =>
      obtain ⟨close, r⟩ := x
      cases hk : padded entryKey r with
      | none => simp [entry, andThen, behindBlanks, ht, ho, hk]
      | some x =>
        obtain ⟨key, r⟩ := x
        cases hf : fieldsAfterKey close r with
        | none => simp [entry, andThen, behindBlanks, ht, ho, hk, hf]
        | some x => simp [entry, andThen, behindBlanks, ht, ho, hk, hf, mapped]

theorem closed_of_opening {s r : List Char} {close : Char}
    (h : behindBlanks opening s = some (close, r)) : (padded (char close)).Closed := by
  obtain ⟨o, ho, -⟩ := opening_eq_some.1 h
  exact closed_padded_char (isBlank_of_isEnd ho.isEnd)

theorem closed_entry : Scanner.Closed entry := by
  rw [entry_eq]
  apply (local_run _).andThen_closed
  intro _ type _ _
  apply (local_opening.behindBlanks opening_consumes).andThen_closed
  intro _ close _ hclose
  apply ((local_run _).padded (run_consumes _)).andThen_closed
  intro _ key _ _
  apply (local_fieldsAfterKey close).andThen_closed
  intro _ fs _ _
  exact (closed_of_opening hclose).mapped _

end Citation.Source
