import Citation.Proofs.Texts

/-! Texts in sequence: appending is associative, the empty text is neutral on normal texts, and
what a normal text shows at its end is found at the end of its visible characters. -/
namespace Citation.Text

theorem normal_nil : Text.nil.Normal := trivial

theorem consRun_nil (t : Text) : consRun [] t = t := if_pos rfl

theorem consRun_consRun (s s' : List Char) (t : Text) :
    consRun s (consRun s' t) = consRun (s ++ s') t := by
  by_cases hs' : s' = []
  · simp [hs', consRun_nil]
  · by_cases hs : s = []
    · simp [hs, consRun_nil]
    · cases t <;> simp [consRun, hs, hs']

theorem consRun_append (s : List Char) (t u : Text) : consRun s t ++ u = consRun s (t ++ u) := by
  by_cases hs : s = []
  · simp [hs, consRun_nil]
  · cases t with
    | nil => simp [consRun, hs]
    | run s' rest =>
      rw [consRun, if_neg hs, run_append, run_append, consRun_consRun]
    | wrap w inner rest => simp [consRun, hs]

theorem consWrap_append (w : Wrap) (inner t u : Text) :
    consWrap w inner t ++ u = consWrap w inner (t ++ u) := by
  by_cases hinner : inner = .nil
  · simp [consWrap, hinner]
  · simp [consWrap, hinner]

theorem append_assoc (t u v : Text) : t ++ u ++ v = t ++ (u ++ v) := by
  induction t with
  | nil => rfl
  | run s rest ih => simp [consRun_append, ih]
  | wrap w inner rest _ ih => simp [consWrap_append, ih]

theorem ofChars_append_eq (s : List Char) (t : Text) : ofChars s ++ t = consRun s t := by
  rw [ofChars, consRun_append, nil_append]

theorem ofChars_append_ofChars (s s' : List Char) :
    ofChars s ++ ofChars s' = ofChars (s ++ s') := by
  rw [ofChars_append_eq, ofChars, ofChars, consRun_consRun]

theorem within_append_eq (w : Wrap) (inner t : Text) :
    within w inner ++ t = consWrap w inner t := by
  rw [within, consWrap_append, nil_append]

theorem Normal.consRun_eq {s : List Char} {rest : Text} (h : (run s rest).Normal) :
    consRun s rest = .run s rest := by
  obtain ⟨hs, hrun, -⟩ := h
  cases rest with
  | nil => simp [consRun, hs]
  | run s' rest' => exact absurd rfl (hrun s' rest')
  | wrap w inner rest' => simp [consRun, hs]

theorem Normal.consWrap_eq {w : Wrap} {inner rest : Text} (h : (wrap w inner rest).Normal) :
    consWrap w inner rest = .wrap w inner rest := if_neg h.1

/-- A normal text is its first run and what follows it. -/
theorem Normal.run_eq {s : List Char} {rest : Text} (h : (run s rest).Normal) :
    .run s rest = ofChars s ++ rest := by
  rw [ofChars_append_eq, h.consRun_eq]

theorem Normal.wrap_eq {w : Wrap} {inner rest : Text} (h : (wrap w inner rest).Normal) :
    .wrap w inner rest = Text.within w inner ++ rest := by
  rw [within_append_eq, h.consWrap_eq]

theorem Normal.append_nil {t : Text} (h : t.Normal) : t ++ .nil = t := by
  induction t with
  | nil => rfl
  | run s rest ih => rw [run_append, ih h.2.2, h.consRun_eq]
  | wrap w inner rest _ ih => rw [wrap_append, ih h.2.2, h.consWrap_eq]

/-! What a normal text shows. -/

theorem Normal.plain_eq_nil_iff {t : Text} (h : t.Normal) : t.plain = [] ↔ t = .nil := by
  refine ⟨fun hplain => ?_, fun hnil => by rw [hnil]; rfl⟩
  induction t with
  | nil => rfl
  | run s rest => exact absurd (List.append_eq_nil_iff.1 hplain).1 h.1
  | wrap w inner rest ih => exact absurd (ih h.2.1 (List.append_eq_nil_iff.1 hplain).1) h.1

theorem Normal.length_eq_zero_iff {t : Text} (h : t.Normal) : t.length = 0 ↔ t = .nil := by
  rw [length_eq, List.length_eq_zero_iff, h.plain_eq_nil_iff]

theorem Normal.last_eq {t : Text} (h : t.Normal) : t.last = t.plain.getLast? := by
  fun_induction Text.last t with
  | case1 => rfl
  | case2 s => simp [plain]
  | case3 w inner ih => simpa [plain] using ih h.2.1
  | case4 s rest hne ih =>
    have hrest : rest.plain ≠ [] := fun hplain => hne (h.2.2.plain_eq_nil_iff.1 hplain)
    rw [ih h.2.2, plain, List.getLast?_append, Option.or_of_isSome (List.getLast?_isSome.2 hrest)]
  | case5 w inner rest hne ih =>
    have hrest : rest.plain ≠ [] := fun hplain => hne (h.2.2.plain_eq_nil_iff.1 hplain)
    rw [ih h.2.2, plain, List.getLast?_append, Option.or_of_isSome (List.getLast?_isSome.2 hrest)]

theorem Normal.last_eq_none_iff {t : Text} (h : t.Normal) : t.last = none ↔ t = .nil := by
  rw [h.last_eq, List.getLast?_eq_none_iff, h.plain_eq_nil_iff]

/-- Whether a normal text ends a sentence is told by the last character that it shows. -/
theorem Normal.endsSentence_eq {t : Text} (h : t.Normal) :
    t.endsSentence = t.plain.getLast?.any ['.', '?', '!'].contains := by
  rw [endsSentence, h.last_eq]

end Citation.Text
