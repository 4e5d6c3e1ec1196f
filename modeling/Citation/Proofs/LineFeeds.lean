import Citation.Proofs.Capitals
import Citation.Proofs.Composition
import Citation.Proofs.Extracts
import Citation.Proofs.Initials
import Mathlib.Data.List.DropRight

/-! Line feeds in changes of case, in composed characters and in markup. None of these makes a line
feed. White space in markup decodes to blanks, but a line feed stays behind a backslash and in the
address of a `\url`. -/
namespace Citation

namespace Unicode

theorem ofNat_ne_lineFeed {n : Nat} (h : 10 < n) : Char.ofNat n ≠ '\n' := by
  intro heq
  by_cases hvalid : n.isValidChar
  · have htoNat : n = '\n'.toNat := by rw [← heq, Char.ofNat, dif_pos hvalid]; rfl
    exact absurd htoNat (by simpa using h.ne')
  · rw [Char.ofNat, dif_neg hvalid] at heq
    exact absurd heq (by decide)

theorem lineFeed_notMem_map_ofNat {ns : List Nat} (h : ∀ n ∈ ns, 10 < n) :
    '\n' ∉ ns.map Char.ofNat := by
  intro hmem
  obtain ⟨n, hn, heq⟩ := List.mem_map.1 hmem
  exact ofNat_ne_lineFeed (h n hn) heq

/-! Changes of case. -/

theorem eq_lineFeed_of_ascii {f : Char → Char} (hf : ∀ n < 128, f (Char.ofNat n) = '\n' → n = 10)
    {c : Char} (hc : c.toNat < 128) (h : f c = '\n') : c = '\n' := by
  have hten := hf c.toNat hc (by rwa [Char.ofNat_toNat])
  rw [← Char.ofNat_toNat c, hten]

theorem lineFeed_mem_lowerChar_iff (c : Char) : '\n' ∈ lowerChar c ↔ c = '\n' := by
  constructor
  · intro h
    unfold lowerChar at h
    split at h
    · next hc =>
      exact eq_lineFeed_of_ascii (f := Char.toLower) (by decide) hc (List.mem_singleton.1 h).symm
    · split at h
      · simp at h
      · split at h
        · next n hn =>
          have hlt := runs_pastLineFeed.1.lt_of_shifted hn
          exact absurd (List.mem_singleton.1 h).symm (ofNat_ne_lineFeed hlt)
        · exact (List.mem_singleton.1 h).symm
  · rintro rfl
    decide

theorem lineFeed_mem_upperChar_iff (c : Char) : '\n' ∈ upperChar c ↔ c = '\n' := by
  constructor
  · intro h
    unfold upperChar at h
    split at h
    · next hc =>
      exact eq_lineFeed_of_ascii (f := Char.toUpper) (by decide) hc (List.mem_singleton.1 h).symm
    · split at h
      · next d ds himage =>
        have hlt : ∀ n ∈ d :: ds, 10 < n := fun n hn =>
          upperExpansions_pastLineFeed.lt_of_expansion (himage ▸ hn)
        exact absurd h (lineFeed_notMem_map_ofNat hlt)
      · split at h
        · next n hn =>
          have hlt := runs_pastLineFeed.2.lt_of_shifted hn
          exact absurd (List.mem_singleton.1 h).symm (ofNat_ne_lineFeed hlt)
        · exact (List.mem_singleton.1 h).symm
  · rintro rfl
    decide

theorem lineFeed_mem_lowerAfter_iff (before s : List Char) :
    '\n' ∈ lowerAfter before s ↔ '\n' ∈ s := by
  induction s generalizing before with
  | nil => rfl
  | cons c s ih =>
    have hfirst : '\n' ∈ (if c = 'Σ' then [if endsWord before s then 'ς' else 'σ']
        else lowerChar c) ↔ '\n' = c := by
      split
      · next hc =>
        subst hc
        split <;> simp
      · rw [lineFeed_mem_lowerChar_iff, eq_comm]
    rw [lowerAfter, List.mem_append, hfirst, ih, List.mem_cons]

theorem lineFeed_mem_lower_iff (s : List Char) : '\n' ∈ lower s ↔ '\n' ∈ s :=
  lineFeed_mem_lowerAfter_iff [] s

/-! Composition. -/

/-- Points in front of the first block of a table have no row. -/
theorem rowOf_before {t : Table} {n first : Nat} (hfirst : t.head?.map Prod.fst = some first)
    (h : n < first) : t.rowOf n = [] := by
  cases t with
  | nil => rfl
  | cons b t =>
    obtain rfl : b.1 = first := by simpa using hfirst
    have hnone : lastUpTo Prod.fst n (b :: t) = none := by
      rw [lastUpTo, List.takeWhile_cons_of_neg (by simpa using h)]
      rfl
    rw [Table.rowOf, hnone]

/-- No character composes with a line feed in front of it. -/
theorem composite_lineFeed (b : Char) : composite '\n' b = none := by
  have hb : b.toNat < 0x110000 := by
    rcases b.valid with h | h
    · exact Nat.lt_trans h (by decide)
    · exact h.2
  have hten : '\n'.toNat = 10 := rfl
  have hrow : compositionTable.expansion ('\n'.toNat * 0x1000000 + b.toNat) = [] := by
    have hfirst : compositionTable.head?.map Prod.fst = some 0x3C000338 := rfl
    rw [Table.expansion, rowOf_before hfirst (by omega)]
  have hhangul : hangulComposite '\n'.toNat b.toNat = none := by
    rw [hten]
    simp [hangulComposite, isHangulSyllable]
  rw [composite_eq, hrow, hhangul]
  rfl

theorem lineFeed_mem_composeOnto_lineFeed (passed s : List Char) :
    '\n' ∈ composeOnto '\n' passed s := by
  induction s generalizing passed with
  | nil => simp [composeOnto]
  | cons c s ih =>
    have hnone : (if isHidden c passed then none else composite '\n' c) = none := by
      rw [composite_lineFeed, ite_self]
    rw [composeOnto, hnone]
    by_cases hclass : combiningClass c = 0
    · simp [hclass]
    · simpa [hclass] using ih (c :: passed)

theorem unmade_lineFeed : Unmade '\n' := by decide

/-- A line feed stays in front of what follows it. -/
theorem lineFeed_mem_composed (s : List Char) : '\n' ∈ composed ('\n' :: s) := by
  have hclass : combiningClass '\n' = 0 := by decide +kernel
  have hfirst : ∀ ds, insertMark '\n' ds = '\n' :: ds := by
    intro ds
    cases ds with
    | nil => rfl
    | cons d ds => rw [insertMark, hclass, if_neg (by omega)]
  have hself : canonicalDecomposition '\n' = ['\n'] := rfl
  rw [composed, List.flatMap_cons, hself, List.singleton_append, orderMarks, hfirst, compose,
    if_pos hclass]
  exact lineFeed_mem_composeOnto_lineFeed _ _

end Unicode

/-! Markup. -/

namespace Latex
open Unicode

theorem lineFeed_mem_accented_iff {mark : Char} (hmark : mark ≠ '\n') (s : List Char) :
    '\n' ∈ accented mark s ↔ '\n' ∈ s := by
  cases s with
  | nil => rfl
  | cons c s =>
    have hfirst : '\n' ∈ composed [accentBase c, mark] ↔ '\n' = c := by
      constructor
      · intro h
        have hmem := mem_of_mem_composed unmade_lineFeed h
        simp only [List.mem_cons, hmark.symm, List.not_mem_nil, or_self, or_false] at hmem
        unfold accentBase at hmem
        split_ifs at hmem
        · exact absurd hmem (by decide)
        · exact absurd hmem (by decide)
        · exact hmem
      · rintro rfl
        exact lineFeed_mem_composed [mark]
    rw [accented, List.mem_append, hfirst, List.mem_cons]

/-- A character other than a blank shows in a text exactly if one of the tokens shows it. -/
theorem mem_plain_ofTokensIn {c : Char} (hc : c ≠ ' ') (stack : List Frame) (text : Text)
    (run : List Char) (ts : List Token) : c ∈ (Text.ofTokensIn stack text run ts).plain ↔
      c ∈ shownBefore stack ++ text.plain ++ run ++ ts.flatMap Token.shown := by
  induction ts generalizing stack text run with
  | nil => simp [Text.ofTokensIn, plain_foldl_close]
  | cons t ts ih =>
    cases t with
    | chars s =>
      simp only [Text.ofTokensIn, ih, Token.shown, List.flatMap_cons, List.mem_append,
        List.mem_reverse]
      tauto
    | space =>
      rw [Text.ofTokensIn, ih]
      split <;> simp [Token.shown, hc]
    | opens w => simp [Text.ofTokensIn, ih, Token.shown, shownBefore_cons, Text.plain]
    | closes =>
      cases stack with
      | nil => simp [Text.ofTokensIn, ih, Token.shown]
      | cons f stack =>
        simp [Text.ofTokensIn, ih, Token.shown, shownBefore_cons, plain_close]
    | piece t => simp [Text.ofTokensIn, ih, Token.shown]

theorem mem_plain_iff {c : Char} (hc : c ≠ ' ') (s : List Char) :
    c ∈ plain s ↔ ∃ t ∈ tokens s, c ∈ t.shown := by
  have hmem := mem_plain_ofTokensIn hc [] .nil [] (tokens s)
  rw [plain, Text.ofLatex, Text.ofTokens, hmem, ← List.mem_flatMap]
  rfl

/-- Where decoding leaves a line feed: behind a backslash, in the address of a `\url`, and in
what the argument of an accent decodes to. -/
inductive KeepsLineFeed : List Char → Prop
  | symbol (s : List Char) : KeepsLineFeed ('\\' :: '\n' :: s)
  | address {s : List Char} (hname : s.takeWhile Char.isAlpha = "url".toList)
      (h : '\n' ∈ (rawArgument (s.dropWhile Char.isAlpha)).1) : KeepsLineFeed ('\\' :: s)
  | accent {c mark : Char} {s raw : List Char} (hlexeme : (lexeme c s).1 = .accent mark raw)
      (h : KeepsLineFeed raw) : KeepsLineFeed (c :: s)
  | behind {c : Char} {s : List Char} (h : KeepsLineFeed (lexeme c s).2) : KeepsLineFeed (c :: s)

theorem command?_eq_url_iff {name : List Char} :
    command? name = some .url ↔ name = "url".toList := by
  constructor
  · intro h
    have hall : (commands.all fun c => match c.2 with | .url => c.1 == "url" | _ => true) =
        true := by decide +kernel
    obtain ⟨s, rfl, hmem⟩ := mem_commands h
    have hs : s = "url" := beq_iff_eq.1 (List.all_eq_true.1 hall _ hmem)
    rw [hs]
  · rintro rfl
    rfl

theorem lineFeed_notMem_symbol {name : List Char} {s : String}
    (h : command? name = some (.symbol s)) : '\n' ∉ s.toList := by
  have hall : (commands.all fun c => match c.2 with
      | .symbol s => !s.toList.contains '\n' | _ => true) = true := by decide +kernel
  obtain ⟨_, -, hmem⟩ := mem_commands h
  have hs := List.all_eq_true.1 hall _ hmem
  simpa using hs

theorem lineFeed_notMem_argument {w : Option Wrap} {s : List Char} :
    '\n' ∉ (argument w s).1.shown := by
  unfold argument
  split
  · simp [Token.shown, Text.plain]
  · next c r hstart =>
    have hc : c ≠ '\n' := by
      rintro rfl
      have hhead := List.head?_dropWhile_not isWhitespace s
      rw [trimStart] at hstart
      rw [hstart] at hhead
      have hwhite : isWhitespace '\n' = false := hhead
      exact absurd hwhite (by decide)
    split
    · simp [Token.shown]
    · cases w <;> simp [Token.shown, hc.symm]

/-- A named command shows a line feed only in the address of a `\url`. -/
theorem lineFeed_mem_namedCommand_iff {name s : List Char} (hname : '\n' ∉ name) {t : Token}
    (h : (namedCommand name s).1 = .token t) :
    '\n' ∈ t.shown ↔ name = "url".toList ∧ '\n' ∈ (rawArgument s).1 := by
  rw [← command?_eq_url_iff]
  unfold namedCommand at h
  split at h <;> rename_i hcommand <;> rw [hcommand]
  -- The commands in the order of the definition: unknown ones, then symbols, accents, groups,
  -- addresses, and labels of addresses.
  · obtain rfl := Lexeme.token.inj h
    simp [Token.shown, hname]
  · obtain rfl := Lexeme.token.inj h
    simp [Token.shown, lineFeed_notMem_symbol hcommand]
  · cases h
  · obtain rfl := Lexeme.token.inj h
    simp [lineFeed_notMem_argument]
  · obtain rfl := Lexeme.token.inj h
    simp [Token.shown]
  · obtain rfl := Lexeme.token.inj h
    simp [lineFeed_notMem_argument]

theorem lineFeed_mem_controlSymbol_iff (c : Char) : '\n' ∈ controlSymbol c ↔ c = '\n' := by
  unfold controlSymbol
  split_ifs with hsign hspace hnothing
  · rw [List.mem_singleton, eq_comm]
  · have hc : c ≠ '\n' := by
      rintro rfl
      exact absurd hspace (by decide)
    simp [hc]
  · have hc : c ≠ '\n' := by
      rintro rfl
      exact absurd hnothing (by decide)
    simp [hc]
  · simp [eq_comm]

theorem lineFeed_mem_controlSequence_iff {s : List Char} {t : Token}
    (h : (controlSequence s).1 = .token t) : '\n' ∈ t.shown ↔ s.head? = some '\n' ∨
      s.takeWhile Char.isAlpha = "url".toList ∧
        '\n' ∈ (rawArgument (s.dropWhile Char.isAlpha)).1 := by
  cases s with
  | nil =>
    obtain rfl := Lexeme.token.inj h
    simp [Token.shown]
  | cons c r =>
    by_cases hc : c.isAlpha = true
    · have hname : '\n' ∉ (c :: r).takeWhile Char.isAlpha := by
        intro hmem
        exact absurd (List.mem_takeWhile_imp hmem) (by decide)
      have hhead : (c :: r).head? ≠ some '\n' := by
        rintro hhead
        obtain rfl := Option.some.inj hhead
        exact absurd hc (by decide)
      have htrim : ∀ s, rawArgument (trimStart s) = rawArgument s := by
        intro s
        rw [rawArgument, rawArgument, trimStart, trimStart, List.dropWhile_idempotent]
      rw [controlSequence, if_pos hc] at h
      rw [lineFeed_mem_namedCommand_iff hname h, htrim]
      simp only [hhead, false_or]
    · have hnone : (c :: r).takeWhile Char.isAlpha ≠ "url".toList := by
        rw [List.takeWhile_cons_of_neg hc]
        decide
      rw [controlSequence, if_neg hc] at h
      split at h
      · cases h
      · obtain rfl := Lexeme.token.inj h
        simp only [Token.shown, lineFeed_mem_controlSymbol_iff, hnone, false_and, or_false,
          List.head?_cons, Option.some.injEq]

theorem lineFeed_mem_lexeme_iff {c : Char} {s : List Char} {t : Token}
    (h : (lexeme c s).1 = .token t) : '\n' ∈ t.shown ↔ c = '\\' ∧ (s.head? = some '\n' ∨
      s.takeWhile Char.isAlpha = "url".toList ∧
        '\n' ∈ (rawArgument (s.dropWhile Char.isAlpha)).1) := by
  by_cases hbackslash : c = '\\'
  · subst hbackslash
    rw [lineFeed_mem_controlSequence_iff (s := s) h]
    simp
  · simp only [hbackslash, false_and, iff_false]
    unfold lexeme at h
    split_ifs at h with hopen hclose htilde hhyphen hwhite <;> obtain rfl := Lexeme.token.inj h
    · simp [Token.shown]
    · simp [Token.shown]
    · simp [Token.shown, tie]
    · unfold dashOf
      split_ifs <;> simp [Token.shown, enDash, emDash]
    · simp [Token.shown]
    · have hc : c ≠ '\n' := by
        rintro rfl
        exact absurd hwhite (by decide)
      simp [Token.shown, hc.symm]

theorem mark_ne_lineFeed {c mark : Char} {s raw : List Char}
    (h : (lexeme c s).1 = .accent mark raw) : mark ≠ '\n' := by
  rintro rfl
  exact absurd (isAccentMark_of_lexeme h) (by decide)

theorem lexeme_url {s : List Char} (hname : s.takeWhile Char.isAlpha = "url".toList) :
    ∃ t, (lexeme '\\' s).1 = .token t := by
  cases s with
  | nil => cases hname
  | cons c r =>
    have hc : c.isAlpha = true := by
      by_contra hc
      rw [List.takeWhile_cons_of_neg hc] at hname
      cases hname
    have hcommand : command? "url".toList = some .url := rfl
    have hlexeme : lexeme '\\' (c :: r) = controlSequence (c :: r) := rfl
    rw [hlexeme, controlSequence, if_pos hc, hname, namedCommand, hcommand]
    exact ⟨_, rfl⟩

/-- A decoded text has a line feed exactly where decoding leaves one. -/
theorem lineFeed_mem_plain_iff (s : List Char) : '\n' ∈ plain s ↔ KeepsLineFeed s := by
  rw [mem_plain_iff (by decide)]
  fun_induction tokens s with
  | case1 =>
    constructor
    · rintro ⟨t, ht, -⟩
      cases ht
    · intro h
      cases h
  | case2 c s _ t ht ih =>
    rw [List.exists_mem_cons_iff, ih, lineFeed_mem_lexeme_iff ht]
    constructor
    · rintro (⟨rfl, hfeed | ⟨hname, haddress⟩⟩ | hrest)
      · obtain ⟨r, rfl⟩ := List.head?_eq_some_iff.1 hfeed
        exact .symbol r
      · exact .address hname haddress
      · exact .behind hrest
    · intro h
      cases h with
      | symbol r => exact .inl ⟨rfl, .inl rfl⟩
      | address hname haddress => exact .inl ⟨rfl, .inr ⟨hname, haddress⟩⟩
      | accent hlexeme => cases hlexeme.symm.trans ht
      | behind hrest => exact .inr hrest
  | case3 c s _ mark raw hmark _ ih₁ ih₂ =>
    have hargument : '\n' ∈ accented mark (Text.ofTokens (tokens raw)).plain ↔
        KeepsLineFeed raw := by
      rw [lineFeed_mem_accented_iff (mark_ne_lineFeed hmark), ← ih₁]
      exact mem_plain_iff (by decide) raw
    rw [List.exists_mem_cons_iff, ih₂, Token.shown, hargument]
    constructor
    · rintro (hraw | hrest)
      · exact .accent hmark hraw
      · exact .behind hrest
    · intro h
      cases h with
      | symbol r => cases hmark
      | address hname haddress =>
        obtain ⟨t, ht⟩ := lexeme_url hname
        cases ht.symm.trans hmark
      | accent hlexeme hraw =>
        obtain ⟨rfl, rfl⟩ := Lexeme.accent.inj (hlexeme.symm.trans hmark)
        exact .inl hraw
      | behind hrest => exact .inr hrest

end Latex
end Citation
