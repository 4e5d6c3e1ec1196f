import Citation.Proofs.LineComments

/-! Names of entry types that start like a keyword. A name may go on behind a keyword with a sign,
at which the keyword ends all the same: such a block is a comment or cannot be read. At any other
name that is no keyword itself an entry is read. -/
namespace Citation.Source
open Unicode Scanner

/-- The characters of names that are no letters, numbers or underscores. -/
def signs : List Char := ['-', ':', '.', '+', '/', '\'']

/-- A name that goes on behind a keyword with a sign. -/
def Outgrows (w : String) (t : List Char) : Prop :=
  ∃ m c u, t = m ++ c :: u ∧ IsKeyword w.toList m ∧ c ∈ signs

theorem mem_signs {c : Char} (hname : isNameChar c = true)
    (hc : (isAlphanumeric c || c == '_') = false) : c ∈ signs := by
  rw [Bool.or_eq_false_iff, beq_eq_false_iff_ne] at hc
  simpa [isNameChar, hc.1, hc.2, signs] using hname

/-- A sign ends a keyword, belongs to names, and is neither blank nor a delimiter. -/
theorem of_mem_signs {c : Char} (hc : c ∈ signs) :
    (isAlphanumeric c || c == '_') = false ∧ isBlank c = false ∧ (c ≠ '{' ∧ c ≠ '(') ∧
      c ≠ '\n' := by
  have hall : (signs.all fun c => (isAlphanumeric c || c == '_') = false ∧ isBlank c = false ∧
      (c ≠ '{' ∧ c ≠ '(') ∧ c ≠ '\n') = true := by decide
  exact of_decide_eq_true (List.all_eq_true.1 hall c hc)

theorem IsKeyword.letters {w : String} (hw : w ∈ keywords) {k : List Char}
    (h : IsKeyword w.toList k) : ∀ c ∈ k, (isNameChar c && !isWhitespace c) = true := by
  have hall : ∀ w ∈ keywords, (w.toList.all fun d =>
      (isNameChar d.toLower && !isWhitespace d.toLower) &&
        (isNameChar (Char.ofNat (d.toLower.toNat - 32)) &&
          !isWhitespace (Char.ofNat (d.toLower.toNat - 32)))) = true := by decide
  exact forall_of_sameName h (hall w hw)

/-- In front of a text that does not go on with the name, a keyword is found in a name if it is that
name, or the name outgrows it. -/
theorem keyword_append_name {w : String} (hw : w ∈ keywords) {t s : List Char} (ht : IsName t)
    (hne : ¬ IsKeyword w.toList t) (hs : ∀ c ∈ s.head?, isNameChar c = false)
    {m r : List Char} (h : keyword w.toList (t ++ s) = some (m, r)) : Outgrows w t := by
  obtain ⟨hsplit, hm, hr⟩ := keyword_eq_some_iff.1 h
  rcases List.append_eq_append_iff.1 hsplit with ⟨v, rfl, rfl⟩ | ⟨v, rfl, rfl⟩
  · cases v with
    | nil => exact absurd (by simpa using hm) hne
    | cons c v =>
      have hc := (Bool.and_eq_true_iff.1 (hm.letters hw c (by simp))).1
      rw [hs c rfl] at hc
      cases hc
  · cases v with
    | nil => exact absurd (by simpa using hm) hne
    | cons c v => exact ⟨m, c, v, rfl, hm, mem_signs (ht.2 c (by simp)) (hr c rfl)⟩

/-- A keyword is found in a name that outgrows it, and a sign stands behind it. -/
theorem Outgrows.split {w : String} {t : List Char} (h : Outgrows w t) (s : List Char) :
    ∃ m c r, t ++ s = m ++ c :: r ∧ IsKeyword w.toList m ∧ c ∈ signs ∧
      keyword w.toList (m ++ c :: r) = some (m, c :: r) := by
  obtain ⟨m, c, u, rfl, hm, hc⟩ := h
  refine ⟨m, c, u ++ s, by simp, hm, hc, keyword_eq_some_iff.2 ⟨rfl, hm, ?_⟩⟩
  simpa using (of_mem_signs hc).1

/-- The names at which no keyword is found. -/
theorem isTypeName_iff {t : List Char} : IsTypeName t ↔
    IsName t ∧ ∀ w ∈ keywords, ¬ IsKeyword w.toList t ∧ ¬ Outgrows w t := by
  constructor
  · rintro ⟨ht, hnone⟩
    refine ⟨ht, fun w hw => ⟨fun h => ?_, fun h => ?_⟩⟩
    · have hread : keyword w.toList t = some (t, []) :=
        keyword_eq_some_iff.2 ⟨by simp, h, by simp⟩
      rw [hnone w hw] at hread
      cases hread
    · obtain ⟨m, c, r, hsplit, -, -, hread⟩ := h.split []
      rw [List.append_nil] at hsplit
      rw [← hsplit, hnone w hw] at hread
      cases hread
  · rintro ⟨ht, hne⟩
    refine ⟨ht, fun w hw => Option.eq_none_iff_forall_not_mem.2 ?_⟩
    rintro ⟨m, r⟩ hread
    obtain ⟨hkeyword, hout⟩ := hne w hw
    exact hout (keyword_append_name (s := []) hw ht hkeyword (by simp) (by simpa using hread))

theorem item_of_solid {s : List Char} (hs : Solid s) : item ('@' :: s) = block s := by
  rw [← item_of_block isSpacing_nil hs, List.nil_append]

/-- At a name that neither is a keyword nor outgrows one, an entry is read. -/
theorem item_eq_entry {t s : List Char} (ht : IsName t)
    (hne : ∀ w ∈ keywords, ¬ IsKeyword w.toList t ∧ ¬ Outgrows w t)
    (hs : ∀ c ∈ s.head?, isNameChar c = false) :
    item ('@' :: (t ++ s)) = mapped entry .entry (t ++ s) := by
  have hnone : ∀ w ∈ keywords, keyword w.toList (t ++ s) = none := by
    intro w hw
    rw [Option.eq_none_iff_forall_not_mem]
    rintro ⟨m, r⟩ hread
    exact (hne w hw).2 (keyword_append_name hw ht (hne w hw).1 hs hread)
  have hcomment := hnone "comment" (by decide)
  have hstring := hnone "string" (by decide)
  have hpreamble := hnone "preamble" (by decide)
  rw [item_of_solid (ht.solid.append s)]
  simp only [block, hcomment, hstring, hpreamble, mapped]

theorem entry_of_fields {t k f : List Char} {fs : List Field} {o c : Char} (ht : IsName t)
    (ho : IsDelimiters o c) (hk : IsKey k) (hf : fields c (f ++ [c]) = some (fs, [c])) :
    entry (t ++ o :: (k ++ ',' :: (f ++ [c]))) = some (⟨.ofName t, k, fs⟩, []) := by
  have hname : name (t ++ o :: (k ++ ',' :: (f ++ [c]))) =
      some (t, o :: (k ++ ',' :: (f ++ [c]))) := name_append ht (.cons ho.isStop_opening _)
  have hopening : opening (skipBlank (o :: (k ++ ',' :: (f ++ [c])))) =
      some (c, k ++ ',' :: (f ++ [c])) := by
    rw [skipBlank_solid (.cons ho.isBlank_opening _), opening_of_isDelimiters ho]
  have hkey : padded entryKey (k ++ ',' :: (f ++ [c])) = some (k, ',' :: (f ++ [c])) :=
    padded_append isSpacing_nil hk.solid isSpacing_nil (.cons rfl _)
      (entryKey_append hk (.cons rfl _))
  have hfields : fieldsAfterKey c (',' :: (f ++ [c])) = some (fs, [c]) := by
    simpa [fieldsAfterKey] using hf
  simp only [entry, hname, hopening, hkey, hfields, padded_close ho, Option.map_some]
  rfl

/-- A name that outgrows `comment` starts a comment, which holds the rest of its line. -/
theorem items_of_outgrows_comment {t : List Char} (h : Outgrows "comment" t) (s : List Char) :
    ∃ m line rest, IsKeyword "comment".toList m ∧ t ++ s = m ++ (line ++ rest) ∧ '\n' ∉ line ∧
      (∀ d ∈ rest.head?, d = '\n') ∧
      items ('@' :: (t ++ s)) = (items rest).map (.comment (trim line) :: ·) := by
  obtain ⟨m, c, r, hsplit, hm, hc, -⟩ := h.split s
  obtain ⟨hend, hblank, hopen, hfeed⟩ := of_mem_signs hc
  obtain ⟨line, rest, rfl, hno, hrest⟩ := exists_line r
  have hline : '\n' ∉ c :: line := by simp [hfeed.symm, hno]
  have hbody : commentBody (c :: (line ++ rest)) = some (c :: line, rest) :=
    commentBody_of_line (skipBlank_solid (.cons hblank _)) hopen hline hrest
  have hitem := item_comment (g := []) isSpacing_nil hm (by simpa using hend) hbody
  exact ⟨m, c :: line, rest, hm, hsplit, hline, hrest, hsplit ▸ items_of_item rfl hitem⟩

/-- Behind a name that outgrows another keyword stands no delimiter. -/
theorem item_of_outgrows {w : String} (hw : w = "string" ∨ w = "preamble") {t : List Char}
    (h : Outgrows w t) (s : List Char) : item ('@' :: (t ++ s)) = none := by
  obtain ⟨m, c, r, hsplit, hm, hc, hkeyword⟩ := h.split s
  obtain ⟨-, hblank, hopen, -⟩ := of_mem_signs hc
  have hmem : w ∈ keywords := by rcases hw with rfl | rfl <;> decide
  have hbody : ∀ {α : Type} (body : Scanner α), delimited body (c :: r) = none := by
    intro α body
    rw [delimited, skipBlank_solid (.cons hblank r)]
    simp [opening, hopen]
  rw [hsplit, item_of_solid ((hm.solid hmem).append (c :: r))]
  rcases hw with rfl | rfl
  · have hcomment := IsKeyword.keyword_eq_none (v := "comment") (by decide) hmem (by decide) hm
      (c :: r)
    simp only [block, hcomment, hkeyword, hbody, Option.map_none]
  · have hcomment := IsKeyword.keyword_eq_none (v := "comment") (by decide) hmem (by decide) hm
      (c :: r)
    have hstring := IsKeyword.keyword_eq_none (v := "string") (by decide) hmem (by decide) hm
      (c :: r)
    simp only [block, hcomment, hstring, hkeyword, hbody, Option.map_none]

/-- The error at an item of a name that outgrows a keyword has the whole name. -/
theorem parse_of_outgrows {w : String} (hw : w = "string" ∨ w = "preamble") {t : List Char}
    (ht : IsName t) (h : Outgrows w t) {s : List Char}
    (hs : ∀ c ∈ s.head?, isNameChar c = false) :
    parse ('@' :: (t ++ s)) = .error (.malformed ⟨1, 1⟩ t (excerpt 40 ('@' :: (t ++ s)))) := by
  have herror : items ([] ++ '@' :: (t ++ s)) = .error ('@' :: (t ++ s)) :=
    items_of_stuck rfl (item_of_outgrows hw h s)
  have hmem : w ∈ keywords := by rcases hw with rfl | rfl <;> decide
  have hstart : trimStart (t ++ s) = t ++ s := by
    obtain ⟨m, c, r, hsplit, hm, -⟩ := h.split s
    obtain ⟨d, v, rfl, -⟩ := hm.solid hmem
    have hd := (Bool.and_eq_true_iff.1 (hm.letters hmem d (.head v))).2
    rw [hsplit]
    exact List.dropWhile_cons_of_neg (by simpa using hd)
  have hparse := parse_of_items_error herror
  rwa [hstart, (span_append ht.2 hs).1, List.nil_append] at hparse

/-- Behind a name that is no keyword stands an entry, and it is read as one exactly if the name does
not outgrow a keyword either. One that outgrows `comment` starts a comment with the rest of its
line, and at one that outgrows another keyword reading fails. -/
theorem parse_namedEntry {t k f : List Char} {fs : List Field} {o c : Char} (ht : IsName t)
    (hne : ∀ w ∈ keywords, ¬ IsKeyword w.toList t) (ho : IsDelimiters o c) (hk : IsKey k)
    (hf : fields c (f ++ [c]) = some (fs, [c])) :
    let s := o :: (k ++ ',' :: (f ++ [c]))
    entry (t ++ s) = some (⟨.ofName t, k, fs⟩, []) ∧
    ((∀ w ∈ keywords, ¬ Outgrows w t) →
      ∀ s, (∀ d ∈ s.head?, isNameChar d = false) →
        item ('@' :: (t ++ s)) = mapped entry .entry (t ++ s)) ∧
    (parse ('@' :: (t ++ s)) = .ok [.entry ⟨.ofName t, k, fs⟩] ↔
      ∀ w ∈ keywords, ¬ Outgrows w t) ∧
    (Outgrows "comment" t → ∃ m line rest, IsKeyword "comment".toList m ∧
      t ++ s = m ++ (line ++ rest) ∧ '\n' ∉ line ∧ (∀ d ∈ rest.head?, d = '\n') ∧
      ∀ is, parse ('@' :: (t ++ s)) = .ok is ↔
        ∃ js, parse rest = .ok js ∧ is = .comment (trim line) :: js) ∧
    (Outgrows "string" t ∨ Outgrows "preamble" t →
      parse ('@' :: (t ++ s)) = .error (.malformed ⟨1, 1⟩ t (excerpt 40 ('@' :: (t ++ s))))) := by
  intro s
  have hs : ∀ d ∈ s.head?, isNameChar d = false := by
    intro d hd
    exact Option.some.inj hd ▸ isNameChar_of_isStop ho.isStop_opening
  have hentry := entry_of_fields ht ho hk hf
  have hreads : (∀ w ∈ keywords, ¬ Outgrows w t) →
      ∀ s, (∀ d ∈ s.head?, isNameChar d = false) →
        item ('@' :: (t ++ s)) = mapped entry .entry (t ++ s) :=
    fun hplain _ => item_eq_entry ht fun w hw => ⟨hne w hw, hplain w hw⟩
  have hcomment : Outgrows "comment" t → ∃ m line rest, IsKeyword "comment".toList m ∧
      t ++ s = m ++ (line ++ rest) ∧ '\n' ∉ line ∧ (∀ d ∈ rest.head?, d = '\n') ∧
      ∀ is, parse ('@' :: (t ++ s)) = .ok is ↔
        ∃ js, parse rest = .ok js ∧ is = .comment (trim line) :: js := by
    intro h
    obtain ⟨m, line, rest, hm, hsplit, hline, hrest, hitems⟩ := items_of_outgrows_comment h s
    exact ⟨m, line, rest, hm, hsplit, hline, hrest, parse_eq_ok_of_items hitems⟩
  have hfails : Outgrows "string" t ∨ Outgrows "preamble" t →
      parse ('@' :: (t ++ s)) = .error (.malformed ⟨1, 1⟩ t (excerpt 40 ('@' :: (t ++ s)))) := by
    rintro (h | h)
    · exact parse_of_outgrows (.inl rfl) ht h hs
    · exact parse_of_outgrows (.inr rfl) ht h hs
  refine ⟨hentry, hreads, ⟨fun hparse w hw hout => ?_, fun hplain => ?_⟩, hcomment, hfails⟩
  · have hcases : w = "comment" ∨ w = "string" ∨ w = "preamble" := by simpa [keywords] using hw
    rcases hcases with rfl | rfl | rfl
    · obtain ⟨-, _, _, -, -, -, -, hread⟩ := hcomment hout
      obtain ⟨_, -, his⟩ := (hread _).1 hparse
      cases his
    · rw [hfails (.inl hout)] at hparse
      cases hparse
    · rw [hfails (.inr hout)] at hparse
      cases hparse
  · have hitem := hreads hplain s hs
    rw [mapped, hentry] at hitem
    rw [parse_eq_ok_iff, items_of_item rfl hitem, items_of_nil rfl]
    rfl

/-- An entry with one field, in a type name that starts like a keyword, and in one that outgrows a
keyword. -/
theorem parse_namedEntry_apart :
    let f := "year = 2000".toList
    let fs : List Field := [⟨"year".toList, .number 2000⟩]
    let s := '{' :: (['k'] ++ ',' :: (f ++ ['}']))
    let t := "strings".toList
    let t' := "Comment+x".toList
    (IsName t ∧ IsName t' ∧ ∀ w ∈ keywords, ¬ IsKeyword w.toList t ∧ ¬ IsKeyword w.toList t') ∧
      (IsKey ['k'] ∧ fields '}' (f ++ ['}']) = some (fs, ['}'])) ∧
      (¬ Outgrows "string" t ∧ parse ('@' :: (t ++ s)) = .ok [.entry ⟨.other t, ['k'], fs⟩]) ∧
      Outgrows "comment" t' ∧ parse ('@' :: (t' ++ s)) ≠ .ok [.entry ⟨.other t', ['k'], fs⟩] := by
  intro f fs s t t'
  have hplain : IsTypeName t := by decide
  obtain ⟨ht, hne⟩ := isTypeName_iff.1 hplain
  have hne' : ∀ w ∈ keywords, ¬ IsKeyword w.toList t' := by
    simp only [IsKeyword]
    decide
  have hout : Outgrows "comment" t' := ⟨"Comment".toList, '+', ['x'], rfl, rfl, by decide⟩
  have hk : IsKey ['k'] := by decide
  have hspace : IsSpacing [' '] := by simp [IsSpacing, isSpacing]
  have hwritten : WrittenFields fs ([] ++ (f ++ [])) :=
    .last isSpacing_nil isSpacing_nil (.mk hspace hspace (.one (.number 2000)))
  have hf : fields '}' (f ++ ['}']) = some (fs, ['}']) :=
    hwritten.append (by decide) .braces []
  have hread := parse_namedEntry ht (fun w hw => (hne w hw).1) .braces hk hf
  have hread' := parse_namedEntry (t := t') (by decide) hne' .braces hk hf
  refine ⟨⟨ht, by decide, fun w hw => ⟨(hne w hw).1, hne' w hw⟩⟩, ⟨hk, hf⟩, ⟨?_, ?_⟩, hout, ?_⟩
  · exact (hne _ (by decide)).2
  · exact hread.2.2.1.2 fun w hw => (hne w hw).2
  · exact fun h => hread'.2.2.1.1 h _ (by decide) hout

/-- A name that outgrows a keyword is no keyword, and names no entry. -/
theorem not_parse_namedEntry :
    ¬ ∀ t k f fs, IsName t → (∀ w ∈ keywords, ¬ IsKeyword w.toList t) → IsKey k →
      fields '}' (f ++ ['}']) = some (fs, ['}']) →
      parse ('@' :: (t ++ '{' :: (k ++ ',' :: (f ++ ['}'])))) =
        .ok [.entry ⟨.ofName t, k, fs⟩] := by
  intro h
  have hne : ∀ w ∈ keywords, ¬ IsKeyword w.toList "comment-x".toList := by
    simp only [IsKeyword]
    decide
  have hread := h "comment-x".toList ['k'] [] [] (by decide) hne (by decide)
    (fields_of_close (t := []) rfl)
  have hout : Outgrows "comment" "comment-x".toList :=
    ⟨"comment".toList, '-', ['x'], rfl, rfl, by decide⟩
  obtain ⟨_, _, rest, -, -, -, -, hitems⟩ :=
    items_of_outgrows_comment hout ('{' :: (['k'] ++ ',' :: ([] ++ ['}'])))
  obtain ⟨_, -, his⟩ := (parse_eq_ok_of_items hitems _).1 hread
  cases his

end Citation.Source
