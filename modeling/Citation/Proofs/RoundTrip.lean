import Citation.Proofs.Reading

/-! The round trip: whatever layout a list of items is written in, the same items are read. -/
namespace Citation.Source
open Scanner

theorem delimited_append_close {α : Type} {body : Scanner α} {a : α} {g s : List Char} {o c : Char}
    (hg : IsSpacing g) (ho : IsDelimiters o c) (r : List Char)
    (hbody : body s = some (a, c :: r)) :
    delimited body (g ++ o :: s) = some (a, skipSpacing r) := by
  rw [delimited, skipBlank_append hg, skipBlank_solid (.cons ho.isBlank_opening _),
    opening_of_isDelimiters ho]
  simp only [hbody, padded_close ho, Option.map_some]

theorem commentBody_append_written {b g₁ g₂ g₃ : List Char} (hb : Balanced b)
    (htrim : trim b = b) (hg₁ : IsSpacing g₁) (hg₂ : IsSpacing g₂) (hg₃ : IsSpacing g₃)
    (r : List Char) :
    ∃ b', commentBody (g₁ ++ '{' :: (g₂ ++ (b ++ (g₃ ++ '}' :: r)))) = some (b', r) ∧
      trim b' = b := by
  refine ⟨g₂ ++ (b ++ g₃), ?_, trim_append hg₂ htrim hg₃⟩
  have hbalanced : Balanced (g₂ ++ (b ++ g₃)) := hg₂.balanced.append (hb.append hg₃.balanced)
  have hbraced := hbalanced.braced_append r
  simp only [List.append_assoc] at hbraced
  rw [commentBody, skipBlank_append hg₁, skipBlank_solid (.cons rfl _)]
  simp [hbraced]

/-- Each keyword is told from the others by its first letter. -/
theorem IsKeyword.keyword_eq_none {v w : String} (hv : v ∈ keywords) (hw : w ∈ keywords)
    (hne : v ≠ w) {k : List Char} (hk : IsKeyword w.toList k) (r : List Char) :
    keyword v.toList (k ++ r) = none := by
  have hsame : k.map Char.toLower = w.toList.map Char.toLower := by
    simpa [IsKeyword, sameName] using hk
  have hall : ∀ v ∈ keywords, ∀ w ∈ keywords, v ≠ w → v.toList ≠ [] ∧ w.toList ≠ [] ∧
      v.toList.head?.map Char.toLower ≠ w.toList.head?.map Char.toLower := by decide
  obtain ⟨hv, hw, hhead⟩ := hall v hv w hw hne
  cases hva : v.toList with
  | nil => exact absurd hva hv
  | cons a v =>
    cases hwb : w.toList with
    | nil => exact absurd hwb hw
    | cons b w =>
      rw [hwb] at hsame hhead
      cases k with
      | nil => cases hsame
      | cons c k =>
        have hc : c.toLower = b.toLower := (List.cons.inj hsame).1
        have hac : a.toLower ≠ c.toLower := by simpa [hva, hc] using hhead
        simp [keyword, caseless, hac]

theorem IsKeyword.solid {w : String} (hw : w ∈ keywords) {k : List Char}
    (h : IsKeyword w.toList k) : Solid k := by
  have hsame : k.map Char.toLower = w.toList.map Char.toLower := by
    simpa [IsKeyword, sameName] using h
  have hall : ∀ w ∈ keywords, w.toList ≠ [] ∧
      (w.toList.head?.all fun b => blanks.all fun c => c.toLower != b.toLower) = true := by decide
  obtain ⟨hne, hhead⟩ := hall w hw
  cases hb : w.toList with
  | nil => exact absurd hb hne
  | cons b bs =>
    rw [hb] at hsame hhead
    cases k with
    | nil => cases hsame
    | cons c k =>
      refine .cons ?_ k
      rw [Bool.eq_false_iff]
      intro hc
      have hbc := List.all_eq_true.1 hhead c (mem_blanks hc)
      simp [(List.cons.inj hsame).1] at hbc

theorem WrittenEntry.keyword_eq_none {e : Entry} {s : List Char} (h : WrittenEntry e s)
    {w : String} (hw : w ∈ keywords) (r : List Char) : keyword w.toList (s ++ r) = none := by
  cases h with
  | @mk type g g₁ g₂ s o c ht hg ho hg₁ hg₂ hs =>
    rw [List.append_assoc]
    apply keyword_append_eq_none hw (ht.1.2 w hw)
    rw [List.append_assoc]
    exact .spacing hg (.cons ho.isStop_opening _)

theorem WrittenEntry.solid {e : Entry} {s : List Char} (h : WrittenEntry e s) : Solid s := by
  cases h with
  | mk ht hg ho hg₁ hg₂ hs => exact ht.1.1.solid.append _

theorem block_comment {k s r b : List Char} (hk : IsKeyword "comment".toList k) (hs : Stops s)
    (hbody : commentBody s = some (b, r)) : block (k ++ s) = some (.comment (trim b), r) := by
  simp only [block, hk.append hs, hbody, Option.map_some]

theorem block_definition {k s r n : List Char} {v : Value} (hk : IsKeyword "string".toList k)
    (hs : Stops s) (hbody : delimited assignment s = some ((n, v), r)) :
    block (k ++ s) = some (.definition n v, r) := by
  have hcomment := IsKeyword.keyword_eq_none (v := "comment") (by decide) (by decide) (by decide)
    hk s
  simp only [block, hcomment, hk.append hs, hbody, Option.map_some]

theorem block_preamble {k s r : List Char} {v : Value} (hk : IsKeyword "preamble".toList k)
    (hs : Stops s) (hbody : delimited (padded value) s = some (v, r)) :
    block (k ++ s) = some (.preamble v, r) := by
  have hcomment := IsKeyword.keyword_eq_none (v := "comment") (by decide) (by decide) (by decide)
    hk s
  have hstring := IsKeyword.keyword_eq_none (v := "string") (by decide) (by decide) (by decide)
    hk s
  simp only [block, hcomment, hstring, hk.append hs, hbody, Option.map_some]

theorem block_entry {e : Entry} (he : IsEntry e) {s : List Char} (hs : WrittenEntry e s)
    (r : List Char) : block (s ++ r) = some (.entry e, skipSpacing r) := by
  have hcomment := hs.keyword_eq_none (w := "comment") (by decide) r
  have hstring := hs.keyword_eq_none (w := "string") (by decide) r
  have hpreamble := hs.keyword_eq_none (w := "preamble") (by decide) r
  simp only [block, hcomment, hstring, hpreamble, entry_append he hs r, Option.map_some]

theorem item_of_block {g s : List Char} (hg : IsSpacing g) (hs : Solid s) :
    item ('@' :: (g ++ s)) = block s := by
  rw [item, if_pos rfl, skipSpacing_append hg hs]

/-- An item is read whatever stands behind it, and no more than spacing is taken with it. -/
theorem item_append {i : Item} (hi : IsItem i) {s : List Char} (hs : WrittenItem i s)
    (r : List Char) : ∃ r', item (s ++ r) = some (i, r') ∧ skipBlank r' = skipBlank r := by
  cases hs with
  | @entry e g s hg hs =>
    refine ⟨skipSpacing r, ?_, skipBlank_skipSpacing r⟩
    rw [List.cons_append, List.append_assoc, item_of_block hg (hs.solid.append r)]
    exact block_entry hi hs r
  | @definition n k g g₁ g₂ g₃ s v o c hg hk hg₁ ho hg₂ hs hg₃ =>
    refine ⟨skipSpacing r, ?_, skipBlank_skipSpacing r⟩
    simp only [List.cons_append, List.append_assoc, List.nil_append]
    rw [item_of_block hg ((IsKeyword.solid (by decide) hk).append _)]
    apply block_definition hk (.spacing hg₁ (.cons ho.isStop_opening _))
    apply delimited_append_close hg₁ ho r
    exact assignment_append hi.1 hi.2 hg₂ hs hg₃ ho.isEnd r
  | @preamble k g g₁ g₂ g₃ s v o c hg hk hg₁ ho hg₂ hs hg₃ =>
    refine ⟨skipSpacing r, ?_, skipBlank_skipSpacing r⟩
    simp only [List.cons_append, List.append_assoc, List.nil_append]
    rw [item_of_block hg ((IsKeyword.solid (by decide) hk).append _)]
    apply block_preamble hk (.spacing hg₁ (.cons ho.isStop_opening _))
    apply delimited_append_close hg₁ ho r
    exact padded_value_append hi hg₂ hs hg₃ ho.isEnd r
  | @comment b k g g₁ g₂ g₃ hg hk hg₁ hg₂ hg₃ =>
    refine ⟨r, ?_, rfl⟩
    obtain ⟨b', hbody, htrim⟩ := commentBody_append_written hi.1 hi.2 hg₁ hg₂ hg₃ r
    simp only [List.cons_append, List.append_assoc, List.nil_append]
    rw [item_of_block hg ((IsKeyword.solid (by decide) hk).append _)]
    rw [block_comment hk (.spacing hg₁ (.cons rfl _)) hbody, htrim]

/-! Bibliographies. -/

theorem items_of_nil {s : List Char} (hs : skipBlank s = []) : items s = .ok [] := by
  rw [items]
  split
  · rfl
  · next c t hc =>
    rw [hs] at hc
    cases hc

theorem items_of_item {s t r : List Char} {i : Item} (hs : skipBlank s = '@' :: t)
    (hi : item ('@' :: t) = some (i, r)) : items s = (items r).map (i :: ·) := by
  rw [items]
  split
  · next hnil =>
    rw [hs] at hnil
    cases hnil
  · next c t' hc =>
    rw [hs] at hc
    obtain ⟨rfl, rfl⟩ := List.cons.inj hc
    simp only [dite_true]
    split
    · next hnone =>
      rw [hi] at hnone
      cases hnone
    · next i' r' hsome =>
      rw [hi] at hsome
      obtain ⟨rfl, rfl⟩ := by simpa using hsome
      rfl

theorem WrittenItem.eq_cons {i : Item} {s : List Char} (h : WrittenItem i s) :
    ∃ t, s = '@' :: t := by
  cases h <;> exact ⟨_, rfl⟩

/-- Items are read one after the other. What is blank in front of them is of no account, so that
it does not matter how much of it the item before has taken. -/
theorem items_of_written {is : List Item} {s : List Char} (h : Written is s)
    (his : ∀ i ∈ is, IsItem i) : ∀ s', skipBlank s' = skipBlank s → items s' = .ok is := by
  induction h with
  | @nil g hg =>
    intro s' hs'
    have hnil : skipBlank (g ++ []) = [] := skipBlank_append hg []
    rw [List.append_nil] at hnil
    exact items_of_nil (hs'.trans hnil)
  | @cons i is g s t hg hs ht ih =>
    intro s' hs'
    obtain ⟨hi, his⟩ := List.forall_mem_cons.1 his
    obtain ⟨u, rfl⟩ := hs.eq_cons
    obtain ⟨r, hitem, hr⟩ := item_append hi hs t
    have hskip : skipBlank s' = '@' :: (u ++ t) := by
      rw [hs', skipBlank_append hg, List.cons_append, skipBlank_solid (.cons rfl _)]
    rw [items_of_item hskip hitem, ih his r hr]
    rfl

/-! Whatever is well formed can be written. -/

theorem exists_writtenChain {vs : List Value} (h : vs ≠ []) : ∃ s, WrittenChain vs s := by
  induction vs with
  | nil => exact absurd rfl h
  | cons v vs ih =>
    cases vs with
    | nil => exact ⟨_, .one v⟩
    | cons w vs =>
      obtain ⟨s, hs⟩ := ih (by simp)
      exact ⟨_, .more isSpacing_nil isSpacing_nil hs⟩

theorem exists_writtenValue {v : Value} (h : IsValue v) : ∃ s, WrittenChain (chainOf v) s := by
  apply exists_writtenChain
  cases v with
  | concat vs =>
    rintro rfl
    simp [IsValue] at h
  | _ => simp [chainOf]

theorem exists_writtenAssignment (n : List Char) {v : Value} (h : IsValue v) :
    ∃ s, WrittenAssignment n v s := by
  obtain ⟨s, hs⟩ := exists_writtenValue h
  exact ⟨_, .mk isSpacing_nil isSpacing_nil hs⟩

theorem exists_writtenFields {fs : List Field} (h : ∀ f ∈ fs, IsField f) :
    ∃ s, WrittenFields fs s := by
  induction fs with
  | nil => exact ⟨[], .none isSpacing_nil⟩
  | cons f fs ih =>
    obtain ⟨hf, hfs⟩ := List.forall_mem_cons.1 h
    obtain ⟨s, hs⟩ := exists_writtenAssignment f.name hf.2
    obtain ⟨t, ht⟩ := ih hfs
    exact ⟨_, .more isSpacing_nil isSpacing_nil hs ht⟩

theorem exists_writtenItem {i : Item} (h : IsItem i) : ∃ s, WrittenItem i s := by
  have hself : ∀ w, IsKeyword w w := fun w => by simp [IsKeyword, sameName]
  cases i with
  | entry e =>
    obtain ⟨htype, hkey, hfields⟩ := h
    obtain ⟨s, hs⟩ := exists_writtenFields hfields
    exact ⟨_, .entry isSpacing_nil
      (.mk htype isSpacing_nil .braces isSpacing_nil isSpacing_nil (.fields hs))⟩
  | definition n v =>
    obtain ⟨s, hs⟩ := exists_writtenAssignment n h.2
    exact ⟨_, .definition isSpacing_nil (hself _) isSpacing_nil .braces isSpacing_nil hs
      isSpacing_nil⟩
  | preamble v =>
    obtain ⟨s, hs⟩ := exists_writtenValue h
    exact ⟨_, .preamble isSpacing_nil (hself _) isSpacing_nil .braces isSpacing_nil hs
      isSpacing_nil⟩
  | comment b =>
    exact ⟨_, .comment isSpacing_nil (hself _) isSpacing_nil isSpacing_nil isSpacing_nil⟩

theorem exists_written {is : List Item} (h : ∀ i ∈ is, IsItem i) : ∃ s, Written is s := by
  induction is with
  | nil => exact ⟨[], .nil isSpacing_nil⟩
  | cons i is ih =>
    obtain ⟨hi, his⟩ := List.forall_mem_cons.1 h
    obtain ⟨s, hs⟩ := exists_writtenItem hi
    obtain ⟨t, ht⟩ := ih his
    exact ⟨_, .cons isSpacing_nil hs ht⟩

/-- Well-formed items can be written, and every text that writes them reads as these items. -/
theorem parse_written {is : List Item} (h : ∀ i ∈ is, IsItem i) :
    (∃ s, Written is s) ∧ ∀ s, Written is s → parse s = .ok is := by
  refine ⟨exists_written h, ?_⟩
  intro s hs
  rw [parse, items_of_written hs h s rfl]

/-- An item of each kind. -/
def eachKind : List Item :=
  [.definition "m".toList (.literal "x".toList),
    .preamble (.concat [.literal "{a}".toList, .reference "m".toList]),
    .comment "c".toList,
    .entry ⟨.misc, "k".toList, [⟨"year".toList, .number 2000⟩]⟩]

theorem parse_written_eachKind : (∀ i ∈ eachKind, IsItem i) ∧ (∃ s, Written eachKind s) ∧
    ∀ s, Written eachKind s → parse s = .ok eachKind := by
  have hitems : ∀ i ∈ eachKind, IsItem i := by decide
  exact ⟨hitems, parse_written hitems⟩

end Citation.Source
