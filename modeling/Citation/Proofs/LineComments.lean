import Citation.Proofs.Appending

/-! Comments that fill a line: a comment block without delimiters, and a line that starts with `%`.
Such a comment ends with its line, but a block with nothing on its line takes the next one, and
behind free text a `%` line is text like any other. -/
namespace Citation.Source
open Unicode Scanner

/-- A line feed ends a run that has none. -/
theorem span_line {line rest : List Char} (hline : '\n' ∉ line)
    (hrest : ∀ c ∈ rest.head?, c = '\n') :
    (line ++ rest).takeWhile (· != '\n') = line ∧ (line ++ rest).dropWhile (· != '\n') = rest := by
  apply span_append
  · intro c hc
    rw [bne_iff_ne]
    rintro rfl
    exact hline hc
  · intro c hc
    rw [hrest c hc]
    rfl

theorem exists_line (s : List Char) : ∃ line rest, s = line ++ rest ∧ '\n' ∉ line ∧
    ∀ c ∈ rest.head?, c = '\n' := by
  refine ⟨s.takeWhile (· != '\n'), s.dropWhile (· != '\n'),
    List.takeWhile_append_dropWhile.symm, ?_, ?_⟩
  · intro hc
    simpa using List.mem_takeWhile_imp hc
  · intro c hc
    simpa using head_dropWhile _ s c hc

theorem trim_skipBlank (s : List Char) : trim (skipBlank s) = trim s := by
  have hs : s = s.takeWhile isBlank ++ skipBlank s := List.takeWhile_append_dropWhile.symm
  have hblank : ∀ c ∈ s.takeWhile isBlank, isWhitespace c = true := fun c hc =>
    isWhitespace_of_isBlank (List.mem_takeWhile_imp hc)
  have hstart : trimStart (skipBlank s) = trimStart s := by
    conv_rhs => rw [hs]
    rw [trimStart, trimStart, List.dropWhile_append_of_pos hblank]
  rw [trim, hstart, trim]

/-- What starts with a solid character is not trimmed away. -/
theorem trim_ne_nil {c : Char} (hc : isWhitespace c = false) (s : List Char) :
    trim (c :: s) ≠ [] := by
  have hstart : trimStart (c :: s) = c :: s := List.dropWhile_cons_of_neg (by simp [hc])
  rw [trim, hstart, trimEnd, Ne, List.reverse_eq_nil_iff, List.dropWhile_eq_nil_iff]
  intro hall
  have hblank := hall c (by simp)
  rw [hc] at hblank
  cases hblank

/-! Comment blocks without delimiters. -/

/-- Without a delimiter, the body of a comment is the rest of the line. -/
theorem commentBody_of_line {s line rest : List Char} {c : Char}
    (hs : skipBlank s = c :: line ++ rest) (hc : c ≠ '{' ∧ c ≠ '(') (hline : '\n' ∉ c :: line)
    (hrest : ∀ d ∈ rest.head?, d = '\n') : commentBody s = some (c :: line, rest) := by
  obtain ⟨htake, hdrop⟩ := span_line hline hrest
  rw [List.cons_append] at hs htake hdrop
  rw [commentBody_of_skip hs, if_neg hc.1, if_neg hc.2, htake, hdrop]

/-- With `c` behind it, a text starts with its own first character, or with `c`. -/
theorem head_append_cons {p : Char → Prop} {v : List Char} {c : Char}
    (hv : ∀ d ∈ v.head?, p d) (hc : p c) (s : List Char) : ∀ d ∈ (v ++ c :: s).head?, p d := by
  cases v with
  | nil =>
    rintro _ ⟨⟩
    exact hc
  | cons d v => exact hv

theorem item_comment {g k s b r : List Char} (hg : IsSpacing g)
    (hk : IsKeyword "comment".toList k)
    (hs : ∀ c ∈ s.head?, (isAlphanumeric c || c == '_') = false)
    (hb : commentBody s = some (b, r)) :
    item ('@' :: (g ++ (k ++ s))) = some (.comment (trim b), r) := by
  have hkeyword : keyword "comment".toList (k ++ s) = some (k, s) :=
    keyword_eq_some_iff.2 ⟨rfl, hk, hs⟩
  rw [item_of_block hg ((IsKeyword.solid (w := "comment") (by decide) hk).append s)]
  simp only [block, hkeyword, hb, Option.map_some]

section
variable {k w b : List Char} (hk : IsKeyword "comment".toList k)
  (hstart : ∀ c ∈ w.head?, c = ' ' ∨ c = '\t')
include hk hstart

/-- A comment block in front of the end of its line. -/
theorem items_of_commentLine {body r : List Char}
    (hb : commentBody (w ++ '\n' :: b) = some (body, r)) :
    items ('@' :: (k ++ (w ++ '\n' :: b))) = (items r).map (.comment (trim body) :: ·) := by
  have hhead : ∀ c ∈ (w ++ '\n' :: b).head?, (isAlphanumeric c || c == '_') = false := by
    refine head_append_cons (fun c hc => ?_) (by decide) b
    rcases hstart c hc with rfl | rfl <;> decide
  exact items_of_item rfl (item_comment (g := []) isSpacing_nil hk hhead hb)

/-- What is written behind the keyword is a comment, and the next line is read for itself. -/
theorem items_commentLine (hline : '\n' ∉ w)
    (hopen : ∀ c ∈ (skipBlank w).head?, c ≠ '{' ∧ c ≠ '(') (hw : skipBlank w ≠ []) :
    items ('@' :: (k ++ (w ++ '\n' :: b))) = (items b).map (.comment (trim w) :: ·) := by
  have hskip : skipBlank w = skipBlank w ++ [] := (List.append_nil _).symm
  obtain ⟨u, hsplit, hu⟩ := skip_front hskip hw
  rw [List.append_nil] at hsplit
  have hfront : skipBlank (w ++ '\n' :: b) = skipBlank w ++ '\n' :: b := by
    conv_lhs => rw [hsplit, List.append_assoc]
    exact hu ('\n' :: b)
  have hfeed : '\n' ∉ skipBlank w := fun hmem => hline (List.dropWhile_sublist _ |>.subset hmem)
  rw [← trim_skipBlank w]
  cases hbody : skipBlank w with
  | nil => exact absurd hbody hw
  | cons c body =>
    rw [hbody] at hfront hopen hfeed
    have hnext : items ('\n' :: b) = items b := items_congr rfl
    rw [items_of_commentLine hk hstart
      (commentBody_of_line hfront (hopen c rfl) hfeed (by simp)), hnext]

/-- With nothing but blanks behind the keyword, the comment is the next line that has more. -/
theorem items_commentLine_of_blank {c : Char} {line rest : List Char}
    (hw : ∀ c ∈ w, isBlank c = true) (hb : skipBlank b = c :: line ++ rest)
    (hc : c ≠ '{' ∧ c ≠ '(') (hline : '\n' ∉ c :: line) (hrest : ∀ d ∈ rest.head?, d = '\n') :
    items ('@' :: (k ++ (w ++ '\n' :: b))) =
      (items rest).map (.comment (trim (c :: line)) :: ·) := by
  have hfront : skipBlank (w ++ '\n' :: b) = c :: line ++ rest := by
    rw [skipBlank_append_of_blank hw]
    exact hb
  exact items_of_commentLine hk hstart (commentBody_of_line hfront hc hline hrest)

end

/-- A comment block stays on its line if there is anything in it. If not, it holds the next line
that is not blank, and what starts there is lost. -/
theorem parse_commentLine {k w b r : List Char} {bs : List Item}
    (hk : IsKeyword "comment".toList k) (hline : '\n' ∉ w)
    (hstart : ∀ c ∈ w.head?, c = ' ' ∨ c = '\t')
    (hopen : ∀ c ∈ (skipBlank w).head?, c ≠ '{' ∧ c ≠ '(') (hb : skipBlank b = '@' :: r)
    (hbs : parse b = .ok bs) :
    (parse ('@' :: (k ++ (w ++ '\n' :: b))) = .ok (.comment (trim w) :: bs) ↔
      ∃ c ∈ w, isBlank c = false) ∧
    ((∀ c ∈ w, isBlank c = true) → ∃ line rest, '@' :: r = line ++ rest ∧ '\n' ∉ line ∧
      (∀ c ∈ rest.head?, c = '\n') ∧
      ∀ is, parse ('@' :: (k ++ (w ++ '\n' :: b))) = .ok is ↔
        ∃ js, parse rest = .ok js ∧ is = .comment (trim line) :: js) := by
  obtain ⟨line, rest, rfl, hfeed, hrest⟩ := exists_line r
  have hfeed' : '\n' ∉ '@' :: line := by simpa using hfeed
  have hswallow : (∀ c ∈ w, isBlank c = true) →
      ∀ is, parse ('@' :: (k ++ (w ++ '\n' :: b))) = .ok is ↔
        ∃ js, parse rest = .ok js ∧ is = .comment (trim ('@' :: line)) :: js := by
    intro hblank
    exact parse_eq_ok_of_items
      (items_commentLine_of_blank hk hstart hblank hb (by decide) hfeed' hrest)
  refine ⟨⟨fun hparse => ?_, fun hsolid => ?_⟩,
    fun hblank => ⟨'@' :: line, rest, rfl, hfeed', hrest, hswallow hblank⟩⟩
  · by_contra hnone
    have hblank : ∀ c ∈ w, isBlank c = true := by simpa using hnone
    have hnil : skipBlank w = [] := List.dropWhile_eq_nil_iff.2 hblank
    obtain ⟨js, -, hcons⟩ := (hswallow hblank _).1 hparse
    have htrim : trim w = trim ('@' :: line) := Item.comment.inj (List.cons.inj hcons).1
    rw [← trim_skipBlank w, hnil] at htrim
    exact trim_ne_nil (by decide) line htrim.symm
  · obtain ⟨c, hc, hsolid⟩ := hsolid
    have hw : skipBlank w ≠ [] := by
      intro hnil
      have hblank := List.dropWhile_eq_nil_iff.1 hnil c hc
      rw [hsolid] at hblank
      cases hblank
    exact (parse_eq_ok_of_items (items_commentLine hk hstart hline hopen hw) _).2 ⟨bs, hbs, rfl⟩

/-- An entry without fields, and its text. -/
def lone : Item := .entry ⟨.misc, ['k'], []⟩

def loneText : List Char := "@misc\x7bk\x7d".toList

theorem items_of_loneText {s : List Char} (hs : skipBlank s = loneText) : items s = .ok [lone] := by
  have hitem : item loneText = some (lone, []) := rfl
  rw [items_of_item hs hitem, items_of_nil rfl]
  rfl

/-- A comment with blanks around it, in front of an entry. -/
theorem parse_commentLine_spaced :
    let w := " é@x\t".toList
    let b := ' ' :: loneText
    (IsKeyword "comment".toList "Comment".toList ∧ '\n' ∉ w ∧
      (∀ c ∈ w.head?, c = ' ' ∨ c = '\t') ∧ ∀ c ∈ (skipBlank w).head?, c ≠ '{' ∧ c ≠ '(') ∧
    (skipBlank b = loneText ∧ parse b = .ok [lone]) ∧
    parse ('@' :: ("Comment".toList ++ (w ++ '\n' :: b))) = .ok [.comment "é@x".toList, lone] := by
  intro w b
  have hk : IsKeyword "comment".toList "Comment".toList := rfl
  have hstart : ∀ c ∈ w.head?, c = ' ' ∨ c = '\t' := by
    rintro _ ⟨⟩
    decide
  have hopen : ∀ c ∈ (skipBlank w).head?, c ≠ '{' ∧ c ≠ '(' := by
    rintro _ ⟨⟩
    decide
  have hb : parse b = .ok [lone] := parse_eq_ok_iff.2 (items_of_loneText rfl)
  refine ⟨⟨hk, by decide, hstart, hopen⟩, ⟨rfl, hb⟩, ?_⟩
  exact (parse_commentLine hk (by decide) hstart hopen rfl hb).1.2 ⟨'@', by decide, rfl⟩

/-- A comment block with nothing on its line does not leave the next line alone. -/
theorem parse_commentLine_ne :
    ¬ ∀ w b bs, '\n' ∉ w → (∀ c ∈ w.head?, c = ' ' ∨ c = '\t') →
      (∀ c ∈ (skipBlank w).head?, c ≠ '{' ∧ c ≠ '(') → (skipBlank b).head? = some '@' →
      parse b = .ok bs →
      parse ('@' :: ("comment".toList ++ (w ++ '\n' :: b))) = .ok (.comment (trim w) :: bs) := by
  intro h
  have hb : parse loneText = .ok [lone] := parse_eq_ok_iff.2 (items_of_loneText rfl)
  have hkept := h [] loneText [lone] (by simp) (by simp) (by simp [skipBlank]) rfl hb
  have hlost : items ('@' :: ("comment".toList ++ ([] ++ '\n' :: loneText))) =
      .ok [.comment loneText] := by
    have hk : IsKeyword "comment".toList "comment".toList := rfl
    have hnext : skipBlank loneText = '@' :: "misc\x7bk\x7d".toList ++ [] := rfl
    rw [items_commentLine_of_blank hk (w := []) (by simp) (by simp) hnext (by decide) (by decide)
      (by simp), items_of_nil rfl]
    rfl
  rw [parse_eq_ok_iff, hlost] at hkept
  cases hkept

/-! Lines that start with `%`. -/

/-- The items but for the comments. -/
def uncommented (is : List Item) : List Item := is.filter (!·.isComment)

theorem uncommented_cons (i : Item) (is : List Item) :
    uncommented (i :: is) = if i.isComment then uncommented is else i :: uncommented is := by
  cases hi : i.isComment <;> simp [uncommented, hi]

theorem uncommented_append (is js : List Item) :
    uncommented (is ++ js) = uncommented is ++ uncommented js := List.filter_append _ _

/-- A text ends in free text if the last thing to be read in it is no item and no `%` line. -/
inductive EndsInText : List Char → Prop
  | text {s t : List Char} {c : Char} (hs : skipBlank s = c :: t) (hc : c ≠ '@' ∧ c ≠ '%')
      (ht : '@' ∉ t) : EndsInText s
  | behind {s r : List Char} {i : Item} (h : leading (skipBlank s) = some (i, r))
      (hr : EndsInText r) : EndsInText s

theorem EndsInText.ne_nil {s : List Char} (h : EndsInText s) : s ≠ [] := by
  rintro rfl
  cases h with
  | text hs => cases hs
  | behind h => cases h

/-- Free text goes on up to the next `@`. -/
theorem leading_text {c : Char} {t : List Char} (hc : c ≠ '@' ∧ c ≠ '%') (ht : '@' ∉ t)
    {r : List Char} (hr : ∀ d ∈ r.head?, d = '@') :
    leading (c :: (t ++ r)) = some (.comment (trimEnd (c :: t)), r) := by
  have hstop : textStop (c :: (t ++ r)) = '@' := by simp [textStop, hc.2]
  have hall : ∀ d ∈ c :: t, (d != '@') = true := by
    refine List.forall_mem_cons.2 ⟨by simpa using hc.1, fun d hd => ?_⟩
    rw [bne_iff_ne]
    rintro rfl
    exact ht hd
  obtain ⟨htake, hdrop⟩ := span_append (r := r) hall fun d hd => by simp [hr d hd]
  rw [List.cons_append] at htake hdrop
  rw [leading, if_neg hc.1, freeText, behindFreeText, hstop, htake, hdrop]

/-- A `%` line goes on up to its end. -/
theorem leading_percent {c : List Char} (hc : '\n' ∉ c) {r : List Char}
    (hr : ∀ d ∈ r.head?, d = '\n') :
    leading ('%' :: (c ++ r)) = some (.comment (trimEnd ('%' :: c)), r) := by
  have hline : '\n' ∉ '%' :: c := by simpa using hc
  obtain ⟨htake, hdrop⟩ := span_line hline hr
  rw [List.cons_append] at htake hdrop
  rw [leading, if_neg (by decide), freeText, behindFreeText]
  simp only [textStop, List.head?_cons, if_true, htake, hdrop]

/-- Behind free text, all text is free up to the next `@`, and from there on items are read. -/
theorem EndsInText.items_append {a : List Char} (h : EndsInText a) :
    ∀ as, items a = .ok as → ∀ y z, '@' ∉ y → ∃ cs, uncommented cs = uncommented as ∧
      items (a ++ (y ++ '@' :: z)) = (items ('@' :: z)).map (cs ++ ·) := by
  induction h with
  | @text s t c hs hc ht =>
    intro as has y z hy
    obtain ⟨u, hsplit, hu⟩ := skip_front (w := [c]) hs (by simp)
    have halone : leading (skipBlank s) = some (.comment (trimEnd (c :: t)), []) := by
      simpa [hs] using leading_text hc ht (r := []) (by simp)
    rw [items_of_leading halone, items_of_nil rfl] at has
    obtain rfl : [.comment (trimEnd (c :: t))] = as := Except.ok.inj has
    have hty : '@' ∉ t ++ y := by simp [ht, hy]
    have hfront : skipBlank (s ++ (y ++ '@' :: z)) = c :: (t ++ y ++ '@' :: z) := by
      rw [hsplit]
      simpa [skipBlank] using hu (t ++ (y ++ '@' :: z))
    have hread := leading_text hc hty (r := '@' :: z) (by simp)
    rw [← hfront] at hread
    exact ⟨[.comment (trimEnd (c :: (t ++ y)))], rfl, items_of_leading hread⟩
  | @behind s r i hl hr ih =>
    intro as has y z hy
    rw [items_of_leading hl, map_eq_ok_iff] at has
    obtain ⟨rs, hrs, rfl⟩ := has
    obtain ⟨cs, hcs, hread⟩ := ih rs hrs y z hy
    refine ⟨i :: cs, ?_, ?_⟩
    · rw [uncommented_cons, uncommented_cons, hcs]
    · rw [items_append_of_leading hl fun _ => hr.ne_nil, hread]
      cases items ('@' :: z) <;> rfl

/-- What a text ends with ends every rest of it. -/
theorem getLast?_of_append {w r : List Char} {d : Char} (h : ∀ c ∈ (w ++ r).getLast?, c = d) :
    ∀ c ∈ r.getLast?, c = d := by
  intro c hc
  apply h c
  rw [List.getLast?_append, Option.mem_def.1 hc]
  rfl

theorem mem_of_last {s : List Char} {d : Char} (hs : s ≠ []) (h : ∀ c ∈ s.getLast?, c = d) :
    d ∈ s := by
  rw [← h _ (List.getLast?_eq_some_getLast hs)]
  exact List.getLast_mem hs

theorem notMem_of_dropWhile {s : List Char} {d : Char} (h : s.dropWhile (· != d) = []) : d ∉ s := by
  intro hd
  simpa using List.dropWhile_eq_nil_iff.1 h d hd

/-- A closing delimiter ends the body of a comment, and so does a line feed, which it leaves. -/
theorem commentBody_to_end {v b : List Char} (h : commentBody v = some (b, []))
    (hend : ∀ d ∈ v.getLast?, d = '\n') : skipBlank v = [] ∧ b = [] := by
  cases hskip : skipBlank v with
  | nil => exact ⟨rfl, by simpa [commentBody, hskip] using h.symm⟩
  | cons c t =>
    exfalso
    have hv : v = v.takeWhile isBlank ++ c :: t := by
      rw [← hskip, skipBlank, List.takeWhile_append_dropWhile]
    have hlast : ∀ d ∈ (c :: t).getLast?, d = '\n' := getLast?_of_append (hv ▸ hend)
    rw [commentBody_of_skip hskip] at h
    split at h
    · obtain ⟨-, ht⟩ := braced_eq_some_iff.1 h
      rw [ht, ← List.cons_append] at hlast
      exact absurd (hlast '}' (by rw [List.getLast?_concat]; rfl)) (by decide)
    · split at h
      · obtain ⟨rfl, -⟩ := upTo_eq_some_iff.1 h
        rw [← List.cons_append] at hlast
        exact absurd (hlast ')' (by rw [List.getLast?_concat]; rfl)) (by decide)
      · obtain ⟨-, hdrop⟩ := Prod.mk.inj (Option.some.inj h)
        exact notMem_of_dropWhile hdrop (mem_of_last (by simp) hlast)

/-- Of the blocks, only those with the keyword `comment` are comments. -/
theorem block_eq_comment {s r : List Char} {i : Item} (hi : i.isComment = true)
    (h : block s = some (i, r)) : ∃ k v b, keyword "comment".toList s = some (k, v) ∧
      commentBody v = some (b, r) ∧ i = .comment (trim b) := by
  unfold block at h
  split at h
  · next k v hk =>
    obtain ⟨⟨b, _⟩, hb, ⟨⟩⟩ := Option.map_eq_some_iff.1 h
    exact ⟨k, v, b, hk, hb, rfl⟩
  · split at h
    · obtain ⟨⟨⟨n, v⟩, _⟩, -, ⟨⟩⟩ := Option.map_eq_some_iff.1 h
      cases hi
    · split at h
      · obtain ⟨⟨v, _⟩, -, ⟨⟩⟩ := Option.map_eq_some_iff.1 h
        cases hi
      · obtain ⟨⟨e, _⟩, -, ⟨⟩⟩ := Option.map_eq_some_iff.1 h
        cases hi

/-- A comment that holds the line feed at the end of a text is free text, or a comment block that
has nothing more in it. -/
theorem leading_comment_to_end {s : List Char} {i : Item} (hi : i.isComment = true)
    (h : leading s = some (i, [])) (hend : ∀ d ∈ s.getLast?, d = '\n') :
    (∃ c t, s = c :: t ∧ (c ≠ '@' ∧ c ≠ '%') ∧ '@' ∉ t) ∨
      ∃ g k v, s = '@' :: (g ++ (k ++ v)) ∧ IsSpacing g ∧ IsKeyword "comment".toList k ∧
        (∀ c ∈ v, isBlank c = true) ∧ i = .comment [] := by
  cases s with
  | nil => cases h
  | cons c t =>
    by_cases hc : c = '@'
    · subst hc
      have hblock : block (skipSpacing t) = some (i, []) := by simpa [leading, item] using h
      obtain ⟨k, v, b, hkeyword, hb, rfl⟩ := block_eq_comment hi hblock
      obtain ⟨ht, hk, -⟩ := keyword_eq_some_iff.1 hkeyword
      have hsplit : '@' :: t = '@' :: (t.takeWhile isSpacing ++ (k ++ v)) := by
        rw [← ht, skipSpacing, List.takeWhile_append_dropWhile]
      have hlast : ∀ d ∈ v.getLast?, d = '\n' := by
        apply getLast?_of_append (w := '@' :: (t.takeWhile isSpacing ++ k))
        simpa [hsplit] using hend
      obtain ⟨hv, rfl⟩ := commentBody_to_end hb hlast
      exact .inr ⟨_, k, v, hsplit, fun d => List.mem_takeWhile_imp, hk,
        List.dropWhile_eq_nil_iff.1 hv, rfl⟩
    · left
      rw [leading, if_neg hc] at h
      have hrest : behindFreeText (c :: t) = [] := (Prod.mk.inj (Option.some.inj h)).2
      have hstop : textStop (c :: t) ∉ c :: t := notMem_of_dropWhile hrest
      have hpercent : c ≠ '%' := by
        rintro rfl
        exact hstop (mem_of_last (by simp) hend)
      have htext : textStop (c :: t) = '@' := by simp [textStop, hpercent]
      rw [htext] at hstop
      exact ⟨c, t, rfl, ⟨hc, hpercent⟩, fun ht => hstop (.tail c ht)⟩

theorem exists_append_of_leading {a r : List Char} {i : Item}
    (h : leading (skipBlank a) = some (i, r)) : ∃ w, a = w ++ r := by
  obtain ⟨w, g, hne, hskip, -, -⟩ := settled_leading _ _ _ h
  obtain ⟨u, rfl, -⟩ := skip_front hskip hne
  exact ⟨u ++ (w ++ g), by simp⟩

/-- A comment block that has nothing more in it holds the `%` line behind it. -/
theorem items_append_of_openComment {a g k v c b : List Char}
    (ha : skipBlank a = '@' :: (g ++ (k ++ v))) (hg : IsSpacing g)
    (hk : IsKeyword "comment".toList k) (hv : ∀ d ∈ v, isBlank d = true) (hc : '\n' ∉ c) :
    items (a ++ '%' :: (c ++ '\n' :: b)) = (items b).map (.comment (trim ('%' :: c)) :: ·) := by
  obtain ⟨u, hsplit, hu⟩ := skip_front (w := ['@']) ha (by simp)
  have hfront : skipBlank (a ++ '%' :: (c ++ '\n' :: b)) =
      '@' :: (g ++ (k ++ (v ++ '%' :: (c ++ '\n' :: b)))) := by
    rw [hsplit]
    simpa [skipBlank] using hu (g ++ (k ++ (v ++ '%' :: (c ++ '\n' :: b))))
  have hhead : ∀ d ∈ (v ++ '%' :: (c ++ '\n' :: b)).head?,
      (isAlphanumeric d || d == '_') = false :=
    head_append_cons (fun d hd => eq_false_of_isBlank
      (p := fun d => isAlphanumeric d || d == '_') (by decide) (hv d (List.mem_of_mem_head? hd)))
      (by decide) _
  have hline : skipBlank (v ++ '%' :: (c ++ '\n' :: b)) = '%' :: c ++ '\n' :: b :=
    skipBlank_append_of_blank hv _
  have hbody := commentBody_of_line hline (by decide) (by simpa using hc) (by simp)
  have hnext : items ('\n' :: b) = items b := items_congr rfl
  rw [items_of_item hfront (item_comment hg hk hhead hbody), hnext]

/-- Behind a text that does not end in free text, a `%` line is a comment, or what a comment block
with nothing more in it holds. -/
theorem items_append_percent {c b : List Char} (hc : '\n' ∉ c) (a : List Char) :
    ∀ as, items a = .ok as → (∀ d ∈ a.getLast?, d = '\n') → ¬ EndsInText a →
      ∃ cs, uncommented cs = uncommented as ∧
        items (a ++ '%' :: (c ++ '\n' :: b)) = (items b).map (cs ++ ·) := by
  have hnext : items ('\n' :: b) = items b := items_congr rfl
  induction a using items_induction with
  | blank a ha =>
    intro as has _ _
    rw [items_of_nil ha] at has
    obtain rfl : [] = as := Except.ok.inj has
    have hblank : ∀ c ∈ a, isBlank c = true := fun c => List.dropWhile_eq_nil_iff.1 ha c
    have hread : leading (skipBlank ('%' :: (c ++ '\n' :: b))) =
        some (.comment (trimEnd ('%' :: c)), '\n' :: b) := leading_percent hc (by simp)
    refine ⟨[.comment (trimEnd ('%' :: c))], rfl, ?_⟩
    rw [items_congr (skipBlank_append_of_blank hblank _), items_of_leading hread, hnext]
    rfl
  | stuck a t ha hi =>
    intro as has _ _
    rw [items_of_stuck ha hi] at has
    cases has
  | more a i r hl ih =>
    intro as has hend htext
    rw [items_of_leading hl, map_eq_ok_iff] at has
    obtain ⟨rs, hrs, rfl⟩ := has
    have hsplit : a = a.takeWhile isBlank ++ skipBlank a := List.takeWhile_append_dropWhile.symm
    have hlast : ∀ d ∈ (skipBlank a).getLast?, d = '\n' := getLast?_of_append (hsplit ▸ hend)
    by_cases hopen : i.isComment = true ∧ r = []
    · obtain ⟨hi, rfl⟩ := hopen
      rw [items_of_nil rfl] at hrs
      obtain rfl : [] = rs := Except.ok.inj hrs
      rcases leading_comment_to_end hi hl hlast with
        ⟨d, t, hs, hd, ht⟩ | ⟨g, k, v, hs, hg, hk, hv, rfl⟩
      · exact absurd (.text hs hd ht) htext
      · exact ⟨[.comment (trim ('%' :: c))], rfl, items_append_of_openComment hs hg hk hv hc⟩
    · obtain ⟨w, hw⟩ := exists_append_of_leading hl
      obtain ⟨cs, hcs, hread⟩ := ih rs hrs (getLast?_of_append (hw ▸ hend))
        fun hr => htext (.behind hl hr)
      refine ⟨i :: cs, by rw [uncommented_cons, uncommented_cons, hcs], ?_⟩
      rw [items_append_of_leading hl fun hi hr => hopen ⟨hi, hr⟩, hread]
      cases items b <;> rfl

/-- A `%` line is a comment, whatever it holds, unless the text in front of it ends in free text.
Behind free text it is one if it has no `@`, and else items are read from that `@` on. -/
theorem parse_percentLine {a : List Char} {as : List Item} (ha : parse a = .ok as)
    (hend : ∀ d ∈ a.getLast?, d = '\n') :
    (∀ c b bs, (EndsInText a → '@' ∉ c) → '\n' ∉ c → b.head? = some '@' → parse b = .ok bs →
      ∃ is, parse (a ++ '%' :: (c ++ '\n' :: b)) = .ok is ∧
        uncommented is = uncommented (as ++ bs)) ∧
    (EndsInText a → ∀ u v b, '@' ∉ u → ∃ cs, uncommented cs = uncommented as ∧
      ∀ is, parse (a ++ '%' :: (u ++ '@' :: v ++ '\n' :: b)) = .ok is ↔
        ∃ ds, parse ('@' :: (v ++ '\n' :: b)) = .ok ds ∧ is = cs ++ ds) := by
  have hitems := parse_eq_ok_iff.1 ha
  constructor
  · intro c b bs htext hc hb hbs
    suffices ∃ cs, uncommented cs = uncommented as ∧
        items (a ++ '%' :: (c ++ '\n' :: b)) = (items b).map (cs ++ ·) by
      obtain ⟨cs, hcs, hread⟩ := this
      refine ⟨cs ++ bs, (parse_eq_ok_of_items hread _).2 ⟨bs, hbs, rfl⟩, ?_⟩
      rw [uncommented_append, uncommented_append, hcs]
    by_cases hopen : EndsInText a
    · obtain ⟨z, rfl⟩ := List.head?_eq_some_iff.1 hb
      have hy : '@' ∉ '%' :: (c ++ ['\n']) := by simp [htext hopen]
      simpa using hopen.items_append as hitems _ z hy
    · exact items_append_percent hc a as hitems hend hopen
  · intro hopen u v b hu
    have hy : '@' ∉ '%' :: u := by simpa using hu
    obtain ⟨cs, hcs, hread⟩ := hopen.items_append as hitems _ (v ++ '\n' :: b) hy
    refine ⟨cs, hcs, parse_eq_ok_of_items ?_⟩
    simpa using hread

/-- A comment block that is left open, and free text. -/
def openComment : List Char := "@comment\n".toList

def note : List Char := "é\n".toList

theorem items_openComment : items openComment = .ok [.comment []] := by
  have hitem : item openComment = some (.comment [], []) := rfl
  rw [items_of_item rfl hitem, items_of_nil rfl]
  rfl

theorem not_endsInText_openComment : ¬ EndsInText openComment := by
  have hleading : leading (skipBlank openComment) = some (.comment [], []) := rfl
  intro h
  cases h with
  | text hs hc => exact hc.1 (List.cons.inj hs).1.symm
  | behind h hr =>
    rw [hleading] at h
    obtain ⟨-, rfl⟩ := Prod.mk.inj (Option.some.inj h)
    exact hr.ne_nil rfl

theorem endsInText_note : EndsInText note := .text (c := 'é') rfl (by decide) (by decide)

theorem getLast?_note : ∀ d ∈ note.getLast?, d = '\n' := by
  rintro _ ⟨⟩
  rfl

theorem items_note : items note = .ok [.comment ['é']] := by
  have hleading : leading (skipBlank note) = some (.comment ['é'], []) := rfl
  rw [items_of_leading hleading, items_of_nil rfl]
  rfl

/-- An entry in a line behind an open comment block is no item, one in a line behind free text is
read. -/
theorem parse_percentLine_entry :
    let c := ' ' :: loneText
    (parse openComment = .ok [.comment []] ∧ (∀ d ∈ openComment.getLast?, d = '\n') ∧
      (EndsInText openComment → '@' ∉ c) ∧ '\n' ∉ c ∧ parse loneText = .ok [lone]) ∧
    (∃ is, parse (openComment ++ '%' :: (c ++ '\n' :: loneText)) = .ok is ∧
      uncommented is = [lone]) ∧
    (parse note = .ok [.comment ['é']] ∧ (∀ d ∈ note.getLast?, d = '\n') ∧ EndsInText note ∧
      '@' ∉ [' ']) ∧
    ∃ cs, uncommented cs = [] ∧
      ∀ is, parse (note ++ '%' :: (c ++ '\n' :: loneText)) = .ok is ↔
        ∃ ds, parse (loneText ++ '\n' :: loneText) = .ok ds ∧ is = cs ++ ds := by
  intro c
  have ha : parse openComment = .ok [.comment []] := parse_eq_ok_iff.2 items_openComment
  have hn : parse note = .ok [.comment ['é']] := parse_eq_ok_iff.2 items_note
  have hb : parse loneText = .ok [lone] := parse_eq_ok_iff.2 (items_of_loneText rfl)
  have hclosed : EndsInText openComment → '@' ∉ c := fun h =>
    absurd h not_endsInText_openComment
  have hfeed : ∀ d ∈ openComment.getLast?, d = '\n' := by
    rintro _ ⟨⟩
    rfl
  have hc : '\n' ∉ c := by decide
  refine ⟨⟨ha, hfeed, hclosed, hc, hb⟩, ?_, ⟨hn, getLast?_note, endsInText_note, by decide⟩, ?_⟩
  · exact (parse_percentLine ha hfeed).1 c loneText [lone] hclosed hc rfl hb
  · exact (parse_percentLine hn getLast?_note).2 endsInText_note [' '] "misc\x7bk\x7d".toList loneText
      (by decide)

/-- A `%` line behind free text is not always a comment: an entry in it is read. -/
theorem not_parse_percentLine :
    ¬ ∀ a c b as bs, parse a = .ok as → (∀ d ∈ a.getLast?, d = '\n') → '\n' ∉ c →
      b.head? = some '@' → parse b = .ok bs →
      ∃ is, parse (a ++ '%' :: (c ++ '\n' :: b)) = .ok is ∧
        uncommented is = uncommented (as ++ bs) := by
  intro h
  have hb : parse loneText = .ok [lone] := parse_eq_ok_iff.2 (items_of_loneText rfl)
  obtain ⟨is, his, hkept⟩ := h note loneText loneText _ _ (parse_eq_ok_iff.2 items_note)
    getLast?_note (by decide) rfl hb
  obtain ⟨cs, hcs, hread⟩ := endsInText_note.items_append _ items_note ['%']
    ("misc\x7bk\x7d".toList ++ '\n' :: loneText) (by decide)
  have hitem : item (loneText ++ '\n' :: loneText) = some (lone, loneText) := rfl
  have htwo : parse (loneText ++ '\n' :: loneText) = .ok [lone, lone] := by
    rw [parse_eq_ok_iff, items_of_item rfl hitem, items_of_loneText rfl]
    rfl
  obtain ⟨ds, hds, rfl⟩ := (parse_eq_ok_of_items hread is).1 his
  obtain rfl : [lone, lone] = ds := Except.ok.inj (htwo.symm.trans hds)
  rw [uncommented_append, hcs] at hkept
  cases hkept

end Citation.Source
