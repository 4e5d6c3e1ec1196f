import Citation.Proofs.Layout

/-! Written lexemes are read back: each scanner takes its lexeme off the front of a text and no
character of what is written behind it. -/
namespace Citation.Source
open Unicode Scanner

/-- The characters that end every name, key and number. -/
def isStop (c : Char) : Bool := isSpacing c || ['{', '}', '(', ')', ',', '=', '#'].contains c

/-- A text that starts with a stop. -/
def Stops (r : List Char) : Prop := ∃ c t, r = c :: t ∧ isStop c = true

/-- A text that starts with something to read. -/
def Solid (s : List Char) : Prop := ∃ c t, s = c :: t ∧ isBlank c = false

/-- The stops, one by one. -/
def stops : List Char := [' ', '\t', '\n', '\r', '{', '}', '(', ')', ',', '=', '#']

def blanks : List Char := [' ', '\t', '\n', '\r', '\x0c']

theorem mem_stops {c : Char} (h : isStop c = true) : c ∈ stops := by
  simpa [isStop, isSpacing, stops, or_assoc] using h

theorem mem_blanks {c : Char} (h : isBlank c = true) : c ∈ blanks := by
  simpa [isBlank, isSpacing, blanks, or_assoc] using h

theorem eq_false_of_isStop {p : Char → Bool} (hp : (stops.all fun c => !p c) = true) {c : Char}
    (h : isStop c = true) : p c = false := by
  have hc := List.all_eq_true.1 hp c (mem_stops h)
  simpa using hc

theorem eq_false_of_isBlank {p : Char → Bool} (hp : (blanks.all fun c => !p c) = true) {c : Char}
    (h : isBlank c = true) : p c = false := by
  have hc := List.all_eq_true.1 hp c (mem_blanks h)
  simpa using hc

theorem isNameChar_of_isStop {c : Char} (h : isStop c = true) : isNameChar c = false :=
  eq_false_of_isStop (by decide) h

theorem isKeyChar_of_isStop {c : Char} (h : isStop c = true) : isKeyChar c = false :=
  eq_false_of_isStop (by decide) h

theorem isDigit_of_isStop {c : Char} (h : isStop c = true) : c.isDigit = false :=
  eq_false_of_isStop (by decide) h

theorem Stops.cons {c : Char} (h : isStop c = true) (t : List Char) : Stops (c :: t) :=
  ⟨c, t, rfl, h⟩

theorem Stops.spacing {g r : List Char} (hg : IsSpacing g) (hr : Stops r) : Stops (g ++ r) := by
  cases g with
  | nil => exact hr
  | cons c g =>
    have hc : isSpacing c = true := hg c (by simp)
    exact .cons (by simp [isStop, hc]) (g ++ r)

theorem Stops.head {p : Char → Bool} (hp : ∀ c, isStop c = true → p c = false) {r : List Char}
    (h : Stops r) : ∀ c ∈ r.head?, p c = false := by
  obtain ⟨c, t, rfl, hc⟩ := h
  simpa using hp c hc

theorem Solid.append {s : List Char} (h : Solid s) (r : List Char) : Solid (s ++ r) := by
  obtain ⟨c, t, rfl, hc⟩ := h
  exact ⟨c, t ++ r, rfl, hc⟩

theorem Solid.cons {c : Char} (h : isBlank c = false) (t : List Char) : Solid (c :: t) :=
  ⟨c, t, rfl, h⟩

theorem solid_of_all {p : Char → Bool} {w : List Char} (hp : ∀ c, isBlank c = true → p c = false)
    (hw : w ≠ []) (hall : ∀ c ∈ w, p c = true) : Solid w := by
  cases w with
  | nil => exact absurd rfl hw
  | cons c w =>
    refine .cons ?_ w
    rw [Bool.eq_false_iff]
    intro hblank
    have hc := hall c (by simp)
    rw [hp c hblank] at hc
    cases hc

/-! Spacing is skipped, up to the next solid character. -/

theorem skipSpacing_append {g s : List Char} (hg : IsSpacing g) (hs : Solid s) :
    skipSpacing (g ++ s) = s := by
  obtain ⟨c, t, rfl, hc⟩ := hs
  have hc' : isSpacing c = false := by
    rw [Bool.eq_false_iff]
    intro h
    rw [isBlank_of_isSpacing h] at hc
    cases hc
  rw [skipSpacing, List.dropWhile_append_of_pos hg, List.dropWhile_cons_of_neg (by simp [hc'])]

theorem skipBlank_append {g : List Char} (hg : IsSpacing g) (s : List Char) :
    skipBlank (g ++ s) = skipBlank s := by
  rw [skipBlank, List.dropWhile_append_of_pos fun c hc => isBlank_of_isSpacing (hg c hc)]
  rfl

theorem skipBlank_solid {s : List Char} (hs : Solid s) : skipBlank s = s := by
  obtain ⟨c, t, rfl, hc⟩ := hs
  rw [skipBlank, List.dropWhile_cons_of_neg (by simp [hc])]

theorem skipBlank_skipSpacing (s : List Char) : skipBlank (skipSpacing s) = skipBlank s := by
  have hs : s = s.takeWhile isSpacing ++ skipSpacing s :=
    List.takeWhile_append_dropWhile.symm
  have hg : IsSpacing (s.takeWhile isSpacing) := fun c hc =>
    List.all_eq_true.1 List.all_takeWhile c hc
  rw [← skipBlank_append hg, ← hs]

theorem IsSpacing.isWhitespace {g : List Char} (h : IsSpacing g) :
    ∀ c ∈ g, isWhitespace c = true :=
  fun c hc => isWhitespace_of_isBlank (isBlank_of_isSpacing (h c hc))

theorem trimEnd_append {b g : List Char} (hg : IsSpacing g) : trimEnd (b ++ g) = trimEnd b := by
  have hrev : ∀ c ∈ g.reverse, isWhitespace c = true := fun c hc =>
    hg.isWhitespace c (by simpa using hc)
  rw [trimEnd, List.reverse_append, List.dropWhile_append_of_pos hrev]
  rfl

theorem trimStart_of_trim {b : List Char} (h : trim b = b) : trimStart b = b := by
  have hstart : (trimStart b).Sublist b := List.dropWhile_sublist _
  have hend : (trim b).length ≤ (trimStart b).length := by
    have hdrop := (List.dropWhile_sublist isWhitespace (l := (trimStart b).reverse)).length_le
    simpa [trim, trimEnd] using hdrop
  rw [h] at hend
  exact hstart.eq_of_length (Nat.le_antisymm hstart.length_le hend)

theorem trim_append {g b g' : List Char} (hg : IsSpacing g) (hb : trim b = b)
    (hg' : IsSpacing g') : trim (g ++ (b ++ g')) = b := by
  have hstart := trimStart_of_trim hb
  rw [trim, trimStart, List.dropWhile_append_of_pos hg.isWhitespace]
  cases b with
  | nil =>
    have hnil : (g' ++ []).dropWhile isWhitespace = [] :=
      List.dropWhile_append_of_pos hg'.isWhitespace
    rw [List.append_nil] at hnil
    rw [List.nil_append, hnil]
    rfl
  | cons c t =>
    have hc : ¬ isWhitespace c = true := by
      intro hc
      have hlen := (List.dropWhile_sublist isWhitespace (l := t)).length_le
      rw [trimStart, List.dropWhile_cons_of_pos hc] at hstart
      rw [hstart, List.length_cons] at hlen
      omega
    rw [List.cons_append, List.dropWhile_cons_of_neg hc, ← List.cons_append, trimEnd_append hg']
    rwa [trim, hstart] at hb

theorem padded_append {α : Type} {p : Scanner α} {a : α} {g g' s r : List Char}
    (hg : IsSpacing g) (hs : Solid s) (hg' : IsSpacing g') (hr : Solid r)
    (h : p (s ++ (g' ++ r)) = some (a, g' ++ r)) :
    padded p (g ++ (s ++ (g' ++ r))) = some (a, r) := by
  rw [padded, skipSpacing_append hg (hs.append _), h]
  simp [skipSpacing_append hg' hr]

/-! Runs end where the class of their characters ends. -/

theorem run_append {p : Char → Bool} {w r : List Char} (hw : w ≠ []) (hall : ∀ c ∈ w, p c = true)
    (hr : ∀ c ∈ r.head?, p c = false) : run p (w ++ r) = some (w, r) := by
  have htake : r.takeWhile p = [] := by
    cases r with
    | nil => rfl
    | cons c t => simp [hr c (by simp)]
  have hdrop : r.dropWhile p = r := by
    cases r with
    | nil => rfl
    | cons c t => simp [hr c (by simp)]
  cases w with
  | nil => exact absurd rfl hw
  | cons c w =>
    rw [run, List.takeWhile_append_of_pos hall, htake, List.dropWhile_append_of_pos hall, hdrop]
    simp

theorem run_eq_none {p : Char → Bool} {s : List Char} (h : ∀ c ∈ s.head?, p c = false) :
    run p s = none := by
  cases s with
  | nil => rfl
  | cons c s => simp [run, h c (by simp)]

theorem name_append {n r : List Char} (hn : IsName n) (hr : Stops r) :
    name (n ++ r) = some (n, r) :=
  run_append hn.1 hn.2 (hr.head fun _ => isNameChar_of_isStop)

theorem entryKey_append {k r : List Char} (hk : IsKey k) (hr : Stops r) :
    entryKey (k ++ r) = some (k, r) :=
  run_append hk.1 hk.2 (hr.head fun _ => isKeyChar_of_isStop)

theorem IsName.solid {n : List Char} (h : IsName n) : Solid n :=
  solid_of_all (fun _ => eq_false_of_isBlank (by decide)) h.1 h.2

theorem IsKey.solid {k : List Char} (h : IsKey k) : Solid k := by
  refine solid_of_all ?_ h.1 h.2
  intro c hc
  simp [isKeyChar, isWhitespace_of_isBlank hc]

/-! The body of a brace group is read up to the brace that closes it. -/

/-- Puts characters in front of what is read. -/
def prepended (w : List Char) (x : Option (List Char × List Char)) :
    Option (List Char × List Char) :=
  x.map fun (b, r) => (w ++ b, r)

theorem prepended_prepended (v w : List Char) (x : Option (List Char × List Char)) :
    prepended v (prepended w x) = prepended (v ++ w) x := by
  simp [prepended, Function.comp_def]

theorem groupBody_shielded (depth : Nat) (c : Char) (s : List Char) :
    groupBody depth ('\\' :: c :: s) = prepended ['\\', c] (groupBody depth s) := by
  simp [groupBody, prepended]

theorem groupBody_open (depth : Nat) (s : List Char) :
    groupBody depth ('{' :: s) = prepended ['{'] (groupBody (depth + 1) s) := by
  rw [groupBody.eq_def]
  simp [prepended]

theorem groupBody_close (s : List Char) : groupBody 0 ('}' :: s) = some ([], '}' :: s) := by
  rw [groupBody.eq_def]
  simp

theorem groupBody_inner (depth : Nat) (s : List Char) :
    groupBody (depth + 1) ('}' :: s) = prepended ['}'] (groupBody depth s) := by
  rw [groupBody.eq_def]
  simp [prepended]

theorem groupBody_plain {c : Char} (hc : c ≠ '\\' ∧ c ≠ '{' ∧ c ≠ '}') (depth : Nat)
    (s : List Char) : groupBody depth (c :: s) = prepended [c] (groupBody depth s) := by
  rw [groupBody.eq_def]
  simp [hc, prepended]

theorem of_prepended_eq {w b r : List Char} {x : Option (List Char × List Char)}
    (h : prepended w x = some (w ++ b, r)) : x = some (b, r) := by
  simpa [prepended] using h

/-- Behind `depth` open groups, the text closes these and its own groups and no others. -/
inductive Closes : Nat → List Char → Prop
  | nil : Closes 0 []
  | shielded {depth : Nat} (c : Char) {b : List Char} (hb : Closes depth b) :
      Closes depth ('\\' :: c :: b)
  | opens {depth : Nat} {b : List Char} (hb : Closes (depth + 1) b) : Closes depth ('{' :: b)
  | closes {depth : Nat} {b : List Char} (hb : Closes depth b) : Closes (depth + 1) ('}' :: b)
  | plain {depth : Nat} {c : Char} (hc : c ≠ '\\' ∧ c ≠ '{' ∧ c ≠ '}') {b : List Char}
      (hb : Closes depth b) : Closes depth (c :: b)

/-- What is balanced at a depth leads to the level that it started from, whatever follows it. -/
theorem Closes.groupBody_append {b : List Char} {depth : Nat} (h : Closes depth b) (outer : Nat)
    (s : List Char) : groupBody (outer + depth) (b ++ s) = prepended b (groupBody outer s) := by
  induction h with
  | nil => simp [prepended]
  | shielded c _ ih =>
    rw [List.cons_append, List.cons_append, groupBody_shielded, ih, prepended_prepended]
    rfl
  | opens _ ih =>
    rw [List.cons_append, groupBody_open, Nat.add_assoc, ih, prepended_prepended]
    rfl
  | closes _ ih =>
    rw [List.cons_append, ← Nat.add_assoc, groupBody_inner, ih, prepended_prepended]
    rfl
  | plain hc _ ih =>
    rw [List.cons_append, groupBody_plain hc, ih, prepended_prepended]
    rfl

/-- The scanner reads such a text whole, up to the brace behind it. -/
theorem closes_iff {depth : Nat} {b : List Char} :
    Closes depth b ↔ groupBody depth (b ++ ['}']) = some (b, ['}']) := by
  refine ⟨fun h => ?_, fun h => ?_⟩
  · have hbody := h.groupBody_append 0 ['}']
    rw [Nat.zero_add, groupBody_close] at hbody
    simpa [prepended] using hbody
  · match b, depth with
    | [], 0 => exact .nil
    | [], depth + 1 => simp [groupBody_inner, prepended, groupBody] at h
    | c :: b, depth =>
      rw [List.cons_append] at h
      by_cases hshield : c = '\\'
      · subst hshield
        cases b with
        | nil => simp [groupBody_shielded, prepended, groupBody] at h
        | cons d b =>
          rw [List.cons_append, groupBody_shielded] at h
          exact .shielded d (closes_iff.2 (of_prepended_eq (w := ['\\', d]) h))
      by_cases hopen : c = '{'
      · subst hopen
        rw [groupBody_open] at h
        exact .opens (closes_iff.2 (of_prepended_eq (w := ['{']) h))
      by_cases hclose : c = '}'
      · subst hclose
        cases depth with
        | zero => simp [groupBody_close] at h
        | succ depth =>
          rw [groupBody_inner] at h
          exact .closes (closes_iff.2 (of_prepended_eq (w := ['}']) h))
      · rw [groupBody_plain ⟨hshield, hopen, hclose⟩] at h
        exact .plain ⟨hshield, hopen, hclose⟩ (closes_iff.2 (of_prepended_eq (w := [c]) h))
termination_by b.length

theorem Balanced.groupBody_append {b : List Char} (h : Balanced b) (s : List Char) :
    groupBody 0 (b ++ s) = prepended b (groupBody 0 s) :=
  (closes_iff.2 h).groupBody_append 0 s

theorem Balanced.append {a b : List Char} (ha : Balanced a) (hb : Balanced b) :
    Balanced (a ++ b) := by
  rw [Balanced, List.append_assoc, ha.groupBody_append, hb]
  rfl

theorem IsSpacing.balanced {g : List Char} (h : IsSpacing g) : Balanced g := by
  induction g with
  | nil => rfl
  | cons c g ih =>
    obtain ⟨hc, hg⟩ := List.forall_mem_cons.1 h
    have hne : c ≠ '\\' ∧ c ≠ '{' ∧ c ≠ '}' := by
      refine ⟨?_, ?_, ?_⟩ <;> rintro rfl <;> revert hc <;> decide
    have hbody := ih hg
    rw [Balanced] at hbody ⊢
    rw [List.cons_append, groupBody_plain hne, hbody]
    rfl

theorem Balanced.braced_append {b : List Char} (h : Balanced b) (r : List Char) :
    braced ('{' :: (b ++ '}' :: r)) = some (b, r) := by
  simp [braced, h.groupBody_append, groupBody_close, prepended]

/-! Numbers in decimals denote what they are written for. -/

theorem decimal_cases (n : Int) :
    (0 ≤ n ∧ decimal n = Nat.toDigits 10 n.natAbs) ∨
      (n < 0 ∧ decimal n = '-' :: Nat.toDigits 10 n.natAbs) := by
  unfold decimal
  split
  · right
    exact ⟨by assumption, rfl⟩
  · left
    exact ⟨by omega, rfl⟩

theorem isDigit_of_mem_toDigits {n : Nat} {c : Char} (h : c ∈ Nat.toDigits 10 n) :
    c.isDigit = true :=
  Nat.isDigit_of_mem_toDigits (by decide) (by decide) h

theorem sign_toDigits (n : Nat) (r : List Char) :
    sign (Nat.toDigits 10 n ++ r) = ([], Nat.toDigits 10 n ++ r) := by
  cases hd : Nat.toDigits 10 n with
  | nil => exact absurd hd Nat.toDigits_ne_nil
  | cons c ds =>
    have hc : c.isDigit = true := isDigit_of_mem_toDigits (n := n) (by simp [hd])
    have hplus : c ≠ '+' := by rintro rfl; revert hc; decide
    have hminus : c ≠ '-' := by rintro rfl; revert hc; decide
    simp [sign, hplus, hminus]

theorem sign_decimal (n : Int) (r : List Char) :
    sign (decimal n ++ r) =
      (if n < 0 then ['-'] else [], Nat.toDigits 10 n.natAbs ++ r) := by
  rcases decimal_cases n with ⟨hn, hd⟩ | ⟨hn, hd⟩
  · rw [hd, sign_toDigits, if_neg (by omega)]
  · rw [hd, if_pos hn]
    simp [sign]

theorem decimal_eq (n : Int) :
    decimal n = (if n < 0 then ['-'] else []) ++ Nat.toDigits 10 n.natAbs := by
  unfold decimal
  split <;> rfl

theorem number_append (n : Int) {r : List Char} (hr : Stops r) :
    number (decimal n ++ r) = some (decimal n, r) := by
  have hrun : run Char.isDigit (Nat.toDigits 10 n.natAbs ++ r) =
      some (Nat.toDigits 10 n.natAbs, r) :=
    run_append Nat.toDigits_ne_nil (fun c => isDigit_of_mem_toDigits)
      (hr.head fun _ => isDigit_of_isStop)
  simp only [number, sign_decimal, hrun, Option.map_some]
  rw [decimal_eq]

theorem signedValue_decimal (n : Int) : signedValue (decimal n) = n := by
  have hsign := sign_decimal n []
  simp only [List.append_nil] at hsign
  have hfold : (Nat.toDigits 10 n.natAbs).foldl
      (fun n c => 10 * n + (c.toNat - '0'.toNat)) 0 = n.natAbs := by
    rw [← Nat.ofDigitChars_eq_foldl]
    exact Nat.ofDigitChars_ten_toDigits
  simp only [signedValue, hsign, hfold, Int.ofNat_eq_natCast]
  by_cases hn : n < 0
  · rw [if_pos (by rw [if_pos hn])]
    omega
  · rw [if_neg (by rw [if_neg hn]; simp)]
    omega

theorem numberValue_decimal {n : Int}
    (h : -9223372036854775808 ≤ n ∧ n ≤ 9223372036854775807) :
    numberValue (decimal n) = .number n := by
  rw [numberValue, signedValue_decimal]
  exact if_pos ⟨h.1, h.2, rfl⟩

theorem decimal_eq_cons (n : Int) : ∃ c ds, decimal n = c :: ds ∧ (c = '-' ∨ c.isDigit = true) := by
  rcases decimal_cases n with ⟨_, hd⟩ | ⟨_, hd⟩
  · cases hds : Nat.toDigits 10 n.natAbs with
    | nil => exact absurd hds Nat.toDigits_ne_nil
    | cons c ds =>
      refine ⟨c, ds, hd.trans hds, Or.inr (isDigit_of_mem_toDigits (n := n.natAbs) ?_)⟩
      simp [hds]
  · exact ⟨'-', _, hd, Or.inl rfl⟩

theorem isNumeric_of_isDigit {c : Char} (h : c.isDigit = true) : isNumeric c = true := by
  have hc : c.toNat < 128 := by
    simp only [Char.isDigit, Bool.and_eq_true, decide_eq_true_eq] at h
    have h2 : c.val ≤ 57 := h.2
    have h3 : c.toNat ≤ 57 := UInt32.le_iff_toNat_le.1 h2
    omega
  simp [isNumeric, hc, h]

theorem isBlank_of_isDigit {c : Char} (h : c.isDigit = true) : isBlank c = false := by
  rw [Bool.eq_false_iff]
  intro hc
  rw [eq_false_of_isBlank (p := Char.isDigit) (by decide) hc] at h
  cases h

theorem number_eq_none {n r : List Char} (hn : IsReference n) (hr : Stops r) :
    number (n ++ r) = none := by
  obtain ⟨⟨hne, -⟩, hnumeric, hsign⟩ := hn
  have hdigit : ∀ c ∈ (sign (n ++ r)).2.head?, c.isDigit = false := by
    cases n with
    | nil => exact absurd rfl hne
    | cons d n =>
      by_cases hd : d = '+' ∨ d = '-'
      · cases n with
        | nil => simpa [sign, hd] using hr.head fun _ => isDigit_of_isStop
        | cons d' n => simpa [sign, hd] using hsign
      · simp only [sign, hd, if_false, List.cons_append, List.head?_cons, Option.mem_def,
          Option.some.injEq, forall_eq']
        rw [Bool.eq_false_iff]
        intro hd
        have hnum := hnumeric d (by simp)
        rw [isNumeric_of_isDigit hd] at hnum
        cases hnum
  rw [number, run_eq_none hdigit]
  rfl

/-! Keywords are found in any case, and not in the names of other types. -/

theorem caseless_append_of_map_eq {w k : List Char} (h : k.map Char.toLower = w.map Char.toLower)
    (r : List Char) : caseless w (k ++ r) = some (k, r) := by
  induction w generalizing k with
  | nil =>
    have hk : k = [] := by simpa using h
    subst hk
    rfl
  | cons c w ih =>
    cases k with
    | nil => simp at h
    | cons d k =>
      obtain ⟨hd, hk⟩ := List.cons.inj h
      simp [caseless, hd, ih hk]

theorem IsKeyword.append {w k r : List Char} (h : IsKeyword w k) (hr : Stops r) :
    keyword w (k ++ r) = some (k, r) := by
  have hsame : k.map Char.toLower = w.map Char.toLower := by
    simpa [IsKeyword, sameName] using h
  obtain ⟨c, t, rfl, hc⟩ := hr
  have hcont : (isAlphanumeric c || c == '_') = false := by
    have hname := isNameChar_of_isStop hc
    simp only [isNameChar, Bool.or_eq_false_iff, List.contains_cons] at hname ⊢
    exact ⟨hname.1, hname.2.1⟩
  simp [keyword, caseless_append_of_map_eq hsame, hcont]

/-- A stop that belongs to no word is not part of one either. -/
theorem caseless_append_stop {w : List Char} {c : Char} (hc : ∀ d ∈ w, d.toLower ≠ c.toLower)
    (t r : List Char) :
    caseless w (t ++ c :: r) = (caseless w t).map fun (m, s) => (m, s ++ c :: r) := by
  induction w generalizing t with
  | nil => rfl
  | cons d w ih =>
    obtain ⟨hd, hw⟩ := List.forall_mem_cons.1 hc
    cases t with
    | nil => simp [caseless, hd]
    | cons d' t =>
      by_cases hsame : d.toLower = d'.toLower
      · simp [caseless, hsame, ih hw, Function.comp_def]
      · simp [caseless, hsame]

theorem toLower_ne_of_isStop {w : String} (hw : w ∈ keywords) {c : Char} (hc : isStop c = true) :
    ∀ d ∈ w.toList, d.toLower ≠ c.toLower := by
  have hall : ∀ w ∈ keywords,
      (stops.all fun c => w.toList.all fun d => d.toLower != c.toLower) = true := by decide
  have hstop := List.all_eq_true.1 (hall w hw) c (mem_stops hc)
  simpa using hstop

/-- A keyword that is not found in a name is not found where the name stands either. -/
theorem keyword_append_eq_none {w : String} (hw : w ∈ keywords) {t r : List Char}
    (ht : keyword w.toList t = none) (hr : Stops r) : keyword w.toList (t ++ r) = none := by
  obtain ⟨c, s, rfl, hc⟩ := hr
  rw [keyword, caseless_append_stop (toLower_ne_of_isStop hw hc)]
  cases hm : caseless w.toList t with
  | none => rfl
  | some m =>
    obtain ⟨m, rest⟩ := m
    rw [keyword, hm] at ht
    cases rest with
    | nil => simp at ht
    | cons d rest => simpa using ht

end Citation.Source
