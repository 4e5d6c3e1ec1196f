import Citation.Proofs.FirstStops
import Citation.Source.Bytes

/-! The scanners of bytes find what is found character by character. A backslash shields one byte
only, but the bytes behind the first one of a character mean nothing to a scanner. -/
namespace Citation.Source

/-! The bytes of characters. -/

@[simp] theorem utf8_append (s t : List Char) : utf8 (s ++ t) = utf8 s ++ utf8 t :=
  List.flatMap_append

@[simp] theorem utf8_cons (c : Char) (s : List Char) :
    utf8 (c :: s) = String.utf8EncodeChar c ++ utf8 s := rfl

@[simp] theorem utf8_nil : utf8 [] = [] := rfl

theorem utf8EncodeChar_ascii {c : Char} (h : c.toNat < 128) :
    String.utf8EncodeChar c = [c.toUInt8] :=
  String.utf8EncodeChar_eq_singleton (Char.utf8Size_eq_one_iff.2 (by
    rw [UInt32.le_iff_toNat_le]
    exact Nat.le_of_lt_succ h))

theorem le_ofNat {k n : Nat} (hk : k ≤ n) (hn : n < 256) : UInt8.ofNat k ≤ UInt8.ofNat n := by
  rw [UInt8.le_iff_toNat_le, UInt8.toNat_ofNat_of_lt' hn,
    UInt8.toNat_ofNat_of_lt' (Nat.lt_of_le_of_lt hk hn)]
  exact hk

/-- All bytes of another character are above those of ASCII, and its first one continues nothing. -/
theorem utf8EncodeChar_not_ascii {c : Char} (h : 128 ≤ c.toNat) :
    ∃ b bs, String.utf8EncodeChar c = b :: bs ∧ 0xc0 ≤ b ∧ ∀ d ∈ bs, 0x80 ≤ d := by
  have hnext (n : Nat) : (0x80 : UInt8) ≤ UInt8.ofNat (n % 64 + 128) :=
    le_ofNat (k := 0x80) (Nat.le_add_left _ _) (by omega)
  have hfirst (n k : Nat) (hk : 0xc0 ≤ k) (hn : n + k < 256) :
      (0xc0 : UInt8) ≤ UInt8.ofNat (n + k) :=
    le_ofNat (k := 0xc0) (Nat.le_add_left_of_le hk) hn
  have hnil : ∀ d ∈ ([] : List UInt8), 0x80 ≤ d := by simp
  have hv : ¬c.val.toNat ≤ 127 := Nat.not_le.2 h
  simp only [String.utf8EncodeChar, hv, if_false]
  split
  · refine ⟨_, _, rfl, hfirst _ 0xc0 (by decide) (by omega), ?_⟩
    simpa only [List.forall_mem_cons, hnext, true_and] using hnil
  split
  · refine ⟨_, _, rfl, hfirst _ 0xe0 (by decide) (by omega), ?_⟩
    simpa only [List.forall_mem_cons, hnext, true_and] using hnil
  · refine ⟨_, _, rfl, hfirst _ 0xf0 (by decide) (by omega), ?_⟩
    simpa only [List.forall_mem_cons, hnext, true_and] using hnil

theorem toUInt8_inj {c d : Char} (hc : c.toNat < 128) (hd : d.toNat < 128) :
    c.toUInt8 = d.toUInt8 ↔ c = d := by
  have hbyte {e : Char} (he : e.toNat < 128) : e.toUInt8.toNat = e.toNat :=
    Nat.mod_eq_of_lt (Nat.lt_trans he (by decide))
  refine ⟨fun h => ?_, congrArg Char.toUInt8⟩
  have hnat : c.toNat = d.toNat := by rw [← hbyte hc, ← hbyte hd, h]
  exact Char.toNat_inj.1 hnat

theorem ne_toUInt8 {c : Char} (hc : c.toNat < 128) {b : UInt8} (hb : 0x80 ≤ b) :
    b ≠ c.toUInt8 := by
  rintro rfl
  have hlow : c.toUInt8.toNat < 128 := Nat.lt_of_le_of_lt (Nat.mod_le _ _) hc
  exact absurd (UInt8.le_iff_toNat_le.1 hb) (Nat.not_le.2 hlow)

theorem getElem?_utf8 {c : Char} (hc : c.toNat < 128) (a t : List Char) :
    (utf8 (a ++ c :: t))[(utf8 a).length]? = some c.toUInt8 := by
  simp [utf8EncodeChar_ascii hc]

theorem length_utf8_ascii {c : Char} (hc : c.toNat < 128) (a : List Char) :
    (utf8 (a ++ [c])).length = (utf8 a).length + 1 := by
  simp [utf8EncodeChar_ascii hc]

theorem head?_utf8_cons {c d : Char} (hd : d.toNat < 128) {s : List Char} :
    (utf8 (c :: s)).head? = some d.toUInt8 ↔ c = d := by
  by_cases hc : c.toNat < 128
  · simp [utf8EncodeChar_ascii hc, toUInt8_inj hc hd]
  · obtain ⟨b, bs, hbytes, hb, -⟩ := utf8EncodeChar_not_ascii (Nat.not_lt.1 hc)
    have hbyte : b ≠ d.toUInt8 := ne_toUInt8 hd (UInt8.le_trans (by decide) hb)
    have hchar : c ≠ d := by rintro rfl; exact hc hd
    simp [hbytes, hbyte, hchar]

/-! Where characters begin. -/

/-- A character begins behind every text. -/
theorem isBoundary_utf8 (a s : List Char) :
    Bytes.isBoundary (utf8 (a ++ s)) (utf8 a).length = true := by
  cases s with
  | nil => simp [Bytes.isBoundary]
  | cons c s =>
    by_cases hc : c.toNat < 128
    · have hlow : ¬(0x80 : UInt8) ≤ c.toUInt8 := by
        rw [UInt8.le_iff_toNat_le]
        exact Nat.not_le.2 (Nat.lt_of_le_of_lt (Nat.mod_le _ _) hc)
      simp [Bytes.isBoundary, utf8EncodeChar_ascii hc, hlow]
    · obtain ⟨b, bs, hb, hhigh, -⟩ := utf8EncodeChar_not_ascii (Nat.not_lt.1 hc)
      simp [Bytes.isBoundary, hb, hhigh]

namespace Bytes

theorem cut_utf8 (a b r : List Char) :
    cut (utf8 (a ++ (b ++ r))) (utf8 a).length (utf8 (a ++ b)).length = .ok (utf8 b) := by
  have hfront := isBoundary_utf8 a (b ++ r)
  have hback := isBoundary_utf8 (a ++ b) r
  rw [List.append_assoc] at hback
  rw [cut, if_pos ⟨by simp, hfront, hback⟩]
  simp [← List.append_assoc]

end Bytes

/-! Leaps over bytes. -/

/-- A search from an offset on to which the bytes outside ASCII mean nothing. -/
def Leaps {β : Type} (s : List UInt8) (f : Nat → β) : Prop :=
  ∀ pos b, s[pos]? = some b → 0x80 ≤ b → f pos = f (pos + 1)

theorem Leaps.run {β : Type} {f : Nat → β} {s a w t : List UInt8} (h : Leaps s f)
    (hs : s = a ++ (w ++ t)) (hw : ∀ b ∈ w, 0x80 ≤ b) : f a.length = f (a ++ w).length := by
  induction w generalizing a with
  | nil => rw [List.append_nil]
  | cons b w ih =>
    obtain ⟨hb, hrest⟩ := List.forall_mem_cons.1 hw
    have hnext := ih (a := a ++ [b]) (by rw [hs]; simp) hrest
    rw [h a.length b (by rw [hs]; simp) hb]
    simpa using hnext

theorem Leaps.char {β : Type} {f : Nat → β} {a t : List Char} {c : Char}
    (h : Leaps (utf8 (a ++ c :: t)) f) (hc : 128 ≤ c.toNat) :
    f (utf8 a).length = f (utf8 (a ++ [c])).length := by
  obtain ⟨b, bs, hbytes, hb, hbs⟩ := utf8EncodeChar_not_ascii hc
  have hall : ∀ d ∈ String.utf8EncodeChar c, 0x80 ≤ d := by
    rw [hbytes]
    exact List.forall_mem_cons.2 ⟨UInt8.le_trans (by decide) hb, hbs⟩
  have hrun := h.run (a := utf8 a) (w := String.utf8EncodeChar c) (t := utf8 t) (by simp) hall
  simpa using hrun

/-- Behind the first byte of a character, the search may as well go on behind the character. -/
theorem Leaps.rest {β : Type} {f : Nat → β} {a t : List Char} {c : Char}
    (h : Leaps (utf8 (a ++ c :: t)) f) :
    f ((utf8 a).length + 1) = f (utf8 (a ++ [c])).length := by
  by_cases hc : c.toNat < 128
  · rw [length_utf8_ascii hc]
  · obtain ⟨b, bs, hbytes, -, hbs⟩ := utf8EncodeChar_not_ascii (Nat.not_lt.1 hc)
    have hrun := h.run (a := utf8 a ++ [b]) (w := bs) (t := utf8 t) (by simp [hbytes]) hbs
    simpa [hbytes] using hrun

/-- The byte that a backslash shields is the first one of a character, whose rest is leapt over. -/
theorem Leaps.shielded {β : Type} {f : Nat → β} {a t : List Char} {d : Char}
    (h : Leaps (utf8 (a ++ '\\' :: d :: t)) f) :
    f ((utf8 a).length + 2) = f (utf8 (a ++ ['\\'] ++ [d])).length := by
  have hrest := Leaps.rest (f := f) (a := a ++ ['\\']) (c := d) (t := t) (by simpa using h)
  rwa [length_utf8_ascii (by decide)] at hrest

namespace Bytes

/-- A brace or a backslash. -/
def isSign (b : UInt8) : Bool :=
  b == '{'.toUInt8 || b == '}'.toUInt8 || b == '\\'.toUInt8

theorem isSign_toUInt8 {c : Char} (hc : c.toNat < 128) :
    isSign c.toUInt8 = true ↔ c = '{' ∨ c = '}' ∨ c = '\\' := by
  simp [isSign, toUInt8_inj hc, or_assoc]

theorem ne_signs {b : UInt8} (hb : 0x80 ≤ b) :
    b ≠ '{'.toUInt8 ∧ b ≠ '}'.toUInt8 ∧ b ≠ '\\'.toUInt8 :=
  ⟨ne_toUInt8 (by decide) hb, ne_toUInt8 (by decide) hb, ne_toUInt8 (by decide) hb⟩

theorem Search.FindsFirst.signs {search : Search} (h : search.FindsFirst) (s : List UInt8) :
    search '{'.toUInt8 '}'.toUInt8 '\\'.toUInt8 s = s.findIdx? isSign :=
  h _ _ _ s

/-! One byte of a loop. A byte that is no sign may be leapt over or read. -/

theorem bytesFrom_cons {s : List UInt8} {pos : Nat} {b : UInt8} (hb : s[pos]? = some b) :
    bytesFrom s pos = .ok (b :: s.drop (pos + 1)) := by
  obtain ⟨hpos, hget⟩ := List.getElem?_eq_some_iff.1 hb
  rw [bytesFrom, if_pos (Nat.le_of_lt hpos), List.drop_eq_getElem_cons hpos, hget]

section
variable {search : Search}

theorem closingBrace_done {s : List UInt8} {pos : Nat} (hend : s.length ≤ pos) (depth : Nat) :
    closingBrace search s depth pos = .ok none := by
  rw [closingBrace, if_neg (Nat.not_lt.2 hend)]
  rfl

theorem closingBrace_sign (h : search.FindsFirst) {s : List UInt8} {pos : Nat} {b : UInt8}
    (hb : s[pos]? = some b) (hsign : isSign b = true) (depth : Nat) :
    closingBrace search s depth pos =
      if b = '{'.toUInt8 then closingBrace search s (depth + 1) (pos + 1)
      else if b = '}'.toUInt8 then
        match depth with
        | 0 => .ok (some pos)
        | depth + 1 => closingBrace search s depth (pos + 1)
      else closingBrace search s depth (pos + 2) := by
  obtain ⟨hpos, -⟩ := List.getElem?_eq_some_iff.1 hb
  have hfind := h.signs (b :: s.drop (pos + 1))
  rw [List.findIdx?_cons, if_pos hsign] at hfind
  rw [closingBrace, if_pos hpos, bytesFrom_cons hb]
  simp only [bind, Except.bind, hfind, byteAt, Nat.add_zero, hb]
  rfl

theorem closingBrace_plain (h : search.FindsFirst) {s : List UInt8} {pos : Nat} {b : UInt8}
    (hb : s[pos]? = some b) (hplain : isSign b = false) (depth : Nat) :
    closingBrace search s depth pos = closingBrace search s depth (pos + 1) := by
  obtain ⟨hpos, -⟩ := List.getElem?_eq_some_iff.1 hb
  have hfind := h.signs (b :: s.drop (pos + 1))
  rw [List.findIdx?_cons, hplain, if_neg (by decide), ← h.signs] at hfind
  rw [closingBrace, if_pos hpos, bytesFrom_cons hb]
  simp only [bind, Except.bind, hfind]
  by_cases hend : pos + 1 < s.length
  · have hnext : bytesFrom s (pos + 1) = .ok (s.drop (pos + 1)) := if_pos (Nat.le_of_lt hend)
    rw [closingBrace.eq_def search s depth (pos + 1), if_pos hend, hnext]
    simp only [bind, Except.bind]
    cases search '{'.toUInt8 '}'.toUInt8 '\\'.toUInt8 (s.drop (pos + 1)) with
    | none => rfl
    | some offset => simp only [Option.map_some, Nat.add_comm offset 1, ← Nat.add_assoc]
  · have hnone := h.signs (s.drop (pos + 1))
    rw [List.drop_eq_nil_of_le (Nat.not_lt.1 hend)] at hnone ⊢
    rw [closingBrace_done (Nat.not_lt.1 hend), hnone]
    rfl

theorem leaps_closingBrace (h : search.FindsFirst) (s : List UInt8) (depth : Nat) :
    Leaps s (closingBrace search s depth) := by
  intro pos b hb hhigh
  have hplain : isSign b = false := by simp [isSign, ne_signs hhigh]
  exact closingBrace_plain h hb hplain depth

end

theorem closingQuote_done {s : List UInt8} {pos : Nat} (h : s.length ≤ pos) (depth : Nat) :
    closingQuote s depth pos = .ok none := by
  rw [closingQuote, if_neg (Nat.not_lt.2 h)]
  rfl

theorem closingQuote_byte {s : List UInt8} {pos : Nat} {b : UInt8} (hb : s[pos]? = some b)
    (depth : Nat) :
    closingQuote s depth pos =
      if b = '\\'.toUInt8 then closingQuote s depth (pos + 2)
      else if b = '\"'.toUInt8 ∧ depth = 0 then .ok (some pos)
      else if b = '{'.toUInt8 then closingQuote s (depth + 1) (pos + 1)
      else if b = '}'.toUInt8 then closingQuote s (depth - 1) (pos + 1)
      else closingQuote s depth (pos + 1) := by
  obtain ⟨hpos, -⟩ := List.getElem?_eq_some_iff.1 hb
  rw [closingQuote, if_pos hpos]
  simp only [bind, Except.bind, byteAt, hb]
  rfl

theorem leaps_closingQuote (s : List UInt8) (depth : Nat) : Leaps s (closingQuote s depth) := by
  intro pos b hb hhigh
  obtain ⟨hopen, hclose, hshield⟩ := ne_signs hhigh
  have hquote := ne_toUInt8 (c := '\"') (by decide) hhigh
  rw [closingQuote_byte hb]
  simp [hopen, hclose, hshield, hquote]

/-! The loops on the bytes of characters. -/

/-- The offset, in the whole input, of the end of what is read behind a text. -/
def endOffset (a : List Char) (x : Option (List Char × List Char)) : Option Nat :=
  x.map fun (b, _) => (utf8 (a ++ b)).length

theorem endOffset_map (a : List Char) (c : Char) (x : Option (List Char × List Char)) :
    endOffset a (x.map fun (b, r) => (c :: b, r)) = endOffset (a ++ [c]) x := by
  simp [endOffset, Function.comp_def]

theorem endOffset_map_shielded (a : List Char) (c d : Char)
    (x : Option (List Char × List Char)) :
    endOffset a (x.map fun (b, r) => (c :: d :: b, r)) = endOffset (a ++ [c] ++ [d]) x := by
  simp [endOffset, Function.comp_def]

theorem closingBrace_utf8 {search : Search} (h : search.FindsFirst) (depth : Nat) (a s : List Char) :
    closingBrace search (utf8 (a ++ s)) depth (utf8 a).length =
      .ok (endOffset a (Source.groupBody depth s)) := by
  -- Along the scanner of characters, where `a` is what it has behind it.
  fun_induction Source.groupBody depth s generalizing a with
  | case1 depth => exact closingBrace_done (by simp) depth
  | case2 depth =>
    rw [closingBrace_sign h (getElem?_utf8 (by decide) a []) (by decide)]
    exact closingBrace_done (by simp [utf8EncodeChar_ascii]) depth
  | case3 depth d s ih =>
    have hnext := ih (a ++ ['\\'] ++ [d])
    rw [List.append_assoc, List.append_assoc, List.singleton_append, List.singleton_append] at hnext
    rw [closingBrace_sign h (getElem?_utf8 (by decide) a (d :: s)) (by decide), if_neg (by decide),
      if_neg (by decide), endOffset_map_shielded, (leaps_closingBrace h _ depth).shielded]
    exact hnext
  | case4 depth s _ ih =>
    have hnext := ih (a ++ ['{'])
    rw [length_utf8_ascii (by decide), List.append_assoc] at hnext
    rw [closingBrace_sign h (getElem?_utf8 (by decide) a s) (by decide), if_pos rfl, endOffset_map]
    exact hnext
  | case5 s =>
    rw [closingBrace_sign h (getElem?_utf8 (by decide) a s) (by decide), if_neg (by decide),
      if_pos rfl]
    simp [endOffset]
  | case6 s _ _ depth ih =>
    have hnext := ih (a ++ ['}'])
    rw [length_utf8_ascii (by decide), List.append_assoc] at hnext
    rw [closingBrace_sign h (getElem?_utf8 (by decide) a s) (by decide), if_neg (by decide),
      if_pos rfl, endOffset_map]
    exact hnext
  | case7 depth c s hshield hopen hclose ih =>
    have hnext := ih (a ++ [c])
    rw [List.append_assoc, List.singleton_append] at hnext
    rw [endOffset_map, ← hnext]
    -- A character outside ASCII has several bytes, and the loop may stop at none of them.
    by_cases hc : c.toNat < 128
    · have hplain : isSign c.toUInt8 = false := by
        simpa [hshield, hopen, hclose] using isSign_toUInt8 hc
      rw [closingBrace_plain h (getElem?_utf8 hc a s) hplain, length_utf8_ascii hc]
    · exact (leaps_closingBrace h _ depth).char (Nat.not_lt.1 hc)

theorem closingQuote_utf8 (depth : Nat) (a s : List Char) :
    closingQuote (utf8 (a ++ s)) depth (utf8 a).length =
      .ok (endOffset a (quotedBody depth s)) := by
  fun_induction quotedBody depth s generalizing a with
  | case1 depth => exact closingQuote_done (by simp) depth
  | case2 depth =>
    rw [closingQuote_byte (getElem?_utf8 (by decide) a []), if_pos rfl]
    exact closingQuote_done (by simp [utf8EncodeChar_ascii]) depth
  | case3 depth d s ih =>
    have hnext := ih (a ++ ['\\'] ++ [d])
    rw [List.append_assoc, List.append_assoc, List.singleton_append, List.singleton_append] at hnext
    rw [closingQuote_byte (getElem?_utf8 (by decide) a (d :: s)), if_pos rfl,
      endOffset_map_shielded, (leaps_closingQuote _ depth).shielded]
    exact hnext
  | case4 depth c s hshield hstop =>
    obtain ⟨rfl, rfl⟩ := hstop
    rw [closingQuote_byte (getElem?_utf8 (by decide) a s), if_neg (by decide), if_pos ⟨rfl, rfl⟩]
    simp [endOffset]
  | case5 depth c s hshield hstop ih =>
    have hnext := ih (a ++ [c])
    rw [List.append_assoc, List.singleton_append] at hnext
    rw [endOffset_map, ← hnext]
    by_cases hc : c.toNat < 128
    · rw [closingQuote_byte (getElem?_utf8 hc a s), length_utf8_ascii hc]
      simp only [toUInt8_inj hc (d := '\\') (by decide), toUInt8_inj hc (d := '\"') (by decide),
        toUInt8_inj hc (d := '{') (by decide), toUInt8_inj hc (d := '}') (by decide), hshield,
        hstop, if_false, depthAfter]
      split
      · rfl
      · split <;> rfl
    · have hopen : c ≠ '{' := by rintro rfl; exact hc (by decide)
      have hclose : c ≠ '}' := by rintro rfl; exact hc (by decide)
      rw [(leaps_closingQuote _ depth).char (Nat.not_lt.1 hc), depthAfter, if_neg hopen,
        if_neg hclose]

end Bytes

/-! The scanners. -/

/-- What a scanner of characters leaves, in bytes. Where it reads nothing, the input stays. -/
def Scanned.ofChars (s : List Char) : Option (List Char × List Char) → Scanned
  | none => ⟨none, utf8 s⟩
  | some (b, r) => ⟨some (utf8 b), utf8 r⟩

theorem Bytes.groupBody_utf8 {search : Search} (h : search.FindsFirst) (s : List Char) :
    Bytes.groupBody search (utf8 s) = .ok (.ofChars s (Source.groupBody 0 s)) := by
  have hpos := closingBrace_utf8 h 0 [] s
  rw [List.nil_append, utf8_nil, List.length_nil] at hpos
  rw [Bytes.groupBody, hpos]
  cases hbody : Source.groupBody 0 s with
  | none => rfl
  | some x =>
    obtain ⟨b, r⟩ := x
    obtain ⟨rfl, -⟩ := groupBody_append hbody
    have hrest : cut (utf8 (b ++ r)) (utf8 b).length (utf8 (b ++ r)).length = .ok (utf8 r) := by
      simpa only [List.append_nil] using cut_utf8 b r []
    have hvalue : cut (utf8 (b ++ r)) 0 (utf8 b).length = .ok (utf8 b) := cut_utf8 [] b r
    simp only [bind, Except.bind, endOffset, Option.map_some, List.nil_append, hrest, hvalue]
    rfl

theorem Bytes.quoted_utf8 (s : List Char) :
    Bytes.quoted (utf8 s) = .ok (.ofChars s (Source.quoted s)) := by
  cases s with
  | nil => rfl
  | cons c s =>
    by_cases hc : c = '\"'
    · subst hc
      have hpos : closingQuote (utf8 ('\"' :: s)) 0 1 =
          .ok (endOffset ['\"'] (quotedBody 0 s)) := closingQuote_utf8 0 ['\"'] s
      rw [Bytes.quoted, if_pos (head?_utf8_cons (by decide) |>.2 rfl), hpos, Source.quoted,
        if_pos rfl]
      cases hbody : quotedBody 0 s with
      | none => rfl
      | some x =>
        obtain ⟨b, r⟩ := x
        obtain rfl := quotedBody_append hbody
        have hrest : cut (utf8 ('\"' :: (b ++ '\"' :: r))) ((utf8 ('\"' :: b)).length + 1)
            (utf8 ('\"' :: (b ++ '\"' :: r))).length = .ok (utf8 r) := by
          have hcut := cut_utf8 ('\"' :: b ++ ['\"']) r []
          rw [length_utf8_ascii (by decide)] at hcut
          simpa only [List.append_nil, List.append_assoc, List.cons_append, List.nil_append]
            using hcut
        have hvalue : cut (utf8 ('\"' :: (b ++ '\"' :: r))) 1 (utf8 ('\"' :: b)).length =
            .ok (utf8 b) := cut_utf8 ['\"'] b ('\"' :: r)
        simp only [bind, Except.bind, endOffset, Option.map_some, List.cons_append,
          List.nil_append, hrest, hvalue]
        rfl
    · have hhead : ¬(utf8 (c :: s)).head? = some '\"'.toUInt8 :=
        fun h => hc ((head?_utf8_cons (by decide)).1 h)
      rw [Bytes.quoted, if_neg hhead, Source.quoted, if_neg hc]
      rfl

/-- On the bytes of a text, no scanner leaves the input or cuts a character, and both read what
there is before the first stop outside all groups. Where there is none, the input stays. -/
theorem scanners_utf8 {search : Bytes.Search} (h : search.FindsFirst) (s : List Char) :
    (Bytes.groupBody search (utf8 s) = .ok (.ofChars s (groupBody 0 s)) ∧
      (∀ b r, groupBody 0 s = some (b, r) ↔ ∃ t, r = '}' :: t ∧ EndsFirst '}' .outside s b t) ∧
      (groupBody 0 s = none ↔ ¬∃ b t, EndsAt '}' .outside s b t)) ∧
    (Bytes.quoted (utf8 s) = .ok (.ofChars s (quoted s)) ∧
      (∀ b r, quoted s = some (b, r) ↔ ∃ t, s = '\"' :: t ∧ EndsFirst '\"' .outside t b r) ∧
      (quoted s = none ↔ ¬∃ t b r, s = '\"' :: t ∧ EndsAt '\"' .outside t b r)) :=
  ⟨⟨Bytes.groupBody_utf8 h s, fun _ _ => groupBody_eq_some_iff, groupBody_eq_none_iff⟩,
    Bytes.quoted_utf8 s, fun _ _ => quoted_eq_some_iff, quoted_eq_none_iff⟩

/-- A backslash in front of a letter of two bytes, and a brace behind that letter. -/
theorem scanners_utf8_accented :
    let search : Bytes.Search := fun x y z s => s.findIdx? fun b => b == x || b == y || b == z
    search.FindsFirst ∧
      Bytes.groupBody search (utf8 ['\\', 'é', '}', 'ß']) =
        .ok ⟨some (utf8 ['\\', 'é']), utf8 ['}', 'ß']⟩ ∧
      Bytes.quoted (utf8 ['\"', '\\', 'é', '\"', 'ß']) =
        .ok ⟨some (utf8 ['\\', 'é']), utf8 ['ß']⟩ := by
  intro search
  have hsearch : search.FindsFirst := fun _ _ _ _ => rfl
  have hgroup := (scanners_utf8 hsearch ['\\', 'é', '}', 'ß']).1.1
  have hquoted := (scanners_utf8 hsearch ['\"', '\\', 'é', '\"', 'ß']).2.1
  exact ⟨hsearch, hgroup.trans (congrArg _ (by decide)), hquoted.trans (congrArg _ (by decide))⟩

end Citation.Source
