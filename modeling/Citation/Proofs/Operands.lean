import Citation.Proofs.TypeNames
import Citation.Proofs.WellFormed

/-! Operands: the parts of a value as they stand in a source, a numeral in the spelling that it has
there. Entries and definitions of operands are read as such in every layout. -/
namespace Citation.Source
open Unicode Scanner

/-- A part of a value as the source has it. -/
inductive Operand
  | group (b : List Char) (h : Balanced b)
  /-- A string between quotes, none of which is open in it. -/
  | string (b : List Char) (h : quotedBody 0 (b ++ ['\"']) = some (b, []))
  | numeral (d : List Char) (h : IsNumeral d)
  | name (n : List Char) (h : IsReference n)

namespace Operand

def source : Operand → List Char
  | .group b _ => '{' :: (b ++ ['}'])
  | .string b _ => '\"' :: (b ++ ['\"'])
  | .numeral d _ => d
  | .name n _ => n

def value : Operand → Value
  | .group b _ => .literal b
  | .string b _ => .literal b
  | .numeral d _ => numberValue d
  | .name n _ => .reference n

end Operand

/-- Blanks of any number. -/
def IsBlanks (g : List Char) : Prop := ∀ c ∈ g, isBlank c = true

/-- Operands with `#` between them. -/
inductive SpelledValue : Operand → List Operand → List Char → Prop
  | one (o : Operand) : SpelledValue o [] o.source
  | more {o p : Operand} {ps : List Operand} {g g' s : List Char} (hg : IsBlanks g)
      (hg' : IsBlanks g') (hs : SpelledValue p ps s) :
      SpelledValue o (p :: ps) (o.source ++ (g ++ '#' :: (g' ++ s)))

/-- A name and the operands of its value. -/
structure Spelling where
  name : List Char
  isName : IsName name
  first : Operand
  more : List Operand

namespace Spelling

def value (a : Spelling) : Value := ofParts a.first.value (a.more.map Operand.value)

def field (a : Spelling) : Field := ⟨a.name, a.value⟩

end Spelling

inductive SpelledAssignment (a : Spelling) : List Char → Prop
  | mk {g g' s : List Char} (hg : IsSpacing g) (hg' : IsSpacing g')
      (hs : SpelledValue a.first a.more s) : SpelledAssignment a (a.name ++ (g ++ '=' :: (g' ++ s)))

/-- Fields with commas between them, and maybe one behind the last. -/
inductive SpelledFields : List Spelling → List Char → Prop
  | none {g : List Char} (hg : IsBlanks g) : SpelledFields [] g
  | last {a : Spelling} {g g' s : List Char} (hg : IsBlanks g) (hg' : IsBlanks g')
      (hs : SpelledAssignment a s) : SpelledFields [a] (g ++ (s ++ g'))
  | more {a : Spelling} {as : List Spelling} {g g' s t : List Char} (hg : IsBlanks g)
      (hg' : IsBlanks g') (hs : SpelledAssignment a s) (ht : SpelledFields as t) :
      SpelledFields (a :: as) (g ++ (s ++ (g' ++ ',' :: t)))

/-- The entry that a name of a type, a key and fields make. -/
def entryOf (t k : List Char) (as : List Spelling) : Entry :=
  ⟨.ofName t, k, as.map Spelling.field⟩

inductive SpelledEntry (t k : List Char) (as : List Spelling) : List Char → Prop
  | mk {g g₀ g₁ g₂ s : List Char} {o c : Char} (hg : IsSpacing g) (ht : IsTypeName t)
      (hg₀ : IsBlanks g₀) (ho : IsDelimiters o c) (hg₁ : IsSpacing g₁) (hk : IsKey k)
      (hg₂ : IsSpacing g₂) (hs : SpelledFields as s) :
      SpelledEntry t k as
        ('@' :: (g ++ (t ++ (g₀ ++ o :: (g₁ ++ (k ++ (g₂ ++ ',' :: (s ++ [c]))))))))

/-- A definition of a macro. -/
inductive SpelledDefinition (a : Spelling) : List Char → Prop
  | mk {g g₀ g₁ g₂ k s : List Char} {o c : Char} (hg : IsSpacing g)
      (hk : IsKeyword "string".toList k) (hg₀ : IsBlanks g₀) (ho : IsDelimiters o c)
      (hg₁ : IsSpacing g₁) (hs : SpelledAssignment a s) (hg₂ : IsSpacing g₂) :
      SpelledDefinition a ('@' :: (g ++ (k ++ (g₀ ++ o :: (g₁ ++ (s ++ (g₂ ++ [c])))))))

/-! Parts end where no name goes on, and values where no `#` follows. -/

/-- No name goes on with the text. It may begin with a form feed, which is blank and no spacing. -/
def EndsName (r : List Char) : Prop := ∀ c ∈ r.head?, isNameChar c = false

/-- No value goes on with the text. -/
def EndsValue (r : List Char) : Prop := EndsName r ∧ ∀ c ∈ (skipBlank r).head?, c ≠ '#'

theorem isBlanks_nil : IsBlanks [] := by simp [IsBlanks]

theorem IsSpacing.isBlanks {g : List Char} (h : IsSpacing g) : IsBlanks g :=
  fun c hc => isBlank_of_isSpacing (h c hc)

theorem skipBlank_blanks {g s : List Char} (hg : IsBlanks g) (hs : Solid s) :
    skipBlank (g ++ s) = s := by
  rw [skipBlank_append_of_blank hg, skipBlank_solid hs]

theorem endsName_blanks {g : List Char} (hg : IsBlanks g) {c : Char} (hc : isNameChar c = false)
    (t : List Char) : EndsName (g ++ c :: t) := by
  intro d hd
  cases g with
  | nil =>
    obtain rfl : c = d := Option.some.inj hd
    exact hc
  | cons b g =>
    obtain rfl : b = d := Option.some.inj hd
    exact eq_false_of_isBlank (by decide) (hg b (.head g))

theorem endsValue_blanks {g : List Char} (hg : IsBlanks g) {c : Char} (hc : isEnd c = true)
    (t : List Char) : EndsValue (g ++ c :: t) := by
  refine ⟨endsName_blanks hg (isNameChar_of_isStop (isStop_of_isEnd hc)) t, ?_⟩
  rw [skipBlank_blanks hg (.cons (isBlank_of_isEnd hc) t)]
  simpa using ne_hash_of_isEnd hc

theorem IsNumeral.number_append {d r : List Char} (h : IsNumeral d) (hr : EndsName r) :
    number (d ++ r) = some (d, r) := by
  have hend : ∀ c ∈ r.head?, c.isDigit = false := by
    intro c hc
    rw [Bool.eq_false_iff]
    intro hdigit
    have hname := hr c hc
    rw [isNameChar_of_isDigit hdigit] at hname
    cases hname
  have hsign : sign (d ++ r) = ((sign d).1, (sign d).2 ++ r) := by
    have happend := sign_append_of_ne_nil (s := d) (r := []) (List.append_nil _).symm h.1 r
    rwa [← List.append_assoc, sign_append] at happend
  rw [number, hsign, run_append h.1 h.2 hend]
  simp [sign_append]

theorem IsReference.number_append {n r : List Char} (h : IsReference n) (hr : EndsName r) :
    number (n ++ r) = none := by
  obtain ⟨⟨hne, -⟩, hnumeric, hsigned⟩ := h
  rw [number_eq_none_iff]
  have hdigit : ∀ c, isNumeric c = false ∨ isNameChar c = false → c.isDigit = false := by
    intro c hc
    rw [Bool.eq_false_iff]
    intro hdigit
    rw [isNumeric_of_isDigit hdigit, isNameChar_of_isDigit hdigit] at hc
    simp at hc
  cases n with
  | nil => exact absurd rfl hne
  | cons c n =>
    by_cases hc : c = '+' ∨ c = '-'
    · simp only [List.cons_append, sign, hc, if_true] at hsigned ⊢
      cases n with
      | nil => exact fun d hd => hdigit d (.inr (hr d hd))
      | cons d n => exact hsigned (by simp)
    · simp only [List.cons_append, sign, hc, if_false]
      simpa using hdigit c (.inl (hnumeric c rfl))

theorem Operand.part_append (o : Operand) {r : List Char} (hr : EndsName r) :
    part (o.source ++ r) = some (o.value, r) := by
  cases o with
  | group b h =>
    have hbraced : braced ('{' :: (b ++ '}' :: r)) = some (b, r) := h.braced_append r
    simp [source, value, part, quoted_cons, hbraced]
  | string b h =>
    have hquoted : quoted ('\"' :: (b ++ '\"' :: r)) = some (b, r) := by
      simpa [quoted] using closed_quotedBody h r
    simp [source, value, part, hquoted]
  | numeral d h =>
    have hnumber := h.number_append hr
    have hhead := head_of_number hnumber
    have hquoted : quoted (d ++ r) = none := quoted_eq_none fun c hc => .inl (hhead c hc)
    simp only [source, value, part, hquoted, braced_eq_none hhead, hnumber]
  | name n h =>
    have hread : reference (n ++ r) = some (.reference n, r) := by
      have hname : Source.name (n ++ r) = some (n, r) := run_append h.1.1 h.1.2 hr
      cases n with
      | nil => exact absurd rfl h.1.1
      | cons c n =>
        have hnumeric : isNumeric c = false := h.2.1 c rfl
        rw [List.cons_append] at hname ⊢
        simp [reference, hnumeric, hname]
    have hhead := head_of_reference hread
    have hquoted : quoted (n ++ r) = none := quoted_eq_none fun c hc => .inl (hhead c hc)
    simp only [source, value, part, hquoted, braced_eq_none hhead, h.number_append hr, hread]

theorem IsNumeral.solid {d : List Char} (h : IsNumeral d) : Solid d := by
  cases d with
  | nil => exact absurd rfl h.1
  | cons c d =>
    refine .cons ?_ d
    rcases h.mem (.head d) with rfl | rfl | hc
    · rfl
    · rfl
    · exact isBlank_of_isDigit hc

theorem Operand.solid (o : Operand) : Solid o.source := by
  cases o with
  | group b h => exact .cons rfl _
  | string b h => exact .cons rfl _
  | numeral d h => exact h.solid
  | name n h => exact h.1.solid

theorem SpelledValue.solid {o : Operand} {os : List Operand} {s : List Char}
    (h : SpelledValue o os s) : Solid s := by
  cases h with
  | one => exact o.solid
  | more => exact o.solid.append _

/-- Operands are read part by part, the first one first. -/
theorem SpelledValue.parts_append {o : Operand} {os : List Operand} {s : List Char}
    (h : SpelledValue o os s) {r : List Char} (hr : EndsValue r) :
    ∃ t, part (s ++ r) = some (o.value, t) ∧ moreParts t = some (os.map Operand.value, r) := by
  induction h with
  | one o => exact ⟨r, o.part_append hr.1, moreParts_of_end hr.2⟩
  | @more o p ps g g' s hg hg' hs ih =>
    -- What stands behind the first operand begins with a blank or with `#`, and ends it.
    obtain ⟨t, hpart, hmore⟩ := ih
    have hhash : skipBlank (g ++ '#' :: (g' ++ (s ++ r))) = '#' :: (g' ++ (s ++ r)) :=
      skipBlank_blanks hg (.cons rfl _)
    have hnext : part (skipBlank (g' ++ (s ++ r))) = some (p.value, t) := by
      rw [skipBlank_blanks hg' (hs.solid.append r), hpart]
    refine ⟨g ++ '#' :: (g' ++ (s ++ r)), ?_, ?_⟩
    · simpa using o.part_append (endsName_blanks hg (by decide) (g' ++ (s ++ r)))
    · rw [moreParts_of_part hhash hnext, hmore]
      rfl

theorem SpelledValue.append {o : Operand} {os : List Operand} {s : List Char}
    (h : SpelledValue o os s) {r : List Char} (hr : EndsValue r) :
    value (s ++ r) = some (ofParts o.value (os.map Operand.value), r) := by
  obtain ⟨t, hpart, hmore⟩ := h.parts_append hr
  rw [value_of_part hpart, mapped, hmore]
  rfl

/-! Assignments and fields. -/

theorem SpelledAssignment.solid {a : Spelling} {s : List Char} (h : SpelledAssignment a s) :
    Solid s := by
  cases h with
  | mk => exact a.isName.solid.append _

theorem SpelledAssignment.append {a : Spelling} {s : List Char} (h : SpelledAssignment a s)
    {g r : List Char} (hg : IsSpacing g) (hr : EndsValue r) :
    assignment (g ++ (s ++ r)) = some ((a.name, a.value), skipSpacing r) := by
  cases h with
  | @mk g₁ g₂ s hg₁ hg₂ hs =>
    have hequals : Solid ('=' :: (g₂ ++ (s ++ r))) := .cons rfl _
    have hname : padded name (g ++ (a.name ++ (g₁ ++ '=' :: (g₂ ++ (s ++ r))))) =
        some (a.name, '=' :: (g₂ ++ (s ++ r))) :=
      padded_append hg a.isName.solid hg₁ hequals
        (run_append a.isName.1 a.isName.2 (endsName_blanks hg₁.isBlanks (by decide) _))
    have hchar : padded (char '=') ('=' :: (g₂ ++ (s ++ r))) = some ('=', s ++ r) := by
      have hread := padded_char_append (g := []) isSpacing_nil (c := '=') rfl (g₂ ++ (s ++ r))
      rwa [skipSpacing_append hg₂ (hs.solid.append r)] at hread
    have hstart : skipSpacing (s ++ r) = s ++ r :=
      skipSpacing_append isSpacing_nil (hs.solid.append r)
    have hvalue : padded value (s ++ r) = some (a.value, skipSpacing r) :=
      padded_eq_some.2 ⟨r, hstart.symm ▸ hs.append hr, rfl⟩
    simp only [List.append_assoc, List.cons_append]
    simp only [assignment, hname, hchar, hvalue, Option.map_some]

theorem SpelledAssignment.field_append {a : Spelling} {s : List Char} (h : SpelledAssignment a s)
    {r : List Char} (hr : EndsValue r) : field (s ++ r) = some (a.field, skipSpacing r) := by
  have hread := h.append (g := []) isSpacing_nil hr
  rw [List.nil_append] at hread
  rw [field, hread]
  rfl

/-- A field in front of another or of the closing delimiter is read, and then what follows. -/
theorem SpelledAssignment.fields_append {a : Spelling} {s : List Char} (h : SpelledAssignment a s)
    {g g' : List Char} (hg : IsBlanks g) (hg' : IsBlanks g') {o close c : Char}
    (ho : IsDelimiters o close) (hc : isEnd c = true) (t : List Char) :
    fields close (g ++ (s ++ (g' ++ c :: t))) =
      if c = ',' then (fields close t).map fun (fs, r) => (a.field :: fs, r)
      else if c = close then some ([a.field], c :: t)
      else none := by
  have hskip : skipBlank (g ++ (s ++ (g' ++ c :: t))) = s ++ (g' ++ c :: t) :=
    skipBlank_blanks hg (h.solid.append _)
  have hfirst : (skipBlank (g ++ (s ++ (g' ++ c :: t)))).head? ≠ some close := by
    rw [hskip]
    cases h with
    | mk =>
      intro hhead
      have hclose : isNameChar close = true := by
        apply a.isName.2
        cases hn : a.name with
        | nil => exact absurd hn a.isName.1
        | cons d n => simp_all
      rw [isNameChar_of_isStop (isStop_of_isEnd ho.isEnd)] at hclose
      cases hclose
  have hread : field (skipBlank (g ++ (s ++ (g' ++ c :: t)))) =
      some (a.field, skipSpacing (g' ++ c :: t)) := by
    rw [hskip, h.field_append (endsValue_blanks hg' hc t)]
  rw [fields_of_field hfirst hread, skipBlank_skipSpacing,
    skipBlank_blanks hg' (.cons (isBlank_of_isEnd hc) t)]

theorem SpelledFields.append {as : List Spelling} {s : List Char} (h : SpelledFields as s)
    {o close : Char} (ho : IsDelimiters o close) (t : List Char) :
    fields close (s ++ close :: t) = some (as.map Spelling.field, close :: t) := by
  have hcomma : close ≠ ',' := by cases ho <;> decide
  induction h with
  | none hg =>
    apply fields_of_close
    rw [skipBlank_blanks hg (.cons (isBlank_of_isEnd ho.isEnd) t)]
  | last hg hg' hs =>
    simp [hs.fields_append hg hg' ho ho.isEnd t, hcomma]
  | @more a as g g' s u hg hg' hs hu ih =>
    have hread := hs.fields_append hg hg' ho (c := ',') rfl (u ++ close :: t)
    rw [if_pos rfl, ih] at hread
    simpa using hread

/-! Entries and definitions. -/

theorem SpelledEntry.append {t k : List Char} {as : List Spelling} {s : List Char}
    (h : SpelledEntry t k as s) (r : List Char) :
    item (s ++ r) = some (.entry (entryOf t k as), skipSpacing r) := by
  cases h with
  | @mk g g₀ g₁ g₂ s o c hg ht hg₀ ho hg₁ hk hg₂ hs =>
    simp only [List.cons_append, List.append_assoc, List.nil_append]
    obtain ⟨hname, hplain⟩ := isTypeName_iff.1 ht
    have hopen : isNameChar o = false := isNameChar_of_isStop ho.isStop_opening
    have hend : EndsName (g₀ ++ o :: (g₁ ++ (k ++ (g₂ ++ ',' :: (s ++ c :: r))))) :=
      endsName_blanks hg₀ hopen _
    have hentry : entry (t ++ (g₀ ++ o :: (g₁ ++ (k ++ (g₂ ++ ',' :: (s ++ c :: r)))))) =
        some (entryOf t k as, skipSpacing r) := by
      have hopening : opening (skipBlank (g₀ ++ o :: (g₁ ++ (k ++ (g₂ ++ ',' :: (s ++ c :: r)))))) =
          some (c, g₁ ++ (k ++ (g₂ ++ ',' :: (s ++ c :: r)))) := by
        rw [skipBlank_blanks hg₀ (.cons ho.isBlank_opening _), opening_of_isDelimiters ho]
      have hkey : padded entryKey (g₁ ++ (k ++ (g₂ ++ ',' :: (s ++ c :: r)))) =
          some (k, ',' :: (s ++ c :: r)) :=
        padded_append hg₁ hk.solid hg₂ (.cons rfl _)
          (entryKey_append hk (.spacing hg₂ (.cons rfl _)))
      have hfields := hs.append ho r
      have hread : name (t ++ (g₀ ++ o :: (g₁ ++ (k ++ (g₂ ++ ',' :: (s ++ c :: r)))))) =
          some (t, g₀ ++ o :: (g₁ ++ (k ++ (g₂ ++ ',' :: (s ++ c :: r))))) :=
        run_append hname.1 hname.2 hend
      simp only [entry, hread, hopening, hkey, fieldsAfterKey, if_true, hfields, padded_close ho,
        Option.map_some, entryOf]
    rw [item_of_block hg (hname.solid.append _), ← item_of_solid (hname.solid.append _),
      item_eq_entry hname hplain hend, mapped, hentry]
    rfl

theorem SpelledDefinition.append {a : Spelling} {s : List Char} (h : SpelledDefinition a s)
    (r : List Char) : item (s ++ r) = some (.definition a.name a.value, skipSpacing r) := by
  cases h with
  | @mk g g₀ g₁ g₂ k s o c hg hk hg₀ ho hg₁ hs hg₂ =>
    simp only [List.cons_append, List.append_assoc, List.nil_append]
    have hend : EndsName (g₀ ++ o :: (g₁ ++ (s ++ (g₂ ++ c :: r)))) :=
      endsName_blanks hg₀ (isNameChar_of_isStop ho.isStop_opening) _
    have hkeyword := keyword_eq_some_iff.2 ⟨rfl, hk, fun d hd => endsKeyword (hend d hd)⟩
    have hcomment := IsKeyword.keyword_eq_none (v := "comment") (by decide) (by decide) (by decide)
      hk (g₀ ++ o :: (g₁ ++ (s ++ (g₂ ++ c :: r))))
    have hassignment : assignment (g₁ ++ (s ++ (g₂ ++ c :: r))) =
        some ((a.name, a.value), c :: r) := by
      have hread := hs.append hg₁ (endsValue_blanks hg₂.isBlanks ho.isEnd r)
      rwa [skipSpacing_append hg₂ (.cons (isBlank_of_isEnd ho.isEnd) r)] at hread
    have hbody : delimited assignment (g₀ ++ o :: (g₁ ++ (s ++ (g₂ ++ c :: r)))) =
        some ((a.name, a.value), skipSpacing r) := by
      rw [delimited, skipBlank_blanks hg₀ (.cons ho.isBlank_opening _), opening_of_isDelimiters ho]
      simp only [hassignment, padded_close ho, Option.map_some]
    rw [item_of_block hg ((IsKeyword.solid (by decide) hk).append _)]
    simp only [block, hcomment, hkeyword, hbody, Option.map_some]

end Citation.Source
