import Citation.Proofs.Isolation
import Citation.Proofs.MacroScope
import Citation.Proofs.Operands

/-! Numerals keep their text. A database has them as the source spells them, in a field, in a
concatenation and through a macro, and it has one as a number only if this is how the number is
written. -/
namespace Citation
open Source Macros

namespace Value

/-- A value that a text is kept as: itself, or the number in 64 bits that is written so. -/
def Keeps (w : Value) (s : List Char) : Prop :=
  w = .literal s ∨ ∃ n, w = .number n ∧ decimal n = s ∧
    -9223372036854775808 ≤ n ∧ n ≤ 9223372036854775807

theorem Keeps.isText {w : Value} {s : List Char} (h : w.Keeps s) : w.IsText s :=
  h.imp_right fun ⟨n, hw, hn, _⟩ => ⟨n, hw, hn⟩

theorem keeps_numberValue (d : List Char) : (numberValue d).Keeps d := by
  unfold numberValue
  simp only
  split
  · next h => exact .inr ⟨_, rfl, h.2.2, h.1, h.2.1⟩
  · exact .inl rfl

end Value

/-! The text of operands. -/

namespace Source

namespace Operand

/-- The text of an operand, with `f` for the texts of names. -/
def text (f : List Char → List Char) : Operand → List Char
  | .group b _ => b
  | .string b _ => b
  | .numeral d _ => d
  | .name n _ => f n

def name? : Operand → Option (List Char)
  | .name n _ => some n
  | _ => none

end Operand

namespace Spelling

def operands (a : Spelling) : List Operand := a.first :: a.more

def names (a : Spelling) : List (List Char) := a.operands.filterMap Operand.name?

def text (f : List Char → List Char) (a : Spelling) : List Char := a.operands.flatMap (·.text f)

end Spelling

section
variable {f : List Char → List Char} {g : List Char → Value}

/-- An operand keeps its text if a name does. -/
theorem Operand.keeps_substitute {o : Operand} (h : ∀ n ∈ o.name?, (g n).Keeps (f n)) :
    (o.value.substitute g).Keeps (o.text f) := by
  cases o with
  | group b hb => exact .inl rfl
  | string b hb => exact .inl rfl
  | numeral d hd =>
    have hkeeps := Value.keeps_numberValue d
    rw [Operand.value, hkeeps.isText.substitute g]
    exact hkeeps
  | name n hn => exact h n rfl

theorem textAll_operands {os : List Operand}
    (h : ∀ n ∈ os.filterMap Operand.name?, (g n).Keeps (f n)) :
    Value.textAll ((os.map Operand.value).map (Value.substitute g)) =
      some (os.flatMap (·.text f)) := by
  induction os with
  | nil => rfl
  | cons o os ih =>
    have ho : (o.value.substitute g).Keeps (o.text f) := by
      refine Operand.keeps_substitute fun n hn => h n ?_
      exact List.mem_filterMap.2 ⟨o, .head os, hn⟩
    have hos := ih fun n hn => h n (((List.sublist_cons_self o os).filterMap _).subset hn)
    rw [List.map_cons, List.map_cons, Value.textAll, ho.isText.text, hos]
    rfl

theorem Spelling.keeps_substitute {a : Spelling} (h : ∀ n ∈ a.names, (g n).Keeps (f n)) :
    (a.value.substitute g).Keeps (a.text f) := by
  cases hmore : a.more with
  | nil =>
    have hfirst : (a.first.value.substitute g).Keeps (a.first.text f) := by
      refine Operand.keeps_substitute fun n hn => h n ?_
      exact List.mem_filterMap.2 ⟨a.first, .head _, hn⟩
    simpa [Spelling.value, Spelling.text, Spelling.operands, hmore, ofParts] using hfirst
  | cons o os =>
    have hvalue : a.value = .concat (a.operands.map Operand.value) := by
      simp [Spelling.value, Spelling.operands, hmore, ofParts]
    rw [hvalue, Value.substitute, Value.substituteAll_eq_map, Value.flattened, textAll_operands h]
    exact .inl rfl

end

/-! Texts in front of an item. -/

/-- Before any item, the text is read as the items of a list. -/
def LeadsTo (a : List Char) (is : List Item) : Prop :=
  ∀ x, items (a ++ '@' :: x) = (items ('@' :: x)).map (is ++ ·)

theorem leadsTo_of_items {a : List Char} {is : List Item} (h : items a = .ok is)
    (hlast : ∀ i ∈ is.getLast?, i.isComment = false) : LeadsTo a is :=
  fun x => items_append a ('@' :: x) is h hlast

/-- A text cannot be read in two ways. -/
theorem LeadsTo.unique {a : List Char} {is js : List Item} (his : LeadsTo a is)
    (hjs : LeadsTo a js) : is = js := by
  have hitem : items "@comment".toList = .ok [.comment []] := by
    rw [items_of_item (i := .comment []) (r := []) rfl rfl, items_of_nil rfl]
    rfl
  have hboth := (his "comment".toList).symm.trans (hjs "comment".toList)
  change (items "@comment".toList).map (is ++ ·) = (items "@comment".toList).map (js ++ ·) at hboth
  rw [hitem] at hboth
  exact List.append_cancel_right (Except.ok.inj hboth)

/-- An item that takes no more than spacing behind it is read, and then what follows. -/
theorem items_append_of_item {t r : List Char} {i : Item}
    (h : item ('@' :: (t ++ r)) = some (i, skipSpacing r)) :
    items ('@' :: (t ++ r)) = (items r).map (i :: ·) := by
  rw [items_of_item (skipBlank_solid (.cons rfl _)) h, items_congr (skipBlank_skipSpacing r)]

theorem SpelledDefinition.eq_cons {d : Spelling} {s : List Char} (h : SpelledDefinition d s) :
    ∃ t, s = '@' :: t := by
  cases h
  exact ⟨_, rfl⟩

theorem SpelledEntry.eq_cons {t k : List Char} {as : List Spelling} {s : List Char}
    (h : SpelledEntry t k as s) : ∃ u, s = '@' :: u := by
  cases h
  exact ⟨_, rfl⟩

theorem SpelledDefinition.items_append {d : Spelling} {s : List Char} (h : SpelledDefinition d s)
    (r : List Char) : items (s ++ r) = (items r).map (.definition d.name d.value :: ·) := by
  obtain ⟨t, rfl⟩ := h.eq_cons
  exact items_append_of_item (h.append r)

theorem SpelledEntry.items_append {t k : List Char} {as : List Spelling} {s : List Char}
    (h : SpelledEntry t k as s) (r : List Char) :
    items (s ++ r) = (items r).map (.entry (entryOf t k as) :: ·) := by
  obtain ⟨u, rfl⟩ := h.eq_cons
  exact items_append_of_item (h.append r)

/-- A definition between two texts in front of an item. -/
theorem LeadsTo.definition {a c s : List Char} {is js : List Item} {d : Spelling}
    (ha : LeadsTo a is) (hs : SpelledDefinition d s) (hc : LeadsTo c js) :
    LeadsTo (a ++ (s ++ c)) (is ++ .definition d.name d.value :: js) := by
  intro x
  obtain ⟨t, rfl⟩ := hs.eq_cons
  have hread := ha (t ++ (c ++ '@' :: x))
  rw [← List.cons_append, hs.items_append, hc x] at hread
  rw [List.append_assoc, List.append_assoc, hread]
  cases items ('@' :: x) <;> simp [Except.map]

/-- A text in front of an item that defines a macro, by operands none of which is a name. It has the
text of these in the items that follow, unless it is defined anew. -/
inductive Introduces (m : List Char) : List Char → List Char → Prop
  | mk {a c s : List Char} {is js : List Item} {d : Spelling} (ha : LeadsTo a is)
      (hs : SpelledDefinition d s) (hc : LeadsTo c js) (hname : nameOf d.name = nameOf m)
      (hplain : d.names = []) (hlast : Undefined (nameOf m) js) :
      Introduces m (d.text id) (a ++ (s ++ c))

end Source

namespace Macros

theorem meaning_of_keeps {ms : Macros} {name s : List Char} {w : Value}
    (hfind : ms.find name = some w) (hw : w.Keeps s) : ms.meaning ms.names name = w := by
  have hfree : nameOf name ∈ ms.names := List.mem_map.2 ⟨_, mem_of_find hfind, rfl⟩
  rw [meaning]
  simp only [hfind, hfree, dite_true]
  exact hw.isText.substitute _

end Macros

namespace Database

/-- Behind its definition, a macro stands for a value that keeps the text of its operands. -/
theorem meaning_of_introduces {m t a : List Char} {is : List Item} (h : Introduces m t a)
    (ha : LeadsTo a is) :
    ((ofItems is).macros.meaning (ofItems is).macros.names m).Keeps t := by
  cases h with
  | @mk a c s is' js d ha' hs hc hname hplain hlast =>
    obtain rfl := ha.unique (ha'.definition hs hc)
    have hkeeps : ((ofItems is').macros.expand d.value).Keeps (d.text id) :=
      Spelling.keeps_substitute (by simp [hplain])
    have hfind : (ofItems (is' ++ .definition d.name d.value :: js)).macros.find m =
        some ((ofItems is').macros.expand d.value) := by
      rw [ofItems_append, List.foldl_cons, find_foldl hlast, find_congr hname.symm]
      exact find_define _ _ _
    rw [meaning_of_keeps hfind hkeeps]
    exact hkeeps

end Database

/-- The text under a name is that of the first field of this name. -/
theorem Entry.text_of_first {e : Entry} {i : Nat} {f : Field} (hf : e.fields[i]? = some f)
    (hfirst : ∀ g ∈ e.fields.take i, sameName g.name f.name = false) :
    e.text f.name = f.value.text := by
  have hfind : e.find f.name = some f := by
    have hnone : (e.fields.take i).find? (fun g => sameName g.name f.name) = none := by
      simpa using hfirst
    have hdrop : e.fields.drop i = f :: e.fields.drop (i + 1) :=
      List.drop_eq_getElem?_toList_append.trans (by rw [hf]; rfl)
    rw [Entry.find, ← List.take_append_drop i e.fields, List.find?_append, hnone, hdrop]
    simp [sameName_self]
  rw [Entry.text, hfind]
  rfl

namespace Database

/-- Wherever an entry stands in a source, and however it is laid out, a field has the texts of its
operands one behind the other, and with them each numeral as the source has it, also one that a
macro brings. It is kept as a number only if it is one in 64 bits as this is written. -/
theorem parse_numerals {a b s t k : List Char} {is ks : List Item} {as : List Spelling}
    {x : Spelling} {i : Nat} {f : List Char → List Char} (ha : LeadsTo a is)
    (hs : SpelledEntry t k as s) (hb : Source.parse b = .ok ks) (hx : as[i]? = some x)
    (hnames : ∀ n ∈ x.names, Introduces n (f n) a) :
    ∃ db e w, parse (a ++ (s ++ b)) = .ok db ∧
      db.entries[(ofItems is).entries.length]? = some e ∧ e.type = .ofName t ∧ e.key = k ∧
      e.fields[i]? = some ⟨x.name, w⟩ ∧ w.text = some (x.text f) ∧
      ((∀ y ∈ as.take i, sameName y.name x.name = false) → e.text x.name = some (x.text f)) ∧
      ∀ n, w = .number n → decimal n = x.text f ∧
        -9223372036854775808 ≤ n ∧ n ≤ 9223372036854775807 := by
  have hitems : items (a ++ (s ++ b)) = .ok (is ++ .entry (entryOf t k as) :: ks) := by
    obtain ⟨u, rfl⟩ := hs.eq_cons
    have hread := ha (u ++ b)
    rw [← List.cons_append, hs.items_append, parse_eq_ok_iff.1 hb] at hread
    exact hread
  obtain ⟨after, -, hentries⟩ := (oneMore_ofItems is ks (entryOf t k as)).entries
  have hfield : (expandEntry (ofItems is).macros (entryOf t k as)).fields[i]? =
      some ⟨x.name, (ofItems is).macros.expand x.value⟩ := by
    simp [expandEntry, entryOf, hx, Spelling.field, expandField]
  have hkeeps : ((ofItems is).macros.expand x.value).Keeps (x.text f) :=
    Spelling.keeps_substitute fun n hn => meaning_of_introduces (hnames n hn) ha
  refine ⟨ofItems (is ++ .entry (entryOf t k as) :: ks),
    expandEntry (ofItems is).macros (entryOf t k as), _, ?_, ?_, rfl, rfl, hfield,
    hkeeps.isText.text, fun hfirst => ?_, fun n hn => ?_⟩
  · rw [parse, parse_eq_ok_iff.2 hitems]
    rfl
  · rw [hentries]
    simp
  · have hnone : ∀ g ∈ (expandEntry (ofItems is).macros (entryOf t k as)).fields.take i,
        sameName g.name x.name = false := by
      intro g hg
      simp only [expandEntry, entryOf, ← List.map_take, List.mem_map] at hg
      obtain ⟨_, ⟨y, hy, rfl⟩, rfl⟩ := hg
      exact hfirst y hy
    exact (Entry.text_of_first hfield hnone).trans hkeeps.isText.text
  · obtain hw | ⟨m, hw, hm⟩ := hkeeps
    · cases hn.symm.trans hw
    · cases hn.symm.trans hw
      exact hm

/-- A macro whose value is a numeral with zeros in front. -/
def paddedSeven : Spelling := ⟨"m".toList, by decide, .numeral "007".toList (by decide), []⟩

def plainYear : Spelling := ⟨"year".toList, by decide, .numeral "2000".toList (by decide), []⟩

/-- The macro in another case, a zero with a sign, a group, and a number that is too great. -/
def oddNote : Spelling :=
  ⟨"note".toList, by decide, .name "M".toList (by decide),
    [.numeral "-0".toList (by decide), .group "a".toList (by decide),
      .numeral "9223372036854775808".toList (by decide)]⟩

def paddedSource : List Char := "@string\x7bm = 007\x7d\n".toList

def numeralsSource : List Char :=
  "@misc\x7bk, year = 2000, note = M # -0#\x7ba\x7d # 9223372036854775808\x7d".toList

theorem isSpacing_space : IsSpacing [' '] := List.forall_mem_singleton.2 rfl

theorem introduces_paddedSeven : Introduces "M".toList "007".toList paddedSource ∧
    LeadsTo paddedSource [.definition "m".toList (.literal "007".toList)] := by
  have hnil : LeadsTo [] [] := leadsTo_of_items (items_of_nil rfl) (by simp)
  have hfeed : LeadsTo ['\n'] [] := leadsTo_of_items (items_of_nil rfl) (by simp)
  have hkeyword : IsKeyword "string".toList "string".toList := by simp [IsKeyword, sameName]
  have hassignment : SpelledAssignment paddedSeven ("m".toList ++ ([' '] ++ '=' :: ([' '] ++ _))) :=
    .mk isSpacing_space isSpacing_space (.one paddedSeven.first)
  have hdefinition : SpelledDefinition paddedSeven "@string\x7bm = 007\x7d".toList :=
    .mk isSpacing_nil hkeyword isBlanks_nil .braces isSpacing_nil hassignment isSpacing_nil
  exact ⟨.mk hnil hdefinition hfeed (by decide) rfl (by simp [Undefined]),
    hnil.definition hdefinition hfeed⟩

theorem spelledEntry_numerals :
    SpelledEntry "misc".toList "k".toList [plainYear, oddNote] numeralsSource := by
  have hyear : SpelledAssignment plainYear ("year".toList ++ ([' '] ++ '=' :: ([' '] ++ _))) :=
    .mk isSpacing_space isSpacing_space (.one plainYear.first)
  have hnote : SpelledAssignment oddNote ("note".toList ++ ([' '] ++ '=' :: ([' '] ++ _))) :=
    .mk isSpacing_space isSpacing_space
      (.more isSpacing_space.isBlanks isSpacing_space.isBlanks
        (.more isBlanks_nil isBlanks_nil
          (.more isSpacing_space.isBlanks isSpacing_space.isBlanks (.one _))))
  exact .mk isSpacing_nil (by decide) isBlanks_nil .braces isSpacing_nil (by decide) isSpacing_nil
    (.more isSpacing_space.isBlanks isBlanks_nil hyear
      (.last isSpacing_space.isBlanks isBlanks_nil hnote))

/-- A plain number, and a concatenation that keeps odd numerals, one of them from a macro. -/
theorem parse_numerals_odd :
    let source := paddedSource ++ (numeralsSource ++ [])
    (Introduces "M".toList "007".toList paddedSource ∧
      SpelledEntry "misc".toList "k".toList [plainYear, oddNote] numeralsSource) ∧
    (∃ db e w, parse source = .ok db ∧ db.entries[0]? = some e ∧
      e.fields[0]? = some ⟨"year".toList, w⟩ ∧ ∀ n, w = .number n → decimal n = "2000".toList) ∧
    ∃ db e, parse source = .ok db ∧ db.entries[0]? = some e ∧
      e.text "note".toList = some "007-0a9223372036854775808".toList := by
  intro source
  obtain ⟨hintroduces, hleads⟩ := introduces_paddedSeven
  have hnil : Source.parse [] = .ok [] := parse_eq_ok_iff.2 (items_of_nil rfl)
  have hnames : ∀ n ∈ oddNote.names, Introduces n "007".toList paddedSource :=
    List.forall_mem_singleton.2 hintroduces
  obtain ⟨db, e, w, hparse, hentry, -, -, hfield, -, -, hnumber⟩ :=
    parse_numerals (i := 0) (f := id) hleads spelledEntry_numerals hnil rfl
      (fun n (hn : n ∈ []) => nomatch hn)
  obtain ⟨db', e', w', hparse', hentry', -, -, -, -, htext, -⟩ :=
    parse_numerals (i := 1) (f := fun _ => "007".toList) hleads spelledEntry_numerals hnil rfl
      hnames
  exact ⟨⟨hintroduces, spelledEntry_numerals⟩,
    ⟨db, e, w, hparse, hentry, hfield, fun n hn => (hnumber n hn).1⟩,
    db', e', hparse', hentry', htext (by decide)⟩

end Database

end Citation
