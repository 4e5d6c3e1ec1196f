import Citation.Entry
import Citation.Proofs.Words

/-! Looking up the fields of an entry: names in any ASCII case find the same field, and the fields
of one name can be taken out without a trace. -/
namespace Citation

theorem trim_of_whitespace {s : List Char} (h : ∀ c ∈ s, isWhitespace c = true) : trim s = [] := by
  have hstart : trimStart s = [] := List.dropWhile_eq_nil_iff.2 h
  simp [trim, hstart, trimEnd]

theorem wordsOf_of_whitespace {s : List Char} (h : ∀ c ∈ s, isWhitespace c = true) :
    wordsOf s = [] :=
  wordsOf_gaps fun c hc => isGap_of_isWhitespace (h c hc)

namespace Entry

/-- The entry without the fields of a name. -/
def without (e : Entry) (name : List Char) : Entry :=
  { e with fields := e.fields.filter fun f => !sameName f.name name }

/-- A field has a text, and the text is white space at most. -/
def Blank (e : Entry) (name : List Char) : Prop :=
  ∃ s, e.text name = some s ∧ ∀ c ∈ s, isWhitespace c = true

variable {e : Entry} {name : List Char}

theorem find_congr {a b : List Char} (h : sameName a b = true) (e : Entry) :
    e.find a = e.find b := by
  simp only [find, sameName_congr h]

theorem find_without_of_same {other : List Char} (h : sameName other name = true) :
    (e.without name).find other = none := by
  rw [find_congr h]
  simp [find, without]

theorem find_without_of_other {other : List Char} (h : sameName other name = false) :
    (e.without name).find other = e.find other := by
  have hne : ∀ f : Field, sameName f.name other = true → sameName f.name name = false := by
    intro f hf
    rw [sameName_iff] at hf
    rw [← h]
    simp only [sameName, hf]
  simp only [find, without, List.find?_filter]
  congr 1
  funext f
  cases hf : sameName f.name other with
  | false => simp
  | true => simp [hne f hf]

theorem persons_of_blank (h : e.Blank name) : e.persons name = none := by
  obtain ⟨s, hs, hblank⟩ := h
  simp [persons, hs, Person.parseList, wordsOf_of_whitespace hblank, pieces]

theorem Blank.of_same {other : List Char} (h : e.Blank name) (hn : sameName other name = true) :
    e.Blank other := by
  unfold Blank text at *
  rwa [find_congr hn]

end Entry
end Citation
