import Citation.Entry
import Citation.Error
import Citation.Latex.Decode
import Citation.Unicode.Case

/-! The order of a bibliography. -/
namespace Citation

inductive Sorting
  | authorYearTitle
  /-- The order of the database. -/
  | asGiven
  deriving DecidableEq

/-- Lexicographic order: a start of a list comes before the list. -/
def lexLe {α : Type} [DecidableEq α] (le : α → α → Bool) : List α → List α → Bool
  | [], _ => true
  | _ :: _, [] => false
  | a :: s, b :: t => if a = b then lexLe le s t else le a b

/-- The order of texts by code points. -/
def textLe : List Char → List Char → Bool := lexLe fun c d => Nat.ble c.toNat d.toNat

theorem lexLe_total {α : Type} [DecidableEq α] {le : α → α → Bool}
    (total : ∀ a b, (le a b || le b a) = true) (s t : List α) :
    (lexLe le s t || lexLe le t s) = true := by
  induction s generalizing t with
  | nil => simp [lexLe]
  | cons a s ih =>
    cases t with
    | nil => simp [lexLe]
    | cons b t =>
      by_cases h : a = b
      · simpa [lexLe, h] using ih t
      · simpa [lexLe, h, Ne.symm h] using total a b

theorem lexLe_antisymm {α : Type} [DecidableEq α] {le : α → α → Bool}
    (antisymm : ∀ a b, le a b = true → le b a = true → a = b) {s t : List α}
    (hst : lexLe le s t = true) (hts : lexLe le t s = true) : s = t := by
  induction s generalizing t with
  | nil => cases t with
    | nil => rfl
    | cons b t => simp [lexLe] at hts
  | cons a s ih =>
    cases t with
    | nil => simp [lexLe] at hst
    | cons b t =>
      by_cases h : a = b
      · subst h
        simp only [lexLe, ↓reduceIte] at hst hts
        rw [ih hst hts]
      · simp only [lexLe, h, Ne.symm h, ↓reduceIte] at hst hts
        exact absurd (antisymm a b hst hts) h

theorem lexLe_trans {α : Type} [DecidableEq α] {le : α → α → Bool}
    (antisymm : ∀ a b, le a b = true → le b a = true → a = b)
    (trans : ∀ a b c, le a b = true → le b c = true → le a c = true) {s t u : List α}
    (hst : lexLe le s t = true) (htu : lexLe le t u = true) : lexLe le s u = true := by
  induction s generalizing t u with
  | nil => simp [lexLe]
  | cons a s ih =>
    cases t with
    | nil => simp [lexLe] at hst
    | cons b t =>
      cases u with
      | nil => simp [lexLe] at htu
      | cons c u =>
        simp only [lexLe] at hst htu ⊢
        by_cases hab : a = b
        · subst hab
          split at htu
          · next h => simpa [h] using ih (by simpa using hst) htu
          · next h => simpa [h] using htu
        · rw [if_neg hab] at hst
          by_cases hbc : b = c
          · subst hbc
            simpa [hab] using hst
          · rw [if_neg hbc] at htu
            have hac : a ≠ c := fun h => hab (antisymm a b hst (h ▸ htu))
            simpa [hac] using trans a b c hst htu

theorem textLe_total (s t : List Char) : (textLe s t || textLe t s) = true :=
  lexLe_total (fun c d => by simpa using Nat.le_total c.toNat d.toNat) s t

theorem textLe_antisymm {s t : List Char} (hst : textLe s t = true) (hts : textLe t s = true) :
    s = t :=
  lexLe_antisymm (fun _ _ h h' => Char.toNat_inj.1
    (Nat.le_antisymm (Nat.le_of_ble_eq_true h) (Nat.le_of_ble_eq_true h'))) hst hts

theorem textLe_trans {s t u : List Char} (hst : textLe s t = true) (htu : textLe t u = true) :
    textLe s u = true :=
  lexLe_trans (fun _ _ h h' => Char.toNat_inj.1
      (Nat.le_antisymm (Nat.le_of_ble_eq_true h) (Nat.le_of_ble_eq_true h')))
    (fun _ _ _ h h' => Nat.ble_eq_true_of_le
      (Nat.le_trans (Nat.le_of_ble_eq_true h) (Nat.le_of_ble_eq_true h'))) hst htu

/-- Text for comparison: bare small letters. -/
def normalized (s : List Char) : List Char := Unicode.lower (Unicode.withoutMarks s)

namespace Person

/-- Family name, given names and lineage with two spaces between them, normalized. -/
def orderKey (p : Person) : List Char :=
  let plainWords (words : List (List Char)) := [' '].intercalate (words.map Latex.plain)
  normalized
    ([' ', ' '].intercalate [plainWords (p.particles ++ p.family), plainWords p.given,
      plainWords p.lineage])

end Person

namespace Entry

/-- The persons that an entry is ordered by: the authors, or the editors of a book without. -/
def principals (e : Entry) : Option (List Person) :=
  match e.type with
  | .book => (e.persons "author".toList).or (e.persons "editor".toList)
  | _ => e.persons "author".toList

def authorKey (e : Entry) : List Char :=
  match e.principals with
  | some ps => [' ', ' ', ' '].intercalate (ps.map Person.orderKey)
  | none => []

def fieldKey (e : Entry) (name : List Char) : List Char :=
  match e.text name with
  | some s => normalized (Latex.plain s)
  | none => []

/-- Authors, year and title, which are compared in this order. -/
def orderKey (e : Entry) : List (List Char) :=
  [e.authorKey, e.fieldKey "year".toList, e.fieldKey "title".toList]

end Entry

namespace Sorting

def name : Sorting → List Char
  | .authorYearTitle => "author_year_title".toList
  | .asGiven => "none".toList

def all : List Sorting := [.authorYearTitle, .asGiven]

def ofName (s : List Char) : Except Error Sorting :=
  match all.find? fun sorting => sorting.name = s with
  | some sorting => .ok sorting
  | none => .error (.noSuchStyle s)

/-- Entries in bibliography order. Entries with the same key keep their order. -/
def sort (sorting : Sorting) (es : List Entry) : List Entry :=
  match sorting with
  | .authorYearTitle =>
      ((es.map fun e => (e.orderKey, e)).mergeSort fun a b => lexLe textLe a.1 b.1).map Prod.snd
  | .asGiven => es

theorem sort_perm (sorting : Sorting) (es : List Entry) : (sorting.sort es).Perm es := by
  cases sorting with
  | authorYearTitle =>
    simpa [sort, Function.comp_def] using
      (List.mergeSort_perm (es.map fun e => (e.orderKey, e)) _).map Prod.snd
  | asGiven => exact .refl es

end Sorting
end Citation
