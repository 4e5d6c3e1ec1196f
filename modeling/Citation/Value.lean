/-! Field values: literals, numbers, references to macros, and concatenations of values. -/
namespace Citation

inductive Value
  | literal (text : List Char)
  | number (n : Int)
  | reference (name : List Char)
  | concat (parts : List Value)

instance : Inhabited Value := ⟨.number 0⟩

/-- Two names that differ in ASCII case at most. -/
def sameName (a b : List Char) : Bool := a.map Char.toLower == b.map Char.toLower

theorem sameName_iff {a b : List Char} :
    sameName a b = true ↔ a.map Char.toLower = b.map Char.toLower := by
  simp [sameName]

theorem sameName_self (name : List Char) : sameName name name = true :=
  sameName_iff.2 rfl

theorem sameName_symm {a b : List Char} (h : sameName a b = true) : sameName b a = true := by
  rw [sameName_iff] at *
  exact h.symm

theorem sameName_trans {a b c : List Char} (hab : sameName a b = true)
    (hbc : sameName b c = true) : sameName a c = true := by
  rw [sameName_iff] at *
  rw [hab, hbc]

theorem sameName_congr {a b : List Char} (h : sameName a b = true) (c : List Char) :
    sameName c a = sameName c b := by
  rw [sameName_iff] at h
  simp only [sameName, h]

/-- Only a capital letter changes in its small form. -/
theorem toLower_cases (c : Char) : c.toLower = c ∨ c = Char.ofNat (c.toLower.toNat - 32) := by
  unfold Char.toLower
  split
  · next hupper =>
    refine .inr ?_
    have hle : c.toNat ≤ 90 := UInt32.le_iff_toNat_le.1 hupper.2
    have hsum : (c.val + 32).toNat = c.toNat + 32 := by
      rw [UInt32.toNat_add]
      exact Nat.mod_eq_of_lt (Nat.lt_of_le_of_lt (Nat.add_le_add_right hle 32) (by decide))
    show c = Char.ofNat ((c.val + 32).toNat - 32)
    rw [hsum, Nat.add_sub_cancel, Char.ofNat_toNat]
  · exact .inl rfl

/-- What holds of the letters of a word, small and capital, holds of the word in any case. -/
theorem forall_of_sameName {p : Char → Bool} {w m : List Char} (h : sameName m w = true)
    (hw : (w.all fun d => p d.toLower && p (Char.ofNat (d.toLower.toNat - 32))) = true) :
    ∀ c ∈ m, p c = true := by
  intro c hc
  have hlower : c.toLower ∈ w.map Char.toLower := sameName_iff.1 h ▸ List.mem_map_of_mem hc
  obtain ⟨d, hd, hsame⟩ := List.mem_map.1 hlower
  obtain ⟨hsmall, hcapital⟩ := Bool.and_eq_true_iff.1 (List.all_eq_true.1 hw d hd)
  rw [hsame] at hsmall hcapital
  rcases toLower_cases c with hc | hc
  · rwa [hc] at hsmall
  · rwa [← hc] at hcapital

def decimal (n : Int) : List Char :=
  if n < 0 then '-' :: Nat.toDigits 10 n.natAbs else Nat.toDigits 10 n.natAbs

namespace Value

def literal? : Value → Option (List Char)
  | .literal s => some s
  | _ => none

mutual

/-- The text of a value, unless a reference is left in it. -/
def text : Value → Option (List Char)
  | .literal s => some s
  | .number n => some (decimal n)
  | .reference _ => none
  | .concat parts => textAll parts

def textAll : List Value → Option (List Char)
  | [] => some []
  | v :: vs => match v.text, textAll vs with
    | some s, some t => some (s ++ t)
    | _, _ => none

end

mutual

/-- The first reference left in a value. -/
def openReference : Value → Option (List Char)
  | .literal _ => none
  | .number _ => none
  | .reference name => some name
  | .concat parts => openReferenceIn parts

def openReferenceIn : List Value → Option (List Char)
  | [] => none
  | v :: vs => v.openReference.or (openReferenceIn vs)

end

mutual

/-- A reading of a value for people: references in braces, parts between ` # `. -/
def display : Value → List Char
  | .literal s => s
  | .number n => decimal n
  | .reference name => '{' :: name ++ ['}']
  | .concat parts => displayAll parts

def displayAll : List Value → List Char
  | [] => []
  | [v] => v.display
  | v :: w :: vs => v.display ++ " # ".toList ++ displayAll (w :: vs)

end

mutual

/-- A value has a text exactly when no reference is left in it. -/
theorem text_eq_none_iff : ∀ v : Value, v.text = none ↔ v.openReference ≠ none
  | .literal _ => by simp [text, openReference]
  | .number _ => by simp [text, openReference]
  | .reference _ => by simp [text, openReference]
  | .concat parts => by simpa [text, openReference] using textAll_eq_none_iff parts

theorem textAll_eq_none_iff : ∀ vs : List Value, textAll vs = none ↔ openReferenceIn vs ≠ none
  | [] => by simp [textAll, openReferenceIn]
  | v :: vs => by
    have hv := text_eq_none_iff v
    have hvs := textAll_eq_none_iff vs
    cases ht : v.text <;> cases hts : textAll vs <;> cases hu : v.openReference <;>
      simp_all [textAll, openReferenceIn]

end

end Value
end Citation
