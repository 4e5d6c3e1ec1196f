import Citation.Proofs.Words
import Mathlib.Data.List.Basic

/-! Names of persons. The parts of a person hold the words of the name, each once and in order, and
the forms `First von Last`, `von Last, First` and `von Last, Jr, First` of a name give the same
person. -/
namespace Citation

namespace Person

/-! What the parts are set to. -/

theorem first_append_middle (p : Person) (words : List (List Char)) :
    (p.withGiven words).first ++ (p.withGiven words).middle = words :=
  List.take_append_drop 1 words

/-- The words of a family part are particles up to the last particle, and behind it the family
name, unless that is the last particle itself. -/
theorem withFamily_cases (p : Person) (words : List (List Char)) :
    (words = [] ∧ p.withFamily words = { p with particles := [], family := [] }) ∨
      (∃ small w, words = small ++ [w] ∧ isParticle w = true ∧
        p.withFamily words = { p with particles := small, family := [w] }) ∨
      ∃ small w last, words = small ++ w :: last ∧ (∀ x ∈ w :: last, isParticle x = false) ∧
        p.withFamily words = { p with particles := small, family := w :: last } := by
  have hsplit : (words.reverse.dropWhile (!isParticle ·)).reverse ++
      (words.reverse.takeWhile (!isParticle ·)).reverse = words := by
    rw [← List.reverse_append, List.takeWhile_append_dropWhile, List.reverse_reverse]
  unfold withFamily
  split
  · next hlast =>
    rcases List.eq_nil_or_concat' words with rfl | ⟨small, w, rfl⟩
    · exact .inl ⟨rfl, rfl⟩
    · have hw : isParticle w = true := by simpa using hlast
      refine .inr (.inl ⟨small, w, rfl, hw, ?_⟩)
      simp [hw]
  · next w last hlast =>
    refine .inr (.inr ⟨_, w, last, by rw [← hlast, hsplit], fun x hx => ?_, rfl⟩)
    rw [← hlast, List.mem_reverse] at hx
    simpa using List.mem_takeWhile_imp hx

theorem particles_append_family (p : Person) (words : List (List Char)) :
    (p.withFamily words).particles ++ (p.withFamily words).family = words := by
  obtain ⟨rfl, h⟩ | ⟨small, w, rfl, -, h⟩ | ⟨small, w, last, rfl, -, h⟩ :=
    p.withFamily_cases words <;> simp [h]

theorem family_ne_nil (p : Person) {words : List (List Char)} (hwords : words ≠ []) :
    (p.withFamily words).family ≠ [] := by
  obtain ⟨rfl, -⟩ | ⟨small, w, rfl, -, h⟩ | ⟨small, w, last, rfl, -, h⟩ :=
    p.withFamily_cases words
  · exact absurd rfl hwords
  · simp [h]
  · simp [h]

/-- A particle is the family name only if it is all of it. -/
theorem family_eq_of_particle (p : Person) (words : List (List Char)) :
    ∀ w ∈ (p.withFamily words).family, isParticle w = true → (p.withFamily words).family = [w] := by
  intro x hx hparticle
  obtain ⟨rfl, h⟩ | ⟨small, w, rfl, -, h⟩ | ⟨small, w, last, rfl, hlast, h⟩ :=
    p.withFamily_cases words
  · simp [h] at hx
  · simpa [h, eq_comm] using hx
  · rw [h] at hx
    rw [hlast x hx] at hparticle
    cases hparticle

theorem lineage_withFamily (p : Person) (words : List (List Char)) :
    (p.withFamily words).lineage = p.lineage := by
  unfold withFamily
  split <;> rfl

theorem withFamily_withGiven (p : Person) (family given : List (List Char)) :
    (p.withGiven given).withFamily family = (p.withFamily family).withGiven given := by
  unfold withFamily
  split <;> rfl

/-- Without commas the words are cut in front of the family part. -/
theorem ofWords_cases (words : List (List Char)) : ∃ given family, given ++ family = words ∧
    (words ≠ [] → family ≠ []) ∧ ofWords words = (withFamily {} family).withGiven given := by
  have hsplit := List.takeWhile_append_dropWhile (p := (!isParticle ·)) (l := words)
  unfold ofWords
  split
  · next hnone =>
    rw [hnone, List.append_nil] at hsplit
    rw [hsplit]
    refine ⟨words.dropLast, words.getLast?.toList, ?_, ?_, withFamily_withGiven _ _ _⟩
    · rcases List.eq_nil_or_concat' words with rfl | ⟨given, w, rfl⟩ <;> simp
    · rcases List.eq_nil_or_concat' words with rfl | ⟨given, w, rfl⟩ <;> simp
  · next w ws hfamily =>
    rw [hfamily] at hsplit
    exact ⟨_, _, hsplit, by simp, withFamily_withGiven _ _ _⟩

/-- A name without commas, one with a comma, and one with more. -/
theorem parse_cases (name : List Char) :
    (∃ p₀ given family, commaPieces name = [p₀] ∧ given ++ family = wordsOf name ∧
      (wordsOf name ≠ [] → family ≠ []) ∧
      parse name = (withFamily {} family).withGiven given) ∨
    (∃ p₀ p₁, commaPieces name = [p₀, p₁] ∧
      parse name = (withFamily {} (wordsOf p₀)).withGiven (wordsOf p₁)) ∨
    ∃ p₀ p₁ p₂ ps, commaPieces name = p₀ :: p₁ :: p₂ :: ps ∧
      parse name = { (withFamily {} (wordsOf p₀)).withGiven ((p₂ :: ps).flatMap wordsOf) with
        lineage := wordsOf p₁ } := by
  have hclosed : ∀ p ∈ (commaPieces name).dropLast, openBraces p = 0 := by
    intro p hp
    rw [commaPieces, ← List.map_dropLast] at hp
    obtain ⟨q, hq, rfl⟩ := List.mem_map.1 hp
    rw [openBraces_trim]
    exact (cutInto_piecesOutside (· == ',') 0 name).openBraces_eq q hq
  unfold parse
  split
  · next hpieces =>
    exact absurd (List.map_eq_nil_iff.1 hpieces) (piecesOutside_ne_nil _ _ _)
  · next p₀ hpieces =>
    obtain ⟨given, family, hwords, hne, hperson⟩ := ofWords_cases (wordsOf name)
    exact .inl ⟨p₀, given, family, hpieces, hwords, hne, hperson⟩
  · next p₀ p₁ hpieces => exact .inr (.inl ⟨p₀, p₁, hpieces, rfl⟩)
  · next p₀ p₁ given hthree hpieces =>
    cases given with
    | nil => exact absurd rfl hthree
    | cons p₂ ps =>
      refine .inr (.inr ⟨p₀, p₁, p₂, ps, hpieces, ?_⟩)
      rw [wordsOf_intercalate fun p hp => hclosed p ?_]
      rw [hpieces]
      exact List.mem_cons_of_mem _ (List.mem_cons_of_mem _ hp)

/-- The words of a name in the parts of a person, by the pieces of the name between commas. -/
def HasWordsOf (p : Person) (name : List Char) : List (List Char) → Prop
  | [] => False
  | [_] => p.first ++ p.middle ++ p.particles ++ p.family = wordsOf name ∧ p.lineage = [] ∧
      (wordsOf name ≠ [] → p.family ≠ [])
  | [p₀, p₁] => p.particles ++ p.family = wordsOf p₀ ∧ p.first ++ p.middle = wordsOf p₁ ∧
      p.lineage = [] ∧ (wordsOf p₀ ≠ [] → p.family ≠ [])
  | p₀ :: p₁ :: ps => p.particles ++ p.family = wordsOf p₀ ∧ p.lineage = wordsOf p₁ ∧
      p.first ++ p.middle = ps.flatMap wordsOf ∧ (wordsOf p₀ ≠ [] → p.family ≠ [])

theorem hasWordsOf_parse (name : List Char) : (parse name).HasWordsOf name (commaPieces name) := by
  obtain ⟨p₀, given, family, hpieces, hwords, hne, hparse⟩ | ⟨p₀, p₁, hpieces, hparse⟩ |
    ⟨p₀, p₁, p₂, ps, hpieces, hparse⟩ := parse_cases name
  · rw [hpieces, hparse]
    have hfamily := particles_append_family {} family
    refine ⟨?_, lineage_withFamily {} family, fun h => family_ne_nil {} (hne h)⟩
    rw [first_append_middle, List.append_assoc, ← hwords]
    exact congrArg (given ++ ·) hfamily
  · rw [hpieces, hparse]
    exact ⟨particles_append_family {} _, first_append_middle _ _, lineage_withFamily {} _,
      family_ne_nil {}⟩
  · rw [hpieces, hparse]
    exact ⟨particles_append_family {} _, rfl, first_append_middle {} ((p₂ :: ps).flatMap wordsOf),
      family_ne_nil {}⟩

theorem exists_parse_eq (name : List Char) : ∃ family given lineage, parse name =
    { (withFamily {} family).withGiven given with lineage := lineage } := by
  obtain ⟨p₀, given, family, -, -, -, hparse⟩ | ⟨p₀, p₁, -, hparse⟩ | ⟨p₀, p₁, p₂, ps, -, hparse⟩ :=
    parse_cases name
  · exact ⟨family, given, _, hparse⟩
  · exact ⟨_, _, _, hparse⟩
  · exact ⟨_, _, _, hparse⟩

/-- No word of a name is lost, doubled or moved. The family name is there if its part has a word and
holds a particle only if that is all of it, and there is a middle name only behind a first one. -/
theorem parse_keeps_words (name : List Char) :
    (∀ s, ∃ ps, CutInto isGap 0 s ps ∧ wordsOf s = ps.filter (· ≠ [])) ∧
      (∃ ps, CutInto (· == ',') 0 name ps ∧ (parse name).HasWordsOf name (ps.map trim)) ∧
      ((parse name).middle ≠ [] → (parse name).first.length = 1) ∧
      ∀ w ∈ (parse name).family, isParticle w = true → (parse name).family = [w] := by
  obtain ⟨family, given, lineage, hparse⟩ := exists_parse_eq name
  refine ⟨fun s => ⟨_, cutInto_piecesOutside isGap 0 s, rfl⟩,
    ⟨_, cutInto_piecesOutside _ 0 name, hasWordsOf_parse name⟩, ?_, ?_⟩
  · rw [hparse]
    cases given with
    | nil => exact fun h => absurd rfl h
    | cons w ws => exact fun _ => rfl
  · rw [hparse]
    exact family_eq_of_particle {} family

end Person
end Citation
