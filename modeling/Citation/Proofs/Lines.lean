import Citation.Proofs.Bibliography
import Citation.Proofs.LineFeeds
import Citation.Proofs.Refusal
import Citation.Proofs.Seams
import Citation.Typeset

/-! Lines of a bibliography as plain text. Every line feed in a citation is its entry's: it stands in
a field that is shown as it is, or markup keeps it. Where there is none, an entry has one line. -/
namespace Citation

/-! Line feeds under the operations on texts. -/

namespace Text

theorem lineFeed_mem_plain_lower_iff (t : Text) : '\n' ∈ t.lower.plain ↔ '\n' ∈ t.plain := by
  induction t with
  | nil => rfl
  | run s rest ih => simp only [lower, plain, List.mem_append, Unicode.lineFeed_mem_lower_iff, ih]
  | wrap w inner rest ihi ih => cases w <;> simp only [lower, plain, List.mem_append, ihi, ih]

theorem lineFeed_mem_plain_capitalizeFirst_iff (t : Text) :
    '\n' ∈ t.capitalizeFirst.plain ↔ '\n' ∈ t.plain := by
  rcases plain_capitalizeFirst t with hplain | ⟨c, s, hs, hplain⟩
  · rw [hplain]
  · rw [hplain, hs, List.mem_append, List.mem_cons, Unicode.lineFeed_mem_upperChar_iff, eq_comm]

theorem lineFeed_mem_plain_withPeriod_iff (t : Text) :
    '\n' ∈ t.withPeriod.plain ↔ '\n' ∈ t.plain := by
  rcases plain_withPeriod t with hplain | hplain <;> simp [hplain]

theorem exists_mem_plain_present_iff {c : Char} {ts : List Text} :
    (∃ t ∈ present ts, c ∈ t.plain) ↔ ∃ t ∈ ts, c ∈ t.plain := by
  rw [← List.mem_flatMap, flatMap_plain_present, List.mem_flatMap]

theorem mem_plain_chain_iff {c : Char} {between last : List Char} (hbetween : c ∉ between)
    (hlast : c ∉ last) (ts : List Text) :
    c ∈ (chain between last ts).plain ↔ ∃ t ∈ ts, c ∈ t.plain := by
  fun_induction chain between last ts with
  | case1 => simp [plain]
  | case2 t => simp
  | case3 t u => simp [hlast]
  | case4 t u v ts ih =>
    rw [plain_append, plain_append, plain_ofChars, List.mem_append, List.mem_append, ih,
      List.exists_mem_cons_iff _ t]
    simp only [hbetween, or_false]

/-- Only spaces are trimmed. -/
theorem mem_plain_trimEnd_iff {c : Char} (hc : c ≠ ' ') (t : Text) :
    c ∈ t.trimEnd.plain ↔ c ∈ t.plain := by
  fun_induction trimEnd t with
  | case1 => rfl
  | case2 s =>
    have hspaces : c ∉ s.reverse.takeWhile (· == ' ') := by
      intro h
      have hspace := List.mem_takeWhile_imp (p := (· == ' ')) h
      exact hc (beq_iff_eq.1 hspace)
    have hdropped : c ∈ s.reverse.dropWhile (· == ' ') ↔ c ∈ s.reverse := by
      conv_rhs => rw [← List.takeWhile_append_dropWhile (p := (· == ' ')) (l := s.reverse)]
      rw [List.mem_append, or_iff_right hspaces]
    rw [plain_ofChars, List.mem_reverse, hdropped, List.mem_reverse, plain, plain, List.append_nil]
  | case3 s rest _ ih => rw [plain, plain, List.mem_append, List.mem_append, ih]
  | case4 w inner rest ih => rw [plain, plain, List.mem_append, List.mem_append, ih]

end Text

theorem Modifier.lineFeed_mem_plain_apply_iff (m : Modifier) (t : Text) :
    '\n' ∈ (m.apply t).plain ↔ '\n' ∈ t.plain := by
  cases m with
  | emph => rw [apply, Text.plain_within]
  | sentenceCase =>
    rw [apply, Text.sentenceCase, Text.lineFeed_mem_plain_capitalizeFirst_iff,
      Text.lineFeed_mem_plain_lower_iff]
  | lowerCase => exact Text.lineFeed_mem_plain_lower_iff t
  | capital => exact Text.lineFeed_mem_plain_capitalizeFirst_iff t
  | period => exact Text.lineFeed_mem_plain_withPeriod_iff t

namespace Separators

/-- The separators hold no line feed. -/
def inLine (s : Separators) : Bool :=
  ([s.between] ++ s.pair.toList ++ s.last.toList).all fun t => !t.toList.contains '\n'

theorem lineFeed_notMem_beforeLast {s : Separators} (hs : s.inLine = true) (count : Nat) :
    '\n' ∉ (s.beforeLast count).toList := by
  have hmem : s.beforeLast count ∈ [s.between] ++ s.pair.toList ++ s.last.toList := by
    unfold beforeLast
    split
    · cases s.pair <;> simp
    · cases s.last <;> simp
  simpa using List.all_eq_true.1 hs _ hmem

theorem lineFeed_mem_plain_join_iff {s : Separators} (hs : s.inLine = true) (ts : List Text) :
    '\n' ∈ (s.join ts).plain ↔ ∃ t ∈ ts, '\n' ∈ t.plain := by
  have hbetween : '\n' ∉ s.between.toList := by
    simpa using List.all_eq_true.1 hs s.between (by simp)
  rw [join, Text.mem_plain_chain_iff hbetween (lineFeed_notMem_beforeLast hs _),
    Text.exists_mem_plain_present_iff]

end Separators

/-! Line feeds in names. -/

namespace NameStyle

/-- The words that the name of a person shows, in no particular order. -/
def shownWords (initials : Bool) (p : Person) : List (List Char) :=
  if p.standsForOthers then []
  else p.particles ++ p.family ++ p.lineage
    ++ if initials then p.given.map initialsOf else p.given

theorem lineFeed_mem_group_iff (ws : List (List Char)) :
    '\n' ∈ (group ws).plain ↔ ∃ w ∈ ws, Latex.KeepsLineFeed w := by
  rw [group, Separators.lineFeed_mem_plain_join_iff rfl]
  simp only [List.mem_map, exists_exists_and_eq_and, ← Latex.lineFeed_mem_plain_iff, Latex.plain]

theorem lineFeed_mem_sticky_iff (t : Text) : '\n' ∈ (sticky t).plain ↔ '\n' ∈ t.plain := by
  have hspace : '\n' ≠ spaceBehind t := by
    unfold spaceBehind
    split <;> decide
  unfold sticky
  split
  · next hempty => rw [(Text.isEmpty_iff t).1 hempty]
  · simp [hspace]

theorem lineFeed_mem_behind_iff {before : String} (hbefore : '\n' ∉ before.toList) (t : Text) :
    '\n' ∈ (behind before t).plain ↔ '\n' ∈ t.plain := by
  unfold behind
  split
  · next hempty => rw [(Text.isEmpty_iff t).1 hempty]
  · simp [hbefore]

theorem lineFeed_mem_text_iff (style : NameStyle) (initials : Bool) (p : Person) :
    '\n' ∈ (style.text initials p).plain ↔
      ∃ w ∈ shownWords initials p, Latex.KeepsLineFeed w := by
  unfold text shownWords
  split
  · rw [Text.plain_ofChars]
    simp only [List.not_mem_nil, false_and, exists_false, iff_false]
    decide
  · have hspace : '\n' ∉ " ".toList := by decide
    have hcomma : '\n' ∉ ", ".toList := by decide
    cases style with
    | familyFirst =>
      simp only [Text.plain_append, List.mem_append, lineFeed_mem_sticky_iff,
        lineFeed_mem_group_iff, lineFeed_mem_behind_iff hspace, lineFeed_mem_behind_iff hcomma,
        or_and_right, exists_or]
    | givenFirst =>
      simp only [Text.plain_append, List.mem_append, lineFeed_mem_sticky_iff,
        lineFeed_mem_group_iff, lineFeed_mem_behind_iff hcomma, or_and_right, exists_or, or_assoc]
      rw [or_comm]
      simp only [or_assoc]

end NameStyle

/-! What a citation shows of its entry. -/

/-- Something of an entry that a citation shows: a field as it stands, or markup to decode. -/
inductive Material
  | verbatim (name : String) (s : List Char)
  | markup (s : List Char)

/-- The material brings a line feed into the citation. -/
def Material.KeepsLineFeed : Material → Prop
  | .verbatim _ s => '\n' ∈ s
  | .markup s => Latex.KeepsLineFeed s

namespace Part

variable {person : Person → Text} {words : Person → List (List Char)} {e : Entry}

mutual

/-- What a part shows of an entry, with `words` for the words that a name shows. -/
def shown (person : Person → Text) (words : Person → List (List Char)) (e : Entry) :
    Part → List Material
  | .words _ => []
  | .field name => match e.need name.toList with
    | .ok s => [.markup s]
    | .error _ => []
  | .range name => match e.need name.toList with
    | .ok s => [.markup (enDashes s)]
    | .error _ => []
  | .names role => match e.needPersons role.toList with
    | .ok ps => (ps.flatMap words).map .markup
    | .error _ => []
  | .byCount .. => []
  | .link name _ _ => match e.need name.toList with
    | .ok s => [.verbatim name s]
    | .error _ => []
  | .modified _ p => p.shown person words e
  | .joined _ ps => shownByAll person words e ps
  | .optional p => match p.text person e with
    | .ok _ => p.shown person words e
    | .error _ => []
  | .firstPresent ps => shownByFirst person words e ps

def shownByAll (person : Person → Text) (words : Person → List (List Char)) (e : Entry) :
    List Part → List Material
  | [] => []
  | p :: ps => p.shown person words e ++ shownByAll person words e ps

/-- What the first part with some text shows. -/
def shownByFirst (person : Person → Text) (words : Person → List (List Char)) (e : Entry) :
    List Part → List Material
  | [] => []
  | p :: ps => match p.text person e with
    | .ok t => if t.isEmpty then shownByFirst person words e ps else p.shown person words e
    | .error _ => []

end

mutual

/-- The words and separators of the part itself hold no line feed. -/
def inLine : Part → Bool
  | .words s => !s.toList.contains '\n'
  | .field _ => true
  | .range _ => true
  | .names _ => true
  | .byCount _ one many => !one.toList.contains '\n' && !many.toList.contains '\n'
  | .link _ before _ => !before.toList.contains '\n'
  | .modified _ p => p.inLine
  | .joined s ps => s.inLine && allInLine ps
  | .optional p => p.inLine
  | .firstPresent ps => allInLine ps

def allInLine : List Part → Bool
  | [] => true
  | p :: ps => p.inLine && allInLine ps

end

mutual

/-- The fields that the part shows as they stand. -/
def links : Part → List String
  | .words _ => []
  | .field _ => []
  | .range _ => []
  | .names _ => []
  | .byCount .. => []
  | .link name _ _ => [name]
  | .modified _ p => p.links
  | .joined _ ps => allLinks ps
  | .optional p => p.links
  | .firstPresent ps => allLinks ps

def allLinks : List Part → List String
  | [] => []
  | p :: ps => p.links ++ allLinks ps

end

/-- A name has a line feed exactly if one of its words keeps one. -/
def NamesShow (person : Person → Text) (words : Person → List (List Char)) : Prop :=
  ∀ p, '\n' ∈ (person p).plain ↔ ∃ w ∈ words p, Latex.KeepsLineFeed w

mutual

/-- A part has a line feed exactly if something that it shows brings one. -/
theorem lineFeed_mem_text_iff (hperson : NamesShow person words) : ∀ (p : Part) (t : Text),
    p.inLine = true → p.text person e = .ok t →
      ('\n' ∈ t.plain ↔ ∃ m ∈ p.shown person words e, m.KeepsLineFeed)
  | .words s, t, hline, h => by
    obtain rfl := Except.ok.inj h
    simpa [shown, inLine] using hline
  | .field name, t, _, h => by
    obtain ⟨s, hs, rfl⟩ := map_eq_ok_iff.1 h
    simp only [shown, hs, List.mem_singleton, exists_eq_left]
    exact Latex.lineFeed_mem_plain_iff s
  | .range name, t, _, h => by
    obtain ⟨s, hs, rfl⟩ := map_eq_ok_iff.1 h
    simp only [shown, hs, List.mem_singleton, exists_eq_left]
    exact Latex.lineFeed_mem_plain_iff (enDashes s)
  | .names role, t, _, h => by
    obtain ⟨ps, hps, rfl⟩ := map_eq_ok_iff.1 h
    rw [Separators.lineFeed_mem_plain_join_iff rfl]
    simp only [shown, hps, List.mem_map, exists_exists_and_eq_and, hperson _, List.mem_flatMap,
      Material.KeepsLineFeed]
    constructor
    · rintro ⟨p, hp, w, hw, hfeed⟩
      exact ⟨w, ⟨p, hp, hw⟩, hfeed⟩
    · rintro ⟨w, ⟨p, hp, hw⟩, hfeed⟩
      exact ⟨p, hp, w, hw, hfeed⟩
  | .byCount role one many, t, hline, h => by
    obtain ⟨ps, -, rfl⟩ := map_eq_ok_iff.1 h
    simp only [inLine, Bool.and_eq_true, Bool.not_eq_true', List.contains_eq_mem,
      decide_eq_false_iff_not] at hline
    rw [Text.plain_ofChars]
    simp only [shown, List.not_mem_nil, false_and, exists_false, iff_false]
    split
    · exact hline.2
    · exact hline.1
  | .link name before target, t, hline, h => by
    obtain ⟨s, hs, rfl⟩ := map_eq_ok_iff.1 h
    have hbefore : '\n' ∉ before.toList := by simpa [inLine] using hline
    simp [shown, hs, hbefore, Material.KeepsLineFeed]
  | .modified m p, t, hline, h => by
    obtain ⟨u, hu, rfl⟩ := map_eq_ok_iff.1 h
    rw [m.lineFeed_mem_plain_apply_iff, shown]
    exact lineFeed_mem_text_iff hperson p u hline hu
  | .joined s ps, t, hline, h => by
    obtain ⟨ts, hts, rfl⟩ := map_eq_ok_iff.1 h
    obtain ⟨hs, hps⟩ := Bool.and_eq_true_iff.1 hline
    rw [Separators.lineFeed_mem_plain_join_iff hs, shown]
    exact lineFeed_mem_texts_iff hperson ps ts hps hts
  | .optional p, t, hline, h => by
    rw [text] at h
    cases hp : p.text person e with
    | ok u =>
      rw [hp] at h
      obtain rfl := Except.ok.inj h
      simp only [shown, hp]
      exact lineFeed_mem_text_iff hperson p u hline hp
    | error err =>
      rw [hp, orNothing, isLack_of_text p err hp, if_pos rfl] at h
      obtain rfl := Except.ok.inj h
      simp [shown, hp, Text.plain]
  | .firstPresent ps, t, hline, h => by
    rw [shown]
    exact lineFeed_mem_firstText_iff hperson ps t hline h

theorem lineFeed_mem_texts_iff (hperson : NamesShow person words) :
    ∀ (ps : List Part) (ts : List Text),
    allInLine ps = true → texts person e ps = .ok ts →
      ((∃ t ∈ ts, '\n' ∈ t.plain) ↔ ∃ m ∈ shownByAll person words e ps, m.KeepsLineFeed)
  | [], ts, _, h => by
    obtain rfl := Except.ok.inj h
    simp [shownByAll]
  | p :: ps, ts, hline, h => by
    obtain ⟨t, us, ht, hus, rfl⟩ := texts_cons_eq_ok h
    obtain ⟨hp, hps⟩ := Bool.and_eq_true_iff.1 hline
    rw [List.exists_mem_cons_iff, lineFeed_mem_text_iff hperson p t hp ht,
      lineFeed_mem_texts_iff hperson ps us hps hus, shownByAll]
    simp only [List.mem_append, or_and_right, exists_or]

theorem lineFeed_mem_firstText_iff (hperson : NamesShow person words) :
    ∀ (ps : List Part) (t : Text),
    allInLine ps = true → firstText person e ps = .ok t →
      ('\n' ∈ t.plain ↔ ∃ m ∈ shownByFirst person words e ps, m.KeepsLineFeed)
  | [], t, _, h => by
    obtain rfl := Except.ok.inj h
    simp [shownByFirst, Text.plain]
  | p :: ps, t, hline, h => by
    obtain ⟨hp, hps⟩ := Bool.and_eq_true_iff.1 hline
    cases hu : p.text person e with
    | error err => simp [firstText, hu] at h
    | ok u =>
      simp only [firstText, hu] at h
      simp only [shownByFirst, hu]
      split at h
      · next hempty =>
        rw [if_pos hempty]
        exact lineFeed_mem_firstText_iff hperson ps t hps h
      · next hsome =>
        obtain rfl := Except.ok.inj h
        rw [if_neg hsome]
        exact lineFeed_mem_text_iff hperson p u hp hu

end

mutual

/-- What is shown as it stands is a field of the entry that the part links. -/
theorem of_verbatim_mem_shown {name : String} {s : List Char} : ∀ p : Part,
    .verbatim name s ∈ p.shown person words e → name ∈ p.links ∧ e.need name.toList = .ok s
  | .words _, h => by simp [shown] at h
  | .field name', h => by
    unfold shown at h
    split at h <;> simp at h
  | .range name', h => by
    unfold shown at h
    split at h <;> simp at h
  | .names role, h => by
    unfold shown at h
    split at h <;> simp at h
  | .byCount .., h => by simp [shown] at h
  | .link name' before target, h => by
    unfold shown at h
    split at h
    · next s' hs =>
      obtain ⟨rfl, rfl⟩ := Material.verbatim.inj (List.mem_singleton.1 h)
      exact ⟨by simp [links], hs⟩
    · cases h
  | .modified _ p, h => of_verbatim_mem_shown p h
  | .joined _ ps, h => of_verbatim_mem_shownByAll ps h
  | .optional p, h => by
    unfold shown at h
    split at h
    · exact of_verbatim_mem_shown p h
    · cases h
  | .firstPresent ps, h => of_verbatim_mem_shownByFirst ps h

theorem of_verbatim_mem_shownByAll {name : String} {s : List Char} : ∀ ps : List Part,
    .verbatim name s ∈ shownByAll person words e ps →
      name ∈ allLinks ps ∧ e.need name.toList = .ok s
  | [], h => by cases h
  | p :: ps, h => by
    rw [allLinks, List.mem_append]
    rcases List.mem_append.1 h with h | h
    · have hp := of_verbatim_mem_shown p h
      exact ⟨.inl hp.1, hp.2⟩
    · have hps := of_verbatim_mem_shownByAll ps h
      exact ⟨.inr hps.1, hps.2⟩

theorem of_verbatim_mem_shownByFirst {name : String} {s : List Char} : ∀ ps : List Part,
    .verbatim name s ∈ shownByFirst person words e ps →
      name ∈ allLinks ps ∧ e.need name.toList = .ok s
  | [], h => by cases h
  | p :: ps, h => by
    unfold shownByFirst at h
    rw [allLinks, List.mem_append]
    split at h
    · split at h
      · have hps := of_verbatim_mem_shownByFirst ps h
        exact ⟨.inr hps.1, hps.2⟩
      · have hp := of_verbatim_mem_shown p h
        exact ⟨.inl hp.1, hp.2⟩
    · cases h

end

theorem mem_shownByAll_iff {m : Material} {ps : List Part} :
    m ∈ shownByAll person words e ps ↔ ∃ p ∈ ps, m ∈ p.shown person words e := by
  induction ps with
  | nil => simp [shownByAll]
  | cons p ps ih => rw [shownByAll, List.mem_append, ih, List.exists_mem_cons_iff]

theorem shown_optional {p : Part} (hp : p.supplied e = true) :
    (Part.optional p).shown person words e = p.shown person words e := by
  obtain ⟨t, ht⟩ : ∃ t, p.text person e = .ok t := text_isOk p hp
  rw [shown, ht]

end Part

namespace Template

variable {person : Person → Text} {words : Person → List (List Char)} {e : Entry}

/-- The fields that citations show as they stand. -/
def fieldsAsTheyStand : List String := ["url", "eprint", "pubmed", "doi"]

theorem allInLine_of_ofType {t : EntryType} {ps : List Part} (hps : ofType t = some ps) :
    Part.allInLine ps = true := by
  cases t <;> cases hps <;> decide +kernel

theorem allLinks_of_ofType {t : EntryType} {ps : List Part} (hps : ofType t = some ps) :
    Part.allLinks ps = fieldsAsTheyStand := by
  cases t <;> cases hps <;> rfl

/-- Identifiers and addresses are shown by every citation whose entry has them. -/
theorem verbatim_mem_shown_references {name : String} (hname : name ∈ fieldsAsTheyStand)
    {s : List Char} (hs : e.need name.toList = .ok s) :
    .verbatim name s ∈ references.shown person words e := by
  have hsome : (e.text name.toList).isSome = true := Part.isSome_of_need hs
  have hlink : ∀ before target, .verbatim name s ∈
      (Part.link name before target).shown person words e := by
    intro before target
    rw [Part.shown, hs]
    exact List.mem_singleton_self _
  rw [references, sentence, Part.shown, Part.shown, Part.mem_shownByAll_iff]
  simp only [fieldsAsTheyStand, List.mem_cons, List.not_mem_nil, or_false] at hname
  rcases hname with rfl | rfl | rfl | rfl
  · have hsupplied : (adjacent [url, .optional (adjacent [.words " (visited on ",
        .field "urldate", .words ")"])]).supplied e = true := by
      simp only [adjacent, spaced, url, Part.supplied, Part.allSupplied, hsome, Bool.and_true]
    refine ⟨_, List.mem_cons_self, ?_⟩
    rw [Part.shown_optional hsupplied]
    refine Part.mem_shownByAll_iff.2 ⟨url, List.mem_cons_self, ?_⟩
    exact Part.mem_shownByAll_iff.2 ⟨.link "url" "" "", by simp, hlink "" ""⟩
  · refine ⟨.optional eprint, by simp, ?_⟩
    rw [Part.shown_optional (p := eprint) hsome]
    exact hlink _ _
  · refine ⟨.optional pubmed, by simp, ?_⟩
    rw [Part.shown_optional (p := pubmed) hsome]
    exact hlink _ _
  · have hsupplied : doi.supplied e = true := by
      simp only [adjacent, doi, Part.supplied, Part.allSupplied, hsome, Bool.and_true]
    refine ⟨.optional doi, by simp, ?_⟩
    rw [Part.shown_optional hsupplied]
    exact Part.mem_shownByAll_iff.2 ⟨.link "doi" "" "https://doi.org/", by simp, hlink _ _⟩

end Template

/-! Citations and bibliographies. -/

namespace CitedEntry
open Text

theorem lineFeed_mem_plain_addBlock_iff (t block : Text) :
    '\n' ∈ (addBlock t block).plain ↔ '\n' ∈ t.plain ∨ '\n' ∈ block.plain := by
  unfold addBlock
  split <;> simp

theorem lineFeed_mem_plain_foldl_iff (blocks : List Text) (t : Text) :
    '\n' ∈ (blocks.foldl addBlock t).plain ↔
      '\n' ∈ t.plain ∨ ∃ block ∈ blocks, '\n' ∈ block.plain := by
  induction blocks generalizing t with
  | nil => simp
  | cons block blocks ih =>
    rw [List.foldl_cons, ih, lineFeed_mem_plain_addBlock_iff, List.exists_mem_cons_iff, or_assoc]

theorem lineFeed_mem_plain_text_iff (c : CitedEntry) :
    '\n' ∈ c.text.plain ↔ ∃ block ∈ c.blocks, '\n' ∈ block.plain := by
  rw [text, mem_plain_trimEnd_iff (by decide), lineFeed_mem_plain_foldl_iff, plain,
    or_iff_right List.not_mem_nil]

end CitedEntry

namespace Style
open Template

variable {style : Style} {e : Entry}

/-- What the citation of an entry shows of it. -/
def shown (style : Style) (e : Entry) : List Material :=
  match ofType e.type with
  | some ps => Part.shownByAll style.personText (NameStyle.shownWords style.initials) e ps
  | none => []

/-- The citation of an entry has a line feed: one in a field that it shows as it stands, or one that
the decoding of what else it shows keeps. -/
def BreaksLine (style : Style) (e : Entry) : Prop :=
  (∃ name ∈ fieldsAsTheyStand, ∃ s, e.need name.toList = .ok s ∧ '\n' ∈ s) ∨
    ∃ s, .markup s ∈ style.shown e ∧ Latex.KeepsLineFeed s

theorem verbatim_mem_shown_iff {ps : List Part} (hps : ofType e.type = some ps) {name : String}
    {s : List Char} : .verbatim name s ∈ style.shown e ↔
      name ∈ fieldsAsTheyStand ∧ e.need name.toList = .ok s := by
  simp only [shown, hps]
  constructor
  · intro h
    rw [← allLinks_of_ofType hps]
    exact Part.of_verbatim_mem_shownByAll ps h
  · rintro ⟨hname, hs⟩
    exact Part.mem_shownByAll_iff.2
      ⟨references, (mem_of_ofType hps).2, verbatim_mem_shown_references hname hs⟩

theorem exists_keepsLineFeed_iff {ps : List Part} (hps : ofType e.type = some ps) :
    (∃ m ∈ style.shown e, m.KeepsLineFeed) ↔ style.BreaksLine e := by
  constructor
  · rintro ⟨m, hm, hfeed⟩
    cases m with
    | verbatim name s =>
      obtain ⟨hname, hs⟩ := (verbatim_mem_shown_iff hps).1 hm
      exact .inl ⟨name, hname, s, hs, hfeed⟩
    | markup s => exact .inr ⟨s, hm, hfeed⟩
  · rintro (⟨name, hname, s, hs, hfeed⟩ | ⟨s, hm, hfeed⟩)
    · exact ⟨_, (verbatim_mem_shown_iff hps).2 ⟨hname, hs⟩, hfeed⟩
    · exact ⟨_, hm, hfeed⟩

theorem lineFeed_mem_cite_iff {c : CitedEntry} (hc : style.cite e = .ok c) :
    '\n' ∈ c.text.plain ↔ style.BreaksLine e := by
  obtain ⟨ps, ts, hps, hts, hblocks⟩ := exists_texts_of_cite hc
  have hperson : Part.NamesShow style.personText (NameStyle.shownWords style.initials) :=
    style.nameStyle.lineFeed_mem_text_iff style.initials
  rw [← exists_keepsLineFeed_iff hps, c.lineFeed_mem_plain_text_iff, hblocks,
    Text.exists_mem_plain_present_iff,
    Part.lineFeed_mem_texts_iff hperson ps ts (allInLine_of_ofType hps) hts]
  simp only [shown, hps]

end Style

theorem Format.lineFeed_mem_write_text_iff (t : Text) :
    '\n' ∈ Format.text.write t ↔ '\n' ∈ t.plain := by
  have hchar : ∀ c, (if c = tie then ' ' else c) = '\n' ↔ c = '\n' := by
    intro c
    split
    · next hc =>
      subst hc
      decide
    · rfl
  rw [write_text, List.mem_map]
  simp only [hchar, exists_eq_right]

/-! Lines between line feeds. -/

theorem notMem_of_mem_splitOn {c : Char} {s l : List Char} (h : l ∈ s.splitOn c) : c ∉ l := by
  induction s generalizing l with
  | nil =>
    obtain rfl : l = [] := by simpa using h
    exact List.not_mem_nil
  | cons d s ih =>
    rw [List.splitOn, List.splitOnP_cons_eq_if_modifyHead] at h
    split at h
    · rcases List.mem_cons.1 h with rfl | h
      · exact List.not_mem_nil
      · exact ih h
    · next hd =>
      have hne : c ≠ d := fun heq => hd (beq_iff_eq.2 heq.symm)
      obtain ⟨p, ps, hsplit⟩ := List.exists_cons_of_ne_nil (List.splitOnP_ne_nil (· == c) s)
      rw [hsplit, List.modifyHead_cons] at h
      have hall : ∀ q ∈ p :: ps, c ∉ q := fun q hq => ih (by rwa [List.splitOn, hsplit])
      rcases List.mem_cons.1 h with rfl | h
      · exact List.not_mem_cons_of_ne_of_not_mem hne (hall p List.mem_cons_self)
      · exact hall l (List.mem_cons_of_mem _ h)

/-- What ends with a separator each time is what stands between separators, if none holds one. -/
theorem splitOn_flatMap_iff {c : Char} (ls : List (List Char)) :
    (ls.flatMap (· ++ [c])).splitOn c = ls ++ [[]] ↔ ∀ l ∈ ls, c ∉ l := by
  constructor
  · intro h l hl
    have hmem : l ∈ (ls.flatMap (· ++ [c])).splitOn c := by simp [h, hl]
    exact notMem_of_mem_splitOn hmem
  · intro h
    induction ls with
    | nil => rfl
    | cons l ls ih =>
      obtain ⟨hl, hls⟩ := List.forall_mem_cons.1 h
      have hfirst : ∀ d ∈ l, (d == c) = false := by
        intro d hd
        exact beq_false_of_ne (ne_of_mem_of_not_mem hd hl)
      rw [List.flatMap_cons, List.append_assoc, List.singleton_append, List.splitOn,
        List.splitOnP_append_cons_of_forall_mem hfirst c (by simp)]
      exact congrArg (l :: ·) (ih hls)

theorem intercalate_nil (parts : List (List Char)) :
    List.intercalate [] parts = parts.flatten := by
  induction parts with
  | nil => rfl
  | cons p ps ih =>
    cases ps with
    | nil => simp
    | cons q qs =>
      rw [List.intercalate_cons_cons, ih, List.append_nil, List.flatten_cons (L := q :: qs)]

namespace CitedEntry

/-- The line of a citation in a bibliography as plain text. -/
def line (c : CitedEntry) : List Char :=
  '[' :: c.label ++ "] ".toList ++ Format.text.write c.text

theorem lineFeed_mem_line_iff (c : CitedEntry) (n : Nat) :
    '\n' ∈ (c.atPlace n).line ↔ '\n' ∈ Format.text.write c.text := by
  have hlabel : '\n' ∉ Nat.toDigits 10 n := by
    intro h
    exact absurd (Nat.isDigit_of_mem_toDigits (by decide) (by decide) h) (by decide)
  have htext : (c.atPlace n).text = c.text := rfl
  simp [line, hlabel, htext]

end CitedEntry

theorem Layout.printEntry_text {c : CitedEntry} (hlabel : c.label ≠ []) :
    printEntry { format := .text } c = c.line ++ ['\n'] := by
  have hshown : label? { format := .text } c = some c.label := if_pos ⟨rfl, hlabel⟩
  rw [printEntry, framed, hshown]
  rfl

/-- As plain text, a bibliography is its lines, each ended by a line feed. -/
theorem Layout.print_text {b : Bibliography} (hb : ∀ c ∈ b, c.label ≠ []) :
    print { format := .text } b = (b.map CitedEntry.line).flatMap (· ++ ['\n']) := by
  have hentries : b.map (printEntry { format := .text }) =
      b.map fun c => c.line ++ ['\n'] :=
    List.map_congr_left fun c hc => printEntry_text (hb c hc)
  rw [print, separator, if_neg (by decide), intercalate_nil, hentries, List.flatMap_map,
    List.flatMap, opening, closing, List.nil_append, List.append_nil]

namespace Style

variable {style : Style} {es : List Entry} {b : Bibliography}

theorem label_ne_nil_of_bibliography (hb : style.bibliography es = .ok b) {c : CitedEntry}
    (hc : c ∈ b) : c.label ≠ [] := by
  obtain ⟨i, hi⟩ := List.getElem?_of_mem hc
  obtain ⟨e, c, -, -, rfl⟩ := exists_entry_of_bibliography hb hi
  exact Nat.toDigits_ne_nil

theorem length_bibliography (hb : style.bibliography es = .ok b) : b.length = es.length := by
  rw [← style.citeAll_length es, (allOrError_eq_ok_iff _ _).1 hb, List.length_map]

theorem lineFeed_mem_lines_iff (hb : style.bibliography es = .ok b) :
    (∀ l ∈ b.map CitedEntry.line, '\n' ∉ l) ↔ ∀ e ∈ es, ¬ style.BreaksLine e := by
  have hperm := Sorting.sort_perm style.sorting es
  constructor
  · intro h e he
    obtain ⟨i, hi⟩ := List.getElem?_of_mem (hperm.mem_iff.2 he)
    obtain ⟨c, hc, hplace⟩ := exists_cite_of_bibliography hb hi
    have hline := h _ (List.mem_map_of_mem (List.mem_of_getElem? hplace))
    rwa [c.lineFeed_mem_line_iff, Format.lineFeed_mem_write_text_iff, lineFeed_mem_cite_iff hc]
      at hline
  · intro h l hl
    obtain ⟨d, hd, rfl⟩ := List.mem_map.1 hl
    obtain ⟨i, hi⟩ := List.getElem?_of_mem hd
    obtain ⟨e, c, he, hc, rfl⟩ := exists_entry_of_bibliography hb hi
    rw [c.lineFeed_mem_line_iff, Format.lineFeed_mem_write_text_iff, lineFeed_mem_cite_iff hc]
    exact h e (hperm.mem_iff.1 (List.mem_of_getElem? he))

end Style

/-- A bibliography as plain text has one line to an entry, but for the line feeds of the citations
themselves: these come from fields that are shown as they stand, and from markup that keeps them. -/
theorem typeset_lines (source : List Char) (o : Options) (out : List Char)
    (h : typeset source o .text = .ok out) :
    ∃ style db lines, o.toStyle = .ok style ∧ Database.parse source = .ok db ∧
      lines.length = db.entries.length ∧ out = lines.flatMap (· ++ ['\n']) ∧
      (∀ i e, (style.sorting.sort db.entries)[i]? = some e → ∃ c, style.cite e = .ok c ∧
        lines[i]? = some ('[' :: Nat.toDigits 10 (i + 1) ++ "] ".toList
          ++ Format.text.write c.text) ∧
        ('\n' ∈ Format.text.write c.text ↔ style.BreaksLine e)) ∧
      (out.splitOn '\n' = lines ++ [[]] ↔ ∀ e ∈ db.entries, ¬ style.BreaksLine e) := by
  unfold typeset at h
  split at h
  · cases h
  · next style hstyle =>
    split at h
    · cases h
    · next db hdb =>
      obtain ⟨b, hb, rfl⟩ := map_eq_ok_iff.1 h
      have hprint := Layout.print_text fun c => Style.label_ne_nil_of_bibliography hb
      refine ⟨style, db, b.map CitedEntry.line, hstyle, hdb, ?_, hprint, ?_, ?_⟩
      · rw [List.length_map, Style.length_bibliography hb]
      · intro i e hi
        obtain ⟨c, hc, hplace⟩ := Style.exists_cite_of_bibliography hb hi
        refine ⟨c, hc, ?_, ?_⟩
        · rw [List.getElem?_map, hplace]
          rfl
        · rw [Format.lineFeed_mem_write_text_iff, Style.lineFeed_mem_cite_iff hc]
      · rw [hprint, splitOn_flatMap_iff, Style.lineFeed_mem_lines_iff hb]

/-- An entry with its address over two lines. -/
def addressOverLines : List Char :=
  "@misc\x7bk, year=2000, url=\x7bhttp://a\nb\x7d\x7d".toList

def addressLines : List Char := "[1] (2000). URL: http://a\nb.\n".toList

theorem typeset_addressOverLines : typeset addressOverLines {} .text = .ok addressLines :=
  toOption_eq_some_iff.1 (by decide +kernel)

theorem length_entries_addressOverLines {db : Database}
    (hdb : Database.parse addressOverLines = .ok db) : db.entries.length = 1 := by
  have hone : (Database.parse addressOverLines).toOption.map (·.entries.length) = some 1 := by
    decide +kernel
  simpa [toOption_eq_some_iff.2 hdb] using hone

theorem typeset_lines_address :
    typeset addressOverLines {} .text = .ok addressLines ∧
      ∃ db line, Database.parse addressOverLines = .ok db ∧ db.entries.length = 1 ∧
        addressLines = line ++ ['\n'] ∧ ∃ e ∈ db.entries, ({} : Style).BreaksLine e := by
  obtain ⟨style, db, lines, hstyle, hdb, hlength, hlines, -, hbreaks⟩ :=
    typeset_lines addressOverLines {} addressLines typeset_addressOverLines
  have hone := length_entries_addressOverLines hdb
  obtain ⟨line, rfl⟩ := List.length_eq_one_iff.1 (hlength.trans hone)
  obtain rfl : {} = style := Except.ok.inj hstyle
  have htwo : addressLines.splitOn '\n' ≠ [line] ++ [[]] := by
    intro h
    have hpieces : (addressLines.splitOn '\n').length = 3 := by decide +kernel
    simp [h] at hpieces
  refine ⟨typeset_addressOverLines, db, line, hdb, hone, by simpa using hlines, ?_⟩
  simpa using mt hbreaks.2 htwo

/-- An address over two lines keeps its line feed. -/
theorem not_typeset_lines :
    ¬ ∀ (source : List Char) (o : Options) (db : Database) (out : List Char),
      Database.parse source = .ok db → typeset source o .text = .ok out →
        ∃ citations : List CitedEntry, citations.length = db.entries.length ∧
          out = (citations.mapIdx fun i c => '[' :: Nat.toDigits 10 (i + 1) ++ "] ".toList
            ++ Format.text.write c.text ++ ['\n']).flatten ∧
          ∀ c ∈ citations, '\n' ∉ Format.text.write c.text := by
  intro h
  have hsome : (Database.parse addressOverLines).toOption.isSome = true := by decide +kernel
  obtain ⟨db, hdb⟩ := Option.isSome_iff_exists.1 hsome
  have hdb := toOption_eq_some_iff.1 hdb
  obtain ⟨citations, hlength, htext, hlines⟩ :=
    h addressOverLines {} db addressLines hdb typeset_addressOverLines
  obtain ⟨c, rfl⟩ := List.length_eq_one_iff.1
    (hlength.trans (length_entries_addressOverLines hdb))
  -- All but the line feed at the end is the line of the one citation.
  have hline := congrArg List.dropLast htext
  rw [List.mapIdx_singleton, List.flatten_singleton, List.dropLast_concat] at hline
  have hfeed : '\n' ∈ addressLines.dropLast := by decide +kernel
  have hdigits : '\n' ∉ Nat.toDigits 10 (0 + 1) := by decide
  rw [hline] at hfeed
  simp [hdigits, hlines c List.mem_cons_self] at hfeed

end Citation
