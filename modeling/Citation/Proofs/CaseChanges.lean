import Citation.Proofs.Concatenation
import Citation.Proofs.NormalTexts
import Citation.Proofs.WrittenBraces

/-! Changes of case are confined. They keep the tree of a text, its targets and its guarded parts,
and reach the runs outside these: all of them in lower case, the leading one for a capital. -/
namespace Citation.Text
open Unicode

/-- What no change of case may change: the tree, with its wraps and targets, and the guarded parts
of a text. Of the other runs only the places are kept. -/
def frame : Text → Text
  | .nil => .nil
  | .run _ rest => .run [] rest.frame
  | .wrap .guarded inner rest => .wrap .guarded inner rest.frame
  | .wrap w inner rest => .wrap w inner.frame rest.frame

/-- The runs that no guard stands around, in order. -/
def openRuns : Text → List (List Char)
  | .nil => []
  | .run s rest => s :: rest.openRuns
  | .wrap .guarded _ rest => rest.openRuns
  | .wrap _ inner rest => inner.openRuns ++ rest.openRuns

/-- The guarded parts at every depth, each one whole, in order. -/
def guards : Text → List Text
  | .nil => []
  | .run _ rest => rest.guards
  | .wrap .guarded inner rest => inner :: rest.guards
  | .wrap _ inner rest => inner.guards ++ rest.guards

/-- The run that a text begins with, in any number of wraps other than guards. -/
def leadingRun : Text → Option (List Char)
  | .nil => none
  | .run s _ => some s
  | .wrap .guarded _ _ => none
  | .wrap _ inner _ => inner.leadingRun

section
variable {w : Wrap} (hw : w ≠ .guarded) (inner rest : Text)
include hw

theorem frame_wrap : (wrap w inner rest).frame = .wrap w inner.frame rest.frame := by
  cases w <;> simp_all [frame]

theorem openRuns_wrap : (wrap w inner rest).openRuns = inner.openRuns ++ rest.openRuns := by
  cases w <;> simp_all [openRuns]

theorem guards_wrap : (wrap w inner rest).guards = inner.guards ++ rest.guards := by
  cases w <;> simp_all [guards]

theorem leadingRun_wrap : (wrap w inner rest).leadingRun = inner.leadingRun := by
  cases w <;> simp_all [leadingRun]

theorem lower_wrap : (wrap w inner rest).lower = .wrap w inner.lower rest.lower := by
  cases w <;> simp_all [lower]

theorem capitalizeFirst_wrap :
    (wrap w inner rest).capitalizeFirst = .wrap w inner.capitalizeFirst rest := by
  cases w <;> simp_all [capitalizeFirst]

end

/-- What holds of runs, of guarded parts and of other wraps holds of all texts. -/
theorem guard_induction {motive : Text → Prop} (nil : motive .nil)
    (run : ∀ s rest, motive rest → motive (.run s rest))
    (guarded : ∀ inner rest, motive rest → motive (.wrap .guarded inner rest))
    (wrap : ∀ w inner rest, w ≠ .guarded → motive inner → motive rest → motive (.wrap w inner rest))
    (t : Text) : motive t := by
  induction t with
  | nil => exact nil
  | run s rest ih => exact run s rest ih
  | wrap w inner rest ihi ih =>
    by_cases hw : w = .guarded
    · exact hw ▸ guarded inner rest ih
    · exact wrap w inner rest hw ihi ih

/-! A text is its frame and its open runs. -/

theorem length_openRuns_frame (t : Text) : t.frame.openRuns.length = t.openRuns.length := by
  induction t using guard_induction with
  | nil => rfl
  | run s rest ih => simp [frame, openRuns, ih]
  | guarded inner rest ih => simp [frame, openRuns, ih]
  | wrap w inner rest hw ihi ih => simp [frame_wrap hw, openRuns_wrap hw, ihi, ih]

theorem guards_frame (t : Text) : t.frame.guards = t.guards := by
  induction t using guard_induction with
  | nil => rfl
  | run s rest ih => simp [frame, guards, ih]
  | guarded inner rest ih => simp [frame, guards, ih]
  | wrap w inner rest hw ihi ih => simp [frame_wrap hw, guards_wrap hw, ihi, ih]

theorem targets_frame (t : Text) : t.frame.targets = t.targets := by
  induction t using guard_induction with
  | nil => rfl
  | run s rest ih => simp [frame, targets, ih]
  | guarded inner rest ih => simp [frame, targets, ih]
  | wrap w inner rest hw ihi ih => simp [frame_wrap hw, targets, ihi, ih]

theorem eq_of_frame {t u : Text} (hframe : t.frame = u.frame) (hruns : t.openRuns = u.openRuns) :
    t = u := by
  induction t using guard_induction generalizing u with
  | nil =>
    cases u using guard_induction with
    | nil => rfl
    | run s rest => simp [frame] at hframe
    | guarded inner rest => simp [frame] at hframe
    | wrap w inner rest hw => simp [frame, frame_wrap hw] at hframe
  | run s rest ih =>
    cases u using guard_induction with
    | nil => simp [frame] at hframe
    | run s' rest' =>
      simp only [frame, openRuns, run.injEq, true_and, List.cons.injEq] at hframe hruns
      rw [hruns.1, ih hframe hruns.2]
    | guarded inner rest => simp [frame] at hframe
    | wrap w inner rest hw => simp [frame, frame_wrap hw] at hframe
  | guarded inner rest ih =>
    cases u using guard_induction with
    | nil => simp [frame] at hframe
    | run s' rest' => simp [frame] at hframe
    | guarded inner' rest' =>
      simp only [frame, openRuns, wrap.injEq, true_and] at hframe hruns
      rw [hframe.1, ih hframe.2 hruns]
    | wrap w inner' rest' hw => simp [frame, frame_wrap hw, Ne.symm hw] at hframe
  | wrap w inner rest hw ihi ih =>
    cases u using guard_induction with
    | nil => simp [frame, frame_wrap hw] at hframe
    | run s' rest' => simp [frame, frame_wrap hw] at hframe
    | guarded inner' rest' => simp [frame, frame_wrap hw, hw] at hframe
    | wrap w' inner' rest' hw' =>
      rw [frame_wrap hw, frame_wrap hw', wrap.injEq] at hframe
      obtain ⟨rfl, hinner, hrest⟩ := hframe
      rw [openRuns_wrap hw, openRuns_wrap hw] at hruns
      have hlength : inner.openRuns.length = inner'.openRuns.length := by
        rw [← length_openRuns_frame, hinner, length_openRuns_frame]
      obtain ⟨hruns, hruns'⟩ := List.append_inj hruns hlength
      rw [ihi hinner hruns, ih hrest hruns']

/-! What each change does to the open runs. -/

theorem frame_lower (t : Text) : t.lower.frame = t.frame := by
  induction t using guard_induction with
  | nil => rfl
  | run s rest ih => simp [lower, frame, ih]
  | guarded inner rest ih => simp [lower, frame, ih]
  | wrap w inner rest hw ihi ih => simp [lower_wrap hw, frame_wrap hw, ihi, ih]

theorem openRuns_lower (t : Text) : t.lower.openRuns = t.openRuns.map Unicode.lower := by
  induction t using guard_induction with
  | nil => rfl
  | run s rest ih => simp [lower, openRuns, ih]
  | guarded inner rest ih => simp [lower, openRuns, ih]
  | wrap w inner rest hw ihi ih => simp [lower_wrap hw, openRuns_wrap hw, ihi, ih]

theorem frame_capitalizeFirst (t : Text) : t.capitalizeFirst.frame = t.frame := by
  induction t using guard_induction with
  | nil => rfl
  | run s rest => rfl
  | guarded inner rest => rfl
  | wrap w inner rest hw ihi => simp [capitalizeFirst_wrap hw, frame_wrap hw, ihi]

theorem frame_sentenceCase (t : Text) : t.sentenceCase.frame = t.frame := by
  rw [sentenceCase, frame_capitalizeFirst, frame_lower]

/-- A run that nothing guards is the leading one if only wraps begin in front of it. -/
theorem openRuns_capitalizeFirst {t : Text} {s : List Char} (h : t.leadingRun = some s) :
    ∃ runs, t.openRuns = s :: runs ∧
      t.capitalizeFirst.openRuns = Unicode.capitalizeFirst s :: runs := by
  induction t using guard_induction with
  | nil => cases h
  | run s' rest =>
    cases h
    exact ⟨rest.openRuns, rfl, rfl⟩
  | guarded inner rest => cases h
  | wrap w inner rest hw ihi =>
    rw [leadingRun_wrap hw] at h
    obtain ⟨runs, hruns, hcapital⟩ := ihi h
    refine ⟨runs ++ rest.openRuns, ?_, ?_⟩
    · rw [openRuns_wrap hw, hruns, List.cons_append]
    · rw [capitalizeFirst_wrap hw, openRuns_wrap hw, hcapital, List.cons_append]

/-- Without a first character in the open there is nothing to make a capital of. -/
theorem capitalizeFirst_eq_self {t : Text} (h : ∀ c s, t.leadingRun ≠ some (c :: s)) :
    t.capitalizeFirst = t := by
  induction t using guard_induction with
  | nil => rfl
  | run s rest =>
    cases s with
    | nil => rfl
    | cons c s => exact absurd rfl (h c s)
  | guarded inner rest => rfl
  | wrap w inner rest hw ihi =>
    rw [leadingRun_wrap hw] at h
    rw [capitalizeFirst_wrap hw, ihi h]

/-! Guarded parts of a sentence. -/

theorem guards_eq_of_frame {t u : Text} (h : t.frame = u.frame) : t.guards = u.guards := by
  rw [← guards_frame, h, guards_frame]

theorem targets_eq_of_frame {t u : Text} (h : t.frame = u.frame) : t.targets = u.targets := by
  rw [← targets_frame, h, targets_frame]

/-- What a guard stands around is seen as it is. -/
theorem plain_infix_of_mem_guards {t g : Text} (h : g ∈ t.guards) : g.plain <:+: t.plain := by
  induction t using guard_induction with
  | nil => cases h
  | run s rest ih => exact (ih h).trans (List.suffix_append _ _).isInfix
  | guarded inner rest ih =>
    rcases List.mem_cons.1 h with rfl | h
    · exact (List.prefix_append _ _).isInfix
    · exact (ih h).trans (List.suffix_append _ _).isInfix
  | wrap w inner rest hw ihi ih =>
    rw [guards_wrap hw] at h
    rcases List.mem_append.1 h with h | h
    · exact (ihi h).trans (List.prefix_append _ _).isInfix
    · exact (ih h).trans (List.suffix_append _ _).isInfix

theorem guards_consRun (s : List Char) (t : Text) : (consRun s t).guards = t.guards := by
  unfold consRun
  split
  · rfl
  · cases t <;> rfl

theorem guards_ofChars (s : List Char) : (ofChars s).guards = [] := guards_consRun s .nil

theorem Normal.guards_append {t : Text} (h : t.Normal) (u : Text) :
    (t ++ u).guards = t.guards ++ u.guards := by
  induction t using guard_induction with
  | nil => rfl
  | run s rest ih => rw [run_append, guards_consRun, ih h.2.2, guards]
  | guarded inner rest ih =>
    rw [wrap_append, consWrap, if_neg h.1, guards, ih h.2.2, guards, List.cons_append]
  | wrap w inner rest hw _ ih =>
    rw [wrap_append, consWrap, if_neg h.1, guards_wrap hw, ih h.2.2, guards_wrap hw,
      List.append_assoc]

theorem Normal.guards_withPeriod {t : Text} (h : t.Normal) : t.withPeriod.guards = t.guards := by
  unfold Text.withPeriod
  split
  · rfl
  · rw [h.guards_append, guards_ofChars, List.append_nil]

/-- A title is set with the guarded parts of its field, whatever they stand in. -/
theorem guards_title (person : Person → Text) {e : Entry} {s : List Char}
    (h : e.text "title".toList = some s) :
    ∃ u, Template.title.text person e = .ok u ∧ u.guards = (ofLatex (trim s)).guards := by
  have hneed : e.need "title".toList = .ok (trim s) := by rw [Entry.need, h]
  have htitle : Template.title.text person e =
      .ok (ofLatex (trim s)).sentenceCase.withPeriod := by
    rw [Template.title, Template.text_sentence, Part.text, Part.text, hneed]
    rfl
  refine ⟨_, htitle, ?_⟩
  rw [(normal_ofLatex _).sentenceCase.guards_withPeriod]
  exact guards_eq_of_frame (frame_sentenceCase _)

/-- Changes of case are confined. All of them keep the frame of a text, which is the text but for
its open runs, and with the frame the targets and the guarded parts. Lower case reaches all open
runs; a capital reaches the first character of the leading one, and nothing if a guard is met on
the way. So a title shows each guarded part of its field. -/
theorem caseChanges_confined (t : Text) :
    (∀ change ∈ [lower, capitalizeFirst, sentenceCase], (change t).frame = t.frame ∧
      (change t).targets = t.targets ∧ (change t).guards = t.guards) ∧
    (∀ u : Text, u.frame = t.frame → u.openRuns = t.openRuns → u = t) ∧
    t.lower.openRuns = t.openRuns.map Unicode.lower ∧
    (∀ c s, t.leadingRun = some (c :: s) → ∃ runs, t.openRuns = (c :: s) :: runs ∧
      t.capitalizeFirst.openRuns = (upperChar c ++ s) :: runs) ∧
    ((∀ c s, t.leadingRun ≠ some (c :: s)) → t.capitalizeFirst = t) ∧
    ∀ person e s, e.text "title".toList = some s → t = ofLatex (trim s) →
      ∃ u, Template.title.text person e = .ok u ∧ u.guards = t.guards ∧
        ∀ g ∈ t.guards, g.plain <:+: u.plain := by
  refine ⟨fun change hchange => ?_, fun u => eq_of_frame, openRuns_lower t,
    fun c s => openRuns_capitalizeFirst, capitalizeFirst_eq_self, ?_⟩
  · have hframe : (change t).frame = t.frame := by
      simp only [List.mem_cons, List.not_mem_nil, or_false] at hchange
      rcases hchange with rfl | rfl | rfl
      · exact frame_lower t
      · exact frame_capitalizeFirst t
      · exact frame_sentenceCase t
    exact ⟨hframe, targets_eq_of_frame hframe, guards_eq_of_frame hframe⟩
  · rintro person e s h rfl
    obtain ⟨u, hu, hguards⟩ := guards_title person h
    refine ⟨u, hu, hguards, fun g hg => ?_⟩
    rw [← hguards] at hg
    exact plain_infix_of_mem_guards hg

/-- A guarded part in two wraps, behind a letter whose capital has two characters, and a guarded
part in front of which there is nothing. -/
theorem caseChanges_confined_nested :
    let s := "\\emph\x7b\u00dfA \\textbf\x7b\x7bDNA\x7d\x7d\x7d OF".toList
    let t := ofLatex (trim s)
    let u := wrap .strong (.wrap .guarded (.run "iP".toList .nil) .nil) (.run "X".toList .nil)
    t.guards = [.run "DNA".toList .nil] ∧ t.lower.guards = t.guards ∧
    (∃ runs, t.openRuns = "\u00dfA ".toList :: runs ∧
      t.capitalizeFirst.openRuns = "SSA ".toList :: runs) ∧
    u.capitalizeFirst = u ∧
    ∃ v, Template.title.text (fun _ => .nil) ⟨.misc, [], [⟨"Title".toList, .literal s⟩]⟩ = .ok v ∧
      v.guards = t.guards ∧ ∀ g ∈ t.guards, g.plain <:+: v.plain := by
  intro s t u
  obtain ⟨hkept, -, -, hcapital, -, htitle⟩ := caseChanges_confined t
  obtain ⟨-, -, -, -, hself, -⟩ := caseChanges_confined u
  exact ⟨by decide +kernel, (hkept lower (by simp)).2.2,
    hcapital '\u00df' "A ".toList (by decide +kernel), hself (by simp [u, leadingRun]),
    htitle _ _ s (by decide +kernel) rfl⟩

end Citation.Text
