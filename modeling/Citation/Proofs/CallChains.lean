import Citation.Proofs.Descent
import Mathlib.Data.List.Chain

/-! Chains of calls. A procedure has more left than what it calls, but for an accent, which hands its
argument on, and so a chain has no more than three calls for each character and two for the text. -/
namespace Citation.Latex

/-- What a procedure may call. -/
def Procedure.callees : Procedure → List Procedure
  | .text => [.group]
  | .plain => [.text]
  | .group => [.group, .command]
  | .command => [.argument, .accent]
  | .argument => [.group]
  | .accent => [.plain]

/-- The procedures that hand on their text as it is. -/
def Procedure.handsOn : Procedure → Bool
  | .text | .plain | .accent => true
  | .group | .command | .argument => false

/-- A procedure calls another on less than it has left, or hands on what it has. -/
structure Activation.Calls (a b : Activation) : Prop where
  callee : b.procedure ∈ a.procedure.callees
  shorter : a.procedure.handsOn = false → b.left.length < a.left.length
  handed : a.procedure.handsOn = true → b.left.length ≤ a.left.length

theorem Activation.Calls.of_shorter {p q : Procedure} {l r : List Char} (hq : q ∈ p.callees)
    (hp : p.handsOn = false) (h : r.length < l.length) : Calls ⟨p, l⟩ ⟨q, r⟩ :=
  ⟨hq, fun _ => h, fun hhands => nomatch hp.symm.trans hhands⟩

theorem Activation.Calls.of_handsOn {p q : Procedure} (hq : q ∈ p.callees) (hp : p.handsOn = true)
    (l : List Char) : Calls ⟨p, l⟩ ⟨q, l⟩ :=
  ⟨hq, fun hkeeps => (nomatch hp.symm.trans hkeeps), fun _ => Nat.le_refl _⟩

/-- How often procedures can be called on one text, one by the other, until the text gets
shorter. -/
def Procedure.rank : Procedure → Nat
  | .group | .argument => 0
  | .command | .text => 1
  | .plain => 2
  | .accent => 3

/-- What bounds the calls that an activation leads to, one by the other. -/
def Activation.height (a : Activation) : Nat := 3 * a.left.length + a.procedure.rank

theorem Procedure.rank_lt (p : Procedure) :
    ∀ q ∈ p.callees, q.rank < p.rank + if p.handsOn then 0 else 3 := by
  cases p <;> decide

theorem Activation.Calls.height_lt {a b : Activation} (h : a.Calls b) : b.height < a.height := by
  have hrank := a.procedure.rank_lt b.procedure h.callee
  unfold height
  cases hhands : a.procedure.handsOn with
  | true =>
    have hhanded := h.handed hhands
    simp only [hhands, ↓reduceIte] at hrank
    omega
  | false =>
    have hshorter := h.shorter hhands
    simp only [hhands, Bool.false_eq_true, ↓reduceIte] at hrank
    omega

/-- Each activation, the innermost first, is called by the one behind it. -/
def Descends (chain : List Activation) : Prop :=
  chain.IsChain fun callee caller => caller.Calls callee

theorem Descends.length_le {a top : Activation} {chain : List Activation}
    (h : Descends (a :: chain)) (htop : (a :: chain).getLast? = some top) :
    chain.length + a.height ≤ top.height := by
  induction chain generalizing a with
  | nil =>
    obtain rfl : a = top := by simpa using htop
    simp
  | cons b chain ih =>
    obtain ⟨hcalls, hchain⟩ := List.isChain_cons_cons.1 h
    have hrest := ih hchain (by simpa using htop)
    have hlt := hcalls.height_lt
    rw [List.length_cons]
    omega

/-- What a procedure is called on. -/
def Call.activation (σ : State) : Call → Activation
  | .group _ => ⟨.group, σ.rest⟩
  | .command => ⟨.command, σ.rest⟩
  | .argument _ => ⟨.argument, σ.rest⟩
  | .accent _ raw => ⟨.accent, raw⟩

/-- The calls under way lead back to the text `s`, and a turn takes at least one character. -/
def Event.Sound (s : List Char) : Event → Prop
  | .call chain => Descends chain ∧ chain.getLast? = some ⟨.text, s⟩
  | .turn before after => after.length < before.length

namespace Event.Sound

variable {s : List Char} {active : List Activation}

theorem length_le {chain : List Activation} (h : Sound s (.call chain)) :
    chain.length ≤ 3 * s.length + 2 := by
  obtain ⟨hchain, htop⟩ := h
  cases chain with
  | nil => exact Nat.zero_le _
  | cons a chain =>
    have hheight : (⟨.text, s⟩ : Activation).height = 3 * s.length + 1 := rfl
    have hlength := hchain.length_le htop
    rw [List.length_cons]
    omega

theorem calls {a b : Activation} (h : Sound s (.call (a :: active))) (hb : a.Calls b) :
    Sound s (.call (b :: a :: active)) :=
  ⟨List.isChain_cons_cons.2 ⟨hb, h.1⟩, h.2⟩

/-- A group is called once, and has less and less left. -/
theorem goes_on {l r : List Char} (h : Sound s (.call (⟨.group, l⟩ :: active)))
    (hr : r.length ≤ l.length) : Sound s (.call (⟨.group, r⟩ :: active)) := by
  obtain ⟨hchain, htop⟩ := h
  cases active with
  | nil => simp at htop
  | cons a active =>
    obtain ⟨⟨hcallee, hshorter, hhanded⟩, hactive⟩ := List.isChain_cons_cons.1 hchain
    refine ⟨List.isChain_cons_cons.2 ⟨⟨hcallee, fun ha => ?_, fun ha => ?_⟩, hactive⟩, htop⟩
    · exact Nat.lt_of_le_of_lt hr (hshorter ha)
    · exact hr.trans (hhanded ha)

end Event.Sound

/-- What a command leaves for its arguments is less than the command was called on. -/
theorem length_lt_of_heading {s r : List Char} {command : Command}
    (h : heading s = (command, r)) (hcommand : ∀ t, command ≠ .symbol t) :
    r.length < s.length := by
  cases s with
  | nil =>
    obtain ⟨rfl, -⟩ := Prod.mk.inj h
    exact absurd rfl (hcommand _)
  | cons c s =>
    have hlength := heading_length_le (c :: s)
    rw [h] at hlength
    exact Nat.lt_succ_of_le hlength

/-- What happens in a call that is sound itself is sound. -/
theorem Runs.sound {active : List Activation} {call : Call} {σ τ : State} {log : List Event}
    (h : Runs active call σ τ log) {s : List Char} :
    Event.Sound s (.call (call.activation σ :: active)) → ∀ e ∈ log, e.Sound s := by
  -- Turn after turn, a group stays where it is in the chain and has less left, so that its calls are
  -- on still less.
  induction h with
  | ends => exact fun _ _ he => nomatch he
  | closes => exact fun _ => List.forall_mem_singleton.2 (Nat.lt_succ_self _)
  | stray _ ih =>
    intro hsound
    exact List.forall_mem_cons.2 ⟨Nat.lt_succ_self _, ih (hsound.goes_on (Nat.le_succ _))⟩
  | opens hinner _ ihinner ih =>
    intro hsound
    have hcall := hsound.calls (.of_shorter (q := .group) (by decide) rfl (Nat.lt_succ_self _))
    have hturn := Nat.lt_succ_of_le hinner.length_le
    refine List.forall_mem_cons.2 ⟨hcall, List.forall_mem_append.2 ⟨ihinner hcall, ?_⟩⟩
    exact List.forall_mem_cons.2 ⟨hturn, ih (hsound.goes_on hturn.le)⟩
  | commands hcommand _ ihcommand ih =>
    intro hsound
    have hcall := hsound.calls (.of_shorter (q := .command) (by decide) rfl (Nat.lt_succ_self _))
    have hturn := Nat.lt_succ_of_le hcommand.length_le
    refine List.forall_mem_cons.2 ⟨hcall, List.forall_mem_append.2 ⟨ihcommand hcall, ?_⟩⟩
    exact List.forall_mem_cons.2 ⟨hturn, ih (hsound.goes_on hturn.le)⟩
  | @reads _ _ text run rest c _ _ _ _ ih =>
    intro hsound
    have hturn := Nat.lt_succ_of_le (State.read_rest_length_le ⟨text, run, c :: rest⟩ c rest)
    exact List.forall_mem_cons.2 ⟨hturn, ih (hsound.goes_on hturn.le)⟩
  | symbol => exact fun _ _ he => nomatch he
  | @accented _ σ _ _ r _ hs _ ih =>
    intro hsound
    have hr := length_lt_of_heading hs (by simp)
    have hcall := hsound.calls (.of_shorter (q := .accent) (by decide) rfl
      ((rawArgument_length_le r).1.trans_lt hr))
    exact List.forall_mem_cons.2 ⟨hcall, ih hcall⟩
  | grouped hs _ ih =>
    intro hsound
    have hcall := hsound.calls (.of_shorter (q := .argument) (by decide) rfl
      (length_lt_of_heading hs (by simp)))
    exact List.forall_mem_cons.2 ⟨hcall, ih hcall⟩
  | url => exact fun _ _ he => nomatch he
  | @href _ σ _ r _ hs _ ih =>
    intro hsound
    have hr := length_lt_of_heading hs (by simp)
    have hcall := hsound.calls (.of_shorter (q := .argument) (by decide) rfl
      ((rawArgument_length_le r).2.trans_lt hr))
    exact List.forall_mem_cons.2 ⟨hcall, ih hcall⟩
  | @braced _ σ _ _ _ _ hs _ ih =>
    intro hsound
    have htrim := trimStart_length_le σ.rest
    rw [hs, List.length_cons] at htrim
    have hcall := hsound.calls (.of_shorter (q := .group) (by decide) rfl htrim)
    exact List.forall_mem_cons.2 ⟨hcall, ih hcall⟩
  | single => exact fun _ _ he => nomatch he
  | @marks _ _ _ _ raw _ _ ih =>
    intro hsound
    have hplain := hsound.calls (.of_handsOn (q := .plain) (by decide) rfl raw)
    have htext := hplain.calls (.of_handsOn (q := .text) (by decide) rfl raw)
    have hgroup := htext.calls (.of_handsOn (q := .group) (by decide) rfl raw)
    exact List.forall_mem_cons.2 ⟨hplain, List.forall_mem_cons.2 ⟨htext,
      List.forall_mem_cons.2 ⟨hgroup, ih hgroup⟩⟩⟩

/-- Every text is decoded in one way, and in the end. Procedures call one another on less and less,
but for an accent, whose argument is less than its command had left and is handed on from call to
call. Each turn of a group takes at least one character. So never more calls are under way than
three for each character and two for the text. -/
theorem ofLatex_descends (s : List Char) :
    ∃ log, Decodes s (Text.ofLatex s) log ∧
      (∀ t log', Decodes s t log' → t = Text.ofLatex s ∧ log' = log) ∧
      (∀ chain, .call chain ∈ log → (chain.IsChain fun callee caller => caller.Calls callee) ∧
        chain.length ≤ 3 * s.length + 2) ∧
      ∀ before after, .turn before after ∈ log → after.length < before.length := by
  obtain ⟨τ, log, hτ⟩ := groupsEnd s.length [⟨.text, s⟩] false ⟨.nil, [], s⟩ (Nat.le_refl _)
  have htext : Text.ofLatex s = τ.text := hτ.agrees.2 [] rfl
  have hstart : Event.Sound s (.call [⟨.text, s⟩]) := ⟨List.isChain_singleton _, rfl⟩
  have hgroup := hstart.calls (.of_handsOn (q := .group) (by decide) rfl s)
  have hsound := List.forall_mem_cons.2 ⟨hstart, List.forall_mem_cons.2 ⟨hgroup, hτ.sound hgroup⟩⟩
  refine ⟨_, ⟨τ, log, hτ, htext.symm, rfl⟩, ?_, fun chain hchain => ?_, fun _ _ => hsound _⟩
  · rintro t log' ⟨τ', log', hτ', rfl, rfl⟩
    obtain ⟨rfl, rfl⟩ := hτ.unique _ _ hτ'
    exact ⟨htext.symm, rfl⟩
  · exact ⟨(hsound _ hchain).1, (hsound _ hchain).length_le⟩

end Citation.Latex
