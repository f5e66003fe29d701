import Terminal.Proofs.Path.Split
import Terminal.Proofs.Session.Exclusion

namespace Terminal

namespace Session

theorem Change.history_apply (c : Change) (s : Session) : (c.apply s).history = s.history := by
  cases c <;> rfl

theorem Amends.history_eq {P : Change → Prop} {s s' : Session} (h : Amends P s s') : s'.history = s.history :=
  h.keeps fun c _ => c.history_apply

theorem history_typeIn (text : String) (s : Session) : (s.typeIn text).history = s.history :=
  (evolves_emit announces_emit _ { s with turn := some {} }).history_eq

theorem history_opening (line : String) (s : Session) :
    s.running = true ∧ s.opening line = (.answered .busy, s) ∨
    s.running = false ∧ Text.words line = [] ∧ (s.opening line).2.history = s.history ∧
      (∃ t, (s.opening line).1 = .answered (.settled t)) ∨
    s.running = false ∧ ∃ name args, Text.words line = name :: args ∧
      (s.opening line).2.history = s.history ++ [line] ∧
      ((∃ t, (s.opening line).1 = .answered (.settled t)) ∨
        ∃ rest, (s.opening line).1 = .begun ⟨name, args, s.history, rest⟩) := by
  cases hrunning : s.running with
  | true => exact .inl ⟨rfl, opening_of_running hrunning line⟩
  | false =>
      right
      cases hw : Text.words line with
      | nil =>
          rw [opening_of_blank hrunning hw]
          exact .inl ⟨rfl, rfl, history_typeIn "" s, _, rfl⟩
      | cons name args =>
          right
          refine ⟨rfl, name, args, rfl, ?_⟩
          have hremember : ((s.typeIn line).remember line).history = s.history ++ [line] :=
            congrArg (· ++ [line]) (history_typeIn line s)
          cases hc : (s.typeIn line).registry.get? name with
          | none =>
              have hmissing := (evolves_missing name ((s.typeIn line).remember line)).history_eq
              rw [opening_of_unknown hrunning hw hc]
              exact ⟨hmissing.trans hremember, .inl ⟨_, rfl⟩⟩
          | some c =>
              rw [opening_of_command hrunning hw hc, history_typeIn]
              exact ⟨hremember, .inr ⟨_, rfl⟩⟩

end Session

open Session

namespace Scene

def Event.remembered? : Event → Option String
  | .submit line answer =>
    if answer ≠ some .busy ∧ line.toList.any (!Text.isBlank ·) then some line else none
  | _ => none

def remembered (es : List Event) : List String := es.filterMap Event.remembered?

theorem remembered_append (es es' : List Event) : remembered (es ++ es') = remembered es ++ remembered es' :=
  List.filterMap_append

theorem any_not_isBlank_iff (line : String) :
    line.toList.any (!Text.isBlank ·) = true ↔ Text.words line ≠ [] := by
  rw [Ne, Text.words, Text.tokens_eq_nil_iff]
  simp

theorem remembered?_of_blank {line : String} (h : Text.words line = []) (answer : Option Submission) :
    Event.remembered? (.submit line answer) = none := by
  rw [Event.remembered?, if_neg]
  rintro ⟨-, hchar⟩
  exact (any_not_isBlank_iff line).1 hchar h

theorem remembered?_of_taken {line name : String} {args : List String} (h : Text.words line = name :: args)
    {answer : Option Submission} (ha : answer ≠ some .busy) :
    Event.remembered? (.submit line answer) = some line := by
  rw [Event.remembered?, if_pos]
  exact ⟨ha, (any_not_isBlank_iff line).2 (by simp [h])⟩

/-- What the history is after these events, and what each handler in flight was shown of it. -/
structure Recalls (es : List Event) (m : Scene) : Prop where
  history : m.session.history = remembered es
  flights : ∀ f ∈ m.flights, ∃ line before after, es = before ++ .submit line none :: after ∧
    Text.words line = f.name :: f.args ∧ f.prior = remembered before ∧ remembered after = []

variable {m m' : Scene} {es : List Event} {e : Event}

theorem Recalls.extend (h : Recalls es m) (he : e.remembered? = none) (hhistory : m'.session.history = m.session.history)
    (hflights : ∀ f ∈ m'.flights, ∃ g ∈ m.flights, f.name = g.name ∧ f.args = g.args ∧ f.prior = g.prior) :
    Recalls (es ++ [e]) m' := by
  have hnone : remembered [e] = [] := by simp [remembered, he]
  refine ⟨?_, ?_⟩
  · rw [hhistory, h.history, remembered_append, hnone, List.append_nil]
  · intro f hf
    obtain ⟨g, hg, hname, hargs, hprior⟩ := hflights f hf
    obtain ⟨line, before, after, rfl, hwords, hbefore, hafter⟩ := h.flights g hg
    refine ⟨line, before, after ++ [e], by simp, ?_, hprior.trans hbefore, ?_⟩
    · rw [hname, hargs, hwords]
    · rw [remembered_append, hafter, hnone, List.append_nil]

theorem Recalls.history_taken (h : Recalls es m) {line name : String} {args : List String}
    (hw : Text.words line = name :: args) {answer : Option Submission} (ha : answer ≠ some .busy)
    (hhistory : m'.session.history = m.session.history ++ [line]) :
    m'.session.history = remembered (es ++ [.submit line answer]) := by
  have hline : remembered [.submit line answer] = [line] := by
    rw [remembered, List.filterMap_cons, remembered?_of_taken hw ha]
    rfl
  rw [hhistory, h.history, remembered_append, hline]

theorem recalls_step (horderly : m.Orderly) (h : Recalls es m) (hstep : Step m e m') : Recalls (es ++ [e]) m' := by
  have hsame : ∀ f ∈ m.flights, ∃ g ∈ m.flights, f.name = g.name ∧ f.args = g.args ∧ f.prior = g.prior :=
    fun f hf => ⟨f, hf, rfl, rfl, rfl⟩
  cases hstep with
  | @answered s s' fs line o ho =>
      rcases history_opening line s with ⟨-, hbusy⟩ | ⟨-, hw, hhistory, -⟩ |
        ⟨hrunning, name, args, hw, hhistory, ⟨t, ht⟩ | ⟨rest, hbegun⟩⟩
      · cases ho.symm.trans hbusy
        exact h.extend (by simp [Event.remembered?]) rfl hsame
      · rw [ho] at hhistory
        exact h.extend (remembered?_of_blank hw _) hhistory hsame
      · rw [ho] at hhistory ht
        cases ht
        obtain rfl : fs = [] := (horderly.idle hrunning).2
        exact ⟨h.history_taken hw (by simp) hhistory, by simp⟩
      · rw [ho] at hbegun
        cases hbegun
  | @begun s s' fs line f hf =>
      rcases history_opening line s with ⟨-, hbusy⟩ | ⟨-, -, -, t, hblank⟩ |
        ⟨hrunning, name, args, hw, hhistory, ⟨t, ht⟩ | ⟨rest, hbegun⟩⟩
      · cases hf.symm.trans hbusy
      · rw [hf] at hblank
        cases hblank
      · rw [hf] at ht
        cases ht
      · rw [hf] at hhistory hbegun
        cases hbegun
        obtain rfl : fs = [] := (horderly.idle hrunning).2
        refine ⟨h.history_taken hw (by simp) hhistory, ?_⟩
        intro g hg
        cases List.mem_singleton.1 hg
        exact ⟨line, es, [], rfl, hw, h.history, rfl⟩
  | @call s before after f c next hrest =>
      refine h.extend rfl (evolves_perform announces_emit f.prior c s).history_eq ?_
      intro g hg
      rcases List.mem_append.1 hg with hg | hg
      · exact ⟨g, by simp [hg], rfl, rfl, rfl⟩
      · rcases List.mem_cons.1 hg with rfl | hg
        · exact ⟨f, by simp, rfl, rfl, rfl⟩
        · exact ⟨g, by simp [hg], rfl, rfl, rfl⟩
  | @finish s s' before after f ending t hending hsettle =>
      have hhistory : s'.history = s.history := by
        have hconclude := (amends_conclude announces_emit f.name ending s).history_eq
        cases hsettle
        exact hconclude
      refine h.extend rfl hhistory fun g hg => ⟨g, ?_, rfl, rfl, rfl⟩
      rcases List.mem_append.1 hg with hg | hg
      · simp [hg]
      · simp [hg]
  | @abandon s before after f =>
      refine h.extend rfl rfl fun g hg => ⟨g, ?_, rfl, rfl, rfl⟩
      rcases List.mem_append.1 hg with hg | hg
      · simp [hg]
      · simp [hg]
  | @act s fs a => exact h.extend rfl (evolves_act announces_emit a s).history_eq hsame
  | edit op => exact h.extend rfl rfl hsame
  | advance ms => exact h.extend rfl rfl hsame
  | watch hooks => exact h.extend rfl rfl hsame

theorem recalls_run {es' : List Event} (hrun : Run m es' m') (horderly : m.Orderly) (h : Recalls es m) :
    Recalls (es ++ es') m' := by
  induction hrun generalizing es with
  | nil => rwa [List.append_nil]
  | @cons _ _ _ e es' hstep _ ih =>
      have hrest := ih (horderly.step hstep) (recalls_step horderly h hstep)
      rwa [List.append_assoc] at hrest

/-- After any order of events the history holds the lines that were taken and are not blank. A handler in flight sees
those before its own whenever it looks: no line is taken meanwhile, also none that it or a listener offers. -/
theorem history_kept {config : Config} {files : Tree} {registry : Registry} {log : Log} {world : World}
    (h : Run ⟨start config files registry log world, []⟩ es m) :
    m.session.history = remembered es ∧
    ∀ f ∈ m.flights,
      (∃ line before after, es = before ++ .submit line none :: after ∧ Text.words line = f.name :: f.args ∧
        m.session.history = remembered before ++ [line] ∧
        (m.session.perform emit f.prior .look).1.history = remembered before) ∧
      ∀ line, m.Refuses line ∧ m.session.act emit (.submit line) = (.busy, m.session) := by
  have horderly₀ : Orderly ⟨start config files registry log world, []⟩ :=
    .inl ⟨idle_start config files registry log world, rfl⟩
  have hrecalls : Recalls ([] ++ es) m := recalls_run h horderly₀ ⟨rfl, by simp⟩
  have horderly : m.Orderly := h.keeps (fun n e n' _ hstep hn => hn.step hstep) horderly₀
  refine ⟨hrecalls.history, fun f hf => ⟨?_, fun line => ?_⟩⟩
  · obtain ⟨line, before, after, he, hwords, hprior, hafter⟩ := hrecalls.flights f hf
    refine ⟨line, before, after, he, hwords, ?_, hprior⟩
    rw [hrecalls.history, he, remembered_append, remembered, remembered, List.filterMap_cons,
      remembered?_of_taken hwords (by simp)]
    exact congrArg (fun l => remembered before ++ line :: l) hafter
  · have hrunning : m.session.running = true := (horderly.busy (List.length_pos_of_mem hf)).1.running
    refine ⟨refuses_of_running hrunning line, ?_⟩
    rw [act, if_pos hrunning]

theorem attended_remembers : ∃ m, Run ⟨ofCommand lingering, []⟩
      [.submit "wait" none, .submit "wait" (some .busy), .act .clear ()] m ∧ m.session.history = ["wait"] ∧
    ∀ f ∈ m.flights, (m.session.perform emit f.prior .look).1.history = [] := by
  have hwords : Text.words "wait" = ["wait"] := by decide +kernel
  have hrun : Run ⟨ofCommand lingering, []⟩ [.submit "wait" none, .submit "wait" (some .busy), .act .clear ()]
      ⟨(attended.session.act emit .clear).2, attended.flights⟩ :=
    .cons (.begun (opening_ofCommand (c := lingering) hwords))
      (.cons (.answered (opening_of_running rfl "wait")) (.cons (.act .clear) .nil))
  obtain ⟨hhistory, hflights⟩ := history_kept hrun
  have hremembered : remembered [.submit "wait" none, .submit "wait" (some .busy), .act .clear ()] = ["wait"] := by
    decide +kernel
  refine ⟨_, hrun, hhistory.trans hremembered, fun f hf => ?_⟩
  obtain ⟨⟨line, before, after, -, -, hkept, hview⟩, -⟩ := hflights f hf
  rw [hhistory, hremembered] at hkept
  have hnil : remembered before = [] := by simpa using congrArg List.length hkept
  exact hview.trans hnil

end Scene

end Terminal
