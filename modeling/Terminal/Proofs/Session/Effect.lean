import Terminal.Proofs.Session.Change

/-!
What actions, listeners and the calls of a command can do to a session. Each of them amends it by changes of
its own and by those that listeners ask for as soon as they hear of a record.
-/

namespace Terminal

inductive Action.May (running : Bool) : Action → Session.Change → Prop
  | cancel : May running .cancel .cancel
  | stop {line : String} : running = true → May running (.interrupt line) .cancel
  | giveUp {line : String} (text user host cwd : String) :
      running = false → May running (.interrupt line) (.push (.input text user host cwd))
  | leave {line : String} : running = false → May running (.interrupt line) (.place none)
  | complete {line : String} (text : String) :
      running = false → May running (.complete line) (.push (.output text))
  | clear : May running .clear .clear
  | greet : May running .welcome .greet
  | welcome {text : String} : text ∈ Session.banner → May running .welcome (.push (.system text))
  | moveTo (path : String) : May running (.moveTo path) (.move path)
  | theme (label : String) : May running .cycleTheme (.assign "THEME" label)
  | themeReport (message : String) : May running .cycleTheme (.report .info message)
  | older (p : Option Nat) : May running .older (.place p)
  | newer (p : Option Nat) : May running .newer (.place p)

inductive Call.May (s : Session) : Call → Session.Change → Prop
  | print {text : String} : s.cancelled = false → May s (.print text) (.push (.output text))
  | clear : May s .clear .clear
  | moveTo (path : String) : May s (.moveTo path) (.move path)
  | setVariable (key value : String) : May s (.setVariable key value) (.assign key value)
  | openLink (url : String) : May s (.openLink url) (.openLink url)
  | change (op : FileOp) : May s (.change op) (.edit (op.resolve s.cwd))
  | takeProbe (url : String) : May s (.probe url) (.takeProbe url)
  | probeCancel {url : String} : May s (.probe url) .cancel
  | tick {url : String} (ticks : Int) : May s (.probe url) (.tick ticks)
  | rest : May s .pause .rest
  | pauseCancel : May s .pause .cancel
  | act {a : Action} {c : Session.Change} : a.May s.running c → May s (.act a) c
  | note (text : String) : May s (.note text) (.note text)

inductive Result.May (r : Result) : Session.Change → Prop
  | clear : r.clear = true → May r .clear
  | print {text : String} : text ∈ r.lines.getD [] → May r (.push (.output text))
  | move {path : String} : r.cwd = some path → May r (.move path)

namespace Session

def Heeds (s : Session) (c : Change) : Prop :=
  ∃ h ∈ s.watcher.hooks, h.action.May s.running c ∨ ∃ reply, c = .heed h.action reply

theorem Heeds.congr {s s' : Session} {c : Change} (hhooks : s'.watcher.hooks = s.watcher.hooks)
    (hrunning : s'.running = s.running) (h : s'.Heeds c) : s.Heeds c := by
  simpa [Heeds, hhooks, hrunning] using h

/-- A way to add a record after which only listeners change anything. -/
def Announces (emit : Emit) : Prop :=
  ∀ r s, ∃ cs, (∀ c ∈ cs, s.Heeds c) ∧ emit r s = (s.push r).amend cs

section

variable {emit : Emit} (hemit : Announces emit)
include hemit

theorem amends_emit (r : Record) (s : Session) :
    Amends (fun c => c = .push r ∨ s.Heeds c) s (emit r s) := by
  obtain ⟨cs, hcs, he⟩ := hemit r s
  refine ⟨.push r :: cs, ?_, he⟩
  intro c hc
  rcases List.mem_cons.1 hc with hc | hc
  · exact .inl hc
  · exact .inr (hcs c hc)

theorem amends_emit_of {P : Change → Prop} {s s' : Session} (hhooks : s'.watcher.hooks = s.watcher.hooks)
    (hrunning : s'.running = s.running) {r : Record} (hr : P (.push r)) :
    Amends (fun c => P c ∨ s.Heeds c) s' (emit r s') := by
  refine (amends_emit hemit r s').mono ?_
  rintro c (rfl | hc)
  · exact .inl hr
  · exact .inr (hc.congr hhooks hrunning)

theorem amends_interrupt (line : String) (s : Session) :
    Amends (fun c => (Action.interrupt line).May s.running c ∨ s.Heeds c) s (s.interrupt emit line) := by
  rw [interrupt]
  split
  · rename_i hrunning
    rw [cancel_snd]
    exact .single (c := .cancel) (.inl (.stop hrunning))
  · rename_i hrunning
    have hidle : s.running = false := by simpa using hrunning
    split
    · exact .refl
    · have hrecord : Amends (fun c => (Action.interrupt line).May s.running c ∨ s.Heeds c) s
          (emit (s.typed (line ++ cancelMark)) s) := amends_emit_of hemit rfl rfl (.giveUp _ _ _ _ hidle)
      exact hrecord.trans (.single (c := .place none) (.inl (.leave hidle)))

theorem amends_complete (line : String) (s : Session) :
    Amends (fun c => (Action.complete line).May s.running c ∨ s.Heeds c) s (s.complete emit line).2 := by
  rw [complete]
  split
  · exact .refl
  · rename_i hrunning
    have hidle : s.running = false := by simpa using hrunning
    dsimp only
    split
    · exact .refl
    · exact amends_emit_of hemit rfl rfl (.complete _ hidle)

theorem amends_welcome (s : Session) :
    Amends (fun c => Action.welcome.May s.running c ∨ s.Heeds c) s (s.welcome emit) := by
  rw [welcome]
  split
  · exact .refl
  · have hgreet : Amends (fun c => Action.welcome.May s.running c ∨ s.Heeds c) s (Change.greet.apply s) :=
      .single (.inl .greet)
    refine hgreet.trans (.foldl ?_)
    intro s' hhooks hrunning text htext
    exact amends_emit_of hemit hhooks hrunning (.welcome htext)

theorem amends_act (a : Action) (s : Session) :
    Amends (fun c => a.May s.running c ∨ s.Heeds c) s (s.act emit a).2 := by
  cases a with
  | cancel =>
      rw [act, cancel_snd]
      exact .single (c := .cancel) (.inl .cancel)
  | interrupt line => exact amends_interrupt hemit line s
  | complete line => exact amends_complete hemit line s
  | welcome => exact amends_welcome hemit s
  | clear => exact .single (c := .clear) (.inl .clear)
  | moveTo path => exact .single (c := .move path) (.inl (.moveTo path))
  | cycleTheme =>
      have hassign : Amends (fun c => Action.cycleTheme.May s.running c ∨ s.Heeds c) s
          (Change.apply (.assign "THEME" s.theme.next.label) s) := .single (.inl (.theme _))
      exact hassign.trans (.single (c := .report .info _) (.inl (.themeReport _)))
  | older => exact .single (c := .place _) (.inl (.older _))
  | newer => exact .single (c := .place _) (.inl (.newer _))
  | _ => exact .refl

theorem amends_fire {h : Hook} {s s' : Session} (hh : h ∈ s.watcher.hooks)
    (hhooks : s'.watcher.hooks = s.watcher.hooks) (hrunning : s'.running = s.running) :
    Amends s.Heeds s' (s'.fire emit h) := by
  have hact : Amends s.Heeds s' (s'.act emit h.action).2 := by
    refine (amends_act hemit h.action s').mono ?_
    rintro c (hc | hc)
    · exact ⟨h, hh, .inl (hrunning ▸ hc)⟩
    · exact hc.congr hhooks hrunning
  exact hact.trans (.single (c := .heed h.action _) ⟨h, hh, .inr ⟨_, rfl⟩⟩)

end

theorem announces_emitWithin (depth : Nat) : Announces (emitWithin depth) := by
  -- what a listener prints is heard one level deeper
  induction depth with
  | zero => exact fun r s => ⟨[], by simp, rfl⟩
  | succ depth ih =>
      intro r s
      refine Amends.foldl ?_
      intro s' hhooks hrunning h hh
      have hmem : h ∈ s.watcher.hooks := (List.mem_filter.1 hh).1
      exact amends_fire ih hmem hhooks hrunning

theorem announces_emit : Announces emit := fun r s => announces_emitWithin _ r s

theorem amends_awaitProbe (url : String) (start : Fraction) (s : Session) :
    Amends (fun d => (Call.probe url).May s d) s (s.awaitProbe url start).2 := by
  have htake : Amends (fun d => (Call.probe url).May s d) s (s.takeProbe url).2 :=
    .single (c := .takeProbe url) (.takeProbe url)
  have hcancel : Amends (fun d => (Call.probe url).May s d) s
      (if (s.takeProbe url).1.cancels then (s.takeProbe url).2.cancel.2 else (s.takeProbe url).2) := by
    split
    · rw [cancel_snd]
      exact htake.trans (.single (c := .cancel) .probeCancel)
    · exact htake
  rw [awaitProbe]
  dsimp only
  split
  · rename_i ticks _
    exact hcancel.trans (.single (c := .tick ticks) (.tick ticks))
  · exact hcancel
  · exact hcancel

theorem amends_probe (url : String) (s : Session) :
    Amends (fun d => (Call.probe url).May s d) s (s.probe url).2 := by
  rw [probe]
  split
  · exact .refl
  · split
    · exact amends_awaitProbe url _ s
    · exact .refl

theorem amends_pause (s : Session) : Amends (fun d => Call.pause.May s d) s s.pause := by
  have hrest : Amends (fun d => Call.pause.May s d) s (Change.rest.apply s) := .single .rest
  rw [pause]
  split
  · exact .refl
  · dsimp only
    split
    · rw [cancel_snd]
      exact hrest.trans (.single (c := .cancel) .pauseCancel)
    · exact hrest

section

variable {emit : Emit} (hemit : Announces emit)
include hemit

theorem amends_perform (prior : List String) (c : Call) (s : Session) :
    Amends (fun d => c.May s d ∨ s.Heeds d) s (s.perform emit prior c).2 := by
  cases c with
  | look => exact .refl
  | print text =>
      rw [perform]
      dsimp only
      split
      · exact .refl
      · rename_i hc
        exact amends_emit_of hemit rfl rfl (.print (by simpa using hc))
  | clear => exact .single (c := .clear) (.inl .clear)
  | moveTo path => exact .single (c := .move path) (.inl (.moveTo path))
  | setVariable key value => exact .single (c := .assign key value) (.inl (.setVariable key value))
  | openLink url => exact .single (c := .openLink url) (.inl (.openLink url))
  | change op => exact .single (c := .edit (op.resolve s.cwd)) (.inl (.change op))
  | probe url => exact (amends_probe url s).mono fun d hd => .inl hd
  | pause => exact (amends_pause s).mono fun d hd => .inl hd
  | act a => exact (amends_act hemit a s).mono fun d hd => hd.imp_left .act
  | note text => exact .single (c := .note text) (.inl (.note text))

end

abbrev Evolves (s s' : Session) : Prop := Amends (fun c => c.marks = false) s s'

theorem Heeds.marks {s : Session} {c : Change} (h : s.Heeds c) : c.marks = false := by
  obtain ⟨⟨after, action⟩, -, hmay | ⟨reply, rfl⟩⟩ := h
  · cases hmay <;> rfl
  · rfl

section

variable {emit : Emit} (hemit : Announces emit)
include hemit

theorem evolves_emit (r : Record) (s : Session) : s.Evolves (emit r s) := by
  refine (amends_emit hemit r s).mono ?_
  rintro c (rfl | hc)
  · rfl
  · exact hc.marks

theorem evolves_act (a : Action) (s : Session) : s.Evolves (s.act emit a).2 := by
  refine (amends_act hemit a s).mono ?_
  rintro c (hmay | hc)
  · cases hmay <;> rfl
  · exact hc.marks

theorem evolves_perform (prior : List String) (c : Call) (s : Session) : s.Evolves (s.perform emit prior c).2 := by
  refine (amends_perform hemit prior c s).mono ?_
  rintro d (hmay | hd)
  · cases hmay with
    | act hact => cases hact <;> rfl
    | _ => rfl
  · exact hd.marks

theorem amends_apply (r : Result) (s : Session) :
    Amends (fun c => r.May c ∨ s.Heeds c) s (s.apply emit r) := by
  have hclear : Amends (fun c => r.May c ∨ s.Heeds c) s (if r.clear then s.clear else s) := by
    split
    · rename_i hc
      exact .single (c := .clear) (.inl (.clear hc))
    · exact .refl
  have hlines : Amends (fun c => r.May c ∨ s.Heeds c) s
      ((r.lines.getD []).foldl (fun s line => s.print emit line) (if r.clear then s.clear else s)) := by
    refine hclear.trans (.foldl ?_)
    intro s' hhooks hrunning line hline
    exact amends_emit_of hemit (hhooks.trans hclear.hooks_eq) (hrunning.trans hclear.running_eq) (.print hline)
  rw [apply]
  split
  · rename_i path hpath
    exact hlines.trans (.single (c := .move path) (.inl (.move hpath)))
  · exact hlines

theorem evolves_apply (r : Result) (s : Session) : s.Evolves (s.apply emit r) := by
  refine (amends_apply hemit r s).mono ?_
  rintro c (hmay | hc)
  · cases hmay <;> rfl
  · exact hc.marks

end

end Session

end Terminal
