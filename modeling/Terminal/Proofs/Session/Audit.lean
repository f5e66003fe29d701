import Terminal.Proofs.Session.Cancelling

namespace Terminal

namespace Session

def Logs (s s' : Session) (l : List (Level × String)) : Prop :=
  ∃ entries : List LogEntry, s'.log = entries.foldl Log.add s.log ∧
    entries.map (fun e => (e.level, e.message)) = l ∧ ∀ e ∈ entries, e.source = "session"

namespace Logs

variable {s s' s'' : Session} {l l' : List (Level × String)}

theorem of_eq (h : s'.log = s.log) : Logs s s' [] := ⟨[], h, rfl, by simp⟩

theorem report (level : Level) (message : String) (s : Session) : Logs s (s.report level message) [(level, message)] :=
  ⟨[⟨level, message, "session", s.user⟩], rfl, rfl, by simp⟩

theorem append (h : Logs s s' l) (h' : Logs s' s'' l') : Logs s s'' (l ++ l') := by
  obtain ⟨es, hlog, hl, hsource⟩ := h
  obtain ⟨es', hlog', hl', hsource'⟩ := h'
  refine ⟨es ++ es', ?_, ?_, ?_⟩
  · rw [hlog', hlog, List.foldl_append]
  · rw [List.map_append, hl, hl']
  · intro e he
    rcases List.mem_append.1 he with he | he
    · exact hsource e he
    · exact hsource' e he

theorem trans_eq (h : Logs s s' l) (h' : s''.log = s'.log) : Logs s s'' l := by
  have happend := h.append (of_eq h')
  rwa [List.append_nil] at happend

end Logs

def Change.entry? : Change → Option (Level × String)
  | report level message => some (level, message)
  | _ => none

theorem logs_apply (c : Change) (s : Session) : Logs s (c.apply s) c.entry?.toList := by
  cases c with
  | report level message => exact .report level message s
  | _ => exact .of_eq rfl

theorem logs_amend (cs : List Change) (s : Session) : Logs s (s.amend cs) (cs.filterMap Change.entry?) := by
  induction cs generalizing s with
  | nil => exact .of_eq rfl
  | cons c cs ih =>
      have happend := (logs_apply c s).append (ih (c.apply s))
      rw [amend_cons, List.filterMap_cons]
      cases hc : c.entry? with
      | none => simpa [hc] using happend
      | some e => simpa [hc] using happend

variable {P : Change → Prop} {s s' : Session}

theorem Amends.logs_nothing (h : Amends P s s') (hP : ∀ c, P c → c.entry? = none) : Logs s s' [] := by
  obtain ⟨cs, hcs, rfl⟩ := h
  have hnone : cs.filterMap Change.entry? = [] := List.filterMap_eq_nil_iff.2 fun c hc => hP c (hcs c hc)
  exact hnone ▸ logs_amend cs s

theorem not_heeds (h : s.watcher.hooks = []) (c : Change) : ¬ s.Heeds c := by
  rintro ⟨hook, hmem, -⟩
  rw [h] at hmem
  cases hmem

theorem emit_of_no_hooks (h : s.watcher.hooks = []) (r : Record) : emit r s = s.push r := by
  rw [emit, h]
  rfl

def IsThemeReport (x : Level × String) : Prop := ∃ n : ThemeName, x = (.info, "theme set to " ++ n.label)

theorem entry?_of_may {a : Action} {running : Bool} {c : Change} (h : a.May running c) (ha : a ≠ .cycleTheme) :
    c.entry? = none := by
  cases h with
  | themeReport message => exact absurd rfl ha
  | _ => rfl

def ThemeReports (count : Nat) (l : List (Level × String)) : Prop := l.length = count ∧ ∀ x ∈ l, IsThemeReport x

theorem themeReports_nil : ThemeReports 0 [] := ⟨rfl, by simp⟩

theorem ThemeReports.append {n n' : Nat} {l l' : List (Level × String)} (h : ThemeReports n l)
    (h' : ThemeReports n' l') : ThemeReports (n + n') (l ++ l') := by
  refine ⟨by rw [List.length_append, h.1, h'.1], ?_⟩
  intro x hx
  rcases List.mem_append.1 hx with hx | hx
  · exact h.2 x hx
  · exact h'.2 x hx

theorem logs_act (hhooks : s.watcher.hooks = []) (a : Action) :
    ∃ themes, Logs s (s.act emit a).2 themes ∧ ThemeReports (if a = .cycleTheme then 1 else 0) themes := by
  by_cases ha : a = .cycleTheme
  · subst ha
    have hreport : Logs s (s.act emit .cycleTheme).2 [(.info, "theme set to " ++ s.theme.next.label)] :=
      .report _ _ (s.setVariable "THEME" s.theme.next.label)
    exact ⟨_, hreport, rfl, by simpa using ⟨s.theme.next, rfl⟩⟩
  · refine ⟨[], ?_, by simp [ha, themeReports_nil]⟩
    refine (amends_act announces_emit a s).logs_nothing ?_
    rintro c (hmay | hc)
    · exact entry?_of_may hmay ha
    · exact absurd hc (not_heeds hhooks c)

def cyclesTheme : Call → Bool
  | .act .cycleTheme => true
  | _ => false

theorem logs_perform (hhooks : s.watcher.hooks = []) (prior : List String) (c : Call) :
    ∃ themes, Logs s (s.perform emit prior c).2 themes ∧ ThemeReports (if cyclesTheme c then 1 else 0) themes := by
  have hquiet (hc : ∀ a, c ≠ .act a) : Logs s (s.perform emit prior c).2 [] := by
    refine (amends_perform announces_emit prior c s).logs_nothing ?_
    rintro d (hmay | hd)
    · cases hmay with
      | act _ => exact absurd rfl (hc _)
      | _ => rfl
    · exact absurd hd (not_heeds hhooks d)
  cases c with
  | act a =>
      have hcycles : cyclesTheme (.act a) = true ↔ a = .cycleTheme := by
        cases a <;> simp [cyclesTheme]
      obtain ⟨themes, hlogs, hthemes⟩ := logs_act hhooks a
      refine ⟨themes, hlogs, ?_⟩
      simpa [hcycles] using hthemes
  | _ => exact ⟨[], hquiet (by simp), themeReports_nil⟩

theorem logs_typeIn (hhooks : s.watcher.hooks = []) (text : String) : Logs s (s.typeIn text) [] := by
  have hpush : s.typeIn text = push (s.typed text) { s with turn := some {} } :=
    emit_of_no_hooks (s := { s with turn := some {} }) hhooks _
  rw [hpush]
  exact .of_eq rfl

theorem hooks_typeIn (text : String) (s : Session) : (s.typeIn text).watcher.hooks = s.watcher.hooks :=
  (begins_typeIn text s).hooks

theorem logs_opening (hhooks : s.watcher.hooks = []) (line : String) :
    (s.running = true ∧ s.opening line = (.answered .busy, s)) ∨
    (s.running = false ∧ Text.words line = [] ∧ Logs s (s.opening line).2 [] ∧
      ∃ t, (s.opening line).1 = .answered (.settled t)) ∨
    (s.running = false ∧ ∃ name args, Text.words line = name :: args ∧ s.registry.get? name = none ∧
      Logs s (s.opening line).2 [(.warning, "command not found: " ++ name)] ∧
      ∃ t, (s.opening line).1 = .answered (.settled t)) ∨
    (s.running = false ∧ ∃ name args, Text.words line = name :: args ∧ (s.registry.get? name).isSome ∧
      Logs s (s.opening line).2 [(.debug, "run " ++ Text.trim line)] ∧
      ∃ prior rest, (s.opening line).1 = .begun ⟨name, args, prior, rest⟩) := by
  cases hrunning : s.running with
  | true => exact .inl ⟨rfl, opening_of_running hrunning line⟩
  | false =>
      right
      cases hw : Text.words line with
      | nil =>
          left
          rw [opening_of_blank hrunning hw]
          exact ⟨rfl, rfl, (logs_typeIn hhooks "").trans_eq rfl, _, rfl⟩
      | cons name args =>
          right
          have hregistry := (begins_typeIn line s).registry
          have hremember : Logs s ((s.typeIn line).remember line) [] := (logs_typeIn hhooks line).trans_eq rfl
          cases hc : (s.typeIn line).registry.get? name with
          | none =>
              left
              have hreport := hremember.append (.report .warning ("command not found: " ++ name) _)
              have hprint : (((s.typeIn line).remember line).missing name).log =
                  (((s.typeIn line).remember line).report .warning ("command not found: " ++ name)).log := by
                rw [missing, print, emit_of_no_hooks]
                · rfl
                · exact (hooks_typeIn line s).trans hhooks
              rw [opening_of_unknown hrunning hw hc]
              exact ⟨rfl, name, args, rfl, hregistry ▸ hc, hreport.trans_eq hprint, _, rfl⟩
          | some c =>
              right
              have hreport := hremember.append (.report .debug ("run " ++ Text.trim line) _)
              rw [opening_of_command hrunning hw hc]
              exact ⟨rfl, name, args, rfl, by rw [← hregistry, hc]; rfl, hreport.trans_eq rfl, _, _, rfl⟩

theorem logs_conclude (hhooks : s.watcher.hooks = []) (name : String) (ending : Except Failure (Option Result)) :
    Logs s (s.conclude emit name ending) ((verdict? s.cancelled name ending).bind Verdict.entry).toList := by
  cases hv : verdict? s.cancelled name ending with
  | some v =>
      obtain ⟨ds, hds, he⟩ := conclude_of_verdict announces_emit hv
      have hnone : ds = [] := List.eq_nil_iff_forall_not_mem.2 fun d hd => not_heeds hhooks d (hds d hd)
      have hentries : (v.changes ++ ds).filterMap Change.entry? = v.entry.toList := by
        subst hnone
        rcases v with ⟨_ | _, _ | e, line⟩ <;> rfl
      rw [he]
      exact hentries ▸ logs_amend (v.changes ++ ds) s
  | none =>
      refine (amends_conclude announces_emit name ending s).logs_nothing ?_
      rintro c (hmay | hc)
      · cases hmay with
        | verdict hv' _ => cases hv.symm.trans hv'
        | result _ _ hr => cases hr <;> rfl
      · exact absurd hc (not_heeds hhooks c)

/-- What was logged last, against how the handler ended, whether its token was cancelled and what the turn says. -/
structure Audited (name : String) (ending : Except Failure (Option Result)) (cancelled : Bool) (t : Turn)
    (last : List (Level × String)) : Prop where
  marked : t.cancelled = true ↔ ending = .error .cancelled ∨ cancelled = true ∧ complaint? ending = none
  applied : t.cancelled = false → (∃ result, ending = .ok result) → last = []
  cancelled : t.cancelled = true → (∀ f, ending ≠ .error (.fault f)) → last = [(.info, "cancelled: " ++ name)]
  hushed : t.cancelled = true → (∃ f, ending = .error (.fault f)) → last = []
  complained : ∀ message, complaint? ending = some message → last = [(.warning, message)]
  broken : ∀ f, t.cancelled = false → ending = .error (.fault f) →
    last = [(.error, name ++ ": " ++ f.label ++ ": " ++ f.message)]

theorem cancelled_of_no_verdict {name : String} {ending : Except Failure (Option Result)}
    (hv : verdict? s.cancelled name ending = none) (hbusy : s.Busy) {t : Turn}
    (h : s.settle name ending = (.settled t, s')) : t.cancelled = false := by
  obtain ⟨-, result, rfl, he⟩ := conclude_of_no_verdict emit hv
  have hevolves : s.Evolves (s.conclude emit name (.ok result)) := by
    rw [he]
    cases result with
    | none => exact .refl
    | some r => exact evolves_apply announces_emit r s
  obtain ⟨t', hturn, ht'⟩ := (hbusy.evolve hevolves).turn
  rw [settle, finish] at h
  simp only [land, hturn, Option.getD_some] at h
  cases h
  exact ht'

theorem audited_of_settle (hbusy : s.Busy) {name : String} {ending : Except Failure (Option Result)} {t : Turn}
    (h : s.settle name ending = (.settled t, s')) :
    Audited name ending s.cancelled t ((verdict? s.cancelled name ending).bind Verdict.entry).toList := by
  have hmark : t.cancelled = ((verdict? s.cancelled name ending).map Verdict.marks).getD false := by
    cases hv : verdict? s.cancelled name ending with
    | some v => exact (closes_of_settle hbusy hv h).marked
    | none => exact cancelled_of_no_verdict hv hbusy h
  cases hc : s.cancelled with
  | _ =>
      rw [hc] at hmark
      cases ending with
      | ok result => constructor <;> simp [hmark, verdict?, complaint?, Verdict.stopped]
      | error f => cases f <;> constructor <;> simp [hmark, verdict?, complaint?, Verdict.stopped, Verdict.complaint,
          Verdict.hushed, Verdict.broken, Failure.message]

end Session

open Session

namespace Scene

variable {m m' : Scene}

def Event.cycles : Event → Bool
  | .call c => cyclesTheme c
  | .act .cycleTheme _ => true
  | _ => false

theorem logs_step {e : Event} (hrunning : m.session.running = true) (hhooks : m.session.watcher.hooks = [])
    (he : ¬ e.Ends ∧ e ≠ .outside) (hstep : Step m e m') :
    m'.session.running = true ∧ m'.session.watcher.hooks = [] ∧
      m'.flights.map Flight.name = m.flights.map Flight.name ∧
      ∃ themes, Logs m.session m'.session themes ∧ ThemeReports (if e.cycles then 1 else 0) themes := by
  cases hstep with
  | answered ho =>
      cases ho.symm.trans (opening_of_running hrunning _)
      exact ⟨hrunning, hhooks, rfl, [], .of_eq rfl, themeReports_nil⟩
  | begun hf => cases hf.symm.trans (opening_of_running hrunning _)
  | @call s _ _ f c _ _ =>
      have hevolves := evolves_perform announces_emit f.prior c s
      exact ⟨hevolves.running_eq.trans hrunning, hevolves.hooks_eq.trans hhooks, by simp,
        logs_perform hhooks f.prior c⟩
  | finish _ _ _ _ => exact absurd (.finish _ _) he.1
  | abandon _ _ => exact absurd .abandon he.1
  | @act s _ a =>
      have hevolves := evolves_act announces_emit a s
      obtain ⟨themes, hlogs, hthemes⟩ := logs_act hhooks a
      refine ⟨hevolves.running_eq.trans hrunning, hevolves.hooks_eq.trans hhooks, rfl, themes, hlogs, ?_⟩
      have hcycles : Event.cycles (.act a (s.act emit a).1) = true ↔ a = .cycleTheme := by
        cases a <;> simp [Event.cycles]
      simpa [hcycles] using hthemes
  | _ => exact absurd rfl he.2

theorem logs_run {es : List Event} (hrun : Run m es m') (hrunning : m.session.running = true)
    (hhooks : m.session.watcher.hooks = []) (hes : ∀ e ∈ es, ¬ e.Ends ∧ e ≠ .outside) :
    m'.session.watcher.hooks = [] ∧ m'.flights.map Flight.name = m.flights.map Flight.name ∧
      ∃ themes, Logs m.session m'.session themes ∧ ThemeReports (es.countP Event.cycles) themes := by
  induction hrun with
  | nil => exact ⟨hhooks, rfl, [], .of_eq rfl, themeReports_nil⟩
  | @cons _ _ _ e es hstep _ ih =>
      obtain ⟨hrunning', hhooks', hnames, themes, hlogs, hthemes⟩ := logs_step hrunning hhooks (hes e (by simp)) hstep
      obtain ⟨hlast, hnames', themes', hlogs', hthemes'⟩ := ih hrunning' hhooks' fun e' he' => hes e' (by simp [he'])
      refine ⟨hlast, hnames'.trans hnames, themes ++ themes', hlogs.append hlogs', ?_⟩
      have hcount : (e :: es).countP Event.cycles = (if e.cycles then 1 else 0) + es.countP Event.cycles := by
        rw [List.countP_cons, Nat.add_comm]
      rw [hcount]
      exact hthemes.append hthemes'

theorem logs_answered {line : String} {t : Turn} (hhooks : m.session.watcher.hooks = [])
    (hstep : Step m (.submit line (some (.settled t))) m') :
    Text.words line = [] ∧ Logs m.session m'.session [] ∨
      ∃ name args, Text.words line = name :: args ∧ m.session.registry.get? name = none ∧
        Logs m.session m'.session [(.warning, "command not found: " ++ name)] := by
  cases hstep with
  | answered ho =>
      rcases logs_opening hhooks line with ⟨-, he⟩ | ⟨-, hw, hlogs, -⟩ | ⟨-, name, args, hw, hc, hlogs, -⟩ |
        ⟨-, name, args, -, -, -, prior, rest, he⟩
      · cases ho.symm.trans he
      · rw [ho] at hlogs
        exact .inl ⟨hw, hlogs⟩
      · rw [ho] at hlogs
        exact .inr ⟨name, args, hw, hc, hlogs⟩
      · rw [ho] at he
        cases he

theorem logs_begun {line : String} (horderly : m.Orderly) (hhooks : m.session.watcher.hooks = [])
    (hstep : Step m (.submit line none) m') :
    m'.session.running = true ∧ m'.session.watcher.hooks = [] ∧
      ∃ name args, Text.words line = name :: args ∧ (m.session.registry.get? name).isSome ∧
        m'.flights.map Flight.name = [name] ∧
        Logs m.session m'.session [(.debug, "run " ++ Text.trim line)] := by
  cases hstep with
  | @begun s s' fs _ f hf =>
      have hkept := (opening_keeps line s).2
      obtain ⟨hrunning, s₁, -, -, hlaunch⟩ := opening_begun hf
      have hnone : fs = [] := (horderly.idle hrunning).2
      rw [hf] at hkept
      refine ⟨by rw [hlaunch]; rfl, hkept.trans hhooks, ?_⟩
      rcases logs_opening hhooks line with ⟨hbusy, -⟩ | ⟨-, -, -, t, he⟩ | ⟨-, name, args, -, -, -, t, he⟩ |
        ⟨-, name, args, hw, hc, hlogs, prior, rest, he⟩
      · rw [hrunning] at hbusy
        cases hbusy
      · rw [hf] at he
        cases he
      · rw [hf] at he
        cases he
      · rw [hf] at he hlogs
        cases he
        exact ⟨name, args, hw, hc, by simp [hnone], hlogs⟩

/-- Where nobody listens, a line that is blank logs nothing and an unknown command is warned of. A command is logged as
it begins; then, beside changes of the theme, nothing is logged but what the end of the handler is audited by. -/
theorem turn_audited (h : m.Reachable) (hhooks : m.session.watcher.hooks = []) :
    (∀ line t m', Step m (.submit line (some (.settled t))) m' →
      Text.words line = [] ∧ Logs m.session m'.session [] ∨
      ∃ name args, Text.words line = name :: args ∧ m.session.registry.get? name = none ∧
        Logs m.session m'.session [(.warning, "command not found: " ++ name)]) ∧
    ∀ line m₁ es m₂ ending t m', Step m (.submit line none) m₁ → Run m₁ es m₂ →
      (∀ e ∈ es, ¬ e.Ends ∧ e ≠ .outside) → Step m₂ (.finish ending t) m' →
      ∃ name args themes last, Text.words line = name :: args ∧ (m.session.registry.get? name).isSome ∧
        Logs m.session m'.session ((.debug, "run " ++ Text.trim line) :: (themes ++ last)) ∧
        ThemeReports (es.countP Event.cycles) themes ∧ Audited name ending m₂.session.cancelled t last := by
  refine ⟨fun line t m' hstep => logs_answered hhooks hstep, ?_⟩
  intro line m₁ es m₂ ending t m' hstep hrun hes hend
  have horderly₁ : m₁.Orderly := h.orderly.step hstep
  have horderly₂ : m₂.Orderly := hrun.keeps (fun n e n' _ hstep hn => hn.step hstep) horderly₁
  obtain ⟨hrunning, hhooks₁, name, args, hw, hc, hnames, hdebug⟩ := logs_begun h.orderly hhooks hstep
  obtain ⟨hhooks₂, hnames₂, themes, hlogs, hthemes⟩ := logs_run hrun hrunning hhooks₁ hes
  cases hend with
  | @finish s s' before after f _ _ _ hsettle =>
      obtain ⟨hbusy, -, -⟩ := horderly₂.alone
      have hname : f.name = name := by
        have hmem : f.name ∈ (before ++ f :: after).map Flight.name := by simp
        rw [hnames₂, hnames] at hmem
        exact List.mem_singleton.1 hmem
      have hconclude := logs_conclude hhooks₂ f.name ending
      have hlast : Logs s s' ((verdict? s.cancelled f.name ending).bind Verdict.entry).toList := by
        cases hsettle
        exact hconclude.trans_eq rfl
      have haudited := audited_of_settle hbusy hsettle
      rw [hname] at hlast haudited
      exact ⟨name, args, themes, _, hw, hc, (hdebug.append hlogs).append hlast, hthemes, haudited⟩

theorem halted_audited : ∃ m₁ m₂ m' t, Step ⟨ofCommand halting, []⟩ (.submit "halt" none) m₁ ∧
    Run m₁ [.call (.act .cancel), .call (.print "after")] m₂ ∧ Step m₂ (.finish (.ok halted) t) m' ∧
    Logs (ofCommand halting) m'.session [(.debug, "run halt"), (.info, "cancelled: halt")] := by
  have hreach : (Scene.mk (ofCommand halting) []).Reachable := ⟨_, _, _, _, _, _, .nil⟩
  have hwords : Text.words "halt" = ["halt"] := by decide +kernel
  have hbegun : Step ⟨ofCommand halting, []⟩ _ _ := .begun (opening_ofCommand (c := halting) hwords)
  have hend := @Step.finish (((cancelledBy halting).perform emit [] (.print "after")).2) _ [] []
    ⟨"halt", [], [], .done halted⟩ (.ok halted) _ rfl rfl
  have hrun := Run.cons (.call (s := ((ofCommand halting).opening "halt").2) [] []
    (f := ⟨"halt", [], [], halting.handler []⟩) rfl) (.cons (.call [] [] rfl) .nil)
  have hmeanwhile : ∀ e ∈ [Event.call (.act .cancel), .call (.print "after")], ¬ e.Ends ∧ e ≠ .outside := by
    intro e he
    simp only [List.mem_cons, List.not_mem_nil, or_false] at he
    rcases he with rfl | rfl
    all_goals exact ⟨nofun, nofun⟩
  obtain ⟨name, args, themes, last, hw, -, hlogs, hthemes, haudited⟩ :=
    (turn_audited hreach rfl).2 _ _ _ _ _ _ _ hbegun hrun hmeanwhile hend
  cases hw.symm.trans hwords
  have hnone : themes = [] := List.length_eq_zero_iff.1 hthemes.1
  have hlast : last = [(.info, "cancelled: halt")] :=
    haudited.cancelled (haudited.marked.2 (.inr ⟨rfl, rfl⟩)) (by simp)
  have hline : "run " ++ Text.trim halting.info.name = "run halt" := by decide +kernel
  rw [hnone, hlast, hline] at hlogs
  exact ⟨_, _, _, _, hbegun, hrun, hend, hlogs⟩

def faltering : Command := ⟨⟨"falter", "Fail once it is stopped", none⟩, fun _ =>
  .call (.act .cancel) fun _ => .fail (.fault (.other "ValueError" "late"))⟩

/-- A turn that counts as cancelled, of which the log says nothing but that it began. -/
theorem faltered_unlogged : ∃ m₁ m₂ m' ending t, (Scene.mk (ofCommand faltering) []).Reachable ∧
    Step ⟨ofCommand faltering, []⟩ (.submit "falter" none) m₁ ∧ Run m₁ [.call (.act .cancel)] m₂ ∧
    Step m₂ (.finish ending t) m' ∧ t.cancelled = true ∧
    m'.session.log.entries = [⟨.debug, "run falter", "session", "guest"⟩] := by
  have hwords : Text.words "falter" = ["falter"] := by decide +kernel
  have hbegun : Step ⟨ofCommand faltering, []⟩ _ _ := .begun (opening_ofCommand (c := faltering) hwords)
  have hrun := Run.cons (.call (s := ((ofCommand faltering).opening "falter").2) [] []
    (f := ⟨"falter", [], [], faltering.handler []⟩) rfl) .nil
  have hend := @Step.finish (cancelledBy faltering) _ [] []
    ⟨"falter", [], [], .fail (.fault (.other "ValueError" "late"))⟩ (.error (.fault (.other "ValueError" "late"))) _
    rfl rfl
  exact ⟨_, _, _, _, _, ⟨_, _, _, _, _, _, .nil⟩, hbegun, hrun, hend, rfl, by decide +kernel⟩

end Scene

end Terminal
