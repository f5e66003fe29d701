import Terminal.Proofs.Commands.Own

namespace Terminal

open Session Commands

namespace Script

variable {P : Part → Prop} {fresh : Bool} {script : Script (Option Result)} {s : Session}

theorem Confined.touches_run (h : script.Confined P fresh) (prior : List String) (s : Session) :
    Touches (fun p => P p ∨ s.Stirred p) s (script.run (perform emit prior) s).2 := by
  induction script generalizing s fresh with
  | call c next ih =>
      have hhooks := (amends_perform announces_emit prior c s).hooks_eq
      have hfirst : Touches (fun p => P p ∨ s.Stirred p) s (s.perform emit prior c).2 :=
        (touches_perform prior c s).mono fun p hp => hp.imp_left (h.1 p)
      have hrest := ih (s.perform emit prior c).1 (h.2 _) (s.perform emit prior c).2
      exact hfirst.trans (hrest.mono fun p hp => hp.imp_right (.congr hhooks))
  | _ => exact .refl

theorem Confined.affects_of_run (h : script.Confined P fresh) (prior : List String) {r : Result}
    (hr : (script.run (perform emit prior) s).1.ending? = some (.ok (some r))) {p : Part} (hp : r.Affects p) : P p := by
  induction script generalizing s fresh with
  | done result =>
      cases hr
      exact h r rfl p hp
  | fail f => cases hr
  | endless => cases hr
  | call c next ih => exact ih _ (h.2 _) hr

theorem Confined.complaint_of_run (h : script.Confined P fresh) (prior : List String)
    (hcomplaint : (script.run (perform emit prior) s).1.ending?.bind complaint? ≠ none) :
    fresh = true ∧ Touches s.Stirred s (script.run (perform emit prior) s).2 := by
  induction script generalizing s fresh with
  | done result => exact absurd rfl hcomplaint
  | fail f => exact ⟨h.resolve_right hcomplaint, .refl⟩
  | endless => exact absurd rfl hcomplaint
  | call c next ih =>
      have hhooks := (amends_perform announces_emit prior c s).hooks_eq
      obtain ⟨hfresh, hrest⟩ := ih _ (h.2 _) hcomplaint
      obtain ⟨hharmless, hfresh⟩ : c.harmless = true ∧ fresh = true := by simpa using hfresh
      have hfirst : Touches s.Stirred s (s.perform emit prior c).2 :=
        (touches_perform prior c s).mono fun p hp => hp.resolve_left (Call.not_affects hharmless p)
      exact ⟨hfresh, hfirst.trans (hrest.mono fun p hp => hp.congr hhooks)⟩

end Script

namespace Session

def Flight.complaint? (f : Flight) (s : Session) : Option String :=
  (f.rest.run (perform emit f.prior) s).1.ending?.bind Session.complaint?

def lineComplaint? (line : String) (s : Session) : Option String :=
  match s.opening line with
  | (.begun f, s) => f.complaint? s
  | (.answered _, _) => none

variable {s s' : Session} {f : Flight}

theorem hooks_run {α : Type} (prior : List String) (script : Script α) (s : Session) :
    (script.run (perform emit prior) s).2.watcher.hooks = s.watcher.hooks :=
  Script.run_keeps (P := fun s' => s'.watcher.hooks = s.watcher.hooks)
    (fun c s' hs => (evolves_perform announces_emit prior c s').hooks_eq.trans hs) script rfl

theorem hooks_fly (f : Flight) (s : Session) : (s.fly f).2.watcher.hooks = s.watcher.hooks := by
  have hrun := hooks_run f.prior f.rest s
  rw [fly_eq]
  split
  · exact (amends_conclude announces_emit f.name _ _).hooks_eq.trans hrun
  · exact hrun

theorem hooks_submit (line : String) (s : Session) : (s.submit line).2.watcher.hooks = s.watcher.hooks := by
  have hopening := (opening_keeps line s).2
  rw [submit_eq]
  rcases ho : s.opening line with ⟨o | f, s₁⟩
  · rw [ho] at hopening
    exact hopening
  · rw [ho] at hopening
    exact (hooks_fly f s₁).trans hopening

theorem touches_fly {P : Part → Prop} (h : f.rest.Confined P true) (s : Session) :
    Touches (fun p => P p ∨ s.Stirred p) s (s.fly f).2 ∧
      (f.complaint? s ≠ none → Touches s.Stirred s (s.fly f).2) := by
  have hrun := h.touches_run f.prior s
  have hhooks := hooks_run f.prior f.rest s
  cases hending : (f.rest.run (perform emit f.prior) s).1.ending? with
  | none =>
      rw [fly_of_no_ending hending]
      exact ⟨hrun, fun hcomplaint => absurd (by rw [Flight.complaint?, hending]; rfl) hcomplaint⟩
  | some ending =>
      have hsettle := touches_settle f.name ending (f.rest.run (perform emit f.prior) s).2
      rw [fly_of_ending hending]
      refine ⟨hrun.trans (hsettle.mono ?_), fun hcomplaint => ?_⟩
      · rintro p (⟨r, rfl, hp⟩ | hp)
        · exact .inl (h.affects_of_run f.prior hending hp)
        · exact .inr (hp.congr hhooks)
      · refine (h.complaint_of_run f.prior hcomplaint).2.trans (hsettle.mono ?_)
        rintro p (⟨r, rfl, -⟩ | hp)
        · rw [Flight.complaint?, hending] at hcomplaint
          exact absurd rfl hcomplaint
        · exact hp.congr hhooks

theorem words_of_begun {line : String} (h : s.opening line = (.begun f, s')) :
    Text.words line = f.name :: f.args := by
  obtain ⟨hrunning, -⟩ := opening_begun h
  cases hw : Text.words line with
  | nil => cases h.symm.trans (opening_of_blank hrunning hw)
  | cons name args =>
      cases hc : (s.typeIn line).registry.get? name with
      | none => cases h.symm.trans (opening_of_unknown hrunning hw hc)
      | some c =>
          cases h.symm.trans (opening_of_command hrunning hw hc)
          rfl

theorem touches_submit (hregistry : s.registry = .builtin) (line : String) :
    (∀ name args, Text.words line = name :: args →
      Touches (fun p => Own name args p ∨ s.Stirred p) s (s.submit line).2) ∧
    (s.lineComplaint? line ≠ none → Touches s.Stirred s (s.submit line).2) := by
  have hopening := touches_opening line s
  have hhooks := (opening_keeps line s).2
  rw [submit_eq, lineComplaint?]
  rcases ho : s.opening line with ⟨o | f, s₁⟩
  · rw [ho] at hopening
    exact ⟨fun name args hw => hopening.mono fun p hp => .inr hp, fun _ => hopening⟩
  · rw [ho] at hopening hhooks
    obtain ⟨-, -, -, ⟨c, hc, hrest⟩, -⟩ := opening_begun ho
    have hconfined : f.rest.Confined (Own f.name f.args) true := hrest ▸ confined_command (hregistry ▸ hc) f.args
    obtain ⟨htouches, hcomplaint⟩ := touches_fly hconfined s₁
    refine ⟨fun name args hw => ?_, fun h => ?_⟩
    · cases hw.symm.trans (words_of_begun ho)
      refine (hopening.mono fun p hp => .inr hp).trans (htouches.mono fun p hp => ?_)
      exact hp.imp_right (.congr hhooks)
    · exact hopening.trans ((hcomplaint h).mono fun p hp => hp.congr hhooks)

/-- Of what a built-in command could change, a line changes only what belongs to the command, and nothing if the command
complains. The same holds for a command that is run with any arguments, also with such as no line can hold. -/
theorem commands_confined (hregistry : s.registry = .builtin) :
    (∀ line name args, Text.words line = name :: args →
      Touches (fun p => Own name args p ∨ s.Stirred p) s (s.submit line).2) ∧
    (∀ line, s.lineComplaint? line ≠ none → Touches s.Stirred s (s.submit line).2) ∧
    ∀ name c args prior, s.registry.get? name = some c →
      Touches (fun p => Own name args p ∨ s.Stirred p) s (s.runCommand emit prior c name args).2 ∧
      ((Flight.mk name args prior (c.handler args)).complaint? s.launch ≠ none →
        Touches s.Stirred s (s.runCommand emit prior c name args).2) := by
  refine ⟨fun line => (touches_submit hregistry line).1, fun line => (touches_submit hregistry line).2, ?_⟩
  intro name c args prior hc
  have hlaunch {P : Part → Prop} : Touches P s s.launch := .of_eq rfl rfl rfl rfl
  have hconfined : (c.handler args).Confined (Own name args) true := confined_command (hregistry ▸ hc) args
  obtain ⟨htouches, hcomplaint⟩ := touches_fly (f := ⟨name, args, prior, c.handler args⟩) hconfined s.launch
  rw [runCommand_eq]
  exact ⟨hlaunch.trans htouches, fun h => hlaunch.trans (hcomplaint h)⟩

theorem exported_confined : ((after []).submit "export A=b").2.files = (after []).files ∧
    ((after []).submit "export A=b").2.env.get? "USER" = some "guest" ∧
    ((after []).submit "export A=b").2.cwd = (after []).cwd ∧
    (after []).scrollback <+: ((after []).submit "export A=b").2.scrollback ∧
    ((after []).submit "cd /nowhere").2.env = (after []).env := by
  have hstill (p : Part) : ¬ (after []).Stirred p := not_stirred rfl p
  obtain ⟨hline, hcomplaint, -⟩ := commands_confined (s := after []) rfl
  have hexport := hline "export A=b" "export" ["A=b"] (by decide +kernel)
  have hcd := hcomplaint "cd /nowhere" (by decide +kernel)
  have hargs : ["A=b"].head?.bind assignment? = some ("A", "b") := by decide +kernel
  have hown {p : Part} (hp : p ≠ .value "A") : ¬ (Own "export" ["A=b"] p ∨ (after []).Stirred p) := by
    rintro (h | h)
    · rcases own_of_assignment (by simp) hargs h with rfl | ⟨hkey, -⟩
      · exact hp rfl
      · exact absurd hkey (by decide)
    · exact hstill p h
  refine ⟨hexport.files.resolve_left (hown (by decide)), ?_, hexport.cwd.resolve_left (hown (by decide)),
    hexport.records.resolve_left (hown (by decide)), hcd.env.resolve_left fun ⟨key, h⟩ => hstill _ h⟩
  exact ((hexport.value "USER").resolve_left (hown (by decide))).trans (by decide +kernel)

end Session

end Terminal
