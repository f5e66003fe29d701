import Terminal.Proofs.Session.Verdict

/-!
A session among its clients. A submitted line that names a command puts its handler in flight; the calls of the
handler then alternate in any order with what clients do, until the handler ends and its turn settles. A line
that is submitted where nothing comes between takes the same steps.
-/

namespace Terminal

def Script.ending? {α : Type} : Script α → Option (Except Failure α)
  | .done a => some (.ok a)
  | .fail f => some (.error f)
  | .endless | .call _ _ => none

def Script.Outcome.ending? {α : Type} : Script.Outcome α → Option (Except Failure α)
  | .done a => some (.ok a)
  | .failed f => some (.error f)
  | .endless => none

namespace Session

structure Flight where
  name : String
  args : List String
  prior : List String
  -- what is left of the handler
  rest : Script (Option Result)

def Flight.IsOf (registry : Registry) (f : Flight) : Prop :=
  ∃ c, registry.get? f.name = some c ∧ f.rest = c.handler f.args

/-- What comes of a line at once: its submission is over or its handler has begun. -/
inductive Opening where
  | answered (o : Submission)
  | begun (f : Flight)

def typeIn (text : String) (s : Session) : Session := emit (s.typed text) { s with turn := some {} }

def remember (line : String) (s : Session) : Session :=
  { s with history := s.history ++ [line], place := none }

def missing (name : String) (s : Session) : Session :=
  let message := "command not found: " ++ name
  (s.report .warning message).print emit message

def answer (p : Submission × Session) : Opening × Session := (.answered p.1, p.2)

def opening (line : String) (s : Session) : Opening × Session :=
  if s.running then answer (.busy, s)
  else
    match Text.words line with
    | [] => answer (s.typeIn "").finish
    | name :: args =>
      let s := s.typeIn line
      match s.registry.get? name with
      | none => answer ((s.remember line).missing name).finish
      | some c =>
        (.begun ⟨name, args, s.history, c.handler args⟩,
          ((s.remember line).report .debug ("run " ++ Text.trim line)).launch)

def settle (name : String) (ending : Except Failure (Option Result)) (s : Session) : Submission × Session :=
  (s.conclude emit name ending).land.finish

def abandon (s : Session) : Session := s.land.finish.2

def fly (f : Flight) (s : Session) : Submission × Session :=
  let (outcome, s) := f.rest.run (perform emit f.prior) s
  match outcome.ending? with
  | some ending => s.settle f.name ending
  | none => (.endless, s)

section

variable {s : Session} {f : Flight}

theorem fly_call {c : Call} {next : c.Reply → Script (Option Result)} (h : f.rest = .call c next) (s : Session) :
    s.fly f = (s.perform emit f.prior c).2.fly { f with rest := next (s.perform emit f.prior c).1 } := by
  rw [fly, h]
  rfl

theorem fly_eq (f : Flight) (s : Session) :
    s.fly f = match (f.rest.run (perform emit f.prior) s).1.ending? with
      | some ending => (f.rest.run (perform emit f.prior) s).2.settle f.name ending
      | none => (.endless, (f.rest.run (perform emit f.prior) s).2) := rfl

theorem fly_of_ending {ending : Except Failure (Option Result)}
    (h : (f.rest.run (perform emit f.prior) s).1.ending? = some ending) :
    s.fly f = (f.rest.run (perform emit f.prior) s).2.settle f.name ending := by
  rw [fly_eq, h]

theorem fly_of_no_ending (h : (f.rest.run (perform emit f.prior) s).1.ending? = none) :
    s.fly f = (.endless, (f.rest.run (perform emit f.prior) s).2) := by
  rw [fly_eq, h]

end

theorem runCommand_eq (prior : List String) (c : Command) (name : String) (args : List String) (s : Session) :
    s.runCommand emit prior c name args = s.launch.fly ⟨name, args, prior, c.handler args⟩ := by
  rw [runCommand, fly]
  rcases (c.handler args).run (perform emit prior) s.launch with ⟨result | failure | _, s'⟩
  · rfl
  · rfl
  · rfl

theorem submit_eq (line : String) (s : Session) :
    s.submit line = match s.opening line with
      | (.answered o, s) => (o, s)
      | (.begun f, s) => s.fly f := by
  have hsubmit : s.submit line =
      if s.running then (.busy, s)
      else match Text.words line with
        | [] => (s.typeIn "").finish
        | name :: args => match (s.typeIn line).registry.get? name with
          | none => (((s.typeIn line).remember line).missing name).finish
          | some c => runCommand emit (s.typeIn line).history c name args
              (((s.typeIn line).remember line).report .debug ("run " ++ Text.trim line)) := rfl
  rw [hsubmit, opening]
  cases s.running with
  | true => rfl
  | false =>
      cases Text.words line with
      | nil => rfl
      | cons name args =>
          dsimp only
          cases (s.typeIn line).registry.get? name with
          | none => rfl
          | some c =>
              exact runCommand_eq _ c name args _

theorem opening_of_running {s : Session} (h : s.running = true) (line : String) :
    s.opening line = (.answered .busy, s) := by
  simp [opening, h, answer]

theorem opening_of_blank {line : String} {s : Session} (h : s.running = false) (hw : Text.words line = []) :
    s.opening line = answer (s.typeIn "").finish := by
  simp [opening, h, hw]

theorem opening_of_unknown {line name : String} {args : List String} {s : Session} (h : s.running = false)
    (hw : Text.words line = name :: args) (hc : (s.typeIn line).registry.get? name = none) :
    s.opening line = answer (((s.typeIn line).remember line).missing name).finish := by
  simp [opening, h, hw, hc]

theorem opening_of_command {line name : String} {args : List String} {c : Command} {s : Session}
    (h : s.running = false) (hw : Text.words line = name :: args)
    (hc : (s.typeIn line).registry.get? name = some c) :
    s.opening line = (.begun ⟨name, args, (s.typeIn line).history, c.handler args⟩,
      (((s.typeIn line).remember line).report .debug ("run " ++ Text.trim line)).launch) := by
  simp [opening, h, hw, hc]

structure Begins (s s' : Session) : Prop where
  hooks : s'.watcher.hooks = s.watcher.hooks
  registry : s'.registry = s.registry
  phase : s'.phase = s.phase
  token : s'.token.isSome = s.token.isSome
  account : ∃ ns, s'.notices = s.notices ++ ns ∧ s'.scrollback = Notice.replay s.scrollback ns ∧
    s'.turn = some ⟨Notice.replay [] ns, ns.contains .clear, false⟩

namespace Begins

variable {s s' s'' : Session}

theorem evolve (h : s.Begins s') (h' : s'.Evolves s'') : s.Begins s'' := by
  have hhooks := h'.hooks_eq.trans h.hooks
  have hregistry := h'.registry_eq.trans h.registry
  obtain ⟨cs, hcs, rfl⟩ := h'
  obtain ⟨ns, hnotices, hscrollback, hturn⟩ := h.account
  refine ⟨hhooks, hregistry, (phase_amend cs s').trans h.phase, (isSome_token_amend cs s').trans h.token,
    ns ++ told cs, ?_, ?_, ?_⟩
  · rw [notices_amend, hnotices, List.append_assoc]
  · rw [scrollback_amend, hscrollback, Notice.replay_append]
  · have hmarks : cs.any Change.marks = false := by simpa using hcs
    rw [turn_amend, hturn, hmarks]
    simp [Notice.replay_append]

theorem remember (h : s.Begins s') (line : String) : s.Begins (s'.remember line) :=
  ⟨h.hooks, h.registry, h.phase, h.token, h.account⟩

end Begins

theorem begins_typeIn (text : String) (s : Session) : s.Begins (s.typeIn text) := by
  have hturn : s.Begins { s with turn := some {} } := ⟨rfl, rfl, rfl, rfl, [], by simp [Notice.replay]⟩
  exact hturn.evolve (evolves_emit announces_emit _ _)

theorem evolves_missing (name : String) (s : Session) : s.Evolves (s.missing name) := by
  have hreport : s.Evolves (Change.apply (.report .warning ("command not found: " ++ name)) s) := .single rfl
  exact hreport.trans (evolves_emit announces_emit _ _)

theorem opening_cases (line : String) (s : Session) :
    (s.running = true ∧ s.opening line = (.answered .busy, s)) ∨
    s.running = false ∧ ∃ s', s.Begins s' ∧
      (s.opening line = answer s'.finish ∨
        ∃ f, f.IsOf s.registry ∧ s.opening line = (.begun f, s'.launch)) := by
  cases hrunning : s.running with
  | true => exact .inl ⟨rfl, opening_of_running hrunning line⟩
  | false =>
      right
      refine ⟨rfl, ?_⟩
      cases hw : Text.words line with
      | nil => exact ⟨s.typeIn "", begins_typeIn "" s, .inl (opening_of_blank hrunning hw)⟩
      | cons name args =>
          have hremember : s.Begins ((s.typeIn line).remember line) := (begins_typeIn line s).remember line
          cases hc : (s.typeIn line).registry.get? name with
          | none =>
              refine ⟨((s.typeIn line).remember line).missing name, hremember.evolve (evolves_missing name _), ?_⟩
              exact .inl (opening_of_unknown hrunning hw hc)
          | some c =>
              have hreport := hremember.evolve (.single (c := .report .debug ("run " ++ Text.trim line)) rfl)
              have hcommand : s.registry.get? name = some c := (begins_typeIn line s).registry ▸ hc
              exact ⟨_, hreport, .inr ⟨_, ⟨c, hcommand, rfl⟩, opening_of_command hrunning hw hc⟩⟩

theorem opening_answered {line : String} {o : Submission} {s s' : Session} (h : s.opening line = (.answered o, s')) :
    (s.running = true ∧ o = .busy ∧ s' = s) ∨
      s.running = false ∧ ∃ s₁, s.Begins s₁ ∧ s₁.finish = (o, s') := by
  rcases opening_cases line s with ⟨hrunning, hbusy⟩ | ⟨hrunning, s₁, hbegins, hanswer | ⟨f, -, hbegun⟩⟩
  · cases h.symm.trans hbusy
    exact .inl ⟨hrunning, rfl, rfl⟩
  · cases h.symm.trans hanswer
    exact .inr ⟨hrunning, s₁, hbegins, rfl⟩
  · cases h.symm.trans hbegun

theorem opening_begun {line : String} {f : Flight} {s s' : Session} (h : s.opening line = (.begun f, s')) :
    s.running = false ∧ ∃ s₁, s.Begins s₁ ∧ f.IsOf s.registry ∧ s' = s₁.launch := by
  rcases opening_cases line s with ⟨-, hbusy⟩ | ⟨hrunning, s₁, hbegins, hanswer | ⟨g, hg, hbegun⟩⟩
  · cases h.symm.trans hbusy
  · cases h.symm.trans hanswer
  · cases h.symm.trans hbegun
    exact ⟨hrunning, s₁, hbegins, hg, rfl⟩

theorem opening_keeps (line : String) (s : Session) :
    (s.opening line).2.registry = s.registry ∧ (s.opening line).2.watcher.hooks = s.watcher.hooks := by
  rcases opening_cases line s with ⟨-, he⟩ | ⟨-, s₁, hbegins, he | ⟨f, -, he⟩⟩
  · rw [he]
    exact ⟨rfl, rfl⟩
  · rw [he]
    exact ⟨hbegins.registry, hbegins.hooks⟩
  · rw [he]
    exact ⟨hbegins.registry, hbegins.hooks⟩

theorem opening_induction {P : Session → Prop} {s : Session}
    (hbook : ∀ (t : Session) turn history place log phase token,
      P t → P { t with turn, history, place, log, phase, token })
    (hemit : ∀ r t, t.watcher.hooks = s.watcher.hooks → P t → P (emit r t)) (hs : P s) (line : String) :
    P (s.opening line).2 := by
  have htypeIn (text : String) : P (s.typeIn text) := hemit _ _ rfl (hbook s (some {}) _ _ _ _ _ hs)
  cases hrunning : s.running with
  | true =>
      rw [opening_of_running hrunning]
      exact hs
  | false =>
      cases hw : Text.words line with
      | nil =>
          rw [opening_of_blank hrunning hw]
          exact hbook _ none _ _ _ _ _ (htypeIn "")
      | cons name args =>
          cases hc : (s.typeIn line).registry.get? name with
          | none =>
              have hreport : P (((s.typeIn line).remember line).report .warning ("command not found: " ++ name)) :=
                hbook (s.typeIn line) _ _ _ _ _ _ (htypeIn line)
              rw [opening_of_unknown hrunning hw hc]
              exact hbook _ none _ _ _ _ _ (hemit _ _ (begins_typeIn line s).hooks hreport)
          | some c =>
              rw [opening_of_command hrunning hw hc]
              exact hbook (s.typeIn line) _ _ _ _ _ _ (htypeIn line)

def ofCommand (c : Command) : Session :=
  start {} (.seeded 0) ⟨[(c.info.name, c)], true⟩ (.empty none) { wall := 0 }

theorem opening_ofCommand {c : Command} (hw : Text.words c.info.name = [c.info.name]) :
    (ofCommand c).opening c.info.name =
      (.begun ⟨c.info.name, [], [], c.handler []⟩, ((ofCommand c).opening c.info.name).2) := by
  have hregistry : ((ofCommand c).typeIn c.info.name).registry = ⟨[(c.info.name, c)], true⟩ := rfl
  have hc : ((ofCommand c).typeIn c.info.name).registry.get? c.info.name = some c := by
    simp [hregistry, Registry.get?, Table.get?]
  rw [opening_of_command rfl hw hc]
  rfl

end Session

open Session

structure Scene where
  session : Session
  flights : List Flight

namespace Scene

inductive Event where
  | submit (line : String) (answer : Option Submission)
  | call (c : Call)
  | finish (ending : Except Failure (Option Result)) (t : Turn)
  | abandon
  | act (a : Action) (reply : a.Reply)
  | outside

inductive Event.Ends : Event → Prop
  | finish (ending : Except Failure (Option Result)) (t : Turn) : Ends (.finish ending t)
  | abandon : Ends .abandon

inductive Step : Scene → Event → Scene → Prop
  | answered {s s' : Session} {fs : List Flight} {line : String} {o : Submission} :
      s.opening line = (.answered o, s') → Step ⟨s, fs⟩ (.submit line (some o)) ⟨s', fs⟩
  | begun {s s' : Session} {fs : List Flight} {line : String} {f : Flight} :
      s.opening line = (.begun f, s') → Step ⟨s, fs⟩ (.submit line none) ⟨s', f :: fs⟩
  | call {s : Session} (before after : List Flight) {f : Flight} {c : Call}
      {next : c.Reply → Script (Option Result)} :
      f.rest = .call c next →
      Step ⟨s, before ++ f :: after⟩ (.call c)
        ⟨(s.perform emit f.prior c).2,
          before ++ { f with rest := next (s.perform emit f.prior c).1 } :: after⟩
  | finish {s s' : Session} (before after : List Flight) {f : Flight}
      {ending : Except Failure (Option Result)} {t : Turn} :
      f.rest.ending? = some ending → s.settle f.name ending = (.settled t, s') →
      Step ⟨s, before ++ f :: after⟩ (.finish ending t) ⟨s', before ++ after⟩
  | abandon {s : Session} (before after : List Flight) {f : Flight} :
      Step ⟨s, before ++ f :: after⟩ .abandon ⟨s.abandon, before ++ after⟩
  | act {s : Session} {fs : List Flight} (a : Action) :
      Step ⟨s, fs⟩ (.act a (s.act emit a).1) ⟨(s.act emit a).2, fs⟩
  | edit {s : Session} {fs : List Flight} (op : FileOp) : Step ⟨s, fs⟩ .outside ⟨(s.edit op).2, fs⟩
  | advance {s : Session} {fs : List Flight} (ms : Int) : Step ⟨s, fs⟩ .outside ⟨s.advance ms, fs⟩
  | watch {s : Session} {fs : List Flight} (hooks : List Hook) : Step ⟨s, fs⟩ .outside ⟨s.watch hooks, fs⟩

inductive Run : Scene → List Event → Scene → Prop
  | nil {m : Scene} : Run m [] m
  | cons {m m' m'' : Scene} {e : Event} {es : List Event} : Step m e m' → Run m' es m'' → Run m (e :: es) m''

/-- What some order of events leads to from a session that begins. -/
def Reachable (m : Scene) : Prop :=
  ∃ config files registry log world es, Run ⟨start config files registry log world, []⟩ es m

theorem Run.keeps {P : Scene → Prop} {m m' : Scene} {es : List Event}
    (hstep : ∀ n e n', e ∈ es → Step n e n' → P n → P n') (h : Run m es m') (hm : P m) : P m' := by
  induction h with
  | nil => exact hm
  | cons hfirst _ ih =>
      refine ih ?_ (hstep _ _ _ (by simp) hfirst hm)
      intro n e n' he
      exact hstep n e n' (by simp [he])

inductive Returns : Scene → String → Turn → Scene → Prop
  | atOnce {m m' : Scene} {line : String} {t : Turn} :
      Step m (.submit line (some (.settled t))) m' → Returns m line t m'
  | later {m m₁ m₂ m' : Scene} {line : String} {es : List Event} {ending : Except Failure (Option Result)}
      {t : Turn} :
      Step m (.submit line none) m₁ → Run m₁ es m₂ → (∀ e ∈ es, ¬ e.Ends) →
      Step m₂ (.finish ending t) m' → Returns m line t m'

theorem run_calls (f : Flight) (script : Script (Option Result)) (s : Session) :
    ∃ es rest, (∀ e ∈ es, ¬ e.Ends) ∧ rest.ending? = (script.run (perform emit f.prior) s).1.ending? ∧
      Run ⟨s, [{ f with rest := script }]⟩ es
        ⟨(script.run (perform emit f.prior) s).2, [{ f with rest }]⟩ := by
  -- one event for each call; whatever ends the script is left in flight
  induction script generalizing s with
  | call c next ih =>
      obtain ⟨es, rest, hes, hrest, hrun⟩ := ih (s.perform emit f.prior c).1 (s.perform emit f.prior c).2
      refine ⟨.call c :: es, rest, ?_, hrest, .cons (.call [] [] rfl) hrun⟩
      intro e he
      rcases List.mem_cons.1 he with rfl | he
      · intro hends
        cases hends
      · exact hes e he
  | done a => exact ⟨[], .done a, by simp, rfl, .nil⟩
  | fail failure => exact ⟨[], .fail failure, by simp, rfl, .nil⟩
  | endless => exact ⟨[], .endless, by simp, rfl, .nil⟩

theorem returns_of_submit {line : String} {s s' : Session} {t : Turn} (h : s.submit line = (.settled t, s')) :
    Returns ⟨s, []⟩ line t ⟨s', []⟩ := by
  rw [submit_eq] at h
  rcases hopening : s.opening line with ⟨o | f, s₁⟩
  · rw [hopening] at h
    cases h
    exact .atOnce (.answered hopening)
  · rw [hopening] at h
    obtain ⟨es, rest, hes, hrest, hrun⟩ := run_calls f f.rest s₁
    dsimp only [fly] at h
    cases hending : (f.rest.run (perform emit f.prior) s₁).1.ending? with
    | none =>
        rw [hending] at h
        cases h
    | some ending =>
        rw [hending] at h
        exact .later (.begun hopening) hrun hes (.finish [] [] (hrest.trans hending) h)

end Scene

end Terminal
