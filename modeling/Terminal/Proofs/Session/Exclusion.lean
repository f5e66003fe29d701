import Terminal.Proofs.Session.Scene

namespace Terminal

namespace Session

structure Idle (s : Session) : Prop where
  phase : s.phase = .idle
  token : s.token = none
  turn : s.turn = none

structure Busy (s : Session) : Prop where
  phase : s.phase = .running
  token : s.token.isSome = true
  turn : ∃ t, s.turn = some t ∧ t.cancelled = false

variable {s s' : Session}

theorem Idle.running (h : s.Idle) : s.running = false := by
  rw [Session.running, h.phase]
  rfl

theorem Busy.running (h : s.Busy) : s.running = true := by
  rw [Session.running, h.phase]
  rfl

theorem Idle.evolve (h : s.Idle) (h' : s.Evolves s') : s'.Idle := by
  obtain ⟨cs, -, rfl⟩ := h'
  have htoken : (s.amend cs).token.isSome = false := by simp [isSome_token_amend, h.token]
  have hturn : (s.amend cs).turn.isSome = false := by simp [isSome_turn_amend, h.turn]
  exact ⟨(phase_amend cs s).trans h.phase, by simpa using htoken, by simpa using hturn⟩

theorem Busy.evolve (h : s.Busy) (h' : s.Evolves s') : s'.Busy := by
  obtain ⟨cs, hcs, rfl⟩ := h'
  obtain ⟨t, hturn, hcancelled⟩ := h.turn
  have hmarks : cs.any Change.marks = false := by simpa using hcs
  have hturn' : ∃ t, (s.amend cs).turn = some t ∧ t.cancelled = false := by
    simp [turn_amend, hturn, hcancelled, hmarks]
  exact ⟨(phase_amend cs s).trans h.phase, (isSome_token_amend cs s).trans h.token, hturn'⟩

theorem Begins.idle_finish (h : s.Begins s') (hs : s.Idle) : s'.finish.2.Idle := by
  have htoken : s'.token.isSome = false := by simp [h.token, hs.token]
  exact ⟨h.phase.trans hs.phase, by simpa [finish] using htoken, rfl⟩

theorem Begins.busy_launch (h : s.Begins s') : s'.launch.Busy := by
  obtain ⟨ns, -, -, hturn⟩ := h.account
  exact ⟨rfl, rfl, _, hturn, rfl⟩

theorem idle_start (config : Config) (files : Tree) (registry : Registry) (log : Log) (world : World) :
    (start config files registry log world).Idle := ⟨rfl, rfl, rfl⟩

theorem cancel_of_idle (h : s.Idle) : s.cancel = (false, s) := by
  rw [cancel, h.token]

theorem idle_settle (name : String) (ending : Except Failure (Option Result)) (s : Session) :
    (s.settle name ending).2.Idle := ⟨rfl, rfl, rfl⟩

end Session

open Session

namespace Scene

def Orderly (m : Scene) : Prop :=
  m.session.Idle ∧ m.flights.length = 0 ∨ m.session.Busy ∧ m.flights.length = 1

variable {m m' : Scene}

theorem Orderly.idle (h : m.Orderly) (hrunning : m.session.running = false) :
    m.session.Idle ∧ m.flights = [] := by
  rcases h with ⟨hidle, hnone⟩ | ⟨hbusy, -⟩
  · exact ⟨hidle, List.length_eq_zero_iff.1 hnone⟩
  · simp [hbusy.running] at hrunning

theorem Orderly.busy (h : m.Orderly) (hflights : 0 < m.flights.length) :
    m.session.Busy ∧ m.flights.length = 1 := by
  rcases h with ⟨-, hnone⟩ | h
  · omega
  · exact h

theorem Orderly.alone {s : Session} {before after : List Flight} {f : Flight} (h : Orderly ⟨s, before ++ f :: after⟩) :
    s.Busy ∧ before = [] ∧ after = [] := by
  obtain ⟨hbusy, hone⟩ := h.busy (List.length_pos_iff.2 (by simp))
  simp only [List.length_append, List.length_cons] at hone
  exact ⟨hbusy, List.length_eq_zero_iff.1 (by omega), List.length_eq_zero_iff.1 (by omega)⟩

theorem Orderly.evolve (h : m.Orderly) (hs : m.session.Evolves m'.session)
    (hflights : m'.flights.length = m.flights.length) : m'.Orderly := by
  rw [Orderly, hflights]
  exact h.imp (And.imp_left fun hidle => hidle.evolve hs) (And.imp_left fun hbusy => hbusy.evolve hs)

theorem Orderly.step {e : Event} (h : m.Orderly) (hstep : Step m e m') : m'.Orderly := by
  cases hstep with
  | @answered s s' fs line o ho =>
      rcases opening_answered ho with ⟨-, -, rfl⟩ | ⟨hrunning, s₁, hbegins, hfinish⟩
      · exact h
      · cases hfinish
        obtain ⟨hidle, hnone⟩ := h.idle hrunning
        exact .inl ⟨hbegins.idle_finish hidle, List.length_eq_zero_iff.2 hnone⟩
  | @begun s s' fs line f hf =>
      obtain ⟨hrunning, s₁, hbegins, -, rfl⟩ := opening_begun hf
      obtain ⟨-, hnone⟩ := h.idle hrunning
      obtain rfl : fs = [] := hnone
      exact .inr ⟨hbegins.busy_launch, rfl⟩
  | call _ _ _ => exact h.evolve (evolves_perform announces_emit _ _ _) (by simp)
  | @finish s s' before after f ending t _ hsettle =>
      obtain ⟨-, rfl, rfl⟩ := h.alone
      have hidle := idle_settle f.name ending s
      rw [hsettle] at hidle
      exact .inl ⟨hidle, rfl⟩
  | abandon _ _ =>
      obtain ⟨-, rfl, rfl⟩ := h.alone
      exact .inl ⟨⟨rfl, rfl, rfl⟩, rfl⟩
  | act a => exact h.evolve (evolves_act announces_emit a _) rfl
  | edit op => exact h.evolve (.single (c := .edit op) rfl) rfl
  | advance ms =>
      rcases h with ⟨hidle, hnone⟩ | ⟨hbusy, hone⟩
      · exact .inl ⟨⟨hidle.phase, hidle.token, hidle.turn⟩, hnone⟩
      · exact .inr ⟨⟨hbusy.phase, hbusy.token, hbusy.turn⟩, hone⟩
  | watch hooks =>
      rcases h with ⟨hidle, hnone⟩ | ⟨hbusy, hone⟩
      · exact .inl ⟨⟨hidle.phase, hidle.token, hidle.turn⟩, hnone⟩
      · exact .inr ⟨⟨hbusy.phase, hbusy.token, hbusy.turn⟩, hone⟩

theorem Reachable.orderly (h : m.Reachable) : m.Orderly := by
  obtain ⟨config, files, registry, log, world, es, hrun⟩ := h
  refine hrun.keeps (fun n e n' _ hstep hn => hn.step hstep) ?_
  exact .inl ⟨idle_start config files registry log world, rfl⟩

/-- The line is turned away and nothing changes. -/
def Refuses (m : Scene) (line : String) : Prop :=
  Step m (.submit line (some .busy)) m ∧
    ∀ answer m', Step m (.submit line answer) m' → answer = some .busy ∧ m' = m

def Accepts (m : Scene) (line : String) : Prop :=
  (∃ answer m', Step m (.submit line answer) m') ∧
    ∀ answer m', Step m (.submit line answer) m' → answer ≠ some .busy

theorem refuses_of_running (h : m.session.running = true) (line : String) : m.Refuses line := by
  have hopening := opening_of_running h line
  refine ⟨.answered hopening, ?_⟩
  intro answer m' hstep
  cases hstep with
  | answered ho =>
      cases ho.symm.trans hopening
      exact ⟨rfl, rfl⟩
  | begun hf => cases hf.symm.trans hopening

theorem accepts_of_idle (h : m.session.Idle) (line : String) : m.Accepts line := by
  rcases opening_cases line m.session with ⟨hrunning, -⟩ | ⟨-, s₁, -, hanswer | ⟨f, -, hbegun⟩⟩
  · simp [h.running] at hrunning
  · refine ⟨⟨_, _, .answered hanswer⟩, ?_⟩
    intro answer m' hstep
    cases hstep with
    | answered ho =>
        cases ho.symm.trans hanswer
        simp [Session.finish]
    | begun hf => simp
  · refine ⟨⟨_, _, .begun hbegun⟩, ?_⟩
    intro answer m' hstep
    cases hstep with
    | answered ho => cases ho.symm.trans hbegun
    | begun hf => simp

theorem token_of_begun {line : String} (h : Step m (.submit line none) m') : m'.session.token = some .fresh := by
  cases h with
  | begun hf =>
      obtain ⟨-, s₁, -, -, rfl⟩ := opening_begun hf
      rfl

theorem exists_finish {f : Flight} (hf : f ∈ m.flights) {ending : Except Failure (Option Result)}
    (hending : f.rest.ending? = some ending) : ∃ t m', Step m (.finish ending t) m' := by
  obtain ⟨before, after, hflights⟩ := List.append_of_mem hf
  obtain ⟨s, fs⟩ := m
  cases hflights
  exact ⟨_, _, .finish before after hending rfl⟩

theorem settled_of_ends {e : Event} (h : m.Orderly) (he : e.Ends) (hstep : Step m e m') :
    m'.session.Idle ∧ m'.flights = [] := by
  have hm' := h.step hstep
  have hidle : m'.session.Idle := by
    cases he with
    | finish ending t =>
        cases hstep with
        | @finish s s' _ _ f _ _ _ hsettle =>
            have hs := idle_settle f.name ending s
            rw [hsettle] at hs
            exact hs
    | abandon =>
        cases hstep with
        | abandon _ _ => exact ⟨rfl, rfl, rfl⟩
  exact ⟨hidle, (hm'.idle hidle.running).2⟩

/-- At most one handler is in flight, and a session is busy exactly while it holds its token. A line that is
submitted meanwhile is refused without a trace. A handler that ends leaves the session idle and open to the
next line, which starts with a token of its own; cancelling an idle session does nothing at all. -/
theorem turns_exclusive (h : m.Reachable) :
    m.flights.length ≤ 1 ∧
    (m.session.running = true ↔ m.session.token.isSome = true) ∧
    (m.session.running = true ↔ m.flights.length = 1) ∧
    (m.session.running = true → ∀ line, m.Refuses line) ∧
    (∀ f ∈ m.flights, ∀ ending, f.rest.ending? = some ending → ∃ t m', Step m (.finish ending t) m') ∧
    (∀ e m', e.Ends → Step m e m' →
      m'.session.Idle ∧ m'.flights = [] ∧ ∀ line, m'.Accepts line) ∧
    (∀ line m', Step m (.submit line none) m' → m'.session.token = some .fresh) ∧
    (m.session.running = false → ∀ reply m', Step m (.act .cancel reply) m' → reply = false ∧ m' = m) := by
  have horderly := h.orderly
  refine ⟨?_, ?_, ?_, ?_, ?_, ?_, ?_, ?_⟩
  · rcases horderly with ⟨-, hnone⟩ | ⟨-, hone⟩ <;> omega
  · rcases horderly with ⟨hidle, -⟩ | ⟨hbusy, -⟩
    · simp [hidle.running, hidle.token]
    · simp [hbusy.running, hbusy.token]
  · rcases horderly with ⟨hidle, hnone⟩ | ⟨hbusy, hone⟩
    · simp [hidle.running, hnone]
    · simp [hbusy.running, hone]
  · exact refuses_of_running
  · exact fun f hf ending hending => exists_finish hf hending
  · intro e m' he hstep
    obtain ⟨hidle, hflights⟩ := settled_of_ends horderly he hstep
    exact ⟨hidle, hflights, accepts_of_idle hidle⟩
  · exact fun line m' hstep => token_of_begun hstep
  · intro hrunning reply m' hstep
    cases hstep with
    | @act s fs =>
        have hcancel : s.cancel = (false, s) := cancel_of_idle (horderly.idle hrunning).1
        have hact : s.act emit .cancel = (false, s) := hcancel
        rw [hact]
        exact ⟨rfl, rfl⟩

def lingering : Command := ⟨⟨"wait", "Wait for a while", none⟩, fun _ => .call .pause fun _ => .done none⟩

def attended : Scene :=
  ⟨((ofCommand lingering).opening "wait").2, [⟨"wait", [], [], lingering.handler []⟩]⟩

theorem attended_refuses : attended.Reachable ∧ attended.session.running = true ∧ attended.Refuses "wait" := by
  have hwords : Text.words "wait" = ["wait"] := by decide +kernel
  have hreach : attended.Reachable := ⟨_, _, _, _, _, _, .cons (.begun (opening_ofCommand hwords)) .nil⟩
  have hrunning : attended.session.running = true := by
    rw [(turns_exclusive hreach).2.2.1]
    rfl
  exact ⟨hreach, hrunning, (turns_exclusive hreach).2.2.2.1 hrunning "wait"⟩

end Scene

end Terminal
