import Terminal.Proofs.Ping.Report
import Terminal.Proofs.Ping.Undisturbed
import Terminal.Proofs.Session.Audit
import Terminal.Proofs.Session.History
import Terminal.Proofs.Web.Plan

/-!
Cancelling a command that only prints, probes and pauses. Whatever cancels it, its output is cut there: it is what the
same command would have printed until then and after that only the cancel mark, and no other probe is sent.
-/

namespace Terminal

open Commands

theorem Script.Steady.complaint_eq_none {config : Config} {calm : Bool} {script : Script (Option Result)}
    (h : script.Steady config calm) {ending : Except Failure (Option Result)}
    (hending : script.ending? = some ending) : Session.complaint? ending = none := by
  cases script with
  | done r =>
      cases hending
      rfl
  | fail f =>
      cases hending
      rcases h with ⟨fault, rfl⟩ | ⟨-, rfl⟩
      · rfl
      · rfl
  | endless => cases hending
  | call c next => cases hending

namespace Session

variable {s s' s'' : Session} {f : Flight}

theorem exists_settled (name : String) (ending : Except Failure (Option Result)) (s : Session) :
    ∃ t s', s.settle name ending = (.settled t, s') := ⟨_, _, rfl⟩

theorem fly_serene (h : s.Serene) (hsteady : f.rest.Steady s.config true) :
    ∃ t s' more, s.fly f = (.settled t, s') ∧ t.cancelled = false ∧ s'.printed = s.printed ++ more := by
  obtain ⟨hserene, ending, hending, hown⟩ := run_serene f.prior h hsteady
  obtain ⟨t, s', hsettle⟩ := exists_settled f.name ending (f.rest.run (perform emit f.prior) s).2
  have hmarked : t.cancelled = false := by
    have hiff := (audited_of_settle hserene.busy hsettle).marked
    rw [hserene.uncancelled] at hiff
    rcases hown with rfl | ⟨fault, rfl⟩
    · simpa using hiff
    · simpa using hiff
  have hrun : ∃ more, (f.rest.run (perform emit f.prior) s).2.printed = s.printed ++ more :=
    (evolves_run f.prior f.rest s).exists_printed
  obtain ⟨lines, hlines⟩ := hrun
  obtain ⟨last, hlast⟩ :=
    (amends_conclude announces_emit f.name ending (f.rest.run (perform emit f.prior) s).2).exists_printed
  refine ⟨t, s', lines ++ last, (fly_of_ending hending).trans hsettle, hmarked, ?_⟩
  rw [printed_settle hsettle, hlast, hlines, List.append_assoc]

theorem prints_fly (h : s.Accounts s') {t : Turn} (hfly : s'.fly f = (.settled t, s'')) {lines : List String}
    (hlines : s''.printed = s.printed ++ lines) : s.Prints s'' t lines := by
  have hrun : s.Accounts (f.rest.run (perform emit f.prior) s').2 := h.amend (evolves_run f.prior f.rest s')
  cases hending : (f.rest.run (perform emit f.prior) s').1.ending? with
  | some ending => exact prints_settle hrun ((fly_of_ending hending).symm.trans hfly) hlines
  | none =>
      cases (fly_of_no_ending hending).symm.trans hfly

end Session

open Session

namespace Scene

def Event.text? : Event → Option String
  | .call c => c.text?
  | _ => none

def texts (es : List Event) : List String := es.filterMap Event.text?

variable {m m' n : Scene} {f : Flight} {e : Event} {es : List Event}

theorem call_or_silent (h : m.Orderly) (hflights : m.flights = [f]) (he : ¬ e.Ends) (hstep : Step m e m') :
    (∃ c next, f.rest = .call c next ∧ e = .call c ∧ m' = ⟨(m.session.perform emit f.prior c).2,
      [{ f with rest := next (m.session.perform emit f.prior c).1 }]⟩) ∨
    e.text? = none ∧ m'.flights = [f] ∧ m'.session.printed = m.session.printed ∧ m'.session.pace = m.session.pace := by
  have hrunning : m.session.running = true := (h.busy (by simp [hflights])).1.running
  cases hstep with
  | answered ho =>
      cases ho.symm.trans (opening_of_running hrunning _)
      exact .inr ⟨rfl, hflights, rfl, rfl⟩
  | begun hf => cases hf.symm.trans (opening_of_running hrunning _)
  | call before after hrest =>
      obtain ⟨-, rfl, rfl⟩ := h.alone
      cases hflights
      exact .inl ⟨_, _, hrest, rfl, rfl⟩
  | finish _ _ _ _ => exact absurd (.finish _ _) he
  | abandon _ _ => exact absurd .abandon he
  | act a => exact .inr ⟨rfl, hflights, act_silent hrunning a⟩
  | _ => exact .inr ⟨rfl, hflights, rfl, rfl⟩

theorem cancelled_run (h : m.Orderly) (hc : m.session.cancelled = true) (hrun : Run m es m') (hes : ∀ e ∈ es, ¬ e.Ends) :
    m'.session.cancelled = true := by
  have hhushed : m'.HushedSince m.session.notices :=
    hrun.keeps (P := HushedSince m.session.notices) (fun n e n' he hstep hn => hn.step (hes e he) hstep)
      ⟨h, hc, [], by simp, by simp [FromBanner]⟩
  exact hhushed.cancelled

theorem not_ends_of_cancelled (h : m.Orderly) (hstep : Step m e m') (hc : m'.session.cancelled = true) : ¬ e.Ends := by
  intro he
  have hidle := (settled_of_ends h he hstep).1
  simp [Session.cancelled, hidle.token] at hc

/-- A command that is not cancelled, and a session where nothing can cancel it and that is as far with it. -/
structure Abreast (m : Scene) (f : Flight) (σ : Session) : Prop where
  orderly : m.Orderly
  flights : m.flights = [f]
  uncancelled : m.session.cancelled = false
  steady : ∀ calm, f.rest.Steady m.session.config calm
  serene : σ.Serene
  pace : σ.pace = m.session.pace.calmed
  printed : σ.printed = m.session.printed

/-- A command that is cancelled and does nothing any more but come to its end. -/
structure Spent (m : Scene) : Prop where
  orderly : m.Orderly
  cancelled : m.session.cancelled = true
  steady : ∃ f, m.flights = [f] ∧ f.rest.Steady m.session.config false

namespace Abreast

variable {σ : Session}

theorem busy (h : Abreast m f σ) : m.session.Busy := (h.orderly.busy (by simp [h.flights])).1

theorem config_eq (h : Abreast m f σ) : σ.config = m.session.config := congrArg Pace.config h.pace

theorem printed_call {c : Call} {next : c.Reply → Script (Option Result)} (h : Abreast m f σ)
    (hrest : f.rest = .call c next) :
    (m.session.perform emit f.prior c).2.printed = m.session.printed ++ c.text?.toList ∧
    (σ.perform emit f.prior c).2.printed = m.session.printed ++ c.text?.toList := by
  have hsteady := h.steady true
  rw [hrest] at hsteady
  have hm := printed_perform f.prior h.busy.running hsteady
  have hσ := printed_perform f.prior h.serene.busy.running hsteady
  rw [h.uncancelled] at hm
  rw [h.serene.uncancelled, h.printed] at hσ
  exact ⟨hm, hσ⟩

theorem step (h : Abreast m f σ) (he : ¬ e.Ends) (hstep : Step m e m') (hc : m'.session.cancelled = false) :
    m'.session.printed = m.session.printed ++ e.text?.toList ∧
      ∃ f' σ', Abreast m' f' σ' ∧ σ'.fly f' = σ.fly f := by
  have horderly := h.orderly.step hstep
  rcases call_or_silent h.orderly h.flights he hstep with
    ⟨c, next, hrest, rfl, rfl⟩ | ⟨hnone, hflights, hprinted, hpace⟩
  · have hsteady (calm : Bool) : (Script.call c next).Steady m.session.config calm := hrest ▸ h.steady calm
    obtain ⟨hm, hσ⟩ := h.printed_call hrest
    obtain ⟨hnext, hpace⟩ := h.serene.follow h.pace h.busy h.uncancelled f.prior hc (hsteady true)
    refine ⟨hm, { f with rest := next (m.session.perform emit f.prior c).1 }, (σ.perform emit f.prior c).2, ?_, ?_⟩
    · refine ⟨horderly, rfl, hc, fun calm => ?_, h.serene.perform f.prior (hsteady true), hpace, hσ.trans hm.symm⟩
      exact steady_perform f.prior h.busy.token (hsteady calm) fun _ => hc
    · rw [fly_call hrest σ, hnext]
  · refine ⟨by simp [hprinted, hnone], f, σ, ⟨horderly, hflights, hc, ?_, h.serene, ?_, ?_⟩, rfl⟩
    · rw [config_of_pace hpace]
      exact h.steady
    · rw [h.pace, hpace]
    · rw [h.printed, hprinted]

theorem run (h : Abreast m f σ) (hrun : Run m es n) (hes : ∀ e ∈ es, ¬ e.Ends) (hc : n.session.cancelled = false) :
    n.session.printed = m.session.printed ++ texts es ∧ ∃ f' σ', Abreast n f' σ' ∧ σ'.fly f' = σ.fly f := by
  induction hrun generalizing f σ with
  | nil => exact ⟨by simp [texts], f, σ, h, rfl⟩
  | @cons m m₁ n e es hstep hrest ih =>
      have he : ¬ e.Ends := hes e (List.mem_cons_self ..)
      have hes' : ∀ e' ∈ es, ¬ e'.Ends := fun e' he' => hes e' (List.mem_cons_of_mem _ he')
      have hc₁ : m₁.session.cancelled = false := by
        by_contra htrue
        have hcancelled := cancelled_run (h.orderly.step hstep) (by simpa using htrue) hrest hes'
        simp [hc] at hcancelled
      obtain ⟨hfirst, f₁, σ₁, h₁, hfly₁⟩ := h.step he hstep hc₁
      obtain ⟨hothers, f', σ', h', hfly'⟩ := ih h₁ hes' hc
      have htexts : texts (e :: es) = e.text?.toList ++ texts es := by
        rw [texts, List.filterMap_cons]
        cases e.text? <;> rfl
      refine ⟨?_, f', σ', h', hfly'.trans hfly₁⟩
      rw [hothers, hfirst, htexts, List.append_assoc]

theorem cut (h : Abreast m f σ) (hstep : Step m e m') (hc : m'.session.cancelled = true) :
    m'.Spent ∧ m'.session.printed = m.session.printed ++ e.text?.toList ∧
      ∃ t s more, σ.fly f = (.settled t, s) ∧ t.cancelled = false ∧ s.printed = m'.session.printed ++ more := by
  have he := not_ends_of_cancelled h.orderly hstep hc
  have horderly := h.orderly.step hstep
  rcases call_or_silent h.orderly h.flights he hstep with
    ⟨c, next, hrest, rfl, rfl⟩ | ⟨hnone, hflights, hprinted, hpace⟩
  · have hsteady (calm : Bool) : (Script.call c next).Steady m.session.config calm := hrest ▸ h.steady calm
    obtain ⟨hm, hσ⟩ := h.printed_call hrest
    refine ⟨⟨horderly, hc, _, rfl, ?_⟩, hm, ?_⟩
    · exact steady_perform f.prior h.busy.token (hsteady false) (by simp)
    · have hserene := h.serene.perform f.prior (hsteady true)
      have hrestσ : (next (σ.perform emit f.prior c).1).Steady (σ.perform emit f.prior c).2.config true :=
        steady_perform f.prior h.serene.busy.token (h.config_eq ▸ hsteady true) fun _ => hserene.uncancelled
      obtain ⟨t, s, more, hfly, hcancelled, hmore⟩ :=
        fly_serene (f := { f with rest := next (σ.perform emit f.prior c).1 }) hserene hrestσ
      exact ⟨t, s, more, (fly_call hrest σ).trans hfly, hcancelled, by rw [hmore, hσ, hm]⟩
  · refine ⟨⟨horderly, hc, f, hflights, ?_⟩, by simp [hprinted, hnone], ?_⟩
    · rw [config_of_pace hpace]
      exact h.steady false
    · obtain ⟨t, s, more, hfly, hcancelled, hmore⟩ := fly_serene (f := f) h.serene (h.config_eq ▸ h.steady true)
      exact ⟨t, s, more, hfly, hcancelled, by rw [hmore, h.printed, hprinted]⟩

end Abreast

namespace Spent

theorem step (h : m.Spent) (he : ¬ e.Ends) (hstep : Step m e m') :
    m'.Spent ∧ m'.session.printed = m.session.printed ∧ m'.session.pace = m.session.pace := by
  have horderly := h.orderly.step hstep
  have hc : m'.session.cancelled = true :=
    cancelled_run h.orderly h.cancelled (.cons hstep .nil) (by simpa using he)
  obtain ⟨f, hflights, hsteady⟩ := h.steady
  rcases call_or_silent h.orderly hflights he hstep with
    ⟨c, next, hrest, rfl, rfl⟩ | ⟨-, hflights', hprinted, hpace⟩
  · rw [hrest] at hsteady
    have hsame := perform_of_cancelled f.prior h.cancelled hsteady
    have hbusy := (h.orderly.busy (by simp [hflights])).1
    refine ⟨⟨horderly, hc, _, rfl, ?_⟩, congrArg Session.printed hsame, congrArg Session.pace hsame⟩
    exact steady_perform f.prior hbusy.token hsteady (by simp)
  · refine ⟨⟨horderly, hc, f, hflights', ?_⟩, hprinted, hpace⟩
    rw [config_of_pace hpace]
    exact hsteady

theorem run (h : m.Spent) (hrun : Run m es n) (hes : ∀ e ∈ es, ¬ e.Ends) :
    n.Spent ∧ n.session.printed = m.session.printed ∧ n.session.pace = m.session.pace := by
  refine hrun.keeps
    (P := fun n => n.Spent ∧ n.session.printed = m.session.printed ∧ n.session.pace = m.session.pace) ?_ ⟨h, rfl, rfl⟩
  rintro m₁ e m₂ he hstep ⟨hspent, hprinted, hpace⟩
  obtain ⟨hspent', hprinted', hpace'⟩ := hspent.step (hes e he) hstep
  exact ⟨hspent', hprinted'.trans hprinted, hpace'.trans hpace⟩

theorem finish (h : m.Spent) {ending : Except Failure (Option Result)} {t : Turn} (hstep : Step m (.finish ending t) m') :
    t.cancelled = true ∧ m'.session.printed = m.session.printed ++ ["^C"] ∧
      m'.session.pace = m.session.pace := by
  obtain ⟨f, hflights, hsteady⟩ := h.steady
  cases hstep with
  | @finish s s' before after g _ _ hending hsettle =>
      obtain ⟨hbusy, rfl, rfl⟩ := h.orderly.alone
      cases hflights
      have hc : s.cancelled = true := h.cancelled
      have hquiet := hsteady.complaint_eq_none hending
      obtain ⟨v, hv, hmarks, hline⟩ := verdict_of_cancelled f.name ending
      have hcloses := closes_of_settle hbusy (hc.symm ▸ hv) hsettle
      have hfarewell : v.line = "^C" := by rw [hline, farewell, hquiet, Option.getD_none]
      refine ⟨by rw [hcloses.marked, hmarks, hquiet]; rfl, hfarewell ▸ hcloses.printed, ?_⟩
      have hpace := pace_conclude hbusy.running f.name ending
      cases hsettle
      exact hpace

theorem exists_finish (h : m.Spent) :
    ∃ es n ending t m', Run m es n ∧ (∀ e ∈ es, ¬ e.Ends) ∧ Step n (.finish ending t) m' := by
  obtain ⟨f, hflights, hsteady⟩ := h.steady
  obtain ⟨s, fs⟩ := m
  cases hflights
  have hbusy := (h.orderly.busy Nat.one_pos).1
  obtain ⟨ending, hending⟩ := run_ends f.prior hbusy hsteady
  obtain ⟨es, rest, hes, hrest, hrun⟩ := run_calls f f.rest s
  obtain ⟨t, m', hfinish⟩ :=
    Scene.exists_finish (m := ⟨_, [{ f with rest }]⟩) (List.mem_singleton_self _) (hrest.trans hending)
  exact ⟨es, _, ending, t, m', hrun, hes, hfinish⟩

end Spent

/-- After some events the command is not cancelled yet, and with the next one it is. -/
structure Cancels (m : Scene) (es : List Event) (e : Event) (m' : Scene) : Prop where
  lasting : ∀ e ∈ es, ¬ e.Ends
  exists_step : ∃ n, Run m es n ∧ n.session.cancelled = false ∧ Step n e m'
  cancelled : m'.session.cancelled = true

theorem Abreast.cancels {σ : Session} (h : Abreast m f σ) (hcut : Cancels m es e m') :
    m'.Spent ∧ m'.session.printed = m.session.printed ++ texts (es ++ [e]) ∧
      ∃ t s more, σ.fly f = (.settled t, s) ∧ t.cancelled = false ∧ s.printed = m'.session.printed ++ more := by
  obtain ⟨n, hrun, hn, hstep⟩ := hcut.exists_step
  obtain ⟨hprinted, f', σ', h', hfly⟩ := h.run hrun hcut.lasting hn
  obtain ⟨hspent, hlast, hrest⟩ := h'.cut hstep hcut.cancelled
  have htexts : texts (es ++ [e]) = texts es ++ e.text?.toList := by
    rw [texts, List.filterMap_append, texts]
    cases h : e.text? <;> simp [h]
  refine ⟨hspent, ?_, hfly ▸ hrest⟩
  rw [hlast, hprinted, htexts, List.append_assoc]

theorem exists_cancels (hrun : Run m es n) (hes : ∀ e ∈ es, ¬ e.Ends) (h : m.session.cancelled = false)
    (hn : n.session.cancelled = true) :
    ∃ before e after m', es = before ++ e :: after ∧ Cancels m before e m' ∧ Run m' after n := by
  induction hrun with
  | nil => simp [h] at hn
  | @cons m m₁ n e es hstep hrest ih =>
      cases hc : m₁.session.cancelled with
      | true => exact ⟨[], e, es, m₁, rfl, ⟨by simp, ⟨m, .nil, h, hstep⟩, hc⟩, hrest⟩
      | false =>
          have he : ¬ e.Ends := hes e (List.mem_cons_self ..)
          obtain ⟨before, e', after, m', rfl, hcut, hafter⟩ :=
            ih (fun e' he' => hes e' (List.mem_cons_of_mem _ he')) hc hn
          obtain ⟨n', hbefore, hn', hstep'⟩ := hcut.exists_step
          have hlasting : ∀ e' ∈ e :: before, ¬ e'.Ends := List.forall_mem_cons.2 ⟨he, hcut.lasting⟩
          exact ⟨e :: before, e', after, m', rfl, ⟨hlasting, ⟨n', .cons hstep hbefore, hn', hstep'⟩, hcut.cancelled⟩,
            hafter⟩

theorem begun_of_command {line name : String} {args : List String} {c : Command} {s : Session}
    (hwords : Text.words line = name :: args) (hcommand : m.session.registry.get? name = some c)
    (hbegun : Step m (.submit line none) ⟨s, [f]⟩) :
    f.rest = c.handler args ∧ s.config = m.session.config ∧ s.printed = (m.session.typeIn line).printed := by
  cases hbegun with
  | @begun s₀ _ _ _ _ hf =>
      obtain ⟨hrunning, -⟩ := opening_begun hf
      have hregistry := (begins_typeIn line s₀).registry
      have hconfig : (s₀.typeIn line).config = s₀.config :=
        (evolves_emit announces_emit (s₀.typed line) { s₀ with turn := some {} }).config_eq
      cases hf.symm.trans (opening_of_command hrunning hwords (hregistry ▸ hcommand))
      exact ⟨rfl, hconfig, rfl⟩

theorem abreast_begun {line : String} {s : Session} (h : m.Reachable) (hbegun : Step m (.submit line none) ⟨s, [f]⟩)
    (hsteady : ∀ calm, f.rest.Steady s.config calm) : Abreast ⟨s, [f]⟩ f s.undisturbed := by
  have horderly := h.orderly.step hbegun
  have hc : s.cancelled = false := by
    have htoken : s.token = some .fresh := token_of_begun hbegun
    rw [Session.cancelled, htoken]
    rfl
  exact ⟨horderly, rfl, hc, hsteady, serene_undisturbed (horderly.busy Nat.one_pos).1 hc, rfl, rfl⟩

theorem accounts_begun {line : String} (hbegun : Step m (.submit line none) m') :
    m'.session.running = true ∧ m.session.Accounts m'.session := by
  cases hbegun with
  | begun hf =>
      obtain ⟨-, s₁, hbegins, -, rfl⟩ := opening_begun hf
      exact ⟨rfl, hbegins.accounts⟩

theorem accounts_run {s : Session} (h : m.session.running = true ∧ s.Accounts m.session) (hrun : Run m es n)
    (hes : ∀ e ∈ es, ¬ e.Ends) : n.session.running = true ∧ s.Accounts n.session :=
  hrun.keeps (P := fun n => n.session.running = true ∧ s.Accounts n.session)
    (fun _ e _ he hstep hn => accounts_step hn.1 hn.2 (hes e he) hstep) h

theorem accounts_cancels {s : Session} (h : m.session.running = true ∧ s.Accounts m.session) (horderly : m.Orderly)
    (hcut : Cancels m es e m') : m'.session.running = true ∧ s.Accounts m'.session := by
  obtain ⟨n, hrun, -, hstep⟩ := hcut.exists_step
  have hn : n.Orderly := hrun.keeps (fun n e n' _ hstep hn => hn.step hstep) horderly
  obtain ⟨hrunning, haccounts⟩ := accounts_run h hrun hcut.lasting
  exact accounts_step hrunning haccounts (not_ends_of_cancelled hn hstep hcut.cancelled) hstep

/-- Whatever cancels the timing of a site, at whatever event: it comes to its end without another probe, and its turn is
cancelled and shows what it had printed and then the cancel mark. What it had printed is where its output begins if
nothing cancels it. Only what listeners had completed as soon as they heard of the line comes before. -/
theorem ping_cut {line name target : String} {args rest : List String} {count : ℤ} {c : Command} {s₁ : Session}
    (h : m.Reachable) (hwords : Text.words line = name :: args) (hcommand : m.session.registry.get? name = some c)
    (hping : c.handler = ping)
    (hargs : Arguments.countOption args "-c" m.session.config.pingCount pingUsage = .ok ⟨count, target :: rest⟩)
    (hbegun : Step m (.submit line none) ⟨s₁, [f]⟩) (hcut : Cancels ⟨s₁, [f]⟩ es e m') :
    ∃ before, s₁.printed = m.session.printed ++ before ∧
      ((∀ hook ∈ m.session.watcher.hooks, ∀ text, hook.action ≠ .complete text) → before = []) ∧
      (∀ es' m₂, Run m' es' m₂ → (∀ e ∈ es', ¬ e.Ends) →
        m₂.session.world.probed = m'.session.world.probed ∧
        (∃ es'' m₃ ending t m₄, Run m₂ es'' m₃ ∧ (∀ e ∈ es'', ¬ e.Ends) ∧ Step m₃ (.finish ending t) m₄) ∧
        ∀ ending t m₃, Step m₂ (.finish ending t) m₃ →
          t.cancelled = true ∧ m.session.Prints m₃.session t (before ++ texts (es ++ [e]) ++ ["^C"]) ∧
          m₃.session.world.probed = m'.session.world.probed) ∧
      ∃ t s more, s₁.undisturbed.fly f = (.settled t, s) ∧ t.cancelled = false ∧
        m.session.Prints s t (before ++ texts (es ++ [e]) ++ more) := by
  obtain ⟨hhandler, hconfig, htyped⟩ := begun_of_command hwords hcommand hbegun
  have hsteady (calm : Bool) : f.rest.Steady s₁.config calm := by
    rw [hhandler, hping]
    exact Script.steady_ping (hconfig ▸ hargs)
  have habreast := abreast_begun h hbegun hsteady
  have haccounts := accounts_begun hbegun
  obtain ⟨hspent, hprinted, t, s, more, hfly, hcancelled, hmore⟩ := habreast.cancels hcut
  obtain ⟨before, hbefore⟩ : ∃ before, s₁.printed = m.session.printed ++ before := by
    obtain ⟨ns, -, hnotices, -⟩ := haccounts.2
    exact ⟨ns.filterMap Notice.output?, by rw [Session.printed, hnotices, List.filterMap_append, Session.printed]⟩
  have hlines : m'.session.printed = m.session.printed ++ (before ++ texts (es ++ [e])) := by
    rw [hprinted, hbefore, List.append_assoc]
  refine ⟨before, hbefore, fun hnone => ?_, fun es' m₂ hrun hes' => ?_, t, s, more, hfly, hcancelled, ?_⟩
  · have hsame := htyped.trans (printed_typeIn hnone line)
    simpa [hbefore] using hsame
  · obtain ⟨hspent₂, hprinted₂, hpace₂⟩ := hspent.run hrun hes'
    refine ⟨congrArg Pace.probed hpace₂, hspent₂.exists_finish, fun ending t m₃ hfinish => ?_⟩
    obtain ⟨hmarked, hprinted₃, hpace₃⟩ := hspent₂.finish hfinish
    refine ⟨hmarked, ?_, congrArg Pace.probed (hpace₃.trans hpace₂)⟩
    obtain ⟨-, haccounts₂⟩ := accounts_run (accounts_cancels haccounts habreast.orderly hcut) hrun hes'
    rw [hprinted₂, hlines, List.append_assoc] at hprinted₃
    cases hfinish with
    | finish _ _ _ hsettle => exact prints_settle haccounts₂ hsettle hprinted₃
  · have hundisturbed : m.session.Accounts s₁.undisturbed := haccounts.2
    exact prints_fly hundisturbed hfly (by rw [hmore, hlines, List.append_assoc])

theorem cancels_of_fly {s : Session} {t : Turn} (h : (s.fly f).1 = .settled t) (hs : s.cancelled = false)
    (hc : (f.rest.run (perform emit f.prior) s).2.cancelled = true) :
    ∃ es e m' es' m₂ ending, Cancels ⟨s, [f]⟩ es e m' ∧ Run m' es' m₂ ∧ (∀ e ∈ es', ¬ e.Ends) ∧
      m₂.session = (f.rest.run (perform emit f.prior) s).2 ∧ Step m₂ (.finish ending t) ⟨(s.fly f).2, []⟩ := by
  obtain ⟨es, rest, hes, hrest, hrun⟩ := run_calls f f.rest s
  obtain ⟨before, e, after, m', rfl, hcut, hafter⟩ := exists_cancels hrun hes hs hc
  have hlast : ∀ e ∈ after, ¬ e.Ends := fun e' he' => hes e' (by simp [he'])
  cases hending : (f.rest.run (perform emit f.prior) s).1.ending? with
  | some ending =>
      have hfly : s.fly f = (.settled t, (s.fly f).2) := Prod.ext h rfl
      have hsettle := (fly_of_ending hending).symm.trans hfly
      exact ⟨before, e, m', after, _, ending, hcut, hafter, hlast, rfl, .finish [] [] (hrest.trans hending) hsettle⟩
  | none =>
      rw [fly_of_no_ending hending] at h
      cases h

section Pinging

variable (probes : List Probe) (hooks : List Hook)

def pinged : Session := (((pinging probes).watch hooks).opening "ping -c 2 host").2

def pingFlight : Flight := ⟨"ping", ["-c", "2", "host"], [], ping ["-c", "2", "host"]⟩

theorem reachable_pinging : Reachable ⟨(pinging probes).watch hooks, []⟩ :=
  ⟨{}, .seeded 0, ⟨[("ping", pingCommand)], true⟩, .empty none, { wall := 0, probes }, [.outside],
    .cons (.watch hooks) .nil⟩

theorem begun_pinged : Step ⟨(pinging probes).watch hooks, []⟩ (.submit "ping -c 2 host" none)
    ⟨pinged probes hooks, [pingFlight]⟩ := by
  have hwords : Text.words "ping -c 2 host" = ["ping", "-c", "2", "host"] := by decide +kernel
  have hregistry := (begins_typeIn "ping -c 2 host" ((pinging probes).watch hooks)).registry
  have hhistory : (((pinging probes).watch hooks).typeIn "ping -c 2 host").history = [] := history_typeIn _ _
  have hopening := opening_of_command (c := pingCommand) (s := (pinging probes).watch hooks) rfl hwords
    (by rw [hregistry]; rfl)
  rw [hhistory] at hopening
  refine .begun ?_
  rw [pinged, hopening]
  rfl

theorem countOption_pinged : Arguments.countOption ["-c", "2", "host"] "-c"
    ((pinging probes).watch hooks).config.pingCount pingUsage = .ok ⟨2, ["host"]⟩ := by
  have hargs : Arguments.countOption ["-c", "2", "host"] "-c" 4 pingUsage = .ok ⟨2, ["host"]⟩ := by decide +kernel
  exact hargs

theorem abreast_pinged :
    Abreast ⟨pinged probes hooks, [pingFlight]⟩ pingFlight (pinged probes hooks).undisturbed := by
  have hbegun := begun_pinged probes hooks
  refine abreast_begun (reachable_pinging probes hooks) hbegun fun calm => ?_
  have hwords : Text.words "ping -c 2 host" = ["ping", "-c", "2", "host"] := by decide +kernel
  have hconfig := (begun_of_command (c := pingCommand) hwords rfl hbegun).2.1
  exact Script.steady_ping (hconfig ▸ countOption_pinged probes hooks)

end Pinging

theorem answered_and_cut : ∃ es e m' t, Cancels ⟨pinged [⟨.answer 64, true⟩] [], [pingFlight]⟩ es e m' ∧
    ((pinged [⟨.answer 64, true⟩] []).fly pingFlight).1 = .settled t ∧ t.cancelled = true ∧
    t.output = texts (es ++ [e]) ++ ["^C"] ∧
    ((pinged [⟨.answer 64, true⟩] []).fly pingFlight).2.world.probed = m'.session.world.probed := by
  have hturn : ((pinged [⟨.answer 64, true⟩] []).fly pingFlight).1 = .settled
      ⟨[.input "ping -c 2 host" "guest" "stellar" "/home/guest", .output "PING host with HTTP HEAD (2 packets)",
        .output "^C"], false, true⟩ := by decide +kernel
  have hwords : Text.words "ping -c 2 host" = ["ping", "-c", "2", "host"] := by decide +kernel
  have hbegun := begun_pinged [⟨.answer 64, true⟩] []
  obtain ⟨es, e, m', es', m₂, ending, hcut, hrun, hes', -, hfinish⟩ :=
    cancels_of_fly hturn (by decide +kernel) (by decide +kernel)
  obtain ⟨before, -, hbefore, hafter, -⟩ :=
    ping_cut (c := pingCommand) (reachable_pinging _ _) hwords rfl rfl (countOption_pinged _ _) hbegun hcut
  obtain ⟨-, -, hends⟩ := hafter es' m₂ hrun hes'
  obtain ⟨hcancelled, hprints, hprobed⟩ := hends ending _ _ hfinish
  rw [hbefore (fun hook hmem => nomatch hmem), List.nil_append] at hprints
  dsimp only at hprobed
  exact ⟨es, e, m', _, hcut, hturn, hcancelled, hprints.kept rfl, hprobed⟩

/-- A listener clears the screen as it hears of the first reply, and then it cancels the command. -/
theorem cleared_and_cut : Reachable ⟨(pinging []).watch [⟨3, .clear⟩, ⟨3, .cancel⟩], []⟩ ∧
    ∃ es e m' es' m₂ ending t m₃, Step ⟨(pinging []).watch [⟨3, .clear⟩, ⟨3, .cancel⟩], []⟩ (.submit "ping -c 2 host" none)
      ⟨pinged [] [⟨3, .clear⟩, ⟨3, .cancel⟩], [pingFlight]⟩ ∧
    Cancels ⟨pinged [] [⟨3, .clear⟩, ⟨3, .cancel⟩], [pingFlight]⟩ es e m' ∧
    texts (es ++ [e]) = ["PING host with HTTP HEAD (2 packets)", "seq=0 time=0 ms"] ∧ Run m' es' m₂ ∧
    (∀ e ∈ es', ¬ e.Ends) ∧ Step m₂ (.finish ending t) m₃ ∧ t.cancelled = true ∧ t.output = ["^C"] := by
  have hturn : ((pinged [] [⟨3, .clear⟩, ⟨3, .cancel⟩]).fly pingFlight).1 =
      .settled ⟨[.output "^C"], true, true⟩ := by decide +kernel
  obtain ⟨es, e, m', es', m₂, ending, hcut, hrun, hes', hlast, hfinish⟩ :=
    cancels_of_fly hturn (by decide +kernel) (by decide +kernel)
  obtain ⟨hspent, hprinted, -⟩ := (abreast_pinged [] [⟨3, .clear⟩, ⟨3, .cancel⟩]).cancels hcut
  have hsame := (hspent.run hrun hes').2.1
  have hlines : m₂.session.printed = ["PING host with HTTP HEAD (2 packets)", "seq=0 time=0 ms"] := by
    rw [hlast]
    decide +kernel
  have hnone : (pinged [] [⟨3, .clear⟩, ⟨3, .cancel⟩]).printed = [] := by decide +kernel
  rw [hprinted, hnone, hlines, List.nil_append] at hsame
  refine ⟨reachable_pinging _ _, ?_⟩
  exact ⟨es, e, m', es', m₂, ending, _, _, begun_pinged _ _, hcut, hsame.symm, hrun, hes', hfinish, rfl, rfl⟩

end Scene

end Terminal
