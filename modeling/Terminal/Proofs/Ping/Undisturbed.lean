import Terminal.Proofs.Ping.Steady

namespace Terminal

def Action.stops : Action → Bool
  | cancel | interrupt _ => true
  | _ => false

namespace Session

def undisturbed (s : Session) : Session :=
  { s with
    watcher := { s.watcher with hooks := s.watcher.hooks.filter fun h => !h.action.stops }
    world := { s.world with
      probes := s.world.probes.map Probe.calmed
      laterProbe := s.world.laterProbe.calmed
      pauses := [] } }

structure Serene (s : Session) : Prop where
  busy : s.Busy
  uncancelled : s.cancelled = false
  hooks : ∀ h ∈ s.watcher.hooks, h.action.stops = false
  probes : s.world.laterProbe.cancels = false ∧ ∀ p ∈ s.world.probes, p.cancels = false
  pauses : s.world.pauses = []

variable {s σ : Session}

theorem serene_undisturbed (hbusy : s.Busy) (h : s.cancelled = false) : s.undisturbed.Serene where
  busy := ⟨hbusy.phase, hbusy.token, hbusy.turn⟩
  uncancelled := h
  hooks h hh := by simpa using (List.mem_filter.1 hh).2
  probes := by
    refine ⟨rfl, fun p hp => ?_⟩
    obtain ⟨q, -, rfl⟩ := List.mem_map.1 hp
    rfl
  pauses := rfl

theorem Heeds.ne_cancel (h : s.Serene) {c : Change} (hc : s.Heeds c) : c ≠ .cancel := by
  rintro rfl
  obtain ⟨⟨after, action⟩, hmem, hmay | ⟨reply, hreply⟩⟩ := hc
  · have hstops : action.stops = false := h.hooks _ hmem
    cases hmay with
    | cancel => cases hstops
    | stop _ => cases hstops
  · cases hreply

namespace Serene

theorem apply (h : s.Serene) {c : Change} (hc : c ≠ .cancel) (hmarks : c.marks = false) : (c.apply s).Serene where
  busy := h.busy.evolve (.single hmarks)
  uncancelled := by
    cases c with
    | cancel => exact absurd rfl hc
    | _ => exact h.uncancelled
  hooks := by
    rw [Change.hooks_apply]
    exact h.hooks
  probes := by
    cases c with
    | takeProbe url => exact ⟨h.probes.1, fun p hp => h.probes.2 p (List.mem_of_mem_tail hp)⟩
    | _ => exact h.probes
  pauses := by
    cases c with
    | rest => simp [Change.apply, h.pauses]
    | _ => exact h.pauses

theorem amend (h : s.Serene) {cs : List Change} (hcs : ∀ c ∈ cs, c ≠ .cancel ∧ c.marks = false) :
    (s.amend cs).Serene := by
  induction cs generalizing s with
  | nil => exact h
  | cons c cs ih =>
      obtain ⟨hc, hmarks⟩ := hcs c (List.mem_cons_self ..)
      exact ih (h.apply hc hmarks) fun d hd => hcs d (List.mem_cons_of_mem _ hd)

theorem emit (h : s.Serene) (r : Record) : (Session.emit r s).Serene := by
  obtain ⟨cs, hcs, he⟩ := announces_emit r s
  have hpush : (s.push r).Serene := h.apply (c := .push r) (by simp) rfl
  rw [he]
  exact hpush.amend fun c hc => ⟨(hcs c hc).ne_cancel h, (hcs c hc).marks⟩

theorem probe (h : s.Serene) (url : String) : (s.probe url).2.Serene := by
  have htake : (s.takeProbe url).2.Serene := h.apply (c := .takeProbe url) (by simp) rfl
  have hquiet : (s.takeProbe url).1.cancels = false := by
    rw [takeProbe]
    cases hprobes : s.world.probes with
    | nil => exact h.probes.1
    | cons p ps => exact h.probes.2 p (by simp [hprobes])
  rw [Session.probe, if_neg (by simp [h.uncancelled])]
  cases Clock.probeSeconds s.world.ticks with
  | error f => exact h
  | ok start =>
      simp only [awaitProbe, hquiet, Bool.false_eq_true, if_false]
      cases (s.takeProbe url).1.ending with
      | answer ticks => exact htake.apply (c := .tick ticks) (by simp) rfl
      | failure => exact htake
      | silence => exact htake

theorem pause (h : s.Serene) : s.pause.Serene := by
  have hcut : s.world.pauses.headD false = false := by rw [h.pauses]; rfl
  have hrest : (Change.rest.apply s).Serene := h.apply (by simp) rfl
  simp only [Session.pause, h.uncancelled, hcut, Bool.false_eq_true, if_false]
  exact hrest

variable {config : Config} {calm : Bool} {c : Call} {next : c.Reply → Script (Option Result)}

theorem perform (h : s.Serene) (prior : List String) (hsteady : (Script.call c next).Steady config calm) :
    (s.perform Session.emit prior c).2.Serene := by
  cases c with
  | look => exact h
  | print text =>
      simp only [Session.perform, h.uncancelled, Bool.false_eq_true, if_false]
      exact h.emit (.output text)
  | probe url => exact h.probe url
  | pause => exact h.pause
  | _ => exact hsteady.elim

theorem follow (h : σ.Serene) (hpace : σ.pace = s.pace.calmed) (hs : s.Busy) (hc : s.cancelled = false)
    (prior : List String) (hc' : (s.perform Session.emit prior c).2.cancelled = false)
    (hsteady : (Script.call c next).Steady config calm) :
    next (σ.perform Session.emit prior c).1 = next (s.perform Session.emit prior c).1 ∧
      (σ.perform Session.emit prior c).2.pace = (s.perform Session.emit prior c).2.pace.calmed := by
  cases c with
  | look => exact ⟨hsteady.1 _ _ (congrArg Pace.config hpace) (h.uncancelled.trans hc.symm), hpace⟩
  | print text =>
      simp only [Session.perform, h.uncancelled, hc, Bool.false_eq_true, if_false, true_and]
      rw [(print_told h.busy.running text).2, (print_told hs.running text).2, hpace]
  | probe url =>
      have hσ := pace_probe h.busy.token h.uncancelled (h.probe url).uncancelled
      have hprobe := pace_probe hs.token hc hc'
      rw [hpace, Pace.probe_calmed, hprobe] at hσ
      exact ⟨congrArg next (Prod.ext_iff.1 hσ).1.symm, (Prod.ext_iff.1 hσ).2.symm⟩
  | pause =>
      refine ⟨rfl, ?_⟩
      have hpaused (s' : Session) : s'.pause.pace = s'.pace := (amends_pause s').pace_eq fun d hd => by cases hd <;> rfl
      exact ((hpaused σ).trans hpace).trans (congrArg Pace.calmed (hpaused s)).symm
  | _ => exact hsteady.elim

end Serene

theorem run_serene (prior : List String) {script : Script (Option Result)} (h : s.Serene)
    (hsteady : script.Steady s.config true) :
    (script.run (perform emit prior) s).2.Serene ∧
      ∃ ending, (script.run (perform emit prior) s).1.ending? = some ending ∧
        (ending = .ok (some {}) ∨ ∃ f, ending = .error (.fault f)) := by
  induction script generalizing s with
  | done r => exact ⟨h, .ok r, rfl, .inl (congrArg _ hsteady)⟩
  | fail f =>
      rcases hsteady with ⟨fault, rfl⟩ | ⟨hfalse, -⟩
      · exact ⟨h, _, rfl, .inr ⟨fault, rfl⟩⟩
      · cases hfalse
  | endless => exact hsteady.elim
  | call c next ih =>
      have hperform := h.perform prior hsteady
      have hnext := steady_perform prior h.busy.token hsteady fun _ => hperform.uncancelled
      exact ih _ hperform hnext

theorem run_ends (prior : List String) {script : Script (Option Result)} (hs : s.Busy)
    (hsteady : script.Steady s.config false) : ∃ ending, (script.run (perform emit prior) s).1.ending? = some ending := by
  induction script generalizing s with
  | done r => exact ⟨_, rfl⟩
  | fail f => exact ⟨_, rfl⟩
  | endless => exact hsteady.elim
  | call c next ih =>
      have hnext := steady_perform prior hs.token hsteady (fun hfalse => nomatch hfalse)
      exact ih _ (hs.evolve (evolves_perform announces_emit prior c s)) hnext

end Session

end Terminal
