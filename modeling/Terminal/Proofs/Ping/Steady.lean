import Terminal.Commands.Ping
import Terminal.Proofs.Session.Printed

namespace Terminal

open Commands

/-- A command of this kind ends quietly or by a fault; unless `calm` it may have seen that it is cancelled, and then it
may also give way. -/
def Script.Steady (config : Config) (calm : Bool) : Script (Option Result) → Prop
  | .done r => r = some {}
  | .fail f => (∃ fault, f = .fault fault) ∨ calm = false ∧ f = .cancelled
  | .endless => False
  | .call .look next =>
    (∀ v v' : View, v.config = v'.config → v.cancelled = v'.cancelled → next v = next v') ∧
    ∀ v : View, v.config = config → (calm = true → v.cancelled = false) → (next v).Steady config calm
  | .call (.print _) next => (next ()).Steady config calm
  | .call (.probe _) next => ∀ echo : Echo, (calm = true → echo ≠ .cancelled) → (next echo).Steady config calm
  | .call .pause next => (next ()).Steady config calm
  | .call _ _ => False

def Call.text? : Call → Option String
  | .print text => some text
  | _ => none

namespace Script

variable {config : Config} {calm : Bool}

theorem steady_of_cancelled (h : calm = false) : (fail .cancelled : Script (Option Result)).Steady config calm :=
  .inr ⟨h, rfl⟩

theorem steady_unlessCancelled {script : Script (Option Result)} (h : script.Steady config calm) :
    (unlessCancelled script).Steady config calm := by
  refine ⟨fun v v' _ hcancelled => by simp only [hcancelled], fun v _ hcalm => ?_⟩
  cases hv : v.cancelled with
  | true =>
      simp only [hv, if_true]
      exact steady_of_cancelled (by cases calm <;> simp_all)
  | false =>
      simp only [hv, Bool.false_eq_true, if_false]
      exact h

theorem steady_probes (url : String) {next : List Int → Script (Option Result)}
    (hnext : ∀ times, (next times).Steady config calm) (left seq : Nat) (times : List Int) :
    (probes url next left seq times).Steady config calm := by
  induction left generalizing seq times with
  | zero => exact hnext times
  | succ left ih =>
      refine steady_unlessCancelled fun echo hecho => ?_
      cases echo with
      | answered ms => exact steady_unlessCancelled (ih _ _)
      | lost => exact steady_unlessCancelled (ih _ _)
      | broken f => exact .inl ⟨f, rfl⟩
      | cancelled => exact steady_of_cancelled (by cases calm <;> simp_all)

theorem steady_printAll (lines : List String) :
    ((printAll lines).bind fun _ => quietly).Steady config calm := by
  induction lines with
  | nil => exact rfl
  | cons line lines ih => exact ih

theorem steady_ping {args rest : List String} {target : String} {count : Int}
    (hargs : Arguments.countOption args "-c" config.pingCount pingUsage = .ok ⟨count, target :: rest⟩) :
    (ping args).Steady config calm := by
  refine ⟨fun v v' hconfig _ => by simp only [hconfig], fun v hv _ => ?_⟩
  simp only [hv, hargs]
  refine steady_probes _ (fun times => ?_) _ _ _
  cases summary target count times with
  | ok lines => exact steady_printAll lines
  | error f => exact .inl ⟨f, rfl⟩

end Script

def Probe.calmed (p : Probe) : Probe := { p with cancels := false }

namespace Pace

def calmed (p : Pace) : Pace := { p with probes := p.probes.map Probe.calmed, laterProbe := p.laterProbe.calmed }

def probe (url : String) (p : Pace) : Echo × Pace :=
  match Clock.probeSeconds p.ticks with
  | .error f => (.broken f, p)
  | .ok start =>
    let sent := { p with probes := p.probes.tail, probed := p.probed ++ [(url, p.config.pingTimeout)] }
    match (p.probes.headD p.laterProbe).ending with
    | .answer ticks =>
      match Clock.probeSeconds (p.ticks + ticks) >>= Clock.roundTrip start with
      | .ok ms => (.answered ms, { sent with ticks := p.ticks + ticks })
      | .error f => (.broken f, { sent with ticks := p.ticks + ticks })
    | .failure | .silence => (.lost, sent)

theorem probe_ne_cancelled (url : String) (p : Pace) : (p.probe url).1 ≠ .cancelled := by
  rw [probe]
  cases Clock.probeSeconds p.ticks with
  | error f => simp
  | ok start =>
      dsimp only
      cases (p.probes.headD p.laterProbe).ending with
      | answer ticks =>
          dsimp only
          cases Clock.probeSeconds (p.ticks + ticks) >>= Clock.roundTrip start <;> simp
      | failure => simp
      | silence => simp

theorem ending_calmed (p : Pace) :
    (p.calmed.probes.headD p.calmed.laterProbe).ending = (p.probes.headD p.laterProbe).ending := by
  rw [calmed]
  cases p.probes <;> rfl

theorem probe_calmed (url : String) (p : Pace) :
    p.calmed.probe url = ((p.probe url).1, (p.probe url).2.calmed) := by
  have hticks : p.calmed.ticks = p.ticks := rfl
  have htail : p.calmed.probes.tail = p.probes.tail.map Probe.calmed := List.map_tail.symm
  rw [probe, probe, ending_calmed, hticks, htail]
  cases Clock.probeSeconds p.ticks with
  | error f => rfl
  | ok start =>
      dsimp only
      cases (p.probes.headD p.laterProbe).ending with
      | answer ticks =>
          dsimp only
          cases Clock.probeSeconds (p.ticks + ticks) >>= Clock.roundTrip start <;> rfl
      | failure => rfl
      | silence => rfl

end Pace

namespace Session

variable {s : Session}

theorem probe_of_cancelled (h : s.cancelled = true) (url : String) : s.probe url = (.cancelled, s) := by
  rw [probe, if_pos h]

theorem cancelled_cancel (hs : s.token.isSome = true) : s.cancel.2.cancelled = true := by
  obtain ⟨t, ht⟩ := Option.isSome_iff_exists.1 hs
  simp [cancel_snd, cancelled, ht, Token.cancel]

theorem cancelled_awaitProbe (hs : s.token.isSome = true) (h : s.cancelled = false) (url : String) (start : Fraction) :
    (s.awaitProbe url start).2.cancelled = (s.takeProbe url).1.cancels := by
  have htaken : (s.takeProbe url).2.cancelled = false := h
  have hcancel : (s.takeProbe url).2.cancel.2.cancelled = true := cancelled_cancel hs
  have htick (s' : Session) (ticks : Int) : (s'.tick ticks).cancelled = s'.cancelled := rfl
  simp only [awaitProbe]
  cases hcancels : (s.takeProbe url).1.cancels with
  | true => cases (s.takeProbe url).1.ending <;> simp [htick, hcancel]
  | false => cases (s.takeProbe url).1.ending <;> simp [htick, htaken]

theorem pace_awaitProbe (h : s.cancelled = false) {url : String} (hquiet : (s.takeProbe url).1.cancels = false)
    {start : Fraction} (hstart : Clock.probeSeconds s.world.ticks = .ok start) :
    s.pace.probe url = ((s.awaitProbe url start).1, (s.awaitProbe url start).2.pace) := by
  have htaken : (s.takeProbe url).2.cancelled = false := h
  have hticks : s.pace.ticks = s.world.ticks := rfl
  simp only [awaitProbe, hquiet, Bool.false_eq_true, if_false, Pace.probe, hticks, hstart]
  have hnext : s.pace.probes.headD s.pace.laterProbe = (s.takeProbe url).1 := rfl
  rw [hnext]
  cases (s.takeProbe url).1.ending with
  | answer ticks =>
      have htimed : ((s.takeProbe url).2.tick ticks).timed start =
          match Clock.probeSeconds (s.world.ticks + ticks) >>= Clock.roundTrip start with
          | .ok ms => .answered ms
          | .error f => .broken f := rfl
      simp only [htimed]
      cases Clock.probeSeconds (s.world.ticks + ticks) >>= Clock.roundTrip start <;> rfl
  | failure => rfl
  | silence =>
      simp only [htaken, Bool.false_eq_true, if_false]
      rfl

theorem pace_probe (hs : s.token.isSome = true) (h : s.cancelled = false) {url : String}
    (h' : (s.probe url).2.cancelled = false) : s.pace.probe url = ((s.probe url).1, (s.probe url).2.pace) := by
  have hticks : s.pace.ticks = s.world.ticks := rfl
  rw [probe, if_neg (by simp [h])] at h' ⊢
  cases hstart : Clock.probeSeconds s.world.ticks with
  | error f => simp only [Pace.probe, hticks, hstart]
  | ok start =>
      rw [hstart] at h'
      dsimp only at h'
      rw [cancelled_awaitProbe hs h] at h'
      exact pace_awaitProbe h h' hstart

section Perform

variable {config : Config} {calm : Bool} {c : Call} {next : c.Reply → Script (Option Result)} (prior : List String)

theorem perform_of_cancelled (h : s.cancelled = true) (hsteady : (Script.call c next).Steady config calm) :
    (s.perform emit prior c).2 = s := by
  cases c with
  | look => rfl
  | print text => simp [perform, h]
  | probe url => simp [perform, probe_of_cancelled h]
  | pause => simp [perform, pause, h]
  | _ => exact hsteady.elim

theorem printed_perform (hrunning : s.running = true) (hsteady : (Script.call c next).Steady config calm) :
    (s.perform emit prior c).2.printed = s.printed ++ if s.cancelled then [] else c.text?.toList := by
  have hsame (h : c.text? = none) (hprinted : (s.perform emit prior c).2.printed = s.printed) :
      (s.perform emit prior c).2.printed = s.printed ++ if s.cancelled then [] else c.text?.toList := by
    rw [hprinted, h]
    simp
  cases c with
  | look => exact hsame rfl rfl
  | print text =>
      cases hc : s.cancelled with
      | true => simp [perform, hc]
      | false =>
          simp only [perform, hc, Bool.false_eq_true, if_false]
          exact (print_told hrunning text).1
  | probe url => exact hsame rfl ((amends_probe url s).printed_eq fun d hd => by cases hd <;> rfl)
  | pause => exact hsame rfl ((amends_pause s).printed_eq fun d hd => by cases hd <;> rfl)
  | _ => exact hsteady.elim

theorem steady_perform (hs : s.token.isSome = true) (hsteady : (Script.call c next).Steady s.config calm)
    (hcalm : calm = true → (s.perform emit prior c).2.cancelled = false) :
    (next (s.perform emit prior c).1).Steady (s.perform emit prior c).2.config calm := by
  rw [(amends_perform announces_emit prior c s).config_eq]
  cases c with
  | look => exact hsteady.2 (s.view prior) rfl hcalm
  | print text => exact hsteady
  | probe url =>
      refine hsteady _ fun htrue hecho => ?_
      have h' : (s.probe url).2.cancelled = false := hcalm htrue
      have h : s.cancelled = false := by
        cases hc : s.cancelled with
        | true => rw [probe_of_cancelled hc, hc] at h'; exact h'
        | false => rfl
      refine Pace.probe_ne_cancelled url s.pace ?_
      rw [pace_probe hs h h']
      exact hecho
  | pause => exact hsteady
  | _ => exact hsteady.elim

end Perform

end Session

end Terminal
