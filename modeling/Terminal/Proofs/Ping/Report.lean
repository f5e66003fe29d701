import Terminal.Proofs.Ping.Outcome
import Terminal.Proofs.Ping.Summary
import Terminal.Proofs.Session.Advance
import Terminal.Proofs.Session.Scene

namespace Terminal

open Commands

namespace Session

variable {s : Session} (prior : List String)

theorem advances_probe (url : String) (hcancelled : s.cancelled = false) {count : ℕ}
    (hcalm : s.world.Calm (count + 1)) :
    ∃ s', s.probe url = (match s.world.trip? 0 with | some ms => .answered ms | none => .lost, s') ∧
      Advances s [] { s.world.afterProbe (url, s.config.pingTimeout) with pauses := s.world.pauses } s' := by
  obtain ⟨start, hstart, -⟩ := Clock.exists_probeSeconds (hcalm.clock 0 (by omega))
  have hheads : s.world.probes.headD s.world.laterProbe = s.world.probe 0 := by
    cases hprobes : s.world.probes <;> simp [World.probe, hprobes]
  have hquiet := hcalm.probes 0 (by omega)
  have hprobe : s.probe url = s.awaitProbe url start := by
    simp only [Session.probe, hcancelled, Bool.false_eq_true, if_false]
    have hticks : Clock.probeSeconds s.world.ticks = .ok start := hstart
    rw [hticks]
  have hlost (hending : ∀ k, (s.world.probe 0).ending ≠ .answer k) :
      s.world.trip? 0 = none ∧ s.world.clock 1 = s.world.ticks := by
    constructor
    · have hnone := (hcalm.isSome_trip?_iff (Nat.succ_pos _)).not.2 (not_exists.2 hending)
      simpa using hnone
    · cases hk : (s.world.probe 0).ending with
      | answer k => exact absurd hk (hending k)
      | _ => simp [World.clock, hk, ProbeEnd.ticks]
  rw [hprobe]
  simp only [awaitProbe, takeProbe, hheads, hquiet, Bool.false_eq_true, if_false]
  cases hending : (s.world.probe 0).ending with
  | answer k =>
      obtain ⟨ms, htime, htrip, -⟩ := hcalm.trip?_of_answer (by omega) hending
      have hclock : s.world.clock 1 = s.world.ticks + k := by
        rw [World.clock, hending]
        rfl
      have htimed : (Clock.probeSeconds (s.world.ticks + k) >>= Clock.roundTrip start) = .ok ms := by
        rw [← hclock, ← htime, Clock.time, hstart]
        rfl
      refine ⟨_, Prod.ext ?_ rfl, rfl, rfl, rfl, rfl, (Advances.refl s).turn, ?_⟩
      · simp only [timed, tick, htimed, htrip]
      · simp only [tick, World.afterProbe, hclock]
  | failure =>
      obtain ⟨htrip, hclock⟩ := hlost (by simp [hending])
      refine ⟨_, Prod.ext ?_ rfl, rfl, rfl, rfl, rfl, (Advances.refl s).turn, ?_⟩
      · simp only [htrip]
      · simp only [World.afterProbe, hclock]
  | silence =>
      obtain ⟨htrip, hclock⟩ := hlost (by simp [hending])
      refine ⟨_, Prod.ext ?_ rfl, rfl, rfl, rfl, rfl, (Advances.refl s).turn, ?_⟩
      · have hstill : cancelled { s with world := { s.world with
            probes := s.world.probes.tail
            probed := s.world.probed ++ [(url, s.config.pingTimeout)] } } = false := hcancelled
        simp only [htrip, hstill, Bool.false_eq_true, if_false]
      · simp only [World.afterProbe, hclock]

theorem advances_pause (hcancelled : s.cancelled = false) (hcut : s.world.pauses.getD 0 false = false) :
    Advances s [] { s.world with pauses := s.world.pauses.tail } s.pause := by
  have hhead : s.world.pauses.headD false = false := by
    cases hpauses : s.world.pauses with
    | nil => rfl
    | cons cut rest => simpa [hpauses] using hcut
  have hpause : s.pause = { s with world := { s.world with pauses := s.world.pauses.tail } } := by
    simp only [pause, hcancelled, hhead, Bool.false_eq_true, if_false]
  rw [hpause]
  exact ⟨rfl, rfl, rfl, rfl, (Advances.refl s).turn, rfl⟩

theorem run_unlessCancelled {α : Type} (hcancelled : s.cancelled = false) (next : Script α) :
    (unlessCancelled next).run (perform emit prior) s = next.run (perform emit prior) s := by
  have hview : (s.view prior).cancelled = false := hcancelled
  simp only [unlessCancelled, Script.run, perform, hview, Bool.false_eq_true, if_false]

def probeText (seq : ℕ) : Option ℤ → String
  | some ms => "seq=" ++ toString seq ++ " time=" ++ toString ms ++ " ms"
  | none => "seq=" ++ toString seq ++ " timeout"

theorem run_round (url : String) (next : List ℤ → Script (Option Result)) (left seq : ℕ) (times : List ℤ)
    (hs : s.Attentive) (hcancelled : s.cancelled = false) (hcalm : s.world.Calm (left + 1)) :
    ∃ s', (probes url next (left + 1) seq times).run (perform emit prior) s =
        (probes url next left (seq + 1) (times ++ (s.world.trip? 0).toList)).run (perform emit prior) s' ∧
      Advances s [.output (probeText seq (s.world.trip? 0))] (s.world.afterProbe (url, s.config.pingTimeout)) s' := by
  obtain ⟨s₁, hprobe, hfirst⟩ := advances_probe url hcancelled hcalm
  have hcancelled₁ := hfirst.cancelled.trans hcancelled
  have hprint := Advances.emit (hfirst.attentive hs) (.output (probeText seq (s.world.trip? 0)))
  have hcancelled₂ := hprint.cancelled.trans hcancelled₁
  have hpause := advances_pause hcancelled₂ (by
    rw [hprint.world, hfirst.world]
    exact hcalm.pauses 0 (by omega))
  have hcancelled₃ := hpause.cancelled.trans hcancelled₂
  have hall := (hfirst.trans hprint).trans hpause
  rw [hprint.world, hfirst.world] at hall
  refine ⟨_, ?_, hall⟩
  rw [probes, run_unlessCancelled prior hcancelled, Script.run, perform]
  dsimp only
  rw [hprobe]
  cases htrip : s.world.trip? 0 with
  | some ms =>
      rw [htrip] at hcancelled₃
      simp only [Script.run, perform, hcancelled₁, Bool.false_eq_true, if_false]
      exact run_unlessCancelled prior hcancelled₃ _
  | none =>
      rw [htrip] at hcancelled₃
      simp only [Script.run, perform, hcancelled₁, Bool.false_eq_true, if_false, Option.toList_none, List.append_nil]
      exact run_unlessCancelled prior hcancelled₃ _

theorem run_rounds (url : String) (next : List ℤ → Script (Option Result)) (left seq : ℕ) (times : List ℤ)
    (hs : s.Attentive) (hcancelled : s.cancelled = false) (hcalm : s.world.Calm left) :
    ∃ s' w, (probes url next left seq times).run (perform emit prior) s =
        (next (times ++ (List.range left).filterMap s.world.trip?)).run (perform emit prior) s' ∧
      Advances s ((List.range left).map fun i => .output (probeText (seq + i) (s.world.trip? i))) w s' ∧
      w.probed = s.world.probed ++ List.replicate left (url, s.config.pingTimeout) := by
  induction left generalizing s seq times with
  | zero => exact ⟨s, s.world, by simp [probes], Advances.refl s, by simp⟩
  | succ left ih =>
      obtain ⟨s₁, hround, hfirst⟩ := run_round prior url next left seq times hs hcancelled hcalm
      have hcalm₁ : s₁.world.Calm left := by
        rw [hfirst.world]
        exact hcalm.afterProbe _
      obtain ⟨s', w, hrun, hrest, hprobed⟩ := ih (seq + 1) (times ++ (s.world.trip? 0).toList)
        (hfirst.attentive hs) (hfirst.cancelled.trans hcancelled) hcalm₁
      rw [hfirst.world, hfirst.config] at hprobed
      simp only [hfirst.world, World.trip?_afterProbe] at hrun hrest
      refine ⟨s', w, ?_, ?_, ?_⟩
      · rw [hround, hrun, List.range_succ_eq_map, List.filterMap_cons, List.filterMap_map]
        cases s.world.trip? 0 <;> simp
      · have hall := hfirst.trans hrest
        rw [List.range_succ_eq_map, List.map_cons, List.map_map]
        simpa [Function.comp_def, Nat.add_assoc, Nat.add_comm 1] using hall
      · rw [hprobed, List.replicate_succ]
        simp [World.afterProbe]

theorem run_printAll {α : Type} (lines : List String) (next : Unit → Script α) (hs : s.Attentive)
    (hcancelled : s.cancelled = false) :
    ∃ s', ((Script.printAll lines).bind next).run (perform emit prior) s = (next ()).run (perform emit prior) s' ∧
      Advances s (lines.map .output) s.world s' := by
  induction lines generalizing s with
  | nil => exact ⟨s, rfl, Advances.refl s⟩
  | cons line lines ih =>
      have hprint := Advances.emit hs (.output line)
      obtain ⟨s', hrun, hrest⟩ := ih (hprint.attentive hs) (hprint.cancelled.trans hcancelled)
      rw [hprint.world] at hrest
      refine ⟨s', ?_, hprint.trans hrest⟩
      rw [← hrun, Script.printAll, Script.bind, Script.run, perform]
      simp only [hcancelled, Bool.false_eq_true, if_false]
      rfl

def Reported (w : World) (target : String) (count : ℤ) (lines : List String) : Prop :=
  ∃ figures, IsSpreadOf ((List.range count.toNat).filterMap w.trip?) figures ∧
    lines = ("PING " ++ target ++ " with HTTP HEAD (" ++ toString count ++ " packets)") ::
      ((List.range count.toNat).map (fun i => probeText i (w.trip? i)) ++
        (("--- " ++ target ++ " ping statistics ---") ::
          (toString count ++ " packets transmitted, " ++
            toString ((List.range count.toNat).filterMap w.trip?).length ++ " received") :: figures))

theorem run_ping {args rest : List String} {target : String} {count : ℤ}
    (hargs : Arguments.countOption args "-c" s.config.pingCount pingUsage = .ok ⟨count, target :: rest⟩)
    (hs : s.Attentive) (hcancelled : s.cancelled = false) (hcalm : s.world.Calm count.toNat) :
    ∃ s' w lines, (ping args).run (perform emit prior) s = (.done (some {}), s') ∧
      Advances s (lines.map .output) w s' ∧ Reported s.world target count lines ∧
      w.probed = s.world.probed ++ List.replicate count.toNat (Url.complete target, s.config.pingTimeout) := by
  have hheader := Advances.emit hs (.output ("PING " ++ target ++ " with HTTP HEAD (" ++ toString count ++ " packets)"))
  have hs₁ := hheader.attentive hs
  have hcancelled₁ := hheader.cancelled.trans hcancelled
  have hbinary : ∀ ms ∈ (List.range count.toNat).filterMap s.world.trip?, Binary64.IsValue ms := by
    intro ms hms
    obtain ⟨i, hi, htrip⟩ := List.mem_filterMap.1 hms
    exact hcalm.isValue_of_trip? (List.mem_range.1 hi) htrip
  obtain ⟨figures, hfigures, hspread⟩ := exists_timesText hbinary
  obtain ⟨s₂, w, hrounds, hround, hprobed⟩ := run_rounds prior (Url.complete target)
    (fun times => ((Script.ofExcept .fault (summary target count times)).bind Script.printAll).bind fun _ => quietly)
    count.toNat 0 [] hs₁ hcancelled₁ (by rw [hheader.world]; exact hcalm)
  rw [hheader.world, hheader.config] at hprobed
  simp only [hheader.world, List.nil_append, Nat.zero_add] at hrounds hround
  have hs₂ := hround.attentive hs₁
  obtain ⟨s₃, hprint, hlines⟩ := run_printAll prior
    (("--- " ++ target ++ " ping statistics ---") ::
      (toString count ++ " packets transmitted, " ++
        toString ((List.range count.toNat).filterMap s.world.trip?).length ++ " received") :: figures)
    (fun _ => quietly) hs₂ (hround.cancelled.trans hcancelled₁)
  rw [hround.world] at hlines
  refine ⟨s₃, w, _, ?_, ?_, ⟨figures, hspread, rfl⟩, hprobed⟩
  · have hview : (s.view prior).config = s.config := rfl
    rw [ping, Script.run, perform]
    simp only [hview, hargs]
    rw [Script.run, perform]
    simp only [hcancelled, Bool.false_eq_true, if_false]
    refine hrounds.trans ?_
    rw [summary, hfigures]
    exact hprint
  · have hall := (hheader.trans hround).trans hlines
    simpa [Function.comp_def] using hall

structure PingReport (s : Session) (target : String) (count : ℤ) (t : Turn) (s' : Session) : Prop where
  probed : s'.world.probed =
    s.world.probed ++ List.replicate count.toNat (Url.complete target, s.config.pingTimeout)
  output : Reported s.world target count t.output
  uncancelled : t.cancelled = false
  idle : s'.running = false

theorem PingReport.congr {s s₁ s' : Session} {target : String} {count : ℤ} {t : Turn}
    (h : PingReport s₁ target count t s') (hworld : s₁.world = s.world) (hconfig : s₁.config = s.config) :
    PingReport s target count t s' := by
  obtain ⟨hprobed, houtput, huncancelled, hidle⟩ := h
  rw [hworld, hconfig] at hprobed
  rw [hworld] at houtput
  exact ⟨hprobed, houtput, huncancelled, hidle⟩

theorem output_map (lines : List String) : (lines.map Record.output).filterMap Record.output? = lines := by
  induction lines with
  | nil => rfl
  | cons line lines ih => simpa [Record.output?] using ih

theorem runCommand_ping {c : Command} (name : String) {target : String} {args rest : List String} {count : ℤ} {t : Turn}
    (hping : c.handler = ping)
    (hargs : Arguments.countOption args "-c" s.config.pingCount pingUsage = .ok ⟨count, target :: rest⟩)
    (hs : s.Attentive) (hcalm : s.world.Calm count.toNat) (hturn : s.turn = some t) (hblank : t.output = [])
    (huncancelled : t.cancelled = false) :
    ∃ t' s', s.runCommand emit prior c name args = (.settled t', s') ∧ PingReport s target count t' s' := by
  obtain ⟨s₁, w, lines, hrun, hadvances, hreported, hprobed⟩ :=
    run_ping (s := s.launch) prior hargs hs rfl hcalm
  have hcancelled₁ : s₁.cancelled = false := hadvances.cancelled
  have hturn₁ : s₁.turn = some { t with records := t.records ++ lines.map .output } := by
    rw [hadvances.turn]
    simp [launch, hturn]
  have hconclude : s₁.conclude emit name (.ok (some {})) = s₁ := by
    simp only [conclude, hcancelled₁, Bool.false_eq_true, if_false]
    rfl
  refine ⟨{ t with records := t.records ++ lines.map .output }, { s₁.land with turn := none }, ?_, ?_, ?_,
    huncancelled, rfl⟩
  · rw [runCommand, hping, hrun]
    simp only [hconclude]
    rw [finish, land, hturn₁]
    rfl
  · exact (congrArg World.probed hadvances.world).trans hprobed
  · rw [Turn.output] at hblank ⊢
    rw [List.filterMap_append, hblank, output_map]
    exact hreported

theorem one_le_countOption {args rest : List String} {flag usage : String} {default count : ℤ} (hdefault : 1 ≤ default)
    (h : Arguments.countOption args flag default usage = .ok ⟨count, rest⟩) : 1 ≤ count := by
  rw [Arguments.countOption] at h
  split at h
  · cases h
    exact hdefault
  · cases h
  · split at h
    · cases h
    · cases h
      exact le_max_left _ _

theorem advances_typeIn (line : String) (hs : s.Attentive) :
    Advances { s with turn := some {} } [s.typed line] s.world
      (((s.typeIn line).remember line).report .debug ("run " ++ Text.trim line)) := by
  have htyped := Advances.emit (s := { s with turn := some {} }) hs (s.typed line)
  exact ⟨htyped.running, htyped.hooks, htyped.config, htyped.cancelled, htyped.turn, htyped.world⟩

theorem submit_ping {c : Command} {line name target : String} {args rest : List String} {count : ℤ}
    (hidle : s.running = false) (hcommand : s.registry.get? name = some c) (hwords : Text.words line = name :: args)
    (hping : c.handler = ping)
    (hargs : Arguments.countOption args "-c" s.config.pingCount pingUsage = .ok ⟨count, target :: rest⟩)
    (hs : s.Attentive) (hcalm : s.world.Calm count.toNat) :
    ∃ t s', s.submit line = (.settled t, s') ∧ PingReport s target count t s' := by
  have hbegins := begins_typeIn line s
  have htyped := advances_typeIn line hs
  have hturn := htyped.turn
  rw [Option.map_some] at hturn
  have hconfig := htyped.config
  obtain ⟨t, s', hrun, hreport⟩ := runCommand_ping (s.typeIn line).history name hping
    (by rw [hconfig]; exact hargs) (htyped.attentive hs) (by rw [htyped.world]; exact hcalm) hturn rfl rfl
  refine ⟨t, s', ?_, hreport.congr htyped.world hconfig⟩
  rw [submit_eq, opening_of_command hidle hwords (by rw [hbegins.registry]; exact hcommand)]
  exact (runCommand_eq _ c name args _).symm.trans hrun

/-- Where nobody interferes, the prober is asked once for each packet, and the turn shows how each probe ended and what
the times of those that were answered come to. -/
theorem ping_reported {s : Session} {c : Command} {name target : String} {args rest : List String} {count : ℤ}
    (hping : c.handler = ping)
    (hargs : Arguments.countOption args "-c" s.config.pingCount pingUsage = .ok ⟨count, target :: rest⟩)
    (hcount : 1 ≤ s.config.pingCount) (hs : s.Attentive) (hcalm : s.world.Calm count.toNat) :
    1 ≤ count ∧ (∀ i < count.toNat, s.world.Told i) ∧
      (∀ prior, s.turn = some {} →
        ∃ t s', s.runCommand emit prior c name args = (.settled t, s') ∧ PingReport s target count t s') ∧
      ∀ line, s.running = false → s.registry.get? name = some c → Text.words line = name :: args →
        ∃ t s', s.submit line = (.settled t, s') ∧ PingReport s target count t s' := by
  refine ⟨one_le_countOption hcount hargs, fun i hi => hcalm.told hi, fun prior hturn => ?_, ?_⟩
  · exact runCommand_ping prior name hping hargs hs hcalm hturn rfl rfl
  · intro line hidle hcommand hwords
    exact submit_ping hidle hcommand hwords hping hargs hs hcalm

def pingCommand : Command := ⟨⟨"ping", "Ping a host using HTTP request timings", some pingUsage⟩, ping⟩

def pinging (probes : List Probe) : Session :=
  { ofCommand pingCommand with world := { wall := 0, probes } }

theorem pinging_reported : ∃ t s',
    (pinging [⟨.answer 64, false⟩, ⟨.failure, false⟩]).submit "ping -c 2 host" = (.settled t, s') ∧
      PingReport (pinging [⟨.answer 64, false⟩, ⟨.failure, false⟩]) "host" 2 t s' := by
  have hcalm : (pinging [⟨.answer 64, false⟩, ⟨.failure, false⟩]).world.Calm (2 : ℤ).toNat :=
    ⟨by decide, by decide, by decide +kernel⟩
  have hargs : Arguments.countOption ["-c", "2", "host"] "-c" 4 pingUsage = .ok ⟨2, ["host"]⟩ := by decide +kernel
  have hcommand : (pinging [⟨.answer 64, false⟩, ⟨.failure, false⟩]).registry.get? "ping" = some pingCommand := rfl
  have hreported := @ping_reported (pinging [⟨.answer 64, false⟩, ⟨.failure, false⟩]) pingCommand "ping" "host" _ [] 2
    rfl hargs (by decide) (fun h hh => nomatch hh) hcalm
  exact hreported.2.2.2 "ping -c 2 host" rfl hcommand (by decide +kernel)

/-- The mean lies two thirds above a whole number; binary numbers of that size know halves only. -/
theorem far_mean_rounded_down : ∃ t,
    ((pinging [⟨.answer 2560000000000000, false⟩, ⟨.answer 2560000000001024, false⟩,
      ⟨.answer 2560000000001024, false⟩]).submit "ping -c 3 host").1 = .settled t ∧
    t.output = ["PING host with HTTP HEAD (3 packets)", "seq=0 time=2500000000000000 ms",
      "seq=1 time=2500000000001000 ms", "seq=2 time=2500000000001000 ms", "--- host ping statistics ---",
      "3 packets transmitted, 3 received",
      "rtt min/avg/max = 2500000000000000/2500000000000666/2500000000001000 ms"] ∧
    roundHalfEven (2500000000000000 + 2500000000001000 + 2500000000001000) 3 = 2500000000000667 := by
  have hsubmit : ((pinging [⟨.answer 2560000000000000, false⟩, ⟨.answer 2560000000001024, false⟩,
      ⟨.answer 2560000000001024, false⟩]).submit "ping -c 3 host").1 = .settled ⟨[
        .input "ping -c 3 host" "guest" "stellar" "/home/guest", .output "PING host with HTTP HEAD (3 packets)",
        .output "seq=0 time=2500000000000000 ms", .output "seq=1 time=2500000000001000 ms",
        .output "seq=2 time=2500000000001000 ms", .output "--- host ping statistics ---",
        .output "3 packets transmitted, 3 received",
        .output "rtt min/avg/max = 2500000000000000/2500000000000666/2500000000001000 ms"], false, false⟩ := by
    decide +kernel
  exact ⟨_, hsubmit, rfl, by decide⟩

end Session

end Terminal
