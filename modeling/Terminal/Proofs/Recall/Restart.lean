import Terminal.Proofs.Recall.Steering
import Terminal.Proofs.Session.History
import Terminal.Proofs.Session.Waiting

namespace Terminal

open Recall

namespace Recall

theorem Walk.after_of_resets {moves : List Move} (h : ∀ m ∈ moves, m = .reset) (w : Walk) :
    w.after moves = if moves = [] then w else { w with place := none } := by
  induction moves generalizing w with
  | nil => rfl
  | cons m moves ih =>
      have hrest := ih (fun m' hm' => h m' (List.mem_cons_of_mem _ hm')) { w with place := none }
      rw [after_cons, h m (List.mem_cons_self ..), if_neg (List.cons_ne_nil _ _)]
      exact hrest.trans (ite_self _)

theorem Walk.lines_prefix (moves : List Move) (w : Walk) : w.lines <+: (w.after moves).lines := by
  induction moves generalizing w with
  | nil => exact List.prefix_rfl
  | cons m moves ih =>
      have hmove : w.lines <+: (w.move m).2.lines := by
        cases m with
        | append line => exact List.prefix_append ..
        | _ => exact List.prefix_rfl
      exact hmove.trans (ih _)

theorem older_none {lines : List String} (h : lines ≠ []) : (older lines none).2 = lines.getLast? := by
  have hempty : lines.isEmpty = false := by simpa using h
  rw [older.eq_def, hempty, List.getLast?_eq_getElem?]
  rfl

theorem newer_ne_none {lines : List String} (h : lines ≠ []) (i : Nat) : (newer lines (some i)).2 ≠ none := by
  have hempty : lines.isEmpty = false := by simpa using h
  rw [newer, hempty, if_neg Bool.false_ne_true]
  split
  · simp
  · rename_i hlt
    simpa using hlt

end Recall

def Action.steps : Action → Bool
  | .older | .newer => true
  | _ => false

def Action.givesUp : Action → Bool
  | .interrupt line => line != ""
  | _ => false

theorem Action.move?_of_not_steps {a : Action} (h : a.steps = false) (running : Bool) :
    ∀ m ∈ a.move? running, m = .reset := by
  intro m hm
  cases a with
  | older => cases h
  | newer => cases h
  | interrupt line =>
      rw [move?] at hm
      split at hm
      · cases hm
      · cases hm
        rfl
  | _ => cases hm

theorem Action.move?_eq_none_iff {a : Action} (h : a.steps = false) : a.move? false = none ↔ a.givesUp = false := by
  cases a with
  | older => cases h
  | newer => cases h
  | interrupt line => simp [move?, givesUp]
  | _ => exact iff_of_true rfl rfl

namespace Session

def heard (p : Action → Bool) (s : Session) : Nat := s.watcher.replies.countP fun r => p r.1

/-- Stepping to newer lines does nothing, and stepping to older ones begins with the newest. -/
structure Restarts (s : Session) : Prop where
  newer : s.newer.1 = none
  older : ∃ line, s.history.getLast? = some line ∧ s.older.1 = some line

variable {s s' : Session} {own : Option Move}

theorem restarts_iff (h : s.history ≠ []) : s.Restarts ↔ s.place = none := by
  constructor
  · rintro ⟨hnewer, -⟩
    cases hplace : s.place with
    | none => rfl
    | some i =>
        rw [Session.newer, hplace] at hnewer
        exact absurd hnewer (newer_ne_none h i)
  · intro hplace
    have hline : s.history.getLast? = some (s.history.getLast h) := List.getLast?_eq_some_getLast h
    refine ⟨?_, _, hline, ?_⟩
    · rw [Session.newer, hplace]
      rfl
    · rw [Session.older, hplace, ← hline]
      exact older_none h

theorem moves_of_not_steps {rs : List ((a : Action) × a.Reply)} (h : rs.countP (fun r => r.1.steps) = 0)
    (running : Bool) : ∀ m ∈ moves running rs, m = .reset := by
  intro m hm
  obtain ⟨r, hr, hmove⟩ := List.mem_filterMap.1 hm
  have hsteps : r.1.steps = false := by simpa using List.countP_eq_zero.1 h r hr
  exact Action.move?_of_not_steps hsteps running m hmove

theorem moves_eq_nil_iff {rs : List ((a : Action) × a.Reply)} (h : rs.countP (fun r => r.1.steps) = 0) :
    moves false rs = [] ↔ rs.countP (fun r => r.1.givesUp) = 0 := by
  rw [moves, List.filterMap_eq_nil_iff, List.countP_eq_zero]
  refine forall₂_congr fun r hr => ?_
  have hsteps : r.1.steps = false := by simpa using List.countP_eq_zero.1 h r hr
  rw [Action.move?_eq_none_iff hsteps, Bool.not_eq_true]

namespace Strolls

theorem heard_le (h : Strolls own s s') (p : Action → Bool) : s.heard p ≤ s'.heard p := by
  obtain ⟨rs, hreplies, -⟩ := h.heard
  rw [Session.heard, Session.heard, hreplies, List.countP_append]
  exact Nat.le_add_right ..

theorem still (h : Strolls own s s') (hstill : s'.heard Action.steps = s.heard Action.steps) :
    ∃ ms, (∀ m ∈ ms, m = .reset) ∧ s'.walk = s.walk.after (ms ++ own.toList) ∧
      (s.running = false → (ms = [] ↔ s'.heard Action.givesUp = s.heard Action.givesUp)) := by
  obtain ⟨rs, hreplies, hwalk⟩ := h.heard
  have hcount (p : Action → Bool) : s'.heard p = s.heard p + rs.countP fun r => p r.1 := by
    rw [Session.heard, hreplies, List.countP_append, Session.heard]
  have hnone : rs.countP (fun r => r.1.steps) = 0 := by
    have hsteps := hcount Action.steps
    omega
  refine ⟨moves s.running rs, moves_of_not_steps hnone s.running, hwalk, fun hidle => ?_⟩
  rw [hidle, moves_eq_nil_iff hnone, hcount]
  omega

theorem place_none (h : Strolls own s s') (hown : ∀ m ∈ own, m = .reset)
    (hstill : s'.heard Action.steps = s.heard Action.steps) (hplace : s.place = none) : s'.place = none := by
  obtain ⟨ms, hms, hwalk, -⟩ := h.still hstill
  have hall : ∀ m ∈ ms ++ own.toList, m = .reset := by
    intro m hm
    rcases List.mem_append.1 hm with hm | hm
    · exact hms m hm
    · exact hown m (Option.mem_toList.1 hm)
  rw [Walk.after_of_resets hall] at hwalk
  have hplace' := congrArg Walk.place hwalk
  split at hplace'
  · exact hplace'.trans hplace
  · exact hplace'

end Strolls

theorem strolls_typeIn (text : String) (s : Session) : Strolls none s (s.typeIn text) := by
  have hturn : Strolls none s { s with turn := some {} } := .of_eq rfl rfl rfl
  exact hturn.trans (guides_emit _ _)

theorem strolls_opening (line : String) (s : Session) :
    s.running = true ∧ s.opening line = (.answered .busy, s) ∨
    s.running = false ∧ Text.words line = [] ∧ Strolls none s (s.opening line).2 ∨
    s.running = false ∧ Text.words line ≠ [] ∧ ∃ t u, Strolls none s t ∧ Strolls none (t.remember line) u ∧
      (s.opening line).2.walk = u.walk ∧ (s.opening line).2.watcher.replies = u.watcher.replies := by
  cases hrunning : s.running with
  | true => exact .inl ⟨rfl, opening_of_running hrunning line⟩
  | false =>
      right
      have htyped := strolls_typeIn line s
      cases hw : Text.words line with
      | nil =>
          rw [opening_of_blank hrunning hw]
          exact .inl ⟨rfl, rfl, (strolls_typeIn "" s).trans (.of_eq rfl rfl rfl)⟩
      | cons name args =>
          refine .inr ⟨rfl, List.cons_ne_nil _ _, s.typeIn line, ?_⟩
          cases hc : (s.typeIn line).registry.get? name with
          | none =>
              have hreport : Strolls none ((s.typeIn line).remember line)
                  (((s.typeIn line).remember line).report .warning ("command not found: " ++ name)) :=
                .of_eq rfl rfl rfl
              rw [opening_of_unknown hrunning hw hc]
              exact ⟨_, htyped, hreport.trans (guides_emit _ _), rfl, rfl⟩
          | some c =>
              rw [opening_of_command hrunning hw hc]
              exact ⟨_, htyped, .refl, rfl, rfl⟩

theorem heard_remember (p : Action → Bool) (line : String) (s : Session) : (s.remember line).heard p = s.heard p := rfl

theorem place_opening {line : String} {o : Opening} (ho : s.opening line = (o, s'))
    (hstill : s'.heard Action.steps = s.heard Action.steps)
    (h : s.place = none ∨ s.running = false ∧ Text.words line ≠ []) : s'.place = none := by
  obtain rfl : (s.opening line).2 = s' := congrArg Prod.snd ho
  rcases strolls_opening line s with
    ⟨hrunning, hbusy⟩ | ⟨-, hw, hblank⟩ | ⟨-, -, t, u, hbefore, hafter, hwalk, hreplies⟩
  · rw [hbusy]
    refine h.resolve_right fun hidle => ?_
    simp [hrunning] at hidle
  · exact hblank.place_none nofun hstill (h.resolve_right fun hidle => hidle.2 hw)
  · have hsame : (s.opening line).2.heard Action.steps = u.heard Action.steps := by
      rw [heard, hreplies, heard]
    have hle := hbefore.heard_le Action.steps
    have hle' := hafter.heard_le Action.steps
    rw [heard_remember] at hle'
    have hquiet : u.heard Action.steps = (t.remember line).heard Action.steps := by
      rw [heard_remember]
      omega
    exact (congrArg Walk.place hwalk).trans (hafter.place_none nofun hquiet rfl)

end Session

open Session

namespace Scene

def Event.steps : Event → Bool
  | .act a _ => a.steps
  | .call (.act a) => a.steps
  | _ => false

structure Still (m : Scene) (e : Event) (m' : Scene) : Prop where
  step : Step m e m'
  own : e.steps = false
  heard : e = .outside ∨ m'.session.heard Action.steps = m.session.heard Action.steps

inductive StillRun : Scene → List Event → Scene → Prop
  | nil {m : Scene} : StillRun m [] m
  | cons {m m' m'' : Scene} {e : Event} {es : List Event} :
      Still m e m' → StillRun m' es m'' → StillRun m (e :: es) m''

/-- The submission of a line returned a turn, and nobody stepped through the history meanwhile. -/
inductive ReturnsStill : Scene → String → Turn → Scene → Prop
  | atOnce {m m' : Scene} {line : String} {t : Turn} :
      Still m (.submit line (some (.settled t))) m' → ReturnsStill m line t m'
  | later {m m₁ m₂ m' : Scene} {line : String} {es : List Event} {ending : Except Failure (Option Result)}
      {t : Turn} :
      Still m (.submit line none) m₁ → StillRun m₁ es m₂ → (∀ e ∈ es, ¬ e.Ends) →
      Still m₂ (.finish ending t) m' → ReturnsStill m line t m'

variable {m m' : Scene} {e : Event} {es : List Event} {line : String} {t : Turn}

theorem StillRun.run (h : StillRun m es m') : Run m es m' := by
  induction h with
  | nil => exact .nil
  | cons hstill _ ih => exact .cons hstill.step ih

theorem ReturnsStill.returns (h : ReturnsStill m line t m') : Returns m line t m' := by
  cases h with
  | atOnce hstill => exact .atOnce hstill.step
  | later hbegun hrun hes hend => exact .later hbegun.step hrun.run hes hend.step

theorem Step.walk (h : Step m e m') : ∃ ms, m'.session.walk = m.session.walk.after ms := by
  have hopening (line : String) (s : Session) : ∃ ms, (s.opening line).2.walk = s.walk.after ms := by
    rcases strolls_opening line s with ⟨-, hbusy⟩ | ⟨-, -, hblank⟩ | ⟨-, -, t, u, hbefore, hafter, hwalk, -⟩
    · exact ⟨[], by rw [hbusy]; rfl⟩
    · obtain ⟨-, rs, -, hwalk⟩ := hblank
      exact ⟨_, hwalk⟩
    · obtain ⟨-, rs, -, hbefore⟩ := hbefore
      obtain ⟨-, rs', -, hafter⟩ := hafter
      have hremember : (t.remember line).walk = t.walk.after [.append line, .reset] := rfl
      rw [hwalk, hafter, hremember, hbefore, ← Walk.after_append, ← Walk.after_append]
      exact ⟨_, rfl⟩
  cases h with
  | @answered s s' fs line o ho =>
      have hwalk := hopening line s
      rwa [ho] at hwalk
  | @begun s s' fs line f ho =>
      have hwalk := hopening line s
      rwa [ho] at hwalk
  | @call s _ _ f c _ _ =>
      obtain ⟨-, rs, -, hwalk⟩ := strolls_perform f.prior c s
      exact ⟨_, hwalk⟩
  | @finish s s' _ _ f ending _ _ hsettle =>
      obtain ⟨-, rs, -, hwalk⟩ := strolls_conclude f.name ending s
      cases hsettle
      exact ⟨_, hwalk⟩
  | @act s fs a =>
      obtain ⟨-, rs, -, hwalk⟩ := strolls_act guides_emit a s
      exact ⟨_, hwalk⟩
  | _ => exact ⟨[], rfl⟩

theorem Reachable.exists_walk (h : m.Reachable) :
    (∃ ms, m.session.walk = (Walk.mk [] none).after ms) ∧
      ∀ i, m.session.place = some i → i < m.session.history.length := by
  have hwalks : ∃ ms, m.session.walk = (Walk.mk [] none).after ms := by
    obtain ⟨config, files, registry, log, world, es, hrun⟩ := h
    refine hrun.keeps (P := fun m => ∃ ms, m.session.walk = (Walk.mk [] none).after ms) ?_ ⟨[], rfl⟩
    rintro n e n' - hstep ⟨ms, hms⟩
    obtain ⟨ms', hms'⟩ := hstep.walk
    exact ⟨ms ++ ms', by rw [hms', hms, Walk.after_append]⟩
  refine ⟨hwalks, fun i hi => ?_⟩
  obtain ⟨ms, hms⟩ := hwalks
  have htracks := (Tracks.fresh []).after ms
  rw [← hms] at htracks
  exact (htracks.lt_of_place hi).2

theorem Still.place_none (h : Still m e m') (hplace : m.session.place = none) : m'.session.place = none := by
  obtain ⟨hstep, hown, hheard⟩ := h
  cases hstep with
  | answered ho => exact place_opening ho (hheard.resolve_left nofun) (.inl hplace)
  | begun ho => exact place_opening ho (hheard.resolve_left nofun) (.inl hplace)
  | @call s _ _ f c _ _ =>
      refine (strolls_perform f.prior c s).place_none ?_ (hheard.resolve_left nofun) hplace
      cases c with
      | act a => exact Action.move?_of_not_steps hown s.running
      | _ => exact nofun
  | @finish s s' _ _ f ending _ _ hsettle =>
      have hconclude := strolls_conclude f.name ending s
      cases hsettle
      exact hconclude.place_none nofun (hheard.resolve_left nofun) hplace
  | @act s fs a =>
      exact (strolls_act guides_emit a s).place_none (Action.move?_of_not_steps hown s.running)
        (hheard.resolve_left nofun) hplace
  | _ => exact hplace

theorem StillRun.place_none (h : StillRun m es m') (hplace : m.session.place = none) : m'.session.place = none := by
  induction h with
  | nil => exact hplace
  | cons hstill _ ih => exact ih (hstill.place_none hplace)

theorem Still.blank {s s' : Session} {fs fs' : List Flight}
    (h : Still ⟨s, fs⟩ (.submit line (some (.settled t))) ⟨s', fs'⟩) (hblank : Text.words line = []) :
    (s'.heard Action.givesUp = s.heard Action.givesUp → s'.walk = s.walk) ∧
      (s'.heard Action.givesUp ≠ s.heard Action.givesUp → s'.place = none) := by
  obtain ⟨hstep, -, hheard⟩ := h
  cases hstep with
  | answered ho =>
      rcases strolls_opening line s with ⟨-, hbusy⟩ | ⟨hidle, -, hstrolls⟩ | ⟨-, hw, -⟩
      · cases ho.symm.trans hbusy
      · rw [ho] at hstrolls
        obtain ⟨ms, hms, hwalk, hgiven⟩ := hstrolls.still (hheard.resolve_left nofun)
        rw [Option.toList_none, List.append_nil, Walk.after_of_resets hms] at hwalk
        refine ⟨fun hquiet => ?_, fun hloud => ?_⟩
        · rwa [if_pos ((hgiven hidle).2 hquiet)] at hwalk
        · rw [if_neg fun hnil => hloud ((hgiven hidle).1 hnil)] at hwalk
          exact congrArg Walk.place hwalk
      · exact absurd hblank hw

theorem Still.place_taken {answer : Option Submission} (h : Still m (.submit line answer) m')
    (hw : Text.words line ≠ []) (hanswer : answer ≠ some .busy) : m'.session.place = none := by
  obtain ⟨hstep, -, hheard⟩ := h
  cases hstep with
  | answered ho =>
      rcases opening_answered ho with ⟨-, hbusy, -⟩ | ⟨hidle, -⟩
      · exact absurd (congrArg some hbusy) hanswer
      · exact place_opening ho (hheard.resolve_left nofun) (.inr ⟨hidle, hw⟩)
  | begun ho => exact place_opening ho (hheard.resolve_left nofun) (.inr ⟨(opening_begun ho).1, hw⟩)

theorem ReturnsStill.place_none (h : ReturnsStill m line t m') (hw : Text.words line ≠ []) :
    m'.session.place = none := by
  cases h with
  | atOnce hstill => exact hstill.place_taken hw (by simp)
  | later hbegun hrun _ hend => exact hend.place_none (hrun.place_none (hbegun.place_taken hw nofun))

theorem Step.history_prefix (h : Step m e m') : m.session.history <+: m'.session.history := by
  obtain ⟨ms, hwalk⟩ := h.walk
  have hgrown := Walk.lines_prefix ms m.session.walk
  rwa [← hwalk] at hgrown

theorem Returns.history_prefix (h : Returns m line t m') : m.session.history <+: m'.session.history := by
  cases h with
  | atOnce hstep => exact hstep.history_prefix
  | later hbegun hrun _ hend =>
      have hrun' := hrun.keeps (P := fun n => m.session.history <+: n.session.history)
        (fun _ _ _ _ hstep hn => hn.trans hstep.history_prefix) hbegun.history_prefix
      exact hrun'.trans hend.history_prefix

theorem ReturnsStill.answered (h : ReturnsStill m line t m') (hw : Text.words line = []) :
    Still m (.submit line (some (.settled t))) m' := by
  cases h with
  | atOnce hstill => exact hstill
  | later hbegun _ _ _ =>
      cases hbegun.step with
      | begun ho => cases hw.symm.trans (words_of_begun ho)

/-- A line that is not blank restarts recalling, whatever becomes of it. A blank line restarts it only where a listener
gives up a half-typed line on hearing of it, and otherwise leaves the walk as it is. -/
theorem recall_restarts_iff (h : ReturnsStill m line t m') (hhistory : m.session.history ≠ []) :
    (m'.session.Restarts ↔ Text.words line ≠ [] ∨ m.session.Restarts ∨
      m'.session.heard Action.givesUp ≠ m.session.heard Action.givesUp) ∧
    (¬ m'.session.Restarts → m'.session.walk = m.session.walk) := by
  have hhistory' : m'.session.history ≠ [] := by
    intro hnil
    exact hhistory (List.prefix_nil.1 (hnil ▸ h.returns.history_prefix))
  rw [restarts_iff hhistory, restarts_iff hhistory']
  by_cases hw : Text.words line = []
  · obtain ⟨hquiet, hloud⟩ := (h.answered hw).blank hw
    by_cases hgiven : m'.session.heard Action.givesUp = m.session.heard Action.givesUp
    · have hwalk := hquiet hgiven
      have hplace : m'.session.place = m.session.place := congrArg Walk.place hwalk
      exact ⟨by simp [hw, hgiven, hplace], fun _ => hwalk⟩
    · have hplace := hloud hgiven
      exact ⟨by simp [hplace, hgiven], fun hnot => absurd hplace hnot⟩
  · have hplace := h.place_none hw
    exact ⟨iff_of_true hplace (.inl hw), fun hnot => absurd hplace hnot⟩

def recalling : Session := ((ofCommand lingering).submit "wait").2.older.2

theorem cancelled_restarts : ∃ t m', recalling.history ≠ [] ∧ ¬ recalling.Restarts ∧
    ReturnsStill ⟨recalling, []⟩ "wait" t m' ∧ t.cancelled = true ∧ m'.session.Restarts := by
  have hhistory : recalling.history ≠ [] := by decide +kernel
  have hplace : recalling.place = some 0 := by decide +kernel
  have hwords : Text.words "wait" = ["wait"] := by decide +kernel
  have hc : (recalling.typeIn "wait").registry.get? "wait" = some lingering := rfl
  have hopening : recalling.opening "wait" =
      (.begun ⟨"wait", [], ["wait"], lingering.handler []⟩, (recalling.opening "wait").2) := by
    rw [opening_of_command rfl hwords hc]
    rfl
  have hbegun : Still ⟨recalling, []⟩ (.submit "wait" none) _ := ⟨.begun hopening, rfl, .inr rfl⟩
  have hcancel : Still ⟨(recalling.opening "wait").2, [⟨"wait", [], ["wait"], lingering.handler []⟩]⟩ _ _ :=
    ⟨.act .cancel, rfl, .inr rfl⟩
  have hpause : Still _ (.call .pause) _ :=
    ⟨.call (s := ((recalling.opening "wait").2.act emit .cancel).2) [] []
      (f := ⟨"wait", [], ["wait"], lingering.handler []⟩) rfl, rfl, .inr rfl⟩
  have hrun := StillRun.cons hcancel (.cons hpause .nil)
  have hes : ∀ e ∈ [Event.act .cancel true, .call .pause], ¬ e.Ends := by
    intro e he
    simp only [List.mem_cons, List.not_mem_nil, or_false] at he
    rcases he with rfl | rfl
    all_goals exact nofun
  have hend := @Step.finish (((recalling.opening "wait").2.act emit .cancel).2.perform emit ["wait"] .pause).2 _ [] []
    ⟨"wait", [], ["wait"], .done none⟩ (.ok none) _ rfl rfl
  have hreturns : ReturnsStill ⟨recalling, []⟩ "wait" _ _ := .later hbegun hrun hes ⟨hend, rfl, .inr rfl⟩
  have hrestarts := (recall_restarts_iff hreturns hhistory).1.2 (.inl (by simp [hwords]))
  refine ⟨_, _, hhistory, ?_, hreturns, by decide +kernel, hrestarts⟩
  rw [restarts_iff hhistory, hplace]
  nofun

def recalled : Session := (after ["echo one"]).older.2

theorem blank_keeps_place : (Scene.mk recalled []).Reachable ∧ recalled.history ≠ [] ∧
    ∃ t m', ReturnsStill ⟨recalled, []⟩ "" t m' ∧ m'.session.newer.1 = some "" := by
  have hwaits : (after ["echo one"]).Waits {} :=
    Waits.submit (.start {} (Tree.Reachable.seeded 0).grown _ _) (by decide +kernel)
  obtain ⟨files, log, world, es, -, hrun⟩ := hwaits
  refine ⟨⟨{}, files, .builtin, log, world, _, hrun.append (.cons (.act .older) .nil)⟩, by decide +kernel, ?_⟩
  have hopening : recalled.opening "" = answer (recalled.typeIn "").finish :=
    opening_of_blank (by decide +kernel) (by decide +kernel)
  exact ⟨_, _, .atOnce ⟨.answered hopening, rfl, .inr rfl⟩, by decide +kernel⟩

end Scene

end Terminal
