import Terminal.Proofs.Session.Audit
import Terminal.Proofs.Session.Entering

namespace Terminal

def Call.immediate : Call → Bool
  | probe _ | pause | act _ => false
  | _ => true

def Call.tell (lines : List Record) : Call → List Record
  | print text => lines ++ [.output text]
  | clear => []
  | _ => lines

def Turn.hear (t : Turn) : Call → Turn
  | .print text => { t with records := t.records ++ [.output text] }
  | .clear => { t with records := [], cleared := true }
  | _ => t

structure Desk where
  cwd : String
  env : Environment
  files : Tree

namespace Desk

def moveTo (path : String) (d : Desk) : Desk :=
  let cwd := Path.normalize (Path.resolve d.cwd path)
  { d with cwd, env := d.env.put "PWD" cwd }

def after (now : Int) (d : Desk) : Call → Desk
  | .moveTo path => d.moveTo path
  | .setVariable key value => { d with env := d.env.put key value }
  | .change op => { d with files := ((op.mapPaths (Path.resolve d.cwd)).perform now d.files).1 }
  | _ => d

end Desk

def Result.calls (r : Result) : List Call :=
  (if r.clear then [.clear] else []) ++ (r.lines.getD []).map Call.print ++ r.cwd.toList.map Call.moveTo

def Script.calls {α σ : Type} (perform : (c : Call) → σ → c.Reply × σ) : Script α → σ → List Call
  | .call c next, s => c :: (next (perform c s).1).calls perform (perform c s).2
  | _, _ => []

section Fold

variable (calls : List Call)

theorem records_hear (t : Turn) : (calls.foldl Turn.hear t).records = calls.foldl Call.tell t.records := by
  induction calls generalizing t with
  | nil => rfl
  | cons c calls ih =>
      rw [List.foldl_cons, List.foldl_cons, ih]
      cases c <;> rfl

theorem cleared_hear (t : Turn) :
    (calls.foldl Turn.hear t).cleared = true ↔ t.cleared = true ∨ Call.clear ∈ calls := by
  induction calls generalizing t with
  | nil => simp
  | cons c calls ih =>
      rw [List.foldl_cons, ih, List.mem_cons]
      cases c with
      | clear => simp [Turn.hear]
      | _ => simp [Turn.hear]

theorem cancelled_hear (t : Turn) : (calls.foldl Turn.hear t).cancelled = t.cancelled := by
  induction calls generalizing t with
  | nil => rfl
  | cons c calls ih =>
      rw [List.foldl_cons, ih]
      cases c <;> rfl

end Fold

namespace Result

variable (r : Result)

theorem foldl_print {σ : Type} (f : σ → Call → σ) (h : ∀ a text, f a (.print text) = a) (lines : List String) (a : σ) :
    (lines.map Call.print).foldl f a = a := by
  induction lines generalizing a with
  | nil => rfl
  | cons line lines ih => rw [List.map_cons, List.foldl_cons, h, ih]

theorem tell_print (lines : List String) (rs : List Record) :
    (lines.map Call.print).foldl Call.tell rs = rs ++ lines.map Record.output := by
  induction lines generalizing rs with
  | nil => simp
  | cons line lines ih => simp [Call.tell, ih]

theorem tell_calls (rs : List Record) :
    r.calls.foldl Call.tell rs = (if r.clear then [] else rs) ++ (r.lines.getD []).map Record.output := by
  rw [calls, List.foldl_append, List.foldl_append, tell_print]
  have hmove (path : Option String) (rs : List Record) : (path.toList.map Call.moveTo).foldl Call.tell rs = rs := by
    cases path <;> rfl
  rw [hmove]
  cases r.clear <;> rfl

theorem after_calls (now : Int) (d : Desk) : r.calls.foldl (Desk.after now) d = r.cwd.elim d d.moveTo := by
  rw [calls, List.foldl_append, List.foldl_append, foldl_print _ fun _ _ => rfl]
  cases r.clear <;> cases r.cwd <;> rfl

theorem clear_mem_calls : Call.clear ∈ r.calls ↔ r.clear = true := by
  rw [calls]
  cases r.clear <;> simp

theorem immediate_calls : ∀ c ∈ r.calls, c.immediate = true := by
  intro c hc
  rw [calls, List.mem_append, List.mem_append] at hc
  rcases hc with (hc | hc) | hc
  · split at hc
    · rw [List.mem_singleton.1 hc]
      rfl
    · cases hc
  · obtain ⟨text, -, rfl⟩ := List.mem_map.1 hc
    rfl
  · obtain ⟨path, -, rfl⟩ := List.mem_map.1 hc
    rfl

end Result

/-- The command with a handler that is suspended before its first call. -/
def Command.suspended (c : Command) : Command := { c with handler := fun args => .call .pause fun _ => c.handler args }

namespace Registry

def suspend (name : String) (r : Registry) : Registry :=
  { r with commands := r.commands.map fun e => (e.1, if e.1 = name then e.2.suspended else e.2) }

theorem infos_suspend (name : String) (r : Registry) : (r.suspend name).infos = r.infos := by
  rw [infos, infos, suspend, List.map_map]
  refine List.map_congr_left fun e _ => ?_
  rw [Function.comp]
  dsimp only
  split
  · rfl
  · rfl

theorem get?_suspend (name : String) (r : Registry) :
    (r.suspend name).get? name = (r.get? name).map Command.suspended := by
  rw [get?, get?, suspend]
  induction r.commands with
  | nil => rfl
  | cons e commands ih =>
      obtain ⟨key, c⟩ := e
      by_cases h : key = name
      · simp [Table.get?, h]
      · simpa [Table.get?, h] using ih

end Registry

namespace Session

def desk (s : Session) : Desk := ⟨s.cwd, s.env, s.files⟩

def performAll (prior : List String) (calls : List Call) (s : Session) : Session :=
  calls.foldl (fun s c => (s.perform emit prior c).2) s

structure Composes (calls : List Call) (s s' : Session) : Prop where
  hooks : s'.watcher.hooks = s.watcher.hooks
  token : s'.token = s.token
  registry : s'.registry = s.registry
  wall : s'.world.wall = s.world.wall
  turn : s'.turn = s.turn.map fun t => calls.foldl Turn.hear t
  scrollback : s'.scrollback = calls.foldl Call.tell s.scrollback
  desk : s'.desk = calls.foldl (Desk.after s.world.wall) s.desk

theorem run_eq_performAll {α : Type} (prior : List String) (script : Script α) (s : Session) :
    (script.run (perform emit prior) s).2 = s.performAll prior (script.calls (perform emit prior) s) := by
  induction script generalizing s with
  | call c next ih => exact ih _ _
  | _ => rfl

section Calls

variable {s s' s'' : Session} {calls calls' : List Call}

theorem Composes.refl (s : Session) : Composes [] s s := ⟨rfl, rfl, rfl, rfl, by simp, rfl, rfl⟩

theorem Composes.trans (h : Composes calls s s') (h' : Composes calls' s' s'') : Composes (calls ++ calls') s s'' where
  hooks := h'.hooks.trans h.hooks
  token := h'.token.trans h.token
  registry := h'.registry.trans h.registry
  wall := h'.wall.trans h.wall
  turn := by
    rw [h'.turn, h.turn, Option.map_map]
    simp [Function.comp_def]
  scrollback := by rw [h'.scrollback, h.scrollback, List.foldl_append]
  desk := by rw [h'.desk, h.desk, h.wall, List.foldl_append]

theorem Composes.cancelled (h : Composes calls s s') : s'.cancelled = s.cancelled := by
  rw [Session.cancelled, Session.cancelled, h.token]

variable (hhooks : s.watcher.hooks = []) (hc : s.cancelled = false) (prior : List String)

include hhooks

theorem print_of_no_hooks (text : String) : s.print emit text = s.push (.output text) := emit_of_no_hooks hhooks _

include hc

theorem perform_print (text : String) : s.perform emit prior (.print text) = ((), s.push (.output text)) := by
  rw [perform, if_neg (by simp [hc]), print_of_no_hooks hhooks]

theorem composes_perform {c : Call} (h : c.immediate = true) : Composes [c] s (s.perform emit prior c).2 := by
  cases c with
  | print text =>
      rw [perform_print hhooks hc]
      exact ⟨rfl, rfl, rfl, rfl, rfl, rfl, rfl⟩
  | clear => exact ⟨rfl, rfl, rfl, rfl, rfl, rfl, rfl⟩
  | probe url => cases h
  | pause => cases h
  | act a => cases h
  | _ => exact ⟨rfl, rfl, rfl, rfl, by simp [Turn.hear, perform, edit, moveTo, setVariable, openLink], rfl, rfl⟩

theorem composes_performAll (h : ∀ c ∈ calls, c.immediate = true) : Composes calls s (s.performAll prior calls) := by
  induction calls generalizing s with
  | nil => exact .refl s
  | cons c calls ih =>
      have hstep := composes_perform hhooks hc prior (h c (List.mem_cons_self ..))
      have hrest := ih (hstep.hooks.trans hhooks) (hstep.cancelled.trans hc) fun d hd => h d (List.mem_cons_of_mem _ hd)
      exact hstep.trans hrest

theorem performAll_print (lines : List String) :
    s.performAll prior (lines.map Call.print) = lines.foldl (fun s line => s.print emit line) s := by
  induction lines generalizing s with
  | nil => rfl
  | cons line lines ih =>
      have hprint : (s.perform emit prior (.print line)).2 = s.print emit line := by
        rw [perform_print hhooks hc, print_of_no_hooks hhooks]
      have hhooks' : (s.print emit line).watcher.hooks = [] := by
        rw [print_of_no_hooks hhooks]
        exact hhooks
      have hc' : (s.print emit line).cancelled = false := by
        rw [print_of_no_hooks hhooks]
        exact hc
      rw [List.map_cons, performAll, List.foldl_cons, hprint]
      exact ih hhooks' hc'

theorem apply_eq_performAll (r : Result) : s.apply emit r = s.performAll prior r.calls := by
  have happend (a b : List Call) (s : Session) :
      s.performAll prior (a ++ b) = (s.performAll prior a).performAll prior b := List.foldl_append
  have hclear : (if r.clear then s.clear else s) = s.performAll prior (if r.clear then [.clear] else []) := by
    cases r.clear <;> rfl
  have hhooks' : (if r.clear then s.clear else s).watcher.hooks = [] := by
    split
    · exact hhooks
    · exact hhooks
  have hc' : (if r.clear then s.clear else s).cancelled = false := by
    split
    · exact hc
    · exact hc
  rw [apply, Result.calls, happend, happend, ← hclear, performAll_print hhooks' hc']
  cases r.cwd <;> rfl

end Calls

def recast (registry : Registry) (pauses : List Bool) (s : Session) : Session :=
  { s with registry, world := { s.world with pauses } }

section Recast

variable {s : Session} {registry : Registry} (pauses : List Bool) (hhooks : s.watcher.hooks = [])
  (hc : s.cancelled = false) (hinfos : registry.infos = s.registry.infos)

include hhooks hc hinfos

theorem perform_recast (prior : List String) {c : Call} (h : c.immediate = true) :
    (s.recast registry pauses).perform emit prior c =
      ((s.perform emit prior c).1, (s.perform emit prior c).2.recast registry pauses) := by
  cases c with
  | look =>
      have hview : (s.recast registry pauses).view prior = s.view prior := by
        rw [view, view]
        exact congrArg (fun commands => { s.view prior with commands }) hinfos
      exact congrArg (·, s.recast registry pauses) hview
  | print text =>
      have hc' : (s.recast registry pauses).cancelled = false := hc
      rw [perform_print hhooks hc, perform_print (s := s.recast registry pauses) hhooks hc']
      rfl
  | probe url => cases h
  | pause => cases h
  | act a => cases h
  | _ => rfl

theorem run_recast {α : Type} (prior : List String) {script : Script α}
    (h : ∀ c ∈ script.calls (perform emit prior) s, c.immediate = true) :
    script.run (perform emit prior) (s.recast registry pauses) =
      ((script.run (perform emit prior) s).1, (script.run (perform emit prior) s).2.recast registry pauses) := by
  induction script generalizing s with
  | call c next ih =>
      have hcall : c.immediate = true := h c (List.mem_cons_self ..)
      have hstep := composes_perform hhooks hc prior hcall
      rw [Script.run, perform_recast pauses hhooks hc hinfos prior hcall]
      exact ih _ (hstep.hooks.trans hhooks) (hstep.cancelled.trans hc) (hinfos.trans (congrArg _ hstep.registry.symm))
        fun d hd => h d (List.mem_cons_of_mem _ hd)
  | _ => rfl

theorem performAll_recast (prior : List String) {calls : List Call} (h : ∀ c ∈ calls, c.immediate = true) :
    (s.recast registry pauses).performAll prior calls = (s.performAll prior calls).recast registry pauses := by
  induction calls generalizing s with
  | nil => rfl
  | cons c calls ih =>
      have hcall : c.immediate = true := h c (List.mem_cons_self ..)
      have hstep := composes_perform hhooks hc prior hcall
      rw [performAll, List.foldl_cons, perform_recast pauses hhooks hc hinfos prior hcall]
      exact ih (hstep.hooks.trans hhooks) (hstep.cancelled.trans hc) (hinfos.trans (congrArg _ hstep.registry.symm))
        fun d hd => h d (List.mem_cons_of_mem _ hd)

theorem apply_recast (r : Result) :
    (s.recast registry pauses).apply emit r = (s.apply emit r).recast registry pauses := by
  have hhooks' : (s.recast registry pauses).watcher.hooks = [] := hhooks
  have hc' : (s.recast registry pauses).cancelled = false := hc
  rw [apply_eq_performAll hhooks' hc' [], apply_eq_performAll hhooks hc [],
    performAll_recast pauses hhooks hc hinfos [] r.immediate_calls]

end Recast

def begun (line : String) (s : Session) : Session :=
  (((push (s.typed line) { s with turn := some {} }).remember line).report .debug ("run " ++ Text.trim line)).launch

def lineCalls (line : String) (s : Session) : List Call :=
  match s.opening line with
  | (.begun f, s) => f.rest.calls (perform emit f.prior) s
  | (.answered _, _) => []

section Line

variable {s : Session} {line name : String} {args : List String} {c : Command}

theorem conclude_ok (hc : s.cancelled = false) (name : String) (result : Option Result) :
    s.conclude emit name (.ok result) = s.apply emit (result.getD {}) := by
  cases result with
  | none =>
      rw [conclude, if_neg (by simp [hc])]
      rfl
  | some r => exact conclude_of_not_cancelled hc

theorem typeIn_of_no_hooks (hhooks : s.watcher.hooks = []) (text : String) :
    s.typeIn text = push (s.typed text) { s with turn := some {} } :=
  emit_of_no_hooks (s := { s with turn := some {} }) hhooks _

theorem opening_of_no_hooks (hhooks : s.watcher.hooks = []) (hidle : s.running = false)
    (hwords : Text.words line = name :: args) (hget : s.registry.get? name = some c) :
    s.opening line = (.begun ⟨name, args, s.history, c.handler args⟩, s.begun line) := by
  have htyped := typeIn_of_no_hooks hhooks line
  have hopening := opening_of_command hidle hwords (c := c) (by rw [htyped]; exact hget)
  rw [hopening, htyped]
  rfl

theorem exists_command_of_ending {ending : Except Failure (Option Result)} (h : s.lineEnding? line = some ending) :
    s.running = false ∧ ∃ name args c, Text.words line = name :: args ∧ s.registry.get? name = some c := by
  rw [lineEnding?] at h
  cases hidle : s.running with
  | true =>
      rw [opening_of_running hidle] at h
      cases h
  | false =>
      refine ⟨rfl, ?_⟩
      cases hwords : Text.words line with
      | nil =>
          rw [opening_of_blank hidle hwords] at h
          cases h
      | cons name args =>
          cases hget : (s.typeIn line).registry.get? name with
          | none =>
              rw [opening_of_unknown hidle hwords hget] at h
              cases h
          | some c => exact ⟨name, args, c, rfl, (begins_typeIn line s).registry ▸ hget⟩

theorem fly_recast {registry : Registry} (pauses : List Bool) {f : Flight} {result : Option Result}
    (hhooks : s.watcher.hooks = []) (hc : s.cancelled = false) (hinfos : registry.infos = s.registry.infos)
    (hending : f.ending? s = some (.ok result))
    (himmediate : ∀ d ∈ f.rest.calls (perform emit f.prior) s, d.immediate = true) :
    (s.recast registry pauses).fly f = ((s.fly f).1, (s.fly f).2.recast registry pauses) := by
  have hrun := run_recast pauses hhooks hc hinfos f.prior himmediate
  have hends : (f.rest.run (perform emit f.prior) (s.recast registry pauses)).1.ending? = some (.ok result) := by
    rw [hrun]
    exact hending
  have hlast := congrArg Prod.snd hrun
  have hcomposes := composes_performAll hhooks hc f.prior himmediate
  rw [← run_eq_performAll] at hcomposes
  have hc' := hcomposes.cancelled.trans hc
  rw [fly_of_ending hends, fly_of_ending hending, settle, settle, hlast, conclude_ok hc',
    conclude_ok (s := recast registry pauses _) hc', apply_recast pauses (hcomposes.hooks.trans hhooks) hc'
      (hinfos.trans (congrArg _ hcomposes.registry.symm))]
  rfl

variable {result : Option Result} (hhooks : s.watcher.hooks = []) (hidle : s.running = false)
  (hwords : Text.words line = name :: args) (hget : s.registry.get? name = some c)

include hhooks hidle hwords hget

theorem lineCalls_eq :
    s.lineCalls line = (c.handler args).calls (perform emit s.history) (s.begun line) := by
  rw [lineCalls, opening_of_no_hooks hhooks hidle hwords hget]

theorem submit_of_ending (hending : s.lineEnding? line = some (.ok result))
    (himmediate : ∀ d ∈ s.lineCalls line, d.immediate = true) :
    s.submit line =
      (((s.begun line).performAll s.history (s.lineCalls line)).apply emit (result.getD {})).land.finish := by
  have hopening := opening_of_no_hooks hhooks hidle hwords hget
  have hcalls := lineCalls_eq hhooks hidle hwords hget
  rw [lineEnding?, hopening] at hending
  have hrun := run_eq_performAll s.history (c.handler args) (s.begun line)
  have hcomposes := composes_performAll (s := s.begun line) hhooks rfl s.history himmediate
  rw [submit_eq, hopening]
  dsimp only
  rw [fly_of_ending hending, settle, hrun, ← hcalls, conclude_ok (hcomposes.cancelled.trans rfl)]

end Line

/-- A turn made of the calls of a command and then of its result. -/
structure Composed (line : String) (calls : List Call) (r : Result) (s : Session) (t : Turn) (s' : Session) : Prop where
  records : t.records =
    (if r.clear then [] else calls.foldl Call.tell [s.typed line]) ++ (r.lines.getD []).map Record.output
  cleared : t.cleared = true ↔ Call.clear ∈ calls ∨ r.clear = true
  cancelled : t.cancelled = false
  scrollback : s'.scrollback =
    (if r.clear then [] else calls.foldl Call.tell (s.scrollback ++ [s.typed line])) ++
      (r.lines.getD []).map Record.output
  desk : s'.desk = r.cwd.elim (calls.foldl (Desk.after s.world.wall) s.desk)
    (calls.foldl (Desk.after s.world.wall) s.desk).moveTo

section Turn

variable {s : Session} {line name : String} {args : List String} {c : Command} {result : Option Result}
  (hhooks : s.watcher.hooks = []) (hidle : s.running = false) (hwords : Text.words line = name :: args)
  (hget : s.registry.get? name = some c) (hending : s.lineEnding? line = some (.ok result))
  (himmediate : ∀ d ∈ s.lineCalls line, d.immediate = true)

include hhooks hidle hwords hget hending himmediate

theorem composed_submit : ∃ t, (s.submit line).1 = .settled t ∧
    Composed line (s.lineCalls line) (result.getD {}) s t (s.submit line).2 := by
  have hcalls := composes_performAll (s := s.begun line) hhooks rfl s.history himmediate
  have hhooks' := hcalls.hooks.trans hhooks
  have hc' := hcalls.cancelled.trans rfl
  have happly := apply_eq_performAll hhooks' hc' s.history (result.getD {})
  have hresult := composes_performAll hhooks' hc' s.history (result.getD {}).immediate_calls
  rw [← happly] at hresult
  have hall := hcalls.trans hresult
  rw [submit_of_ending hhooks hidle hwords hget hending himmediate]
  generalize ((s.begun line).performAll s.history (s.lineCalls line)).apply emit (result.getD {}) = last at hall
  have hturn : last.turn.getD {} =
      (s.lineCalls line ++ (result.getD {}).calls).foldl Turn.hear ⟨[s.typed line], false, false⟩ :=
    congrArg (Option.getD · {}) hall.turn
  refine ⟨last.turn.getD {}, rfl, ?_, ?_, ?_, ?_, ?_⟩
  · rw [hturn, records_hear, List.foldl_append, Result.tell_calls]
  · rw [hturn, cleared_hear, List.mem_append, Result.clear_mem_calls]
    simp
  · rw [hturn, cancelled_hear]
  · have hscrollback := hall.scrollback
    rw [List.foldl_append, Result.tell_calls] at hscrollback
    exact hscrollback
  · have hdesk := hall.desk
    rw [List.foldl_append, Result.after_calls] at hdesk
    exact hdesk

theorem submit_suspended (hpause : s.world.pauses.headD false = false) :
    (s.recast (s.registry.suspend name) s.world.pauses).submit line =
      ((s.submit line).1, (s.submit line).2.recast (s.registry.suspend name) s.world.pauses.tail) := by
  have hget' : (s.registry.suspend name).get? name = some c.suspended := by
    rw [Registry.get?_suspend, hget]
    rfl
  have hplain := opening_of_no_hooks hhooks hidle hwords hget
  have hopening : (s.recast (s.registry.suspend name) s.world.pauses).opening line =
      (.begun ⟨name, args, s.history, c.suspended.handler args⟩,
        (s.begun line).recast (s.registry.suspend name) s.world.pauses) :=
    opening_of_no_hooks (s := s.recast (s.registry.suspend name) s.world.pauses) hhooks hidle hwords hget'
  -- the handler goes on where it would have begun without the pause
  have hpaused : (((s.begun line).recast (s.registry.suspend name) s.world.pauses).perform emit s.history .pause).2 =
      (s.begun line).recast (s.registry.suspend name) s.world.pauses.tail := by
    have hgoes : ((s.begun line).recast (s.registry.suspend name) s.world.pauses).cancelled = false := rfl
    have hcut : ((s.begun line).recast (s.registry.suspend name) s.world.pauses).world.pauses.headD false = false :=
      hpause
    simp only [perform, pause, hgoes, hcut, Bool.false_eq_true, if_false]
    rfl
  rw [lineCalls_eq hhooks hidle hwords hget] at himmediate
  rw [lineEnding?, hplain] at hending
  rw [submit_eq, submit_eq, hopening, hplain]
  dsimp only
  rw [fly_call rfl, hpaused]
  exact fly_recast _ (s := s.begun line) hhooks rfl (s.registry.infos_suspend name) hending himmediate

end Turn

/-- A turn in which nobody listens and the command returns is made of the calls and then of the result, in one order. A
command that is suspended once before its first call makes the same turn and leaves the same session. -/
theorem turn_composed {s : Session} {line : String} {result : Option Result} (hhooks : s.watcher.hooks = [])
    (hending : s.lineEnding? line = some (.ok result))
    (himmediate : ∀ c ∈ s.lineCalls line, c.immediate = true) :
    (∃ t, (s.submit line).1 = .settled t ∧
      Composed line (s.lineCalls line) (result.getD {}) s t (s.submit line).2) ∧
    ∀ name args, Text.words line = name :: args → s.world.pauses.headD false = false →
      (s.recast (s.registry.suspend name) s.world.pauses).submit line =
        ((s.submit line).1, (s.submit line).2.recast (s.registry.suspend name) s.world.pauses.tail) := by
  obtain ⟨hidle, name, args, c, hwords, hget⟩ := exists_command_of_ending hending
  refine ⟨composed_submit hhooks hidle hwords hget hending himmediate, fun other rest hother hpause => ?_⟩
  cases hwords.symm.trans hother
  exact submit_suspended hhooks hidle hwords hget hending himmediate hpause

def shifting : Command where
  info := { name := "shift", description := "" }
  handler _ := do
    Script.print "before"
    Script.ask .clear
    Script.print "after"
    Script.ask (.moveTo "/projects")
    Script.ask (.setVariable "PWD" "elsewhere")
    let _ ← Script.change (.mkdir "deep")
    return some { lines := some ["done"], cwd := some "deep" }

theorem shifting_composed : ∃ t, ((ofCommand shifting).submit "shift").1 = .settled t ∧
    t.records = [.output "after", .output "done"] ∧ t.cleared = true ∧
    ((ofCommand shifting).submit "shift").2.cwd = "/projects/deep" ∧
    (((ofCommand shifting).recast ((ofCommand shifting).registry.suspend "shift") []).submit "shift").1 =
      .settled t := by
  have hending : (ofCommand shifting).lineEnding? "shift" =
      some (.ok (some { lines := some ["done"], cwd := some "deep" })) := by rfl
  have himmediate : ∀ c ∈ (ofCommand shifting).lineCalls "shift", c.immediate = true := by decide +kernel
  obtain ⟨⟨t, ht, hcomposed⟩, hsuspended⟩ := turn_composed rfl hending himmediate
  have hcwd := congrArg Desk.cwd hcomposed.desk
  have hagain := hsuspended "shift" [] (by decide) rfl
  refine ⟨t, ht, hcomposed.records.trans (by rfl), hcomposed.cleared.2 (.inl ?_), hcwd.trans (by decide +kernel), ?_⟩
  · exact List.mem_cons_of_mem _ (List.mem_cons_self ..)
  · exact (congrArg Prod.fst hagain).trans ht

end Session

end Terminal
