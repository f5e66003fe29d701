import Terminal.Proofs.Session.Audit
import Terminal.Proofs.Session.Entering
import Terminal.Proofs.Session.Failing
import Terminal.Proofs.Session.History
import Terminal.Proofs.Session.Printed

namespace Terminal

open Commands

namespace Script.Outcome

def said : Outcome (Option Result) → List String
  | done (some r) => r.lines.getD []
  | failed e => [e.line]
  | _ => []

def ofReport : Except Failure Result → Outcome (Option Result)
  | .ok r => done (some r)
  | .error e => failed e

inductive Modest : Outcome (Option Result) → Prop
  | done {r : Result} : r.Plain → Modest (.done (some r))
  | failed {e : Failure} : e ≠ .cancelled → Modest (.failed e)

end Script.Outcome

namespace Commands

theorem exists_builtin {name : String} {handler : Handler} (hknown : (Registry.builtin.get? name).isSome = true)
    (hsecond : ∀ e ∈ secondNames, e.1 ≠ name) (hfirst : ∀ b ∈ builtins, b.info.name = name → b.handler = handler) :
    ∃ c, Registry.builtin.get? name = some c ∧ c.handler = handler := by
  obtain ⟨c, hc⟩ := Option.isSome_iff_exists.1 hknown
  exact ⟨c, hc, handler_of_first_name hc hsecond hfirst⟩

end Commands

namespace Session

def Yields (s : Session) (script : Script (Option Result)) (out : List String) : Prop :=
  ∀ prior, script.run (perform emit prior) s = (.done (some (.ofLines out)), s)

structure Quiet (s : Session) : Prop where
  idle : s.running = false
  registry : s.registry = .builtin
  unstirred : s.Unstirred
  silent : ∀ hook ∈ s.watcher.hooks, ∀ text, hook.action ≠ .complete text

/-- With these arguments the command asks for the lines and changes nothing, and a line that says so prints them. -/
structure Answers (s : Session) (name : String) (args out : List String) : Prop where
  yields : ∃ c, Registry.builtin.get? name = some c ∧ s.Yields (c.handler args) out
  prints : s.Quiet → ∀ line, Text.words line = name :: args → ∃ t, (s.submit line).1 = .settled t ∧
    t.cancelled = false ∧ s.Prints (s.submit line).2 t out ∧ s.Stays (s.submit line).2

/-- With these arguments the command ends in this way, which may depend on the lines before, and of the session it changes
only the files. A line that says so prints what tells of the end, and leaves these files. -/
structure Ends (s : Session) (name : String) (args : List String)
    (outcome : List String → Script.Outcome (Option Result)) (files : Tree) : Prop where
  runs : ∃ c, Registry.builtin.get? name = some c ∧
    ∀ prior, (c.handler args).run (perform emit prior) s = (outcome prior, { s with files })
  prints : s.Quiet → ∀ line, Text.words line = name :: args → ∃ t, (s.submit line).1 = .settled t ∧
    t.cancelled = false ∧ s.Prints (s.submit line).2 t (outcome s.history).said ∧
    { s with files }.Stays (s.submit line).2

structure Launched (s s' : Session) : Prop where
  stays : s.Stays s'
  wall : s'.world.wall = s.world.wall
  busy : s'.Busy
  cancelled : s'.cancelled = false
  unstirred : s'.Unstirred
  accounts : s.Accounts s'
  printed : s'.printed = s.printed

variable {s s' : Session} {name : String} {args out out' : List String}

section Unique

variable {outcome outcome' : List String → Script.Outcome (Option Result)} {files files' : Tree}

theorem Answers.ends (h : s.Answers name args out) :
    s.Ends name args (fun _ => .done (some (.ofLines out))) s.files :=
  ⟨h.yields, h.prints⟩

theorem Ends.unique (h : s.Ends name args outcome files) (h' : s.Ends name args outcome' files') :
    outcome = outcome' ∧ files = files' := by
  obtain ⟨c, hget, hrun⟩ := h.runs
  obtain ⟨c', hget', hrun'⟩ := h'.runs
  cases hget.symm.trans hget'
  have hsame (prior : List String) := (hrun prior).symm.trans (hrun' prior)
  exact ⟨funext fun prior => congrArg Prod.fst (hsame prior), congrArg (fun ran => ran.2.files) (hsame [])⟩

theorem Answers.unique (h : s.Answers name args out) (h' : s.Answers name args out') : out = out' := by
  have hsame := congrFun (h.ends.unique h'.ends).1 []
  simpa [Result.ofLines] using hsame

end Unique

theorem run_report (look : View → Except Failure Result) (prior : List String) (s : Session) :
    (Commands.report look).run (perform emit prior) s = (.ofReport (look (s.view prior)), s) := by
  have hlook : (Commands.report look).run (perform emit prior) s =
      (match look (s.view prior) with
        | .ok r => .done (some r)
        | .error e => .fail e : Script (Option Result)).run (perform emit prior) s := rfl
  rw [hlook]
  cases look (s.view prior) <;> rfl

theorem yields_report {look : View → Except Failure Result} (h : ∀ prior, look (s.view prior) = lines out) :
    s.Yields (Commands.report look) out := by
  intro prior
  rw [run_report, h]
  rfl

theorem printed_printAll (h : s.running = true) (texts : List String) :
    (texts.foldl (fun s text => s.print emit text) s).printed = s.printed ++ texts := by
  induction texts generalizing s with
  | nil => simp
  | cons text texts ih =>
      have hrunning : (s.print emit text).running = true :=
        (evolves_emit announces_emit _ s).running_eq.trans h
      rw [List.foldl_cons, ih hrunning, (print_told h text).1, List.append_assoc]
      rfl

theorem Change.wall_apply (c : Change) (s : Session) : (c.apply s).world.wall = s.world.wall := by
  cases c <;> rfl

theorem wall_opening (line : String) (s : Session) : (s.opening line).2.world.wall = s.world.wall := by
  refine opening_induction (P := fun t => t.world.wall = s.world.wall) (fun _ _ _ _ _ _ _ h => h) ?_ rfl line
  intro r t _ h
  exact ((amends_emit announces_emit r t).keeps (f := fun t => t.world.wall) fun c _ => c.wall_apply).trans h

theorem Quiet.launched (h : s.Quiet) {c : Command} (hget : Registry.builtin.get? name = some c) {line : String}
    (hw : Text.words line = name :: args) :
    ∃ s', s.Launched s' ∧ s.submit line = s'.fly ⟨name, args, s.history, c.handler args⟩ := by
  have hknown : (s.typeIn line).registry.get? name = some c := by
    rw [(begins_typeIn line s).registry, h.registry, hget]
  have hopening := opening_of_command h.idle hw hknown
  rw [history_typeIn] at hopening
  obtain ⟨-, s₁, hbegins, -, hlaunch⟩ := opening_begun hopening
  have hlaunched : s.Launched (s.opening line).2 := by
    refine ⟨h.unstirred.opening line, wall_opening line s, ?_, ?_, h.unstirred.congr (opening_keeps line s).2, ?_, ?_⟩
    all_goals rw [hopening]
    · rw [hlaunch]
      exact hbegins.busy_launch
    · rfl
    · rw [hlaunch]
      exact hbegins.accounts
    · exact printed_typeIn h.silent line
  refine ⟨_, hlaunched, ?_⟩
  rw [submit_eq, hopening]

theorem settle_modest (hbusy : s.Busy) (hc : s.cancelled = false) (hstill : s.Unstirred) (name : String)
    {outcome : Script.Outcome (Option Result)} (h : outcome.Modest) :
    ∃ ending t s', outcome.ending? = some ending ∧ s.settle name ending = (.settled t, s') ∧ t.cancelled = false ∧
      s'.printed = s.printed ++ outcome.said ∧ s.Stays s' := by
  cases h with
  | @done r hplain =>
      refine ⟨_, _, _, rfl, rfl, ?_, ?_, ?_⟩
      · exact cancelled_of_no_verdict (by rw [hc]; rfl) hbusy rfl
      · have hconclude : s.conclude emit name (.ok (some r)) =
            (r.lines.getD []).foldl (fun s text => s.print emit text) s := by
          simp [conclude_of_not_cancelled hc, apply, hplain.1, hplain.2]
        have hprinted := printed_printAll hbusy.running (r.lines.getD [])
        rw [← hconclude] at hprinted
        exact hprinted
      · refine (touches_settle name (.ok (some r)) s).stays ?_
        rintro p hp (⟨r', hr, haffects⟩ | hstirred)
        · cases hr
          exact hplain.not_affects p haffects
        · exact hstill p hp hstirred
  | @failed e he =>
      obtain ⟨v, hv, hmarks, hline⟩ := verdict_of_failure he name
      rw [← hc] at hv
      have hcloses := closes_of_settle hbusy hv rfl
      refine ⟨_, _, _, rfl, rfl, hcloses.marked.trans hmarks, ?_, hstill.settle_error name e⟩
      rw [hcloses.printed, hline]
      rfl

theorem ends_of_runs {handler : Handler} {outcome : List String → Script.Outcome (Option Result)} {files : Tree}
    (hbuiltin : ∃ c, Registry.builtin.get? name = some c ∧ c.handler = handler)
    (hmodest : ∀ prior, (outcome prior).Modest)
    (hruns : ∀ s', s.Stays s' → s'.world.wall = s.world.wall → ∀ prior,
      (handler args).run (perform emit prior) s' = (outcome prior, { s' with files })) :
    s.Ends name args outcome files := by
  obtain ⟨c, hget, rfl⟩ := hbuiltin
  refine ⟨⟨c, hget, hruns s .refl rfl⟩, fun hquiet line hw => ?_⟩
  obtain ⟨s₁, h, hsubmit⟩ := hquiet.launched hget hw
  have hrun := hruns s₁ h.stays h.wall s.history
  obtain ⟨ending, t, s', hending, hsettle, hmarked, hprinted, hstays⟩ :=
    settle_modest (s := { s₁ with files }) ⟨h.busy.phase, h.busy.token, h.busy.turn⟩ h.cancelled h.unstirred name
      (hmodest s.history)
  have hfly : s₁.fly ⟨name, args, s.history, c.handler args⟩ = (.settled t, s') := by
    rw [fly_of_ending ((congrArg (fun ran => ran.1.ending?) hrun).trans hending), hrun]
    exact hsettle
  have hout : s'.printed = s.printed ++ (outcome s.history).said := by
    rw [hprinted, ← h.printed]
    rfl
  have haccounts : s.Accounts { s₁ with files } := h.accounts
  have hplace : { s with files }.Stays { s₁ with files } := ⟨rfl, h.stays.cwd, h.stays.env⟩
  rw [hsubmit, hfly]
  exact ⟨t, rfl, hmarked, prints_settle haccounts hsettle hout, hplace.trans hstays⟩

theorem answers_of_yields {handler : Handler}
    (hbuiltin : ∃ c, Registry.builtin.get? name = some c ∧ c.handler = handler)
    (hyields : ∀ s', s.Stays s' → s'.Yields (handler args) out) : s.Answers name args out := by
  have hends : s.Ends name args (fun _ => .done (some (.ofLines out))) s.files := by
    refine ends_of_runs hbuiltin (fun _ => .done ⟨rfl, rfl⟩) fun s' hstays _ prior => ?_
    rw [hyields s' hstays prior, ← hstays.files]
  exact ⟨hends.runs, hends.prints⟩

theorem quiet_after_nil : (after []).Quiet := ⟨rfl, rfl, fun p _ => not_stirred rfl p, nofun⟩

end Session

end Terminal
