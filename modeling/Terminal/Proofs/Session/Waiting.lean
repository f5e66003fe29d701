import Terminal.Proofs.Commands.Sparing
import Terminal.Proofs.Files.Independence
import Terminal.Proofs.Path.Settle

namespace Terminal

theorem Tree.Grown.perform {t : Tree} (h : t.Grown) (now : Int) (op : FileOp) : (op.perform now t).1.Grown := by
  rw [← FileOp.performBy_still]
  exact h.step (fun _ => now) op

namespace Session

structure Stands (config : Config) (s : Session) : Prop where
  config : s.config = config
  registry : s.registry = .builtin
  canonical : Path.Canonical s.cwd
  files : s.files.Grown

variable {config : Config} {s s' : Session}

theorem stands_start {files : Tree} (hfiles : files.Grown) (log : Log) (world : World) :
    (start config files .builtin log world).Stands config :=
  ⟨rfl, rfl, Path.canonical_normalize config.home, hfiles⟩

theorem stands_apply (c : Change) (h : s.Stands config) : (c.apply s).Stands config := by
  cases c with
  | move path => exact ⟨h.config, h.registry, Path.canonical_normalize _, h.files⟩
  | edit op => exact ⟨h.config, h.registry, h.canonical, h.files.perform s.world.wall op⟩
  | _ => exact ⟨h.config, h.registry, h.canonical, h.files⟩

theorem Amends.stands {P : Change → Prop} (h : Amends P s s') (hs : s.Stands config) : s'.Stands config :=
  h.relates (R := fun s s' => s.Stands config → s'.Stands config) (fun _ hs => hs) (fun h h' => h' ∘ h)
    (fun c _ _ => stands_apply c) hs

theorem stands_settle (name : String) (ending : Except Failure (Option Result)) (h : s.Stands config) :
    (s.settle name ending).2.Stands config := by
  have hconclude : (s.conclude emit name ending).Stands config := (amends_conclude announces_emit name ending s).stands h
  exact ⟨hconclude.config, hconclude.registry, hconclude.canonical, hconclude.files⟩

theorem stands_opening (line : String) (h : s.Stands config) : (s.opening line).2.Stands config := by
  refine opening_induction (P := Stands config) ?_ ?_ h line
  · exact fun t _ _ _ _ _ _ ht => ⟨ht.config, ht.registry, ht.canonical, ht.files⟩
  · exact fun r t _ ht => (amends_emit announces_emit r t).stands ht

theorem stands_fly (f : Flight) (h : s.Stands config) : (s.fly f).2.Stands config := by
  have hrun : (f.rest.run (perform emit f.prior) s).2.Stands config :=
    Script.run_keeps (P := Stands config)
      (fun c t ht => (amends_perform announces_emit f.prior c t).stands ht) f.rest h
  rw [fly_eq]
  split
  · exact stands_settle f.name _ hrun
  · exact hrun

theorem stands_submit (line : String) (h : s.Stands config) : (s.submit line).2.Stands config := by
  have hopening := stands_opening line h
  rw [submit_eq]
  rcases ho : s.opening line with ⟨o | f, s₁⟩
  · rw [ho] at hopening
    exact hopening
  · rw [ho] at hopening
    exact stands_fly f hopening

end Session

open Session

theorem Scene.Step.stands {config : Config} {m m' : Scene} {e : Event} (h : Step m e m')
    (hm : m.session.Stands config) : m'.session.Stands config := by
  cases h with
  | @answered s s' fs line o ho =>
      have hopening := stands_opening line hm
      rw [ho] at hopening
      exact hopening
  | @begun s s' fs line f ho =>
      have hopening := stands_opening line hm
      rw [ho] at hopening
      exact hopening
  | call before after hrest => exact (amends_perform announces_emit _ _ _).stands hm
  | @finish s s' before after f ending t hending hsettle =>
      have hsettled := stands_settle f.name ending hm
      rw [hsettle] at hsettled
      exact hsettled
  | act a => exact (amends_act announces_emit a _).stands hm
  | edit op => exact stands_apply (.edit op) hm
  | _ => exact ⟨hm.config, hm.registry, hm.canonical, hm.files⟩

namespace Scene

theorem Run.append {m m' m'' : Scene} {es es' : List Event} (h : Run m es m') (h' : Run m' es' m'') :
    Run m (es ++ es') m'' := by
  induction h with
  | nil => exact h'
  | cons hstep _ ih => exact .cons hstep (ih h')

theorem Reachable.run {m m' : Scene} {es : List Event} (h : m.Reachable) (hrun : Run m es m') : m'.Reachable := by
  obtain ⟨config, files, registry, log, world, before, hbefore⟩ := h
  exact ⟨config, files, registry, log, world, before ++ es, hbefore.append hrun⟩

theorem Reachable.idle {s : Session} (h : Reachable ⟨s, []⟩) : s.Idle := by
  rcases h.orderly with ⟨hidle, -⟩ | ⟨-, hone⟩
  · exact hidle
  · cases hone

theorem exists_run_submit (s : Session) (line : String) :
    ∃ es fs, Run ⟨s, []⟩ es ⟨(s.submit line).2, fs⟩ ∧ ((s.submit line).1 ≠ .endless → fs = []) := by
  rw [submit_eq]
  rcases ho : s.opening line with ⟨o | f, s₁⟩
  · exact ⟨_, [], .cons (.answered ho) .nil, fun _ => rfl⟩
  · obtain ⟨es, rest, -, hrest, hrun⟩ := run_calls f f.rest s₁
    dsimp only
    cases hending : (f.rest.run (perform emit f.prior) s₁).1.ending? with
    | none =>
        rw [fly_of_no_ending hending]
        exact ⟨_, _, .cons (.begun ho) hrun, fun h => absurd rfl h⟩
    | some ending =>
        rw [fly_of_ending hending]
        exact ⟨_, [], .cons (.begun ho) (hrun.append (.cons (.finish [] [] (hrest.trans hending) rfl) .nil)), fun _ => rfl⟩

end Scene

namespace Session

def Waits (config : Config) (s : Session) : Prop :=
  ∃ files log world es, files.Grown ∧ Scene.Run ⟨start config files .builtin log world, []⟩ es ⟨s, []⟩

namespace Waits

variable {config : Config} {s : Session}

theorem start (config : Config) {files : Tree} (hfiles : files.Grown) (log : Log) (world : World) :
    (Session.start config files .builtin log world).Waits config :=
  ⟨files, log, world, [], hfiles, .nil⟩

theorem stands (h : s.Waits config) : s.Stands config := by
  obtain ⟨files, log, world, es, hfiles, hrun⟩ := h
  exact hrun.keeps (P := fun m => m.session.Stands config) (fun n e n' _ hstep hn => hstep.stands hn)
    (stands_start hfiles log world)

theorem idle (h : s.Waits config) : s.Idle := by
  obtain ⟨files, log, world, es, -, hrun⟩ := h
  exact Scene.Reachable.idle ⟨config, files, .builtin, log, world, es, hrun⟩

theorem submit (h : s.Waits config) {line : String} (hline : (Text.words line).head? ≠ some "rm") :
    (s.submit line).2.Waits config := by
  have hends := (spares_submit h.idle h.stands.registry h.stands.files.ordered hline).1
  obtain ⟨files, log, world, es, hfiles, hrun⟩ := h
  obtain ⟨es', fs, hrun', hfs⟩ := Scene.exists_run_submit s line
  rw [hfs hends] at hrun'
  exact ⟨files, log, world, es ++ es', hfiles, hrun.append hrun'⟩

end Waits

end Session

end Terminal
