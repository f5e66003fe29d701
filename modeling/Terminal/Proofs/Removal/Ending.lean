import Terminal.Proofs.Removal.Walk
import Terminal.Proofs.Session.Files

namespace Terminal.Commands

section Run

variable {σ : Type} {perform : (c : Call) → σ → c.Reply × σ}

theorem run_changing_ne_endless {label : String} {op : FileOp} {next : Script (Option Result)}
    (h : ∀ s, (next.run perform s).1 ≠ .endless) (s : σ) :
    ((changing label op next).run perform s).1 ≠ .endless := by
  rw [changing, Script.run]
  dsimp only
  cases (perform (.change op) s).1 with
  | ok done => exact h _
  | error e => exact fun he => by cases he

theorem run_removeAll_ne_endless (label : String) (paths : List String) (s : σ) :
    ((removeAll label paths).run perform s).1 ≠ .endless := by
  induction paths generalizing s with
  | nil => exact fun he => by cases he
  | cons path paths ih => exact run_changing_ne_endless ih _

end Run

theorem calm_of_not_isDir {v : View} {path : String} (h : ¬ v.isDir path = true) : Calm v path := by
  intro name hname
  rw [list_eq_nil h] at hname
  exact absurd hname List.not_mem_nil

theorem exists?_of_isDir {v : View} {path : String} (h : v.isDir path = true) : v.exists? path = true :=
  Tree.exists?_of_isDir h

variable (emit : Session.Emit) (prior : List String) {s : Session}

theorem run_rm_directory {args rest : List String} {typed : String}
    (hargs : Arguments.positional args = typed :: rest) (hr : args.contains "-r" = true)
    (hdir : (s.view prior).isDir (Path.resolve s.cwd typed) = true) :
    (rm args).run (Session.perform emit prior) s =
      (match victims (s.view prior) (Path.resolve s.cwd typed) with
        | some paths => removeAll ("rm: " ++ typed) paths
        | none => .endless).run (Session.perform emit prior) s := by
  have hview : (s.view prior).resolve typed = Path.resolve s.cwd typed := rfl
  rw [rm, hargs, Script.run]
  dsimp only [Session.perform]
  rw [hview, exists?_of_isDir hdir, hdir, hr]
  cases victims (s.view prior) (Path.resolve s.cwd typed) with
  | none => rfl
  | some paths => rfl

theorem run_rm_other {args rest : List String} {typed : String}
    (hargs : Arguments.positional args = typed :: rest)
    (h : ¬ (args.contains "-r" = true ∧ (s.view prior).isDir (Path.resolve s.cwd typed) = true)) :
    ((rm args).run (Session.perform emit prior) s).1 ≠ .endless := by
  have h' : ¬ (args.contains "-r" = true ∧ (s.view prior).isDir ((s.view prior).resolve typed) = true) := h
  rw [rm, hargs, Script.run]
  dsimp only [Session.perform]
  split
  · exact fun he => by cases he
  · split
    · exact run_changing_ne_endless (fun s he => by cases he) _
    · split
      · exact fun he => by cases he
      · rename_i hdir hr
        simp only [Bool.not_eq_true', Bool.not_eq_false] at hdir hr
        exact absurd ⟨hr, hdir⟩ h'

theorem run_rm_endless_iff (h : s.files.Reachable) (args : List String) :
    ((rm args).run (Session.perform emit prior) s).1 = .endless ↔
      args.contains "-r" = true ∧ ∃ typed ∈ (Arguments.positional args).head?,
        ¬ Calm (s.view prior) (Path.resolve s.cwd typed) := by
  cases hargs : Arguments.positional args with
  | nil =>
      rw [rm, hargs]
      constructor
      · intro he
        cases he
      · rintro ⟨-, typed, htyped, -⟩
        cases htyped
  | cons typed rest =>
      have hhead : (∃ t ∈ (typed :: rest).head?, ¬ Calm (s.view prior) (Path.resolve s.cwd t)) ↔
          ¬ Calm (s.view prior) (Path.resolve s.cwd typed) := by simp
      have hnone := victims_eq_none_iff (v := s.view prior) h (Path.resolve_ne_empty s.cwd typed)
      rw [hhead, ← hnone]
      by_cases hdir : args.contains "-r" = true ∧ (s.view prior).isDir (Path.resolve s.cwd typed) = true
      · rw [run_rm_directory emit prior hargs hdir.1 hdir.2]
        cases victims (s.view prior) (Path.resolve s.cwd typed) with
        | none => exact ⟨fun _ => ⟨hdir.1, rfl⟩, fun _ => rfl⟩
        | some paths =>
            constructor
            · intro he
              exact absurd he (run_removeAll_ne_endless _ paths s)
            · rintro ⟨-, he⟩
              cases he
      · constructor
        · intro he
          exact absurd he (run_rm_other emit prior hargs hdir)
        · rintro ⟨hr, he⟩
          have hcalm : Calm (s.view prior) (Path.resolve s.cwd typed) :=
            calm_of_not_isDir fun hd => hdir ⟨hr, hd⟩
          exact absurd hcalm (hnone.1 he)

/-- The search from a path comes to an end, and `rm` with it, exactly if the path is calm. -/
theorem rm_ends_iff (h : s.files.Reachable) (args : List String) :
    (∀ typed, (∃ fuel, (walk (s.view prior) fuel [Path.resolve s.cwd typed] []).isSome) ↔
      Calm (s.view prior) (Path.resolve s.cwd typed)) ∧
    (((rm args).run (Session.perform emit prior) s).1 = .endless ↔
      args.contains "-r" = true ∧ ∃ typed ∈ (Arguments.positional args).head?,
        ¬ Calm (s.view prior) (Path.resolve s.cwd typed)) :=
  ⟨fun typed => exists_walk_iff h (Path.resolve_ne_empty s.cwd typed), run_rm_endless_iff emit prior h args⟩

theorem rm_home_ends :
    (Session.after []).files.Reachable ∧
      ((rm ["-r", "/home"]).run (Session.perform Session.emit []) (Session.after [])).1 ≠ .endless := by
  have hfiles := Session.reachable_after []
  obtain ⟨hcalm, hends⟩ := rm_ends_iff Session.emit [] hfiles ["-r", "/home"]
  refine ⟨hfiles, fun he => ?_⟩
  obtain ⟨-, typed, htyped, hnot⟩ := hends.1 he
  cases htyped
  exact hnot ((hcalm "/home").1 ⟨10, by decide +kernel⟩)

/-- Under a directory with an entry called `.` no fuel is enough. -/
theorem rm_of_dotted_directory_endless :
    (∀ fuel, walk ((Session.after ["mkdir -p /d/."]).view []) fuel ["/d"] [] = none) ∧
      ((Session.after ["mkdir -p /d/."]).submit "rm -r /d").1 = .endless := by
  have hdot : "." ∈ ((Session.after ["mkdir -p /d/."]).view []).list "/d" := by decide +kernel
  refine ⟨fun fuel => ?_, by decide +kernel⟩
  cases hw : walk ((Session.after ["mkdir -p /d/."]).view []) fuel ["/d"] [] with
  | none => rfl
  | some met =>
      have hsome : (walk ((Session.after ["mkdir -p /d/."]).view []) fuel ["/d"] []).isSome := by
        rw [hw]
        rfl
      exact absurd (acc_of_walk hsome) (not_acc_of_dot (by decide) hdot)

end Terminal.Commands
