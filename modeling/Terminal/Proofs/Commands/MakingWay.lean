import Terminal.Proofs.Files.Reachable
import Terminal.Proofs.Path.Laws
import Terminal.Proofs.Session.Answering

namespace Terminal

open Commands

def Script.Outcome.ofChange (label : String) : Except FileError Unit → Script.Outcome (Option Result)
  | .ok () => .done (some {})
  | .error e => .done (some (.ofLines [label ++ ": " ++ e.message]))

theorem Script.Outcome.modest_ofChange (label : String) (outcome : Except FileError Unit) :
    (ofChange label outcome).Modest := by
  cases outcome with
  | ok done => exact .done ⟨rfl, rfl⟩
  | error e => exact .done ⟨rfl, rfl⟩

namespace Tree

structure Paved (now : Int) (t : Tree) (made : String) : Prop where
  rooted : Text.startsWith (made ++ "/") "/" = true
  there : t.descend now Forest.keep (Path.split made) = (t, .ok ())

variable {now : Int} {t t' : Tree} {made part : String}

theorem paved_root : t.Paved now "" := ⟨rfl, rfl⟩

theorem Paved.rooted_step (h : t.Paved now made) (part : String) :
    Text.startsWith (made ++ "/" ++ part) "/" = true := by
  have hne : made ++ "/" ≠ "" := by simp
  rw [Path.startsWith_append hne]
  exact h.rooted

theorem Paved.step (h : t.Paved now made)
    (hstep : t.descend now Forest.keep (Path.split (made ++ "/" ++ part)) = (t', .ok ())) :
    t'.Paved now (made ++ "/" ++ part) := by
  refine ⟨?_, ?_⟩
  · rw [Path.startsWith_append (by simp)]
    exact h.rooted_step part
  · have hagain := descend_append now Forest.keep (Path.split (made ++ "/" ++ part)) [] t
    rw [List.append_nil, hstep] at hagain
    exact hagain.symm

end Tree

namespace Commands

variable {s : Session} {made : String} {parts : List String}

theorem run_changing {op : FileOp} (h : op.resolve s.cwd = op) (label : String) (next : Script (Option Result))
    (prior : List String) : (changing label op next).run (Session.perform Session.emit prior) s =
      match op.perform s.world.wall s.files with
      | (files, .ok ()) => next.run (Session.perform Session.emit prior) { s with files }
      | (files, .error e) => (.ofChange label (.error e), { s with files }) := by
  rw [changing, Script.run]
  simp only [Session.perform, Session.edit, h]
  rcases op.perform s.world.wall s.files with ⟨files, e | ⟨⟩⟩
  · rfl
  · rfl

theorem run_mkdirAll (label : String) (hparts : ∀ part ∈ parts, Path.IsName part) (hs : s.files.Ordered)
    (hmade : s.files.Paved s.world.wall made) (prior : List String) :
    (mkdirAll label made parts).run (Session.perform Session.emit prior) s =
      (.ofChange label (s.files.descend s.world.wall Forest.keep (Path.split made ++ parts)).2,
        { s with files := (s.files.descend s.world.wall Forest.keep (Path.split made ++ parts)).1 }) := by
  -- on what is left of the way; where the next directory cannot be made, neither can the last one
  induction parts generalizing s made with
  | nil =>
      rw [List.append_nil, hmade.there]
      rfl
  | cons part parts ih =>
      have hpart : Path.split (made ++ "/" ++ part) = Path.split made ++ [part] := by
        rw [Path.split_append_slash, Path.split_name (hparts part (List.mem_cons_self ..))]
      have hop : (FileOp.mkdir (made ++ "/" ++ part)).resolve s.cwd = .mkdir (made ++ "/" ++ part) :=
        congrArg FileOp.mkdir (Path.resolve_of_startsWith (hmade.rooted_step part))
      have hordered : (s.files.descend s.world.wall Forest.keep (Path.split (made ++ "/" ++ part))).1.Ordered :=
        Tree.ordered_descend _ (fun g hg => hg) hs _
      rw [mkdirAll, run_changing hop, FileOp.perform, Tree.mkdir_eq_descend _ hs, List.append_cons, ← hpart,
        Tree.descend_append]
      rcases hstep : s.files.descend s.world.wall Forest.keep (Path.split (made ++ "/" ++ part)) with ⟨t, e | ⟨⟩⟩
      · rfl
      · rw [hstep] at hordered
        exact ih (s := { s with files := t }) (fun p hp => hparts p (List.mem_cons_of_mem _ hp)) hordered
          (hmade.step hstep)

section Mkdir

variable {args rest : List String} {typed : String} (hargs : Arguments.positional args = typed :: rest)
include hargs

theorem run_mkdir (prior : List String) (s : Session) :
    (mkdir args).run (Session.perform Session.emit prior) s =
      (if "-p" ∈ args then mkdirAll ("mkdir: " ++ typed) "" (Path.split (Path.resolve s.cwd typed))
        else if s.files.isDir (Path.parent (Path.resolve s.cwd typed)) then
          changing ("mkdir: " ++ typed) (.mkdir (Path.resolve s.cwd typed)) quietly
        else say ("mkdir: " ++ typed ++ ": " ++ noSuch)).run (Session.perform Session.emit prior) s := by
  have hparent : (s.view prior).isDir (Path.parent (Path.resolve s.cwd typed)) =
      s.files.isDir (Path.parent (Path.resolve s.cwd typed)) := by
    rw [View.isDir, View.resolve, Path.parent, Path.resolve_absolute]
    rfl
  have hview : (s.view prior).resolve typed = Path.resolve s.cwd typed := rfl
  rw [mkdir, hargs]
  simp only [Script.run, Session.perform, List.contains_iff_mem, hview, hparent]
  by_cases hflag : "-p" ∈ args
  · rw [if_pos hflag, if_pos hflag]
  · rw [if_neg hflag, if_neg hflag]
    cases s.files.isDir (Path.parent (Path.resolve s.cwd typed)) with
    | true => rfl
    | false => rfl

section Made

variable {made : Tree.Step} (hmade : s.files.mkdir s.world.wall (Path.resolve s.cwd typed) = made)
include hmade

theorem run_mkdir_way (hflag : "-p" ∈ args) (hs : s.files.Ordered) (prior : List String) :
    (mkdir args).run (Session.perform Session.emit prior) s =
      (.ofChange ("mkdir: " ++ typed) made.2, { s with files := made.1 }) := by
  have hparts : ∀ part ∈ Path.split (Path.resolve s.cwd typed), Path.IsName part :=
    fun part => Path.isName_of_mem_split
  rw [run_mkdir hargs, if_pos hflag, run_mkdirAll _ hparts hs Tree.paved_root, Path.split_empty, List.nil_append,
    ← Tree.mkdir_eq_descend _ hs, hmade]

theorem run_mkdir_one (hflag : "-p" ∉ args)
    (hparent : s.files.isDir (Path.parent (Path.resolve s.cwd typed)) = true) (hcwd : Path.Canonical s.cwd)
    (prior : List String) : (mkdir args).run (Session.perform Session.emit prior) s =
      (.ofChange ("mkdir: " ++ typed) made.2, { s with files := made.1 }) := by
  have hop : (FileOp.mkdir (Path.resolve s.cwd typed)).resolve s.cwd = .mkdir (Path.resolve s.cwd typed) :=
    congrArg FileOp.mkdir (Path.resolve_idem hcwd typed)
  rw [run_mkdir hargs, if_neg hflag, if_pos hparent, run_changing hop, FileOp.perform, hmade]
  rcases made with ⟨t, e | ⟨⟩⟩
  · rfl
  · rfl

end Made

theorem run_mkdir_nowhere (hflag : "-p" ∉ args)
    (hparent : s.files.isDir (Path.parent (Path.resolve s.cwd typed)) = false) (prior : List String) :
    (mkdir args).run (Session.perform Session.emit prior) s =
      (.done (some (.ofLines ["mkdir: " ++ typed ++ ": " ++ noSuch])), s) := by
  rw [run_mkdir hargs, if_neg hflag, if_neg (by simp [hparent])]
  rfl

end Mkdir

end Commands

namespace Session

variable {s : Session} {args rest : List String} {typed : String}

theorem exists_mkdir : ∃ c, Registry.builtin.get? "mkdir" = some c ∧ c.handler = mkdir :=
  exists_builtin (by decide +kernel) (by decide) (by simp [builtins])

section Args

variable (hargs : Arguments.positional args = typed :: rest)
include hargs

theorem ends_mkdir_made (hs : s.files.Ordered) (hcwd : Path.Canonical s.cwd)
    (h : "-p" ∈ args ∨ s.files.isDir (Path.parent (Path.resolve s.cwd typed)) = true) {made : Tree.Step}
    (hmade : s.files.mkdir s.world.wall (Path.resolve s.cwd typed) = made) :
    s.Ends "mkdir" args (fun _ => .ofChange ("mkdir: " ++ typed) made.2) made.1 := by
  refine ends_of_runs exists_mkdir (fun _ => Script.Outcome.modest_ofChange ..) fun s' hstays hwall prior => ?_
  rw [← hstays.files, ← hstays.cwd, ← hwall] at hmade
  rw [← hstays.files, ← hstays.cwd] at h
  by_cases hflag : "-p" ∈ args
  · exact run_mkdir_way hargs hmade hflag (hstays.files ▸ hs) prior
  · exact run_mkdir_one hargs hmade hflag (h.resolve_left hflag) (hstays.cwd ▸ hcwd) prior

theorem ends_mkdir_nowhere (hflag : "-p" ∉ args)
    (hparent : s.files.isDir (Path.parent (Path.resolve s.cwd typed)) = false) :
    s.Ends "mkdir" args (fun _ => .done (some (.ofLines ["mkdir: " ++ typed ++ ": " ++ noSuch]))) s.files := by
  refine ends_of_runs exists_mkdir (fun _ => .done ⟨rfl, rfl⟩) fun s' hstays _ prior => ?_
  rw [← hstays.files, ← hstays.cwd] at hparent
  rw [run_mkdir_nowhere hargs hflag hparent, ← hstays.files]

/-- With `-p` a line that makes a directory leaves the files as one call leaves them that makes it, and is silent unless that
call fails, which it tells. Without `-p` it does the same where the directory above is there. Elsewhere it tells that there
is none. Whatever it tells, the files are as they were. -/
theorem mkdir_makes_way (hfiles : s.files.Reachable) (hcwd : Path.Canonical s.cwd) :
    ("-p" ∈ args ∨ s.files.isDir (Path.parent (Path.resolve s.cwd typed)) = true →
      (∃ files, s.files.mkdir s.world.wall (Path.resolve s.cwd typed) = (files, .ok ()) ∧
        s.Ends "mkdir" args (fun _ => .done (some {})) files) ∨
      ∃ e, s.files.mkdir s.world.wall (Path.resolve s.cwd typed) = (s.files, .error e) ∧
        s.Ends "mkdir" args (fun _ => .done (some (.ofLines ["mkdir: " ++ typed ++ ": " ++ e.message]))) s.files) ∧
    ("-p" ∉ args → s.files.isDir (Path.parent (Path.resolve s.cwd typed)) = false →
      s.Ends "mkdir" args (fun _ => .done (some (.ofLines ["mkdir: " ++ typed ++ ": " ++ noSuch]))) s.files) := by
  refine ⟨fun h => ?_, ends_mkdir_nowhere hargs⟩
  rcases Tree.mkdir_cases s.world.wall hfiles.ordered (Path.resolve s.cwd typed) with
    ⟨-, name, hmkdir⟩ | ⟨-, files, hmkdir, -⟩
  · exact .inr ⟨_, hmkdir, ends_mkdir_made hargs hfiles.ordered hcwd h hmkdir⟩
  · exact .inl ⟨files, hmkdir, ends_mkdir_made hargs hfiles.ordered hcwd h hmkdir⟩

end Args

theorem guest_makes_way : (after []).Quiet ∧
    (∃ files, files.isDir "/home/guest/sub/new" = true ∧
      (after []).Ends "mkdir" ["sub//new", "-p"] (fun _ => .done (some {})) files) ∧
    (after []).Ends "mkdir" ["-p", "/projects/todo.md\\x"]
      (fun _ => .done (some (.ofLines ["mkdir: /projects/todo.md\\x: Path segment is a file: todo.md"])))
      (after []).files ∧
    (after []).Ends "mkdir" ["/projects/todo.md\\x"]
      (fun _ => .done (some (.ofLines ["mkdir: /projects/todo.md\\x: No such file or directory"])))
      (after []).files := by
  have hfiles := reachable_after []
  have hcwd : Path.Canonical (after []).cwd := Path.canonical_normalize _
  have hnew : Arguments.positional ["sub//new", "-p"] = ["sub//new"] := by decide +kernel
  have hway : Arguments.positional ["-p", "/projects/todo.md\\x"] = ["/projects/todo.md\\x"] := by decide +kernel
  have hone : Arguments.positional ["/projects/todo.md\\x"] = ["/projects/todo.md\\x"] := by decide +kernel
  refine ⟨quiet_after_nil, ?_, ?_, ?_⟩
  · rcases (mkdir_makes_way hnew hfiles hcwd).1 (.inl (by decide)) with ⟨files, hmade, hends⟩ | ⟨e, hmade, -⟩
    · have hdir : ((after []).files.mkdir (after []).world.wall (Path.resolve (after []).cwd "sub//new")).1.isDir
          "/home/guest/sub/new" = true := by decide +kernel
      rw [hmade] at hdir
      exact ⟨files, hdir, hends⟩
    · have hok : ((after []).files.mkdir (after []).world.wall (Path.resolve (after []).cwd "sub//new")).2 =
          .ok () := by decide +kernel
      rw [hmade] at hok
      cases hok
  · have hblocked : ((after []).files.mkdir (after []).world.wall
        (Path.resolve (after []).cwd "/projects/todo.md\\x")).2 = .error (.segmentIsFile "todo.md") := by
      decide +kernel
    rcases (mkdir_makes_way hway hfiles hcwd).1 (.inl (by decide)) with ⟨files, hmade, -⟩ | ⟨e, hmade, hends⟩
    · rw [hmade] at hblocked
      cases hblocked
    · rw [hmade] at hblocked
      cases hblocked
      exact hends
  · exact (mkdir_makes_way hone hfiles hcwd).2 (by decide) (by decide +kernel)

end Session

end Terminal
