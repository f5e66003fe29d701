import Terminal.Commands
import Terminal.Proofs.Files.Reachable
import Terminal.Session.Turn

namespace Terminal

theorem Script.run_keeps {α σ : Type} {perform : (c : Call) → σ → c.Reply × σ} {P : σ → Prop}
    (hperform : ∀ c s, P s → P (perform c s).2) (script : Script α) {s : σ} (hs : P s) :
    P (script.run perform s).2 := by
  induction script generalizing s with
  | done a => exact hs
  | fail f => exact hs
  | endless => exact hs
  | call c next ih => exact ih _ (hperform c s hs)

namespace Session

def KeepsFiles (emit : Emit) : Prop := ∀ r s, (emit r s).files = s.files

theorem files_foldl {α : Type} {f : Session → α → Session} (hf : ∀ s a, (f s a).files = s.files)
    (l : List α) (s : Session) : (l.foldl f s).files = s.files := by
  induction l generalizing s with
  | nil => rfl
  | cons a l ih => exact (ih (f s a)).trans (hf s a)

theorem files_cancel (s : Session) : s.cancel.2.files = s.files := by
  rw [cancel]
  cases s.token <;> rfl

theorem files_awaitProbe (url : String) (start : Fraction) (s : Session) :
    (s.awaitProbe url start).2.files = s.files := by
  rw [awaitProbe]
  dsimp only
  have hcancel : (if (s.takeProbe url).1.cancels then (s.takeProbe url).2.cancel.2
      else (s.takeProbe url).2).files = s.files := by
    split
    · exact files_cancel _
    · rfl
  split
  · exact hcancel
  · exact hcancel
  · exact hcancel

theorem files_probe (url : String) (s : Session) : (s.probe url).2.files = s.files := by
  rw [probe]
  split
  · rfl
  · split
    · exact files_awaitProbe url _ s
    · rfl

theorem files_pause (s : Session) : s.pause.files = s.files := by
  rw [pause]
  split
  · rfl
  · dsimp only
    split
    · exact files_cancel _
    · rfl

section

variable {emit : Emit} (hemit : KeepsFiles emit)
include hemit

theorem files_print (text : String) (s : Session) : (s.print emit text).files = s.files := hemit _ s

theorem files_act (a : Action) (s : Session) : (s.act emit a).2.files = s.files := by
  cases a with
  | cancel => exact s.files_cancel
  | interrupt line =>
      rw [act, interrupt]
      split
      · exact s.files_cancel
      · split
        · rfl
        · exact hemit _ s
  | complete line =>
      rw [act, complete]
      split
      · rfl
      · dsimp only
        split
        · rfl
        · exact files_print hemit _ s
  | welcome =>
      rw [act, welcome]
      split
      · rfl
      · exact files_foldl (fun s text => hemit _ s) banner _
  | _ => rfl

theorem files_fire (s : Session) (h : Hook) : (s.fire emit h).files = s.files := files_act hemit h.action s

end

theorem keepsFiles_emitWithin (depth : Nat) : KeepsFiles (emitWithin depth) := by
  induction depth with
  | zero => exact fun r s => rfl
  | succ depth ih => exact fun r s => files_foldl (files_fire ih) _ _

theorem keepsFiles_emit : KeepsFiles emit := fun r s => keepsFiles_emitWithin _ r s

section

variable {emit : Emit} (hemit : KeepsFiles emit)
include hemit

theorem files_apply (r : Result) (s : Session) : (s.apply emit r).files = s.files := by
  have hlines : ∀ s : Session, ((r.lines.getD []).foldl (fun s line => s.print emit line) s).files =
      s.files := files_foldl (fun s line => files_print hemit line s) _
  have hclear : (if r.clear then s.clear else s).files = s.files := by
    split <;> rfl
  rw [apply]
  split
  · exact (hlines _).trans hclear
  · exact (hlines _).trans hclear

theorem files_endCancelled (name : String) (s : Session) : (s.endCancelled emit name).files = s.files :=
  files_print hemit _ _

theorem files_endFault (name : String) (f : Fault) (s : Session) :
    (s.endFault emit name f).files = s.files := by
  rw [endFault]
  split
  · exact files_print hemit _ _
  · exact files_print hemit _ _

theorem files_conclude (name : String) (ending : Except Failure (Option Result)) (s : Session) :
    (s.conclude emit name ending).files = s.files := by
  cases ending with
  | ok result =>
      by_cases hc : s.cancelled = true
      · rw [conclude.eq_def]
        simp only [if_pos hc]
        exact files_endCancelled hemit name s
      · rw [conclude.eq_def]
        simp only [if_neg hc]
        cases result with
        | none => rfl
        | some r => exact files_apply hemit r s
  | error f =>
      cases f with
      | cancelled => exact files_endCancelled hemit name s
      | fault f => exact files_endFault hemit name f s
      | _ => exact files_print hemit _ _

end

theorem reachable_edit {s : Session} (op : FileOp) (h : s.files.Reachable) :
    (s.edit op).2.files.Reachable := h.step s.world.wall op

section

variable {emit : Emit} (hemit : KeepsFiles emit)
include hemit

theorem reachable_perform (prior : List String) (c : Call) {s : Session} (h : s.files.Reachable) :
    (s.perform emit prior c).2.files.Reachable := by
  cases c with
  | change op => exact reachable_edit _ h
  | print text =>
      rw [perform]
      dsimp only
      split
      · exact h
      · rw [files_print hemit]
        exact h
  | act a =>
      rw [perform, files_act hemit]
      exact h
  | probe url =>
      rw [perform, files_probe]
      exact h
  | pause =>
      rw [perform, files_pause]
      exact h
  | _ => exact h

theorem reachable_runCommand (prior : List String) (c : Command) (name : String) (args : List String)
    {s : Session} (h : s.files.Reachable) :
    (s.runCommand emit prior c name args).2.files.Reachable := by
  have hrun : ((c.handler args).run (perform emit prior) s.launch).2.files.Reachable :=
    Script.run_keeps (P := fun s : Session => s.files.Reachable)
      (fun c s hs => reachable_perform hemit prior c hs) _ h
  rw [runCommand]
  split
  · rename_i result s' he
    rw [he] at hrun
    exact (files_conclude hemit name (.ok result) s').symm ▸ hrun
  · rename_i f s' he
    rw [he] at hrun
    exact (files_conclude hemit name (.error f) s').symm ▸ hrun
  · rename_i s' he
    rw [he] at hrun
    exact hrun

end

theorem reachable_submit (line : String) {s : Session} (h : s.files.Reachable) :
    (s.submit line).2.files.Reachable := by
  have hemit (r : Record) (s' : Session) (hs : s'.files = s.files) : (emit r s').files.Reachable := by
    rw [keepsFiles_emit r s', hs]
    exact h
  rw [submit]
  split
  · exact h
  · dsimp only
    split
    · exact hemit _ _ rfl
    · rename_i name args _
      split
      · rw [finish, files_print keepsFiles_emit]
        exact hemit _ _ rfl
      · exact reachable_runCommand keepsFiles_emit _ _ name args (hemit _ _ rfl)

def after (lines : List String) : Session :=
  lines.foldl (fun s line => (s.submit line).2)
    (start {} (Tree.seeded 0) .builtin (.empty logCapacity) { wall := 0 })

theorem reachable_after (lines : List String) : (after lines).files.Reachable := by
  have hfold (s : Session) (h : s.files.Reachable) :
      (lines.foldl (fun s line => (s.submit line).2) s).files.Reachable := by
    induction lines generalizing s with
    | nil => exact h
    | cons line lines ih => exact ih _ (reachable_submit line h)
  exact hfold _ (.seeded 0)

end Session

end Terminal
