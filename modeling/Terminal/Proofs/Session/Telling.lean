import Terminal.Proofs.Session.Scene

namespace Terminal

namespace Session

def precede (pre : List Notice) (s : Session) : Session := { s with notices := pre ++ s.notices }

def hushed (s : Session) : Session := { s with notices := [] }

variable {pre : List Notice} {s : Session}

theorem precede_hushed (s : Session) : s.hushed.precede s.notices = s := by
  rw [precede, hushed, List.append_nil]

theorem push_precede (r : Record) (s : Session) : (s.precede pre).push r = (s.push r).precede pre := by
  rw [push, push, precede, precede, List.append_assoc]

theorem clear_precede (s : Session) : (s.precede pre).clear = s.clear.precede pre := by
  rw [clear, clear, precede, precede, List.append_assoc]

def Deaf (emit : Emit) : Prop := ∀ pre r s, emit r (s.precede pre) = (emit r s).precede pre

theorem cancel_precede (s : Session) : (s.precede pre).cancel = (s.cancel.1, s.cancel.2.precede pre) := by
  have htoken : (s.precede pre).token = s.token := rfl
  rw [cancel, cancel, htoken]
  cases s.token <;> rfl

section

variable {emit : Emit} (hemit : Deaf emit)
include hemit

theorem print_precede (text : String) (s : Session) :
    (s.precede pre).print emit text = (s.print emit text).precede pre := hemit pre _ s

theorem welcome_precede (s : Session) : (s.precede pre).welcome emit = (s.welcome emit).precede pre := by
  have hwelcomed : (s.precede pre).welcomed = s.welcomed := rfl
  rw [welcome, welcome, hwelcomed]
  split
  · rfl
  · have hbanner (t : Session) : banner.foldl (fun s text => emit (.system text) s) (t.precede pre) =
        (banner.foldl (fun s text => emit (.system text) s) t).precede pre :=
      List.foldl_hom (precede pre) fun s text => hemit pre (.system text) s
    exact hbanner { s with welcomed := true }

theorem interrupt_precede (line : String) (s : Session) :
    (s.precede pre).interrupt emit line = (s.interrupt emit line).precede pre := by
  have hrunning : (s.precede pre).running = s.running := rfl
  have htyped : (s.precede pre).typed (line ++ cancelMark) = s.typed (line ++ cancelMark) := rfl
  rw [interrupt, interrupt, hrunning, htyped, hemit, cancel_precede]
  split
  · rfl
  · split <;> rfl

theorem complete_precede (line : String) (s : Session) :
    (s.precede pre).complete emit line = ((s.complete emit line).1, (s.complete emit line).2.precede pre) := by
  have hrunning : (s.precede pre).running = s.running := rfl
  have hsource : (s.precede pre).source = s.source := rfl
  rw [complete, complete, hrunning, hsource]
  split
  · rfl
  · dsimp only
    split
    · rfl
    · rw [print_precede hemit]

theorem act_precede (a : Action) (s : Session) :
    (s.precede pre).act emit a = ((s.act emit a).1, (s.act emit a).2.precede pre) := by
  cases a with
  | cancel => exact cancel_precede s
  | interrupt line => exact congrArg (Prod.mk ()) (interrupt_precede hemit line s)
  | complete line => exact complete_precede hemit line s
  | clear => exact congrArg (Prod.mk ()) (clear_precede s)
  | welcome => exact congrArg (Prod.mk ()) (welcome_precede hemit s)
  | _ => rfl

theorem fire_precede (s : Session) (h : Hook) : fire emit (s.precede pre) h = (fire emit s h).precede pre := by
  rw [fire, fire, act_precede hemit]
  rfl

end

theorem deaf_emitWithin (depth : Nat) : Deaf (emitWithin depth) := by
  induction depth with
  | zero => exact fun pre r s => push_precede r s
  | succ depth ih =>
      intro pre r s
      rw [emitWithin, emitWithin, push_precede]
      exact List.foldl_hom (precede pre) (fire_precede ih)

theorem deaf_emit : Deaf emit := fun pre r s => deaf_emitWithin _ pre r s

theorem awaitProbe_precede (url : String) (start : Fraction) (s : Session) :
    (s.precede pre).awaitProbe url start = ((s.awaitProbe url start).1, (s.awaitProbe url start).2.precede pre) := by
  have htaken : (if (s.takeProbe url).1.cancels then ((s.takeProbe url).2.precede pre).cancel.2
        else (s.takeProbe url).2.precede pre) =
      (if (s.takeProbe url).1.cancels then (s.takeProbe url).2.cancel.2 else (s.takeProbe url).2).precede pre := by
    split
    · rw [cancel_precede]
    · rfl
  have hprobe : (s.precede pre).takeProbe url = ((s.takeProbe url).1, (s.takeProbe url).2.precede pre) := rfl
  rw [awaitProbe, awaitProbe, hprobe]
  dsimp only
  rw [htaken]
  split <;> rfl

theorem probe_precede (url : String) (s : Session) :
    (s.precede pre).probe url = ((s.probe url).1, (s.probe url).2.precede pre) := by
  have hcancelled : (s.precede pre).cancelled = s.cancelled := rfl
  have hworld : (s.precede pre).world = s.world := rfl
  rw [probe, probe, hcancelled, hworld]
  split
  · rfl
  · split
    · exact awaitProbe_precede url _ s
    · rfl

theorem pause_precede (s : Session) : (s.precede pre).pause = s.pause.precede pre := by
  have hcancelled : (s.precede pre).cancelled = s.cancelled := rfl
  have hworld : (s.precede pre).world = s.world := rfl
  rw [pause, pause, hcancelled, hworld]
  split
  · rfl
  · dsimp only
    split
    · exact congrArg Prod.snd (cancel_precede { s with world := { s.world with pauses := s.world.pauses.tail } })
    · rfl

theorem perform_precede (prior : List String) (c : Call) (s : Session) :
    (s.precede pre).perform emit prior c = ((s.perform emit prior c).1, (s.perform emit prior c).2.precede pre) := by
  cases c with
  | print text =>
      have hcancelled : (s.precede pre).cancelled = s.cancelled := rfl
      rw [perform, perform, hcancelled]
      dsimp only
      split
      · rfl
      · rw [print_precede deaf_emit]
  | clear => exact congrArg (Prod.mk ()) (clear_precede s)
  | probe url => exact probe_precede url s
  | pause => exact congrArg (Prod.mk ()) (pause_precede s)
  | act a => exact act_precede deaf_emit a s
  | _ => rfl

theorem run_precede (prior : List String) (script : Script (Option Result)) (s : Session) :
    script.run (perform emit prior) (s.precede pre) =
      ((script.run (perform emit prior) s).1, (script.run (perform emit prior) s).2.precede pre) := by
  induction script generalizing s with
  | call c next ih =>
      rw [Script.run, Script.run, perform_precede]
      exact ih _ _
  | _ => rfl

theorem apply_precede (r : Result) (s : Session) : (s.precede pre).apply emit r = (s.apply emit r).precede pre := by
  have hclear : (if r.clear then (s.precede pre).clear else s.precede pre) =
      (if r.clear then s.clear else s).precede pre := by
    split
    · exact clear_precede s
    · rfl
  have hprint (t : Session) : (r.lines.getD []).foldl (fun s line => s.print emit line) (t.precede pre) =
      ((r.lines.getD []).foldl (fun s line => s.print emit line) t).precede pre :=
    List.foldl_hom (precede pre) fun s line => print_precede deaf_emit line s
  simp only [apply, hclear, hprint]
  split <;> rfl

theorem conclude_precede (name : String) (ending : Except Failure (Option Result)) (s : Session) :
    (s.precede pre).conclude emit name ending = (s.conclude emit name ending).precede pre := by
  have hcancelled : (s.precede pre).cancelled = s.cancelled := rfl
  have hstopped : (s.precede pre).endCancelled emit name = (s.endCancelled emit name).precede pre :=
    deaf_emit pre _ (s.markCancelled.report .info ("cancelled: " ++ name))
  cases ending with
  | ok result =>
      simp only [conclude, hcancelled]
      split
      · exact hstopped
      · cases result with
        | none => rfl
        | some r => exact apply_precede r s
  | error f =>
      cases f with
      | cancelled => exact hstopped
      | fault f =>
          simp only [conclude, endFault, hcancelled]
          split
          · exact deaf_emit pre _ s.markCancelled
          · exact deaf_emit pre _ (s.report .error _)
      | _ => exact deaf_emit pre _ (s.report .warning _)

theorem settle_precede (name : String) (ending : Except Failure (Option Result)) (s : Session) :
    (s.precede pre).settle name ending = ((s.settle name ending).1, (s.settle name ending).2.precede pre) := by
  rw [settle, settle, conclude_precede]
  rfl

theorem fly_precede (f : Flight) (s : Session) : (s.precede pre).fly f = ((s.fly f).1, (s.fly f).2.precede pre) := by
  rw [fly_eq, fly_eq, run_precede]
  dsimp only
  split
  · exact settle_precede f.name _ _
  · rfl

theorem opening_precede (line : String) (s : Session) :
    (s.precede pre).opening line = ((s.opening line).1, (s.opening line).2.precede pre) := by
  have hrunning : (s.precede pre).running = s.running := rfl
  have htyped (text : String) : (s.precede pre).typeIn text = (s.typeIn text).precede pre :=
    deaf_emit pre (s.typed text) { s with turn := some {} }
  rw [opening, opening, hrunning, htyped]
  split
  · rfl
  · split
    · rfl
    · rename_i name args _
      have hregistry : ((s.typeIn line).precede pre).registry = (s.typeIn line).registry := rfl
      dsimp only
      rw [htyped, hregistry]
      split
      · have hmissing : (((s.typeIn line).precede pre).remember line).missing name =
            (((s.typeIn line).remember line).missing name).precede pre :=
          deaf_emit pre _ (((s.typeIn line).remember line).report .warning _)
        rw [hmissing]
        rfl
      · rfl

theorem submit_precede (line : String) (s : Session) :
    (s.precede pre).submit line = ((s.submit line).1, (s.submit line).2.precede pre) := by
  rw [submit_eq, submit_eq, opening_precede]
  rcases s.opening line with ⟨o | f, s'⟩
  · rfl
  · exact fly_precede f s'

theorem submit_hushed (line : String) (s : Session) :
    s.hushed.submit line = ((s.submit line).1, (s.hushed.submit line).2) := by
  have hsubmit : (s.hushed.precede s.notices).submit line =
      ((s.hushed.submit line).1, (s.hushed.submit line).2.precede s.notices) := submit_precede line s.hushed
  rw [precede_hushed] at hsubmit
  rw [hsubmit]

end Session

end Terminal
