import Terminal.Proofs.Session.Closing

namespace Terminal

namespace Session

def complaint? : Except Failure (Option Result) → Option String
  | .ok _ | .error .cancelled | .error (.fault _) => none
  | .error f => some f.message

def farewell (ending : Except Failure (Option Result)) : String := (complaint? ending).getD "^C"

variable {s : Session}

theorem verdict_of_cancelled (name : String) (ending : Except Failure (Option Result)) :
    ∃ v, verdict? true name ending = some v ∧ v.marks = (complaint? ending).isNone ∧ v.line = farewell ending := by
  cases ending with
  | ok result => exact ⟨.stopped name, rfl, rfl, rfl⟩
  | error f => cases f <;> exact ⟨_, rfl, rfl, rfl⟩

theorem settle_of_cancelled (hc : s.cancelled = true) (name : String) (result : Option Result) :
    s.settle name (.ok result) = s.settle name (.ok none) := by
  simp [settle, conclude, hc]

end Session

open Session

namespace Scene

variable {m m' : Scene}

structure HushedSince (start : List Notice) (m : Scene) : Prop where
  orderly : m.Orderly
  cancelled : m.session.cancelled = true
  account : ∃ ns, m.session.notices = start ++ ns ∧ FromBanner ns

theorem busy_of_cancelled (h : m.Orderly) (hc : m.session.cancelled = true) : m.session.Busy := by
  rcases h with ⟨hidle, -⟩ | ⟨hbusy, -⟩
  · simp [Session.cancelled, hidle.token] at hc
  · exact hbusy

theorem HushedSince.amend {start : List Notice} {P : Change → Prop} (h : m.HushedSince start) (horderly : m'.Orderly)
    (hs : Amends P m.session m'.session) (hP : ∀ r, P (.push r) → ∃ text ∈ banner, r = .system text) :
    m'.HushedSince start := by
  obtain ⟨cs, hcs, he⟩ := hs
  obtain ⟨ns, hnotices, hns⟩ := h.account
  refine ⟨horderly, ?_, ns ++ told cs, ?_, hns.append (fromBanner_told fun r hr => hP r (hcs _ hr))⟩
  · rw [he]
    exact cancelled_amend h.cancelled
  · rw [he, notices_amend, hnotices, List.append_assoc]

theorem HushedSince.step {start : List Notice} {e : Event} (h : m.HushedSince start) (he : ¬ e.Ends)
    (hstep : Step m e m') : m'.HushedSince start := by
  have horderly := h.orderly.step hstep
  -- a cancelled token belongs to a command that runs, so neither lines nor candidates are recorded
  have hrunning := (busy_of_cancelled h.orderly h.cancelled).running
  cases hstep with
  | answered ho =>
      cases ho.symm.trans (opening_of_running hrunning _)
      exact h
  | begun hf => cases hf.symm.trans (opening_of_running hrunning _)
  | @call s _ _ f c _ _ =>
      exact h.amend horderly (amends_perform announces_emit f.prior c s)
        fun r hr => banner_of_call hrunning h.cancelled hr
  | finish _ _ _ _ => exact absurd (.finish _ _) he
  | abandon _ _ => exact absurd .abandon he
  | @act s _ a =>
      refine h.amend horderly (amends_act announces_emit a s) ?_
      rintro r (hmay | hheeds)
      · exact banner_of_may (hrunning ▸ hmay)
      · exact banner_of_heeds hrunning hheeds
  | _ => exact ⟨horderly, h.cancelled, h.account⟩

/-- After the token of a turn is cancelled the one line that is still recorded for it is the farewell, and the
result of the handler makes no difference. -/
theorem cancelled_turn_closes {m₁ m₂ m₃ : Scene} {es : List Event} {ending : Except Failure (Option Result)}
    {t : Turn} (h : m₁.Reachable) (hc : m₁.session.cancelled = true) (hrun : Run m₁ es m₂)
    (hes : ∀ e ∈ es, ¬ e.Ends) (hend : Step m₂ (.finish ending t) m₃) :
    (t.cancelled = true ↔ complaint? ending = none) ∧
    (∃ ns ms, m₃.session.notices = m₁.session.notices ++ ns ++ .record (.output (farewell ending)) :: ms ∧
      FromBanner (ns ++ ms)) ∧
    (∀ name result, m₂.session.settle name (.ok result) = m₂.session.settle name (.ok none)) ∧
    ((∀ h ∈ m₂.session.watcher.hooks, isDiscreet h.action = true) →
      m₃.session.scrollback = m₂.session.scrollback ++ [.output (farewell ending)] ∧
      t.records.getLast? = some (.output (farewell ending)) ∧ m₃.session.cwd = m₂.session.cwd) := by
  have hhushed : m₂.HushedSince m₁.session.notices :=
    hrun.keeps (P := HushedSince m₁.session.notices) (fun n e n' he hstep hn => hn.step (hes e he) hstep)
      ⟨h.orderly, hc, [], by simp, by simp [FromBanner]⟩
  have hbusy := busy_of_cancelled hhushed.orderly hhushed.cancelled
  obtain ⟨ns, hnotices, hns⟩ := hhushed.account
  cases hend with
  | @finish _ _ _ _ f _ _ _ hsettle =>
      obtain ⟨v, hv, hmarks, hline⟩ := verdict_of_cancelled f.name ending
      have hcloses := closes_of_settle hbusy (hhushed.cancelled ▸ hv) hsettle
      rw [← hline]
      obtain ⟨ms, hlast, hms⟩ := hcloses.notices
      refine ⟨?_, ⟨ns, ms, ?_, hns.append hms⟩, settle_of_cancelled hhushed.cancelled, hcloses.frame⟩
      · rw [hcloses.marked, hmarks, Option.isNone_iff_eq_none]
      · exact hlast.trans (congrArg (· ++ _) hnotices)

def cancelledBy (c : Command) : Session :=
  (((ofCommand c).opening c.info.name).2.perform emit [] (.act .cancel)).2

theorem reachable_cancelledBy {c : Command} {rest : Script (Option Result)}
    (hw : Text.words c.info.name = [c.info.name]) (hc : c.handler [] = .call (.act .cancel) fun _ => rest) :
    Reachable ⟨cancelledBy c, [⟨c.info.name, [], [], rest⟩]⟩ :=
  ⟨_, _, _, _, _, _, .cons (.begun (opening_ofCommand hw)) (.cons (.call [] [] hc) .nil)⟩

def halted : Option Result := some { lines := some ["done"], clear := true, cwd := some "/" }

def halting : Command := ⟨⟨"halt", "Stop halfway", none⟩, fun _ =>
  .call (.act .cancel) fun _ => .call (.print "after") fun _ => .done halted⟩

theorem halted_closes : ∃ m₁ m₂ m₃ t, m₁.Reachable ∧ m₁.session.cancelled = true ∧
    Run m₁ [.call (.print "after")] m₂ ∧ Step m₂ (.finish (.ok halted) t) m₃ ∧ t.cancelled = true ∧
    m₃.session.scrollback = m₂.session.scrollback ++ [.output "^C"] ∧
    t.records.getLast? = some (.output "^C") ∧ m₃.session.cwd = m₂.session.cwd := by
  have hreach : Reachable ⟨cancelledBy halting,
      [⟨"halt", [], [], .call (.print "after") fun _ => .done halted⟩]⟩ :=
    reachable_cancelledBy (by decide +kernel) rfl
  have hprint := @Step.call (cancelledBy halting) [] []
    ⟨"halt", [], [], .call (.print "after") fun _ => .done halted⟩ (.print "after") (fun _ => .done halted) rfl
  have hend := @Step.finish ((cancelledBy halting).perform emit [] (.print "after")).2 _ [] []
    ⟨"halt", [], [], .done halted⟩ (.ok halted) _ rfl rfl
  obtain ⟨hcancelled, -, -, hframe⟩ := cancelled_turn_closes hreach rfl (.cons hprint .nil)
    (by simpa using fun h => nomatch h) hend
  exact ⟨_, _, _, _, hreach, rfl, .cons hprint .nil, hend, hcancelled.2 rfl, hframe (fun h hh => nomatch hh)⟩

def refusing : Command := ⟨⟨"refuse", "Stop with a word", none⟩, fun _ =>
  .call (.act .cancel) fun _ => .fail (.refused "no")⟩

/-- A turn that was cancelled ends with a word to the user and does not count as cancelled. -/
theorem refused_after_cancel : ∃ m m' ending t, m.Reachable ∧ m.session.cancelled = true ∧
    Step m (.finish ending t) m' ∧ t.cancelled = false ∧ t.records.getLast? = some (.output "no") := by
  have hreach := reachable_cancelledBy (c := refusing) (by decide +kernel) rfl
  exact ⟨_, _, _, _, hreach, rfl, .finish [] [] rfl rfl, rfl, rfl⟩

end Scene

end Terminal
