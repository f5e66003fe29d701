import Terminal.Proofs.Session.Exclusion

namespace Terminal

namespace Session

/-- What a turn says of the scrollback before and after it. -/
structure Reports (t : Turn) (s s' : Session) : Prop where
  cleared : ∃ ns, s'.notices = s.notices ++ ns ∧ (t.cleared = true ↔ .clear ∈ ns)
  kept : t.cleared = false → s'.scrollback = s.scrollback ++ t.records
  emptied : t.cleared = true → s'.scrollback = t.records

/-- The turn under way accounts for everything told since `s`. -/
def Accounts (s s' : Session) : Prop :=
  ∃ ns cancelled, s'.notices = s.notices ++ ns ∧ s'.scrollback = Notice.replay s.scrollback ns ∧
    s'.turn = some ⟨Notice.replay [] ns, ns.contains .clear, cancelled⟩

variable {P : Change → Prop} {s s' s'' : Session}

theorem Begins.accounts (h : s.Begins s') : s.Accounts s' := by
  obtain ⟨ns, hns⟩ := h.account
  exact ⟨ns, false, hns⟩

theorem Accounts.amend (h : s.Accounts s') (h' : Amends P s' s'') : s.Accounts s'' := by
  obtain ⟨cs, -, rfl⟩ := h'
  obtain ⟨ns, cancelled, hnotices, hscrollback, hturn⟩ := h
  refine ⟨ns ++ told cs, cancelled || cs.any Change.marks, ?_, ?_, ?_⟩
  · rw [notices_amend, hnotices, List.append_assoc]
  · rw [scrollback_amend, hscrollback, Notice.replay_append]
  · rw [turn_amend, hturn]
    simp [Notice.replay_append]

theorem Accounts.finish (h : s.Accounts s') {t : Turn} (hfinish : s'.finish = (.settled t, s'')) :
    Reports t s s'' := by
  obtain ⟨ns, cancelled, hnotices, hscrollback, hturn⟩ := h
  rw [Session.finish, hturn] at hfinish
  cases hfinish
  refine ⟨⟨ns, hnotices, by simp⟩, ?_, ?_⟩
  · intro hkept
    have hns : Notice.clear ∉ ns := by simpa using hkept
    exact hscrollback.trans (Notice.replay_of_no_clear hns s.scrollback)
  · intro hcleared
    have hns : Notice.clear ∈ ns := by simpa using hcleared
    exact hscrollback.trans (Notice.replay_of_clear hns s.scrollback)

/-- A front end that followed every notice shows the scrollback. -/
def Shown (s : Session) : Prop := Notice.replay [] s.notices = s.scrollback

theorem Shown.replay (h : s.Shown) {ns : List Notice} (hnotices : s'.notices = s.notices ++ ns)
    (hscrollback : s'.scrollback = Notice.replay s.scrollback ns) : s'.Shown := by
  rw [Shown, hnotices, hscrollback, Notice.replay_append, h]

theorem Shown.amend (h : s.Shown) (h' : Amends P s s') : s'.Shown := by
  obtain ⟨cs, -, rfl⟩ := h'
  exact h.replay (notices_amend cs s) (scrollback_amend cs s)

theorem Shown.begin (h : s.Shown) (h' : s.Begins s') : s'.Shown := by
  obtain ⟨ns, hnotices, hscrollback, -⟩ := h'.account
  exact h.replay hnotices hscrollback

end Session

open Session

namespace Scene

variable {m m' : Scene}

theorem shown_step {e : Event} (h : m.session.Shown) (hstep : Step m e m') : m'.session.Shown := by
  cases hstep with
  | answered ho =>
      rcases opening_answered ho with ⟨-, -, rfl⟩ | ⟨-, s₁, hbegins, hfinish⟩
      · exact h
      · cases hfinish
        have hshown : s₁.Shown := h.begin hbegins
        exact hshown
  | begun hf =>
      obtain ⟨-, s₁, hbegins, -, rfl⟩ := opening_begun hf
      have hshown : s₁.Shown := h.begin hbegins
      exact hshown
  | call _ _ _ => exact h.amend (evolves_perform announces_emit _ _ _)
  | @finish s s' before after f ending t _ hsettle =>
      have hconclude : (s.conclude emit f.name ending).Shown := h.amend (amends_conclude announces_emit _ _ s)
      cases hsettle
      exact hconclude
  | act a => exact h.amend (evolves_act announces_emit a _)
  | _ => exact h

theorem Reachable.shown (h : m.Reachable) : m.session.Shown := by
  obtain ⟨config, files, registry, log, world, es, hrun⟩ := h
  exact hrun.keeps (P := fun m => m.session.Shown) (fun n e n' _ hstep hn => shown_step hn hstep) rfl

theorem accounts_step {s : Session} {e : Event} (hrunning : m.session.running = true)
    (h : s.Accounts m.session) (he : ¬ e.Ends) (hstep : Step m e m') :
    m'.session.running = true ∧ s.Accounts m'.session := by
  -- no other turn begins meanwhile, as every line is refused
  cases hstep with
  | answered ho =>
      cases ho.symm.trans (opening_of_running hrunning _)
      exact ⟨hrunning, h⟩
  | begun hf => cases hf.symm.trans (opening_of_running hrunning _)
  | @call s' _ _ f c _ _ =>
      have hevolves := evolves_perform announces_emit f.prior c s'
      exact ⟨hevolves.running_eq.trans hrunning, h.amend hevolves⟩
  | finish _ _ _ _ => exact absurd (.finish _ _) he
  | abandon _ _ => exact absurd .abandon he
  | @act s' _ a =>
      have hevolves := evolves_act announces_emit a s'
      exact ⟨hevolves.running_eq.trans hrunning, h.amend hevolves⟩
  | _ => exact ⟨hrunning, h⟩

theorem Returns.reports {line : String} {t : Turn} (h : Returns m line t m') : Reports t m.session m'.session := by
  cases h with
  | atOnce hstep =>
      cases hstep with
      | answered ho =>
          rcases opening_answered ho with ⟨-, hbusy, -⟩ | ⟨-, s₁, hbegins, hfinish⟩
          · cases hbusy
          · exact hbegins.accounts.finish hfinish
  | @later m₁ m₂ _ _ es ending t hstep hrun hes hend =>
      have hbegun : m₁.session.running = true ∧ m.session.Accounts m₁.session := by
        cases hstep with
        | begun hf =>
            obtain ⟨-, s₁, hbegins, -, rfl⟩ := opening_begun hf
            exact ⟨rfl, hbegins.accounts⟩
      have hlast : m₂.session.running = true ∧ m.session.Accounts m₂.session :=
        hrun.keeps (P := fun n => n.session.running = true ∧ m.session.Accounts n.session)
          (fun n e n' he hstep hn => accounts_step hn.1 hn.2 (hes e he) hstep) hbegun
      cases hend with
      | @finish s s' before after f _ _ _ hsettle =>
          have hconclude : m.session.Accounts (s.conclude emit f.name ending) :=
            hlast.2.amend (amends_conclude announces_emit _ _ s)
          have hland : m.session.Accounts (s.conclude emit f.name ending).land := hconclude
          exact hland.finish hsettle

/-- A front end that follows the notices shows the scrollback in every scene. The turn that a line returns holds
the whole scrollback if this was emptied meanwhile, and otherwise what was added to it. -/
theorem accounts_agree (h : m.Reachable) :
    Notice.replay [] m.session.notices = m.session.scrollback ∧
    (∀ line t m', Returns m line t m' → Reports t m.session m'.session) ∧
    ∀ line t s', m.session.submit line = (.settled t, s') → Reports t m.session s' :=
  ⟨h.shown, fun _ _ _ hreturns => hreturns.reports, fun _ _ _ hsubmit => (returns_of_submit hsubmit).reports⟩

def wiping : Command := ⟨⟨"wipe", "Wipe the screen", none⟩, fun _ =>
  .call (.print "before") fun _ => .call (.act .clear) fun _ => .call (.print "after") fun _ =>
    .done (some { lines := some ["done"] })⟩

theorem wiped_reports :
    (Scene.mk (ofCommand wiping) []).Reachable ∧
      (ofCommand wiping).submit "wipe" =
        (.settled ⟨[.output "after", .output "done"], true, false⟩, ((ofCommand wiping).submit "wipe").2) ∧
      ((ofCommand wiping).submit "wipe").2.scrollback = [.output "after", .output "done"] := by
  have hreach : (Scene.mk (ofCommand wiping) []).Reachable := ⟨_, _, _, _, _, _, .nil⟩
  have hturn : ((ofCommand wiping).submit "wipe").1 =
      .settled ⟨[.output "after", .output "done"], true, false⟩ := by decide +kernel
  have hsubmit : (ofCommand wiping).submit "wipe" = (.settled ⟨[.output "after", .output "done"], true, false⟩,
      ((ofCommand wiping).submit "wipe").2) := Prod.ext hturn rfl
  exact ⟨hreach, hsubmit, ((accounts_agree hreach).2.2 _ _ _ hsubmit).emptied rfl⟩

end Scene

end Terminal
