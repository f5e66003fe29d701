import Terminal.Proofs.Session.Closing

namespace Terminal

namespace Failure

def label : Failure → String
  | cancelled => "CommandCancelled"
  | usage _ => "UsageError"
  | notFound _ => "NotFoundError"
  | typeMismatch _ => "TypeMismatchError"
  | precondition _ => "PreconditionError"
  | refused _ => "TerminalError"
  | fault f => f.label

def line : Failure → String
  | fault f => f.line
  | e => e.message

def meaning (e : Failure) : String := if e.message = "" then e.label else e.message

theorem line_eq_message {e : Failure} (h : ∀ f, e ≠ .fault f) : e.line = e.message := by
  cases e with
  | fault f => exact absurd rfl (h f)
  | _ => rfl

theorem label_ne_empty {e : Failure} (h : ∀ f, e ≠ .fault f) : e.label ≠ "" := by
  cases e with
  | fault f => exact absurd rfl (h f)
  | _ => simp [label]

theorem line_eq_meaning_iff (e : Failure) : e.line = e.meaning ↔ e.message ≠ "" ∨ ∃ f, e = .fault f := by
  by_cases hfault : ∃ f, e = .fault f
  · obtain ⟨f, rfl⟩ := hfault
    exact ⟨fun _ => .inr ⟨f, rfl⟩, fun _ => rfl⟩
  · have hword : ∀ f, e ≠ .fault f := not_exists.1 hfault
    rw [line_eq_message hword, meaning, or_iff_left hfault]
    by_cases hmessage : e.message = ""
    · rw [if_pos hmessage, hmessage]
      exact ⟨fun h => absurd h.symm (label_ne_empty hword), fun h => absurd rfl h⟩
    · rw [if_neg hmessage]
      exact ⟨fun _ => hmessage, fun _ => rfl⟩

end Failure

namespace Session

theorem verdict_of_failure {e : Failure} (he : e ≠ .cancelled) (name : String) :
    ∃ v, verdict? false name (.error e) = some v ∧ v.marks = false ∧ v.line = e.line := by
  cases e with
  | cancelled => exact absurd rfl he
  | _ => exact ⟨_, rfl, rfl, rfl⟩

end Session

open Session

namespace Scene

variable {m m' : Scene}

/-- The turn settles and the session is idle; a line is all that the session added by itself. -/
structure Told (line : String) (t : Turn) (m m' : Scene) : Prop where
  cancelled : t.cancelled = false
  idle : m'.session.Idle
  landed : m'.flights = []
  notices : ∃ ms, m'.session.notices = m.session.notices ++ .record (.output line) :: ms ∧ FromBanner ms
  shown : (∀ h ∈ m.session.watcher.hooks, isDiscreet h.action = true) →
    m'.session.scrollback = m.session.scrollback ++ [.output line] ∧ t.records.getLast? = some (.output line)

theorem told_of_finish (h : m.Reachable) (hc : m.session.cancelled = false) {e : Failure} (he : e ≠ .cancelled)
    {t : Turn} (hstep : Step m (.finish (.error e) t) m') : Told e.line t m m' := by
  have hsettled := settled_of_ends h.orderly (.finish _ _) hstep
  cases hstep with
  | @finish s s' before after f _ _ _ hsettle =>
      obtain ⟨hbusy, -⟩ := h.orderly.alone
      obtain ⟨v, hv, hmarks, hline⟩ := verdict_of_failure he f.name
      have hverdict : verdict? s.cancelled f.name (.error e) = some v := by
        rw [show s.cancelled = false from hc]
        exact hv
      have hcloses := closes_of_settle hbusy hverdict hsettle
      rw [← hline]
      refine ⟨hcloses.marked.trans hmarks, hsettled.1, hsettled.2, hcloses.notices, fun hdiscreet => ?_⟩
      obtain ⟨hscrollback, hlast, -⟩ := hcloses.frame hdiscreet
      exact ⟨hscrollback, hlast⟩

/-- A handler that fails before it is cancelled has its turn settled with one line, which is the meaning of the failure
exactly if the failure has a message or is a fault. -/
theorem failure_told (h : m.Reachable) (hc : m.session.cancelled = false) {f : Flight} (hf : f ∈ m.flights)
    {e : Failure} (he : e ≠ .cancelled) (hend : f.rest.ending? = some (.error e)) :
    (∃ t m', Step m (.finish (.error e) t) m') ∧
    (∀ t m', Step m (.finish (.error e) t) m' → Told e.line t m m') ∧
    (e.line = e.meaning ↔ e.message ≠ "" ∨ ∃ f, e = .fault f) :=
  ⟨exists_finish hf hend, fun _ _ hstep => told_of_finish h hc he hstep, e.line_eq_meaning_iff⟩

def stumbling (e : Failure) : Command :=
  ⟨⟨"stumble", "Fail halfway", none⟩, fun _ => .call (.print "so far") fun _ => .fail e⟩

def stumbled (e : Failure) : Scene :=
  ⟨(((ofCommand (stumbling e)).opening "stumble").2.perform emit [] (.print "so far")).2,
    [⟨"stumble", [], [], .fail e⟩]⟩

theorem reachable_stumbled (e : Failure) : (stumbled e).Reachable := by
  have hwords : Text.words "stumble" = ["stumble"] := by decide +kernel
  exact ⟨_, _, _, _, _, _, .cons (.begun (opening_ofCommand (c := stumbling e) hwords)) (.cons (.call [] [] rfl) .nil)⟩

def hushing : Failure := .fault (.other "RuntimeError" "")

theorem hushing_told : (stumbled hushing).session.cancelled = false ∧
    (∃ t m', Step (stumbled hushing) (.finish (.error hushing) t) m') ∧
    ∀ t m', Step (stumbled hushing) (.finish (.error hushing) t) m' → Told "RuntimeError" t (stumbled hushing) m' := by
  obtain ⟨hfinish, htold, -⟩ := failure_told (reachable_stumbled hushing) rfl (List.mem_singleton.2 rfl)
    (e := hushing) (by simp [hushing]) rfl
  exact ⟨rfl, hfinish, htold⟩

/-- What is meant for the user but says nothing is shown as an empty line. -/
theorem empty_word_shown : ∃ t m', (stumbled (.refused "")).Reachable ∧
    Step (stumbled (.refused "")) (.finish (.error (.refused "")) t) m' ∧
    t.records.getLast? = some (.output "") ∧ (Failure.refused "").meaning = "TerminalError" :=
  ⟨_, _, reachable_stumbled _, .finish [] [] rfl rfl, rfl, rfl⟩

end Scene

end Terminal
