import Terminal.Proofs.Session.Scene
import Terminal.Proofs.Session.Verdict

namespace Terminal

def Call.link? : Call → Option String
  | .openLink url => some url
  | _ => none

def Script.links {α σ : Type} (perform : (c : Call) → σ → c.Reply × σ) : Script α → σ → List String
  | .call c next, s => c.link?.toList ++ (next (perform c s).1).links perform (perform c s).2
  | _, _ => []

namespace Session

def Change.link? : Change → Option String
  | openLink url => some url
  | _ => none

theorem opened_apply {c : Change} (h : c.link? = none) (s : Session) :
    (c.apply s).world.opened = s.world.opened := by
  cases c with
  | openLink url => cases h
  | _ => rfl

variable {P : Change → Prop} {s s' : Session}

theorem Amends.opened_eq (h : Amends P s s') (hP : ∀ c, P c → c.link? = none) : s'.world.opened = s.world.opened :=
  h.keeps (f := fun s => s.world.opened) fun c hc => opened_apply (hP c hc)

theorem link?_of_may {a : Action} {running : Bool} {c : Change} (h : a.May running c) : c.link? = none := by
  cases h <;> rfl

theorem Heeds.link? {c : Change} (h : s.Heeds c) : c.link? = none := by
  obtain ⟨hook, -, hmay | ⟨reply, rfl⟩⟩ := h
  · exact link?_of_may hmay
  · rfl

theorem opened_emit (r : Record) (s : Session) : (emit r s).world.opened = s.world.opened := by
  refine (amends_emit announces_emit r s).opened_eq ?_
  rintro c (rfl | hc)
  · rfl
  · exact hc.link?

theorem opened_perform (prior : List String) (c : Call) (s : Session) :
    (s.perform emit prior c).2.world.opened = s.world.opened ++ c.link?.toList := by
  have hkept (hc : c.link? = none) : (s.perform emit prior c).2.world.opened = s.world.opened ++ c.link?.toList := by
    rw [hc, Option.toList_none, List.append_nil]
    refine (amends_perform announces_emit prior c s).opened_eq ?_
    rintro d (hmay | hd)
    · cases hmay with
      | openLink url => cases hc
      | act hact => exact link?_of_may hact
      | _ => rfl
    · exact hd.link?
  cases c with
  | openLink url => rfl
  | _ => exact hkept rfl

theorem opened_run {α : Type} (prior : List String) (script : Script α) (s : Session) :
    (script.run (perform emit prior) s).2.world.opened = s.world.opened ++ script.links (perform emit prior) s := by
  induction script generalizing s with
  | call c next ih =>
      have hnext := ih (s.perform emit prior c).1 (s.perform emit prior c).2
      rw [opened_perform, List.append_assoc] at hnext
      exact hnext
  | _ => exact (List.append_nil _).symm

theorem opened_settle (name : String) (ending : Except Failure (Option Result)) (s : Session) :
    (s.settle name ending).2.world.opened = s.world.opened := by
  have hconclude : (s.conclude emit name ending).world.opened = s.world.opened := by
    refine (amends_conclude announces_emit name ending s).opened_eq ?_
    rintro c (hmay | hc)
    · rcases hmay.kinds with rfl | ⟨level, message, rfl⟩ | ⟨text, rfl⟩ | ⟨r, -, hr⟩
      · rfl
      · rfl
      · rfl
      · cases hr <;> rfl
    · exact hc.link?
  exact hconclude

theorem opened_opening (line : String) (s : Session) : (s.opening line).2.world.opened = s.world.opened :=
  opening_induction (P := fun t => t.world.opened = s.world.opened) (fun _ _ _ _ _ _ _ h => h)
    (fun r t _ h => (opened_emit r t).trans h) rfl line

def links (line : String) (s : Session) : List String :=
  match s.opening line with
  | (.begun f, s) => f.rest.links (perform emit f.prior) s
  | (.answered _, _) => []

theorem opened_submit (line : String) (s : Session) :
    (s.submit line).2.world.opened = s.world.opened ++ s.links line := by
  have hopening := opened_opening line s
  rw [submit_eq, links]
  rcases hs : s.opening line with ⟨o | f, s₁⟩
  · rw [hs] at hopening
    exact hopening.trans (List.append_nil _).symm
  · rw [hs] at hopening
    have hrun := opened_run f.prior f.rest s₁
    rw [hopening] at hrun
    dsimp only [fly]
    cases (f.rest.run (perform emit f.prior) s₁).1.ending? with
    | none => exact hrun
    | some ending => exact (opened_settle f.name ending _).trans hrun

end Session

end Terminal
