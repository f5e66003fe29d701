import Terminal.Proofs.Session.Files
import Terminal.Proofs.Web.Update

/-!
Commands that send requests back to the terminal that runs them. A plan is what such a command does; in its script
each request becomes the calls that answer it. The answers arrive while the command is still running.
-/

namespace Terminal

namespace Script

def Outcome.done? {α : Type} : Outcome α → Option α
  | done a => some a
  | failed _ | endless => none

variable {α β σ : Type} {perform : (c : Call) → σ → c.Reply × σ}

theorem run_bind_of_done {script : Script α} {f : α → Script β} {a : α} {s s' : σ}
    (h : script.run perform s = (.done a, s')) : (script.bind f).run perform s = (f a).run perform s' := by
  induction script generalizing s with
  | call c next ih => exact ih _ h
  | done b =>
      cases h
      rfl
  | _ => cases h

end Script

namespace Session

theorem evolves_run {α : Type} (prior : List String) (script : Script α) (s : Session) :
    s.Evolves (script.run (perform emit prior) s).2 := by
  refine Script.run_keeps (P := s.Evolves) ?_ script .refl
  intro c s' h
  exact h.trans (evolves_perform announces_emit prior c s')

end Session

namespace Web

inductive Plan (α : Type) where
  | done (a : α)
  | fail (f : Failure)
  | endless
  | call (c : Call) (next : c.Reply → Plan α)
  | request (r : Request) (next : Except Obstacle Response → Plan α)

def ask (r : Request) : Script (Except Obstacle Response) :=
  match Route.of r with
  | .ok route => (reply route).bind fun response => .done (.ok response)
  | .error obstacle => .done (.error obstacle)

theorem run_ask (prior : List String) {s : Session} (hs : s.Harmless) (r : Request) :
    ∃ answer s', (ask r).run (Session.perform Session.emit prior) s = (.done answer, s') ∧
      ∀ response, answer = .ok response → Tells (r, response) s s' := by
  unfold ask
  cases hroute : Route.of r with
  | error obstacle => exact ⟨.error obstacle, s, rfl, by simp⟩
  | ok route =>
      obtain ⟨response, s', hrun, htells⟩ := tells_reply prior hs hroute
      refine ⟨.ok response, s', Script.run_bind_of_done hrun, ?_⟩
      rintro _ ⟨⟩
      exact htells

namespace Plan

variable {α : Type}

def script : Plan α → Script α
  | done a => .done a
  | fail f => .fail f
  | endless => .endless
  | call c next => .call c fun reply => (next reply).script
  | request r next => (ask r).bind fun answer => (next answer).script

def arrivals (prior : List String) : Plan α → Session → List (Request × Response)
  | done _, _ | fail _, _ | endless, _ => []
  | call c next, s =>
    let (reply, s) := s.perform Session.emit prior c
    (next reply).arrivals prior s
  | request r next, s =>
    let answered := (ask r).run (Session.perform Session.emit prior) s
    answered.1.done?.elim [] fun answer =>
      answer.toOption.toList.map (r, ·) ++ (next answer).arrivals prior answered.2

def ofScript : Script α → Plan α
  | .done a => done a
  | .fail f => fail f
  | .endless => endless
  | .call c next => call c fun reply => ofScript (next reply)

theorem script_ofScript (s : Script α) : (ofScript s).script = s := by
  induction s with
  | call c next ih => exact congrArg (Script.call c) (funext ih)
  | _ => rfl

section

variable {r : Request} {next : Except Obstacle Response → Plan α} {prior : List String} {s s' : Session}
  {answer : Except Obstacle Response}

theorem run_request (h : (ask r).run (Session.perform Session.emit prior) s = (.done answer, s')) :
    (request r next).script.run (Session.perform Session.emit prior) s =
      (next answer).script.run (Session.perform Session.emit prior) s' :=
  Script.run_bind_of_done h

theorem arrivals_request (h : (ask r).run (Session.perform Session.emit prior) s = (.done answer, s')) :
    (request r next).arrivals prior s =
      answer.toOption.toList.map (r, ·) ++ (next answer).arrivals prior s' := by
  have harrivals : (request r next).arrivals prior s =
      ((ask r).run (Session.perform Session.emit prior) s).1.done?.elim [] fun answer =>
        answer.toOption.toList.map (r, ·) ++
          (next answer).arrivals prior ((ask r).run (Session.perform Session.emit prior) s).2 := rfl
  rw [harrivals, h]
  rfl

end

end Plan

structure App where
  registry : Registry
  plan : String → List String → Plan (Option Result)
  script_plan : ∀ {name : String} {c : Command}, registry.get? name = some c →
    ∀ args, c.handler args = (plan name args).script

namespace App

def ofRegistry (registry : Registry) : App where
  registry
  plan name args := (registry.get? name).elim .endless fun c => .ofScript (c.handler args)
  script_plan := by
    intro name c h args
    simp [h, Plan.script_ofScript]

def add (info : CommandInfo) (plan : List String → Plan (Option Result)) (app : App) : App where
  registry := { app.registry with
    commands := app.registry.commands.put info.name ⟨info, fun args => (plan args).script⟩ }
  plan name args := if name = info.name then plan args else app.plan name args
  script_plan := by
    intro name c h args
    by_cases hname : name = info.name
    · have hc : some ⟨info, fun args => (plan args).script⟩ = some c := by
        simpa [Registry.get?, hname] using h
      cases hc
      simp [hname]
    · have hc : app.registry.get? name = some c := by
        simpa [Registry.get?, Table.get?_put_of_ne _ _ (Ne.symm hname)] using h
      simpa [hname] using app.script_plan hc args

end App

end Web

end Terminal
