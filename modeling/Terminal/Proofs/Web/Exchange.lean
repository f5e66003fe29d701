import Terminal.Proofs.Session.Links
import Terminal.Proofs.Web.View

namespace Terminal

open Session

namespace Web

namespace Response

def opened (r : Response) : Option Json := r.body.bind (Json.field? "open")

def Refuses (r : Response) : Prop := r.status = 400 ∨ r.status = 409

instance (r : Response) : Decidable r.Refuses := inferInstanceAs (Decidable (_ ∨ _))

end Response

structure Exchange where
  request : Request
  response : Response
  before : Session
  after : Session

def Exchange.Served (x : Exchange) : Prop := x.before.serve x.request = (.answered x.response, x.after)

inductive Plan.Makes (prior : List String) {α : Type} : Plan α → Session → Exchange → Prop
  | call {c : Call} {next : c.Reply → Plan α} {s : Session} {x : Exchange} :
      Makes prior (next (s.perform emit prior c).1) (s.perform emit prior c).2 x → Makes prior (.call c next) s x
  | request {r : Request} {next : Except Obstacle Response → Plan α} {response : Response} {s s' : Session} :
      (ask r).run (perform emit prior) s = (.done (.ok response), s') →
      Makes prior (.request r next) s ⟨r, response, s, s'⟩
  | afterwards {r : Request} {next : Except Obstacle Response → Plan α} {answer : Except Obstacle Response}
      {s s' : Session} {x : Exchange} :
      (ask r).run (perform emit prior) s = (.done answer, s') → Makes prior (next answer) s' x →
      Makes prior (.request r next) s x

/-- The exchanges of requests that are sent one after the other, each of them after a while, together with those that
the commands make which they start. -/
inductive Occurs : List (Int × Request) → Session → Exchange → Prop
  | nested {ms : Int} {r : Request} {visits : List (Int × Request)} {line : String} {f : Flight}
      {plan : Plan (Option Result)} {s s' : Session} {x : Exchange} :
      Route.of r = .ok (.execute line) → (s.advance ms).running = false →
      (s.advance ms).sweep.opening line = (.begun f, s') → f.rest = plan.script → plan.Makes f.prior s' x →
      Occurs ((ms, r) :: visits) s x
  | answered {ms : Int} {r : Request} {visits : List (Int × Request)} {response : Response} {s s' : Session} :
      (s.advance ms).serve r = (.answered response, s') →
      Occurs ((ms, r) :: visits) s ⟨r, response, s.advance ms, s'⟩
  | later {ms : Int} {r : Request} {visits : List (Int × Request)} {served : Served} {s s' : Session} {x : Exchange} :
      (s.advance ms).serve r = (served, s') → served ≠ .endless → Occurs visits s' x →
      Occurs ((ms, r) :: visits) s x

section

variable {s s' : Session}

theorem run_reply_of_running (h : s.running = true) (prior : List String) (route : Route) :
    ∃ response s', (reply route).run (perform emit prior) s = (.done response, s') ∧
      s.serveRoute route = (.answered response, s') := by
  cases route with
  | execute line => exact ⟨.busy, s, rfl, by rw [serveRoute, serveLine, if_pos h]⟩
  | _ => exact ⟨_, _, rfl, rfl⟩

theorem serve_of_ask (h : s.running = true) {prior : List String} {r : Request} {response : Response}
    (hask : (ask r).run (perform emit prior) s = (.done (.ok response), s')) :
    s.serve r = (.answered response, s') := by
  rw [ask] at hask
  cases hroute : Route.of r with
  | error obstacle =>
      rw [hroute] at hask
      cases hask
  | ok route =>
      obtain ⟨response', s₁, hrun, hserve⟩ := run_reply_of_running h prior route
      rw [hroute] at hask
      cases (Script.run_bind_of_done hrun).symm.trans hask
      rw [serve_of_ok hroute, hserve]

theorem Plan.Makes.served {prior : List String} {α : Type} {plan : Plan α} {x : Exchange} (h : plan.Makes prior s x)
    (hrunning : s.running = true) : x.Served := by
  induction h with
  | @call c next s x _ ih =>
      exact ih ((evolves_perform announces_emit prior c s).running_eq.trans hrunning)
  | request hask => exact serve_of_ask hrunning hask
  | @afterwards r next answer s s' x hask _ ih =>
      have hevolves : s.Evolves s' := by simpa [hask] using evolves_run prior (ask r) s
      exact ih (hevolves.running_eq.trans hrunning)

theorem Occurs.served {visits : List (Int × Request)} {x : Exchange} (h : Occurs visits s x) : x.Served := by
  induction h with
  | nested _ _ hopening _ hmakes =>
      obtain ⟨-, s₁, -, -, rfl⟩ := opening_begun hopening
      exact hmakes.served rfl
  | answered hserve => exact hserve
  | later _ _ _ ih => exact ih

theorem submit_ne_busy (h : s.running = false) (line : String) : (s.submit line).1 ≠ .busy := by
  rw [submit_eq]
  rcases opening_cases line s with ⟨hrunning, -⟩ | ⟨-, s₁, -, hanswer | ⟨f, -, hbegun⟩⟩
  · simp [h] at hrunning
  · rw [hanswer]
    nofun
  · rw [hbegun]
    dsimp only [fly]
    cases (f.rest.run (perform emit f.prior) s₁.launch).1.ending? <;> nofun

theorem answered_cases {r : Request} {response : Response} (h : s.serve r = (.answered response, s')) :
    ∃ route, Route.of r = .ok route ∧
      ((∃ line t, route = .execute line ∧ s.sweep.submit line = (.settled t, s') ∧ response = turnJson t s') ∨
        (reply route).run (perform emit []) s = (.done response, s')) := by
  cases hroute : Route.of r with
  | error obstacle =>
      rw [serve_of_error hroute] at h
      cases h
  | ok route =>
      refine ⟨route, rfl, ?_⟩
      cases hrunning : s.running with
      | true =>
          obtain ⟨response', s₁, hrun, hserve⟩ := run_reply_of_running hrunning [] route
          rw [serve_of_ok hroute, hserve] at h
          cases h
          exact .inr hrun
      | false =>
          by_cases hline : ∃ line, route = .execute line
          · obtain ⟨line, rfl⟩ := hline
            have hidle : s.sweep.running = false := hrunning
            have hbusy := submit_ne_busy hidle line
            rw [serve_of_execute hroute hrunning] at h
            rcases hsubmit : s.sweep.submit line with ⟨t | _ | _, s₁⟩
            · rw [hsubmit] at h
              cases h
              exact .inl ⟨line, t, rfl, hsubmit, rfl⟩
            · exact absurd (congrArg Prod.fst hsubmit) hbusy
            · rw [hsubmit] at h
              cases h
          · rw [serve_of_ok hroute, serveRoute_eq (not_exists.1 hline)] at h
            rcases hrun : (reply route).run (perform emit []) s with ⟨response' | _ | _, s₁⟩
            · rw [hrun] at h
              cases h
              exact .inr rfl
            · rw [hrun] at h
              cases h
            · rw [hrun] at h
              cases h

theorem eq_of_refusing_reply {route : Route} {response : Response}
    (h : (reply route).run (perform emit []) s = (.done response, s')) (hrefuses : response.Refuses) : s' = s := by
  cases route with
  | execute line | missing field | unknownDirection direction =>
      cases h
      rfl
  | _ =>
      cases h
      revert hrefuses
      simp [Response.Refuses, Response.ok, Response.line]

theorem eq_of_refused {r : Request} {response : Response} (h : s.serve r = (.answered response, s'))
    (hrefuses : response.Refuses) : s' = s := by
  obtain ⟨route, -, ⟨line, t, -, -, rfl⟩ | hrun⟩ := answered_cases h
  · revert hrefuses
    simp [Response.Refuses, turnJson, Response.ok]
  · exact eq_of_refusing_reply hrun hrefuses

theorem route_of_posted_line {r : Request} {route : Route} (hroute : Route.of r = .ok route)
    (hposted : r.posted? = some .execute) : route = .withField r "command" .execute := by
  rcases Route.of_cases hroute with ⟨e, -, he, rfl⟩ | ⟨hread, -⟩
  · cases hposted.symm.trans he
    rfl
  · cases hread _ hposted

theorem opened_of_line {r : Request} {response : Response} (h : s.serve r = (.answered response, s'))
    (hposted : r.posted? = some .execute) (hstatus : response.status = 200) :
    ∃ line, Route.of r = .ok (.execute line) ∧ s'.world.opened = s.sweep.links line ∧
      response.opened = some (.array ((s.sweep.links line).map .text)) := by
  obtain ⟨route, hroute, ⟨line, t, rfl, hsubmit, rfl⟩ | hrun⟩ := answered_cases h
  · have hopened := opened_submit line s.sweep
    rw [hsubmit] at hopened
    have hlinks : s'.world.opened = s.sweep.links line := hopened
    refine ⟨line, hroute, hlinks, ?_⟩
    simp [Response.opened, turnJson, Response.ok, Json.field?, List.lookup_cons, hlinks]
  · -- without a turn the place where lines are posted does not answer with 200
    rw [route_of_posted_line hroute hposted] at hrun
    rcases Route.withField_cases r "command" .execute with hfield | hfield | ⟨line, hfield⟩
    · rw [hfield] at hrun
      cases hrun
      cases hstatus
    · rw [hfield] at hrun
      cases hrun
      cases hstatus
    · rw [hfield] at hrun
      cases hrun
      cases hstatus

end

/-- Whatever requests are sent, by the page or by running commands: each exchange is one with the session as it is, a
request that is refused leaves the whole session as it was, and the answer to a line names the links that the command
of this line handed out, in order, and these alone wait to be opened. -/
theorem exchanges_accounted {visits : List (Int × Request)} {s : Session} {x : Exchange} (h : Occurs visits s x) :
    x.Served ∧ (x.response.Refuses → x.after = x.before) ∧
    (x.request.posted? = some .execute → x.response.status = 200 →
      ∃ line, Route.of x.request = .ok (.execute line) ∧ x.after.world.opened = x.before.sweep.links line ∧
        x.response.opened = some (.array ((x.before.sweep.links line).map .text))) :=
  ⟨h.served, eq_of_refused h.served, opened_of_line h.served⟩

def handingPlan : Plan (Option Result) :=
  .call (.openLink "http://a.org") fun _ => .request (App.posting "/api/execute" "command" "open b.org") fun _ =>
    .call (.openLink "http://c.org") fun _ => .done none

def handing : Command := ⟨⟨"hand", "Hand out links", none⟩, fun _ => handingPlan.script⟩

def handingVisits : List (Int × Request) := [(0, App.posting "/api/execute" "command" "hand")]

theorem handing_accounted : ∃ x y : Exchange, Occurs handingVisits (ofCommand handing) x ∧
    Occurs handingVisits (ofCommand handing) y ∧ x.response.status = 409 ∧ x.after = x.before ∧
    x.before.world.opened = ["http://a.org"] ∧
    y.response.opened = some (.array [.text "http://a.org", .text "http://c.org"]) := by
  have hinner : Route.of (App.posting "/api/execute" "command" "open b.org") = .ok (.execute "open b.org") := by
    decide +kernel
  have houter : Route.of (App.posting "/api/execute" "command" "hand") = .ok (.execute "hand") := by decide +kernel
  have hopening := opening_ofCommand (c := handing) (by decide +kernel)
  have hask (prior : List String) (s : Session) :
      (ask (App.posting "/api/execute" "command" "open b.org")).run (perform emit prior) s =
        (.done (.ok .busy), s) := by
    rw [ask, hinner]
    rfl
  have hx : Occurs handingVisits (ofCommand handing) _ :=
    .nested houter rfl hopening rfl (.call (.request (hask [] _)))
  have hposted : (App.posting "/api/execute" "command" "hand").posted? = some .execute := by decide +kernel
  have hhanded : ((ofCommand handing).advance 0).sweep.links "hand" = ["http://a.org", "http://c.org"] := by
    decide +kernel
  have hserved : ((ofCommand handing).serve (App.posting "/api/execute" "command" "hand")).1.response?.map
      Response.status = some 200 := by decide +kernel
  obtain ⟨response, hresponse, hstatus⟩ := Option.map_eq_some_iff.1 hserved
  rcases hserve : (ofCommand handing).serve (App.posting "/api/execute" "command" "hand") with ⟨served, s'⟩
  rw [hserve] at hresponse
  cases served with
  | answered response' =>
      cases hresponse
      have hy : Occurs handingVisits (ofCommand handing) _ := .answered hserve
      obtain ⟨-, hunchanged, -⟩ := exchanges_accounted hx
      obtain ⟨-, -, hopened⟩ := exchanges_accounted hy
      obtain ⟨line, hline, -, hlinks⟩ := hopened hposted hstatus
      cases houter.symm.trans hline
      exact ⟨_, _, hx, hy, rfl, hunchanged (.inr rfl), rfl,
        hlinks.trans (congrArg (fun links => some (Json.array (links.map .text))) hhanded)⟩
  | unsent _ => cases hresponse
  | endless => cases hresponse

end Web

end Terminal
