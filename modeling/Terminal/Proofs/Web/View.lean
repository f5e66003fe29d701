import Terminal.Commands
import Terminal.Proofs.Session.Ledger
import Terminal.Proofs.Web.Plan

/-!
The page and the scrollback. The page is loaded with the scrollback and then follows the responses in the order in
which they arrive, those to the requests of a running command among them. Whenever no command runs, both agree.
-/

namespace Terminal

namespace Session

def wiped (s : Session) : Bool := s.turn.any Turn.cleared

def sweep (s : Session) : Session := { s with world := { s.world with opened := [] } }

theorem wiped_of_amends {P : Change → Prop} {s s' : Session} (h : Amends P s s') (hwiped : s.wiped = true) :
    s'.wiped = true := by
  obtain ⟨cs, -, rfl⟩ := h
  obtain ⟨t, hturn, hcleared⟩ := (Option.any_eq_true _ _).1 hwiped
  simp [wiped, turn_amend, hturn, hcleared]

theorem settle_cases (name : String) (ending : Except Failure (Option Result)) (s : Session) :
    ∃ t s', s.settle name ending = (.settled t, s') ∧ s'.Idle ∧ s'.registry = s.registry ∧
      s'.watcher.hooks = s.watcher.hooks ∧ (t.cleared = false → s.wiped = false) := by
  have hconclude := amends_conclude announces_emit name ending s
  refine ⟨_, _, rfl, idle_settle name ending s, hconclude.registry_eq, hconclude.hooks_eq, ?_⟩
  intro hcleared
  cases hs : s.wiped with
  | false => rfl
  | true =>
      obtain ⟨t, hturn, ht⟩ := (Option.any_eq_true _ _).1 (wiped_of_amends hconclude hs)
      simp [land, hturn, ht] at hcleared

end Session

open Session

namespace Web

def follow (view : List Json) (arrivals : List (Request × Response)) : List Json := arrivals.foldl update view

theorem follow_append (view : List Json) (arrivals later : List (Request × Response)) :
    follow view (arrivals ++ later) = follow (follow view arrivals) later := List.foldl_append

/-- While a command runs the page shows what it showed before, unless the scrollback was emptied meanwhile. -/
structure Pending (before view : List Json) (s : Session) : Prop where
  busy : s.Busy
  harmless : s.Harmless
  shows : s.wiped = false → view = before

namespace Pending

variable {before view : List Json} {s s' : Session}

theorem evolve (h : Pending before view s) (h' : s.Evolves s') : Pending before view s' := by
  refine ⟨h.busy.evolve h', h.harmless.congr h'.hooks_eq, ?_⟩
  intro hwiped
  refine h.shows ?_
  cases hs : s.wiped with
  | false => rfl
  | true => simp [wiped_of_amends h' hs] at hwiped

theorem arrive {arrival : Request × Response} (h : Pending before view s) (h' : s.Evolves s')
    (htells : Tells arrival s s') : Pending before (update view arrival) s' := by
  have hlater := h.evolve h'
  refine ⟨hlater.busy, hlater.harmless, ?_⟩
  intro hwiped
  cases htells with
  | cleared _ =>
      -- the page is empty now and so is the scrollback, but the turn tells that too
      obtain ⟨t, hturn, -⟩ := h.busy.turn
      simp [wiped, Session.clear, hturn] at hwiped
  | added records _ hrunning hupdate =>
      simpa [hupdate, hrunning h.busy.running] using hlater.shows hwiped

theorem arrivals {α : Type} (prior : List String) (plan : Plan α) (h : Pending before view s) :
    Pending before (follow view (plan.arrivals prior s)) (plan.script.run (perform emit prior) s).2 := by
  -- along the plan; the session stays busy, so that no answer can add a record
  induction plan generalizing s view with
  | done a => exact h
  | fail f => exact h
  | endless => exact h
  | call c next ih => exact ih _ (h.evolve (evolves_perform announces_emit prior c s))
  | request r next ih =>
      obtain ⟨answer, s', hrun, htells⟩ := run_ask prior h.harmless r
      have hevolves : s.Evolves s' := by
        simpa [hrun] using evolves_run prior (ask r) s
      have hanswer : Pending before (follow view (answer.toOption.toList.map (r, ·))) s' := by
        cases answer with
        | error obstacle => exact h.evolve hevolves
        | ok response => exact h.arrive hevolves (htells response rfl)
      rw [Plan.run_request hrun, Plan.arrivals_request hrun, follow_append]
      exact ih answer hanswer

end Pending

theorem serve_of_ok {r : Request} {route : Route} (h : Route.of r = .ok route) (s : Session) :
    s.serve r = s.serveRoute route := by
  unfold serve
  rw [h]

theorem serve_of_error {r : Request} {obstacle : Obstacle} (h : Route.of r = .error obstacle) (s : Session) :
    s.serve r = (.unsent obstacle, s) := by
  unfold serve
  rw [h]

theorem serveRoute_eq {route : Route} (h : ∀ line, route ≠ .execute line) (s : Session) :
    s.serveRoute route = match (reply route).run (perform emit []) s with
      | (.done response, s) => (.answered response, s)
      | (_, s) => (.endless, s) := by
  cases route with
  | execute line => exact absurd rfl (h line)
  | _ => rfl

theorem serve_of_execute {r : Request} {line : String} {s : Session} (h : Route.of r = .ok (.execute line))
    (hrunning : s.running = false) :
    s.serve r = match s.sweep.submit line with
      | (.settled t, s) => (.answered (turnJson t s), s)
      | (.busy, s) => (.answered .busy, s)
      | (.endless, s) => (.endless, s) := by
  rw [serve_of_ok h]
  exact if_neg (by simp [hrunning])

def Served.response? : Served → Option Response
  | answered response => some response
  | unsent _ | endless => none

namespace App

variable (app : App)

def nested (line : String) (s : Session) : List (Request × Response) :=
  match s.opening line with
  | (.begun f, s) => (app.plan f.name f.args).arrivals f.prior s
  | (.answered _, _) => []

def nestedIn (route : Route) (s : Session) : List (Request × Response) :=
  match route with
  | .execute line => app.nested line s.sweep
  | _ => []

/-- The responses that arrive from a request until it is answered itself. -/
def arrivals (r : Request) (s : Session) : List (Request × Response) :=
  (Route.of r).toOption.elim [] (app.nestedIn · s) ++ (s.serve r).1.response?.toList.map (r, ·)

def browse : List (Int × Request) → Session × List Json → Option (Session × List Json)
  | [], state => some state
  | (ms, r) :: visits, (s, view) =>
    match (s.advance ms).serve r with
    | (.endless, _) => none
    | (_, s') => browse visits (s', follow view (app.arrivals r (s.advance ms)))

structure Ready (s : Session) : Prop where
  idle : s.Idle
  registry : s.registry = app.registry
  harmless : s.Harmless

variable {app} {s s' : Session}

theorem Ready.congr (h : app.Ready s) (hidle : s'.Idle) (hregistry : s'.registry = s.registry)
    (hhooks : s'.watcher.hooks = s.watcher.hooks) : app.Ready s' :=
  ⟨hidle, hregistry.trans h.registry, h.harmless.congr hhooks⟩

theorem Ready.submit (h : app.Ready s) (line : String) :
    (∃ s', s.submit line = (.endless, s')) ∨
    ∃ t s', s.submit line = (.settled t, s') ∧ app.Ready s' ∧
      ∀ view, t.cleared = false → follow view (app.nested line s) = view := by
  rw [submit_eq, nested]
  rcases opening_cases line s with ⟨hrunning, -⟩ | ⟨-, s₁, hbegins, hanswer | ⟨f, ⟨c, hc, hrest⟩, hbegun⟩⟩
  · simp [h.idle.running] at hrunning
  · right
    rw [hanswer]
    exact ⟨_, _, rfl, h.congr (hbegins.idle_finish h.idle) hbegins.registry hbegins.hooks, fun _ _ => rfl⟩
  · rw [hbegun]
    have hplan : f.rest = (app.plan f.name f.args).script :=
      hrest.trans (app.script_plan (h.registry ▸ hc) f.args)
    have hlaunched (view : List Json) : Pending view view s₁.launch :=
      ⟨hbegins.busy_launch, h.harmless.congr hbegins.hooks, fun _ => rfl⟩
    have hpending (view : List Json) := (hlaunched view).arrivals f.prior (app.plan f.name f.args)
    have hevolves := evolves_run f.prior f.rest s₁.launch
    rw [← hplan] at hpending
    dsimp only [fly]
    cases (f.rest.run (perform emit f.prior) s₁.launch).1.ending? with
    | none => exact .inl ⟨_, rfl⟩
    | some ending =>
        obtain ⟨t, s', hsettle, hidle, hregistry, hhooks, hcleared⟩ := settle_cases f.name ending
          (f.rest.run (perform emit f.prior) s₁.launch).2
        have hregistry' : s'.registry = s.registry :=
          hregistry.trans (hevolves.registry_eq.trans hbegins.registry)
        have hhooks' : s'.watcher.hooks = s.watcher.hooks :=
          hhooks.trans (hevolves.hooks_eq.trans hbegins.hooks)
        exact .inr ⟨t, s', hsettle, h.congr hidle hregistry' hhooks', fun view ht =>
          (hpending view).shows (hcleared ht)⟩

theorem Ready.sweep (h : app.Ready s) : app.Ready s.sweep :=
  ⟨⟨h.idle.phase, h.idle.token, h.idle.turn⟩, h.registry, h.harmless⟩

theorem Ready.serveLine (h : app.Ready s) {r : Request} {line : String} (hroute : Route.of r = .ok (.execute line)) :
    (∃ s', s.serve r = (.endless, s')) ∨
    ∃ t s', s.serve r = (.answered (turnJson t s'), s') ∧ app.Ready s' ∧
      follow (s.scrollback.map recordJson) (app.arrivals r s) = s'.scrollback.map recordJson := by
  have hserve := serve_of_execute hroute h.idle.running
  rcases h.sweep.submit line with ⟨s', hendless⟩ | ⟨t, s', hsettled, hready, hnested⟩
  · exact .inl ⟨s', by rw [hserve, hendless]⟩
  · right
    rw [hsettled] at hserve
    refine ⟨t, s', hserve, hready, ?_⟩
    have harrivals : app.arrivals r s = app.nested line s.sweep ++ [(r, turnJson t s')] := by
      simp [arrivals, hroute, hserve, Except.toOption, nestedIn, Served.response?]
    have hreports : Reports t s.sweep s' := (Scene.returns_of_submit hsettled).reports
    have hturn : follow (s.scrollback.map recordJson) (app.arrivals r s) =
        (if t.cleared then [] else follow (s.scrollback.map recordJson) (app.nested line s.sweep)) ++
          t.records.map recordJson := by
      rw [harrivals, follow_append]
      exact update_turn (Route.posted_of_execute hroute) t s' _
    rw [hturn]
    cases hcleared : t.cleared with
    | true =>
        -- whatever the requests of the command did to the page, the turn replaces it
        simp [hreports.emptied hcleared]
    | false =>
        have hkept : s'.scrollback = s.scrollback ++ t.records := hreports.kept hcleared
        simp [hnested _ hcleared, hkept]

theorem Ready.serveReply (h : app.Ready s) {r : Request} {route : Route} (hroute : Route.of r = .ok route)
    (hline : ∀ line, route ≠ .execute line) :
    ∃ response s', s.serve r = (.answered response, s') ∧ app.Ready s' ∧
      follow (s.scrollback.map recordJson) (app.arrivals r s) = s'.scrollback.map recordJson := by
  obtain ⟨response, s', hrun, htells⟩ := tells_reply [] h.harmless hroute
  have hevolves : s.Evolves s' := by
    simpa [hrun] using evolves_run [] (reply route) s
  have hserve : s.serve r = (.answered response, s') := by
    rw [serve_of_ok hroute, serveRoute_eq hline, hrun]
  have harrivals : app.arrivals r s = [(r, response)] := by
    have hnested : app.nestedIn route s = [] := by
      cases route with
      | execute line => exact absurd rfl (hline line)
      | _ => rfl
    simp [arrivals, hroute, hserve, Except.toOption, hnested, Served.response?]
  refine ⟨response, s', hserve, h.congr (h.idle.evolve hevolves) hevolves.registry_eq hevolves.hooks_eq, ?_⟩
  have hupdate : follow (s.scrollback.map recordJson) (app.arrivals r s) =
      update (s.scrollback.map recordJson) (r, response) := by
    rw [harrivals]
    rfl
  rw [hupdate]
  cases htells with
  | cleared h => simp [h]
  | added records hscrollback _ h => simp [h, hscrollback]

theorem Ready.serve (h : app.Ready s) {r : Request} {served : Served} (hserved : s.serve r = (served, s'))
    (hends : served ≠ .endless) :
    app.Ready s' ∧ follow (s.scrollback.map recordJson) (app.arrivals r s) = s'.scrollback.map recordJson := by
  cases hroute : Route.of r with
  | error obstacle =>
      have hunsent := serve_of_error hroute s
      cases hserved.symm.trans hunsent
      exact ⟨h, by simp [arrivals, hroute, hunsent, Except.toOption, Served.response?, follow]⟩
  | ok route =>
      by_cases hline : ∃ line, route = .execute line
      · obtain ⟨line, rfl⟩ := hline
        rcases h.serveLine hroute with ⟨_, hendless⟩ | ⟨t, _, hanswered, hnext⟩
        · cases hserved.symm.trans hendless
          exact absurd rfl hends
        · cases hserved.symm.trans hanswered
          exact hnext
      · obtain ⟨response, _, hanswered, hnext⟩ := h.serveReply hroute (by simpa using hline)
        cases hserved.symm.trans hanswered
        exact hnext

theorem Ready.endless (h : app.Ready s) {r : Request} (hendless : (s.serve r).1 = .endless) :
    ∃ line, Route.of r = .ok (.execute line) ∧ (s.sweep.submit line).1 = .endless := by
  cases hroute : Route.of r with
  | error obstacle => simp [serve_of_error hroute] at hendless
  | ok route =>
      by_cases hline : ∃ line, route = .execute line
      · obtain ⟨line, rfl⟩ := hline
        refine ⟨line, rfl, ?_⟩
        rw [serve_of_execute hroute h.idle.running] at hendless
        rcases h.sweep.submit line with ⟨s', hsubmit⟩ | ⟨t, s', hsubmit, -⟩
        · rw [hsubmit]
        · simp [hsubmit] at hendless
      · obtain ⟨response, s', hanswered, -⟩ := h.serveReply hroute (by simpa using hline)
        simp [hanswered] at hendless

theorem Ready.browse (h : app.Ready s) (visits : List (Int × Request)) {view : List Json}
    (hbrowse : app.browse visits (s, s.scrollback.map recordJson) = some (s', view)) :
    app.Ready s' ∧ view = s'.scrollback.map recordJson := by
  induction visits generalizing s with
  | nil =>
      cases hbrowse
      exact ⟨h, rfl⟩
  | cons visit visits ih =>
      obtain ⟨ms, r⟩ := visit
      have hadvance : app.Ready (s.advance ms) :=
        ⟨⟨h.idle.phase, h.idle.token, h.idle.turn⟩, h.registry, h.harmless⟩
      unfold App.browse at hbrowse
      split at hbrowse
      · cases hbrowse
      · rename_i served s₁ hends hserved
        obtain ⟨hready, hview⟩ := hadvance.serve hserved hends
        have hview : follow (s.scrollback.map recordJson) (app.arrivals r (s.advance ms)) =
            s₁.scrollback.map recordJson := hview
        rw [hview] at hbrowse
        exact ih hready hbrowse

/-- A page that is loaded where no command runs renders the scrollback, and whatever requests are sent then, well
formed or not, by the page or by running commands: after each of them that the page sends it shows the
scrollback. Each of these is answered unless its command never ends. -/
theorem view_eq_scrollback (h : app.Ready s) :
    (∀ r, Route.of r = .ok .page → ∃ page : Page, s.serve r = (.answered ⟨200, none, some page⟩, s) ∧
      page.appended = (s.scrollback.map recordJson).map fun shown => shown.sorted.writeShielded) ∧
    (∀ visits s' view, app.browse visits (s, s.scrollback.map recordJson) = some (s', view) →
      app.Ready s' ∧ view = s'.scrollback.map recordJson) ∧
    ∀ r, (s.serve r).1 = .endless →
      ∃ line, Route.of r = .ok (.execute line) ∧ (s.sweep.submit line).1 = .endless := by
  refine ⟨?_, fun visits s' view hbrowse => h.browse visits hbrowse, fun r => h.endless⟩
  intro r hroute
  refine ⟨.of s.theme s.prompt s.scrollback, ?_, by simp [Page.of]⟩
  rw [serve_of_ok hroute]
  rfl

theorem ready_start (app : App) (config : Config) (files : Tree) (log : Log) (world : World) :
    app.Ready ((start config files app.registry log world).welcome emit) := by
  have hstart : app.Ready (start config files app.registry log world) :=
    ⟨idle_start config files app.registry log world, rfl, by simp [Harmless, start]⟩
  have hevolves : Evolves _ _ := evolves_act announces_emit .welcome (start config files app.registry log world)
  exact hstart.congr (hstart.idle.evolve hevolves) hevolves.registry_eq hevolves.hooks_eq

def posting (path field value : String) : Request :=
  ⟨"POST", path, some "application/json", "\x7b\"" ++ field ++ "\": \"" ++ value ++ "\"\x7d"⟩

def nesting : Plan (Option Result) :=
  .call (.print "first") fun _ => .request (posting "/api/clear" "now" "") fun _ =>
    .request (posting "/api/execute" "command" "nest") fun _ => .call (.print "last") fun _ => .done none

def nestingApp : App := (ofRegistry Registry.standard).add ⟨"nest", "Send requests", none⟩ fun _ => nesting

def nestingSession : Session :=
  (start {} (.seeded 0) nestingApp.registry (.empty none) { wall := 0 }).welcome emit

def nestingVisits : List (Int × Request) :=
  [(0, posting "/api/execute" "command" "nest"), (40, posting "/api/interrupt" "line" "ne"),
    (40, posting "/api/execute" "command" "echo again"), (0, posting "/api/complete" "text" "ne")]

theorem nesting_followed :
    (∃ page : Page, nestingSession.serve ⟨"GET", "/", none, ""⟩ =
        (.answered ⟨200, none, some page⟩, nestingSession) ∧
      page.appended = (nestingSession.scrollback.map recordJson).map fun shown => shown.sorted.writeShielded) ∧
    ∃ s' view, nestingApp.browse nestingVisits (nestingSession, nestingSession.scrollback.map recordJson) =
        some (s', view) ∧
      s'.scrollback.map Record.text = ["last", "ne^C", "echo again", "again"] ∧
      view = s'.scrollback.map recordJson := by
  have hready : nestingApp.Ready nestingSession := ready_start nestingApp _ _ _ _
  have hpage : Route.of ⟨"GET", "/", none, ""⟩ = .ok .page := rfl
  have hends : ((nestingApp.browse nestingVisits
      (nestingSession, nestingSession.scrollback.map recordJson)).map
      fun state => state.1.scrollback.map Record.text) = some ["last", "ne^C", "echo again", "again"] := by
    decide +kernel
  obtain ⟨⟨s', view⟩, hbrowse, htexts⟩ := Option.map_eq_some_iff.1 hends
  exact ⟨(view_eq_scrollback hready).1 _ hpage, s', view, hbrowse, htexts,
    ((view_eq_scrollback hready).2.1 _ _ _ hbrowse).2⟩

end App

end Web

end Terminal
