import Terminal.Proofs.Session.Effect
import Terminal.Web.Service

namespace Terminal

namespace Session

def Harmless (s : Session) : Prop := ∀ h ∈ s.watcher.hooks, h.action ≠ .clear

variable {s s' : Session}

theorem Harmless.congr (h : s.Harmless) (hhooks : s'.watcher.hooks = s.watcher.hooks) : s'.Harmless := by
  simpa [Harmless, hhooks] using h

theorem not_clear_of_may {running : Bool} {a : Action} {c : Change} (ha : a ≠ .clear) (h : a.May running c) :
    c.notice? ≠ some .clear := by
  cases h with
  | clear => exact absurd rfl ha
  | _ => simp [Change.notice?]

theorem scrollback_act (hs : s.Harmless) {a : Action} (ha : a ≠ .clear) :
    ∃ added, (s.act emit a).2.scrollback = s.scrollback ++ added := by
  obtain ⟨cs, hcs, hact⟩ := amends_act announces_emit a s
  have hclear : Notice.clear ∉ told cs := by
    intro hmem
    obtain ⟨c, hc, hnotice⟩ := List.mem_filterMap.1 hmem
    rcases hcs c hc with hmay | ⟨h, hh, hmay | ⟨reply, rfl⟩⟩
    · exact not_clear_of_may ha hmay hnotice
    · exact not_clear_of_may (hs h hh) hmay hnotice
    · cases hnotice
  exact ⟨Notice.replay [] (told cs), by rw [hact, scrollback_amend, Notice.replay_of_no_clear hclear]⟩

theorem complete_of_running (line : String) (h : s.running = true) :
    (s.act emit (.complete line)).2.scrollback = s.scrollback := by
  simp [act, complete, h]

theorem interrupt_of_running (line : String) (h : s.running = true) :
    (s.act emit (.interrupt line)).2.scrollback = s.scrollback := by
  simp [act, interrupt, h, cancel_snd]

end Session

open Session

namespace Web

namespace Response

def lines (r : Response) : List Json :=
  match r.body.bind (Json.field? "lines") with
  | some (.array items) => items
  | _ => []

def cleared (r : Response) : Bool :=
  match r.body.bind (Json.field? "cleared") with
  | some (.bool b) => b
  | _ => false

theorem lines_ok {fields : List (String × Json)} {items : List Json}
    (h : fields.lookup "lines" = some (.array items)) : (ok fields).lines = items := by
  simp [ok, lines, Json.field?, h]

end Response

def Request.posted? (r : Request) : Option Endpoint :=
  if String.ofList (r.method.toList.map Char.toUpper) = "POST" then
    (Route.location r).toOption.bind Endpoint.ofPath?
  else none

def update (view : List Json) (arrival : Request × Response) : List Json :=
  if arrival.2.status = 200 then
    match arrival.1.posted? with
    | some .execute => (if arrival.2.cleared then [] else view) ++ arrival.2.lines
    | some .complete | some .interrupt => view ++ arrival.2.lines
    | some .clear => []
    | _ => view
  else view

theorem update_of_status {arrival : Request × Response} (h : arrival.2.status ≠ 200) (view : List Json) :
    update view arrival = view := if_neg h

theorem update_of_read {r : Request} (h : ∀ e : Endpoint, r.posted? = some e → e.isRead = true)
    (view : List Json) (response : Response) : update view (r, response) = view := by
  rw [update]
  split
  · split
    · rename_i he
      cases h _ he
    · rename_i he
      cases h _ he
    · rename_i he
      cases h _ he
    · rename_i he
      cases h _ he
    · rfl
  · rfl

theorem update_turn {r : Request} (hposted : r.posted? = some .execute) (t : Turn) (s : Session)
    (view : List Json) :
    update view (r, turnJson t s) = (if t.cleared then [] else view) ++ t.records.map recordJson := by
  simp [update, hposted, turnJson, Response.ok, Response.cleared, Response.lines, Json.field?,
    List.lookup_cons, recordsJson]

namespace Route

def bystanders : List Route := [.page, .status, .bare, .noSuchPage, .wrongMethod, .moved]

theorem astray_mem (method : String) (path : List Char) : astray method path ∈ bystanders := by
  rw [astray]
  split
  · split
    · simp [bystanders]
    · split <;> simp [bystanders]
  · split <;> simp [bystanders]

theorem route_of_isRead {e : Endpoint} (h : e.isRead = true) (r : Request) : e.route r ∈ bystanders := by
  cases e <;> simp_all [Endpoint.isRead, Endpoint.route, bystanders]

theorem of_eq_ok {r : Request} {route : Route} (h : of r = .ok route) :
    ∃ path, location r = .ok path ∧
      let method := String.ofList (r.method.toList.map Char.toUpper)
      route = match Endpoint.ofPath? path with
        | some e => if e.takes method then arrived method r e else astray method path
        | none => astray method path := by
  cases hlocation : location r with
  | error flaw => simp [of, hlocation, Obstacle.orFlaw, bind, Except.bind] at h
  | ok path =>
      cases hheader : checkHeader r with
      | error obstacle => simp [of, hlocation, hheader, Obstacle.orFlaw, bind, Except.bind] at h
      | ok u =>
          refine ⟨path, rfl, ?_⟩
          simp only [of, hlocation, hheader, Obstacle.orFlaw, bind, Except.bind, pure, Except.pure] at h
          cases he : Endpoint.ofPath? path with
          | none => simpa [he] using h.symm
          | some e => simpa [he] using h.symm

theorem of_cases {r : Request} {route : Route} (h : of r = .ok route) :
    (∃ e : Endpoint, e.isRead = false ∧ r.posted? = some e ∧ route = e.route r) ∨
    (∀ e : Endpoint, r.posted? = some e → e.isRead = true) ∧ route ∈ bystanders := by
  obtain ⟨path, hlocation, hroute⟩ := of_eq_ok h
  have hposted (e : Endpoint) : r.posted? = some e ↔
      String.ofList (r.method.toList.map Char.toUpper) = "POST" ∧ Endpoint.ofPath? path = some e := by
    simp [Request.posted?, hlocation, Except.toOption]
  generalize String.ofList (r.method.toList.map Char.toUpper) = method at hroute hposted
  cases he : Endpoint.ofPath? path with
  | none =>
      refine .inr ⟨by simp [hposted, he], ?_⟩
      simpa [he, hroute] using astray_mem method path
  | some e =>
      simp only [he] at hroute
      cases hread : e.isRead with
      | true =>
          refine .inr ⟨by simp [hposted, he, hread], ?_⟩
          rw [hroute]
          split
          · rw [arrived]
            split
            · simp [bystanders]
            · exact route_of_isRead hread r
          · exact astray_mem method path
      | false =>
          -- of the two methods that such an endpoint takes, the other one is answered without doing anything
          by_cases hpost : method = "POST"
          · subst hpost
            refine .inl ⟨e, hread, (hposted e).2 ⟨rfl, he⟩, ?_⟩
            simpa [Endpoint.takes, hread, arrived] using hroute
          · refine .inr ⟨by simp [hposted, hpost], ?_⟩
            rw [hroute]
            split
            · rename_i htakes
              have hoptions : method = "OPTIONS" := by simpa [Endpoint.takes, hread, hpost] using htakes
              simp [arrived, hoptions, bystanders]
            · exact astray_mem method path

theorem withField_cases (r : Request) (key : String) (f : String → Route) :
    withField r key f = missing key ∨ withField r key f = broken ∨ ∃ value, withField r key f = f value := by
  rw [withField]
  split
  · exact .inl rfl
  · exact .inr (.inl rfl)
  · split
    · exact .inr (.inr ⟨_, rfl⟩)
    · exact .inl rfl

theorem withField_ne {r : Request} {key : String} {f : String → Route} {route : Route}
    (hf : ∀ value, f value ≠ route) (hmissing : missing key ≠ route) (hbroken : broken ≠ route) :
    withField r key f ≠ route := by
  rcases withField_cases r key f with h | h | ⟨value, h⟩
  · exact h ▸ hmissing
  · exact h ▸ hbroken
  · exact h ▸ hf value

theorem posted_of_execute {r : Request} {line : String} (h : of r = .ok (.execute line)) :
    r.posted? = some .execute := by
  rcases of_cases h with ⟨e, hread, hposted, hroute⟩ | ⟨-, hmem⟩
  · cases e with
    | execute => exact hposted
    | complete => exact absurd hroute.symm (withField_ne (by simp) (by simp) (by simp))
    | interrupt => exact absurd hroute.symm (withField_ne (by simp) (by simp) (by simp))
    | history =>
        refine absurd hroute.symm (withField_ne ?_ (by simp) (by simp))
        intro direction
        rw [ofDirection]
        split
        · simp
        · split <;> simp
    | _ => cases hroute
  · simp [bystanders] at hmem

end Route

/-- What a response says of the step that the session takes for it. -/
inductive Tells (arrival : Request × Response) (s : Session) : Session → Prop
  | cleared : (∀ view, update view arrival = []) → Tells arrival s s.clear
  | added {s' : Session} (records : List Record) :
      s'.scrollback = s.scrollback ++ records → (s.running = true → records = []) →
      (∀ view, update view arrival = view ++ records.map recordJson) → Tells arrival s s'

namespace Tells

variable {r : Request} {response : Response} {s s' : Session}

theorem nothing (hscrollback : s'.scrollback = s.scrollback) (hupdate : ∀ view, update view (r, response) = view) :
    Tells (r, response) s s' :=
  .added [] (by simpa using hscrollback) (fun _ => rfl) (by simpa using hupdate)

theorem ofLines {records : List Record} (hposted : r.posted? = some .complete ∨ r.posted? = some .interrupt)
    (hstatus : response.status = 200) (hlines : response.lines = records.map recordJson)
    (hscrollback : s'.scrollback = s.scrollback ++ records)
    (hrunning : s.running = true → s'.scrollback = s.scrollback) : Tells (r, response) s s' := by
  refine .added records hscrollback ?_ ?_
  · intro h
    simpa [hscrollback] using hrunning h
  · intro view
    rcases hposted with hposted | hposted <;> simp [update, hstatus, hposted, hlines]

end Tells

section

variable {r : Request} {s : Session} (prior : List String)

theorem tells_bystander {route : Route} (hroute : route ∈ Route.bystanders)
    (hread : ∀ e : Endpoint, r.posted? = some e → e.isRead = true) :
    ∃ response, (reply route).run (perform emit prior) s = (.done response, s) ∧ Tells (r, response) s s := by
  have hrun : ∃ response, (reply route).run (perform emit prior) s = (.done response, s) := by
    simp only [Route.bystanders, List.mem_cons, List.not_mem_nil, or_false] at hroute
    rcases hroute with rfl | rfl | rfl | rfl | rfl | rfl <;> exact ⟨_, rfl⟩
  obtain ⟨response, hrun⟩ := hrun
  exact ⟨response, hrun, .nothing rfl fun view => update_of_read hread view response⟩

theorem tells_field {key : String} {f : String → Route}
    (hf : ∀ value, ∃ response s', (reply (f value)).run (perform emit prior) s = (.done response, s') ∧
      Tells (r, response) s s') :
    ∃ response s', (reply (Route.withField r key f)).run (perform emit prior) s = (.done response, s') ∧
      Tells (r, response) s s' := by
  rcases Route.withField_cases r key f with hmissing | hbroken | ⟨value, hvalue⟩
  · rw [hmissing]
    exact ⟨_, s, rfl, .nothing rfl (update_of_status (by simp [Response.missing, Response.problem]))⟩
  · rw [hbroken]
    exact ⟨_, s, rfl, .nothing rfl (update_of_status (by simp))⟩
  · rw [hvalue]
    exact hf value

theorem addedSince_glance {s' : Session} {records : List Record}
    (h : s'.scrollback = s.scrollback ++ records) :
    addedSince s.scrollback.length s'.glance = .array (records.map recordJson) := by
  simp [addedSince, recordsJson, glance, h]

theorem tells_reply (hs : s.Harmless) {route : Route} (h : Route.of r = .ok route) :
    ∃ response s', (reply route).run (perform emit prior) s = (.done response, s') ∧
      Tells (r, response) s s' := by
  rcases Route.of_cases h with ⟨e, hread, hposted, rfl⟩ | ⟨hread, hroute⟩
  · cases e with
    | execute =>
        refine tells_field prior fun line => ?_
        exact ⟨_, s, rfl, .nothing rfl (update_of_status (by simp [Response.busy, Response.problem]))⟩
    | complete =>
        refine tells_field prior fun line => ?_
        obtain ⟨records, hadded⟩ := scrollback_act hs (a := .complete line) (by simp)
        refine ⟨_, _, rfl, .ofLines (.inl hposted) rfl ?_ hadded (complete_of_running line)⟩
        exact Response.lines_ok (congrArg some (addedSince_glance hadded))
    | interrupt =>
        refine tells_field prior fun line => ?_
        obtain ⟨records, hadded⟩ := scrollback_act hs (a := .interrupt line) (by simp)
        refine ⟨_, _, rfl, .ofLines (.inr hposted) rfl ?_ hadded (interrupt_of_running line)⟩
        exact Response.lines_ok (congrArg some (addedSince_glance hadded))
    | history =>
        refine tells_field prior fun direction => ?_
        have hupdate (response : Response) (view : List Json) : update view (r, response) = view := by
          simp [update, hposted]
        rw [Route.ofDirection]
        split
        · exact ⟨_, _, rfl, .nothing rfl (hupdate _)⟩
        · split
          · exact ⟨_, _, rfl, .nothing rfl (hupdate _)⟩
          · exact ⟨_, _, rfl, .nothing rfl (hupdate _)⟩
    | clear => exact ⟨_, _, rfl, .cleared fun view => by simp [update, hposted, Response.ok]⟩
    | theme => exact ⟨_, _, rfl, .nothing rfl fun view => by simp [update, hposted]⟩
    | _ => cases hread
  · obtain ⟨response, hrun, htells⟩ := tells_bystander prior hroute hread
    exact ⟨response, s, hrun, htells⟩

end

end Web

end Terminal
