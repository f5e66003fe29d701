import Terminal.Proofs.Commands.Footprint
import Terminal.Proofs.Path.Settle
import Terminal.Proofs.Session.Exclusion
import Terminal.Proofs.Session.Files

/-!
Where a session is. Its directory is always written canonically, and the variables that a session begins with stay.
`PWD` names the directory whenever no command stands between setting the variable and moving there, which only
`set PWD=...` ever does.
-/

namespace Terminal

def Call.assignsPwd : Call → Bool
  | .setVariable key _ => key == "PWD"
  | _ => false

def Call.moves : Call → Bool
  | .moveTo _ => true
  | _ => false

namespace Script

variable {α : Type}

def moves : Script α → Bool
  | .call c _ => c.moves
  | _ => false

def Mirrors : Script α → Prop
  | .call c next => ∀ r, (next r).Mirrors ∧ (c.assignsPwd = true → (next r).moves = true)
  | _ => True

theorem mirrors_of_calls {script : Script α} (h : script.Calls fun c => c.assignsPwd = false) : script.Mirrors := by
  induction script with
  | call c next ih =>
      obtain ⟨hc, hnext⟩ := h
      intro r
      refine ⟨ih r (hnext r), fun hassigns => ?_⟩
      rw [hc] at hassigns
      cases hassigns
  | _ => trivial

end Script

namespace Commands

theorem mirrors_set (args : List String) : (set args).Mirrors := by
  dsimp only [set]
  split
  · trivial
  · rename_i key value _
    intro _
    by_cases hkey : key = "PWD"
    · rw [if_pos hkey]
      exact ⟨fun _ => ⟨trivial, nofun⟩, fun _ => rfl⟩
    · rw [if_neg hkey]
      exact ⟨trivial, fun hassigns => absurd (by simpa [Call.assignsPwd] using hassigns) hkey⟩

theorem assignsPwd_of_footprint {name : String} {c : Call} (h : Footprint name c) (hname : name ≠ "set") :
    c.assignsPwd = false := by
  cases h with
  | assign key value => exact absurd rfl hname
  | leave path => exact (by decide : ("OLDPWD" == "PWD") = false)
  | theme label => exact (by decide : ("THEME" == "PWD") = false)
  | _ => rfl

theorem mirrors_builtin {name : String} {c : Command} (h : Registry.builtin.get? name = some c)
    (args : List String) : (c.handler args).Mirrors := by
  obtain ⟨b, hb, hhandler, -⟩ := handler_builtin h
  rw [hhandler]
  by_cases hset : b.info.name = "set"
  · have hb' : ∀ b ∈ builtins, b.info.name = "set" → ∀ args, (b.handler args).Mirrors := by
      simp only [builtins, List.forall_mem_cons]
      simp [mirrors_set]
    exact hb' b hb hset args
  · exact Script.mirrors_of_calls ((calls_builtins hb args).mono fun c hc => assignsPwd_of_footprint hc hset)

end Commands

namespace Session

def standing : List String := ["USER", "HOST", "SHELL", "PWD", "THEME"]

structure Placed (s : Session) : Prop where
  canonical : Path.Canonical s.cwd
  standing : ∀ key ∈ standing, s.env.has key = true

def Mirrored (s : Session) : Prop := s.env.get? "PWD" = some s.cwd

def Change.assignsPwd : Change → Bool
  | .assign key _ => key == "PWD"
  | _ => false

structure Homing (s s' : Session) : Prop where
  placed : s.Placed → s'.Placed
  mirrored : s.Mirrored → s'.Mirrored

namespace Homing

variable {s s' s'' : Session}

theorem of_eq (hcwd : s'.cwd = s.cwd) (henv : s'.env = s.env) : s.Homing s' where
  placed h := ⟨hcwd ▸ h.canonical, henv ▸ h.standing⟩
  mirrored h := by
    rw [Mirrored, hcwd, henv]
    exact h

theorem trans (h : s.Homing s') (h' : s'.Homing s'') : s.Homing s'' :=
  ⟨h'.placed ∘ h.placed, h'.mirrored ∘ h.mirrored⟩

end Homing

theorem mirrored_moveTo (path : String) (s : Session) : (s.moveTo path).Mirrored :=
  Table.get?_put_self _ _ _

theorem placed_apply (c : Change) {s : Session} (h : s.Placed) : (c.apply s).Placed := by
  have hput (key value : String) : ∀ k ∈ standing, (s.env.put key value).has k = true :=
    fun k hk => Table.has_put (h.standing k hk) key value
  cases c with
  | move path => exact ⟨Path.canonical_normalize _, hput _ _⟩
  | assign key value => exact ⟨h.canonical, hput _ _⟩
  | _ => exact ⟨h.canonical, h.standing⟩

theorem mirrored_apply {c : Change} (hc : c.assignsPwd = false) {s : Session} (h : s.Mirrored) :
    (c.apply s).Mirrored := by
  cases c with
  | move path => exact mirrored_moveTo path s
  | assign key value =>
      have hkey : key ≠ "PWD" := by simpa [Change.assignsPwd] using hc
      exact (Table.get?_put_of_ne s.env value hkey).trans h
  | _ => exact h

variable {P : Change → Prop} {s s' : Session}

theorem Amends.placed (h : Amends P s s') (hs : s.Placed) : s'.Placed :=
  h.relates (R := fun s s' => s.Placed → s'.Placed) (fun _ hs => hs) (fun h h' => h' ∘ h)
    (fun c _ _ => placed_apply c) hs

theorem Amends.homing (h : Amends P s s') (hP : ∀ c, P c → c.assignsPwd = false) : s.Homing s' :=
  h.relates (fun _ => .of_eq rfl rfl) Homing.trans fun c hc _ => ⟨placed_apply c, mirrored_apply (hP c hc)⟩

theorem assignsPwd_of_may {a : Action} {running : Bool} {c : Change} (h : a.May running c) : c.assignsPwd = false := by
  cases h with
  | theme label => exact (by decide : ("THEME" == "PWD") = false)
  | _ => rfl

theorem Heeds.assignsPwd {c : Change} (h : s.Heeds c) : c.assignsPwd = false := by
  obtain ⟨hook, -, hmay | ⟨reply, rfl⟩⟩ := h
  · exact assignsPwd_of_may hmay
  · rfl

theorem homing_emit (r : Record) (s : Session) : s.Homing (emit r s) := by
  refine (amends_emit announces_emit r s).homing ?_
  rintro c (rfl | hc)
  · rfl
  · exact hc.assignsPwd

theorem homing_act (a : Action) (s : Session) : s.Homing (s.act emit a).2 := by
  refine (amends_act announces_emit a s).homing ?_
  rintro c (hmay | hc)
  · exact assignsPwd_of_may hmay
  · exact hc.assignsPwd

theorem homing_perform {c : Call} (hc : c.assignsPwd = false) (prior : List String) (s : Session) :
    s.Homing (s.perform emit prior c).2 := by
  refine (amends_perform announces_emit prior c s).homing ?_
  rintro d (hmay | hd)
  · cases hmay with
    | setVariable key value => exact hc
    | act hact => exact assignsPwd_of_may hact
    | _ => rfl
  · exact hd.assignsPwd

theorem homing_settle (name : String) (ending : Except Failure (Option Result)) (s : Session) :
    s.Homing (s.settle name ending).2 := by
  have hconclude : s.Homing (s.conclude emit name ending) := by
    refine (amends_conclude announces_emit name ending s).homing ?_
    rintro c (hmay | hc)
    · rcases hmay.kinds with rfl | ⟨level, message, rfl⟩ | ⟨text, rfl⟩ | ⟨r, -, hr⟩
      · rfl
      · rfl
      · rfl
      · cases hr <;> rfl
    · exact hc.assignsPwd
  exact hconclude.trans (.of_eq rfl rfl)

theorem homing_opening (line : String) (s : Session) : s.Homing (s.opening line).2 := by
  refine opening_induction (P := s.Homing) ?_ ?_ (.of_eq rfl rfl) line
  · exact fun t _ _ _ _ _ _ h => h.trans (.of_eq rfl rfl)
  · exact fun r t _ h => h.trans (homing_emit r t)

/-- If the session is out of step with `PWD`, the rest of the script sets this right at once. -/
def InStep (script : Script (Option Result)) (s : Session) : Prop :=
  script.Mirrors ∧ (script.moves = false → s.Mirrored)

theorem InStep.perform {c : Call} {next : c.Reply → Script (Option Result)} (h : InStep (.call c next) s)
    (prior : List String) : InStep (next (s.perform emit prior c).1) (s.perform emit prior c).2 := by
  obtain ⟨hmirrors, hs⟩ := h
  obtain ⟨hnext, hmoves⟩ := hmirrors (s.perform emit prior c).1
  refine ⟨hnext, fun hstays => ?_⟩
  have hassigns : c.assignsPwd = false := by
    cases ha : c.assignsPwd with
    | false => rfl
    | true => rw [hmoves ha] at hstays; cases hstays
  by_cases hc : c.moves = true
  · cases c with
    | moveTo path => exact mirrored_moveTo path s
    | _ => cases hc
  · exact (homing_perform hassigns prior s).mirrored (hs (Bool.eq_false_iff.2 hc))

theorem InStep.run {script : Script (Option Result)} (h : InStep script s) (prior : List String) :
    (script.run (Session.perform emit prior) s).2.Mirrored := by
  induction script generalizing s with
  | call c next ih => exact ih _ (h.perform prior)
  | done a => exact h.2 rfl
  | fail f => exact h.2 rfl
  | endless => exact h.2 rfl

theorem InStep.homing {script : Script (Option Result)} (h : InStep script s) (h' : s.Homing s') : InStep script s' :=
  ⟨h.1, fun hstays => h'.mirrored (h.2 hstays)⟩

theorem inStep_begun {line : String} {f : Flight} (h : s.opening line = (.begun f, s')) (hs : s.Mirrored)
    (hregistry : s.registry = .builtin) : InStep f.rest s' := by
  obtain ⟨-, -, -, ⟨c, hc, hrest⟩, -⟩ := opening_begun h
  have hopening := homing_opening line s
  rw [h] at hopening
  refine ⟨?_, fun _ => hopening.mirrored hs⟩
  rw [hrest]
  exact Commands.mirrors_builtin (hregistry ▸ hc) f.args

theorem registry_settle (name : String) (ending : Except Failure (Option Result)) (s : Session) :
    (s.settle name ending).2.registry = s.registry := (amends_conclude announces_emit name ending s).registry_eq

/-- The session is where its variables say, and they all stand. -/
structure Homed (s : Session) : Prop where
  placed : s.Placed
  mirrored : s.Mirrored

theorem Homed.homing (h : s.Homed) (h' : s.Homing s') : s'.Homed := ⟨h'.placed h.placed, h'.mirrored h.mirrored⟩

theorem homed_start (config : Config) (files : Tree) (registry : Registry) (log : Log) (world : World) :
    (start config files registry log world).Homed := by
  refine ⟨⟨Path.canonical_normalize config.home, ?_⟩, Table.get?_put_self _ _ _⟩
  intro key hkey
  exact Table.has_put (Table.has_ofList hkey) "PWD" _

inductive Input where
  | line (text : String)
  | action (a : Action)
  | edit (op : FileOp)
  | advance (ms : Int)
  | watch (hooks : List Hook)

def receive (s : Session) : Input → Session
  | .line text => (s.submit text).2
  | .action a => (s.act emit a).2
  | .edit op => (s.edit op).2
  | .advance ms => s.advance ms
  | .watch hooks => s.watch hooks

theorem homed_fly {f : Flight} (h : InStep f.rest s) (hs : s.Placed) : (s.fly f).2.Homed := by
  have hmirrored := h.run f.prior
  have hplaced : (f.rest.run (perform emit f.prior) s).2.Placed :=
    Script.run_keeps (P := Placed) (fun c s hs => (amends_perform announces_emit f.prior c s).placed hs) f.rest hs
  dsimp only [fly]
  split
  · exact Homed.homing ⟨hplaced, hmirrored⟩ (homing_settle _ _ _)
  · exact ⟨hplaced, hmirrored⟩

theorem registry_fly (f : Flight) (s : Session) : (s.fly f).2.registry = s.registry := by
  have hrun : (f.rest.run (perform emit f.prior) s).2.registry = s.registry :=
    Script.run_keeps (P := fun s' => s'.registry = s.registry)
      (fun c s hs => (evolves_perform announces_emit f.prior c s).registry_eq.trans hs) f.rest rfl
  dsimp only [fly]
  split
  · exact (registry_settle _ _ _).trans hrun
  · exact hrun

theorem homed_submit (line : String) (h : s.Homed) (hregistry : s.registry = .builtin) :
    (s.submit line).2.Homed ∧ (s.submit line).2.registry = .builtin := by
  have hopening := homing_opening line s
  have hkept := (opening_keeps line s).1
  rw [submit_eq]
  rcases ho : s.opening line with ⟨o | f, s'⟩
  · rw [ho] at hopening hkept
    exact ⟨h.homing hopening, hkept.trans hregistry⟩
  · rw [ho] at hopening hkept
    have hstep := inStep_begun ho h.mirrored hregistry
    exact ⟨homed_fly hstep (hopening.placed h.placed), (registry_fly f s').trans (hkept.trans hregistry)⟩

theorem homed_receive (i : Input) (h : s.Homed ∧ s.registry = .builtin) :
    (s.receive i).Homed ∧ (s.receive i).registry = .builtin := by
  obtain ⟨hs, hregistry⟩ := h
  cases i with
  | line text => exact homed_submit text hs hregistry
  | action a => exact ⟨hs.homing (homing_act a s), (evolves_act announces_emit a s).registry_eq.trans hregistry⟩
  | edit op => exact ⟨hs.homing (.of_eq rfl rfl), hregistry⟩
  | advance ms => exact ⟨hs.homing (.of_eq rfl rfl), hregistry⟩
  | watch hooks => exact ⟨hs.homing (.of_eq rfl rfl), hregistry⟩

theorem homed_receiveAll (inputs : List Input) (h : s.Homed) (hregistry : s.registry = .builtin) :
    (inputs.foldl receive s).Homed := by
  induction inputs generalizing s with
  | nil => exact h
  | cons i inputs ih =>
      obtain ⟨hs, hs'⟩ := homed_receive i ⟨h, hregistry⟩
      exact ih hs hs'

end Session

open Session

namespace Scene

structure Homely (m : Scene) : Prop where
  orderly : m.Orderly
  registry : m.session.registry = .builtin
  placed : m.session.Placed
  inStep : ∀ f ∈ m.flights, InStep f.rest m.session
  mirrored : m.flights = [] → m.session.Mirrored

variable {m m' : Scene}

theorem Homely.homing (h : m.Homely) (horderly : m'.Orderly) (hregistry : m'.session.registry = m.session.registry)
    (hs : m.session.Homing m'.session) (hflights : m'.flights = m.flights) : m'.Homely where
  orderly := horderly
  registry := hregistry.trans h.registry
  placed := hs.placed h.placed
  inStep f hf := (h.inStep f (hflights ▸ hf)).homing hs
  mirrored hnone := hs.mirrored (h.mirrored (hflights ▸ hnone))

theorem Homely.step {e : Event} (h : m.Homely) (he : e ≠ .abandon) (hstep : Step m e m') : m'.Homely := by
  have horderly := h.orderly.step hstep
  cases hstep with
  | @answered s s' fs line o ho =>
      have hopening := homing_opening line s
      have hregistry := (opening_keeps line s).1
      rw [ho] at hopening hregistry
      exact h.homing horderly hregistry hopening rfl
  | @begun s s' fs line f hf =>
      have hopening := homing_opening line s
      have hregistry := (opening_keeps line s).1
      rw [hf] at hopening hregistry
      obtain ⟨hrunning, -⟩ := opening_begun hf
      obtain rfl : fs = [] := (h.orderly.idle hrunning).2
      refine ⟨horderly, hregistry.trans h.registry, hopening.placed h.placed, ?_, by simp⟩
      intro g hg
      cases List.mem_singleton.1 hg
      exact inStep_begun hf (h.mirrored rfl) h.registry
  | @call s before after f c next hrest =>
      have hperform := amends_perform announces_emit f.prior c s
      -- no other handler is between setting the variable and moving
      obtain ⟨-, rfl, rfl⟩ := h.orderly.alone
      refine ⟨horderly, hperform.registry_eq.trans h.registry, hperform.placed h.placed, ?_, by simp⟩
      intro g hg
      cases List.mem_singleton.1 hg
      have hf : InStep (.call c next) s := hrest ▸ h.inStep f (by simp)
      exact hf.perform f.prior
  | @finish s s' before after f ending t hrest hsettle =>
      have hsettled := homing_settle f.name ending s
      have hregistry := registry_settle f.name ending s
      rw [hsettle] at hsettled hregistry
      obtain ⟨-, rfl, rfl⟩ := h.orderly.alone
      have hstays : f.rest.moves = false := by
        cases hf : f.rest with
        | call c next => rw [hf] at hrest; cases hrest
        | _ => rfl
      have hs : s.Mirrored := (h.inStep f (by simp)).2 hstays
      exact ⟨horderly, hregistry.trans h.registry, hsettled.placed h.placed, by simp, fun _ => hsettled.mirrored hs⟩
  | abandon _ _ => exact absurd rfl he
  | @act s fs a =>
      exact h.homing horderly (evolves_act announces_emit a s).registry_eq (homing_act a s) rfl
  | edit op => exact h.homing horderly rfl (.of_eq rfl rfl) rfl
  | advance ms => exact h.homing horderly rfl (.of_eq rfl rfl) rfl
  | watch hooks => exact h.homing horderly rfl (.of_eq rfl rfl) rfl

/-- Whatever a session with the built-in commands receives, it stands in a canonical directory that `PWD` names, and
the variables it began with are there. This also holds while a command waits and clients act, as long as the command
is not about to move. -/
theorem homed_ever (config : Config) (files : Tree) (log : Log) (world : World) :
    (∀ inputs : List Input, (inputs.foldl receive (start config files .builtin log world)).Homed) ∧
    ∀ es m, Run ⟨start config files .builtin log world, []⟩ es m → .abandon ∉ es →
      (∀ f ∈ m.flights, f.rest.moves = false) → m.session.Homed := by
  have hstart := homed_start config files .builtin log world
  refine ⟨fun inputs => homed_receiveAll inputs hstart rfl, ?_⟩
  intro es m hrun hes hstays
  have hbegin : (Scene.mk (start config files .builtin log world) []).Homely :=
    ⟨.inl ⟨idle_start _ _ _ _ _, rfl⟩, rfl, hstart.placed, by simp, fun _ => hstart.mirrored⟩
  have hm : m.Homely := hrun.keeps (fun n e n' he hstep hn => hn.step (fun h => hes (h ▸ he)) hstep) hbegin
  refine ⟨hm.placed, ?_⟩
  rcases hm.orderly with ⟨-, hnone⟩ | ⟨-, hone⟩
  · exact hm.mirrored (List.length_eq_zero_iff.1 hnone)
  · obtain ⟨f, hf⟩ := List.length_eq_one_iff.1 hone
    have hmem : f ∈ m.flights := by simp [hf]
    exact (hm.inStep f hmem).2 (hstays f hmem)

def astray : Session :=
  start { home := "srv\\.\\a/../b//" } (.seeded 0) .builtin (.empty none) { wall := 0 }

theorem astray_homed : astray.cwd = "/srv/b" ∧ (astray.moveTo "..\\c").cwd = "/srv/c" ∧
    (astray.moveTo "..\\c").Homed := by
  have hrun : Run ⟨astray, []⟩ [.act (.moveTo "..\\c") ()] ⟨astray.moveTo "..\\c", []⟩ :=
    .cons (.act (.moveTo "..\\c")) .nil
  exact ⟨by decide +kernel, by decide +kernel, (homed_ever _ _ _ _).2 _ _ hrun (by simp) (by simp)⟩

end Scene

end Terminal
