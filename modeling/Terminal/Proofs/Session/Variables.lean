import Terminal.Proofs.Session.Directory
import Terminal.Proofs.Table

namespace Terminal

def IsKey (key : String) : Prop := key ≠ "" ∧ '=' ∉ key.toList

instance (key : String) : Decidable (IsKey key) := inferInstanceAs (Decidable (_ ∧ _))

def Call.Keyed : Call → Prop
  | .setVariable key _ => IsKey key
  | _ => True

namespace Commands

theorem isKey_of_assignment? {text key value : String} (h : assignment? text = some (key, value)) : IsKey key := by
  rw [assignment?] at h
  split at h
  · rename_i c cs rest hcut
    cases h
    exact ⟨by simp, by simpa using (Text.eq_of_cutAt hcut).2⟩
  · cases h

theorem keyed_set (args : List String) : (set args).Calls Call.Keyed := by
  dsimp only [set]
  split
  · trivial
  · rename_i key value hargs
    obtain ⟨text, -, htext⟩ := Option.bind_eq_some_iff.1 hargs
    exact ⟨isKey_of_assignment? htext, fun _ => Script.Calls.ite ⟨trivial, fun _ => trivial⟩ trivial⟩

theorem keyed_of_footprint {name : String} {c : Call} (h : Footprint name c) (hname : name ≠ "set") : c.Keyed := by
  cases h with
  | assign key value => exact absurd rfl hname
  | leave path => exact (by decide : "OLDPWD" ≠ "" ∧ '=' ∉ "OLDPWD".toList)
  | theme label => exact (by decide : "THEME" ≠ "" ∧ '=' ∉ "THEME".toList)
  | _ => trivial

theorem keyed_builtin {name : String} {c : Command} (h : Registry.builtin.get? name = some c) (args : List String) :
    (c.handler args).Calls Call.Keyed := by
  obtain ⟨b, hb, hhandler, -⟩ := handler_builtin h
  rw [hhandler]
  by_cases hset : b.info.name = "set"
  · have hb' : ∀ b ∈ builtins, b.info.name = "set" → ∀ args, (b.handler args).Calls Call.Keyed := by
      simp only [builtins, List.forall_mem_cons]
      simp [keyed_set]
    exact hb' b hb hset args
  · exact (calls_builtins hb args).mono fun c hc => keyed_of_footprint hc hset

end Commands

namespace Session

def Change.Keyed : Change → Prop
  | .assign key _ => IsKey key
  | _ => True

structure Keyed (s : Session) : Prop where
  keys : ∀ key ∈ s.env.keys, IsKey key
  sorted : s.env.keys.Pairwise (· < ·)

variable {s s' : Session}

theorem keyed_put {env : Environment} (hkeys : ∀ key ∈ env.keys, IsKey key) {key : String} (hkey : IsKey key)
    (value : String) : ∀ other ∈ (env.put key value).keys, IsKey other := by
  intro other hother
  rcases Table.mem_keys_put.1 hother with rfl | hother
  · exact hkey
  · exact hkeys other hother

theorem isKey_pwd : IsKey "PWD" := by decide

theorem isKey_standing : ∀ key ∈ standing, IsKey key := by decide

theorem keyed_apply {c : Change} (hc : c.Keyed) (h : s.Keyed) : (c.apply s).Keyed := by
  cases c with
  | move path => exact ⟨keyed_put h.keys isKey_pwd _, Table.pairwise_put h.sorted _ _⟩
  | assign key value => exact ⟨keyed_put h.keys hc value, Table.pairwise_put h.sorted _ _⟩
  | _ => exact ⟨h.keys, h.sorted⟩

theorem Amends.keyed {P : Change → Prop} (h : Amends P s s') (hP : ∀ c, P c → c.Keyed) (hs : s.Keyed) : s'.Keyed :=
  h.relates (R := fun s s' => s.Keyed → s'.Keyed) (fun _ hs => hs) (fun h h' => h' ∘ h)
    (fun c hc _ => keyed_apply (hP c hc)) hs

theorem keyed_of_may {a : Action} {running : Bool} {c : Change} (h : a.May running c) : c.Keyed := by
  cases h with
  | theme label => exact isKey_standing "THEME" (by decide)
  | _ => trivial

theorem Heeds.keyed {c : Change} (h : s.Heeds c) : c.Keyed := by
  obtain ⟨hook, -, hmay | ⟨reply, rfl⟩⟩ := h
  · exact keyed_of_may hmay
  · trivial

theorem keyed_emit (r : Record) (h : s.Keyed) : (emit r s).Keyed := by
  refine (amends_emit announces_emit r s).keyed ?_ h
  rintro c (rfl | hc)
  · trivial
  · exact hc.keyed

theorem keyed_act (a : Action) (h : s.Keyed) : (s.act emit a).2.Keyed := by
  refine (amends_act announces_emit a s).keyed ?_ h
  rintro c (hmay | hc)
  · exact keyed_of_may hmay
  · exact hc.keyed

theorem keyed_perform {c : Call} (hc : c.Keyed) (prior : List String) (h : s.Keyed) :
    (s.perform emit prior c).2.Keyed := by
  refine (amends_perform announces_emit prior c s).keyed ?_ h
  rintro d (hmay | hd)
  · cases hmay with
    | setVariable key value => exact hc
    | act hact => exact keyed_of_may hact
    | _ => trivial
  · exact hd.keyed

theorem keyed_settle (name : String) (ending : Except Failure (Option Result)) (h : s.Keyed) :
    (s.settle name ending).2.Keyed := by
  have hconclude : (s.conclude emit name ending).Keyed := by
    refine (amends_conclude announces_emit name ending s).keyed ?_ h
    rintro c (hmay | hc)
    · rcases hmay.kinds with rfl | ⟨level, message, rfl⟩ | ⟨text, rfl⟩ | ⟨r, -, hr⟩
      · trivial
      · trivial
      · trivial
      · cases hr <;> trivial
    · exact hc.keyed
  exact ⟨hconclude.keys, hconclude.sorted⟩

theorem keyed_opening (line : String) (h : s.Keyed) : (s.opening line).2.Keyed :=
  opening_induction (P := Keyed) (fun _ _ _ _ _ _ _ h => ⟨h.keys, h.sorted⟩) (fun r _ _ h => keyed_emit r h) h line

theorem mem_keys_environment (config : Config) {key : String} :
    key ∈ config.environment.keys ↔ key ∈ standing := Table.mem_keys_ofList

theorem keyed_start (config : Config) (files : Tree) (registry : Registry) (log : Log) (world : World) :
    (start config files registry log world).Keyed where
  keys := keyed_put (fun key hkey => isKey_standing key ((mem_keys_environment config).1 hkey)) isKey_pwd _
  sorted := Table.pairwise_put Table.pairwise_ofList "PWD" _

end Session

open Session

namespace Scene

structure Keyed (m : Scene) : Prop where
  registry : m.session.registry = .builtin
  session : m.session.Keyed
  flights : ∀ f ∈ m.flights, f.rest.Calls Call.Keyed

variable {m m' : Scene}

theorem Keyed.step {e : Event} (h : m.Keyed) (hstep : Step m e m') : m'.Keyed := by
  obtain ⟨hregistry, hs, hflights⟩ := h
  cases hstep with
  | @answered s s' fs line o ho =>
      have hkept := (opening_keeps line s).1
      have hopening := keyed_opening line hs
      rw [ho] at hkept hopening
      exact ⟨hkept.trans hregistry, hopening, hflights⟩
  | @begun s s' fs line f hf =>
      have hkept := (opening_keeps line s).1
      have hopening := keyed_opening line hs
      rw [hf] at hkept hopening
      obtain ⟨-, -, -, ⟨c, hc, hrest⟩, -⟩ := opening_begun hf
      refine ⟨hkept.trans hregistry, hopening, List.forall_mem_cons.2 ⟨?_, hflights⟩⟩
      rw [hrest]
      exact Commands.keyed_builtin (hregistry ▸ hc) f.args
  | @call s before after f c next hrest =>
      have hf : (Script.call c next).Calls Call.Keyed := hrest ▸ hflights f (by simp)
      refine ⟨(amends_perform announces_emit f.prior c s).registry_eq.trans hregistry, keyed_perform hf.1 f.prior hs, ?_⟩
      intro g hg
      rcases List.mem_append.1 hg with hg | hg
      · exact hflights g (by simp [hg])
      · rcases List.mem_cons.1 hg with rfl | hg
        · exact hf.2 _
        · exact hflights g (by simp [hg])
  | @finish s s' before after f ending t hrest hsettle =>
      have hsettled := keyed_settle f.name ending hs
      have hkept := registry_settle f.name ending s
      rw [hsettle] at hsettled hkept
      refine ⟨hkept.trans hregistry, hsettled, fun g hg => hflights g ?_⟩
      rcases List.mem_append.1 hg with hg | hg <;> simp [hg]
  | @abandon s before after f =>
      refine ⟨hregistry, ⟨hs.keys, hs.sorted⟩, fun g hg => hflights g ?_⟩
      rcases List.mem_append.1 hg with hg | hg <;> simp [hg]
  | @act s fs a => exact ⟨(evolves_act announces_emit a s).registry_eq.trans hregistry, keyed_act a hs, hflights⟩
  | edit op => exact ⟨hregistry, ⟨hs.keys, hs.sorted⟩, hflights⟩
  | advance ms => exact ⟨hregistry, ⟨hs.keys, hs.sorted⟩, hflights⟩
  | watch hooks => exact ⟨hregistry, ⟨hs.keys, hs.sorted⟩, hflights⟩

/-- No command stands between setting `PWD` and moving there. -/
def Settled (m : Scene) : Prop := ∀ f ∈ m.flights, f.rest.moves = false

theorem Homely.abandon (h : m.Homely) (hsettled : m.Settled) (hstep : Step m .abandon m') : m'.Homely := by
  have horderly := h.orderly.step hstep
  cases hstep with
  | @abandon s before after f =>
      obtain ⟨-, rfl, rfl⟩ := h.orderly.alone
      have hs : s.Mirrored := (h.inStep f (by simp)).2 (hsettled f (by simp))
      exact ⟨horderly, h.registry, ⟨h.placed.canonical, h.placed.standing⟩, by simp, fun _ => hs⟩

inductive Comes (config : Config) : Scene → Prop
  | start (files : Tree) (log : Log) (world : World) : Comes config ⟨start config files .builtin log world, []⟩
  | step {m m' : Scene} {e : Event} : Comes config m → Step m e m' → (e = .abandon → m.Settled) → Comes config m'

namespace Comes

variable {config : Config}

theorem keyed (h : m.Comes config) : m.Keyed := by
  induction h with
  | start files log world => exact ⟨rfl, keyed_start config files .builtin log world, by simp⟩
  | step _ hstep _ ih => exact ih.step hstep

theorem homely (h : m.Comes config) : m.Homely := by
  induction h with
  | start files log world =>
      have hstart := homed_start config files .builtin log world
      exact ⟨.inl ⟨idle_start _ _ _ _ _, rfl⟩, rfl, hstart.placed, by simp, fun _ => hstart.mirrored⟩
  | @step _ _ e _ hstep hsettled ih =>
      by_cases he : e = .abandon
      · subst he
        exact ih.abandon (hsettled rfl) hstep
      · exact ih.step he hstep

theorem homed (h : m.Comes config) (hsettled : m.Settled) : m.session.Homed := by
  refine ⟨h.homely.placed, ?_⟩
  rcases h.homely.orderly with ⟨-, hnone⟩ | ⟨-, hone⟩
  · exact h.homely.mirrored (List.length_eq_zero_iff.1 hnone)
  · obtain ⟨f, hf⟩ := List.length_eq_one_iff.1 hone
    have hmem : f ∈ m.flights := by simp [hf]
    exact (h.homely.inStep f hmem).2 (hsettled f hmem)

theorem calls {f : Flight} {script : Script (Option Result)} {s : Session}
    (h : Comes config ⟨s, [{ f with rest := script }]⟩) :
    ∃ rest : Script (Option Result), rest.moves = false ∧
      rest.ending? = (script.run (perform emit f.prior) s).1.ending? ∧
      Comes config ⟨(script.run (perform emit f.prior) s).2, [{ f with rest }]⟩ := by
  induction script generalizing s with
  | call c next ih =>
      have hcall : Comes config ⟨(s.perform emit f.prior c).2,
          [{ f with rest := next (s.perform emit f.prior c).1 }]⟩ := h.step (.call [] [] rfl) nofun
      exact ih _ hcall
  | done a => exact ⟨.done a, rfl, rfl, h⟩
  | fail failure => exact ⟨.fail failure, rfl, rfl, h⟩
  | endless => exact ⟨.endless, rfl, rfl, h⟩

theorem receive {s : Session} {fs : List Flight} (h : Comes config ⟨s, fs⟩) (hsettled : Settled ⟨s, fs⟩) (i : Input) :
    ∃ fs', Comes config ⟨s.receive i, fs'⟩ ∧ Settled ⟨s.receive i, fs'⟩ := by
  cases i with
  | line text =>
      rw [Session.receive, submit_eq]
      rcases hopening : s.opening text with ⟨o | f, s₁⟩
      · exact ⟨fs, h.step (.answered hopening) nofun, hsettled⟩
      · obtain ⟨hrunning, -⟩ := opening_begun hopening
        obtain rfl : fs = [] := (h.homely.orderly.idle hrunning).2
        have hbegun : Comes config ⟨s₁, [{ f with rest := f.rest }]⟩ := h.step (.begun hopening) nofun
        obtain ⟨rest, hstays, hending, hcalled⟩ := hbegun.calls
        dsimp only
        rw [fly_eq]
        cases hend : (f.rest.run (perform emit f.prior) s₁).1.ending? with
        | none => exact ⟨_, hcalled, by simpa [Settled] using hstays⟩
        | some ending => exact ⟨[], hcalled.step (.finish [] [] (hending.trans hend) rfl) nofun, by simp [Settled]⟩
  | action a => exact ⟨fs, h.step (.act a) nofun, hsettled⟩
  | edit op => exact ⟨fs, h.step (.edit op) nofun, hsettled⟩
  | advance ms => exact ⟨fs, h.step (.advance ms) nofun, hsettled⟩
  | watch hooks => exact ⟨fs, h.step (.watch hooks) nofun, hsettled⟩

theorem receiveAll (inputs : List Input) {s : Session} {fs : List Flight} (h : Comes config ⟨s, fs⟩)
    (hsettled : Settled ⟨s, fs⟩) :
    ∃ fs', Comes config ⟨inputs.foldl Session.receive s, fs'⟩ ∧ Settled ⟨inputs.foldl Session.receive s, fs'⟩ := by
  induction inputs generalizing s fs with
  | nil => exact ⟨fs, h, hsettled⟩
  | cons i inputs ih =>
      obtain ⟨fs', h', hsettled'⟩ := h.receive hsettled i
      exact ih h' hsettled'

end Comes

end Scene

end Terminal
