import Terminal.Proofs.Commands.Blind
import Terminal.Proofs.Session.Scene

namespace Terminal

def Action.looks : Action → Bool
  | .glance | .prompt | .running | .phase | .submit _ | .older | .newer => true
  | _ => false

namespace Session

def Looks (s : Session) : Prop := ∀ h ∈ s.watcher.hooks, h.action.looks = true

def core (s : Session) : Session :=
  { s with
    history := [], place := none, scrollback := [], log := .empty none, notices := []
    watcher := { hooks := s.watcher.hooks } }

structure Alike (s s' : Session) : Prop where
  core : s.core = s'.core
  looks : s.Looks

theorem eq_of_core {s s' : Session} (h : s.core = s'.core) {α : Type} {f : Session → α} (hf : ∀ s, f s = f s.core) :
    f s = f s' :=
  (hf s).trans ((congrArg f h).trans (hf s').symm)

theorem looks_of_core {s s' : Session} (h : s.core = s'.core) (hs : s.Looks) : s'.Looks := by
  have hlooks : s.Looks = s'.Looks := eq_of_core h fun _ => rfl
  exact hlooks ▸ hs

theorem core_heeds {s : Session} (hs : s.Looks) {c : Change} (h : s.Heeds c) (t : Session) :
    (c.apply t).core = t.core := by
  obtain ⟨⟨after, action⟩, hmem, hmay | ⟨reply, rfl⟩⟩ := h
  · have haction : action.looks = true := hs _ hmem
    cases hmay with
    | older p => rfl
    | newer p => rfl
    | _ => cases haction
  · rfl

theorem core_emit {s : Session} (hs : s.Looks) (r : Record) : (emit r s).core = (s.push r).core := by
  obtain ⟨cs, hcs, he⟩ := announces_emit r s
  rw [he]
  exact amend_keeps (fun c hc => core_heeds hs (hcs c hc)) (s.push r)

namespace Alike

variable {s s' : Session}

theorem eq (h : Alike s s') {α : Type} {f : Session → α} (hf : ∀ s, f s = f s.core) : f s = f s' := eq_of_core h.core hf

theorem both {α : Type} {f : Session → α × Session} (h : Alike s s') (hfst : ∀ s, (f s).1 = (f s.core).1)
    (hsnd : ∀ s, (f s).2.core = (f s.core).2.core) (hhooks : ∀ s, (f s).2.watcher.hooks = s.watcher.hooks) :
    (f s).1 = (f s').1 ∧ Alike (f s).2 (f s').2 := by
  refine ⟨h.eq hfst, h.eq hsnd, ?_⟩
  rw [Looks, hhooks]
  exact h.looks

theorem symm (h : Alike s s') : Alike s' s := ⟨h.core.symm, looks_of_core h.core h.looks⟩

theorem trans {s'' : Session} (h : Alike s s') (h' : Alike s' s'') : Alike s s'' := ⟨h.core.trans h'.core, h.looks⟩

theorem map {f : Session → Session} (h : Alike s s') (hcore : ∀ s, (f s).core = (f s.core).core)
    (hhooks : ∀ s, (f s).watcher.hooks = s.watcher.hooks) : Alike (f s) (f s') :=
  (h.both (f := fun s => ((), f s)) (fun _ => rfl) hcore hhooks).2

theorem emit (h : Alike s s') (r : Record) : Alike (emit r s) (emit r s') := by
  have hpush : Alike (s.push r) (s'.push r) := h.map (fun _ => rfl) fun _ => rfl
  have hcore := core_emit h.looks r
  refine ⟨?_, looks_of_core hcore.symm hpush.looks⟩
  rw [hcore, core_emit (looks_of_core h.core h.looks) r]
  exact hpush.core

theorem print (h : Alike s s') (text : String) : Alike (s.print Session.emit text) (s'.print Session.emit text) :=
  h.emit (.output text)

theorem cancel (h : Alike s s') : Alike s.cancel.2 s'.cancel.2 := by
  rw [cancel_snd, cancel_snd]
  exact h.map (f := fun s => { s with token := s.token.map Token.cancel }) (fun _ => rfl) fun _ => rfl

theorem awaitProbe (h : Alike s s') (url : String) (start : Fraction) :
    (s.awaitProbe url start).1 = (s'.awaitProbe url start).1 ∧
      Alike (s.awaitProbe url start).2 (s'.awaitProbe url start).2 := by
  obtain ⟨hprobe, htaken⟩ := h.both (f := takeProbe url) (fun _ => rfl) (fun _ => rfl) fun _ => rfl
  have hcancelled : Alike
      (if (s.takeProbe url).1.cancels then (s.takeProbe url).2.cancel.2 else (s.takeProbe url).2)
      (if (s'.takeProbe url).1.cancels then (s'.takeProbe url).2.cancel.2 else (s'.takeProbe url).2) := by
    rw [hprobe]
    split
    · exact htaken.cancel
    · exact htaken
  rw [Session.awaitProbe, Session.awaitProbe]
  dsimp only
  rw [hprobe] at hcancelled ⊢
  split
  · rename_i ticks _
    have htick := hcancelled.map (f := tick ticks) (fun _ => rfl) fun _ => rfl
    exact ⟨htick.eq (f := timed start) fun _ => rfl, htick⟩
  · exact ⟨rfl, hcancelled⟩
  · refine ⟨?_, hcancelled⟩
    dsimp only
    rw [hcancelled.eq (f := cancelled) fun _ => rfl]

theorem probe (h : Alike s s') (url : String) :
    (s.probe url).1 = (s'.probe url).1 ∧ Alike (s.probe url).2 (s'.probe url).2 := by
  have hticks : s.world.ticks = s'.world.ticks := h.eq (f := fun s => s.world.ticks) fun _ => rfl
  rw [Session.probe, Session.probe, h.eq (f := cancelled) fun _ => rfl, hticks]
  split
  · exact ⟨rfl, h⟩
  · split
    · exact h.awaitProbe url _
    · exact ⟨rfl, h⟩

theorem pause (h : Alike s s') : Alike s.pause s'.pause := by
  have hrest : Alike (Change.rest.apply s) (Change.rest.apply s') := h.map (fun _ => rfl) fun _ => rfl
  have hcut : s.world.pauses.headD false = s'.world.pauses.headD false :=
    h.eq (f := fun s => s.world.pauses.headD false) fun _ => rfl
  rw [Session.pause, Session.pause, h.eq (f := cancelled) fun _ => rfl]
  split
  · exact h
  · dsimp only
    rw [hcut]
    split
    · exact hrest.cancel
    · exact hrest

theorem perform (h : Alike s s') (prior prior' : List String) {c : Call} (hc : ∀ a, c ≠ .act a) :
    c.Alike (s.perform Session.emit prior c).1 (s'.perform Session.emit prior' c).1 ∧
      Alike (s.perform Session.emit prior c).2 (s'.perform Session.emit prior' c).2 := by
  cases c with
  | look => exact ⟨h.eq (f := fun s => (s.view []).forget) fun _ => rfl, h⟩
  | print text =>
      refine ⟨rfl, ?_⟩
      rw [Session.perform, Session.perform, h.eq (f := cancelled) fun _ => rfl]
      dsimp only
      split
      · exact h
      · exact h.print text
  | clear => exact ⟨rfl, h.map (f := Session.clear) (fun _ => rfl) fun _ => rfl⟩
  | moveTo path => exact ⟨rfl, h.map (f := Session.moveTo path) (fun _ => rfl) fun _ => rfl⟩
  | setVariable key value => exact ⟨rfl, h.map (f := Session.setVariable key value) (fun _ => rfl) fun _ => rfl⟩
  | openLink url => exact ⟨rfl, h.map (f := Session.openLink url) (fun _ => rfl) fun _ => rfl⟩
  | change op => exact h.both (f := fun s => s.edit (op.resolve s.cwd)) (fun _ => rfl) (fun _ => rfl) fun _ => rfl
  | probe url => exact h.probe url
  | pause => exact ⟨rfl, h.pause⟩
  | act a => exact absurd rfl (hc a)
  | note text => exact ⟨rfl, h.map (f := Change.apply (.note text)) (fun _ => rfl) fun _ => rfl⟩

theorem run {script : Script (Option Result)} (hblind : script.Blind) (h : Alike s s') (prior prior' : List String) :
    (script.run (Session.perform Session.emit prior) s).1 = (script.run (Session.perform Session.emit prior') s').1 ∧
      Alike (script.run (Session.perform Session.emit prior) s).2
        (script.run (Session.perform Session.emit prior') s').2 := by
  -- the two runs make the same calls and are answered alike, so they go on in the same way
  induction script generalizing s s' with
  | call c next ih =>
      obtain ⟨hact, hnext⟩ := hblind.call
      obtain ⟨hreply, hafter⟩ := h.perform prior prior' hact
      obtain ⟨hsame, hrest⟩ := hnext _ _ hreply
      have hrun := ih _ hrest hafter
      rw [Script.run, Script.run]
      dsimp only
      rw [hsame]
      exact hrun
  | _ => exact ⟨rfl, h⟩

theorem apply (h : Alike s s') (r : Result) : Alike (s.apply Session.emit r) (s'.apply Session.emit r) := by
  have hclear : Alike (if r.clear then s.clear else s) (if r.clear then s'.clear else s') := by
    split
    · exact h.map (f := Session.clear) (fun _ => rfl) fun _ => rfl
    · exact h
  have hlines (texts : List String) {t t' : Session} (ht : Alike t t') :
      Alike (texts.foldl (fun s line => s.print Session.emit line) t)
        (texts.foldl (fun s line => s.print Session.emit line) t') := by
    induction texts generalizing t t' with
    | nil => exact ht
    | cons text texts ih => exact ih (ht.print text)
  rw [Session.apply, Session.apply]
  split
  · exact (hlines _ hclear).map (f := Session.moveTo _) (fun _ => rfl) fun _ => rfl
  · exact hlines _ hclear

theorem report (h : Alike s s') (level : Level) (message : String) :
    Alike (s.report level message) (s'.report level message) :=
  h.map (fun _ => rfl) fun _ => rfl

theorem remember (h : Alike s s') (line : String) : Alike (s.remember line) (s'.remember line) :=
  h.map (fun _ => rfl) fun _ => rfl

theorem missing (h : Alike s s') (name : String) : Alike (s.missing name) (s'.missing name) :=
  (h.report _ _).print _

theorem launch (h : Alike s s') : Alike s.launch s'.launch := h.map (fun _ => rfl) fun _ => rfl

theorem finish (h : Alike s s') : s.finish.1 = s'.finish.1 ∧ Alike s.finish.2 s'.finish.2 :=
  h.both (fun _ => rfl) (fun _ => rfl) fun _ => rfl

theorem markCancelled (h : Alike s s') : Alike s.markCancelled s'.markCancelled := h.map (fun _ => rfl) fun _ => rfl

theorem conclude (h : Alike s s') (name : String) (ending : Except Failure (Option Result)) :
    Alike (s.conclude Session.emit name ending) (s'.conclude Session.emit name ending) := by
  have hcancelled : s.cancelled = s'.cancelled := h.eq fun _ => rfl
  have hstopped : Alike (s.endCancelled Session.emit name) (s'.endCancelled Session.emit name) :=
    (h.markCancelled.report .info ("cancelled: " ++ name)).print cancelMark
  cases ending with
  | ok result =>
      simp only [Session.conclude, hcancelled]
      split
      · exact hstopped
      · cases result with
        | none => exact h
        | some r => exact h.apply r
  | error f =>
      cases f with
      | cancelled => exact hstopped
      | fault f =>
          simp only [Session.conclude, endFault, hcancelled]
          split
          · exact h.markCancelled.print cancelMark
          · exact (h.report _ _).print _
      | _ => exact (h.report _ _).print _

theorem land (h : Alike s s') : Alike s.land s'.land := h.map (fun _ => rfl) fun _ => rfl

theorem settle (h : Alike s s') (name : String) (ending : Except Failure (Option Result)) :
    (s.settle name ending).1 = (s'.settle name ending).1 ∧ Alike (s.settle name ending).2 (s'.settle name ending).2 :=
  (h.conclude name ending).land.finish

theorem fly {script : Script (Option Result)} (h : Alike s s') (name : String) (args prior prior' : List String)
    (hblind : script.Blind) :
    (s.fly ⟨name, args, prior, script⟩).1 = (s'.fly ⟨name, args, prior', script⟩).1 ∧
      Alike (s.fly ⟨name, args, prior, script⟩).2 (s'.fly ⟨name, args, prior', script⟩).2 := by
  obtain ⟨houtcome, hafter⟩ := h.run hblind prior prior'
  rw [fly_eq, fly_eq]
  dsimp only
  rw [houtcome]
  split
  · exact hafter.settle _ _
  · exact ⟨rfl, hafter⟩

end Alike

end Session

end Terminal
