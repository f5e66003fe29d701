import Terminal.Session.Turn

namespace Terminal

namespace Notice

def replay (view : List Record) : List Notice → List Record
  | [] => view
  | record r :: rest => replay (view ++ [r]) rest
  | clear :: rest => replay [] rest

theorem replay_append (view : List Record) (ns ms : List Notice) :
    replay view (ns ++ ms) = replay (replay view ns) ms := by
  induction ns generalizing view with
  | nil => rfl
  | cons n ns ih => cases n <;> simp [replay, ih]

theorem replay_of_clear {ns : List Notice} (h : clear ∈ ns) (view : List Record) :
    replay view ns = replay [] ns := by
  induction ns generalizing view with
  | nil => simp at h
  | cons n ns ih =>
      cases n with
      | clear => rfl
      | record r =>
          have hns : clear ∈ ns := by simpa using h
          -- what was shown before the first clearing does not matter
          rw [replay, replay, ih hns (view ++ [r]), ih hns ([] ++ [r])]

theorem replay_of_no_clear {ns : List Notice} (h : clear ∉ ns) (view : List Record) :
    replay view ns = view ++ replay [] ns := by
  induction ns generalizing view with
  | nil => simp [replay]
  | cons n ns ih =>
      cases n with
      | clear => simp at h
      | record r =>
          have hns : clear ∉ ns := by simpa using h
          rw [replay, replay, ih hns (view ++ [r]), ih hns ([] ++ [r])]
          simp

end Notice

namespace Session

theorem cancel_snd (s : Session) : s.cancel.2 = { s with token := s.token.map Token.cancel } := by
  rcases s with ⟨config, files, registry, cwd, env, history, place, scrollback, phase, token⟩
  cases token <;> rfl

inductive Change where
  | push (r : Record)
  | clear
  | cancel
  | greet
  | place (p : Option Nat)
  | move (path : String)
  | assign (key value : String)
  | report (level : Level) (message : String)
  | heed (a : Action) (reply : a.Reply)
  | edit (op : FileOp)
  | openLink (url : String)
  | takeProbe (url : String)
  | tick (ticks : Int)
  | rest
  | note (text : String)
  | markCancelled

namespace Change

def apply : Change → Session → Session
  | push r, s => s.push r
  | clear, s => s.clear
  | cancel, s => { s with token := s.token.map Token.cancel }
  | greet, s => { s with welcomed := true }
  | place p, s => { s with place := p }
  | move path, s => s.moveTo path
  | assign key value, s => s.setVariable key value
  | report level message, s => s.report level message
  | heed a reply, s => { s with watcher := { s.watcher with replies := s.watcher.replies ++ [⟨a, reply⟩] } }
  | edit op, s => (s.edit op).2
  | openLink url, s => s.openLink url
  | takeProbe url, s => (s.takeProbe url).2
  | tick ticks, s => s.tick ticks
  | rest, s => { s with world := { s.world with pauses := s.world.pauses.tail } }
  | note text, s => { s with world := { s.world with notes := s.world.notes ++ [text] } }
  | markCancelled, s => s.markCancelled

def notice? : Change → Option Notice
  | push r => some (.record r)
  | clear => some .clear
  | _ => none

def marks : Change → Bool
  | markCancelled => true
  | _ => false

def moves : Change → Bool
  | move _ => true
  | _ => false

theorem phase_apply (c : Change) (s : Session) : (c.apply s).phase = s.phase := by
  cases c <;> rfl

theorem hooks_apply (c : Change) (s : Session) : (c.apply s).watcher.hooks = s.watcher.hooks := by
  cases c <;> rfl

theorem registry_apply (c : Change) (s : Session) : (c.apply s).registry = s.registry := by
  cases c <;> rfl

theorem isSome_token_apply (c : Change) (s : Session) : (c.apply s).token.isSome = s.token.isSome := by
  cases c <;> simp [apply, Session.push, Session.clear, moveTo, setVariable, Session.report, Session.edit,
    Session.openLink, Session.takeProbe, Session.tick, Session.markCancelled]

theorem cancelled_apply (c : Change) {s : Session} (h : s.cancelled = true) : (c.apply s).cancelled = true := by
  cases c with
  | cancel =>
      obtain ⟨t, ht, -⟩ := (Option.any_eq_true _ _).1 h
      simp [apply, cancelled, ht, Token.cancel]
  | _ => exact h

theorem notices_apply (c : Change) (s : Session) : (c.apply s).notices = s.notices ++ c.notice?.toList := by
  cases c with
  | push r => rfl
  | clear => rfl
  | _ => exact (List.append_nil _).symm

theorem scrollback_apply (c : Change) (s : Session) :
    (c.apply s).scrollback = Notice.replay s.scrollback c.notice?.toList := by
  cases c <;> rfl

theorem turn_apply (c : Change) (s : Session) : (c.apply s).turn = s.turn.map fun t =>
    ⟨Notice.replay t.records c.notice?.toList, t.cleared || c.notice?.toList.contains .clear,
      t.cancelled || c.marks⟩ := by
  have hturn : (c.apply s).turn = s.turn.map fun t => match c with
      | push r => { t with records := t.records ++ [r] }
      | clear => { t with records := [], cleared := true }
      | markCancelled => { t with cancelled := true }
      | _ => t := by
    cases c <;> simp [apply, Session.push, Session.clear, moveTo, setVariable, Session.report, Session.edit,
      Session.openLink, Session.takeProbe, Session.tick, Session.markCancelled]
  rw [hturn]
  congr 1
  funext t
  cases c <;> simp [notice?, marks, Notice.replay]

theorem cwd_apply {c : Change} (h : c.moves = false) (s : Session) : (c.apply s).cwd = s.cwd := by
  cases c with
  | move path => simp [moves] at h
  | _ => rfl

end Change

def amend (cs : List Change) (s : Session) : Session := cs.foldl (fun s c => c.apply s) s

def told (cs : List Change) : List Notice := cs.filterMap Change.notice?

theorem told_cons (c : Change) (cs : List Change) : told (c :: cs) = c.notice?.toList ++ told cs := by
  rw [told, told, List.filterMap_cons]
  cases c.notice? <;> rfl

theorem told_append (cs ds : List Change) : told (cs ++ ds) = told cs ++ told ds :=
  List.filterMap_append

theorem amend_cons (c : Change) (cs : List Change) (s : Session) : s.amend (c :: cs) = (c.apply s).amend cs := rfl

theorem amend_append (cs ds : List Change) (s : Session) : s.amend (cs ++ ds) = (s.amend cs).amend ds :=
  List.foldl_append

theorem amend_relates {R : Session → Session → Prop} (hrefl : ∀ s, R s s)
    (htrans : ∀ {s₁ s₂ s₃}, R s₁ s₂ → R s₂ s₃ → R s₁ s₃) {cs : List Change} (hcs : ∀ c ∈ cs, ∀ s, R s (c.apply s))
    (s : Session) : R s (s.amend cs) := by
  induction cs generalizing s with
  | nil => exact hrefl s
  | cons c cs ih =>
      have hfirst : R s (c.apply s) := hcs c (List.mem_cons_self ..) s
      exact htrans hfirst (ih (fun d hd => hcs d (List.mem_cons_of_mem _ hd)) (c.apply s))

theorem amend_keeps {β : Type} {f : Session → β} {cs : List Change} (hf : ∀ c ∈ cs, ∀ s, f (c.apply s) = f s)
    (s : Session) : f (s.amend cs) = f s :=
  amend_relates (R := fun s s' => f s' = f s) (fun _ => rfl) (fun h h' => h'.trans h) hf s

theorem phase_amend (cs : List Change) (s : Session) : (s.amend cs).phase = s.phase :=
  amend_keeps (fun c _ => c.phase_apply) s

theorem running_amend (cs : List Change) (s : Session) : (s.amend cs).running = s.running := by
  rw [running, running, phase_amend]

theorem hooks_amend (cs : List Change) (s : Session) : (s.amend cs).watcher.hooks = s.watcher.hooks :=
  amend_keeps (f := fun s => s.watcher.hooks) (fun c _ => c.hooks_apply) s

theorem registry_amend (cs : List Change) (s : Session) : (s.amend cs).registry = s.registry :=
  amend_keeps (fun c _ => c.registry_apply) s

theorem isSome_token_amend (cs : List Change) (s : Session) : (s.amend cs).token.isSome = s.token.isSome :=
  amend_keeps (f := fun s => s.token.isSome) (fun c _ => c.isSome_token_apply) s

theorem cancelled_amend {cs : List Change} {s : Session} (h : s.cancelled = true) :
    (s.amend cs).cancelled = true :=
  amend_relates (R := fun s s' => s.cancelled = true → s'.cancelled = true) (fun _ h => h) (fun h h' => h' ∘ h)
    (fun c _ _ => Change.cancelled_apply c) s h

theorem notices_amend (cs : List Change) (s : Session) : (s.amend cs).notices = s.notices ++ told cs := by
  induction cs generalizing s with
  | nil => exact (List.append_nil _).symm
  | cons c cs ih => rw [amend_cons, ih, Change.notices_apply, told_cons, List.append_assoc]

theorem scrollback_amend (cs : List Change) (s : Session) :
    (s.amend cs).scrollback = Notice.replay s.scrollback (told cs) := by
  induction cs generalizing s with
  | nil => rfl
  | cons c cs ih => rw [amend_cons, ih, Change.scrollback_apply, told_cons, Notice.replay_append]

theorem turn_amend (cs : List Change) (s : Session) : (s.amend cs).turn = s.turn.map fun t =>
    ⟨Notice.replay t.records (told cs), t.cleared || (told cs).contains .clear,
      t.cancelled || cs.any Change.marks⟩ := by
  induction cs generalizing s with
  | nil => simp [amend, told, Notice.replay]
  | cons c cs ih =>
      rw [amend_cons, ih, Change.turn_apply, Option.map_map, told_cons]
      congr 1
      funext t
      simp [Notice.replay_append, Bool.or_assoc]

theorem isSome_turn_amend (cs : List Change) (s : Session) : (s.amend cs).turn.isSome = s.turn.isSome := by
  rw [turn_amend, Option.isSome_map]

theorem cwd_amend {cs : List Change} (h : ∀ c ∈ cs, c.moves = false) (s : Session) : (s.amend cs).cwd = s.cwd :=
  amend_keeps (fun c hc => Change.cwd_apply (h c hc)) s

def Amends (allowed : Change → Prop) (s s' : Session) : Prop :=
  ∃ cs, (∀ c ∈ cs, allowed c) ∧ s' = s.amend cs

namespace Amends

variable {P Q : Change → Prop} {s s' s'' : Session}

theorem refl : Amends P s s := ⟨[], by simp, rfl⟩

theorem single {c : Change} (h : P c) : Amends P s (c.apply s) := ⟨[c], by simpa using h, rfl⟩

theorem trans (h : Amends P s s') (h' : Amends P s' s'') : Amends P s s'' := by
  obtain ⟨cs, hcs, rfl⟩ := h
  obtain ⟨ds, hds, rfl⟩ := h'
  refine ⟨cs ++ ds, ?_, (amend_append cs ds s).symm⟩
  intro c hc
  rcases List.mem_append.1 hc with hc | hc
  · exact hcs c hc
  · exact hds c hc

theorem mono (h : Amends P s s') (hPQ : ∀ c, P c → Q c) : Amends Q s s' := by
  obtain ⟨cs, hcs, rfl⟩ := h
  exact ⟨cs, fun c hc => hPQ c (hcs c hc), rfl⟩

theorem relates {R : Session → Session → Prop} (h : Amends P s s') (hrefl : ∀ s, R s s)
    (htrans : ∀ {s₁ s₂ s₃}, R s₁ s₂ → R s₂ s₃ → R s₁ s₃) (hP : ∀ c, P c → ∀ s, R s (c.apply s)) : R s s' := by
  obtain ⟨cs, hcs, rfl⟩ := h
  exact amend_relates hrefl htrans (fun c hc => hP c (hcs c hc)) s

theorem keeps {β : Type} {f : Session → β} (h : Amends P s s') (hP : ∀ c, P c → ∀ s, f (c.apply s) = f s) :
    f s' = f s := by
  obtain ⟨cs, hcs, rfl⟩ := h
  exact amend_keeps (fun c hc => hP c (hcs c hc)) s

theorem running_eq (h : Amends P s s') : s'.running = s.running := by
  obtain ⟨cs, -, rfl⟩ := h
  exact running_amend cs s

theorem hooks_eq (h : Amends P s s') : s'.watcher.hooks = s.watcher.hooks := by
  obtain ⟨cs, -, rfl⟩ := h
  exact hooks_amend cs s

theorem registry_eq (h : Amends P s s') : s'.registry = s.registry := by
  obtain ⟨cs, -, rfl⟩ := h
  exact registry_amend cs s

theorem foldl {α : Type} {f : Session → α → Session} {l : List α}
    (hf : ∀ s', s'.watcher.hooks = s.watcher.hooks → s'.running = s.running → ∀ a ∈ l, Amends P s' (f s' a)) :
    Amends P s (l.foldl f s) := by
  induction l generalizing s with
  | nil => exact refl
  | cons a l ih =>
      have hfirst : Amends P s (f s a) := hf s rfl rfl a (by simp)
      refine hfirst.trans (ih ?_)
      intro s' hhooks hrunning b hb
      exact hf s' (hhooks.trans hfirst.hooks_eq) (hrunning.trans hfirst.running_eq) b (by simp [hb])

end Amends

end Session

end Terminal
