import Terminal.Proofs.Session.Effect

namespace Terminal

def Action.interferes : Action → Bool
  | .cancel | .interrupt _ | .complete _ | .clear | .welcome => true
  | _ => false

namespace Session

def Attentive (s : Session) : Prop := ∀ h ∈ s.watcher.hooks, h.action.interferes = false

inductive Change.Aside : Change → Prop
  | place (p : Option Nat) : Aside (.place p)
  | move (path : String) : Aside (.move path)
  | assign (key value : String) : Aside (.assign key value)
  | report (level : Level) (message : String) : Aside (.report level message)
  | heed (a : Action) (reply : a.Reply) : Aside (.heed a reply)

theorem Attentive.aside {s : Session} (h : s.Attentive) {c : Change} (hc : s.Heeds c) : c.Aside := by
  obtain ⟨⟨after, action⟩, hmem, hmay | ⟨reply, rfl⟩⟩ := hc
  · have haction : action.interferes = false := h _ hmem
    cases hmay with
    | moveTo path => exact .move path
    | theme label => exact .assign "THEME" label
    | themeReport message => exact .report .info message
    | older p => exact .place p
    | newer p => exact .place p
    | _ => cases haction
  · exact .heed action reply

structure Advances (s : Session) (records : List Record) (w : World) (s' : Session) : Prop where
  running : s'.running = s.running
  hooks : s'.watcher.hooks = s.watcher.hooks
  config : s'.config = s.config
  cancelled : s'.cancelled = s.cancelled
  turn : s'.turn = s.turn.map fun t => { t with records := t.records ++ records }
  world : s'.world = w

namespace Advances

variable {s s' s'' : Session} {records records' : List Record} {w w' : World}

theorem refl (s : Session) : Advances s [] s.world s :=
  ⟨rfl, rfl, rfl, rfl, by simp, rfl⟩

theorem trans (h : Advances s records w s') (h' : Advances s' records' w' s'') :
    Advances s (records ++ records') w' s'' := by
  refine ⟨h'.running.trans h.running, h'.hooks.trans h.hooks, h'.config.trans h.config,
    h'.cancelled.trans h.cancelled, ?_, h'.world⟩
  rw [h'.turn, h.turn, Option.map_map]
  congr 1
  funext t
  simp

theorem attentive (h : Advances s records w s') (hs : s.Attentive) : s'.Attentive := by
  rw [Attentive, h.hooks]
  exact hs

theorem aside {c : Change} (h : c.Aside) (s : Session) : Advances s [] s.world (c.apply s) := by
  cases h <;> exact ⟨rfl, rfl, rfl, rfl, (refl s).turn, rfl⟩

theorem amend {cs : List Change} (hcs : ∀ c ∈ cs, c.Aside) (s : Session) : Advances s [] s.world (s.amend cs) := by
  induction cs generalizing s with
  | nil => exact refl s
  | cons c cs ih =>
      have hfirst := aside (hcs c (by simp)) s
      have hrest := ih (fun d hd => hcs d (by simp [hd])) (c.apply s)
      rw [hfirst.world] at hrest
      exact hfirst.trans hrest

theorem emit (hs : s.Attentive) (r : Record) : Advances s [r] s.world (Session.emit r s) := by
  obtain ⟨cs, hcs, he⟩ := announces_emit r s
  have hpush : Advances s [r] s.world (s.push r) := ⟨rfl, rfl, rfl, rfl, rfl, rfl⟩
  have hamend := amend (fun c hc => hs.aside (hcs c hc)) (s.push r)
  rw [he]
  exact hpush.trans hamend

end Advances

end Session

end Terminal
