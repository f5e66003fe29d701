import Terminal.Proofs.Recall.Position
import Terminal.Proofs.Session.Exclusion

namespace Terminal

open Recall

def Action.move? (running : Bool) : Action → Option Move
  | .older => some .older
  | .newer => some .newer
  | .interrupt line => if running || line == "" then none else some .reset
  | _ => none

def Call.move? (running : Bool) : Call → Option Move
  | .act a => a.move? running
  | _ => none

namespace Session

def walk (s : Session) : Walk := ⟨s.history, s.place⟩

def moves (running : Bool) (rs : List ((a : Action) × a.Reply)) : List Move := rs.filterMap fun r => r.1.move? running

structure Strolls (own : Option Move) (s s' : Session) : Prop where
  running : s'.running = s.running
  heard : ∃ rs, s'.watcher.replies = s.watcher.replies ++ rs ∧
    s'.walk = s.walk.after (moves s.running rs ++ own.toList)

variable {s s' s'' : Session} {own : Option Move}

theorem moves_append (running : Bool) (rs rs' : List ((a : Action) × a.Reply)) :
    moves running (rs ++ rs') = moves running rs ++ moves running rs' :=
  List.filterMap_append

namespace Strolls

theorem of_eq (hrunning : s'.running = s.running) (hreplies : s'.watcher.replies = s.watcher.replies)
    (hwalk : s'.walk = s.walk.after own.toList) : Strolls own s s' :=
  ⟨hrunning, [], by simpa using hreplies, hwalk⟩

theorem refl : Strolls none s s := of_eq rfl rfl rfl

theorem trans (h : Strolls none s s') (h' : Strolls own s' s'') : Strolls own s s'' := by
  obtain ⟨rs, hreplies, hwalk⟩ := h.heard
  obtain ⟨rs', hreplies', hwalk'⟩ := h'.heard
  refine ⟨h'.running.trans h.running, rs ++ rs', ?_, ?_⟩
  · rw [hreplies', hreplies, List.append_assoc]
  · rw [hwalk', hwalk, h.running, ← Walk.after_append, moves_append]
    simp

theorem foldl {α : Type} {f : Session → α → Session} {l : List α} (hf : ∀ s, ∀ a ∈ l, Strolls none s (f s a)) :
    Strolls none s (l.foldl f s) := by
  induction l generalizing s with
  | nil => exact refl
  | cons a l ih => exact (hf s a (by simp)).trans (ih fun s b hb => hf s b (by simp [hb]))

end Strolls

theorem Amends.strolls {P : Change → Prop} (h : Amends P s s')
    (hP : ∀ c, P c → ∀ s, (c.apply s).walk = s.walk ∧ (c.apply s).watcher.replies = s.watcher.replies) :
    Strolls none s s' :=
  .of_eq h.running_eq (h.keeps (f := fun s => s.watcher.replies) fun c hc s => (hP c hc s).2)
    (h.keeps (f := walk) fun c hc s => (hP c hc s).1)

def Guides (emit : Emit) : Prop := ∀ r s, Strolls none s (emit r s)

section

variable {emit : Emit} (hemit : Guides emit)
include hemit

theorem strolls_act (a : Action) (s : Session) : Strolls (a.move? s.running) s (s.act emit a).2 := by
  cases a with
  | cancel =>
      rw [act, cancel_snd]
      exact .of_eq rfl rfl rfl
  | interrupt line =>
      rw [act, interrupt]
      cases hrunning : s.running with
      | true =>
          dsimp only
          rw [if_pos rfl, cancel_snd]
          exact .of_eq rfl rfl rfl
      | false =>
          dsimp only
          rw [if_neg Bool.false_ne_true]
          split
          · rename_i hline
            rw [Action.move?, hline]
            exact .refl
          · rename_i hline
            have hown : Action.move? false (.interrupt line) = some .reset := by simp [Action.move?, hline]
            rw [hown]
            exact (hemit _ s).trans (.of_eq rfl rfl rfl)
  | complete line =>
      rw [act, complete]
      split
      · exact .refl
      · dsimp only
        split
        · exact .refl
        · exact hemit _ s
  | welcome =>
      rw [act, welcome]
      dsimp only
      split
      · exact .refl
      · have hgreet : Strolls none s { s with welcomed := true } := .of_eq rfl rfl rfl
        exact hgreet.trans (.foldl fun s text _ => hemit _ s)
  | _ => exact .of_eq rfl rfl rfl

theorem strolls_fire (hook : Hook) (s : Session) : Strolls none s (s.fire emit hook) := by
  obtain ⟨hrunning, rs, hreplies, hwalk⟩ := strolls_act hemit hook.action s
  have hone : moves s.running [⟨hook.action, (s.act emit hook.action).1⟩] = (hook.action.move? s.running).toList := by
    rw [moves, List.filterMap_cons]
    cases hook.action.move? s.running <;> rfl
  refine ⟨hrunning, rs ++ [⟨hook.action, (s.act emit hook.action).1⟩], ?_, ?_⟩
  · rw [← List.append_assoc, ← hreplies]
    rfl
  · rw [moves_append, hone, Option.toList_none, List.append_nil]
    exact hwalk

end

theorem guides_emitWithin (depth : Nat) : Guides (emitWithin depth) := by
  -- what a listener prints is heard one level deeper
  induction depth with
  | zero => exact fun r s => .of_eq rfl rfl rfl
  | succ depth ih =>
      intro r s
      have hpush : Strolls none s (s.push r) := .of_eq rfl rfl rfl
      exact hpush.trans (.foldl fun s hook _ => strolls_fire ih hook s)

theorem guides_emit : Guides emit := fun r s => guides_emitWithin _ r s

theorem strolls_perform (prior : List String) (c : Call) (s : Session) :
    Strolls (c.move? s.running) s (s.perform emit prior c).2 := by
  cases c with
  | print text =>
      rw [perform]
      dsimp only
      split
      · exact .refl
      · exact guides_emit _ s
  | probe url =>
      refine (amends_probe url s).strolls fun c hc s => ?_
      cases hc <;> exact ⟨rfl, rfl⟩
  | pause =>
      refine (amends_pause s).strolls fun c hc s => ?_
      cases hc <;> exact ⟨rfl, rfl⟩
  | act a => exact strolls_act guides_emit a s
  | _ => exact .of_eq rfl rfl rfl

theorem strolls_apply (r : Result) (s : Session) : Strolls none s (s.apply emit r) := by
  have hclear : Strolls none s (if r.clear then s.clear else s) := by
    split
    · exact .of_eq rfl rfl rfl
    · exact .refl
  have hlines : Strolls none s
      ((r.lines.getD []).foldl (fun s line => s.print emit line) (if r.clear then s.clear else s)) :=
    hclear.trans (.foldl fun s line _ => guides_emit _ s)
  rw [apply]
  split
  · exact hlines.trans (.of_eq rfl rfl rfl)
  · exact hlines

theorem strolls_conclude (name : String) (ending : Except Failure (Option Result)) (s : Session) :
    Strolls none s (s.conclude emit name ending) := by
  cases hv : verdict? s.cancelled name ending with
  | some v =>
      have hpreface : Amends (· ∈ v.preface) s (s.amend v.preface) := ⟨v.preface, fun _ hc => hc, rfl⟩
      rw [conclude_eq_print emit hv]
      refine (hpreface.strolls fun c hc s => ?_).trans (guides_emit _ _)
      rcases Verdict.mem_preface hc with ⟨rfl, -⟩ | ⟨e, -, rfl⟩ <;> exact ⟨rfl, rfl⟩
  | none =>
      obtain ⟨-, result, rfl, he⟩ := conclude_of_no_verdict emit hv
      rw [he]
      cases result with
      | none => exact .refl
      | some r => exact strolls_apply r s

end Session

end Terminal
