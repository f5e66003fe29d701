import Terminal.Proofs.Commands.Footprint

namespace Terminal

def View.forget (v : View) : View := { v with history := [] }

def Call.Alike : (c : Call) → c.Reply → c.Reply → Prop
  | .look, v, v' => v.forget = v'.forget
  | _, reply, reply' => reply = reply'

namespace Script

variable {α β : Type}

/-- The script does not look at the lines before its own and leaves what clients do to the clients. -/
def Blind : Script α → Prop
  | .call .look next => (∀ v : View, next v.forget = next v) ∧ ∀ v, (next v).Blind
  | .call (.act _) _ => False
  | .call _ next => ∀ reply, (next reply).Blind
  | _ => True

theorem Blind.call {c : Call} {next : c.Reply → Script α} (h : (call c next).Blind) :
    (∀ a, c ≠ .act a) ∧ ∀ reply reply', c.Alike reply reply' → next reply = next reply' ∧ (next reply').Blind := by
  cases c with
  | look =>
      refine ⟨nofun, fun v v' hv => ⟨?_, h.2 v'⟩⟩
      rw [← h.1 v, ← h.1 v', show v.forget = v'.forget from hv]
  | act a => exact h.elim
  | _ => exact ⟨nofun, fun reply reply' hreply => ⟨congrArg next hreply, h reply'⟩⟩

theorem Blind.bind {script : Script α} {f : α → Script β} (h : script.Blind) (hf : ∀ a, (f a).Blind) :
    (script.bind f).Blind := by
  induction script with
  | call c next ih =>
      cases c with
      | look =>
          refine ⟨fun v => ?_, fun v => ih v (h.2 v)⟩
          exact congrArg (fun s => Script.bind s f) (h.1 v)
      | act a => exact h
      | _ => exact fun reply => ih reply (h reply)
  | done a => exact hf a
  | _ => trivial

theorem Blind.ite {p : Prop} [Decidable p] {a b : Script α} (ha : a.Blind) (hb : b.Blind) :
    (if p then a else b).Blind := by
  split
  · exact ha
  · exact hb

theorem blind_done (a : α) : (done a).Blind := trivial

theorem blind_fail (f : Failure) : (fail f : Script α).Blind := trivial

theorem blind_printAll (texts : List String) : (printAll texts).Blind := by
  induction texts with
  | nil => trivial
  | cons text texts ih => exact fun _ => ih

end Script

namespace Commands

theorem blind_report {f : View → Except Failure Result} (hf : ∀ v, f v.forget = f v) : (report f).Blind := by
  refine ⟨fun v => by simp only [hf], fun v => ?_⟩
  dsimp only
  split <;> trivial

theorem blind_changing {label : String} {op : FileOp} {next : Script (Option Result)} (hnext : next.Blind) :
    (changing label op next).Blind := by
  intro outcome
  cases outcome with
  | ok done => exact hnext
  | error e => trivial

theorem blind_mkdirAll (label made : String) (parts : List String) : (mkdirAll label made parts).Blind := by
  induction parts generalizing made with
  | nil => trivial
  | cons part parts ih => exact blind_changing (ih _)

theorem blind_removeAll (label : String) (paths : List String) : (removeAll label paths).Blind := by
  induction paths with
  | nil => trivial
  | cons path paths ih => exact ⟨fun _ => rfl, fun v => blind_changing ih⟩

theorem blind_unlessCancelled {α : Type} {next : Script α} (hnext : next.Blind) : (unlessCancelled next).Blind :=
  ⟨fun _ => rfl, fun _ => Script.Blind.ite trivial hnext⟩

theorem blind_probes (url : String) {next : List Int → Script (Option Result)} (hnext : ∀ times, (next times).Blind)
    (left seq : Nat) (times : List Int) : (probes url next left seq times).Blind := by
  induction left generalizing seq times with
  | zero => exact hnext times
  | succ left ih =>
      refine blind_unlessCancelled fun echo => ?_
      cases echo with
      | cancelled => trivial
      | broken f => trivial
      | answered ms => exact fun _ _ => blind_unlessCancelled (ih _ _)
      | lost => exact fun _ _ => blind_unlessCancelled (ih _ _)

theorem blind_set (args : List String) : (set args).Blind := by
  dsimp only [set]
  split
  · trivial
  · exact fun _ => Script.Blind.ite (fun _ => trivial) trivial

theorem blind_theme (args : List String) : (theme args).Blind := by
  dsimp only [theme]
  split
  · exact blind_report fun _ => rfl
  · trivial
  · exact blind_report fun _ => rfl
  · split
    · trivial
    · exact fun _ => trivial

theorem blind_openLink (args : List String) : (openLink args).Blind := by
  cases args with
  | nil => trivial
  | cons target rest =>
      dsimp only [openLink]
      split
      · trivial
      · exact fun _ => trivial

theorem blind_cd (args : List String) : (cd args).Blind := by
  refine ⟨fun _ => rfl, fun v => Script.Blind.ite (Script.blind_fail _) (Script.Blind.ite (Script.blind_fail _) ?_)⟩
  exact fun _ => Script.blind_done _

theorem blind_nano (args : List String) : (nano args).Blind := by
  cases args with
  | nil => trivial
  | cons path rest =>
      refine ⟨fun _ => rfl, fun v => ?_⟩
      dsimp only
      generalize v.read path = content
      exact Script.Blind.bind (Script.blind_printAll _) fun _ => Script.blind_done _

theorem blind_touch (args : List String) : (touch args).Blind := by
  cases args with
  | nil => trivial
  | cons path rest => exact blind_changing trivial

theorem blind_between (name : String) (op : String → String → FileOp) (args : List String) :
    (between name op args).Blind := by
  match args with
  | [] | [_] => trivial
  | source :: target :: rest => exact blind_changing trivial

theorem blind_mkdir (args : List String) : (mkdir args).Blind := by
  dsimp only [mkdir]
  split
  · trivial
  · refine ⟨fun _ => rfl, fun v => ?_⟩
    dsimp only
    generalize v.isDir (Path.parent (v.resolve _)) = above
    refine Script.Blind.ite (blind_mkdirAll _ _ _) ?_
    exact Script.Blind.ite (Script.blind_done _) (blind_changing (Script.blind_done _))

theorem walk_forget (v : View) (fuel : Nat) (stack met : List String) :
    walk v.forget fuel stack met = walk v fuel stack met := by
  induction fuel generalizing stack met with
  | zero => cases stack <;> rfl
  | succ fuel ih =>
      cases stack with
      | nil => rfl
      | cons path stack => exact ih _ _

theorem victims_forget (v : View) (path : String) : victims v.forget path = victims v path :=
  congrArg (Option.map _) (walk_forget v (walkLimit v) [path] [])

theorem blind_rm (args : List String) : (rm args).Blind := by
  dsimp only [rm]
  split
  · trivial
  · refine ⟨fun v => ?_, fun v => ?_⟩
    · simp only [victims_forget]
      rfl
    · refine Script.Blind.ite (Script.blind_done _) ?_
      refine Script.Blind.ite (blind_changing (Script.blind_done _)) ?_
      refine Script.Blind.ite (Script.blind_fail _) ?_
      split
      · exact blind_removeAll _ _
      · trivial

theorem blind_ping (args : List String) : (ping args).Blind := by
  refine ⟨fun _ => rfl, fun v => ?_⟩
  dsimp only
  split
  · trivial
  · trivial
  · refine fun _ => blind_probes _ (fun times => ?_) _ _ _
    cases summary _ _ times with
    | ok lines => exact (Script.blind_printAll lines).bind fun _ => trivial
    | error f => trivial

theorem blind_builtins {b : Command} (h : b ∈ builtins) (hname : b.info.name ≠ "history") (args : List String) :
    (b.handler args).Blind := by
  revert args
  revert hname
  revert b
  simp only [builtins, List.forall_mem_cons]
  refine ⟨?_, ?_, ?_, ?_, ?_, ?_, ?_, ?_, ?_, fun _ => blind_set, fun _ => blind_theme, fun _ => blind_openLink, ?_,
    fun h => absurd rfl h, ?_, ?_, ?_, ?_, fun _ => blind_cd, ?_, fun _ => blind_touch, fun _ => blind_mkdir,
    fun _ => blind_rm, ?_, fun _ => blind_between _ _, fun _ => blind_between _ _, ?_, ?_, ?_, ?_, fun _ => blind_nano, ?_,
    fun _ => blind_ping, by simp⟩
  all_goals first | exact fun _ args => blind_report fun v => rfl | exact fun _ args => Script.blind_done _

theorem blind_command {name : String} (hname : name ≠ "history") {c : Command}
    (h : Registry.builtin.get? name = some c) (args : List String) : (c.handler args).Blind := by
  obtain ⟨b, hb, hhandler, hmeans⟩ := handler_builtin h
  have hbase : b.info.name ≠ "history" := by
    rcases hmeans with rfl | ⟨text, hmem⟩
    · exact hname
    · have hsecond : ∀ e ∈ secondNames, e.2.1 ≠ "history" := by decide
      exact hsecond _ hmem
  rw [hhandler]
  exact blind_builtins hb hbase args

end Commands

end Terminal
