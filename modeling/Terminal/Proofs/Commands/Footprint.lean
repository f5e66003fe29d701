import Terminal.Commands

namespace Terminal

namespace Script

variable {α β : Type} {allowed : Call → Prop}

def Calls (allowed : Call → Prop) : Script α → Prop
  | .call c next => allowed c ∧ ∀ r, (next r).Calls allowed
  | _ => True

theorem Calls.mono {allowed' : Call → Prop} {script : Script α} (h : script.Calls allowed)
    (hallowed : ∀ c, allowed c → allowed' c) : script.Calls allowed' := by
  induction script with
  | call c next ih =>
      obtain ⟨hc, hnext⟩ := h
      exact ⟨hallowed c hc, fun r => ih r (hnext r)⟩
  | _ => trivial

theorem Calls.bind {script : Script α} {f : α → Script β} (h : script.Calls allowed)
    (hf : ∀ a, (f a).Calls allowed) : (script.bind f).Calls allowed := by
  induction script with
  | call c next ih =>
      obtain ⟨hc, hnext⟩ := h
      exact ⟨hc, fun r => ih r (hnext r)⟩
  | done a => exact hf a
  | _ => trivial

theorem Calls.ite {p : Prop} [Decidable p] {a b : Script α} (ha : a.Calls allowed) (hb : b.Calls allowed) :
    (if p then a else b).Calls allowed := by
  split
  · exact ha
  · exact hb

theorem calls_printAll (hprint : ∀ text, allowed (.print text)) (texts : List String) :
    (printAll texts).Calls allowed := by
  induction texts with
  | nil => trivial
  | cons text texts ih => exact ⟨hprint text, fun _ => ih⟩

theorem calls_ofExcept {ε : Type} (f : ε → Failure) (outcome : Except ε α) :
    (ofExcept f outcome).Calls allowed := by
  cases outcome <;> trivial

end Script

namespace Registry

def Holds (P : String → Command → Prop) (r : Registry) : Prop := ∀ name c, r.get? name = some c → P name c

variable {P : String → Command → Prop} {r r' : Registry}

theorem holds_empty : empty.Holds P := fun _ _ h => nomatch h

theorem Holds.add (h : r.Holds P) {c : Command} (hc : P c.info.name c) (hadd : r.add c = .ok r') : r'.Holds P := by
  rw [Registry.add] at hadd
  split at hadd
  · cases hadd
  · cases hadd
    intro name d hd
    by_cases hname : c.info.name = name
    · subst hname
      have hput : some c = some d := (Table.get?_put_self r.commands c.info.name c).symm.trans hd
      cases hput
      exact hc
    · exact h name d ((Table.get?_put_of_ne r.commands c hname).symm.trans hd)

theorem foldlM_keeps {α β ε : Type} {Q : β → Prop} {f : β → α → Except ε β} {l : List α}
    (hstep : ∀ a ∈ l, ∀ b b', Q b → f b a = .ok b' → Q b') {b b' : β} (hb : Q b) (h : l.foldlM f b = .ok b') : Q b' := by
  induction l generalizing b with
  | nil =>
      cases h
      exact hb
  | cons a l ih =>
      have hbind : (f b a).bind (fun b => l.foldlM f b) = .ok b' := h
      cases hfirst : f b a with
      | error e =>
          rw [hfirst] at hbind
          cases hbind
      | ok b₁ =>
          rw [hfirst] at hbind
          refine ih (fun a' ha' => hstep a' (List.mem_cons_of_mem _ ha')) ?_ hbind
          exact hstep a (List.mem_cons_self ..) b b₁ hb hfirst

theorem Holds.addAll (h : r.Holds P) {cs : List Command} (hcs : ∀ c ∈ cs, P c.info.name c)
    (hadd : r.addAll cs = .ok r') : r'.Holds P :=
  foldlM_keeps (Q := Holds P) (fun c hc _ _ hr hadd => hr.add (hcs c hc) hadd) h hadd

theorem Holds.addAliases (h : r.Holds P) {names : List (String × String × Option String)}
    (hnames : ∀ e ∈ names, ∀ c, P e.2.1 c → P e.1 (aliasOf e.1 e.2.2 c))
    (hadd : r.addAliases names = .ok r') : r'.Holds P := by
  refine foldlM_keeps (Q := Holds P) (fun e he r₁ r₂ hr hfirst => ?_) h hadd
  rw [addAlias] at hfirst
  split at hfirst
  · cases hfirst
  · split at hfirst
    · cases hfirst
      exact hr
    · rename_i c hc
      exact hr.add (hnames e he c (hr _ c hc)) hfirst

end Registry

namespace Commands

inductive Footprint : String → Call → Prop
  | look {name : String} : Footprint name .look
  | print {name : String} (text : String) : name ∈ ["nano", "ping"] → Footprint name (.print text)
  | change {name : String} (op : FileOp) :
      name ∈ ["touch", "mkdir", "rm", "mv", "cp"] → Footprint name (.change op)
  | assign (key value : String) : Footprint "set" (.setVariable key value)
  | moveTo (path : String) : Footprint "set" (.moveTo path)
  | leave (path : String) : Footprint "cd" (.setVariable "OLDPWD" path)
  | theme (label : String) : Footprint "theme" (.setVariable "THEME" label)
  | openLink (url : String) : Footprint "open" (.openLink url)
  | probe (url : String) : Footprint "ping" (.probe url)
  | pause : Footprint "ping" .pause

section

variable {allowed : Call → Prop}

theorem calls_report (hlook : allowed .look) (f : View → Except Failure Result) : (report f).Calls allowed := by
  refine ⟨hlook, fun v => ?_⟩
  dsimp only
  split <;> trivial

theorem calls_changing {label : String} {op : FileOp} {next : Script (Option Result)} (hop : allowed (.change op))
    (hnext : next.Calls allowed) : (changing label op next).Calls allowed := by
  refine ⟨hop, fun outcome => ?_⟩
  dsimp only
  cases outcome with
  | ok done => exact hnext
  | error e => trivial

theorem calls_mkdirAll (hchange : ∀ op, allowed (.change op)) (label made : String) (parts : List String) :
    (mkdirAll label made parts).Calls allowed := by
  induction parts generalizing made with
  | nil => trivial
  | cons part parts ih => exact calls_changing (hchange _) (ih _)

theorem calls_removeAll (hlook : allowed .look) (hchange : ∀ op, allowed (.change op)) (label : String)
    (paths : List String) : (removeAll label paths).Calls allowed := by
  induction paths with
  | nil => trivial
  | cons path paths ih => exact ⟨hlook, fun v => calls_changing (hchange _) ih⟩

theorem calls_unlessCancelled (hlook : allowed .look) {α : Type} {next : Script α} (hnext : next.Calls allowed) :
    (unlessCancelled next).Calls allowed := by
  exact ⟨hlook, fun v => Script.Calls.ite trivial hnext⟩

theorem calls_probes (hlook : allowed .look) (hprint : ∀ text, allowed (.print text)) {url : String}
    (hprobe : allowed (.probe url)) (hpause : allowed .pause) {next : List Int → Script (Option Result)}
    (hnext : ∀ times, (next times).Calls allowed) (left seq : Nat) (times : List Int) :
    (probes url next left seq times).Calls allowed := by
  induction left generalizing seq times with
  | zero => exact hnext times
  | succ left ih =>
      refine calls_unlessCancelled hlook ⟨hprobe, fun echo => ?_⟩
      cases echo with
      | answered ms => exact ⟨hprint _, fun _ => ⟨hpause, fun _ => calls_unlessCancelled hlook (ih _ _)⟩⟩
      | lost => exact ⟨hprint _, fun _ => ⟨hpause, fun _ => calls_unlessCancelled hlook (ih _ _)⟩⟩
      | cancelled => trivial
      | broken f => trivial

end

theorem calls_set (args : List String) : (set args).Calls (Footprint "set") := by
  dsimp only [set]
  split
  · trivial
  · rename_i key value _
    exact ⟨.assign key value, fun _ => Script.Calls.ite ⟨.moveTo value, fun _ => trivial⟩ trivial⟩

theorem calls_theme (args : List String) : (theme args).Calls (Footprint "theme") := by
  dsimp only [theme]
  split
  · exact calls_report .look _
  · trivial
  · exact calls_report .look _
  · split
    · trivial
    · exact ⟨.theme _, fun _ => trivial⟩

theorem calls_openLink (args : List String) : (openLink args).Calls (Footprint "open") := by
  cases args with
  | nil => trivial
  | cons target rest =>
      dsimp only [openLink]
      split
      · trivial
      · exact ⟨.openLink _, fun _ => trivial⟩

theorem calls_cd (args : List String) : (cd args).Calls (Footprint "cd") := by
  exact ⟨.look, fun v => Script.Calls.ite trivial (Script.Calls.ite trivial ⟨.leave _, fun _ => trivial⟩)⟩

theorem calls_nano (args : List String) : (nano args).Calls (Footprint "nano") := by
  cases args with
  | nil => trivial
  | cons path rest =>
      refine ⟨.look, fun v => ?_⟩
      exact (Script.calls_printAll (fun text => .print text (by simp)) _).bind fun _ => trivial

theorem calls_touch (args : List String) : (touch args).Calls (Footprint "touch") := by
  cases args with
  | nil => trivial
  | cons path rest => exact calls_changing (.change _ (by simp)) trivial

theorem calls_between (hchange : ∀ op, allowed (.change op)) (name : String) (op : String → String → FileOp)
    (args : List String) : (between name op args).Calls allowed := by
  match args with
  | [] | [_] => trivial
  | source :: target :: rest => exact calls_changing (hchange _) trivial

theorem calls_mkdir (args : List String) : (mkdir args).Calls (Footprint "mkdir") := by
  have hchange (op : FileOp) : Footprint "mkdir" (.change op) := .change op (by simp)
  dsimp only [mkdir]
  split
  · trivial
  · rename_i typed rest _
    refine ⟨.look, fun v => ?_⟩
    dsimp only
    generalize v.isDir (Path.parent (v.resolve typed)) = above
    refine Script.Calls.ite (calls_mkdirAll hchange _ _ _) ?_
    exact Script.Calls.ite trivial (calls_changing (hchange _) trivial)

theorem calls_rm (args : List String) : (rm args).Calls (Footprint "rm") := by
  have hchange (op : FileOp) : Footprint "rm" (.change op) := .change op (by simp)
  dsimp only [rm]
  split
  · trivial
  · refine ⟨.look, fun v => ?_⟩
    dsimp only
    refine Script.Calls.ite trivial (Script.Calls.ite (calls_changing (hchange _) trivial) (Script.Calls.ite trivial ?_))
    split
    · exact calls_removeAll .look hchange _ _
    · trivial

theorem calls_ping (args : List String) : (ping args).Calls (Footprint "ping") := by
  refine ⟨.look, fun v => ?_⟩
  dsimp only
  split
  · trivial
  · trivial
  · refine ⟨.print _ (by simp), fun _ => ?_⟩
    refine calls_probes .look (fun text => .print text (by simp)) (.probe _) .pause (fun times => ?_) _ _ _
    refine Script.Calls.bind (Script.Calls.bind (Script.calls_ofExcept _ _) fun lines => ?_) fun _ => trivial
    exact Script.calls_printAll (fun text => .print text (by simp)) lines

theorem calls_builtins {c : Command} (h : c ∈ builtins) (args : List String) :
    (c.handler args).Calls (Footprint c.info.name) := by
  revert args
  revert c
  simp only [builtins, List.forall_mem_cons]
  refine ⟨?_, ?_, ?_, ?_, ?_, ?_, ?_, ?_, ?_, calls_set, calls_theme, calls_openLink, ?_, ?_, ?_, ?_, ?_, ?_, calls_cd,
    ?_, calls_touch, calls_mkdir, calls_rm, ?_, calls_between (fun op => .change op (by simp)) _ _,
    calls_between (fun op => .change op (by simp)) _ _, ?_, ?_, ?_, ?_, calls_nano, ?_, calls_ping,
    by simp⟩
  all_goals first | exact fun args => calls_report .look _ | exact fun args => trivial

def Means (name base : String) : Prop := name = base ∨ ∃ text, (name, base, text) ∈ secondNames

theorem handler_builtin {name : String} {c : Command} (h : Registry.builtin.get? name = some c) :
    ∃ b ∈ builtins, c.handler = b.handler ∧ Means name b.info.name := by
  have hstandard : Registry.standard.Holds fun name c =>
      ∃ b ∈ builtins, c.handler = b.handler ∧ Means name b.info.name := by
    dsimp only [Registry.standard]
    split
    · rename_i r hr
      rw [Except.bind.eq_def] at hr
      split at hr
      · cases hr
      · rename_i r₁ hr₁
        refine Registry.Holds.addAliases ?_ ?_ hr
        · exact Registry.holds_empty.addAll (fun c hc => ⟨c, hc, rfl, .inl rfl⟩) hr₁
        · rintro e he c ⟨b, hb, hhandler, hmeans⟩
          obtain ⟨⟨second, base, text⟩, hsecond, rfl⟩ := List.mem_map.1 he
          refine ⟨b, hb, hhandler, .inr ?_⟩
          rcases hmeans with hbase | ⟨text', hbase⟩
          · exact ⟨text, hbase ▸ hsecond⟩
          · have hnone : ∀ e ∈ secondNames, ∀ e' ∈ secondNames, e'.1 ≠ e.2.1 := by decide
            exact absurd rfl (hnone _ hsecond _ hbase)
    · exact Registry.holds_empty
  exact hstandard name c h

theorem handler_of_first_name {name : String} {c : Command} {handler : Handler} (h : Registry.builtin.get? name = some c)
    (hsecond : ∀ e ∈ secondNames, e.1 ≠ name) (hfirst : ∀ b ∈ builtins, b.info.name = name → b.handler = handler) :
    c.handler = handler := by
  obtain ⟨b, hb, hhandler, hmeans⟩ := handler_builtin h
  rw [hhandler]
  rcases hmeans with hname | ⟨text, hmem⟩
  · exact hfirst b hb hname.symm
  · exact absurd rfl (hsecond _ hmem)

end Commands

end Terminal
