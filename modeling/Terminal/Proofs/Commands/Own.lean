import Terminal.Proofs.Commands.Footprint
import Terminal.Proofs.Session.Cancelling
import Terminal.Proofs.Session.Part

namespace Terminal

open Session Commands

def Call.harmless : Call → Bool
  | .clear | .moveTo _ | .setVariable _ _ | .change _ | .act _ => false
  | _ => true

theorem Call.not_affects {c : Call} (h : c.harmless = true) (p : Part) : ¬ c.Affects p := by
  intro hp
  cases hp <;> cases h

def Result.Plain (r : Result) : Prop := r.clear = false ∧ r.cwd = none

theorem Result.Plain.not_affects {r : Result} (h : r.Plain) (p : Part) : ¬ r.Affects p := by
  obtain ⟨hclear, hcwd⟩ := h
  intro hp
  cases hp with
  | clear hr => cases hclear.symm.trans hr
  | move hr => cases hcwd.symm.trans hr
  | follow hr => cases hcwd.symm.trans hr

namespace Script

/-- The script changes only the parts in `P`. Once it has changed something it complains no more; it is `fresh` as long
as it has not. -/
def Confined (P : Part → Prop) (fresh : Bool) : Script (Option Result) → Prop
  | .done result => ∀ r, result = some r → ∀ p, r.Affects p → P p
  | .fail f => fresh = true ∨ complaint? (.error f) = none
  | .endless => True
  | .call c next => (∀ p, c.Affects p → P p) ∧ ∀ reply, (next reply).Confined P (c.harmless && fresh)

variable {P Q : Part → Prop} {fresh : Bool}

theorem Confined.mono {script : Script (Option Result)} (h : script.Confined P fresh) (hPQ : ∀ p, P p → Q p) :
    script.Confined Q fresh := by
  induction script generalizing fresh with
  | done result => exact fun r hr p hp => hPQ p (h r hr p hp)
  | fail f => exact h
  | endless => trivial
  | call c next ih => exact ⟨fun p hp => hPQ p (h.1 p hp), fun reply => ih reply (h.2 reply)⟩

theorem Confined.ite {p : Prop} [Decidable p] {a b : Script (Option Result)} (ha : a.Confined P fresh)
    (hb : b.Confined P fresh) : (if p then a else b).Confined P fresh := by
  split
  · exact ha
  · exact hb

theorem confined_of_plain {r : Result} (h : r.Plain) : (done (some r)).Confined P fresh := by
  intro r' hr
  cases hr
  exact fun p hp => absurd hp (h.not_affects p)

theorem confined_harmless {c : Call} {next : c.Reply → Script (Option Result)} (hc : c.harmless = true)
    (hnext : ∀ reply, (next reply).Confined P fresh) : (call c next).Confined P fresh := by
  refine ⟨fun p hp => absurd hp (Call.not_affects hc p), ?_⟩
  rw [hc]
  exact hnext

theorem confined_printAll (texts : List String) {next : Script (Option Result)} (hnext : next.Confined P fresh) :
    ((printAll texts).bind fun _ => next).Confined P fresh := by
  induction texts with
  | nil => exact hnext
  | cons text texts ih => exact confined_harmless rfl fun _ => ih

end Script

namespace Commands

section

variable {P : Part → Prop} {fresh : Bool}

def OnlyPrints (outcome : Except Failure Result) : Prop := ∀ r, outcome = .ok r → r.Plain

theorem onlyPrints_lines (l : List String) : OnlyPrints (lines l) := by
  intro r hr
  cases hr
  exact ⟨rfl, rfl⟩

theorem onlyPrints_error (f : Failure) : OnlyPrints (.error f) := nofun

theorem onlyPrints_bind {α : Type} {x : Except Failure α} {f : α → Except Failure Result} (hf : ∀ a, OnlyPrints (f a)) :
    OnlyPrints (x >>= f) := by
  cases x with
  | ok a => exact hf a
  | error e => exact onlyPrints_error e

theorem onlyPrints_withLines (v : View) (label path : String) {f : List String → Except Failure Result}
    (hf : ∀ l, OnlyPrints (f l)) : OnlyPrints (withLines v label path f) := by
  rw [withLines]
  split
  · exact onlyPrints_lines _
  · exact hf _

theorem confined_report {f : View → Except Failure Result} (hf : ∀ v, OnlyPrints (f v)) :
    (report f).Confined P true := by
  refine Script.confined_harmless rfl fun v => ?_
  cases hv : f v with
  | ok r => exact Script.confined_of_plain (hf v r hv)
  | error e => exact .inl rfl

theorem confined_say (s : String) : (say s).Confined P fresh := Script.confined_of_plain ⟨rfl, rfl⟩

theorem confined_quietly : quietly.Confined P fresh := Script.confined_of_plain ⟨rfl, rfl⟩

theorem confined_changing (hfiles : P .files) {label : String} {op : FileOp} {next : Script (Option Result)}
    (hnext : next.Confined P false) : (changing label op next).Confined P fresh := by
  refine ⟨fun p hp => ?_, fun outcome => ?_⟩
  · cases hp
    exact hfiles
  · cases outcome with
    | ok done => exact hnext
    | error e => exact confined_say _

theorem confined_mkdirAll (hfiles : P .files) (label made : String) (parts : List String) :
    (mkdirAll label made parts).Confined P fresh := by
  induction parts generalizing made fresh with
  | nil => exact confined_quietly
  | cons part parts ih => exact confined_changing hfiles (ih _)

theorem confined_removeAll (hfiles : P .files) (label : String) (paths : List String) :
    (removeAll label paths).Confined P fresh := by
  induction paths generalizing fresh with
  | nil => exact confined_quietly
  | cons path paths ih => exact Script.confined_harmless rfl fun v => confined_changing hfiles ih

theorem confined_unlessCancelled {next : Script (Option Result)} (hnext : next.Confined P fresh) :
    (unlessCancelled next).Confined P fresh :=
  Script.confined_harmless rfl fun _ => Script.Confined.ite (.inr rfl) hnext

theorem confined_probes (url : String) {next : List Int → Script (Option Result)}
    (hnext : ∀ times, (next times).Confined P fresh) (left seq : Nat) (times : List Int) :
    (probes url next left seq times).Confined P fresh := by
  induction left generalizing seq times with
  | zero => exact hnext times
  | succ left ih =>
      refine confined_unlessCancelled (Script.confined_harmless rfl fun echo => ?_)
      cases echo with
      | cancelled => exact .inr rfl
      | broken f => exact .inr rfl
      | answered ms =>
          refine Script.confined_harmless rfl fun _ => Script.confined_harmless rfl fun _ => ?_
          exact confined_unlessCancelled (ih _ _)
      | lost =>
          refine Script.confined_harmless rfl fun _ => Script.confined_harmless rfl fun _ => ?_
          exact confined_unlessCancelled (ih _ _)

end

section

variable {P : List String → Part → Prop} (args : List String)

theorem confined_help : (help args).Confined (P args) true := by
  refine confined_report fun v => ?_
  split <;> exact onlyPrints_lines _

theorem confined_man : (man args).Confined (P args) true := by
  refine confined_report fun v => ?_
  split
  · exact onlyPrints_error _
  · split <;> exact onlyPrints_lines _

theorem confined_which : (which args).Confined (P args) true := by
  refine confined_report fun v => ?_
  split
  · exact onlyPrints_error _
  · split <;> exact onlyPrints_lines _

theorem confined_uptime : (uptime args).Confined (P args) true :=
  confined_report fun _ => onlyPrints_bind fun _ => onlyPrints_bind fun _ => onlyPrints_bind fun _ => onlyPrints_lines _

theorem history_eq_report : ∃ look, history args = report look ∧ ∀ v, OnlyPrints (look v) := by
  refine ⟨_, rfl, fun v => ?_⟩
  split
  · exact onlyPrints_lines _
  · exact onlyPrints_error _
  · refine onlyPrints_bind fun n => ?_
    split
    · exact onlyPrints_error _
    · split
      · exact onlyPrints_error _
      · exact onlyPrints_lines _

theorem confined_history : (history args).Confined (P args) true := by
  obtain ⟨look, he, hlook⟩ := history_eq_report args
  rw [he]
  exact confined_report hlook

theorem confined_ls : (ls args).Confined (P args) true := by
  refine confined_report fun v => ?_
  dsimp only
  split
  · exact onlyPrints_lines _
  · split
    · exact onlyPrints_lines _
    · split
      · exact onlyPrints_bind fun l => onlyPrints_lines l
      · exact onlyPrints_lines _

theorem confined_cat : (cat args).Confined (P args) true := by
  refine confined_report fun v => ?_
  split
  · exact onlyPrints_error _
  · exact onlyPrints_withLines _ _ _ onlyPrints_lines

theorem confined_tree : (tree args).Confined (P args) true := by
  have hdrawn (v : View) (depth : Int) : OnlyPrints (
      if !v.exists? (v.resolve (args.headD ".")) then .error (.notFound ("tree: " ++ args.headD "." ++ ": " ++ noSuch))
      else if !v.isDir (v.resolve (args.headD ".")) then
        .error (.typeMismatch ("tree: " ++ args.headD "." ++ ": Not a directory"))
      else do lines (Text.lines (← orFault (v.drawing (v.resolve (args.headD ".")) depth)))) := by
    split
    · exact onlyPrints_error _
    · split
      · exact onlyPrints_error _
      · exact onlyPrints_bind fun text => onlyPrints_lines _
  refine confined_report fun v => ?_
  dsimp only
  split
  · exact onlyPrints_bind (hdrawn v)
  · exact onlyPrints_bind (hdrawn v)

theorem confined_part (name : String) (pick : Nat → List String → List String) (args : List String) :
    (part name pick args).Confined (P args) true := by
  refine confined_report fun v => onlyPrints_bind fun option => ?_
  split
  · exact onlyPrints_error _
  · exact onlyPrints_withLines _ _ _ fun l => onlyPrints_lines _

theorem confined_grep : (grep args).Confined (P args) true := by
  refine confined_report fun v => ?_
  split
  · split
    · exact onlyPrints_lines _
    · exact onlyPrints_error _
    · exact onlyPrints_withLines _ _ _ fun l => onlyPrints_bind fun found => onlyPrints_lines found
  · exact onlyPrints_error _

theorem confined_wc : (wc args).Confined (P args) true := by
  refine confined_report fun v => ?_
  split
  · exact onlyPrints_error _
  · split <;> exact onlyPrints_lines _

theorem confined_stat : (stat args).Confined (P args) true := by
  refine confined_report fun v => ?_
  split
  · exact onlyPrints_error _
  · split
    · exact onlyPrints_lines _
    · exact onlyPrints_bind fun created => onlyPrints_bind fun updated => onlyPrints_lines _

theorem confined_openLink : (openLink args).Confined (P args) true := by
  cases args with
  | nil => exact .inl rfl
  | cons target rest =>
      dsimp only [openLink]
      split
      · exact confined_say _
      · exact Script.confined_harmless rfl fun _ => confined_say _

theorem confined_nano : (nano args).Confined (P args) true := by
  cases args with
  | nil => exact .inl rfl
  | cons path rest => exact Script.confined_harmless rfl fun v => Script.confined_printAll _ confined_quietly

theorem confined_ping : (ping args).Confined (P args) true := by
  refine Script.confined_harmless rfl fun v => ?_
  split
  · exact .inl rfl
  · exact .inl rfl
  · refine Script.confined_harmless rfl fun _ => confined_probes _ (fun times => ?_) _ _ _
    cases summary _ _ times with
    | ok lines => exact Script.confined_printAll lines confined_quietly
    | error f => exact .inr rfl

end

section

variable {P : List String → Part → Prop} (hfiles : ∀ args, P args .files) (args : List String)
include hfiles

theorem confined_touch : (touch args).Confined (P args) true := by
  cases args with
  | nil => exact .inl rfl
  | cons path rest => exact confined_changing (hfiles _) confined_quietly

theorem confined_between (name : String) (op : String → String → FileOp) (args : List String) :
    (between name op args).Confined (P args) true := by
  match args with
  | [] | [_] => exact .inl rfl
  | source :: target :: rest => exact confined_changing (hfiles _) confined_quietly

theorem confined_mkdir : (mkdir args).Confined (P args) true := by
  dsimp only [mkdir]
  split
  · exact .inl rfl
  · refine Script.confined_harmless rfl fun v => ?_
    -- left in place, the test would be evaluated where its branches are compared
    generalize v.isDir (Path.parent (v.resolve _)) = above
    refine .ite (confined_mkdirAll (hfiles args) _ _ _) ?_
    exact .ite (confined_say _) (confined_changing (hfiles args) confined_quietly)

theorem confined_rm : (rm args).Confined (P args) true := by
  dsimp only [rm]
  split
  · exact .inl rfl
  · refine Script.confined_harmless rfl fun v => ?_
    refine .ite (confined_say _) (.ite (confined_changing (hfiles args) confined_quietly) (.ite (.inl rfl) ?_))
    split
    · exact confined_removeAll (hfiles args) _ _
    · trivial

end

inductive Own (name : String) (args : List String) : Part → Prop
  | files : name ∈ ["touch", "mkdir", "rm", "mv", "cp"] → Own name args .files
  | assign {key value : String} :
      name ∈ ["set", "export"] → args.head?.bind assignment? = some (key, value) → Own name args (.value key)
  | enter {value : String} :
      name ∈ ["set", "export"] → args.head?.bind assignment? = some ("PWD", value) → Own name args .cwd
  | leave {key : String} : name = "cd" → key ∈ ["OLDPWD", "PWD"] → Own name args (.value key)
  | move : name = "cd" → Own name args .cwd
  | theme : name = "theme" → Own name args (.value "THEME")
  | records : name ∈ ["clear", "cls"] → Own name args .records

theorem confined_clear (args : List String) : (clear args).Confined (Own "clear" args) true := by
  intro r hr p hp
  cases hr
  cases hp with
  | clear _ => exact .records (by simp)
  | move hcwd => cases hcwd
  | follow hcwd => cases hcwd

theorem confined_set (args : List String) : (set args).Confined (Own "set" args) true := by
  dsimp only [set]
  split
  · exact .inl rfl
  · rename_i key value hargs
    refine ⟨fun p hp => ?_, fun _ => ?_⟩
    · cases hp
      exact .assign (by simp) hargs
    · by_cases hkey : key = "PWD"
      · subst hkey
        refine ⟨fun p hp => ?_, fun _ => confined_quietly⟩
        cases hp with
        | move => exact .enter (by simp) hargs
        | follow => exact .assign (by simp) hargs
      · rw [if_neg hkey]
        exact confined_quietly

theorem confined_cd (args : List String) : (cd args).Confined (Own "cd" args) true := by
  refine Script.confined_harmless rfl fun v => .ite (.inl rfl) (.ite (.inl rfl) ⟨fun p hp => ?_, fun _ => ?_⟩)
  · cases hp
    exact .leave rfl (by simp)
  · intro r hr p hp
    cases hr
    cases hp with
    | clear hclear => cases hclear
    | move _ => exact .move rfl
    | follow _ => exact .leave rfl (by simp)

theorem confined_theme (args : List String) : (theme args).Confined (Own "theme" args) true := by
  dsimp only [theme]
  split
  · exact confined_report fun v => onlyPrints_lines _
  · exact confined_say _
  · exact confined_report fun v => onlyPrints_lines _
  · split
    · exact confined_say _
    · refine ⟨fun p hp => ?_, fun _ => confined_say _⟩
      cases hp
      exact .theme rfl

theorem confined_builtins {b : Command} (h : b ∈ builtins) (args : List String) :
    (b.handler args).Confined (Own b.info.name args) true := by
  revert args
  revert b
  simp only [builtins, List.forall_mem_cons]
  exact ⟨confined_help, confined_man, confined_clear, fun _ => confined_say _,
    fun _ => confined_report fun _ => onlyPrints_lines _, fun _ => confined_report fun _ => onlyPrints_lines _,
    fun _ => confined_say _, fun _ => confined_report fun _ => onlyPrints_bind fun _ => onlyPrints_lines _,
    fun _ => confined_report fun _ => onlyPrints_lines _, confined_set, confined_theme, confined_openLink,
    fun _ => Script.confined_of_plain ⟨rfl, rfl⟩, confined_history, confined_uptime, fun _ => confined_say _,
    confined_which, confined_ls, confined_cd, confined_cat, confined_touch fun _ => .files (by simp),
    confined_mkdir fun _ => .files (by simp), confined_rm fun _ => .files (by simp), confined_tree,
    confined_between (fun _ => .files (by simp)) _ _, confined_between (fun _ => .files (by simp)) _ _, confined_part _ _,
    confined_part _ _, confined_grep, confined_wc, confined_nano, confined_stat, confined_ping, by simp⟩

theorem own_of_assignment {name : String} {args : List String} {key value : String} (hname : name ∈ ["set", "export"])
    (hargs : args.head?.bind assignment? = some (key, value)) {p : Part} (hp : Own name args p) :
    p = .value key ∨ key = "PWD" ∧ p = .cwd := by
  have hname' : name = "set" ∨ name = "export" := by simpa using hname
  cases hp with
  | assign _ h =>
      cases h.symm.trans hargs
      exact .inl rfl
  | enter _ h =>
      cases h.symm.trans hargs
      exact .inr ⟨rfl, rfl⟩
  | _ => rcases hname' with rfl | rfl <;> simp_all

theorem own_of_means {name base : String} (h : Means name base) {args : List String} {p : Part}
    (hp : Own base args p) : Own name args p := by
  rcases h with rfl | ⟨text, hmem⟩
  · exact hp
  · have hsecond : (name = "cls" ∧ base = "clear") ∨ (name = "printenv" ∧ base = "env") ∨
        (name = "export" ∧ base = "set") ∨ (name = "dir" ∧ base = "ls") := by
      simp only [secondNames, List.mem_cons, Prod.mk.injEq, List.not_mem_nil, or_false] at hmem
      tauto
    rcases hsecond with ⟨rfl, rfl⟩ | ⟨rfl, rfl⟩ | ⟨rfl, rfl⟩ | ⟨rfl, rfl⟩
    · cases hp with
      | records _ => exact .records (by simp)
      | _ => simp_all
    · cases hp <;> simp_all
    · cases hp with
      | assign _ hargs => exact .assign (by simp) hargs
      | enter _ hargs => exact .enter (by simp) hargs
      | _ => simp_all
    · cases hp <;> simp_all

theorem confined_command {name : String} {c : Command} (h : Registry.builtin.get? name = some c) (args : List String) :
    (c.handler args).Confined (Own name args) true := by
  obtain ⟨b, hb, hhandler, hmeans⟩ := handler_builtin h
  rw [hhandler]
  exact (confined_builtins hb args).mono fun p hp => own_of_means hmeans hp

end Commands

end Terminal
