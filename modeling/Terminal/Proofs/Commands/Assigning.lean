import Terminal.Proofs.Commands.Selecting
import Terminal.Proofs.Session.Toggling
import Terminal.Proofs.Session.Variables

namespace Terminal

open Commands

def assignment (e : String × String) : String := e.1 ++ "=" ++ e.2

theorem cutAt_assignment {e : String × String} (h : IsKey e.1) :
    Text.cutAt '=' (assignment e).toList = some (e.1.toList, e.2.toList) := by
  rw [assignment, String.toList_append, String.toList_append, List.append_assoc]
  exact Text.cutAt_append h.2 e.2.toList

theorem assignment?_assignment {e : String × String} (h : IsKey e.1) : assignment? (assignment e) = some e := by
  obtain ⟨key, value⟩ := e
  have hne : key.toList ≠ [] := by simpa using h.1
  obtain ⟨c, cs, hkey⟩ := List.exists_cons_of_ne_nil hne
  rw [assignment?, cutAt_assignment h, hkey]
  dsimp only
  rw [← hkey, String.ofList_toList, String.ofList_toList]

namespace Session

variable {s s' : Session} {e : String × String} {es : Environment}

def assign (s : Session) (e : String × String) : Session :=
  if e.1 = "PWD" then (s.setVariable e.1 e.2).moveTo e.2 else s.setVariable e.1 e.2

/-- The command of the handler is passed the lines one after another, each as its only argument, and always ends well. -/
inductive Replays (handler : Handler) : List String → Session → Session → Prop
  | nil {s : Session} : Replays handler [] s s
  | cons {line : String} {lines : List String} {s s' s'' : Session} :
      (∀ prior, (handler [line]).run (perform emit prior) s = (.done (some {}), s')) →
      Replays handler lines s' s'' → Replays handler (line :: lines) s s''

theorem run_set (h : IsKey e.1) (prior : List String) (s : Session) :
    (Commands.set [assignment e]).run (perform emit prior) s = (.done (some {}), s.assign e) := by
  have hargs : [assignment e].head?.bind assignment? = some e := assignment?_assignment h
  have hset : Commands.set [assignment e] = .call (.setVariable e.1 e.2) fun _ =>
      if e.1 = "PWD" then .call (.moveTo e.2) fun _ => quietly else quietly := by
    dsimp only [Commands.set]
    rw [hargs]
  rw [hset, assign]
  by_cases hpwd : e.1 = "PWD"
  · rw [if_pos hpwd, if_pos hpwd]
    rfl
  · rw [if_neg hpwd, if_neg hpwd]
    rfl

theorem replays_set (h : ∀ e ∈ es, IsKey e.1) (s : Session) :
    Replays Commands.set (es.map assignment) s (es.foldl assign s) := by
  induction es generalizing s with
  | nil => exact .nil
  | cons e es ih =>
      obtain ⟨he, hes⟩ := List.forall_mem_cons.1 h
      exact .cons (fun prior => run_set he prior s) (ih hes (s.assign e))

theorem moveTo_canonical {path : String} (h : Path.Canonical path) (s : Session) :
    s.moveTo path = { s with cwd := path, env := s.env.put "PWD" path } := by
  rw [moveTo, resolve_canonical h, Path.normalize_of_canonical h]

section Canonical

variable (h : e.1 = "PWD" → Path.Canonical e.2)

include h

theorem get?_assign (key : String) : (s.assign e).env.get? key = if e.1 = key then some e.2 else s.env.get? key := by
  have hput (env : Environment) : (env.put e.1 e.2).get? key = if e.1 = key then some e.2 else env.get? key := by
    split
    · rename_i hkey
      exact hkey ▸ Table.get?_put_self ..
    · rename_i hne
      exact Table.get?_put_of_ne env e.2 hne
  rw [assign]
  split
  · rename_i hpwd
    have hmoved : ((s.setVariable e.1 e.2).moveTo e.2).env = (s.env.put e.1 e.2).put e.1 e.2 := by
      rw [moveTo_canonical (h hpwd), hpwd]
      rfl
    rw [hmoved, hput, hput]
    split <;> rfl
  · exact hput s.env

theorem cwd_assign : (s.assign e).cwd = if e.1 = "PWD" then e.2 else s.cwd := by
  rw [assign]
  split
  · rename_i hpwd
    rw [moveTo_canonical (h hpwd)]
  · rfl

end Canonical

theorem pairwise_assign (h : s.env.keys.Pairwise (· < ·)) (e : String × String) :
    (s.assign e).env.keys.Pairwise (· < ·) := by
  rw [assign]
  split
  · exact Table.pairwise_put (Table.pairwise_put h _ _) _ _
  · exact Table.pairwise_put h _ _

theorem pairwise_assignAll (h : s.env.keys.Pairwise (· < ·)) :
    (es.foldl assign s).env.keys.Pairwise (· < ·) := by
  induction es generalizing s with
  | nil => exact h
  | cons e es ih => exact ih (pairwise_assign h e)

section Sorted

variable (hsorted : es.keys.Pairwise (· < ·)) (hcanonical : ∀ e ∈ es, e.1 = "PWD" → Path.Canonical e.2)

include hsorted hcanonical

theorem assignAll (s : Session) :
    (∀ key, (es.foldl assign s).env.get? key = (es.get? key).or (s.env.get? key)) ∧
      (es.foldl assign s).cwd = (es.get? "PWD").getD s.cwd := by
  induction es generalizing s with
  | nil => exact ⟨fun _ => rfl, rfl⟩
  | cons e es ih =>
      obtain ⟨he, hes⟩ := List.forall_mem_cons.1 hcanonical
      obtain ⟨hlt, hrest⟩ := List.pairwise_cons.1 (show (e.1 :: Table.keys es).Pairwise (· < ·) from hsorted)
      obtain ⟨hget, hcwd⟩ := ih hrest hes (s.assign e)
      have hnone : Table.get? es e.1 = none := by
        rw [← Option.not_isSome_iff_eq_none, Table.isSome_get?_iff]
        exact fun hmem => String.lt_irrefl e.1 (hlt e.1 hmem)
      refine ⟨fun key => ?_, ?_⟩
      · rw [List.foldl_cons, hget, get?_assign he, Table.get?]
        split
        · rename_i hkey
          rw [← hkey, hnone]
          rfl
        · rfl
      · rw [List.foldl_cons, hcwd, cwd_assign he, Table.get?]
        split
        · rename_i hpwd
          rw [← hpwd, hnone]
          rfl
        · rfl

end Sorted

theorem restores (hkeyed : s.Keyed) (hhomed : s.Homed) (config : Config) (files : Tree) (log : Log) (world : World) :
    let fresh := start config files .builtin log world
    (s.env.foldl assign fresh).env = s.env ∧ (s.env.foldl assign fresh).cwd = s.cwd := by
  intro fresh
  have hcanonical : ∀ e ∈ s.env, e.1 = "PWD" → Path.Canonical e.2 := by
    rintro ⟨key, value⟩ he rfl
    cases (Table.get?_of_mem hkeyed.sorted he).symm.trans hhomed.mirrored
    exact hhomed.placed.canonical
  obtain ⟨hget, hcwd⟩ := assignAll hkeyed.sorted hcanonical fresh
  refine ⟨Table.eq_of_get? (pairwise_assignAll (keyed_start _ _ _ _ _).sorted) hkeyed.sorted fun key => ?_, ?_⟩
  · rw [hget]
    cases hkey : s.env.get? key with
    | some value => rfl
    | none =>
        -- a new session has no variable that the other one lacks
        have hfresh : key ∉ fresh.env.keys := fun hmem => by
          have hstanding : key ∈ standing := by
            rcases Table.mem_keys_put.1 hmem with rfl | hmem
            · decide
            · exact (mem_keys_environment config).1 hmem
          have hhas := hhomed.placed.standing key hstanding
          rw [Table.has, hkey] at hhas
          cases hhas
        rw [← Table.isSome_get?_iff, Option.not_isSome_iff_eq_none] at hfresh
        exact hfresh
  · rw [hcwd, hhomed.mirrored]
    rfl

theorem answers_env (s : Session) (args : List String) : s.Answers "env" args (s.env.map assignment) := by
  have hbuiltin : ∃ c, Registry.builtin.get? "env" = some c ∧ c.handler = Commands.env :=
    exists_builtin (by decide +kernel) (by decide) (by simp [builtins])
  refine answers_of_yields hbuiltin fun s' hstays => yields_report fun prior => ?_
  rw [← hstays.env]
  rfl

end Session

open Session

namespace Scene

/-- Each line of `env` is the assignment of one variable, in the order of their names. Passed to `set`, they turn a session
that has just begun into one with the same variables in the same directory. -/
theorem env_replays {config : Config} {m : Scene} (h : m.Comes config) (hsettled : m.Settled) :
    let s := m.session
    (∀ args, s.Answers "env" args (s.env.map assignment)) ∧
    (∀ e ∈ s.env, e.1 ≠ "" ∧ '=' ∉ e.1.toList ∧
      Text.cutAt '=' (assignment e).toList = some (e.1.toList, e.2.toList)) ∧
    s.env.keys.Pairwise (· < ·) ∧
    (∀ key value, (key, value) ∈ s.env ↔ s.env.get? key = some value) ∧
    ∃ c, Registry.builtin.get? "set" = some c ∧ ∀ config files log world, ∃ s',
      Replays c.handler (s.env.map assignment) (start config files .builtin log world) s' ∧
        s'.env = s.env ∧ s'.cwd = s.cwd := by
  intro s
  have hkeyed : s.Keyed := h.keyed.session
  have hkeys : ∀ e ∈ s.env, IsKey e.1 := fun e he => hkeyed.keys e.1 (List.mem_map_of_mem he)
  refine ⟨answers_env s, fun e he => ⟨(hkeys e he).1, (hkeys e he).2, cutAt_assignment (hkeys e he)⟩, hkeyed.sorted,
    fun key value => Table.mem_iff_get? hkeyed.sorted, ?_⟩
  have hbuiltin : ∃ c, Registry.builtin.get? "set" = some c ∧ c.handler = Commands.set :=
    exists_builtin (by decide +kernel) (by decide) (by simp [builtins])
  obtain ⟨c, hget, hhandler⟩ := hbuiltin
  refine ⟨c, hget, fun config files log world => ⟨_, ?_, restores hkeyed (h.homed hsettled) config files log world⟩⟩
  rw [hhandler]
  exact replays_set hkeys _

def outfit : List Input :=
  [.line "set A=b=c", .line "set PWD=..\\x", .line "cd /", .action .cycleTheme, .line "set NOTE="]

def outfitted : Session := outfit.foldl receive (start {} (.seeded 0) .builtin (.empty none) { wall := 0 })

theorem comes_outfitted : ∃ fs, Comes {} ⟨outfitted, fs⟩ ∧ Settled ⟨outfitted, fs⟩ :=
  (Comes.start (.seeded 0) (.empty none) { wall := 0 }).receiveAll outfit nofun

theorem env_replays_outfitted :
    outfitted.env.map assignment = ["A=b=c", "HOST=stellar", "NOTE=", "OLDPWD=/home/x", "PWD=/", "SHELL=/bin/websh",
      "THEME=monokai", "USER=guest"] ∧
    ∃ c s', Registry.builtin.get? "set" = some c ∧
      Replays c.handler (outfitted.env.map assignment)
        (start { user := "me", home := "/srv" } (.seeded 0) .builtin (.empty none) { wall := 0 }) s' ∧
      s'.env = outfitted.env ∧ s'.cwd = outfitted.cwd := by
  refine ⟨by decide +kernel, ?_⟩
  obtain ⟨fs, hcomes, hsettled⟩ := comes_outfitted
  have hreplays := (env_replays hcomes hsettled).2.2.2.2
  obtain ⟨c, hget, hreplays⟩ := hreplays
  obtain ⟨s', hs'⟩ := hreplays { user := "me", home := "/srv" } (.seeded 0) (.empty none) { wall := 0 }
  exact ⟨c, s', hget, hs'⟩

end Scene

end Terminal
