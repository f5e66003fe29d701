import Terminal.Proofs.Session.Alike
import Terminal.Proofs.Session.Directory
import Terminal.Proofs.Session.Entering

namespace Terminal

open Commands

namespace Session

variable {config : Config} {here there : String} {s s' : Session}

theorem Looks.unstirred (h : s.Looks) : s.Unstirred := by
  rintro p - ⟨⟨after, action⟩, hmem, haffects⟩
  have hlooks : action.looks = true := h _ hmem
  cases haffects <;> cases hlooks

theorem Looks.congr (h : s.Looks) (hhooks : s'.watcher.hooks = s.watcher.hooks) : s'.Looks := by
  rw [Looks, hhooks]
  exact h

theorem turn_emit (h : s.Looks) (r : Record) : (emit r s).turn = (s.push r).turn :=
  eq_of_core (core_emit h r) (f := Session.turn) fun _ => rfl

theorem turn_typeIn (h : s.Looks) (text : String) : (s.typeIn text).turn = some ⟨[s.typed text], false, false⟩ :=
  turn_emit (s := { s with turn := some {} }) h (s.typed text)

structure Between (config : Config) (here there : String) (s : Session) : Prop where
  stands : s.Stands config
  idle : s.Idle
  looks : s.Looks
  cwd : s.cwd = here
  oldpwd : s.env.get? "OLDPWD" = some there
  isDir_here : s.files.isDir here = true
  isDir_there : s.files.isDir there = true
  canonical : Path.Canonical there

/-- The line goes back to `there`, tells so and leaves `here` to go back to. -/
structure GoesBack (here there line : String) (s : Session) : Prop where
  succeeds : s.lineEnding? line = some (.ok (some { lines := some [there], cwd := some there }))
  tells : (s.submit line).1 = .settled ⟨[s.typed line, .output there], false, false⟩
  cwd : (s.submit line).2.cwd = there
  oldpwd : (s.submit line).2.env.get? "OLDPWD" = some here

def Input.goesBack : Input → Bool
  | .line text => (Text.words text).take 2 == ["cd", "-"]
  | _ => false

/-- A `cd -`, another line that enters no directory, sets no variable and removes nothing, or time that passes. -/
def Input.Tame : Input → Prop
  | .line text => (Input.line text).goesBack = true ∨
      ∀ name ∈ (Text.words text).head?, name ∉ ["cd", "set", "export", "rm"]
  | .advance _ => True
  | _ => False

theorem goal_back (hold : s.env.get? "OLDPWD" = some there) (hcanonical : Path.Canonical there) (rest : List String) :
    s.goal ("-" :: rest) = there := by
  have hne : there ≠ "" := by
    obtain ⟨parts, -, rfl⟩ := hcanonical
    exact Path.absolute_ne_empty parts
  have hview : (s.view []).env.get? "OLDPWD" = some there := hold
  rw [goal, destination, List.headD_cons, if_neg (by decide), if_pos rfl, hview]
  exact if_neg hne

theorem resolve_canonical {path : String} (h : Path.Canonical path) (cwd : String) : Path.resolve cwd path = path := by
  obtain ⟨parts, -, rfl⟩ := h
  exact Path.resolve_absolute cwd parts

theorem own_of_quiet {name : String} {args : List String} (hname : name ∉ ["cd", "set", "export", "rm"]) {p : Part}
    (h : Own name args p) : p = .files ∨ p = .value "THEME" ∨ p = .records := by
  cases h with
  | files _ => exact .inl rfl
  | theme _ => exact .inr (.inl rfl)
  | records _ => exact .inr (.inr rfl)
  | assign hassign _ => exact absurd hassign fun h => hname (by simp at h ⊢; tauto)
  | enter hassign _ => exact absurd hassign fun h => hname (by simp at h ⊢; tauto)
  | leave hleave _ => exact absurd hleave fun h => hname (by simp [h])
  | move hmove => exact absurd hmove fun h => hname (by simp [h])

theorem Enters.between {line : String} {args : List String} (he : s.Enters args (s.submit line).2)
    (hs : s.Stands config) (hidle : s.Idle) (hlooks : s.Looks) (hw : Text.words line = "cd" :: args)
    (hleft : s.files.isDir s.cwd = true) (hreached : s.files.isDir (s.submit line).2.cwd = true) :
    (s.submit line).2.Between config (s.submit line).2.cwd s.cwd := by
  have hrm : (Text.words line).head? ≠ some "rm" := by simp [hw]
  obtain ⟨-, hidle', -⟩ := spares_submit hidle hs.registry hs.files.ordered hrm
  have hhooks := hooks_submit line s
  exact {
    stands := stands_submit line hs
    idle := hidle'
    looks := hlooks.congr hhooks
    cwd := rfl
    oldpwd := he.oldpwd
    isDir_here := he.files.symm ▸ hreached
    isDir_there := he.files.symm ▸ hleft
    canonical := hs.canonical }

namespace Between

variable (h : s.Between config here there)
include h

theorem of_stays (hs : s'.Stands config) (hidle : s'.Idle) (hhooks : s'.watcher.hooks = s.watcher.hooks)
    (hspares : s.Spares s') (hcwd : s'.cwd = s.cwd) (hold : s'.env.get? "OLDPWD" = s.env.get? "OLDPWD") :
    s'.Between config here there where
  stands := hs
  idle := hidle
  looks := h.looks.congr hhooks
  cwd := hcwd.trans h.cwd
  oldpwd := hold.trans h.oldpwd
  isDir_here := hspares.isDir here h.isDir_here
  isDir_there := hspares.isDir there h.isDir_there
  canonical := h.canonical

theorem quiet {line : String} (hline : ∀ name ∈ (Text.words line).head?, name ∉ ["cd", "set", "export", "rm"]) :
    (s.submit line).2.Between config here there := by
  have hrm : (Text.words line).head? ≠ some "rm" := fun he => hline "rm" (by simp [he]) (by simp)
  obtain ⟨-, hidle, hspares⟩ := spares_submit h.idle h.stands.registry h.stands.files.ordered hrm
  have hhooks := hooks_submit line s
  have hstands := stands_submit line h.stands
  have hstill := h.looks.unstirred
  cases hw : Text.words line with
  | nil =>
      have hstays := hstill.opening line
      have hsubmit : (s.submit line).2 = (s.opening line).2 := by
        rw [submit_eq, opening_of_blank h.idle.running hw]
        rfl
      rw [hsubmit] at hidle hhooks hspares hstands ⊢
      exact h.of_stays hstands hidle hhooks hspares hstays.cwd (by rw [hstays.env])
  | cons name args =>
      have hname : name ∉ ["cd", "set", "export", "rm"] := hline name (by simp [hw])
      have htouches := (touches_submit h.stands.registry line).1 name args hw
      have hown {p : Part} (hp : p = .cwd ∨ p = .value "OLDPWD") : ¬ (Own name args p ∨ s.Stirred p) := by
        rintro (h | h)
        · rcases own_of_quiet hname h with rfl | rfl | rfl <;> simp at hp
        · refine hstill p ?_ h
          rintro rfl
          simp at hp
      exact h.of_stays hstands hidle hhooks hspares (htouches.cwd.resolve_left (hown (.inl rfl)))
        ((htouches.value "OLDPWD").resolve_left (hown (.inr rfl)))

theorem back {line : String} {rest : List String} (hw : Text.words line = "cd" :: "-" :: rest) :
    s.GoesBack here there line ∧ (s.submit line).2.Between config there here := by
  obtain ⟨prior, hopening, hc, hturn⟩ := opening_cd h.stands.registry h.idle.running hw
  have hstays := h.looks.unstirred.opening line
  have hconfig := (stands_opening line h.stands).config.trans h.stands.config.symm
  have hgoal : s.goal ("-" :: rest) = there := goal_back h.oldpwd h.canonical rest
  have hgoal₀ : (s.opening line).2.goal ("-" :: rest) = there := (goal_of_stays hconfig hstays _).trans hgoal
  have hfound₀ : (s.opening line).2.Found ("-" :: rest) := by
    rw [found_of_stays hconfig hstays, Found, hgoal, resolve_canonical h.canonical]
    exact h.isDir_there
  have harrival : (s.opening line).2.arrival ("-" :: rest) = { lines := some [there], cwd := some there } := by
    rw [arrival, hgoal₀]
    rfl
  have hending : s.lineEnding? line = some (.ok (some { lines := some [there], cwd := some there })) := by
    rw [lineEnding?, hopening]
    exact (ending_cd_of_found hfound₀).trans (by rw [harrival])
  -- the turn holds the line and what was told
  have htells : (s.submit line).1 = .settled ⟨[s.typed line, .output there], false, false⟩ := by
    have hlooks : ((s.opening line).2.setVariable "OLDPWD" (s.opening line).2.cwd).Looks :=
      h.looks.congr (opening_keeps line s).2
    have hpushed : (((s.opening line).2.setVariable "OLDPWD" (s.opening line).2.cwd).print emit there).turn =
        some ⟨[s.typed line, .output there], false, false⟩ := by
      rw [print, turn_emit hlooks]
      change (s.opening line).2.turn.map _ = _
      rw [hturn, turn_typeIn h.looks]
      rfl
    rw [submit_eq, hopening]
    dsimp only
    rw [fly_cd_of_found hc hfound₀, apply_arrival, harrival]
    exact congrArg (fun turn => Submission.settled (turn.getD {})) hpushed
  have hgoes := goes_submit h.stands h.idle.running h.looks.unstirred hw
  rw [hending] at hgoes
  cases hgoes with
  | entered he =>
      have hcwd : (s.submit line).2.cwd = there := by
        rw [he.cwd, hgoal, resolve_canonical h.canonical, Path.normalize_of_canonical h.canonical]
      have hold : (s.submit line).2.env.get? "OLDPWD" = some here := h.cwd ▸ he.oldpwd
      have hleft : s.files.isDir s.cwd = true := h.cwd.symm ▸ h.isDir_here
      have hreached : s.files.isDir (s.submit line).2.cwd = true := hcwd.symm ▸ h.isDir_there
      have hbetween := he.between h.stands h.idle h.looks hw hleft hreached
      rw [hcwd, h.cwd] at hbetween
      exact ⟨⟨hending, htells, hcwd, hold⟩, hbetween⟩

end Between

def turned (n : Nat) (a b : String) : String := if n % 2 = 0 then a else b

theorem turned_succ (n : Nat) (a b : String) : turned (n + 1) a b = turned n b a := by
  rcases Nat.mod_two_eq_zero_or_one n with h | h
  · have hsucc : (n + 1) % 2 = 1 := by omega
    simp [turned, h, hsucc]
  · have hsucc : (n + 1) % 2 = 0 := by omega
    simp [turned, h, hsucc]

theorem words_of_goesBack {line : String} (h : (Input.line line).goesBack = true) :
    ∃ rest, Text.words line = "cd" :: "-" :: rest := by
  have htake : (Text.words line).take 2 = ["cd", "-"] := by simpa [Input.goesBack] using h
  refine ⟨(Text.words line).drop 2, ?_⟩
  have hparts := List.take_append_drop 2 (Text.words line)
  rw [htake] at hparts
  exact hparts.symm

theorem Between.receive (h : s.Between config here there) {i : Input} (hi : i.Tame) :
    (s.receive i).Between config (if i.goesBack then there else here) (if i.goesBack then here else there) := by
  cases i with
  | line text =>
      by_cases hback : (Input.line text).goesBack = true
      · obtain ⟨rest, hw⟩ := words_of_goesBack hback
        rw [if_pos hback, if_pos hback]
        exact (h.back hw).2
      · rw [if_neg hback, if_neg hback]
        exact h.quiet (hi.resolve_left hback)
  | advance ms =>
      exact ⟨⟨h.stands.config, h.stands.registry, h.stands.canonical, h.stands.files⟩,
        ⟨h.idle.phase, h.idle.token, h.idle.turn⟩, h.looks, h.cwd, h.oldpwd, h.isDir_here, h.isDir_there, h.canonical⟩
  | _ => exact hi.elim

theorem Between.receiveAll {inputs : List Input} (h : s.Between config here there) (hinputs : ∀ i ∈ inputs, i.Tame) :
    (inputs.foldl Session.receive s).Between config
      (turned (inputs.countP Input.goesBack) here there) (turned (inputs.countP Input.goesBack) there here) := by
  induction inputs generalizing here there s with
  | nil => exact h
  | cons i inputs ih =>
      have hfirst := h.receive (hinputs i (List.mem_cons_self ..))
      have hrest : ∀ j ∈ inputs, j.Tame := fun j hj => hinputs j (List.mem_cons_of_mem _ hj)
      have hall := ih hfirst hrest
      rw [List.foldl_cons, List.countP_cons]
      cases hback : i.goesBack with
      | true => simpa [hback, turned_succ] using hall
      | false => simpa [hback] using hall

theorem between_of_cd (h : s.Waits config) (hlooks : s.Looks) {line : String} {args : List String}
    (hw : Text.words line = "cd" :: args) (hok : (s.lineEnding? line).any Except.isOk = true)
    (hleft : s.files.isDir s.cwd = true) (hreached : s.files.isDir (s.submit line).2.cwd = true) :
    (s.submit line).2.Between config (s.submit line).2.cwd s.cwd := by
  have hgoes := goes_submit h.stands h.idle.running hlooks.unstirred hw
  obtain ⟨r, hr⟩ : ∃ r, s.lineEnding? line = some (.ok r) := by
    cases hending : s.lineEnding? line with
    | none => simp [hending] at hok
    | some ending =>
        cases ending with
        | ok r => exact ⟨r, rfl⟩
        | error f => simp [hending, Except.isOk, Except.toBool] at hok
  rw [hr] at hgoes
  cases hgoes with
  | entered he => exact he.between h.stands h.idle hlooks hw hleft hreached

/-- Once `cd` has led from one directory to another, every `cd -` leads back and forth between the two and tells where it
leads, whatever lines come between that enter no directory, set no variable and remove nothing. -/
theorem cd_toggles (h : s.Waits config) (hlooks : s.Looks) {line : String} {args : List String}
    (hw : Text.words line = "cd" :: args) (hok : (s.lineEnding? line).any Except.isOk = true)
    (hleft : s.files.isDir s.cwd = true) (hreached : s.files.isDir (s.submit line).2.cwd = true)
    {before : List Input} (hbefore : ∀ i ∈ before, i.Tame) {back : String}
    (hback : (Input.line back).goesBack = true) :
    let t := before.foldl receive (s.submit line).2
    let k := before.countP Input.goesBack + 1
    (k % 2 = 1 → t.GoesBack (s.submit line).2.cwd s.cwd back) ∧
      (k % 2 = 0 → t.GoesBack s.cwd (s.submit line).2.cwd back) := by
  intro t k
  have hbetween := (between_of_cd h hlooks hw hok hleft hreached).receiveAll hbefore
  obtain ⟨rest, hwords⟩ := words_of_goesBack hback
  have hgoes := (hbetween.back hwords).1
  constructor
  · intro hodd
    have heven : before.countP Input.goesBack % 2 = 0 := by omega
    simpa [turned, heven] using hgoes
  · intro heven
    have hodd : before.countP Input.goesBack % 2 = 1 := by omega
    simpa [turned, hodd] using hgoes

def wandering : List Input := [.line "cd -", .line "touch /projects/new", .line "", .advance 5, .line "theme light"]

theorem tame_wandering : ∀ i ∈ wandering, i.Tame := by
  have hwords : Text.words "touch /projects/new" = ["touch", "/projects/new"] ∧ Text.words "" = [] ∧
      Text.words "theme light" = ["theme", "light"] ∧ (Input.line "cd -").goesBack = true := by decide +kernel
  simp [wandering, Input.Tame, hwords]

theorem wandering_toggles :
    (wandering.foldl receive ((after []).submit "cd /projects").2).GoesBack "/home/guest" "/projects" "cd -" := by
  have hwaits : (after []).Waits {} := .start {} (Tree.Reachable.seeded 0).grown _ _
  have hlooks : (after []).Looks := fun h hmem => nomatch hmem
  have hwords : Text.words "cd /projects" = ["cd", "/projects"] := by decide +kernel
  have hmoved : ((after []).submit "cd /projects").2.cwd = "/projects" := by decide +kernel
  have hreached : (after []).files.isDir ((after []).submit "cd /projects").2.cwd = true := by
    rw [hmoved]
    decide +kernel
  have hback : (Input.line "cd -").goesBack = true := by decide +kernel
  have htoggles := cd_toggles hwaits hlooks hwords (by decide +kernel) (by decide +kernel) hreached tame_wandering hback
  have hleft : (after []).cwd = "/home/guest" := by decide +kernel
  rw [← hmoved, ← hleft]
  exact htoggles.2 (by decide +kernel)

end Session

end Terminal
