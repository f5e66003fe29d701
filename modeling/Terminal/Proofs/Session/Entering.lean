import Terminal.Proofs.Path.Laws
import Terminal.Proofs.Session.Frame
import Terminal.Proofs.Session.Waiting

namespace Terminal

open Commands

namespace Commands

theorem handler_cd {c : Command} (h : Registry.builtin.get? "cd" = some c) : c.handler = cd :=
  handler_of_first_name h (by decide) (by simp [builtins])

theorem exists_cd : ∃ c, Registry.builtin.get? "cd" = some c := by
  have hknown : (Registry.builtin.get? "cd").isSome = true := by decide +kernel
  exact Option.isSome_iff_exists.1 hknown

end Commands

namespace Session

structure Stays (s s' : Session) : Prop where
  files : s'.files = s.files
  cwd : s'.cwd = s.cwd
  env : s'.env = s.env

def Unstirred (s : Session) : Prop := ∀ p, p ≠ .records → ¬ s.Stirred p

section Still

variable {s s' s'' : Session}

theorem Stays.refl : s.Stays s := ⟨rfl, rfl, rfl⟩

theorem Stays.trans (h : s.Stays s') (h' : s'.Stays s'') : s.Stays s'' :=
  ⟨h'.files.trans h.files, h'.cwd.trans h.cwd, h'.env.trans h.env⟩

theorem Touches.stays {P : Part → Prop} (h : Touches P s s') (hP : ∀ p, p ≠ .records → ¬ P p) : s.Stays s' where
  files := h.files.resolve_left (hP _ nofun)
  cwd := h.cwd.resolve_left (hP _ nofun)
  env := h.env.resolve_left fun ⟨key, hkey⟩ => hP (.value key) nofun hkey

theorem Unstirred.congr (h : s.Unstirred) (hhooks : s'.watcher.hooks = s.watcher.hooks) : s'.Unstirred :=
  fun p hp hstirred => h p hp (.congr hhooks hstirred)

theorem Unstirred.print (h : s.Unstirred) (text : String) : s.Stays (s.print emit text) := (touches_emit _ s).stays h

theorem Unstirred.opening (h : s.Unstirred) (line : String) : s.Stays (s.opening line).2 :=
  (touches_opening line s).stays h

theorem Unstirred.settle_error (h : s.Unstirred) (name : String) (f : Failure) :
    s.Stays (s.settle name (.error f)).2 := by
  refine (touches_settle name (.error f) s).stays ?_
  rintro p hp (⟨r, hr, -⟩ | hstirred)
  · cases hr
  · exact h p hp hstirred

theorem Unstirred.printAll (h : s.Unstirred) (texts : List String) :
    s.Stays (texts.foldl (fun s text => s.print emit text) s) := by
  induction texts generalizing s with
  | nil => exact .refl
  | cons text texts ih =>
      have hhooks : (s.print emit text).watcher.hooks = s.watcher.hooks :=
        (evolves_emit announces_emit _ s).hooks_eq
      exact (h.print text).trans (ih (h.congr hhooks))

end Still

def Flight.ending? (f : Flight) (s : Session) : Option (Except Failure (Option Result)) :=
  (f.rest.run (perform emit f.prior) s).1.ending?

def lineEnding? (line : String) (s : Session) : Option (Except Failure (Option Result)) :=
  match s.opening line with
  | (.begun f, s) => f.ending? s
  | (.answered _, _) => none

def goal (args : List String) (s : Session) : String := destination (s.view []) (args.headD "/")

def arrival (args : List String) (s : Session) : Result :=
  { lines := if args.headD "/" = "-" then some [s.goal args] else none, cwd := some (s.goal args) }

def Found (args : List String) (s : Session) : Prop := s.files.isDir (Path.resolve s.cwd (s.goal args)) = true

/-- The goal is home or the directory before, and what it normally stands for is no directory. -/
structure Misled (args : List String) (s : Session) : Prop where
  target : args.headD "/" = "~" ∨ args.headD "/" = "-"
  absolute : Text.startsWith (s.goal args) "/" = true
  missing : s.files.isDir (Path.normalize (s.goal args)) = false

structure Enters (args : List String) (s s' : Session) : Prop where
  found : s.Found args
  files : s'.files = s.files
  cwd : s'.cwd = Path.normalize (Path.resolve s.cwd (s.goal args))
  env : s'.env = (s.env.put "OLDPWD" s.cwd).put "PWD" s'.cwd
  lands : s'.files.isDir s'.cwd = true ↔ ¬ s.Misled args
  plain : (∀ part ∈ Path.split (s.goal args), Path.IsPlain part) → s'.files.isDir s'.cwd = true

inductive Goes (args : List String) (s : Session) : Option (Except Failure (Option Result)) → Session → Prop
  | refused {f : Failure} {s' : Session} : ¬ s.Found args → s.Stays s' → Goes args s (some (.error f)) s'
  | entered {r : Option Result} {s' : Session} : s.Enters args s' → Goes args s (some (.ok r)) s'

section Goal

variable {s s' : Session} {args : List String}

theorem goal_of_typed (htilde : args.headD "/" ≠ "~") (hdash : args.headD "/" ≠ "-") :
    s.goal args = Path.normalize (Path.resolve s.cwd (args.headD "/")) := by
  rw [goal, destination, if_neg htilde, if_neg hdash]
  rfl

theorem normalize_goal (hcwd : Path.Canonical s.cwd) (h : (args.headD "/" = "~" ∨ args.headD "/" = "-") →
    Text.startsWith (s.goal args) "/" = false) :
    Path.normalize (Path.resolve s.cwd (s.goal args)) = Path.resolve s.cwd (s.goal args) := by
  by_cases htarget : args.headD "/" = "~" ∨ args.headD "/" = "-"
  · exact Path.normalize_of_canonical (Path.canonical_resolve hcwd (h htarget))
  · obtain ⟨htilde, hdash⟩ := not_or.1 htarget
    obtain ⟨parts, hparts, hgoal⟩ : Path.Canonical (s.goal args) := by
      rw [goal_of_typed htilde hdash]
      exact Path.canonical_normalize _
    rw [hgoal, Path.resolve_absolute]
    exact Path.normalize_of_canonical ⟨parts, hparts, rfl⟩

theorem lands_iff (hcwd : Path.Canonical s.cwd) (h : s.Found args) :
    s.files.isDir (Path.normalize (Path.resolve s.cwd (s.goal args))) = true ↔ ¬ s.Misled args := by
  by_cases hspelled : (args.headD "/" = "~" ∨ args.headD "/" = "-") ∧ Text.startsWith (s.goal args) "/" = true
  · obtain ⟨htarget, habsolute⟩ := hspelled
    rw [Path.resolve_of_startsWith habsolute]
    constructor
    · intro hdir hmisled
      rw [hmisled.missing] at hdir
      cases hdir
    · intro hnot
      by_contra hdir
      exact hnot ⟨htarget, habsolute, Bool.eq_false_iff.2 hdir⟩
  · have hnormal := normalize_goal hcwd fun htarget => Bool.eq_false_iff.2 fun ha => hspelled ⟨htarget, ha⟩
    rw [hnormal]
    exact ⟨fun _ hmisled => hspelled ⟨hmisled.target, hmisled.absolute⟩, fun _ => h⟩

theorem isDir_normalize_of_plain {t : Tree} {path : String} (hplain : ∀ part ∈ Path.split path, Path.IsPlain part) :
    t.isDir (Path.normalize path) = t.isDir path := by
  have hsplit : Path.split (Path.normalize path) = Path.split path := by
    rw [Path.normalize, Path.settle_eq_self hplain]
    exact Path.split_absolute fun part hpart => Path.isName_of_mem_split hpart
  rw [Tree.isDir, Tree.isDir, Tree.get?, Tree.get?, hsplit]

theorem not_misled_of_plain (h : s.Found args) (hplain : ∀ part ∈ Path.split (s.goal args), Path.IsPlain part) :
    ¬ s.Misled args := by
  intro hmisled
  have hdir : s.files.isDir (s.goal args) = true := by
    rw [Found, Path.resolve_of_startsWith hmisled.absolute] at h
    exact h
  have hmissing := hmisled.missing
  rw [isDir_normalize_of_plain hplain, hdir] at hmissing
  cases hmissing

theorem enters_of (hcanonical : Path.Canonical s.cwd) (hfound : s.Found args) (hfiles : s'.files = s.files)
    (hcwd : s'.cwd = Path.normalize (Path.resolve s.cwd (s.goal args)))
    (henv : s'.env = (s.env.put "OLDPWD" s.cwd).put "PWD" s'.cwd) : s.Enters args s' := by
  have hlands : s'.files.isDir s'.cwd = true ↔ ¬ s.Misled args := by
    rw [hfiles, hcwd]
    exact lands_iff hcanonical hfound
  exact ⟨hfound, hfiles, hcwd, henv, hlands, fun hplain => hlands.2 (not_misled_of_plain hfound hplain)⟩

theorem Enters.oldpwd (h : s.Enters args s') : s'.env.get? "OLDPWD" = some s.cwd := by
  rw [h.env, Table.get?_put_of_ne _ _ (by decide), Table.get?_put_self]

section Kept

variable {s₀ : Session} (hconfig : s₀.config = s.config) (hstays : s.Stays s₀)
include hconfig hstays

theorem goal_of_stays (args : List String) : s₀.goal args = s.goal args := by
  rw [goal, goal, view, view, destination, destination]
  simp only [View.resolve, hconfig, hstays.cwd, hstays.env]

theorem found_of_stays : s₀.Found args ↔ s.Found args := by
  rw [Found, Found, hstays.files, hstays.cwd, goal_of_stays hconfig hstays]

theorem Goes.of_stays {ending : Option (Except Failure (Option Result))} (h : s₀.Goes args ending s') :
    s.Goes args ending s' := by
  have hgoal := goal_of_stays hconfig hstays args
  have hfound : s₀.Found args ↔ s.Found args := found_of_stays hconfig hstays
  cases h with
  | refused hnot hs' => exact .refused (mt hfound.2 hnot) (hstays.trans hs')
  | entered h =>
      have hmisled : s₀.Misled args ↔ s.Misled args := by
        constructor
        · exact fun hm => ⟨hm.target, hgoal ▸ hm.absolute, hstays.files ▸ hgoal ▸ hm.missing⟩
        · exact fun hm => ⟨hm.target, hgoal.symm ▸ hm.absolute, hstays.files.symm ▸ hgoal.symm ▸ hm.missing⟩
      have hcwd := h.cwd
      have henv := h.env
      rw [hstays.cwd, hgoal] at hcwd
      rw [hstays.env, hstays.cwd] at henv
      exact .entered ⟨hfound.1 h.found, h.files.trans hstays.files, hcwd, henv, h.lands.trans (not_congr hmisled),
        fun hplain => h.plain (hgoal.symm ▸ hplain)⟩

end Kept

end Goal

section Run

variable {config : Config} {s : Session} {args prior : List String}

theorem conclude_of_not_cancelled (hc : s.cancelled = false) {name : String} {r : Result} :
    s.conclude emit name (.ok (some r)) = s.apply emit r := by
  simp only [conclude, hc, Bool.false_eq_true, if_false]

theorem run_cd_of_found (h : s.Found args) : (cd args).run (perform emit prior) s =
    (.done (some (s.arrival args)), s.setVariable "OLDPWD" s.cwd) := by
  have hdir : (s.view prior).isDir (destination (s.view prior) (args.headD "/")) = true := h
  have hexists : (s.view prior).exists? (destination (s.view prior) (args.headD "/")) = true :=
    Tree.exists?_of_isDir hdir
  rw [cd, Script.run]
  simp only [perform, hdir, hexists]
  rfl

theorem run_cd_of_not_found (h : ¬ s.Found args) (prior : List String) :
    ∃ f, (cd args).run (perform emit prior) s = (.failed f, s) := by
  have hdir : (s.view prior).isDir (destination (s.view prior) (args.headD "/")) = false := Bool.eq_false_iff.2 h
  rw [cd, Script.run]
  simp only [perform, hdir]
  split
  · exact ⟨_, rfl⟩
  · exact ⟨_, rfl⟩

theorem ending_cd_of_found (h : s.Found args) :
    Flight.ending? ⟨"cd", args, prior, cd args⟩ s = some (.ok (some (s.arrival args))) := by
  rw [Flight.ending?, run_cd_of_found h]
  rfl

theorem fly_cd_of_found (hc : s.cancelled = false) (h : s.Found args) : s.fly ⟨"cd", args, prior, cd args⟩ =
    ((s.setVariable "OLDPWD" s.cwd).apply emit (s.arrival args)).land.finish := by
  have hfly := fly_of_ending (f := ⟨"cd", args, prior, cd args⟩) (ending_cd_of_found h)
  have hcancelled : (s.setVariable "OLDPWD" s.cwd).cancelled = false := hc
  rw [hfly, run_cd_of_found h, settle, conclude_of_not_cancelled hcancelled]

theorem apply_arrival (s t : Session) : t.apply emit (s.arrival args) =
    (((s.arrival args).lines.getD []).foldl (fun t text => t.print emit text) t).moveTo (s.goal args) := rfl

theorem goes_fly (hs : s.Stands config) (hstill : s.Unstirred) (hc : s.cancelled = false) (args prior : List String) :
    s.Goes args (Flight.ending? ⟨"cd", args, prior, cd args⟩ s) (s.fly ⟨"cd", args, prior, cd args⟩).2 := by
  by_cases hfound : s.Found args
  · have hset : (s.setVariable "OLDPWD" s.cwd).Unstirred := hstill
    obtain ⟨hfiles, hcwd, henv⟩ := hset.printAll ((s.arrival args).lines.getD [])
    rw [ending_cd_of_found hfound, fly_cd_of_found hc hfound, apply_arrival]
    refine .entered (enters_of hs.canonical hfound hfiles ?_ ?_)
    · exact congrArg (fun cwd => Path.normalize (Path.resolve cwd (s.goal args))) hcwd
    · exact congrArg (fun env => Table.put env "PWD" _) henv
  · obtain ⟨f, hrun⟩ := run_cd_of_not_found hfound prior
    have hending : Flight.ending? ⟨"cd", args, prior, cd args⟩ s = some (.error f) := by
      rw [Flight.ending?, hrun]
      rfl
    rw [hending, fly_of_ending (f := ⟨"cd", args, prior, cd args⟩) hending, hrun]
    exact .refused hfound (hstill.settle_error "cd" f)

theorem opening_cd (hregistry : s.registry = .builtin) (hidle : s.running = false) {line : String}
    (hw : Text.words line = "cd" :: args) :
    ∃ prior, s.opening line = (.begun ⟨"cd", args, prior, cd args⟩, (s.opening line).2) ∧
      (s.opening line).2.cancelled = false ∧ (s.opening line).2.turn = (s.typeIn line).turn := by
  obtain ⟨c, hc⟩ := exists_cd
  have hget : (s.typeIn line).registry.get? "cd" = some c := by rw [(begins_typeIn line s).registry, hregistry, hc]
  have hopening := opening_of_command hidle hw hget
  rw [handler_cd hc] at hopening
  rw [hopening]
  exact ⟨_, rfl, rfl, rfl⟩

theorem goes_submit (hs : s.Stands config) (hidle : s.running = false) (hstill : s.Unstirred) {line : String}
    (hw : Text.words line = "cd" :: args) : s.Goes args (s.lineEnding? line) (s.submit line).2 := by
  obtain ⟨prior, hopening, hc, -⟩ := opening_cd hs.registry hidle hw
  have hstands := stands_opening line hs
  have hhooks := (opening_keeps line s).2
  have hgoes := goes_fly hstands (hstill.congr hhooks) hc args prior
  rw [submit_eq, lineEnding?, hopening]
  exact Goes.of_stays (hstands.config.trans hs.config.symm) (hstill.opening line) hgoes

/-- `cd` either fails and changes neither the files, the directory nor a variable, or it has found its goal and moves to
the normal form of it, from where `OLDPWD` and `PWD` tell the way. That is a directory unless the goal is home or the
directory before, spelled with `.` or `..`, and the normal form leads nowhere. -/
theorem cd_lands (h : s.Waits config) (hstill : s.Unstirred) :
    (∀ line args, Text.words line = "cd" :: args → s.Goes args (s.lineEnding? line) (s.submit line).2) ∧
    ∀ c args prior, s.registry.get? "cd" = some c →
      s.Goes args (Flight.ending? ⟨"cd", args, prior, c.handler args⟩ s.launch)
        (s.runCommand emit prior c "cd" args).2 := by
  refine ⟨fun line args hw => goes_submit h.stands h.idle.running hstill hw, fun c args prior hc => ?_⟩
  have hstands : s.launch.Stands config :=
    ⟨h.stands.config, h.stands.registry, h.stands.canonical, h.stands.files⟩
  have hgoes := goes_fly hstands hstill rfl args prior
  have hconfig : s.launch.config = s.config := rfl
  have hlaunch : s.Stays s.launch := ⟨rfl, rfl, rfl⟩
  rw [h.stands.registry] at hc
  rw [runCommand_eq, handler_cd hc]
  exact Goes.of_stays hconfig hlaunch hgoes

end Run

def misdirected : Session := after ["mkdir -p /x/../y", "set OLDPWD=/x/../y"]

theorem misdirected_waits : misdirected.Waits {} := by
  have hwords : (Text.words "mkdir -p /x/../y").head? = some "mkdir" ∧
      (Text.words "set OLDPWD=/x/../y").head? = some "set" := by decide +kernel
  have hstart : (after []).Waits {} := .start {} (Tree.Reachable.seeded 0).grown _ _
  have hmade : (after ["mkdir -p /x/../y"]).Waits {} := hstart.submit (by rw [hwords.1]; decide)
  exact hmade.submit (by rw [hwords.2]; decide)

theorem misdirected_goes : misdirected.Unstirred ∧
    misdirected.Goes ["-"] (misdirected.lineEnding? "cd -") (misdirected.submit "cd -").2 ∧
    ∃ c, misdirected.registry.get? "cd" = some c ∧
      misdirected.Goes [""] (Flight.ending? ⟨"cd", [""], [], c.handler [""]⟩ misdirected.launch)
        (misdirected.runCommand emit [] c "cd" [""]).2 := by
  have hhooks : misdirected.watcher.hooks = [] := (hooks_submit _ _).trans (hooks_submit _ _)
  have hstill : misdirected.Unstirred := fun p _ => not_stirred hhooks p
  obtain ⟨hline, hrun⟩ := cd_lands misdirected_waits hstill
  obtain ⟨c, hc⟩ := exists_cd
  rw [← misdirected_waits.stands.registry] at hc
  exact ⟨hstill, hline "cd -" ["-"] (by decide +kernel), c, hc, hrun c [""] [] hc⟩

/-- The directory before is found as it is spelled, and the session ends up where nothing is. -/
theorem misdirected_lands_nowhere : (misdirected.lineEnding? "cd -").any Except.isOk = true ∧
    (misdirected.submit "cd -").2.cwd = "/y" ∧ (misdirected.submit "cd -").2.files.isDir "/y" = false := by
  decide +kernel

/-- The line succeeds and leads to where the session began. -/
def LeadsHome (line : String) (s : Session) : Prop :=
  (s.lineEnding? line).any Except.isOk = true ∧ (s.submit line).2.cwd = Path.normalize s.config.home

instance (line : String) (s : Session) : Decidable (s.LeadsHome line) := inferInstanceAs (Decidable (_ ∧ _))

theorem leadsHome_iff {config : Config} {s : Session} (hs : s.Stands config) (hidle : s.running = false)
    (hstill : s.Unstirred) {line : String} {rest : List String} (hw : Text.words line = "cd" :: "~" :: rest) :
    s.LeadsHome line ↔ s.files.isDir (Path.resolve s.cwd config.home) = true ∧
      Path.normalize (Path.resolve s.cwd config.home) = Path.normalize config.home := by
  have hgoal : s.goal ("~" :: rest) = config.home := congrArg Config.home hs.config
  have hgoes := goes_submit hs hidle hstill hw
  rw [LeadsHome, hs.config]
  generalize s.lineEnding? line = ending at hgoes ⊢
  generalize (s.submit line).2 = s' at hgoes ⊢
  cases hgoes with
  | refused hnot _ =>
      rw [Found, hgoal] at hnot
      constructor
      · rintro ⟨hended, -⟩
        cases hended
      · rintro ⟨hfound, -⟩
        exact absurd hfound hnot
  | entered he =>
      have hfound := he.found
      rw [Found, hgoal] at hfound
      rw [he.cwd, hgoal]
      exact ⟨fun h => ⟨hfound, h.2⟩, fun h => ⟨rfl, h.2⟩⟩

/-- `cd ~` leads home from everywhere if home is spelled absolutely and that spelling, `.` and `..` taken as names, is a
directory too, as it is without them. A relative home is read below the directory that the session is in. -/
theorem leads_home {config : Config} {s : Session} (h : s.Waits config) (hstill : s.Unstirred) {line : String}
    {rest : List String} (hw : Text.words line = "cd" :: "~" :: rest)
    (hhome : s.files.isDir (Path.normalize config.home) = true) :
    (s.LeadsHome line ↔
      Text.startsWith config.home "/" = true ∧ s.files.isDir config.home = true ∨
        Text.startsWith config.home "/" = false ∧ Path.resolve s.cwd config.home = Path.normalize config.home) ∧
    (Text.startsWith config.home "/" = true → (∀ part ∈ Path.split config.home, Path.IsPlain part) →
      s.LeadsHome line) := by
  have hiff := leadsHome_iff h.stands h.idle.running hstill hw
  cases habsolute : Text.startsWith config.home "/" with
  | true =>
      rw [Path.resolve_of_startsWith habsolute] at hiff
      have hspelled : s.LeadsHome line ↔ s.files.isDir config.home = true := by simpa using hiff
      refine ⟨by simpa using hspelled, fun _ hplain => ?_⟩
      rw [hspelled, ← isDir_normalize_of_plain hplain]
      exact hhome
  | false =>
      -- what is read below the directory is normal already
      have hnormal : Path.normalize (Path.resolve s.cwd config.home) = Path.resolve s.cwd config.home :=
        Path.normalize_of_canonical (Path.canonical_resolve h.stands.canonical habsolute)
      rw [hnormal] at hiff
      have hsame : s.LeadsHome line ↔ Path.resolve s.cwd config.home = Path.normalize config.home := by
        refine hiff.trans ⟨fun hfound => hfound.2, fun he => ⟨?_, he⟩⟩
        rw [he]
        exact hhome
      exact ⟨by simpa using hsame, nofun⟩

def roaming (home : String) : Session :=
  ((start { home } (.seeded 0) .builtin (.empty none) { wall := 0 }).submit "cd /projects").2

theorem roaming_waits (home : String) : (roaming home).Waits { home } := by
  have hwords : (Text.words "cd /projects").head? = some "cd" := by decide +kernel
  have hstart := Waits.start { home } (Tree.Reachable.seeded 0).grown (.empty none) { wall := 0 }
  exact hstart.submit (by rw [hwords]; decide)

theorem roaming_leads_home : (roaming "//home\\guest/").LeadsHome "cd ~" := by
  have hwords : Text.words "cd ~" = ["cd", "~"] := by decide +kernel
  have hhome : (roaming "//home\\guest/").files.isDir (Path.normalize "//home\\guest/") = true := by decide +kernel
  have hplain : ∀ part ∈ Path.split "//home\\guest/", Path.IsPlain part := by decide +kernel
  have hstill : (roaming "//home\\guest/").Unstirred := fun p _ => not_stirred (hooks_submit _ _) p
  exact (leads_home (roaming_waits _) hstill hwords hhome).2 (by decide +kernel) hplain

/-- This home is where the session began, and `cd ~` looks for it below `/projects`. -/
theorem roaming_lost : (roaming "home/guest").files.isDir (Path.normalize "home/guest") = true ∧
    (roaming "home/guest").cwd = "/projects" ∧ ¬ (roaming "home/guest").LeadsHome "cd ~" ∧
    ((roaming "home/guest").submit "cd ~").2.cwd = "/projects" := by
  decide +kernel

end Session

end Terminal
