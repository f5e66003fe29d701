import Terminal.Proofs.Session.Alike
import Terminal.Proofs.Session.Directory
import Terminal.Proofs.Session.Frame

namespace Terminal

open Commands

namespace Session

def Matches (s s' : Session) : Prop := Alike s.finish.2 s'.finish.2

theorem Alike.matched {s s' : Session} (h : Alike s s') : Matches s s' :=
  h.map (f := fun s => s.finish.2) (fun _ => rfl) fun _ => rfl

def Change.Passing (c : Change) : Prop := ∀ s, (c.apply s).finish.2.core = s.finish.2.core

section

variable {s s' : Session}

theorem Heeds.passing (hs : s.Looks) {c : Change} (h : s.Heeds c) : c.Passing := by
  intro t
  exact eq_of_core (core_heeds hs h t) (f := fun s => s.finish.2.core) fun _ => rfl

theorem Amends.matched {P : Change → Prop} (h : Amends P s s') (hs : s.Looks) (hP : ∀ c, P c → c.Passing) :
    Matches s s' := by
  have hcore : s'.finish.2.core = s.finish.2.core := h.keeps (f := fun s => s.finish.2.core) hP
  exact ⟨hcore.symm, hs⟩

theorem matches_emit (hs : s.Looks) (r : Record) : Matches s (emit r s) := by
  refine (amends_emit announces_emit r s).matched hs ?_
  rintro c (rfl | hc)
  · exact fun _ => rfl
  · exact hc.passing hs

theorem matches_conclude (hs : s.Looks) (name : String) {ending : Except Failure (Option Result)}
    (hending : ∀ r, ending = .ok (some r) → r.cwd = none) : Matches s (s.conclude emit name ending) := by
  refine (amends_conclude announces_emit name ending s).matched hs ?_
  rintro c (hc | hc)
  · rcases hc.kinds with rfl | ⟨level, message, rfl⟩ | ⟨text, rfl⟩ | ⟨r, hr, hmay⟩
    · exact fun _ => rfl
    · exact fun _ => rfl
    · exact fun _ => rfl
    · cases hmay with
      | move hcwd => cases (hending r hr).symm.trans hcwd
      | _ => exact fun _ => rfl
  · exact hc.passing hs

namespace Matches

theorem trans {s'' : Session} (h : Matches s s') (h' : Matches s' s'') : Matches s s'' := Alike.trans h h'

theorem symm (h : Matches s s') : Matches s' s := Alike.symm h

theorem typeIn (h : Matches s s') (text : String) : Alike (s.typeIn text) (s'.typeIn text) := by
  have hrest : Alike s.finish.2 s'.finish.2 := h
  have hturn : Alike { s with turn := some {} } { s' with turn := some {} } :=
    hrest.map (f := fun s => { s with turn := some {} }) (fun _ => rfl) fun _ => rfl
  have htyped : s.typed text = s'.typed text := hrest.eq (f := fun s => s.typed text) fun _ => rfl
  rw [Session.typeIn, Session.typeIn, htyped]
  exact hturn.emit _

end Matches

theorem Matches.opening (h : Matches s s') (line : String) :
    (∃ o t t', s.opening line = (.answered o, t) ∧ s'.opening line = (.answered o, t') ∧ Matches t t') ∨
    ∃ name args c prior prior' t t', Text.words line = name :: args ∧ s.registry.get? name = some c ∧
      s.opening line = (.begun ⟨name, args, prior, c.handler args⟩, t) ∧
      s'.opening line = (.begun ⟨name, args, prior', c.handler args⟩, t') ∧ Alike t t' := by
  have hrest : Alike s.finish.2 s'.finish.2 := h
  have hrunning : s.running = s'.running := hrest.eq (f := running) fun _ => rfl
  cases hidle : s.running with
  | true => exact .inl ⟨.busy, s, s', opening_of_running hidle line, opening_of_running (hrunning ▸ hidle) line, h⟩
  | false =>
      have hidle' : s'.running = false := hrunning ▸ hidle
      cases hw : Text.words line with
      | nil =>
          obtain ⟨hanswer, hafter⟩ := (h.typeIn "").finish
          refine .inl ⟨_, _, _, opening_of_blank hidle hw, ?_, hafter.matched⟩
          rw [opening_of_blank hidle' hw, answer, ← hanswer]
      | cons name args =>
          have htyped := h.typeIn line
          have hsame : (s.typeIn line).registry = (s'.typeIn line).registry := htyped.eq (f := registry) fun _ => rfl
          cases hc : (s.typeIn line).registry.get? name with
          | none =>
              obtain ⟨hanswer, hafter⟩ := ((htyped.remember line).missing name).finish
              refine .inl ⟨_, _, _, opening_of_unknown hidle hw hc, ?_, hafter.matched⟩
              rw [opening_of_unknown hidle' hw (hsame ▸ hc), answer, ← hanswer]
          | some c =>
              have hcommand : s.registry.get? name = some c := (begins_typeIn line s).registry ▸ hc
              have hlaunched := ((htyped.remember line).report .debug ("run " ++ Text.trim line)).launch
              exact .inr ⟨name, args, c, _, _, _, _, rfl, hcommand, opening_of_command hidle hw hc,
                opening_of_command hidle' hw (hsame ▸ hc), hlaunched⟩

theorem Matches.submit (h : Matches s s') (hregistry : s.registry = .builtin) {line : String}
    (hline : (Text.words line).head? ≠ some "history") :
    (s.submit line).1 = (s'.submit line).1 ∧ Matches (s.submit line).2 (s'.submit line).2 := by
  rw [submit_eq, submit_eq]
  rcases h.opening line with ⟨o, t, t', ho, ho', hafter⟩ |
    ⟨name, args, c, prior, prior', t, t', hw, hc, ho, ho', hafter⟩
  · rw [ho, ho']
    exact ⟨rfl, hafter⟩
  · have hname : name ≠ "history" := by simpa [hw] using hline
    have hblind : (c.handler args).Blind := blind_command hname (hregistry ▸ hc) args
    obtain ⟨hanswer, hlanded⟩ := hafter.fly name args prior prior' hblind
    rw [ho, ho']
    exact ⟨hanswer, hlanded.matched⟩

theorem matches_fly_report {f : Flight} {look : View → Except Failure Result} (hs : s.Looks)
    (hlook : ∀ v, OnlyPrints (look v)) (hrest : f.rest = Commands.report look) : Matches s.land (s.fly f).2 := by
  have hend (ending : Except Failure (Option Result)) (hrun : (f.rest.run (perform emit f.prior) s).1.ending? = some ending)
      (hkept : (f.rest.run (perform emit f.prior) s).2 = s) (hending : ∀ r, ending = .ok (some r) → r.cwd = none) :
      Matches s.land (s.fly f).2 := by
    have hmatched : Alike s.finish.2 (s.conclude emit f.name ending).finish.2 := matches_conclude hs f.name hending
    have hlanded : Matches s.land (s.conclude emit f.name ending).land.finish.2 := hmatched.land
    have hfly : s.fly f = s.settle f.name ending := by
      rw [fly_of_ending hrun, hkept]
    rw [hfly]
    exact hlanded
  cases hv : look (s.view f.prior) with
  | ok r =>
      have hrun : f.rest.run (perform emit f.prior) s = (.done (some r), s) := by
        rw [hrest, Commands.report, Script.run]
        simp only [perform, hv]
        rfl
      refine hend (.ok (some r)) (by rw [hrun]; rfl) (by rw [hrun]) ?_
      intro r' hr
      cases hr
      exact (hlook _ r hv).2
  | error e =>
      have hrun : f.rest.run (perform emit f.prior) s = (.failed e, s) := by
        rw [hrest, Commands.report, Script.run]
        simp only [perform, hv]
        rfl
      refine hend (.error e) (by rw [hrun]; rfl) (by rw [hrun]) ?_
      intro r' hr
      cases hr

theorem handler_history {c : Command} (h : Registry.builtin.get? "history" = some c) :
    c.handler = Commands.history :=
  handler_of_first_name h (by decide) (by simp [builtins])

theorem Matches.submit_history (h : Matches s s') (hregistry : s.registry = .builtin) {line : String}
    (hline : (Text.words line).head? = some "history") : Matches (s.submit line).2 (s'.submit line).2 := by
  rw [submit_eq, submit_eq]
  rcases h.opening line with ⟨o, t, t', ho, ho', hafter⟩ |
    ⟨name, args, c, prior, prior', t, t', hw, hc, ho, ho', hafter⟩
  · rw [ho, ho']
    exact hafter
  · obtain rfl : name = "history" := by simpa [hw] using hline
    obtain ⟨look, hreport, hlook⟩ := history_eq_report args
    have hrest : c.handler args = Commands.report look := by
      rw [handler_history (hregistry ▸ hc), hreport]
    have hleft := matches_fly_report (f := ⟨"history", args, prior, c.handler args⟩) hafter.looks hlook hrest
    have hright := matches_fly_report (f := ⟨"history", args, prior', c.handler args⟩) hafter.symm.looks hlook hrest
    rw [ho, ho']
    exact (hleft.symm.trans hafter.land.matched).trans hright

/-- A line of which nothing can come. -/
def Stray (line : String) : Prop := ∀ name ∈ (Text.words line).head?, Registry.builtin.get? name = none

theorem matches_typeIn (hs : s.Looks) (text : String) : Matches s (s.typeIn text) :=
  matches_emit (s := { s with turn := some {} }) hs _

theorem matches_stray (hs : s.Looks) (hregistry : s.registry = .builtin) {line : String} (hline : Stray line) :
    Matches s (s.submit line).2 := by
  rw [submit_eq]
  cases hrunning : s.running with
  | true =>
      rw [opening_of_running hrunning]
      exact ⟨rfl, hs⟩
  | false =>
      cases hw : Text.words line with
      | nil =>
          rw [opening_of_blank hrunning hw]
          exact matches_typeIn hs ""
      | cons name args =>
          have hc : (s.typeIn line).registry.get? name = none := by
            rw [(begins_typeIn line s).registry, hregistry]
            exact hline name (by simp [hw])
          have htyped : Matches s (s.typeIn line) := matches_typeIn hs line
          have hlooks : (((s.typeIn line).remember line).report .warning ("command not found: " ++ name)).Looks :=
            htyped.symm.looks
          have hreport : Matches (s.typeIn line)
              (((s.typeIn line).remember line).report .warning ("command not found: " ++ name)) := ⟨rfl, hlooks⟩
          rw [opening_of_unknown hrunning hw hc]
          exact (htyped.trans hreport).trans (matches_emit hlooks _)

end

/-- A line that is typed, perhaps only inserted between others. -/
structure TypedLine where
  line : String
  inserted : Bool
  deriving DecidableEq, Repr

def TypedLine.counts (e : TypedLine) : Bool := !e.inserted && (Text.words e.line).head? != some "history"

def originals (es : List TypedLine) : List TypedLine := es.filter fun e => !e.inserted

def answers : List TypedLine → Session → List (TypedLine × Submission)
  | [], _ => []
  | e :: es, s => (e, (s.submit e.line).1) :: answers es (s.submit e.line).2

def submitAll (es : List TypedLine) (s : Session) : Session := es.foldl (fun s e => (s.submit e.line).2) s

variable {s s' : Session}

theorem registry_submit (line : String) (s : Session) : (s.submit line).2.registry = s.registry := by
  have hopening := (opening_keeps line s).1
  rw [submit_eq]
  rcases ho : s.opening line with ⟨o | f, t⟩
  · rw [ho] at hopening
    exact hopening
  · rw [ho] at hopening
    exact (registry_fly f t).trans hopening

theorem Matches.submitAll {es : List TypedLine} (hes : ∀ e ∈ es, e.inserted = true → Stray e.line) (h : Matches s s')
    (hregistry : s.registry = .builtin) :
    Matches (s.submitAll es) (s'.submitAll (originals es)) ∧
      (s.answers es).filter (fun x => x.1.counts) = (s'.answers (originals es)).filter fun x => x.1.counts := by
  induction es generalizing s s' with
  | nil => exact ⟨h, rfl⟩
  | cons e es ih =>
      have hrest : ∀ d ∈ es, d.inserted = true → Stray d.line := fun d hd => hes d (List.mem_cons_of_mem _ hd)
      have hregistry' : (s.submit e.line).2.registry = .builtin := (registry_submit e.line s).trans hregistry
      cases hinserted : e.inserted with
      | true =>
          -- the session with the inserted line goes one step ahead of the other
          have hstray : Matches s (s.submit e.line).2 :=
            matches_stray (s := s) h.looks hregistry (hes e (List.mem_cons_self ..) hinserted)
          obtain ⟨hafter, hanswers⟩ := ih hrest (hstray.symm.trans h) hregistry'
          have horiginals : originals (e :: es) = originals es := List.filter_cons_of_neg (by simp [hinserted])
          have hcounts : e.counts = false := by simp [TypedLine.counts, hinserted]
          rw [horiginals]
          exact ⟨hafter, (List.filter_cons_of_neg (by simp [hcounts])).trans hanswers⟩
      | false =>
          have horiginals : originals (e :: es) = e :: originals es := List.filter_cons_of_pos (by simp [hinserted])
          rw [horiginals]
          by_cases hline : (Text.words e.line).head? = some "history"
          · obtain ⟨hafter, hanswers⟩ := ih hrest (h.submit_history hregistry hline) hregistry'
            have hcounts : e.counts = false := by simp [TypedLine.counts, hline]
            refine ⟨hafter, ?_⟩
            rw [answers, answers, List.filter_cons_of_neg (by simp [hcounts]),
              List.filter_cons_of_neg (by simp [hcounts]), hanswers]
          · obtain ⟨hanswer, hsubmitted⟩ := h.submit hregistry hline
            obtain ⟨hafter, hanswers⟩ := ih hrest hsubmitted hregistry'
            have hcounts : e.counts = true := by simp [TypedLine.counts, hinserted, hline]
            refine ⟨hafter, ?_⟩
            rw [answers, answers, hanswer, List.filter_cons_of_pos (by simp [hcounts]),
              List.filter_cons_of_pos (by simp [hcounts]), hanswers]

/-- Where listeners only look, lines that are blank or name no command and are inserted between others change neither
where the lines lead nor how any of them is answered that does not ask for the lines before. -/
theorem strays_harmless (hregistry : s.registry = .builtin) (hlooks : s.Looks) (es : List TypedLine)
    (hes : ∀ e ∈ es, e.inserted = true → Stray e.line) :
    (s.submitAll es).files = (s.submitAll (originals es)).files ∧
    (s.submitAll es).cwd = (s.submitAll (originals es)).cwd ∧
    (s.submitAll es).env = (s.submitAll (originals es)).env ∧
    (s.answers es).filter (fun x => x.1.counts) = (s.answers (originals es)).filter fun x => x.1.counts := by
  have hself : Matches s s := ⟨rfl, hlooks⟩
  obtain ⟨hafter, hanswers⟩ := hself.submitAll hes hregistry
  have hrest : Alike (s.submitAll es).finish.2 (s.submitAll (originals es)).finish.2 := hafter
  exact ⟨hrest.eq (f := Session.files) fun _ => rfl, hrest.eq (f := Session.cwd) fun _ => rfl,
    hrest.eq (f := Session.env) fun _ => rfl, hanswers⟩

def mistyping : List TypedLine :=
  [⟨"mkdir a", false⟩, ⟨"lss a", true⟩, ⟨" ", true⟩, ⟨"history", false⟩, ⟨"ls", false⟩]

theorem mistyping_harmless :
    let s := (after []).watch [⟨1, .prompt⟩]
    (s.submitAll mistyping).files = (s.submitAll (originals mistyping)).files ∧
    (s.answers mistyping).filter (fun x => x.1.counts) =
      (s.answers (originals mistyping)).filter (fun x => x.1.counts) ∧
    s.answers (originals mistyping) ≠ (s.answers mistyping).filter fun x => !x.1.inserted := by
  intro s
  have hlooks : s.Looks := by
    intro h hmem
    cases List.mem_singleton.1 hmem
    rfl
  have hstray : ∀ e ∈ mistyping, e.inserted = true → Stray e.line := by
    have hmissing : Registry.builtin.get? "lss" = none := by decide +kernel
    have hwords : Text.words "lss a" = ["lss", "a"] ∧ Text.words " " = [] := by decide +kernel
    simp [mistyping, Stray, hwords, hmissing]
  obtain ⟨hfiles, -, -, hanswers⟩ := strays_harmless (s := s) rfl hlooks mistyping hstray
  exact ⟨hfiles, hanswers, by decide +kernel⟩

end Session

end Terminal
