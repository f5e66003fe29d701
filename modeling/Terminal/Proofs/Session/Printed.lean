import Terminal.Proofs.Session.Closing
import Terminal.Proofs.Session.Ledger

namespace Terminal

namespace Notice

def output? : Notice → Option String
  | record r => r.output?
  | clear => none

theorem output_replay (view : List Record) (ns : List Notice) :
    (replay view ns).filterMap Record.output? <:+ view.filterMap Record.output? ++ ns.filterMap output? := by
  induction ns generalizing view with
  | nil => simp [replay]
  | cons n ns ih =>
      cases n with
      | clear => exact (ih []).trans (List.suffix_append _ _)
      | record r =>
          have hrest := ih (view ++ [r])
          have hone : [r].filterMap Record.output? = [record r].filterMap output? := rfl
          rwa [List.filterMap_append, hone, List.append_assoc, ← List.filterMap_append] at hrest

theorem output_replay_of_no_clear {ns : List Notice} (h : clear ∉ ns) :
    (replay [] ns).filterMap Record.output? = ns.filterMap output? := by
  induction ns with
  | nil => rfl
  | cons n ns ih =>
      cases n with
      | clear => exact absurd (List.mem_cons_self ..) h
      | record r =>
          have hns : clear ∉ ns := fun hmem => h (List.mem_cons_of_mem _ hmem)
          have hone : [r].filterMap Record.output? = [record r].filterMap output? := rfl
          rw [replay, List.nil_append, replay_of_no_clear hns, List.filterMap_append, ih hns, hone,
            ← List.filterMap_append]
          rfl

end Notice

structure Pace where
  config : Config
  ticks : Int
  probes : List Probe
  laterProbe : Probe
  probed : List (String × Option Number)

namespace Session

def printed (s : Session) : List String := s.notices.filterMap Notice.output?

def pace (s : Session) : Pace := ⟨s.config, s.world.ticks, s.world.probes, s.world.laterProbe, s.world.probed⟩

theorem config_of_pace {s s' : Session} (h : s'.pace = s.pace) : s'.config = s.config := congrArg Pace.config h

/-- The turn holds what was told since `s`, from the last clearing on; of all that, `lines` are the output. -/
structure Prints (s s' : Session) (t : Turn) (lines : List String) : Prop where
  told : ∃ ns, s'.notices = s.notices ++ ns ∧ ns.filterMap Notice.output? = lines ∧ t.records = Notice.replay [] ns
  kept : t.cleared = false → t.output = lines
  part : t.output <:+ lines

namespace Change

def paces : Change → Bool
  | takeProbe _ | tick _ => true
  | _ => false

theorem config_apply (c : Change) (s : Session) : (c.apply s).config = s.config := by
  cases c <;> rfl

theorem pace_apply {c : Change} (h : c.paces = false) (s : Session) : (c.apply s).pace = s.pace := by
  cases c with
  | takeProbe url => cases h
  | tick ticks => cases h
  | _ => rfl

def Silent (c : Change) : Prop := c.paces = false ∧ ∀ r, c = .push r → r.output? = none

theorem Silent.output {c : Change} (h : c.Silent) : c.notice?.bind Notice.output? = none := by
  cases c with
  | push r => exact h.2 r rfl
  | _ => rfl

end Change

section Amends

variable {P : Change → Prop} {s s' s'' : Session}

theorem printed_amend (cs : List Change) (s : Session) :
    (s.amend cs).printed = s.printed ++ (told cs).filterMap Notice.output? := by
  rw [printed, notices_amend, List.filterMap_append, printed]

theorem Amends.config_eq (h : Amends P s s') : s'.config = s.config := h.keeps fun c _ => c.config_apply

theorem Amends.exists_printed (h : Amends P s s') : ∃ more, s'.printed = s.printed ++ more := by
  obtain ⟨cs, -, rfl⟩ := h
  exact ⟨_, printed_amend cs s⟩

theorem Amends.pace_eq (h : Amends P s s') (hP : ∀ c, P c → c.paces = false) : s'.pace = s.pace :=
  h.keeps fun c hc => Change.pace_apply (hP c hc)

theorem Amends.printed_eq (h : Amends P s s') (hP : ∀ c, P c → c.notice?.bind Notice.output? = none) :
    s'.printed = s.printed := by
  obtain ⟨cs, hcs, rfl⟩ := h
  have htold : (told cs).filterMap Notice.output? = [] := by
    rw [told, List.filterMap_filterMap]
    exact List.filterMap_eq_nil_iff.2 fun c hc => hP c (hcs c hc)
  rw [printed_amend, htold, List.append_nil]

theorem Amends.silent (h : Amends P s s') (hP : ∀ c, P c → c.Silent) :
    s'.printed = s.printed ∧ s'.pace = s.pace :=
  ⟨h.printed_eq fun c hc => (hP c hc).output, h.pace_eq fun c hc => (hP c hc).1⟩

theorem Accounts.prints (h : s.Accounts s') {lines : List String} (hlines : s'.printed = s.printed ++ lines) {t : Turn}
    (hfinish : s'.finish = (.settled t, s'')) : s.Prints s'' t lines := by
  obtain ⟨ns, cancelled, hnotices, -, hturn⟩ := h
  rw [printed, hnotices, List.filterMap_append, printed, List.append_cancel_left_eq] at hlines
  rw [Session.finish, hturn] at hfinish
  cases hfinish
  have hpart := Notice.output_replay [] ns
  rw [hlines] at hpart
  refine ⟨⟨ns, hnotices, hlines, rfl⟩, fun hcleared => ?_, hpart⟩
  have hns : Notice.clear ∉ ns := by simpa using hcleared
  rw [Turn.output, Option.getD_some, Notice.output_replay_of_no_clear hns, hlines]

theorem printed_settle {name : String} {ending : Except Failure (Option Result)} {t : Turn}
    (h : s.settle name ending = (.settled t, s')) : s'.printed = (s.conclude emit name ending).printed := by
  cases h
  rfl

theorem prints_settle (h : s.Accounts s') {name : String} {ending : Except Failure (Option Result)} {t : Turn}
    (hsettle : s'.settle name ending = (.settled t, s'')) {lines : List String}
    (hlines : s''.printed = s.printed ++ lines) : s.Prints s'' t lines := by
  have hconclude : s.Accounts (s'.conclude emit name ending) := h.amend (amends_conclude announces_emit name ending s')
  have hland : s.Accounts (s'.conclude emit name ending).land := hconclude
  exact hland.prints ((printed_settle hsettle).symm.trans hlines) hsettle

theorem printed_typeIn (h : ∀ hook ∈ s.watcher.hooks, ∀ text, hook.action ≠ .complete text) (text : String) :
    (s.typeIn text).printed = s.printed := by
  refine (amends_emit announces_emit (s.typed text) { s with turn := some {} }).printed_eq ?_
  rintro c (rfl | ⟨⟨after, action⟩, hmem, hmay | ⟨reply, rfl⟩⟩)
  · rfl
  · cases hmay with
    | complete shown _ => exact absurd rfl (h _ hmem _)
    | _ => rfl
  · rfl

theorem FromBanner.output {ns : List Notice} (h : FromBanner ns) : ns.filterMap Notice.output? = [] := by
  refine List.filterMap_eq_nil_iff.2 fun n hn => ?_
  cases n with
  | record r =>
      obtain ⟨text, -, rfl⟩ := h r hn
      rfl
  | clear => rfl

theorem Closes.printed {v : Verdict} {t : Turn} (h : Closes v t s s') : s'.printed = s.printed ++ [v.line] := by
  obtain ⟨ms, hnotices, hms⟩ := h.notices
  rw [Session.printed, hnotices, List.filterMap_append, List.filterMap_cons, hms.output]
  rfl

end Amends

section Busy

variable {s : Session} (hrunning : s.running = true)

include hrunning

theorem silent_of_may {a : Action} {c : Change} (h : a.May s.running c) : c.Silent := by
  rw [hrunning] at h
  refine ⟨by cases h <;> rfl, fun r hr => ?_⟩
  obtain ⟨text, -, rfl⟩ := banner_of_may (hr ▸ h)
  rfl

theorem Heeds.silent {c : Change} (h : s.Heeds c) : c.Silent := by
  obtain ⟨hook, -, hmay | ⟨reply, rfl⟩⟩ := h
  · exact silent_of_may hrunning hmay
  · exact ⟨rfl, fun r hr => nomatch hr⟩

theorem pace_conclude (name : String) (ending : Except Failure (Option Result)) :
    (s.conclude emit name ending).pace = s.pace := by
  refine (amends_conclude announces_emit name ending s).pace_eq ?_
  rintro c (hc | hheeds)
  · rcases hc.kinds with rfl | ⟨level, message, rfl⟩ | ⟨text, rfl⟩ | ⟨r, -, hmay⟩
    · rfl
    · rfl
    · rfl
    · cases hmay <;> rfl
  · exact (hheeds.silent hrunning).1

theorem act_silent (a : Action) : (s.act emit a).2.printed = s.printed ∧ (s.act emit a).2.pace = s.pace := by
  refine (amends_act announces_emit a s).silent ?_
  rintro c (hmay | hheeds)
  · exact silent_of_may hrunning hmay
  · exact hheeds.silent hrunning

theorem print_told (text : String) :
    (s.print emit text).printed = s.printed ++ [text] ∧ (s.print emit text).pace = s.pace := by
  obtain ⟨cs, hcs, he⟩ := announces_emit (.output text) s
  have hpush : (s.push (.output text)).printed = s.printed ++ [text] := by
    rw [printed, push, List.filterMap_append]
    rfl
  have hheard : (s.push (.output text)).running = true := hrunning
  have hamends : Amends s.Heeds (s.push (.output text)) ((s.push (.output text)).amend cs) := ⟨cs, hcs, rfl⟩
  obtain ⟨hprinted, hpace⟩ := hamends.silent fun c hc => hc.silent hrunning
  rw [print, he]
  exact ⟨hprinted.trans hpush, hpace⟩

end Busy

end Session

end Terminal
