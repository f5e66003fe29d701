import Terminal.Proofs.Session.Exclusion

namespace Terminal

namespace Session

def FromBanner (ns : List Notice) : Prop := ∀ r, .record r ∈ ns → ∃ text ∈ banner, r = .system text

theorem FromBanner.append {ns ms : List Notice} (hns : FromBanner ns) (hms : FromBanner ms) :
    FromBanner (ns ++ ms) := by
  intro r hr
  rcases List.mem_append.1 hr with hr | hr
  · exact hns r hr
  · exact hms r hr

theorem fromBanner_told {cs : List Change} (h : ∀ r, .push r ∈ cs → ∃ text ∈ banner, r = .system text) :
    FromBanner (told cs) := by
  intro r hr
  obtain ⟨c, hc, hnotice⟩ := List.mem_filterMap.1 hr
  cases c with
  | push r' =>
      cases hnotice
      exact h r hc
  | _ => cases hnotice

theorem banner_of_may {a : Action} {r : Record} (h : a.May true (.push r)) : ∃ text ∈ banner, r = .system text := by
  cases h with
  | welcome htext => exact ⟨_, htext, rfl⟩
  | giveUp _ _ _ _ hidle => cases hidle
  | complete _ hidle => cases hidle

variable {s : Session}

theorem banner_of_heeds (hrunning : s.running = true) {r : Record} (h : s.Heeds (.push r)) :
    ∃ text ∈ banner, r = .system text := by
  obtain ⟨hook, -, hmay | ⟨reply, he⟩⟩ := h
  · exact banner_of_may (hrunning ▸ hmay)
  · cases he

theorem banner_of_call (hrunning : s.running = true) (hc : s.cancelled = true) {c : Call} {r : Record}
    (h : c.May s (.push r) ∨ s.Heeds (.push r)) : ∃ text ∈ banner, r = .system text := by
  rcases h with h | h
  · cases h with
    | print hprint => simp [hc] at hprint
    | act hact => exact banner_of_may (hrunning ▸ hact)
  · exact banner_of_heeds hrunning h

def isDiscreet : Action → Bool
  | .welcome | .clear | .moveTo _ => false
  | _ => true

theorem notice?_of_discreet (hrunning : s.running = true) (hd : ∀ h ∈ s.watcher.hooks, isDiscreet h.action = true)
    {c : Change} (h : s.Heeds c) : c.notice? = none ∧ c.moves = false := by
  obtain ⟨⟨after, action⟩, hmem, hmay | ⟨reply, rfl⟩⟩ := h
  · have hdiscreet : isDiscreet action = true := hd _ hmem
    rw [hrunning] at hmay
    cases hmay with
    | giveUp _ _ _ _ hidle => cases hidle
    | complete _ hidle => cases hidle
    | clear => cases hdiscreet
    | welcome _ => cases hdiscreet
    | greet => cases hdiscreet
    | moveTo _ => cases hdiscreet
    | _ => exact ⟨rfl, rfl⟩
  · exact ⟨rfl, rfl⟩

structure Closes (v : Verdict) (t : Turn) (s s' : Session) : Prop where
  marked : t.cancelled = v.marks
  notices : ∃ ms, s'.notices = s.notices ++ .record (.output v.line) :: ms ∧ FromBanner ms
  frame : (∀ h ∈ s.watcher.hooks, isDiscreet h.action = true) →
    s'.scrollback = s.scrollback ++ [.output v.line] ∧
      t.records.getLast? = some (.output v.line) ∧ s'.cwd = s.cwd

theorem closes_of_settle (hbusy : s.Busy) {name : String} {ending : Except Failure (Option Result)} {v : Verdict}
    (hv : verdict? s.cancelled name ending = some v) {t : Turn} {s' : Session}
    (h : s.settle name ending = (.settled t, s')) : Closes v t s s' := by
  obtain ⟨t₀, hturn, hmark⟩ := hbusy.turn
  obtain ⟨ds, hds, hconclude⟩ := conclude_of_verdict announces_emit hv
  have htold : told (v.changes ++ ds) = .record (.output v.line) :: told ds := by
    rw [told_append, v.told_changes]
    rfl
  have hmarked : (v.changes ++ ds).any Change.marks = v.marks := by
    have hds_marks : ds.any Change.marks = false := by simpa using fun d hd => (hds d hd).marks
    rw [List.any_append, v.any_marks_changes, hds_marks, Bool.or_false]
  rw [settle, hconclude, finish] at h
  simp only [land, turn_amend, hturn, htold, hmarked, hmark, Option.map_some, Option.getD_some,
    Bool.false_or] at h
  cases h
  refine ⟨rfl, ⟨told ds, ?_, ?_⟩, ?_⟩
  · rw [notices_amend, htold]
  · exact fromBanner_told fun r hr => banner_of_heeds hbusy.running (hds _ hr)
  · intro hdiscreet
    have hds_quiet (d : Change) (hd : d ∈ ds) : d.notice? = none ∧ d.moves = false :=
      notice?_of_discreet hbusy.running hdiscreet (hds d hd)
    have hds_told : told ds = [] := by simpa [told] using fun d hd => (hds_quiet d hd).1
    have hstays (c : Change) (hc : c ∈ v.changes ++ ds) : c.moves = false := by
      rcases List.mem_append.1 hc with hc | hc
      · exact v.moves_changes c hc
      · exact (hds_quiet c hc).2
    refine ⟨?_, ?_, cwd_amend hstays s⟩
    · rw [scrollback_amend, htold, hds_told]
      rfl
    · rw [hds_told]
      simp [Notice.replay]

end Session

end Terminal
