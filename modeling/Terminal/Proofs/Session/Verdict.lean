import Terminal.Proofs.Session.Effect

namespace Terminal

def Fault.line (f : Fault) : String := if f.message = "" then f.label else f.message

namespace Session

structure Verdict where
  marks : Bool
  entry : Option (Level × String)
  line : String
  deriving DecidableEq, Repr

namespace Verdict

def stopped (name : String) : Verdict := ⟨true, some (.info, "cancelled: " ++ name), "^C"⟩

def complaint (message : String) : Verdict := ⟨false, some (.warning, message), message⟩

def broken (name : String) (f : Fault) : Verdict :=
  ⟨false, some (.error, name ++ ": " ++ f.label ++ ": " ++ f.message), f.line⟩

def hushed : Verdict := ⟨true, none, "^C"⟩

def preface (v : Verdict) : List Change :=
  (if v.marks then [.markCancelled] else []) ++ v.entry.toList.map fun e => .report e.1 e.2

def changes (v : Verdict) : List Change := v.preface ++ [.push (.output v.line)]

theorem mem_preface {v : Verdict} {c : Change} (h : c ∈ v.preface) :
    c = .markCancelled ∧ v.marks = true ∨ ∃ e ∈ v.entry, c = .report e.1 e.2 := by
  rcases List.mem_append.1 h with h | h
  · cases hm : v.marks with
    | true => exact .inl ⟨by simpa [hm] using h, rfl⟩
    | false => simp [hm] at h
  · obtain ⟨e, he, rfl⟩ := List.mem_map.1 h
    exact .inr ⟨e, by simpa using he, rfl⟩

theorem any_marks_preface (v : Verdict) : v.preface.any Change.marks = v.marks := by
  rcases v with ⟨_ | _, _ | e, line⟩ <;> rfl

theorem any_marks_changes (v : Verdict) : v.changes.any Change.marks = v.marks := by
  simp [changes, any_marks_preface, Change.marks]

theorem told_preface (v : Verdict) : told v.preface = [] := by
  rcases v with ⟨_ | _, _ | e, line⟩ <;> rfl

theorem told_changes (v : Verdict) : told v.changes = [.record (.output v.line)] := by
  rw [changes, told_append, told_preface]
  rfl

theorem moves_changes (v : Verdict) : ∀ c ∈ v.changes, c.moves = false := by
  rcases v with ⟨_ | _, _ | e, line⟩ <;> simp [changes, preface, Change.moves]

end Verdict

/-- The verdict on how a command ends; a result is applied without one unless the command was cancelled. -/
def verdict? (cancelled : Bool) (name : String) : Except Failure (Option Result) → Option Verdict
  | .ok _ => if cancelled then some (.stopped name) else none
  | .error .cancelled => some (.stopped name)
  | .error (.fault f) => some (if cancelled then .hushed else .broken name f)
  | .error f => some (.complaint f.message)

variable {emit : Emit} {s : Session}

theorem print_amend (hemit : Announces emit) (cs : List Change) (text : String) (s : Session) :
    ∃ ds, (∀ d ∈ ds, s.Heeds d) ∧
      (s.amend cs).print emit text = s.amend (cs ++ [.push (.output text)] ++ ds) := by
  obtain ⟨ds, hds, he⟩ := hemit (.output text) (s.amend cs)
  refine ⟨ds, ?_, ?_⟩
  · intro d hd
    exact (hds d hd).congr (hooks_amend cs s) (running_amend cs s)
  · rw [amend_append, amend_append]
    exact he

theorem conclude_eq_print (emit : Emit) {name : String} {ending : Except Failure (Option Result)} {v : Verdict}
    (h : verdict? s.cancelled name ending = some v) :
    s.conclude emit name ending = (s.amend v.preface).print emit v.line := by
  cases ending with
  | ok result =>
      cases hc : s.cancelled with
      | true =>
          simp only [verdict?, hc, if_true, Option.some.injEq] at h
          subst h
          simp only [conclude, hc, if_true]
          rfl
      | false => simp [verdict?, hc] at h
  | error f =>
      cases f with
      | fault f =>
          cases hc : s.cancelled with
          | true =>
              simp only [verdict?, hc, if_true, Option.some.injEq] at h
              subst h
              simp only [conclude, endFault, hc, if_true]
              rfl
          | false =>
              simp only [verdict?, hc, Bool.false_eq_true, if_false, Option.some.injEq] at h
              subst h
              simp only [conclude, endFault, hc, Bool.false_eq_true, if_false]
              rfl
      | _ =>
          cases h
          rfl

theorem conclude_of_verdict (hemit : Announces emit) {name : String} {ending : Except Failure (Option Result)}
    {v : Verdict} (h : verdict? s.cancelled name ending = some v) :
    ∃ ds, (∀ d ∈ ds, s.Heeds d) ∧ s.conclude emit name ending = s.amend (v.changes ++ ds) := by
  rw [conclude_eq_print emit h]
  exact print_amend hemit v.preface v.line s

theorem conclude_of_no_verdict (emit : Emit) {name : String} {ending : Except Failure (Option Result)}
    (h : verdict? s.cancelled name ending = none) :
    s.cancelled = false ∧ ∃ result, ending = .ok result ∧
      s.conclude emit name ending = result.elim s fun r => s.apply emit r := by
  cases ending with
  | ok result =>
      cases hc : s.cancelled with
      | true => simp [verdict?, hc] at h
      | false =>
          refine ⟨rfl, result, rfl, ?_⟩
          cases result <;> simp [conclude, hc]
  | error f => cases f <;> cases h

inductive Concludes (s : Session) (name : String) (ending : Except Failure (Option Result)) : Change → Prop
  | verdict {v : Verdict} {c : Change} :
      verdict? s.cancelled name ending = some v → c ∈ v.changes → Concludes s name ending c
  | result {r : Result} {c : Change} : s.cancelled = false → ending = .ok (some r) → r.May c → Concludes s name ending c

theorem Concludes.kinds {name : String} {ending : Except Failure (Option Result)} {c : Change}
    (h : s.Concludes name ending c) :
    c = .markCancelled ∨ (∃ level message, c = .report level message) ∨ (∃ text, c = .push (.output text)) ∨
      ∃ r, ending = .ok (some r) ∧ r.May c := by
  cases h with
  | verdict _ hmem =>
      rcases List.mem_append.1 hmem with hmem | hmem
      · rcases Verdict.mem_preface hmem with ⟨rfl, -⟩ | ⟨e, -, rfl⟩
        · exact .inl rfl
        · exact .inr (.inl ⟨_, _, rfl⟩)
      · exact .inr (.inr (.inl ⟨_, List.mem_singleton.1 hmem⟩))
  | result _ hending hmay => exact .inr (.inr (.inr ⟨_, hending, hmay⟩))

theorem amends_conclude (hemit : Announces emit) (name : String) (ending : Except Failure (Option Result))
    (s : Session) : Amends (fun c => s.Concludes name ending c ∨ s.Heeds c) s (s.conclude emit name ending) := by
  cases hv : verdict? s.cancelled name ending with
  | some v =>
      obtain ⟨ds, hds, he⟩ := conclude_of_verdict hemit hv
      refine ⟨v.changes ++ ds, ?_, he⟩
      intro c hc
      rcases List.mem_append.1 hc with hc | hc
      · exact .inl (.verdict hv hc)
      · exact .inr (hds c hc)
  | none =>
      obtain ⟨hcancelled, result, rfl, he⟩ := conclude_of_no_verdict emit hv
      rw [he]
      cases result with
      | none => exact .refl
      | some r => exact (amends_apply hemit r s).mono fun c hc => hc.imp_left (.result hcancelled rfl)

end Session

end Terminal
