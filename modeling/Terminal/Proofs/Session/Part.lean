import Terminal.Proofs.Session.Files
import Terminal.Proofs.Session.Scene

namespace Terminal

namespace Session

inductive Part where
  | files
  | value (key : String)
  | cwd
  | records
  deriving DecidableEq, Repr

/-- No part is touched but those in `P`. Records that are added do not count, only records that disappear. -/
structure Touches (P : Part → Prop) (s s' : Session) : Prop where
  files : P .files ∨ s'.files = s.files
  value : ∀ key, P (.value key) ∨ s'.env.get? key = s.env.get? key
  env : (∃ key, P (.value key)) ∨ s'.env = s.env
  cwd : P .cwd ∨ s'.cwd = s.cwd
  records : P .records ∨ s.scrollback <+: s'.scrollback

namespace Touches

variable {P Q : Part → Prop} {s s' s'' : Session}

theorem of_eq (hfiles : s'.files = s.files) (henv : s'.env = s.env) (hcwd : s'.cwd = s.cwd)
    (hscrollback : s'.scrollback = s.scrollback) : Touches P s s' where
  files := .inr hfiles
  value key := .inr (by rw [henv])
  env := .inr henv
  cwd := .inr hcwd
  records := .inr (by rw [hscrollback])

theorem refl : Touches P s s := of_eq rfl rfl rfl rfl

theorem mono (h : Touches P s s') (hPQ : ∀ p, P p → Q p) : Touches Q s s' where
  files := h.files.imp_left (hPQ _)
  value key := (h.value key).imp_left (hPQ _)
  env := h.env.imp_left fun ⟨key, hkey⟩ => ⟨key, hPQ _ hkey⟩
  cwd := h.cwd.imp_left (hPQ _)
  records := h.records.imp_left (hPQ _)

theorem trans (h : Touches P s s') (h' : Touches P s' s'') : Touches P s s'' where
  files := h.files.elim .inl fun he => h'.files.imp_right fun he' => he'.trans he
  value key := (h.value key).elim .inl fun he => (h'.value key).imp_right fun he' => he'.trans he
  env := h.env.elim .inl fun he => h'.env.imp_right fun he' => he'.trans he
  cwd := h.cwd.elim .inl fun he => h'.cwd.imp_right fun he' => he'.trans he
  records := h.records.elim .inl fun he => h'.records.imp_right he.trans

theorem assign {key : String} (hkey : P (.value key)) (value : String) (s : Session) :
    Touches P s (s.setVariable key value) where
  files := .inr rfl
  value other := by
    by_cases h : key = other
    · exact .inl (h ▸ hkey)
    · exact .inr (Table.get?_put_of_ne s.env value h)
  env := .inl ⟨key, hkey⟩
  cwd := .inr rfl
  records := .inr (List.prefix_refl _)

theorem moveTo (hcwd : P .cwd) (hpwd : P (.value "PWD")) (path : String) (s : Session) :
    Touches P s (s.moveTo path) := by
  have hput := Touches.assign hpwd (s.moveTo path).cwd s
  exact ⟨hput.files, hput.value, hput.env, .inl hcwd, hput.records⟩

end Touches

end Session

open Session

inductive Action.Affects : Action → Part → Prop
  | clear : Affects .clear .records
  | move (path : String) : Affects (.moveTo path) .cwd
  | follow (path : String) : Affects (.moveTo path) (.value "PWD")
  | theme : Affects .cycleTheme (.value "THEME")

inductive Call.Affects : Call → Part → Prop
  | clear : Affects .clear .records
  | move (path : String) : Affects (.moveTo path) .cwd
  | follow (path : String) : Affects (.moveTo path) (.value "PWD")
  | assign (key value : String) : Affects (.setVariable key value) (.value key)
  | edit (op : FileOp) : Affects (.change op) .files
  | act {a : Action} {p : Part} : a.Affects p → Affects (.act a) p

inductive Result.Affects (r : Result) : Part → Prop
  | clear : r.clear = true → Affects r .records
  | move {path : String} : r.cwd = some path → Affects r .cwd
  | follow {path : String} : r.cwd = some path → Affects r (.value "PWD")

namespace Session

def Stirred (s : Session) (p : Part) : Prop := ∃ h ∈ s.watcher.hooks, h.action.Affects p

theorem not_stirred {s : Session} (h : s.watcher.hooks = []) (p : Part) : ¬ s.Stirred p := by
  rintro ⟨hook, hmem, -⟩
  rw [h] at hmem
  cases hmem

theorem Stirred.congr {s s' : Session} {p : Part} (hhooks : s'.watcher.hooks = s.watcher.hooks) (h : s'.Stirred p) :
    s.Stirred p := by
  rw [Stirred, ← hhooks]
  exact h

inductive Change.Affects : Change → Part → Prop
  | clear : Affects .clear .records
  | move (path : String) : Affects (.move path) .cwd
  | follow (path : String) : Affects (.move path) (.value "PWD")
  | assign (key value : String) : Affects (.assign key value) (.value key)
  | edit (op : FileOp) : Affects (.edit op) .files

theorem touches_apply (c : Change) (s : Session) : Touches c.Affects s (c.apply s) := by
  cases c with
  | push r => exact ⟨.inr rfl, fun _ => .inr rfl, .inr rfl, .inr rfl, .inr (List.prefix_append ..)⟩
  | clear => exact ⟨.inr rfl, fun _ => .inr rfl, .inr rfl, .inr rfl, .inl .clear⟩
  | edit op => exact ⟨.inl (.edit op), fun _ => .inr rfl, .inr rfl, .inr rfl, .inr (List.prefix_refl _)⟩
  | move path => exact .moveTo (.move path) (.follow path) path s
  | assign key value => exact .assign (.assign key value) value s
  | _ => exact .of_eq rfl rfl rfl rfl

variable {A : Change → Prop} {P : Part → Prop} {s s' : Session}

theorem Amends.touches (h : Amends A s s') (hA : ∀ c, A c → ∀ p, c.Affects p → P p) : Touches P s s' :=
  h.relates (fun _ => .refl) Touches.trans fun c hc s => (touches_apply c s).mono (hA c hc)

theorem affects_of_may {a : Action} {running : Bool} {c : Change} (h : a.May running c) {p : Part} (hp : c.Affects p) :
    a.Affects p := by
  cases h with
  | clear =>
      cases hp
      exact .clear
  | moveTo path =>
      cases hp with
      | move => exact .move path
      | follow => exact .follow path
  | theme label =>
      cases hp
      exact .theme
  | _ => cases hp

theorem Heeds.stirred {c : Change} (h : s.Heeds c) {p : Part} (hp : c.Affects p) : s.Stirred p := by
  obtain ⟨hook, hmem, hmay | ⟨reply, rfl⟩⟩ := h
  · exact ⟨hook, hmem, affects_of_may hmay hp⟩
  · cases hp

theorem touches_emit (r : Record) (s : Session) : Touches s.Stirred s (emit r s) := by
  refine (amends_emit announces_emit r s).touches ?_
  rintro c (rfl | hc) p hp
  · cases hp
  · exact hc.stirred hp

theorem touches_perform (prior : List String) (c : Call) (s : Session) :
    Touches (fun p => c.Affects p ∨ s.Stirred p) s (s.perform emit prior c).2 := by
  refine (amends_perform announces_emit prior c s).touches ?_
  rintro d (hmay | hd) p hp
  · left
    cases hmay with
    | clear =>
        cases hp
        exact .clear
    | moveTo path =>
        cases hp with
        | move => exact .move path
        | follow => exact .follow path
    | setVariable key value =>
        cases hp
        exact .assign key value
    | change op =>
        cases hp
        exact .edit op
    | act hact => exact .act (affects_of_may hact hp)
    | _ => cases hp
  · exact .inr (hd.stirred hp)

theorem affects_of_result {r : Result} {c : Change} (h : r.May c) {p : Part} (hp : c.Affects p) : r.Affects p := by
  cases h with
  | clear hclear =>
      cases hp
      exact .clear hclear
  | print _ => cases hp
  | move hcwd =>
      cases hp with
      | move => exact .move hcwd
      | follow => exact .follow hcwd

theorem touches_settle (name : String) (ending : Except Failure (Option Result)) (s : Session) :
    Touches (fun p => (∃ r, ending = .ok (some r) ∧ r.Affects p) ∨ s.Stirred p) s (s.settle name ending).2 := by
  have hconclude : Touches (fun p => (∃ r, ending = .ok (some r) ∧ r.Affects p) ∨ s.Stirred p) s
      (s.conclude emit name ending) := by
    refine (amends_conclude announces_emit name ending s).touches ?_
    rintro c (hc | hc) p hp
    · rcases hc.kinds with rfl | ⟨level, message, rfl⟩ | ⟨text, rfl⟩ | ⟨r, hr, hmay⟩
      · cases hp
      · cases hp
      · cases hp
      · exact .inl ⟨r, hr, affects_of_result hmay hp⟩
    · exact .inr (hc.stirred hp)
  exact hconclude.trans (.of_eq rfl rfl rfl rfl)

theorem touches_opening (line : String) (s : Session) : Touches s.Stirred s (s.opening line).2 := by
  refine opening_induction (P := Touches s.Stirred s) ?_ ?_ .refl line
  · exact fun t _ _ _ _ _ _ h => h.trans (.of_eq rfl rfl rfl rfl)
  · exact fun r t hhooks h => h.trans ((touches_emit r t).mono fun p hp => hp.congr hhooks)

end Session

end Terminal
