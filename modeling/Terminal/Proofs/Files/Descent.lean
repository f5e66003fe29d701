import Terminal.Proofs.Files.Order

namespace Terminal

def Node.Blocked (node : Node) (path : List String) : Prop :=
  ∃ q, q <+: path ∧ ∃ doc, node.item? q = some (.file doc)

def Tree.Blocked (t : Tree) (path : List String) : Prop := t.root.Blocked path

def Stamp.along (now : Int) (path : List String) : Stamp := .at now (path.getLastD "/")

theorem Stamp.along_singleton (now : Int) (name : String) : along now [name] = .at now name := rfl

theorem Stamp.along_append (now : Int) (front : List String) {path : List String} (h : path ≠ []) :
    along now (front ++ path) = along now path := by
  rw [along, along, List.getLastD_eq_getLast?, List.getLastD_eq_getLast?, List.getLast?_append,
    List.getLast?_eq_some_getLast h, Option.some_or]

namespace Forest

def enter? (now : Int) (f : Forest) (name : String) : Option (Stamp × Forest) :=
  match f.find? name with
  | some (.file _) => none
  | some (.dir stamp below) => some (stamp, below)
  | none => some (.at now name, .nil)

section

variable (now : Int) (stamp : Stamp) (f : Forest) (name : String) (path : List String)

theorem enter?_eq_none_iff :
    f.enter? now name = none ↔ ∃ doc, (Node.dir stamp f).item? [name] = some (.file doc) := by
  rw [Node.item?_dir_cons, enter?]
  cases f.find? name with
  | none => simp
  | some node => cases node <;> simp [Node.item]

variable {f name now}

theorem item?_enter {s : Stamp} {b : Forest} (h : f.enter? now name = some (s, b)) :
    (Node.dir s b).item? path =
      if path = [] then some (((Node.dir stamp f).item? [name]).getD (.dir (.at now name)))
      else (Node.dir stamp f).item? (name :: path) := by
  rw [Node.item?_dir_cons, Node.item?_dir_cons]
  rw [enter?] at h
  cases hf : f.find? name with
  | none =>
      rw [hf] at h
      cases h
      rw [Node.item?_empty]
      split <;> rfl
  | some node =>
      rw [hf] at h
      cases node with
      | file doc => exact absurd h (by simp)
      | dir stamp' below =>
          cases h
          by_cases hp : path = []
          · subst hp
            rfl
          · rw [if_neg hp]
            rfl

theorem Ordered.enter {s : Stamp} {b : Forest} (hf : f.Ordered) (h : f.enter? now name = some (s, b)) :
    b.Ordered := by
  rw [enter?] at h
  cases hfind : f.find? name with
  | none =>
      rw [hfind] at h
      cases h
      trivial
  | some node =>
      rw [hfind] at h
      cases node with
      | file doc => exact absurd h (by simp)
      | dir stamp' below =>
          cases h
          exact hf.find? hfind

end

section

variable (now : Int) (act : Forest → Forest × Except FileError Unit) {f : Forest} {name : String}
  (path : List String)

theorem descend_of_enter_none (h : f.enter? now name = none) :
    f.descend now act (name :: path) = (f, .error (.segmentIsFile name)) := by
  rw [enter?] at h
  rw [descend]
  cases hf : f.find? name with
  | none => simp [hf] at h
  | some node =>
      cases node with
      | dir stamp below => simp [hf] at h
      | file doc => rfl

theorem descend_of_enter {s : Stamp} {b : Forest} (h : f.enter? now name = some (s, b)) :
    f.descend now act (name :: path) =
      (f.put name (.dir s (b.descend now act path).1), (b.descend now act path).2) := by
  rw [enter?] at h
  rw [descend]
  cases hf : f.find? name with
  | none =>
      rw [hf] at h
      cases h
      rfl
  | some node =>
      rw [hf] at h
      cases node with
      | file doc => exact absurd h (by simp)
      | dir stamp below =>
          cases h
          rfl

end

end Forest

namespace Node

theorem not_blocked_nil (stamp : Stamp) (f : Forest) : ¬ (dir stamp f).Blocked [] := by
  rintro ⟨q, hq, doc, hdoc⟩
  have hnil : q = [] := List.prefix_nil.1 hq
  subst hnil
  exact absurd hdoc (by simp [item])

theorem not_blocked_empty (stamp : Stamp) (path : List String) : ¬ (dir stamp .nil).Blocked path := by
  rintro ⟨q, -, doc, hdoc⟩
  rw [item?_empty] at hdoc
  split at hdoc <;> simp at hdoc

variable {now : Int} {f : Forest} {name : String} {s : Stamp} {b : Forest}

theorem blocked_cons_of_enter (stamp : Stamp) (path : List String)
    (h : f.enter? now name = some (s, b)) :
    (dir stamp f).Blocked (name :: path) ↔ (dir s b).Blocked path := by
  have hitem (q : List String) := Forest.item?_enter stamp q h
  constructor
  · rintro ⟨q, hq, doc, hdoc⟩
    cases q with
    | nil => exact absurd hdoc (by simp [item])
    | cons n q =>
        obtain ⟨rfl, hrest⟩ := List.cons_prefix_cons.1 hq
        by_cases hnil : q = []
        · subst hnil
          have hnone := (Forest.enter?_eq_none_iff now stamp f n).2 ⟨doc, hdoc⟩
          rw [h] at hnone
          exact absurd hnone (by simp)
        · refine ⟨q, hrest, doc, ?_⟩
          rw [hitem q, if_neg hnil, hdoc]
  · rintro ⟨q, hq, doc, hdoc⟩
    have hnil : q ≠ [] := by
      rintro rfl
      exact absurd hdoc (by simp [item])
    refine ⟨name :: q, List.cons_prefix_cons.2 ⟨rfl, hq⟩, doc, ?_⟩
    rw [← hdoc, hitem q, if_neg hnil]

theorem blocked_cons_of_enter_none (stamp : Stamp) (path : List String) (h : f.enter? now name = none) :
    (dir stamp f).Blocked (name :: path) := by
  obtain ⟨doc, hdoc⟩ := (Forest.enter?_eq_none_iff now stamp f name).1 h
  exact ⟨[name], by simp, doc, hdoc⟩

end Node

namespace Forest

theorem descend_of_blocked (now : Int) (act : Forest → Forest × Except FileError Unit) (stamp : Stamp)
    {path : List String} {f : Forest} (hf : f.Ordered) (h : (Node.dir stamp f).Blocked path) :
    ∃ name, f.descend now act path = (f, .error (.segmentIsFile name)) := by
  induction path generalizing f stamp with
  | nil => exact absurd h (Node.not_blocked_nil stamp f)
  | cons n path ih =>
      cases he : f.enter? now n with
      | none => exact ⟨n, descend_of_enter_none now act path he⟩
      | some sb =>
          obtain ⟨s, b⟩ := sb
          have hb : (Node.dir s b).Blocked path := (Node.blocked_cons_of_enter stamp path he).1 h
          obtain ⟨name, hd⟩ := ih s (hf.enter he) hb
          refine ⟨name, ?_⟩
          rw [descend_of_enter now act path he, hd]
          -- a directory that was just made is empty and blocks nothing
          have hfind : f.find? n = some (.dir s b) := by
            rw [enter?] at he
            cases hfind : f.find? n with
            | none =>
                rw [hfind] at he
                cases he
                exact absurd hb (Node.not_blocked_empty _ path)
            | some node =>
                rw [hfind] at he
                cases node with
                | file doc => exact absurd he (by simp)
                | dir s' b' =>
                    cases he
                    rfl
          rw [hf.put_self hfind]

theorem descend_of_not_blocked (now : Int) (act : Forest → Forest × Except FileError Unit) (stamp : Stamp)
    {path : List String} {f : Forest} (h : ¬ (Node.dir stamp f).Blocked path) :
    ∃ g, (f.descend now act path).2 = (act g).2 ∧
      (∀ r, r ≠ [] → (Node.dir stamp g).item? r = (Node.dir stamp f).item? (path ++ r)) ∧
      (∀ r, r ≠ [] → (Node.dir stamp (f.descend now act path).1).item? (path ++ r) =
        (Node.dir stamp (act g).1).item? r) ∧
      ∀ q, (∀ r, r ≠ [] → q ≠ path ++ r) →
        (Node.dir stamp (f.descend now act path).1).item? q =
          if q <+: path then some (((Node.dir stamp f).item? q).getD (.dir (.along now q)))
          else (Node.dir stamp f).item? q := by
  induction path generalizing f stamp with
  | nil =>
      refine ⟨f, rfl, fun r _ => rfl, fun r _ => rfl, fun q hq => ?_⟩
      have hnil : q = [] := Classical.byContradiction fun hne => hq q hne rfl
      subst hnil
      rfl
  | cons n path ih =>
      cases he : f.enter? now n with
      | none => exact absurd (Node.blocked_cons_of_enter_none stamp path he) h
      | some sb =>
          obtain ⟨s, b⟩ := sb
          have hb : ¬ (Node.dir s b).Blocked path := fun hb =>
            h ((Node.blocked_cons_of_enter stamp path he).2 hb)
          obtain ⟨g, hout, hg, hbelow, helse⟩ := ih s hb
          have hitem (q : List String) := item?_enter stamp q he
          have hstamp (e : Forest) {r : List String} (hr : r ≠ []) :
              (Node.dir stamp e).item? r = (Node.dir s e).item? r := by
            cases r with
            | nil => exact absurd rfl hr
            | cons m r => rw [Node.item?_dir_cons, Node.item?_dir_cons]
          rw [descend_of_enter now act path he]
          refine ⟨g, hout, fun r hr => ?_, fun r hr => ?_, fun q hq => ?_⟩
          · rw [hstamp g hr, hg r hr, hitem, if_neg (by simp [hr])]
            rfl
          · rw [List.cons_append, item?_put, if_pos rfl, hbelow r hr, hstamp _ hr]
          · cases q with
            | nil => rfl
            | cons m q =>
                rw [item?_put]
                by_cases hm : n = m
                · subst hm
                  have hq' (r : List String) (hr : r ≠ []) : q ≠ path ++ r := fun heq =>
                    hq r hr (by rw [heq]; rfl)
                  rw [if_pos rfl, helse q hq', hitem]
                  by_cases hnil : q = []
                  · subst hnil
                    simp [Stamp.along_singleton]
                  · have hlast : Stamp.along now (n :: q) = .along now q := Stamp.along_append now [n] hnil
                    simp [hnil, List.cons_prefix_cons, hlast]
                · rw [if_neg hm, if_neg]
                  intro hp
                  exact hm (List.cons_prefix_cons.1 hp).1.symm

def keep (f : Forest) : Forest × Except FileError Unit := (f, .ok ())

theorem descend_append (now : Int) (act : Forest → Forest × Except FileError Unit) (path more : List String)
    (f : Forest) : f.descend now act (path ++ more) =
      match f.descend now keep path with
      | (f', .ok ()) => f'.descend now act (path ++ more)
      | (f', .error e) => (f', .error e) := by
  induction path generalizing f with
  | nil => rfl
  | cons n path ih =>
      cases he : f.enter? now n with
      | none => rw [List.cons_append, descend_of_enter_none now keep path he, descend_of_enter_none now act _ he]
      | some sb =>
          obtain ⟨s, b⟩ := sb
          rw [List.cons_append, descend_of_enter now keep path he, descend_of_enter now act _ he, ih b]
          rcases b.descend now keep path with ⟨b', _ | ⟨⟩⟩
          · rfl
          · have henter : (f.put n (.dir s b')).enter? now n = some (s, b') := by
              rw [enter?, find?_put_self]
            dsimp only
            rw [descend_of_enter now act _ henter, put_put]

theorem Ordered.descend (now : Int) {act : Forest → Forest × Except FileError Unit}
    (hact : ∀ g : Forest, g.Ordered → (act g).1.Ordered) {f : Forest} (hf : f.Ordered) (path : List String) :
    (f.descend now act path).1.Ordered := by
  induction path generalizing f with
  | nil => exact hact f hf
  | cons n path ih =>
      cases he : f.enter? now n with
      | none =>
          rw [descend_of_enter_none now act path he]
          exact hf
      | some sb =>
          rw [descend_of_enter now act path he]
          exact hf.put n (ih (hf.enter he))

end Forest

end Terminal
