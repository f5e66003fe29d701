import Terminal.Proofs.Files.Order

namespace Terminal

namespace Item

def touch (now : Int) : Item → Item
  | file doc => file { doc with stamp := { doc.stamp with updated := now } }
  | dir stamp => dir { stamp with updated := now }

def append (now : Int) (text : String) : Item → Item
  | file doc => file ⟨doc.content ++ text, { doc.stamp with updated := now }⟩
  | dir stamp => dir stamp

end Item

structure InPlace (change : Node → Node) (onItem : Item → Item) : Prop where
  item : ∀ node, (change node).item = onItem node.item
  child? : ∀ node name, (change node).child? name = node.child? name
  ordered : ∀ node : Node, node.Ordered → (change node).Ordered
  dir : ∀ stamp below, ∃ stamp', change (.dir stamp below) = .dir stamp' below

theorem inPlace_touch (now : Int) : InPlace (·.touch now) (·.touch now) where
  item node := by cases node <;> rfl
  child? node name := by cases node <;> rfl
  ordered node h := by cases node <;> exact h
  dir stamp below := ⟨_, rfl⟩

theorem inPlace_append (now : Int) (text : String) :
    InPlace (·.append now text) (·.append now text) where
  item node := by cases node <;> rfl
  child? node name := by cases node <;> rfl
  ordered node h := by cases node <;> exact h
  dir stamp below := ⟨_, rfl⟩

theorem InPlace.item? {change : Node → Node} {onItem : Item → Item} (h : InPlace change onItem)
    (node : Node) (q : List String) :
    (change node).item? q = if q = [] then some (onItem node.item) else node.item? q := by
  cases q with
  | nil =>
      rw [Node.item?_nil, h.item]
      rfl
  | cons name q => rw [Node.item?_cons, h.child?, Node.item?_cons, if_neg (by simp)]

namespace Forest

variable (f : Forest) (name : String) {path : List String}

theorem detach_cons (h : path ≠ []) : detach (name :: path) f =
    match f.find? name with
    | some (.dir stamp below) => (detach path below).map fun below' => f.put name (.dir stamp below')
    | _ => none := by
  cases path with
  | nil => exact absurd rfl h
  | cons next path => rfl

theorem modify_cons (change : Node → Node) (h : path ≠ []) : modify change (name :: path) f =
    match f.find? name with
    | some (.dir stamp below) => f.put name (.dir stamp (modify change path below))
    | _ => f := by
  cases path with
  | nil => exact absurd rfl h
  | cons next path => rfl

theorem detach_concat_of_not_dir (stamp : Stamp) (p : List String)
    (h : ∀ s, (Node.dir stamp f).item? p ≠ some (.dir s)) : detach (p ++ [name]) f = none := by
  induction p generalizing f stamp with
  | nil => exact absurd rfl (h stamp)
  | cons n p ih =>
      rw [List.cons_append, detach_cons f n (by simp)]
      cases hf : f.find? n with
      | none => rfl
      | some node =>
          cases node with
          | file doc => rfl
          | dir s b =>
              have hb (s' : Stamp) : (Node.dir s b).item? p ≠ some (.dir s') := by
                have hs := h s'
                rw [Node.item?_dir_cons, hf] at hs
                exact hs
              simp only [ih b s hb, Option.map_none]

theorem detach_concat_of_dir (stamp : Stamp) (p : List String)
    (h : ∃ s, (Node.dir stamp f).item? p = some (.dir s)) :
    ∃ f', detach (p ++ [name]) f = some f' ∧ (f.Ordered → f'.Ordered) ∧
      ∀ q, (Node.dir stamp f').item? q =
        if p ++ [name] <+: q then none else (Node.dir stamp f).item? q := by
  induction p generalizing f stamp with
  | nil =>
      refine ⟨f.remove name, rfl, fun hf => hf.remove name, fun q => ?_⟩
      cases q with
      | nil => rfl
      | cons m q =>
          rw [item?_remove]
          by_cases hm : name = m <;> simp [hm]
  | cons n p ih =>
      obtain ⟨s', hs'⟩ := h
      rw [Node.item?_dir_cons] at hs'
      cases hf : f.find? n with
      | none => simp [hf] at hs'
      | some node =>
          rw [hf, Option.bind_some] at hs'
          cases node with
          | file doc =>
              cases p with
              | nil => exact absurd hs' (by simp [Node.item])
              | cons m p => exact absurd hs' (by simp [Node.item?_cons])
          | dir s b =>
              obtain ⟨b', hd, hord, hitem⟩ := ih b s ⟨s', hs'⟩
              refine ⟨f.put n (.dir s b'), ?_, fun ho => ho.put n (hord (ho.find? hf)), fun q => ?_⟩
              · rw [List.cons_append, detach_cons f n (by simp), hf]
                simp only [hd, Option.map_some]
              · cases q with
                | nil => rfl
                | cons m q =>
                    rw [item?_put, Node.item?_dir_cons]
                    by_cases hm : n = m
                    · subst hm
                      rw [if_pos rfl, hitem, hf]
                      simp [List.cons_prefix_cons]
                    · simp [hm, List.cons_prefix_cons]

variable {change : Node → Node} {onItem : Item → Item}

theorem item?_modify (hc : InPlace change onItem) (stamp : Stamp) {path : List String} {node : Node}
    (hpath : path ≠ []) (h : (Node.dir stamp f).at? path = some node) (q : List String) :
    (Node.dir stamp (f.modify change path)).item? q =
      if q = path then some (onItem node.item) else (Node.dir stamp f).item? q := by
  induction path generalizing f stamp q with
  | nil => exact absurd rfl hpath
  | cons n path ih =>
      obtain ⟨child, hf, hchild⟩ := Option.bind_eq_some_iff.1 h
      rw [Node.child?_dir] at hf
      cases q with
      | nil =>
          rw [if_neg (by simp)]
          rfl
      | cons m q =>
          have hother (hm : n ≠ m) : m :: q ≠ n :: path := fun he => hm (List.cons.inj he).1.symm
          by_cases hnil : path = []
          · subst hnil
            cases hchild
            rw [modify, hf, item?_put, hc.item?]
            by_cases hm : n = m
            · subst hm
              rw [if_pos rfl, Node.item?_dir_cons, hf]
              by_cases hq : q = [] <;> simp [hq]
            · rw [if_neg hm, if_neg (hother hm)]
          · cases child with
            | file doc =>
                have hnone := Node.at?_file_of_ne_nil doc hnil
                exact absurd (hnone.symm.trans hchild) (by simp)
            | dir s b =>
                rw [modify_cons f n change hnil, hf, item?_put]
                by_cases hm : n = m
                · subst hm
                  rw [if_pos rfl, ih b s hnil hchild, Node.item?_dir_cons, hf]
                  simp
                · rw [if_neg hm, if_neg (hother hm)]

theorem Ordered.modify (hc : InPlace change onItem) {f : Forest} (hf : f.Ordered) (path : List String) :
    (f.modify change path).Ordered := by
  induction path generalizing f with
  | nil => exact hf
  | cons n path ih =>
      by_cases hnil : path = []
      · subst hnil
        rw [Forest.modify]
        cases hfind : f.find? n with
        | none => exact hf
        | some node => exact hf.put n (hc.ordered node (hf.find? hfind))
      · rw [modify_cons f n change hnil]
        split
        · rename_i s b hfind
          exact hf.put n (ih (hf.find? hfind))
        · exact hf

end Forest

end Terminal
