import Mathlib.Algebra.GroupWithZero.Nat
import Mathlib.Algebra.Order.BigOperators.Group.List
import Terminal.Proofs.Files.Order

namespace Terminal

def Forest.paths (base : List String) : Forest → List (List String)
  | nil => []
  | file n _ rest => paths base rest ++ [base ++ [n]]
  | dir n _ below rest => paths base rest ++ (base ++ [n]) :: paths (base ++ [n]) below

namespace Forest

theorem length_paths (base : List String) (f : Forest) : (f.paths base).length = f.size := by
  induction f generalizing base with
  | nil => rfl
  | file n doc rest ih =>
      rw [paths, size, List.length_append, ih]
      rfl
  | dir n stamp below rest ihb ih =>
      rw [paths, size, List.length_append, List.length_cons, ih, ihb]
      omega

theorem mem_paths (f : Forest) (base : List String) {name : String} {node : Node} {r : List String}
    (hf : f.find? name = some node) (hr : (node.item? r).isSome) : base ++ name :: r ∈ f.paths base := by
  induction f generalizing base name node r with
  | nil => cases hf
  | file n doc rest ih =>
      rw [find?] at hf
      split at hf
      · rename_i hn
        cases hf
        subst hn
        cases r with
        | nil => exact List.mem_append_right _ (List.mem_singleton.2 rfl)
        | cons m r =>
            rw [Node.item?_file_of_ne_nil doc (by simp)] at hr
            exact absurd hr (by simp)
      · exact List.mem_append_left _ (ih base hf hr)
  | dir n stamp below rest ihb ih =>
      rw [find?] at hf
      split at hf
      · rename_i hn
        cases hf
        subst hn
        cases r with
        | nil => exact List.mem_append_right _ (List.mem_cons_self ..)
        | cons m r =>
            obtain ⟨child, hchild, hr⟩ := Node.isSome_item?_dir_cons.1 hr
            have hmem := ihb (base ++ [n]) hchild hr
            rw [List.append_assoc] at hmem
            exact List.mem_append_right _ (List.mem_cons_of_mem _ hmem)
      · exact List.mem_append_left _ (ih base hf hr)

theorem Ordered.not_mem_names {name : String} {node : Node} {rest : Forest}
    (h : (cons name node rest).Ordered) : name ∉ rest.names :=
  fun hmem => String.lt_irrefl name (((ordered_cons ..).1 h).1 name hmem)

theorem Ordered.find?_rest (node : Node) {name m : String} {found : Node} {rest : Forest}
    (h : (cons name node rest).Ordered) (hf : rest.find? m = some found) :
    (cons name node rest).find? m = some found := by
  have hm : name ≠ m := by
    rintro rfl
    rw [find?_eq_none h.not_mem_names] at hf
    cases hf
  rw [find?_cons, if_neg hm, hf]

theorem Ordered.find?_of_mem_paths {f : Forest} (h : f.Ordered) {base q : List String}
    (hq : q ∈ f.paths base) :
    ∃ name node r, q = base ++ name :: r ∧ f.find? name = some node ∧ (node.item? r).isSome := by
  induction f generalizing base q with
  | nil => exact absurd hq List.not_mem_nil
  | file n doc rest ih =>
      rcases List.mem_append.1 hq with hq | hq
      · obtain ⟨name, node, r, rfl, hf, hr⟩ := ih h.2 hq
        exact ⟨name, node, r, rfl, find?_rest (.file doc) h hf, hr⟩
      · exact ⟨n, .file doc, [], List.mem_singleton.1 hq, if_pos rfl, rfl⟩
  | dir n stamp below rest ihb ih =>
      rcases List.mem_append.1 hq with hq | hq
      · obtain ⟨name, node, r, rfl, hf, hr⟩ := ih h.2.2 hq
        exact ⟨name, node, r, rfl, find?_rest (.dir stamp below) h hf, hr⟩
      · rcases List.mem_cons.1 hq with rfl | hq
        · exact ⟨n, .dir stamp below, [], rfl, if_pos rfl, rfl⟩
        · obtain ⟨m, child, r, rfl, hf, hr⟩ := ihb h.2.1 hq
          exact ⟨n, .dir stamp below, m :: r, by simp, if_pos rfl,
            Node.isSome_item?_dir_cons.2 ⟨child, hf, hr⟩⟩

theorem Ordered.mem_paths_iff {f : Forest} (h : f.Ordered) (stamp : Stamp) (base q : List String) :
    q ∈ f.paths base ↔ ∃ r, r ≠ [] ∧ q = base ++ r ∧ ((Node.dir stamp f).item? r).isSome := by
  constructor
  · intro hq
    obtain ⟨name, node, r, rfl, hf, hr⟩ := h.find?_of_mem_paths hq
    exact ⟨name :: r, by simp, rfl, Node.isSome_item?_dir_cons.2 ⟨node, hf, hr⟩⟩
  · rintro ⟨r, hne, rfl, hr⟩
    cases r with
    | nil => exact absurd rfl hne
    | cons name r =>
        obtain ⟨node, hf, hr⟩ := Node.isSome_item?_dir_cons.1 hr
        exact f.mem_paths base hf hr

theorem Ordered.prefix_of_mem_paths {f : Forest} (h : f.Ordered) {base q : List String}
    (hq : q ∈ f.paths base) : base <+: q := by
  obtain ⟨name, node, r, rfl, -⟩ := h.find?_of_mem_paths hq
  exact List.prefix_append _ _

theorem Ordered.not_mem_paths_self {f : Forest} (h : f.Ordered) (base : List String) :
    base ∉ f.paths base := by
  intro hself
  obtain ⟨name, node, r, he, -⟩ := h.find?_of_mem_paths hself
  simp at he

theorem Ordered.not_prefix_of_mem_paths (node : Node) {name : String} {rest : Forest}
    (h : (cons name node rest).Ordered) {base q : List String} (hq : q ∈ rest.paths base) :
    ¬ base ++ [name] <+: q := by
  rintro ⟨s, hs⟩
  obtain ⟨m, child, r, rfl, hf, -⟩ := (((ordered_cons ..).1 h).2.2).find?_of_mem_paths hq
  rw [List.append_assoc, List.append_cancel_left_eq] at hs
  have hm : name = m := (List.cons.inj hs).1
  rw [← hm, find?_eq_none h.not_mem_names] at hf
  cases hf

theorem Ordered.nodup_paths {f : Forest} (h : f.Ordered) (base : List String) : (f.paths base).Nodup := by
  induction f generalizing base with
  | nil => exact .nil
  | file n doc rest ih =>
      refine List.nodup_append.2 ⟨ih h.2 base, List.nodup_cons.2 ⟨List.not_mem_nil, .nil⟩, ?_⟩
      rintro q hq q' hq' rfl
      have hnot := not_prefix_of_mem_paths (.file doc) h hq
      exact hnot (List.mem_singleton.1 hq' ▸ List.prefix_refl _)
  | dir n stamp below rest ihb ih =>
      have hself := h.2.1.not_mem_paths_self (base ++ [n])
      refine List.nodup_append.2 ⟨ih h.2.2 base, List.nodup_cons.2 ⟨hself, ihb h.2.1 _⟩, ?_⟩
      rintro q hq q' hq' rfl
      have hnot := not_prefix_of_mem_paths (.dir stamp below) h hq
      rcases List.mem_cons.1 hq' with rfl | hq'
      · exact hnot (List.prefix_refl _)
      · exact hnot (h.2.1.prefix_of_mem_paths hq')

end Forest

def Tree.pathsFrom (t : Tree) (p : List String) : List (List String) :=
  p :: match t.root.at? p with
    | some (.dir _ below) => below.paths p
    | _ => []

def Node.extent : Node → Nat
  | file _ => 0
  | dir _ below => below.size

namespace Forest

def extentOf (f : Forest) (name : String) : Nat := (f.find? name).elim 0 Node.extent

theorem size_cons (name : String) (node : Node) (rest : Forest) :
    (cons name node rest).size = node.extent + rest.size + 1 := by
  cases node with
  | file doc => rw [cons, size, Node.extent, Nat.zero_add]
  | dir stamp below => rfl

theorem extentOf_cons (name m : String) (node : Node) (rest : Forest) :
    (cons name node rest).extentOf m = if name = m then node.extent else rest.extentOf m := by
  rw [extentOf, find?_cons]
  split <;> rfl

theorem length_names_le (f : Forest) : f.names.length ≤ f.size := by
  induction f using entries_induction with
  | nil => exact Nat.le_refl 0
  | cons name node rest ih =>
      rw [names_cons, size_cons, List.length_cons]
      omega

theorem extentOf_le (f : Forest) (name : String) : f.extentOf name ≤ f.size := by
  induction f using entries_induction with
  | nil => exact Nat.le_refl 0
  | cons n node rest ih =>
      rw [extentOf_cons, size_cons]
      split <;> omega

theorem sum_map_ite_le {l : List String} (hl : l.Nodup) (name : String) (a : Nat) (b : String → Nat) :
    (l.map fun m => if name = m then a else b m).sum ≤ a + (l.map b).sum := by
  induction l with
  | nil => exact Nat.zero_le _
  | cons m l ih =>
      obtain ⟨hm, hl⟩ := List.nodup_cons.1 hl
      rw [List.map_cons, List.map_cons, List.sum_cons, List.sum_cons]
      by_cases h : name = m
      · subst h
        have hrest : (l.map fun m => if name = m then a else b m) = l.map b := by
          refine List.map_congr_left fun m' hm' => if_neg ?_
          rintro rfl
          exact hm hm'
        rw [if_pos rfl, hrest]
        omega
      · have hrest := ih hl
        rw [if_neg h]
        omega

theorem sum_extentOf_le (f : Forest) {l : List String} (hl : l.Nodup) :
    (l.map f.extentOf).sum ≤ f.size := by
  induction f using entries_induction with
  | nil =>
      have hzero : l.map nil.extentOf = l.map fun _ => 0 := rfl
      rw [hzero, List.map_const', List.sum_replicate_nat, Nat.mul_zero]
      exact Nat.zero_le _
  | cons name node rest ih =>
      have hext : (cons name node rest).extentOf =
          fun m => if name = m then node.extent else rest.extentOf m :=
        funext fun m => extentOf_cons name m node rest
      have hone := sum_map_ite_le hl name node.extent rest.extentOf
      rw [hext, size_cons]
      omega

end Forest

theorem Node.extent_at?_le {node found : Node} {p : List String} (h : node.at? p = some found) :
    found.extent ≤ node.extent := by
  induction p generalizing node with
  | nil =>
      cases h
      exact Nat.le_refl _
  | cons name p ih =>
      rw [at?_cons] at h
      cases node with
      | file doc => exact absurd h (by simp)
      | dir stamp below =>
          rw [child?_dir] at h
          cases hf : below.find? name with
          | none => simp [hf] at h
          | some child =>
              rw [hf, Option.bind_some] at h
              have hchild : below.extentOf name = child.extent := by
                rw [Forest.extentOf, hf]
                rfl
              exact Nat.le_trans (ih h) (hchild ▸ below.extentOf_le name)

namespace Tree

variable (t : Tree)

def extentAt (p : List String) : Nat := (t.root.at? p).elim 0 Node.extent

theorem length_pathsFrom (p : List String) : (t.pathsFrom p).length = t.extentAt p + 1 := by
  rw [pathsFrom, extentAt, List.length_cons]
  cases t.root.at? p with
  | none => rfl
  | some node =>
      cases node with
      | file doc => rfl
      | dir stamp below => exact congrArg (· + 1) (below.length_paths p)

theorem extentAt_le (p : List String) : t.extentAt p ≤ t.entries.size := by
  rw [extentAt]
  cases h : t.root.at? p with
  | none => exact Nat.zero_le _
  | some node => exact Node.extent_at?_le h

theorem exists_extentOf (p : List String) :
    ∃ f : Forest, f.size ≤ t.entries.size ∧ ∀ name, t.extentAt (p ++ [name]) = f.extentOf name := by
  have hchild (name : String) : t.extentAt (p ++ [name]) =
      ((t.root.at? p).bind fun node => node.child? name).elim 0 Node.extent := by
    rw [extentAt, Node.at?_append]
    cases t.root.at? p with
    | none => rfl
    | some node =>
        rw [Option.bind_some, Option.bind_some, Node.at?_cons]
        cases node.child? name <;> rfl
  cases h : t.root.at? p with
  | none => exact ⟨.nil, Nat.zero_le _, fun name => by rw [hchild, h]; rfl⟩
  | some node =>
      cases node with
      | file doc => exact ⟨.nil, Nat.zero_le _, fun name => by rw [hchild, h]; rfl⟩
      | dir stamp below => exact ⟨below, Node.extent_at?_le h, fun name => by rw [hchild, h]; rfl⟩

theorem sum_extentAt_le (p : List String) {l : List String} (hl : l.Nodup) :
    (l.map fun name => t.extentAt (p ++ [name])).sum ≤ t.entries.size := by
  obtain ⟨f, hsize, hext⟩ := t.exists_extentOf p
  rw [List.map_congr_left fun name _ => hext name]
  exact Nat.le_trans (f.sum_extentOf_le hl) hsize

theorem length_list_le (path : String) : (t.list path).length ≤ t.entries.size := by
  rw [list]
  cases h : t.get? path with
  | none => exact Nat.zero_le _
  | some node =>
      cases node with
      | file doc => exact Nat.zero_le _
      | dir stamp below =>
          rw [get?_eq_at?] at h
          exact Nat.le_trans below.length_names_le (Node.extent_at?_le h)

end Tree

end Terminal
