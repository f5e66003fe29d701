import Terminal.Files.Listing
import Terminal.Proofs.Files.Order

namespace Terminal

namespace Node

def kind? (node : Node) (q : List String) : Option Bool := (node.at? q).map isDir

def below : Node → Forest
  | file _ => .nil
  | dir _ below => below

def IsLast (node : Node) (name : String) : Prop := ∀ m ∈ node.below.names, m ≤ name

instance (node : Node) (name : String) : Decidable (node.IsLast name) :=
  inferInstanceAs (Decidable (∀ m ∈ node.below.names, m ≤ name))

def mark (node : Node) : String := if node.isDir then "/" else ""

def line (indent : String) (node : Node) : List String → String
  | [] => ""
  | [name] =>
    indent ++ (if node.IsLast name then "└── " else "├── ") ++ name ++ (node.child? name).elim "" mark
  | name :: next :: q =>
    (node.child? name).elim "" fun child =>
      line (indent ++ if node.IsLast name then "    " else "│   ") child (next :: q)

end Node

def Forest.sketch (indent : String) : Nat → Forest → List String
  | 0, _ => []
  | _ + 1, nil => []
  | depth + 1, file n _ rest => (indent ++ branch rest ++ n) :: sketch indent (depth + 1) rest
  | depth + 1, dir n _ below rest =>
    (indent ++ branch rest ++ n ++ "/") ::
      (sketch (indent ++ rail rest) depth below ++ sketch indent (depth + 1) rest)

/-- The paths of all entries that are at most `depth` levels down, each before what is below it. -/
def Forest.tour : Nat → Forest → List (List String)
  | 0, _ => []
  | _ + 1, nil => []
  | depth + 1, file n _ rest => [n] :: tour (depth + 1) rest
  | depth + 1, dir n _ below rest => [n] :: ((tour depth below).map (n :: ·) ++ tour (depth + 1) rest)

namespace Node

variable (node : Node)

@[simp] theorem kind?_nil : node.kind? [] = some node.isDir := rfl

theorem kind?_cons (name : String) (q : List String) :
    node.kind? (name :: q) = (node.child? name).bind fun child => child.kind? q := by
  rw [kind?, at?_cons]
  cases node.child? name <;> rfl

theorem child?_eq (name : String) : node.child? name = node.below.find? name := by
  cases node <;> rfl

theorem kind?_below (stamp : Stamp) {q : List String} (h : q ≠ []) :
    (dir stamp node.below).kind? q = node.kind? q := by
  cases q with
  | nil => exact absurd rfl h
  | cons name q => rw [kind?_cons, kind?_cons, child?_dir, child?_eq]

theorem kind?_dir_cons (stamp : Stamp) (name m : String) (rest : Forest) (q : List String) :
    (dir stamp (.cons name node rest)).kind? (m :: q) =
      if name = m then node.kind? q else (dir stamp rest).kind? (m :: q) := by
  rw [kind?_cons, kind?_cons, child?_dir, child?_dir, Forest.find?_cons]
  split <;> rfl

theorem line_below (stamp : Stamp) (indent : String) (q : List String) :
    (dir stamp node.below).line indent q = node.line indent q := by
  have hlast (name : String) : (dir stamp node.below).IsLast name ↔ node.IsLast name := Iff.rfl
  have hchild (name : String) : (dir stamp node.below).child? name = node.child? name := (node.child?_eq name).symm
  rcases q with _ | ⟨name, _ | ⟨next, q⟩⟩
  · rfl
  · simp only [line, hlast, hchild]
  · simp only [line, hlast, hchild]

theorem mem_names_below {name : String} : name ∈ node.below.names ↔ (node.kind? [name]).isSome := by
  rw [← Forest.isSome_find?, kind?_cons, child?_eq]
  cases node.below.find? name <;> rfl

theorem Ordered.below {node : Node} (h : node.Ordered) : node.below.Ordered := by
  cases node with
  | file doc => trivial
  | dir stamp below => exact h

def SameTo (depth : Nat) (node node' : Node) : Prop := ∀ q, q.length ≤ depth → node.kind? q = node'.kind? q

namespace SameTo

variable {node node' : Node} {depth : Nat}

theorem symm (h : SameTo depth node node') : SameTo depth node' node := fun q hq => (h q hq).symm

theorem child (h : SameTo (depth + 1) node node') {name : String} {child : Node}
    (hchild : node.child? name = some child) :
    ∃ child', node'.child? name = some child' ∧ SameTo depth child child' := by
  have hbelow (q : List String) (hq : q.length ≤ depth) :
      (node'.child? name).bind (fun child => child.kind? q) = child.kind? q := by
    have hname := h (name :: q) (Nat.succ_le_succ hq)
    rw [kind?_cons, kind?_cons, hchild] at hname
    exact hname.symm
  cases hchild' : node'.child? name with
  | none =>
      have hnil := hbelow [] (Nat.zero_le _)
      rw [hchild'] at hnil
      cases hnil
  | some child' =>
      refine ⟨child', rfl, fun q hq => ?_⟩
      have hq := hbelow q hq
      rw [hchild'] at hq
      exact hq.symm

theorem isLast_iff (h : SameTo (depth + 1) node node') (name : String) :
    node.IsLast name ↔ node'.IsLast name := by
  have hnames (m : String) : m ∈ node.below.names ↔ m ∈ node'.below.names := by
    rw [mem_names_below, mem_names_below, h [m] (Nat.succ_le_succ (Nat.zero_le _))]
  simp only [IsLast, hnames]

theorem line_eq (h : SameTo depth node node') (indent : String) {q : List String} (hq : q.length ≤ depth)
    (hthere : (node.kind? q).isSome) : node.line indent q = node'.line indent q := by
  induction q generalizing node node' depth indent with
  | nil => rfl
  | cons name q ih =>
      obtain ⟨depth, rfl⟩ : ∃ d, depth = d + 1 := Nat.exists_eq_add_one.2 (Nat.lt_of_lt_of_le (Nat.succ_pos _) hq)
      rw [kind?_cons] at hthere
      cases hchild : node.child? name with
      | none => simp [hchild] at hthere
      | some child =>
          obtain ⟨child', hchild', hsame⟩ := h.child hchild
          rw [hchild] at hthere
          cases q with
          | nil =>
              have hkind : child.isDir = child'.isDir := Option.some.inj (hsame [] (Nat.zero_le _))
              simp only [line, h.isLast_iff name, hchild, hchild', Option.elim_some, mark, hkind]
          | cons next q =>
              simp only [line, h.isLast_iff name, hchild, hchild', Option.elim_some]
              exact ih hsame _ (Nat.le_of_succ_le_succ hq) hthere

end SameTo

end Node

namespace Forest

@[elab_as_elim]
theorem below_induction {motive : Forest → Prop} (f : Forest) (nil : motive nil)
    (cons : ∀ name node rest, motive node.below → motive rest → motive (cons name node rest)) : motive f := by
  induction f with
  | nil => exact nil
  | file n doc rest ih => exact cons n (.file doc) rest nil ih
  | dir n stamp below rest ihb ih => exact cons n (.dir stamp below) rest ihb ih

variable (name : String) (node : Node) (rest : Forest) (indent : String) (depth : Nat)

@[simp] theorem sketch_nil : sketch indent depth nil = [] := by
  cases depth <;> rfl

@[simp] theorem tour_nil : tour depth nil = [] := by
  cases depth <;> rfl

theorem sketch_cons : (cons name node rest).sketch indent (depth + 1) =
    (indent ++ rest.branch ++ name ++ node.mark) ::
      (node.below.sketch (indent ++ rest.rail) depth ++ rest.sketch indent (depth + 1)) := by
  cases node with
  | file doc =>
      rw [Node.below, sketch_nil, Node.mark, Node.isDir, if_neg Bool.false_ne_true, String.append_empty]
      rfl
  | dir stamp below => rfl

theorem tour_cons : (cons name node rest).tour (depth + 1) =
    [name] :: ((node.below.tour depth).map (name :: ·) ++ rest.tour (depth + 1)) := by
  cases node with
  | file doc =>
      rw [Node.below, tour_nil]
      rfl
  | dir stamp below => rfl

variable {depth} {f : Forest}

theorem ne_nil_of_mem_tour {q : List String} (h : q ∈ f.tour depth) : q ≠ [] := by
  cases depth with
  | zero =>
      rw [tour] at h
      cases h
  | succ depth =>
      induction f using entries_induction with
      | nil => cases h
      | cons name node rest ih =>
          rw [tour_cons] at h
          rcases List.mem_cons.1 h with rfl | h
          · simp
          · rcases List.mem_append.1 h with h | h
            · obtain ⟨r, -, rfl⟩ := List.mem_map.1 h
              simp
            · exact ih h

theorem Ordered.kind?_rest {name : String} {node : Node} {rest : Forest} (h : (cons name node rest).Ordered)
    (stamp : Stamp) {m : String} {q : List String} (hm : m ∈ rest.names) :
    (Node.dir stamp (cons name node rest)).kind? (m :: q) = (Node.dir stamp rest).kind? (m :: q) := by
  have hne : name ≠ m := by
    rintro rfl
    exact String.lt_irrefl name (((ordered_cons ..).1 h).1 name hm)
  rw [Node.kind?_dir_cons, if_neg hne]

theorem mem_names_of_kind? {stamp : Stamp} {m : String} {q : List String}
    (h : ((Node.dir stamp f).kind? (m :: q)).isSome) : m ∈ f.names := by
  rw [Node.kind?_cons, Node.child?_dir] at h
  rw [← isSome_find?]
  cases hfind : f.find? m with
  | none => simp [hfind] at h
  | some child => rfl

theorem Ordered.mem_tour_iff (h : f.Ordered) (stamp : Stamp) (q : List String) :
    q ∈ f.tour depth ↔ q ≠ [] ∧ q.length ≤ depth ∧ ((Node.dir stamp f).kind? q).isSome := by
  cases q with
  | nil => exact ⟨fun hq => absurd rfl (ne_nil_of_mem_tour hq), fun hq => absurd rfl hq.1⟩
  | cons m q =>
      induction f using below_induction generalizing depth m q with
      | nil => simp [Node.kind?_cons, Forest.find?]
      | cons name node rest ihb ih =>
          obtain ⟨-, hnode, hrest⟩ := (ordered_cons ..).1 h
          cases depth with
          | zero => simp [tour]
          | succ depth =>
              rw [tour_cons, List.mem_cons, List.mem_append]
              constructor
              · rintro (hq | hq | hq)
                · cases hq
                  simp [Node.kind?_dir_cons]
                · obtain ⟨r, hr, he⟩ := List.mem_map.1 hq
                  cases he
                  cases q with
                  | nil => exact absurd rfl (ne_nil_of_mem_tour hr)
                  | cons k q =>
                      obtain ⟨-, hlength, hthere⟩ := (ihb hnode.below k q).1 hr
                      rw [Node.kind?_below node stamp (by simp)] at hthere
                      rw [Node.kind?_dir_cons, if_pos rfl]
                      exact ⟨by simp, Nat.succ_le_succ hlength, hthere⟩
                · obtain ⟨hne, hlength, hthere⟩ := (ih hrest m q).1 hq
                  rw [h.kind?_rest stamp (mem_names_of_kind? hthere)]
                  exact ⟨hne, hlength, hthere⟩
              · rintro ⟨hne, hlength, hthere⟩
                rw [Node.kind?_dir_cons] at hthere
                by_cases hname : name = m
                · subst hname
                  rw [if_pos rfl] at hthere
                  cases q with
                  | nil => exact .inl rfl
                  | cons k q =>
                      rw [← Node.kind?_below node stamp (by simp)] at hthere
                      have hbelow := (ihb hnode.below k q).2 ⟨by simp, Nat.le_of_succ_le_succ hlength, hthere⟩
                      exact .inr (.inl (List.mem_map.2 ⟨_, hbelow, rfl⟩))
                · rw [if_neg hname] at hthere
                  exact .inr (.inr ((ih hrest m q).2 ⟨hne, hlength, hthere⟩))

theorem Ordered.pairwise_tour (h : f.Ordered) : (f.tour depth).Pairwise (· < ·) := by
  induction f using below_induction generalizing depth with
  | nil =>
      rw [tour_nil]
      exact .nil
  | cons name node rest ihb ih =>
      obtain ⟨hlt, hnode, hrest⟩ := (ordered_cons ..).1 h
      cases depth with
      | zero =>
          rw [tour]
          exact .nil
      | succ depth =>
          have hfirst (m : String) (q r : List String) (hq : m :: q ∈ rest.tour (depth + 1)) :
              name :: r < m :: q := by
            have hthere := ((hrest.mem_tour_iff (.at 0 m) _).1 hq).2.2
            exact List.cons_lt_cons_iff.2 (.inl (hlt m (mem_names_of_kind? hthere)))
          have hbelow : ((node.below.tour depth).map (name :: ·)).Pairwise (· < ·) :=
            List.pairwise_map.2 ((ihb hnode.below).imp fun hlt => List.cons_lt_cons_iff.2 (.inr ⟨rfl, hlt⟩))
          rw [tour_cons]
          refine List.pairwise_cons.2 ⟨fun q hq => ?_,
            List.pairwise_append.2 ⟨hbelow, ih hrest, fun p hp q hq => ?_⟩⟩
          · rcases List.mem_append.1 hq with hq | hq
            · obtain ⟨r, hr, rfl⟩ := List.mem_map.1 hq
              cases r with
              | nil => exact absurd rfl (ne_nil_of_mem_tour hr)
              | cons k r => exact List.cons_lt_cons_iff.2 (.inr ⟨rfl, List.nil_lt_cons _ _⟩)
            · cases q with
              | nil => exact absurd rfl (ne_nil_of_mem_tour hq)
              | cons m q => exact hfirst m q [] hq
          · obtain ⟨r, -, rfl⟩ := List.mem_map.1 hp
            cases q with
            | nil => exact absurd rfl (ne_nil_of_mem_tour hq)
            | cons m q => exact hfirst m q r hq

theorem Ordered.isLast_cons_iff {name : String} {node : Node} {rest : Forest} (h : (cons name node rest).Ordered)
    (stamp : Stamp) : (Node.dir stamp (cons name node rest)).IsLast name ↔ rest.isLast := by
  have hlt := ((ordered_cons ..).1 h).1
  rw [Node.IsLast, Node.below, names_cons]
  cases rest using entries_induction with
  | nil => simp [names, isLast]
  | cons m other rest =>
      have hm : name < m := hlt m (by simp [names_cons])
      have hlast : (cons m other rest).isLast = false := by cases other <;> rfl
      rw [hlast, names_cons]
      refine iff_of_false (fun hall => ?_) Bool.false_ne_true
      exact Std.not_lt.2 (hall m (by simp)) hm

theorem Ordered.line_rest {name : String} {node : Node} {rest : Forest} (h : (cons name node rest).Ordered)
    (stamp : Stamp) (indent : String) {m : String} (q : List String) (hm : m ∈ rest.names) :
    (Node.dir stamp (cons name node rest)).line indent (m :: q) = (Node.dir stamp rest).line indent (m :: q) := by
  have hlt : name < m := ((ordered_cons ..).1 h).1 m hm
  have hlast : (Node.dir stamp (cons name node rest)).IsLast m ↔ (Node.dir stamp rest).IsLast m := by
    simp only [Node.IsLast, Node.below, names_cons, List.forall_mem_cons, Std.le_of_lt hlt, true_and]
  have hchild : (Node.dir stamp (cons name node rest)).child? m = (Node.dir stamp rest).child? m := by
    rw [Node.child?_dir, Node.child?_dir, find?_cons, if_neg (Std.ne_of_lt hlt)]
  cases q with
  | nil => simp only [Node.line, hlast, hchild]
  | cons next q => simp only [Node.line, hlast, hchild]

theorem Ordered.sketch_eq (h : f.Ordered) (stamp : Stamp) (indent : String) :
    f.sketch indent depth = (f.tour depth).map ((Node.dir stamp f).line indent) := by
  induction f using below_induction generalizing depth indent with
  | nil => rw [sketch_nil, tour_nil, List.map_nil]
  | cons name node rest ihb ih =>
      cases depth with
      | zero => rw [sketch, tour, List.map_nil]
      | succ depth =>
          obtain ⟨-, hnode, hrest⟩ := (ordered_cons ..).1 h
          have hlast := h.isLast_cons_iff stamp
          have hown : (Node.dir stamp (cons name node rest)).line indent [name] =
              indent ++ rest.branch ++ name ++ node.mark := by
            simp only [Node.line, Node.child?_dir, find?_cons_self, Option.elim_some, branch, hlast]
          have hbelow (q : List String) (hq : q ∈ node.below.tour depth) :
              (Node.dir stamp (cons name node rest)).line indent (name :: q) =
                (Node.dir stamp node.below).line (indent ++ rest.rail) q := by
            cases q with
            | nil => exact absurd rfl (ne_nil_of_mem_tour hq)
            | cons k q =>
                rw [Node.line_below]
                simp only [Node.line, Node.child?_dir, find?_cons_self, Option.elim_some, rail, hlast]
          have hothers (q : List String) (hq : q ∈ rest.tour (depth + 1)) :
              (Node.dir stamp (cons name node rest)).line indent q = (Node.dir stamp rest).line indent q := by
            cases q with
            | nil => exact absurd rfl (ne_nil_of_mem_tour hq)
            | cons m q =>
                have hthere := ((hrest.mem_tour_iff stamp _).1 hq).2.2
                exact h.line_rest stamp indent q (mem_names_of_kind? hthere)
          rw [sketch_cons, tour_cons, List.map_cons, List.map_append, List.map_map, hown,
            List.map_congr_left hothers, ← ih hrest, ihb hnode.below, ← List.map_congr_left hbelow]
          rfl

end Forest

end Terminal
