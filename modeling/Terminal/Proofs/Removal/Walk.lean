import Mathlib.Algebra.GroupWithZero.Nat
import Mathlib.Algebra.Order.BigOperators.Group.List
import Terminal.Proofs.Files.Reachable
import Terminal.Proofs.Removal.Search

namespace Terminal.Commands

variable {v : View}

/-- No entry is called `.`, and what is below the places where the entries' names lead is called neither `.`
nor `..`. -/
def Calm (v : View) (path : String) : Prop :=
  ∀ name ∈ v.list path, name ≠ "." ∧
    ∀ rest, (v.files.item? (Path.settle [] (Path.split path ++ [name]) ++ rest)).isSome →
      ∀ part ∈ rest, Path.IsPlain part

theorem view_list_absolute (parts : List String) :
    v.list (Path.absolute parts) = v.files.list (Path.absolute parts) := by
  rw [View.list, View.resolve, Path.resolve_absolute]

theorem mem_list_absolute {parts : List String} (h : ∀ part ∈ parts, Path.IsName part) {name : String} :
    name ∈ v.list (Path.absolute parts) ↔ (v.files.item? (parts ++ [name])).isSome := by
  rw [view_list_absolute, Tree.mem_list, Path.split_absolute h]

theorem under_of_mem_list {path name : String} (h : name ∈ v.list path) (hn : Path.IsName name)
    (hd : name ≠ ".") : Under v (Path.absolute (Path.settle [] (Path.split path ++ [name]))) path :=
  List.mem_map.2 ⟨name, h, Path.resolve_name hn hd⟩

theorem isPlain_of_isComponent {parts : List String} (h : ∀ part ∈ parts, Path.IsComponent part) :
    ∀ part ∈ parts, Path.IsPlain part := fun part hp => (Path.isComponent_iff.1 (h part hp)).2

theorem isName_of_isComponent {parts : List String} (h : ∀ part ∈ parts, Path.IsComponent part) :
    ∀ part ∈ parts, Path.IsName part := fun part hp => (h part hp).isName

theorem under_absolute {parts : List String} {name : String} (hc : ∀ part ∈ parts, Path.IsComponent part)
    (hn : Path.IsComponent name) (h : (v.files.item? (parts ++ [name])).isSome) :
    Under v (Path.absolute (parts ++ [name])) (Path.absolute parts) := by
  have hnames := isName_of_isComponent hc
  have hunder := under_of_mem_list ((mem_list_absolute hnames).2 h) hn.isName hn.2.1
  rw [Path.split_absolute hnames, Path.settle_concat_of_isPlain _ (Path.isComponent_iff.1 hn).2,
    Path.settle_eq_self (isPlain_of_isComponent hc)] at hunder
  exact hunder

section Named

variable (hf : v.files.Reachable)
include hf

theorem isName_of_mem_list {path name : String} (h : name ∈ v.list path) : Path.IsName name :=
  hf.isName ((v.files.mem_list _ name).1 h) name (by simp)

omit hf in
theorem not_acc_of_dot {path : String} (hne : path ≠ "") (h : "." ∈ v.list path) : ¬ Acc (Under v) path := by
  intro hacc
  have hself : Under v path path := List.mem_map.2 ⟨".", h, Path.resolve_dot hne⟩
  exact not_under_of_acc hacc path hself hself

theorem not_acc_of_up {parts : List String} (hc : ∀ part ∈ parts, Path.IsComponent part)
    (h : (v.files.item? (parts ++ [".."])).isSome) : ¬ Acc (Under v) (Path.absolute parts) := by
  intro hacc
  have hnames := isName_of_isComponent hc
  have hup := under_of_mem_list ((mem_list_absolute hnames).2 h) (hf.isName h ".." (by simp)) (by decide)
  rw [Path.split_absolute hnames, Path.settle_concat_up,
    Path.settle_eq_self (isPlain_of_isComponent hc)] at hup
  rcases List.eq_nil_or_concat' parts with rfl | ⟨front, last, rfl⟩
  · exact not_under_of_acc hacc _ hup hup
  · have hfront (part : String) (hp : part ∈ front) : Path.IsComponent part :=
      hc part (List.mem_append_left _ hp)
    have hexists : (v.files.item? (front ++ [last])).isSome := by
      obtain ⟨stamp, hdir⟩ := v.files.exists_item?_dir (List.cons_ne_nil ".." []) h
      rw [hdir]
      rfl
    rw [List.dropLast_concat] at hup
    exact not_under_of_acc hacc _ hup (under_absolute hfront (hc last (by simp)) hexists)

theorem plain_of_acc {parts rest : List String} (hc : ∀ part ∈ parts, Path.IsComponent part)
    (hacc : Acc (Under v) (Path.absolute parts)) (h : (v.files.item? (parts ++ rest)).isSome) :
    (∀ part ∈ rest, Path.IsPlain part) ∧ Acc (Under v) (Path.absolute (parts ++ rest)) := by
  induction rest using List.reverseRecOn with
  | nil =>
      rw [List.append_nil]
      exact ⟨fun part hp => absurd hp List.not_mem_nil, hacc⟩
  | append_singleton rest name ih =>
      rw [← List.append_assoc] at h
      have hname : Path.IsName name := hf.isName h name (by simp)
      obtain ⟨stamp, hdir⟩ := v.files.exists_item?_dir (List.cons_ne_nil name []) h
      obtain ⟨hplain, hacc⟩ := ih (by rw [hdir]; rfl)
      have hcomp : ∀ part ∈ parts ++ rest, Path.IsComponent part := by
        intro part hp
        rcases List.mem_append.1 hp with hp | hp
        · exact hc part hp
        · exact Path.isComponent_iff.2 ⟨hf.isName h part (by simp [hp]), hplain part hp⟩
      have hd : name ≠ "." := by
        rintro rfl
        have hmem := (mem_list_absolute (isName_of_isComponent hcomp)).2 h
        exact not_acc_of_dot (Path.absolute_ne_empty _) hmem hacc
      have hdd : name ≠ ".." := by
        rintro rfl
        exact not_acc_of_up hf hcomp h hacc
      have hunder := under_absolute hcomp (Path.isComponent_iff.2 ⟨hname, hd, hdd⟩) h
      rw [← List.append_assoc]
      refine ⟨fun part hp => ?_, hacc.inv hunder⟩
      rcases List.mem_append.1 hp with hp | hp
      · exact hplain part hp
      · exact List.mem_singleton.1 hp ▸ ⟨hd, hdd⟩

theorem isComponent_of_settle {path name : String} (h : name ∈ v.list path) :
    ∀ part ∈ Path.settle [] (Path.split path ++ [name]), Path.IsComponent part := by
  intro part hp
  refine Path.isComponent_of_mem_settle (fun q hq => ?_) hp
  rcases List.mem_append.1 hq with hq | hq
  · exact Path.isName_of_mem_split hq
  · exact List.mem_singleton.1 hq ▸ isName_of_mem_list hf h

theorem calm_of_acc {path : String} (hne : path ≠ "") (hacc : Acc (Under v) path) : Calm v path := by
  intro name h
  have hd : name ≠ "." := by
    rintro rfl
    exact not_acc_of_dot hne h hacc
  refine ⟨hd, fun rest hrest => ?_⟩
  have hunder := under_of_mem_list h (isName_of_mem_list hf h) hd
  exact (plain_of_acc hf (isComponent_of_settle hf h) (hacc.inv hunder) hrest).1

end Named

section Visits

theorem kids_of_not_dir {parts : List String} (hn : ∀ part ∈ parts, Path.IsName part)
    (h : ∀ stamp below, v.files.root.at? parts ≠ some (.dir stamp below)) :
    kids v (Path.absolute parts) = [] := by
  rw [kids, view_list_absolute, Tree.list, Tree.get?_eq_at?, Path.split_absolute hn]
  cases hat : v.files.root.at? parts with
  | none => rfl
  | some node =>
      cases node with
      | file doc => rfl
      | dir stamp below => exact absurd hat (h stamp below)

theorem kids_dir {path : String} (hres : v.resolve path = path)
    (hc : ∀ part ∈ Path.split path, Path.IsComponent part) {stamp : Stamp} {below : Forest}
    (h : v.files.root.at? (Path.split path) = some (.dir stamp below))
    (hb : ∀ name ∈ below.names, Path.IsComponent name) :
    kids v path = below.names.map fun name => Path.absolute (Path.split path ++ [name]) := by
  rw [kids, View.list, hres, Tree.list, Tree.get?_eq_at?, h]
  refine List.map_congr_left fun name hname => ?_
  obtain ⟨hisName, hplain⟩ := Path.isComponent_iff.1 (hb name hname)
  rw [Path.resolve_name hisName hplain.1, Path.settle_concat_of_isPlain _ hplain,
    Path.settle_eq_self (isPlain_of_isComponent hc)]

theorem kids_absolute_dir {parts : List String} (hc : ∀ part ∈ parts, Path.IsComponent part)
    {stamp : Stamp} {below : Forest} (h : v.files.root.at? parts = some (.dir stamp below))
    (hb : ∀ name ∈ below.names, Path.IsComponent name) :
    kids v (Path.absolute parts) = below.names.map fun name => Path.absolute (parts ++ [name]) := by
  have hsplit := Path.split_absolute (isName_of_isComponent hc)
  have hkids := kids_dir (Path.resolve_absolute v.cwd parts) (by rw [hsplit]; exact hc) (by rw [hsplit]; exact h) hb
  rw [hsplit] at hkids
  exact hkids

theorem visits_paths {base : List String} {f : Forest} (hf : f.Ordered)
    (hat : ∀ name node, f.find? name = some node → v.files.root.at? (base ++ [name]) = some node)
    (hc : ∀ q ∈ f.paths base, ∀ part ∈ q, Path.IsComponent part) :
    Visits v (f.names.map fun name => Path.absolute (base ++ [name])).reverse
      ((f.paths base).map Path.absolute) := by
  induction f generalizing base with
  | nil => exact .nil
  | file n doc rest ih =>
      have hrest := ih hf.2 (fun name node h => hat name node (Forest.Ordered.find?_rest (.file doc) hf h))
        fun q hq => hc q (List.mem_append_left _ hq)
      have hself : ∀ part ∈ base ++ [n], Path.IsComponent part := hc _ (by simp [Forest.paths])
      have hkids : kids v (Path.absolute (base ++ [n])) = [] :=
        kids_of_not_dir (isName_of_isComponent hself) fun stamp below h => by
          rw [hat n (.file doc) (if_pos rfl)] at h
          cases h
      have hone : Visits v [Path.absolute (base ++ [n])] [Path.absolute (base ++ [n])] := by
        refine .enter ?_
        rw [hkids]
        exact .nil
      rw [Forest.names, Forest.paths, List.map_cons, List.reverse_cons, List.map_append]
      exact hrest.append hone
  | dir n stamp below rest ihb ih =>
      have hrest := ih hf.2.2
        (fun name node h => hat name node (Forest.Ordered.find?_rest (.dir stamp below) hf h))
        fun q hq => hc q (List.mem_append_left _ hq)
      have hself : ∀ part ∈ base ++ [n], Path.IsComponent part := hc _ (by simp [Forest.paths])
      have hown := hat n (.dir stamp below) (if_pos rfl)
      have hchild (name : String) (node : Node) (h : below.find? name = some node) :
          v.files.root.at? (base ++ [n] ++ [name]) = some node := by
        rw [Node.at?_append, hown, Option.bind_some, Node.at?_cons, Node.child?_dir, h]
        rfl
      have hbelow := ihb hf.2.1 hchild
        fun q hq => hc q (List.mem_append_right _ (List.mem_cons_of_mem _ hq))
      have hkids := kids_absolute_dir hself hown fun name hname => by
        obtain ⟨child, hchild⟩ := Option.isSome_iff_exists.1 ((below.isSome_find? name).2 hname)
        have hmem := below.mem_paths (base ++ [n]) (r := []) hchild rfl
        exact hc _ (List.mem_append_right _ (List.mem_cons_of_mem _ hmem)) name (by simp)
      have hone : Visits v [Path.absolute (base ++ [n])]
          (Path.absolute (base ++ [n]) :: (below.paths (base ++ [n])).map Path.absolute) := by
        refine .enter ?_
        rw [hkids]
        exact hbelow
      rw [Forest.names, Forest.paths, List.map_cons, List.reverse_cons, List.map_append, List.map_cons]
      exact hrest.append hone

section Directory

variable (hf : v.files.Reachable) {parts : List String} (hc : ∀ part ∈ parts, Path.IsComponent part)
  (hrest : ∀ rest, (v.files.item? (parts ++ rest)).isSome → ∀ part ∈ rest, Path.IsPlain part)
  {stamp : Stamp} {below : Forest} (hat : v.files.root.at? parts = some (.dir stamp below))
include hf hc hrest hat

theorem isComponent_of_mem_paths : ∀ q ∈ below.paths parts, ∀ part ∈ q, Path.IsComponent part := by
  intro q hq part hp
  have hroot : v.files.root.Ordered := hf.ordered
  obtain ⟨r, -, rfl, hr⟩ := ((hroot.at? hat).mem_paths_iff stamp parts q).1 hq
  have hitem : (v.files.item? (parts ++ r)).isSome := by
    rw [Tree.item?, Node.item?_append, hat, Option.bind_some]
    exact hr
  rcases List.mem_append.1 hp with hp' | hp'
  · exact hc part hp'
  · exact Path.isComponent_iff.2 ⟨hf.isName hitem part hp, hrest r hitem part hp'⟩

theorem isComponent_of_mem_names : ∀ name ∈ below.names, Path.IsComponent name := by
  intro name hname
  obtain ⟨child, hchild⟩ := Option.isSome_iff_exists.1 ((below.isSome_find? name).2 hname)
  exact isComponent_of_mem_paths hf hc hrest hat _ (below.mem_paths parts (r := []) hchild rfl) name (by simp)

theorem visits_below :
    Visits v (below.names.map fun name => Path.absolute (parts ++ [name])).reverse
      ((below.paths parts).map Path.absolute) := by
  have hroot : v.files.root.Ordered := hf.ordered
  refine visits_paths (hroot.at? hat) (fun name node h => ?_) (isComponent_of_mem_paths hf hc hrest hat)
  rw [Node.at?_append, hat, Option.bind_some, Node.at?_cons, Node.child?_dir, h]
  rfl

end Directory

theorem visits_pathsFrom (hf : v.files.Reachable) {parts : List String}
    (hc : ∀ part ∈ parts, Path.IsComponent part)
    (hrest : ∀ rest, (v.files.item? (parts ++ rest)).isSome → ∀ part ∈ rest, Path.IsPlain part) :
    Visits v [Path.absolute parts] ((v.files.pathsFrom parts).map Path.absolute) := by
  by_cases hdir : ∃ stamp below, v.files.root.at? parts = some (.dir stamp below)
  · obtain ⟨stamp, below, hat⟩ := hdir
    rw [Tree.pathsFrom, hat]
    refine .enter ?_
    rw [kids_absolute_dir hc hat (isComponent_of_mem_names hf hc hrest hat)]
    exact visits_below hf hc hrest hat
  · have hnot (stamp : Stamp) (below : Forest) : v.files.root.at? parts ≠ some (.dir stamp below) :=
      fun h => hdir ⟨stamp, below, h⟩
    have hfrom : v.files.pathsFrom parts = [parts] := by
      rw [Tree.pathsFrom]
      split
      · rename_i stamp below h
        exact absurd h (hnot stamp below)
      · rfl
    rw [hfrom]
    refine .enter ?_
    rw [kids_of_not_dir (isName_of_isComponent hc) hnot]
    exact .nil

theorem walk_directory (hf : v.files.Reachable) {path : String} (hres : v.resolve path = path)
    (hc : ∀ part ∈ Path.split path, Path.IsComponent part)
    (hrest : ∀ rest, (v.files.item? (Path.split path ++ rest)).isSome → ∀ part ∈ rest, Path.IsPlain part)
    {stamp : Stamp} {below : Forest} (hat : v.files.root.at? (Path.split path) = some (.dir stamp below)) :
    walk v (walkLimit v) [path] [] = some (path :: (below.paths (Path.split path)).map Path.absolute) := by
  have hvisits : Visits v [path] (path :: (below.paths (Path.split path)).map Path.absolute) := by
    refine .enter ?_
    rw [kids_dir hres hc hat (isComponent_of_mem_names hf hc hrest hat)]
    exact visits_below hf hc hrest hat
  have hsize : below.size ≤ v.files.entries.size := Node.extent_at?_le hat
  refine hvisits.walk_eq ?_
  rw [List.length_cons, List.length_map, Forest.length_paths, walkLimit]
  omega

def trail (v : View) (path : String) : List String :=
  path :: (v.list path).reverse.flatMap fun name =>
    (v.files.pathsFrom (Path.settle [] (Path.split path ++ [name]))).map Path.absolute

theorem visits_trail (hf : v.files.Reachable) {path : String} (h : Calm v path) :
    Visits v [path] (trail v path) := by
  have hlist : ∀ l ⊆ v.list path, Visits v (l.map (Path.resolve path)).reverse
      (l.reverse.flatMap fun name =>
        (v.files.pathsFrom (Path.settle [] (Path.split path ++ [name]))).map Path.absolute) := by
    intro l hl
    induction l with
    | nil => exact .nil
    | cons name l ih =>
        obtain ⟨hname, hl⟩ := List.cons_subset.1 hl
        obtain ⟨hd, hrest⟩ := h name hname
        have hone := visits_pathsFrom hf (isComponent_of_settle hf hname) hrest
        rw [List.map_cons, List.reverse_cons, List.reverse_cons, List.flatMap_append,
          List.flatMap_singleton, Path.resolve_name (isName_of_mem_list hf hname) hd]
        exact (ih hl).append hone
  exact .enter (hlist _ (List.Subset.refl _))

theorem length_trail_le (hf : v.files.Reachable) {path : String} (h : Calm v path) :
    (trail v path).length ≤ walkLimit v := by
  have hnodup : (v.list path).Nodup := hf.ordered.nodup_list _
  have hlist : (v.list path).length ≤ v.files.entries.size := v.files.length_list_le _
  have hbase := v.files.sum_extentAt_le (Path.settle [] (Path.split path)) hnodup
  have hup := Forest.sum_map_ite_le hnodup ".." v.files.entries.size
    fun name => v.files.extentAt (Path.settle [] (Path.split path) ++ [name])
  have hone (name : String) (hname : name ∈ v.list path) :
      (v.files.pathsFrom (Path.settle [] (Path.split path ++ [name]))).length ≤
        (if ".." = name then v.files.entries.size
          else v.files.extentAt (Path.settle [] (Path.split path) ++ [name])) + 1 := by
    rw [Tree.length_pathsFrom]
    by_cases hdd : ".." = name
    · rw [if_pos hdd]
      exact Nat.succ_le_succ (v.files.extentAt_le _)
    · rw [if_neg hdd, Path.settle_concat_of_isPlain _ ⟨(h name hname).1, fun he => hdd he.symm⟩]
  have hsum := List.sum_le_sum hone
  rw [List.sum_map_add, List.map_const', List.sum_replicate_nat, Nat.mul_one] at hsum
  have hlength : (trail v path).length = ((v.list path).map fun name =>
      (v.files.pathsFrom (Path.settle [] (Path.split path ++ [name]))).length).sum + 1 := by
    rw [trail, List.length_cons, List.length_flatMap, List.map_reverse, List.sum_reverse]
    simp only [List.length_map]
  rw [hlength, walkLimit]
  omega

theorem walk_eq_trail (hf : v.files.Reachable) {path : String} (h : Calm v path) :
    walk v (walkLimit v) [path] [] = some (trail v path) :=
  (visits_trail hf h).walk_eq (length_trail_le hf h)

end Visits

theorem exists_walk_iff (hf : v.files.Reachable) {path : String} (hne : path ≠ "") :
    (∃ fuel, (walk v fuel [path] []).isSome) ↔ Calm v path := by
  constructor
  · rintro ⟨fuel, h⟩
    exact calm_of_acc hf hne (acc_of_walk h)
  · intro h
    exact ⟨walkLimit v, by rw [walk_eq_trail hf h]; rfl⟩

theorem victims_eq_none_iff (hf : v.files.Reachable) {path : String} (hne : path ≠ "") :
    victims v path = none ↔ ¬ Calm v path := by
  rw [victims, Option.map_eq_none_iff]
  constructor
  · intro h hcalm
    rw [walk_eq_trail hf hcalm] at h
    cases h
  · intro h
    cases hwalk : walk v (walkLimit v) [path] [] with
    | none => rfl
    | some met => exact absurd ((exists_walk_iff hf hne).1 ⟨_, by rw [hwalk]; rfl⟩) h

end Terminal.Commands
