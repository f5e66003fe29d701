import Mathlib.Data.List.Sort
import Terminal.Proofs.Files.Outline
import Terminal.Proofs.Files.Paths
import Terminal.Proofs.Files.Reachable

/-!
A drawing can be read back. Whatever the entries are called, as long as each name stays on its line, the indents tell
the lines below a directory from those beside it, and two drawings are equal only if the same nodes stand in both.
-/

namespace Terminal

theorem Text.startsWith_iff (s start : String) : Text.startsWith s start = true ↔ ∃ rest, s = start ++ rest := by
  rw [Text.startsWith, List.isPrefixOf_iff_prefix]
  constructor
  · rintro ⟨cs, hcs⟩
    exact ⟨String.ofList cs, String.toList_inj.1 (by simp [hcs])⟩
  · rintro ⟨rest, rfl⟩
    exact ⟨rest.toList, by simp⟩

namespace Forest

variable {rest rest' : Forest} {indent : String} {depth : Nat}

theorem rail_eq (h : rest.isLast = rest'.isLast) : rest.rail = rest'.rail := by
  rw [rail, rail, h]

theorem branch_append_inj {a b c d : String}
    (h : indent ++ rest.branch ++ a ++ b = indent ++ rest'.branch ++ c ++ d) :
    rest.isLast = rest'.isLast ∧ a ++ b = c ++ d := by
  have hlist := congrArg String.toList h
  simp only [branch, String.toList_append, List.append_assoc, List.append_cancel_left_eq] at hlist
  rw [← String.toList_inj, String.toList_append, String.toList_append]
  cases hl : rest.isLast <;> cases hl' : rest'.isLast <;> simp_all

theorem mark_append_inj {n n' : String} {node node' : Node} (hn : Path.IsName n) (hn' : Path.IsName n')
    (h : n ++ node.mark = n' ++ node'.mark) : n = n' ∧ node.isDir = node'.isDir := by
  have hslash {m k : String} (hm : Path.IsName m) : m ≠ k ++ "/" := by
    rintro rfl
    exact absurd (hm.2 '/' (by simp)) (by decide)
  rw [Node.mark, Node.mark] at h
  cases hd : node.isDir <;> cases hd' : node'.isDir <;> rw [hd, hd'] at h <;>
    simp only [Bool.false_eq_true, if_false, if_true, String.append_empty] at h
  · exact ⟨h, rfl⟩
  · exact absurd h (hslash hn)
  · exact absurd h.symm (hslash hn')
  · have hlist := congrArg String.toList h
    rw [String.toList_append, String.toList_append] at hlist
    exact ⟨String.toList_inj.1 (List.append_cancel_right hlist), rfl⟩

theorem startsWith_sketch {f : Forest} {l : String} (h : l ∈ f.sketch indent depth) :
    Text.startsWith l indent = true := by
  rw [Text.startsWith_iff]
  induction f using below_induction generalizing indent depth with
  | nil => simp at h
  | cons name node rest ihb ih =>
      cases depth with
      | zero => simp [sketch] at h
      | succ depth =>
          rw [sketch_cons] at h
          rcases List.mem_cons.1 h with rfl | h
          · exact ⟨rest.branch ++ name ++ node.mark, by simp only [String.append_assoc]⟩
          · rcases List.mem_append.1 h with h | h
            · obtain ⟨more, rfl⟩ := ihb h
              exact ⟨rest.rail ++ more, String.append_assoc ..⟩
            · exact ih h

theorem takeWhile_sketch (below rest : Forest) :
    (below.sketch (indent ++ rest.rail) depth ++ rest.sketch indent (depth + 1)).takeWhile
      (Text.startsWith · (indent ++ rest.rail)) = below.sketch (indent ++ rest.rail) depth := by
  rw [List.takeWhile_append_of_pos fun l hl => startsWith_sketch hl]
  cases rest using entries_induction with
  | nil => rw [sketch_nil, List.takeWhile_nil, List.append_nil]
  | cons name node rest =>
      have hlast : (cons name node rest).isLast = false := by cases node <;> rfl
      have hnot : ¬ Text.startsWith (indent ++ rest.branch ++ name ++ node.mark)
          (indent ++ (cons name node rest).rail) = true := by
        rw [Text.startsWith_iff, rail, hlast, branch]
        rintro ⟨more, hmore⟩
        have hlist := congrArg String.toList hmore
        cases hl : rest.isLast <;> simp [hl] at hlist
      simp only [sketch_cons, List.takeWhile_cons, hnot, List.append_nil, Bool.false_eq_true, if_false]

def height : Forest → Nat
  | nil => 0
  | file _ _ rest => height rest
  | dir _ _ below rest => max (height below + 1) (height rest)

theorem height_file (name : String) (doc : Doc) (rest : Forest) :
    (cons name (.file doc) rest).height = rest.height := rfl

theorem height_dir (name : String) (stamp : Stamp) (below rest : Forest) :
    (cons name (.dir stamp below) rest).height = max (below.height + 1) rest.height := rfl

theorem draw_eq (f : Forest) (indent : String) (room depth : Nat) : f.draw indent room depth =
    if room < depth ∧ room ≤ f.height then .error .tooManyLevels else .ok (f.sketch indent depth) := by
  fun_induction draw indent room depth f with
  | case1 indent room f => rw [if_neg (by omega), sketch]
  | case2 indent f depth => rw [if_pos (by omega)]
  | case3 indent room depth => rw [height, if_neg (by omega), sketch]
  | case4 indent room depth n doc rest ih =>
      rw [ih, height, sketch]
      split <;> rfl
  | case5 indent room depth n stamp below rest ihb ih =>
      rw [ihb, ih, height, sketch]
      by_cases hbelow : room < depth ∧ room ≤ below.height
      · have hout : room + 1 < depth + 1 ∧ room + 1 ≤ max (below.height + 1) rest.height := by omega
        rw [if_pos hbelow, if_pos hout]
        rfl
      · rw [if_neg hbelow]
        by_cases hrest : room + 1 < depth + 1 ∧ room + 1 ≤ rest.height
        · have hout : room + 1 < depth + 1 ∧ room + 1 ≤ max (below.height + 1) rest.height := by omega
          rw [if_pos hrest, if_pos hout]
          rfl
        · have hout : ¬ (room + 1 < depth + 1 ∧ room + 1 ≤ max (below.height + 1) rest.height) := by omega
          rw [if_neg hrest, if_neg hout]
          rfl

theorem length_le_height {f : Forest} {stamp : Stamp} {q : List String}
    (h : (Node.dir stamp f).kind? q = some true) : q.length ≤ f.height := by
  induction f using below_induction generalizing stamp q with
  | nil =>
      cases q with
      | nil => exact Nat.le_refl _
      | cons m q => simp [Node.kind?_cons, find?] at h
  | cons name node rest ihb ih =>
      cases q with
      | nil => exact Nat.zero_le _
      | cons m q =>
          rw [Node.kind?_dir_cons] at h
          cases node with
          | file doc =>
              rw [height_file]
              split at h
              · cases q with
                | nil => cases h
                | cons k q => cases h
              · exact ih h
          | dir inner below =>
              rw [height_dir]
              split at h
              · have hlength : q.length ≤ below.height := ihb h
                rw [List.length_cons]
                omega
              · exact Nat.le_trans (ih h) (Nat.le_max_right ..)

theorem Ordered.exists_of_le_height {f : Forest} (h : f.Ordered) (stamp : Stamp) {room : Nat}
    (hroom : room ≤ f.height) : ∃ q : List String, q.length = room ∧ (Node.dir stamp f).kind? q = some true := by
  induction f using below_induction generalizing stamp room with
  | nil => exact ⟨[], (Nat.le_zero.1 hroom).symm, rfl⟩
  | cons name node rest ihb ih =>
      obtain ⟨-, hnode, hordered⟩ := (ordered_cons ..).1 h
      have hothers (hrest : room ≤ rest.height) : ∃ q : List String, q.length = room ∧
          (Node.dir stamp (cons name node rest)).kind? q = some true := by
        obtain ⟨q, hq, hkind⟩ := ih hordered stamp hrest
        refine ⟨q, hq, ?_⟩
        cases q with
        | nil => rfl
        | cons m q =>
            have hm : m ∈ rest.names := mem_names_of_kind? (by rw [hkind]; rfl)
            rw [h.kind?_rest stamp hm, hkind]
      cases node with
      | file doc => exact hothers (by rwa [height_file] at hroom)
      | dir inner below =>
          rw [height_dir] at hroom
          rcases le_max_iff.1 hroom with hbelow | hrest
          · cases room with
            | zero => exact ⟨[], rfl, rfl⟩
            | succ room =>
                obtain ⟨q, hq, hkind⟩ := ihb hnode inner (Nat.le_of_succ_le_succ hbelow)
                refine ⟨name :: q, congrArg (· + 1) hq, ?_⟩
                rw [Node.kind?_dir_cons, if_pos rfl]
                exact hkind
          · exact hothers hrest

theorem sameTo_zero (stamp stamp' : Stamp) (f g : Forest) : Node.SameTo 0 (.dir stamp f) (.dir stamp' g) := by
  intro q hq
  rw [List.eq_nil_of_length_eq_zero (Nat.le_zero.1 hq)]
  rfl

theorem sameTo_cons {stamp stamp' : Stamp} (name : String) {node node' : Node} (hkind : node.isDir = node'.isDir)
    (hbelow : Node.SameTo depth (.dir stamp node.below) (.dir stamp' node'.below))
    (hrest : Node.SameTo (depth + 1) (.dir stamp rest) (.dir stamp' rest')) :
    Node.SameTo (depth + 1) (.dir stamp (cons name node rest)) (.dir stamp' (cons name node' rest')) := by
  intro q hq
  cases q with
  | nil => rfl
  | cons m q =>
      rw [Node.kind?_dir_cons, Node.kind?_dir_cons]
      split
      · cases q with
        | nil => rw [Node.kind?_nil, Node.kind?_nil, hkind]
        | cons k q =>
            have hq := hbelow (k :: q) (Nat.le_of_succ_le_succ hq)
            rwa [Node.kind?_below node stamp (by simp), Node.kind?_below node' stamp' (by simp)] at hq
      · exact hrest (m :: q) hq

theorem sameTo_of_sketch_eq {f g : Forest} (stamp stamp' : Stamp) (hf : ∀ q ∈ f.tour depth, ∀ n ∈ q, Path.IsName n)
    (hg : ∀ q ∈ g.tour depth, ∀ n ∈ q, Path.IsName n) (h : f.sketch indent depth = g.sketch indent depth) :
    Node.SameTo depth (.dir stamp f) (.dir stamp' g) := by
  induction f using below_induction generalizing g indent depth with
  | nil =>
      cases g using entries_induction with
      | nil => exact fun q _ => by cases q <;> rfl
      | cons n other g =>
          cases depth with
          | zero => exact sameTo_zero _ _ _ _
          | succ depth => simp [sketch_cons] at h
  | cons name node rest ihb ih =>
      cases depth with
      | zero => exact sameTo_zero _ _ _ _
      | succ depth =>
          cases g using entries_induction with
          | nil => simp [sketch_cons] at h
          | cons n other g =>
              simp only [tour_cons, List.forall_mem_cons, List.forall_mem_append, List.forall_mem_map] at hf hg
              obtain ⟨⟨hname, -⟩, hfbelow, hfrest⟩ := hf
              obtain ⟨⟨hn, -⟩, hgbelow, hgrest⟩ := hg
              rw [sketch_cons, sketch_cons] at h
              obtain ⟨hfirst, hothers⟩ := List.cons.inj h
              obtain ⟨hlast, hmarked⟩ := branch_append_inj hfirst
              obtain ⟨rfl, hkind⟩ := mark_append_inj hname hn hmarked
              have hbelow : node.below.sketch (indent ++ rest.rail) depth =
                  other.below.sketch (indent ++ rest.rail) depth := by
                rw [← takeWhile_sketch node.below rest, hothers, rail_eq hlast, takeWhile_sketch]
              rw [hbelow, rail_eq hlast, List.append_cancel_left_eq] at hothers
              exact sameTo_cons name hkind (ihb (fun q hq => (hfbelow q hq).2) (fun q hq => (hgbelow q hq).2) hbelow)
                (ih hfrest hgrest hothers)

theorem newline_not_mem_sketch {f : Forest} (hindent : '\n' ∉ indent.toList)
    (h : ∀ q ∈ f.tour depth, ∀ n ∈ q, '\n' ∉ n.toList) : ∀ l ∈ f.sketch indent depth, '\n' ∉ l.toList := by
  induction f using below_induction generalizing indent depth with
  | nil => simp
  | cons name node rest ihb ih =>
      cases depth with
      | zero => simp [sketch]
      | succ depth =>
          simp only [tour_cons, List.forall_mem_cons, List.forall_mem_append, List.forall_mem_map] at h
          obtain ⟨⟨hname, -⟩, hbelow, hrest⟩ := h
          have hbranch : '\n' ∉ rest.branch.toList := by
            rw [branch]
            split <;> decide
          have hrail : '\n' ∉ rest.rail.toList := by
            rw [rail]
            split <;> decide
          have hmark : '\n' ∉ node.mark.toList := by cases node <;> simp [Node.mark, Node.isDir]
          rw [sketch_cons, List.forall_mem_cons, List.forall_mem_append]
          refine ⟨?_, ihb ?_ fun q hq => (hbelow q hq).2, ih hindent hrest⟩
          · simp only [String.toList_append, List.mem_append, not_or]
            exact ⟨⟨⟨hindent, hbranch⟩, hname⟩, hmark⟩
          · rw [String.toList_append, List.mem_append, not_or]
            exact ⟨hindent, hrail⟩

theorem tour_one (f : Forest) : f.tour 1 = f.names.map ([·]) := by
  induction f using entries_induction with
  | nil => rfl
  | cons name node rest ih => rw [tour_cons, tour, List.map_nil, List.nil_append, ih, names_cons, List.map_cons]

end Forest

theorem Path.newline_not_mem_header {path : String} (h : ∀ n ∈ split path, '\n' ∉ n.toList) :
    '\n' ∉ (header path).toList := by
  have hpath : '\n' ∉ path.toList := by
    intro hmem
    obtain ⟨n, hn, hnl⟩ := (Text.exists_mem_tokens_iff (p := isSlash) path).2 ⟨hmem, by decide⟩
    exact h n hn hnl
  rw [header]
  split
  · decide
  · rw [String.toList_append, String.toList_ofList, List.mem_append, not_or]
    refine ⟨fun hmem => hpath ?_, by decide⟩
    rw [Text.dropRightWhile, List.mem_reverse] at hmem
    exact List.mem_reverse.1 ((List.dropWhile_sublist _).subset hmem)

namespace Tree

/-- No entry has a name that runs over its line. -/
def Unbroken (t : Tree) : Prop := ∀ q, (t.node? q).isSome → ∀ n ∈ q, '\n' ∉ n.toList

variable {t t' : Tree} {path : String} {stamp stamp' : Stamp} {below below' : Forest}

theorem node?_below (h : t.get? path = some (.dir stamp below)) (q : List String) :
    t.node? (Path.split path ++ q) = (Node.dir stamp below).at? q := by
  rw [get?_eq_at?] at h
  rw [node?_eq_at?, Node.at?_append, h, Option.bind_some]

theorem isName_of_mem_tour (ht : t.Reachable) (h : t.get? path = some (.dir stamp below)) {depth : Nat}
    (hordered : below.Ordered) : ∀ q ∈ below.tour depth, ∀ n ∈ q, Path.IsName n := by
  intro q hq n hn
  have hthere := ((hordered.mem_tour_iff stamp q).1 hq).2.2
  rw [Node.kind?, Option.isSome_map, ← node?_below h, node?_eq_at?] at hthere
  have hitem : (t.item? (Path.split path ++ q)).isSome := by rwa [item?, Node.item?, Option.isSome_map]
  exact ht.isName hitem n (List.mem_append_right _ hn)

theorem ordered_below (ht : t.Ordered) (h : t.get? path = some (.dir stamp below)) : below.Ordered := by
  rw [get?_eq_at?] at h
  have hroot : t.root.Ordered := ht
  exact hroot.at? h

/-- A directory stands as far below a path as there is room for in a drawing, and is to be drawn too. -/
def Outruns (t : Tree) (path : String) (room depth : Nat) : Prop :=
  room < depth ∧ ∃ q : List String, q.length = room ∧ (t.node? (Path.split path ++ q)).map Node.isDir = some true

theorem outruns_iff (ht : t.Ordered) (h : t.get? path = some (.dir stamp below)) (room depth : Nat) :
    t.Outruns path room depth ↔ room < depth ∧ room ≤ below.height := by
  simp only [Outruns, node?_below h]
  refine and_congr_right fun _ => ⟨?_, (ordered_below ht h).exists_of_le_height stamp⟩
  rintro ⟨q, rfl, hkind⟩
  exact Forest.length_le_height hkind

theorem drawing_of_outruns (ht : t.Ordered) (h : t.get? path = some (.dir stamp below)) {room depth : Nat}
    (hout : t.Outruns path room depth) : t.drawing room path depth = .error .tooManyLevels := by
  rw [drawing, h]
  simp only [Int.toNat_natCast, Forest.draw_eq, if_pos ((outruns_iff ht h room depth).1 hout)]
  rfl

theorem drawing_eq (ht : t.Ordered) (h : t.get? path = some (.dir stamp below)) {room depth : Nat}
    (hout : ¬ t.Outruns path room depth) :
    t.drawing room path depth = .ok ("\n".intercalate (Path.header path :: below.sketch "" depth)) := by
  rw [drawing, h]
  simp only [Int.toNat_natCast, Forest.draw_eq, if_neg (mt (outruns_iff ht h room depth).2 hout)]
  rfl

theorem eq_of_drawing_eq (ht : t.Ordered) (h : t.get? path = some (.dir stamp below)) {room depth : Nat}
    {text : String} (htext : t.drawing room path depth = .ok text) :
    text = "\n".intercalate (Path.header path :: below.sketch "" depth) := by
  by_cases hout : t.Outruns path room depth
  · rw [drawing_of_outruns ht h hout] at htext
    cases htext
  · rw [drawing_eq ht h hout] at htext
    exact (Except.ok.inj htext).symm

theorem lines_sketch {depth : Nat} (hpath : ∀ n ∈ Path.split path, '\n' ∉ n.toList)
    (hnames : ∀ q ∈ below.tour depth, ∀ n ∈ q, '\n' ∉ n.toList) :
    Text.lines ("\n".intercalate (Path.header path :: below.sketch "" depth)) =
      Path.header path :: below.sketch "" depth :=
  Text.lines_intercalate (by simp) (List.forall_mem_cons.2
    ⟨Path.newline_not_mem_header hpath, Forest.newline_not_mem_sketch (by simp) hnames⟩)

theorem Unbroken.lines_sketch (hlines : t.Unbroken) (ht : t.Ordered) (h : t.get? path = some (.dir stamp below))
    (depth : Nat) : Text.lines ("\n".intercalate (Path.header path :: below.sketch "" depth)) =
      Path.header path :: below.sketch "" depth := by
  have hunbroken (q : List String) (hq : ((Node.dir stamp below).at? q).isSome) :
      ∀ n ∈ Path.split path ++ q, '\n' ∉ n.toList := hlines _ (by rwa [node?_below h])
  refine Tree.lines_sketch (fun n hn => hunbroken [] rfl n (List.mem_append_left _ hn)) fun q hq n hn => ?_
  have hthere := (((ordered_below ht h).mem_tour_iff stamp q).1 hq).2.2
  rw [Node.kind?, Option.isSome_map] at hthere
  exact hunbroken q hthere n (List.mem_append_right _ hn)

theorem sketch_eq_iff (ht : t.Reachable) (ht' : t'.Reachable) (h : t.get? path = some (.dir stamp below))
    (h' : t'.get? path = some (.dir stamp' below')) (depth : Nat) :
    below.sketch "" depth = below'.sketch "" depth ↔ Node.SameTo depth (.dir stamp below) (.dir stamp' below') := by
  have hordered : below.Ordered := ordered_below ht.ordered h
  have hordered' : below'.Ordered := ordered_below ht'.ordered h'
  constructor
  · exact Forest.sameTo_of_sketch_eq stamp stamp' (isName_of_mem_tour ht h hordered)
      (isName_of_mem_tour ht' h' hordered')
  · intro hsame
    have htour : below.tour depth = below'.tour depth := by
      refine hordered.pairwise_tour.eq_of_mem_iff hordered'.pairwise_tour fun q => ?_
      rw [hordered.mem_tour_iff stamp, hordered'.mem_tour_iff stamp']
      exact and_congr_right fun _ => and_congr_right fun hq => by rw [hsame q hq]
    have hline (q : List String) (hq : q ∈ below.tour depth) :
        (Node.dir stamp below).line "" q = (Node.dir stamp' below').line "" q := by
      obtain ⟨-, hlength, hthere⟩ := (hordered.mem_tour_iff stamp q).1 hq
      exact hsame.line_eq "" hlength hthere
    rw [hordered.sketch_eq stamp, hordered'.sketch_eq stamp', List.map_congr_left hline, htour]

/-- A drawing fails if a directory of it stands too far down. Otherwise two drawings are equal only if the same names
and kinds stand in both, and besides the header there is one line for each node, a directory before what it holds and
names in order. -/
theorem drawing_determines (ht : t.Reachable) (ht' : t'.Reachable) (h : t.get? path = some (.dir stamp below))
    (h' : t'.get? path = some (.dir stamp' below')) (hlines : t.Unbroken) (hlines' : t'.Unbroken)
    (room depth : Nat) :
    (t.Outruns path room depth → t.drawing room path depth = .error .tooManyLevels) ∧
    (¬ t.Outruns path room depth → ∃ text, t.drawing room path depth = .ok text ∧
      (∀ text', t'.drawing room path depth = .ok text' →
        (text = text' ↔ ∀ q, q.length ≤ depth → (t.node? (Path.split path ++ q)).map Node.isDir =
          (t'.node? (Path.split path ++ q)).map Node.isDir)) ∧
      ∃ qs : List (List String),
        Text.lines text = Path.header path :: qs.map ((Node.dir stamp below).line "") ∧
        qs.Pairwise (· < ·) ∧
        ∀ q, q ∈ qs ↔ q ≠ [] ∧ q.length ≤ depth ∧ (t.node? (Path.split path ++ q)).isSome) := by
  have hordered : below.Ordered := ordered_below ht.ordered h
  refine ⟨drawing_of_outruns ht.ordered h, fun hout => ⟨_, drawing_eq ht.ordered h hout, fun text' htext' => ?_,
    below.tour depth, ?_, hordered.pairwise_tour, fun q => ?_⟩⟩
  · obtain rfl := eq_of_drawing_eq ht'.ordered h' htext'
    have hsketch := sketch_eq_iff ht ht' h h' depth
    simp only [node?_below h, node?_below h']
    refine Iff.trans ⟨fun htext => ?_, fun heq => ?_⟩ hsketch
    · have hread := congrArg Text.lines htext
      rw [hlines.lines_sketch ht.ordered h, hlines'.lines_sketch ht'.ordered h'] at hread
      exact (List.cons.inj hread).2
    · rw [heq]
  · rw [hlines.lines_sketch ht.ordered h, hordered.sketch_eq stamp]
  · rw [hordered.mem_tour_iff stamp, node?_below h, Node.kind?, Option.isSome_map]

theorem unbroken_of_paths (ht : t.Ordered) (h : ∀ q ∈ t.entries.paths [], ∀ n ∈ q, '\n' ∉ n.toList) :
    t.Unbroken := by
  intro q hq n hn
  rw [node?_eq_at?] at hq
  have hitem : (t.root.item? q).isSome := by rwa [Node.item?, Option.isSome_map]
  have hne : q ≠ [] := List.ne_nil_of_mem hn
  exact h q ((Forest.Ordered.mem_paths_iff ht t.stamp [] q).2 ⟨q, hne, rfl, hitem⟩) n hn

def penned (now : Int) (text : String) : Tree :=
  ((FileOp.write "/pens/└── red/│   ink" text).perform now (empty 0)).1

theorem penned_same :
    (penned 5 "a").drawing levelLimit "/pens/" 2 = .ok "/pens/\n└── └── red/\n    └── │   ink" ∧
    ∀ q, q.length ≤ 2 → ((penned 5 "a").node? (Path.split "/pens/" ++ q)).map Node.isDir =
      ((penned 9 "bc").node? (Path.split "/pens/" ++ q)).map Node.isDir := by
  have hreach (now : Int) (text : String) : (penned now text).Reachable := (Reachable.empty 0).step now _
  have hfive : (penned 5 "a").get? "/pens/" = some (.dir (.at 5 "pens")
      (.dir "└── red" (.at 5 "└── red") (.file "│   ink" ⟨"a", .at 5 "│   ink"⟩ .nil) .nil)) := by decide +kernel
  have hnine : (penned 9 "bc").get? "/pens/" = some (.dir (.at 9 "pens")
      (.dir "└── red" (.at 9 "└── red") (.file "│   ink" ⟨"bc", .at 9 "│   ink"⟩ .nil) .nil)) := by decide +kernel
  have hfiveLines : (penned 5 "a").Unbroken := unbroken_of_paths (hreach 5 "a").ordered (by decide +kernel)
  have hnineLines : (penned 9 "bc").Unbroken := unbroken_of_paths (hreach 9 "bc").ordered (by decide +kernel)
  have hdraw := drawing_determines (hreach 5 "a") (hreach 9 "bc") hfive hnine hfiveLines hnineLines levelLimit 2
  have hroom : ¬ (penned 5 "a").Outruns "/pens/" levelLimit 2 := fun hout => absurd hout.1 (by decide)
  have hnineText : (penned 9 "bc").drawing levelLimit "/pens/" 2 =
      .ok "/pens/\n└── └── red/\n    └── │   ink" := by decide +kernel
  obtain ⟨text, htext, hsame, -⟩ := hdraw.2 hroom
  have hfiveText : (penned 5 "a").drawing levelLimit "/pens/" 2 =
      .ok "/pens/\n└── └── red/\n    └── │   ink" := by decide +kernel
  refine ⟨hfiveText, (hsame _ hnineText).1 ?_⟩
  exact Except.ok.inj (htext.symm.trans hfiveText)

def chain (levels : Nat) : Tree :=
  ((FileOp.mkdir (Path.absolute (List.replicate levels "a"))).perform 0 (empty 0)).1

theorem item?_chain (levels : Nat) (q : List String) : ∃ stamp, (chain levels).item? q =
    if q <+: List.replicate levels "a" then some (.dir stamp) else none := by
  have hempty (q : List String) : (empty 0).item? q = if q = [] then some (.dir (.at 0 "/")) else none :=
    Node.item?_empty _ q
  have hsplit : Path.split (Path.absolute (List.replicate levels "a")) = List.replicate levels "a" :=
    Path.split_absolute fun part hpart => by
      rw [List.eq_of_mem_replicate hpart]
      exact ⟨by decide, by simp [Path.isSlash]⟩
  rcases mkdir_cases 0 (ordered_empty 0) (Path.absolute (List.replicate levels "a")) with
    ⟨⟨p, -, doc, hdoc⟩, -⟩ | ⟨-, t', ht', -, hitem⟩
  · have hp : (empty 0).item? p = some (.file doc) := hdoc
    rw [hempty] at hp
    split at hp <;> cases hp
  · have hchain : chain levels = t' := congrArg Prod.fst ht'
    rw [hchain, hitem, hsplit, raised, hempty]
    by_cases hq : q = []
    · subst hq
      exact ⟨.at 0 "/", by rw [if_pos List.nil_prefix, if_pos List.nil_prefix, if_pos rfl, Option.getD_some]⟩
    · refine ⟨.along 0 q, ?_⟩
      rw [if_neg hq, Option.getD_none]

theorem reachable_chain (levels : Nat) : (chain levels).Reachable := (Reachable.empty 0).step 0 _

theorem unbroken_chain (levels : Nat) : (chain levels).Unbroken := by
  intro q hq n hn
  obtain ⟨stamp, hitem⟩ := item?_chain levels q
  have hthere : ((chain levels).item? q).isSome := by rwa [item?, Node.item?, Option.isSome_map, ← node?_eq_at?]
  rw [hitem] at hthere
  split at hthere
  · rename_i hpre
    rw [List.eq_of_mem_replicate (hpre.subset hn)]
    decide
  · cases hthere

theorem outruns_chain {levels room depth : Nat} (hroom : room ≤ levels) (hdepth : room < depth) :
    (chain levels).Outruns "/" room depth := by
  refine ⟨hdepth, List.replicate room "a", List.length_replicate, ?_⟩
  obtain ⟨stamp, hitem⟩ := item?_chain levels (List.replicate room "a")
  rw [if_pos (List.prefix_replicate_iff.2 ⟨by rwa [List.length_replicate], by rw [List.length_replicate]⟩)] at hitem
  obtain ⟨below, hbelow⟩ := Node.at?_of_item?_dir _ hitem
  rw [← node?_eq_at?] at hbelow
  rw [show Path.split "/" = [] from by decide, List.nil_append, hbelow]
  rfl

theorem drawing_chain {levels room depth : Nat} (hroom : room ≤ levels) (hdepth : room < depth) :
    (chain levels).drawing room "/" depth = .error .tooManyLevels :=
  drawing_of_outruns (reachable_chain levels).ordered rfl (outruns_chain hroom hdepth)

/-- It is deeper than a drawing of it can be, and there is no text at all. -/
theorem chain_not_drawn : (chain 1010).Reachable ∧ (chain 1010).Unbroken ∧ (chain 1010).isDir "/" = true ∧
    (chain 1010).drawing levelLimit "/" 2000 = .error .tooManyLevels := by
  have hdir (t : Tree) : t.isDir "/" = true := rfl
  have hlimit : levelLimit ≤ 1010 := by decide
  have hdepth : levelLimit < 2000 := by decide
  have hnat : (2000 : Int) = (2000 : Nat) := rfl
  rw [hnat]
  exact ⟨reachable_chain 1010, unbroken_chain 1010, hdir _, drawing_chain hlimit hdepth⟩

end Tree

end Terminal
