import Terminal.Files.Listing
import Terminal.Proofs.Files.Paths
import Terminal.Proofs.Files.Ticking

namespace Terminal

namespace Forest

def nodes (base : List String) : Forest → List (List String × Node)
  | nil => []
  | file n doc rest => (base ++ [n], .file doc) :: nodes base rest
  | dir n stamp below rest => (base ++ [n], .dir stamp below) :: (nodes (base ++ [n]) below ++ nodes base rest)

theorem perm_nodes (base : List String) (f : Forest) : ((f.nodes base).map Prod.fst).Perm (f.paths base) := by
  induction f generalizing base with
  | nil => exact .refl _
  | file n doc rest ih =>
      rw [nodes, paths, List.map_cons]
      exact ((ih base).cons _).trans (List.perm_append_singleton _ _).symm
  | dir n stamp below rest ihb ih =>
      rw [nodes, paths, List.map_cons, List.map_append]
      have hparts : ((below.nodes (base ++ [n])).map Prod.fst ++ (rest.nodes base).map Prod.fst).Perm
          (below.paths (base ++ [n]) ++ rest.paths base) := (ihb (base ++ [n])).append (ih base)
      have hfirst : ((base ++ [n]) :: (below.paths (base ++ [n]) ++ rest.paths base)).Perm
          (rest.paths base ++ (base ++ [n]) :: below.paths (base ++ [n])) := by
        rw [← List.cons_append]
        exact List.perm_append_comm
      exact (hparts.cons _).trans hfirst

theorem mem_nodes (f : Forest) (base : List String) {name : String} {child node : Node} {r : List String}
    (hf : f.find? name = some child) (hr : child.at? r = some node) : (base ++ name :: r, node) ∈ f.nodes base := by
  induction f generalizing base name child r with
  | nil => cases hf
  | file n doc rest ih =>
      rw [find?] at hf
      split at hf
      · rename_i hn
        cases hf
        subst hn
        cases r with
        | nil =>
            cases hr
            exact List.mem_cons_self ..
        | cons m r =>
            rw [Node.at?_file_of_ne_nil doc (by simp)] at hr
            cases hr
      · exact List.mem_cons_of_mem _ (ih base hf hr)
  | dir n stamp below rest ihb ih =>
      rw [find?] at hf
      split at hf
      · rename_i hn
        cases hf
        subst hn
        cases r with
        | nil =>
            cases hr
            exact List.mem_cons_self ..
        | cons m r =>
            obtain ⟨next, hnext, hr⟩ := Option.bind_eq_some_iff.1 hr
            have hmem := ihb (base ++ [n]) hnext hr
            rw [List.append_assoc] at hmem
            exact List.mem_cons_of_mem _ (List.mem_append_left _ hmem)
      · exact List.mem_cons_of_mem _ (List.mem_append_right _ (ih base hf hr))

theorem Ordered.at?_of_mem_nodes {f : Forest} (h : f.Ordered) {base p : List String} {node : Node}
    (hp : (p, node) ∈ f.nodes base) :
    ∃ name child r, p = base ++ name :: r ∧ f.find? name = some child ∧ child.at? r = some node := by
  induction f generalizing base p with
  | nil => cases hp
  | file n doc rest ih =>
      rcases List.mem_cons.1 hp with he | hp
      · cases he
        exact ⟨n, .file doc, [], rfl, if_pos rfl, rfl⟩
      · obtain ⟨name, child, r, rfl, hf, hr⟩ := ih h.2 hp
        exact ⟨name, child, r, rfl, find?_rest (.file doc) h hf, hr⟩
  | dir n stamp below rest ihb ih =>
      rcases List.mem_cons.1 hp with he | hp
      · cases he
        exact ⟨n, .dir stamp below, [], rfl, if_pos rfl, rfl⟩
      rcases List.mem_append.1 hp with hp | hp
      · obtain ⟨m, child, r, rfl, hf, hr⟩ := ihb h.2.1 hp
        refine ⟨n, .dir stamp below, m :: r, by simp, if_pos rfl, ?_⟩
        rw [Node.at?_cons, Node.child?_dir, hf]
        exact hr
      · obtain ⟨name, child, r, rfl, hf, hr⟩ := ih h.2.2 hp
        exact ⟨name, child, r, rfl, find?_rest (.dir stamp below) h hf, hr⟩

theorem Ordered.mem_nodes_iff {f : Forest} (h : f.Ordered) (stamp : Stamp) (p : List String) (node : Node) :
    (p, node) ∈ f.nodes [] ↔ p ≠ [] ∧ (Node.dir stamp f).at? p = some node := by
  constructor
  · intro hp
    obtain ⟨name, child, r, rfl, hf, hr⟩ := h.at?_of_mem_nodes hp
    refine ⟨by simp, ?_⟩
    rw [List.nil_append, Node.at?_cons, Node.child?_dir, hf]
    exact hr
  · rintro ⟨hne, hp⟩
    cases p with
    | nil => exact absurd rfl hne
    | cons name r =>
        obtain ⟨child, hf, hr⟩ := Option.bind_eq_some_iff.1 hp
        exact f.mem_nodes [] hf hr

theorem listing_eq {base : List String} {path : String} (hpath : ∀ n, path ++ "/" ++ n = Path.absolute (base ++ [n]))
    (f : Forest) : f.listing path =
      (f.nodes base).map fun x =>
        ⟨Path.absolute x.1, x.2.isDir, x.2.size, x.2.stamp.created, x.2.stamp.updated⟩ := by
  induction f generalizing base path with
  | nil => rfl
  | file n doc rest ih =>
      rw [listing, nodes, List.map_cons, ih hpath, hpath]
      rfl
  | dir n stamp below rest ihb ih =>
      have hbelow (m : String) : Path.absolute (base ++ [n]) ++ "/" ++ m = Path.absolute (base ++ [n] ++ [m]) :=
        (Path.absolute_concat_of_ne_nil m (by simp)).symm
      rw [listing, nodes, List.map_cons, List.map_append, ih hpath, hpath, ihb hbelow]
      rfl

end Forest

namespace Tree

/-- What operations lead to by a clock that has never gone back and shows `now`. -/
inductive ReachableBy : Int → Tree → Prop
  | root {now created updated : Int} :
      created ≤ updated → updated ≤ now → ReachableBy now ⟨⟨"/", created, updated⟩, .nil⟩
  | step {now later : Int} {clock : Nat → Int} {t : Tree} (op : FileOp) :
      Readings clock now later → ReachableBy now t → ReachableBy later (op.performBy clock t).1

variable {now : Int} {t : Tree}

theorem ReachableBy.sound (h : t.ReachableBy now) : t.Sound now := by
  induction h with
  | root horder hnow => exact ⟨trivial, ⟨rfl, Int.le_refl _, horder, hnow⟩, trivial⟩
  | step op hclock _ ih => exact ih.performBy hclock op

def nodes (t : Tree) : List (List String × Node) := t.entries.nodes []

structure WellFormed (now : Int) (t : Tree) : Prop where
  root : (t.get? "/").map Node.isDir = some true ∧ t.stamp.name = "/"
  stored : ∀ p stamp below, t.node? p = some (.dir stamp below) →
    ∀ x ∈ below.entries, x.2.stamp.name = x.1 ∧ below.find? x.1 = some x.2
  unique : ∀ p stamp below, t.node? p = some (.dir stamp below) → (below.entries.map Prod.fst).Nodup
  named : ∀ x ∈ t.nodes, ∀ n ∈ x.1, n ≠ "" ∧ '/' ∉ n.toList ∧ '\\' ∉ n.toList
  stamped : ∀ p node, t.node? p = some node → node.stamp.created ≤ node.stamp.updated ∧ node.stamp.updated ≤ now
  above : ∀ p q stamp below node, t.node? p = some (.dir stamp below) → t.node? (p ++ q) = some node →
    stamp.created ≤ node.stamp.created
  walked : ∀ p node, (p, node) ∈ t.nodes ↔ p ≠ [] ∧ t.node? p = some node
  looked : ∀ x ∈ t.nodes, t.get? (Path.absolute x.1) = some x.2
  once : (t.nodes.map fun x => Path.absolute x.1).Nodup
  listed : t.listing = t.nodes.map fun x =>
    ⟨Path.absolute x.1, x.2.isDir, x.2.size, x.2.stamp.created, x.2.stamp.updated⟩

namespace Sound

variable (h : t.Sound now)

include h

theorem isName {p : List String} {node : Node} (hp : t.node? p = some node) : ∀ part ∈ p, Path.IsName part := by
  rw [node?_eq_at?] at hp
  exact (h.root.at? hp).1

theorem mem_nodes_iff (p : List String) (node : Node) : (p, node) ∈ t.nodes ↔ p ≠ [] ∧ t.node? p = some node := by
  rw [node?_eq_at?]
  exact h.ordered.mem_nodes_iff t.stamp p node

theorem names_of_mem_nodes {x : List String × Node} (hx : x ∈ t.nodes) : ∀ part ∈ x.1, Path.IsName part :=
  h.isName ((h.mem_nodes_iff x.1 x.2).1 hx).2

theorem nodup_nodes : (t.nodes.map fun x => Path.absolute x.1).Nodup := by
  have hpaths : (t.nodes.map Prod.fst).Nodup := (t.entries.perm_nodes []).nodup_iff.2 (h.ordered.nodup_paths [])
  have hnames (p : List String) (hp : p ∈ t.nodes.map Prod.fst) : ∀ part ∈ p, Path.IsName part := by
    obtain ⟨x, hx, rfl⟩ := List.mem_map.1 hp
    exact h.names_of_mem_nodes hx
  have hmap : (t.nodes.map fun x => Path.absolute x.1) = (t.nodes.map Prod.fst).map Path.absolute := by
    rw [List.map_map]
    rfl
  rw [hmap]
  refine List.pairwise_map.2 (hpaths.imp_of_mem fun {p q} hp hq hne he => ?_)
  exact hne (Path.absolute_inj (hnames p hp) (hnames q hq) he)

theorem wellFormed : t.WellFormed now where
  root := ⟨rfl, h.root.fits.name⟩
  stored p stamp below hp x hx := by
    rw [node?_eq_at?] at hp
    have hroot : t.root.Ordered := h.ordered
    have hbelow : below.Ordered := hroot.at? hp
    have hfind : below.find? x.1 = some x.2 := hbelow.mem_entries_iff.1 hx
    obtain ⟨-, hnode⟩ := (h.root.at? hp).2.2.find? hfind
    exact ⟨hnode.fits.name, hfind⟩
  unique p stamp below hp := by
    rw [node?_eq_at?] at hp
    have hroot : t.root.Ordered := h.ordered
    have hbelow : below.Ordered := hroot.at? hp
    rw [Forest.map_fst_entries]
    exact Forest.nodup_of_pairwise hbelow.pairwise_names
  named x hx n hn := by
    obtain ⟨hne, hslash⟩ := h.names_of_mem_nodes hx n hn
    exact ⟨hne, fun hc => Bool.noConfusion (hslash _ hc), fun hc => Bool.noConfusion (hslash _ hc)⟩
  stamped p node hp := by
    rw [node?_eq_at?] at hp
    have hnode := (h.root.at? hp).2.fits
    exact ⟨hnode.order, hnode.now⟩
  above p q stamp below node hp hq := by
    rw [node?_eq_at?] at hp hq
    rw [Node.at?_append, hp] at hq
    exact ((h.root.at? hp).2.at? hq).2.fits.since
  walked := h.mem_nodes_iff
  looked x hx := by
    rw [get?, Path.split_absolute (h.names_of_mem_nodes hx)]
    exact ((h.mem_nodes_iff x.1 x.2).1 hx).2
  once := h.nodup_nodes
  listed := by
    have hroot (n : String) : "" ++ "/" ++ n = Path.absolute ([] ++ [n]) := rfl
    exact Forest.listing_eq hroot t.entries

end Sound

/-- Every operation leaves a well-formed tree, whether it fails or not, if the clock does not go back. -/
theorem wellFormed_of_reachableBy (h : t.ReachableBy now) : t.WellFormed now := h.sound.wellFormed

def tenReadings (start : Int) (i : Nat) : Int := start + min (i : Int) 9

theorem readings_tenReadings {now start : Int} (h : now ≤ start) : Readings (tenReadings start) now (start + 9) where
  first := by simpa [tenReadings] using h
  next i := by
    rw [tenReadings, tenReadings]
    omega
  last i := by
    rw [tenReadings]
    omega

def drafted : Tree :=
  let t : Tree := ⟨⟨"/", 0, 1⟩, .nil⟩
  let t := ((FileOp.write "/notes\\july//draft.txt" "one").performBy (tenReadings 10) t).1
  let t := ((FileOp.rename "/notes/july/draft.txt" "notes/final.txt").performBy (tenReadings 20) t).1
  let t := ((FileOp.mkdir "/notes/final.txt/old").performBy (tenReadings 30) t).1
  ((FileOp.touch "/notes").performBy (tenReadings 40) t).1

theorem wellFormed_drafted : drafted.ReachableBy 49 ∧ drafted.WellFormed 49 ∧ drafted.listing =
    [⟨"/notes", true, 0, 10, 40⟩, ⟨"/notes/final.txt", false, 3, 20, 21⟩, ⟨"/notes/july", true, 0, 12, 13⟩] := by
  have hroot : ReachableBy 1 ⟨⟨"/", 0, 1⟩, .nil⟩ := .root (by decide) (by decide)
  have hdraft := hroot.step (.write "/notes\\july//draft.txt" "one")
    (readings_tenReadings (by decide : (1 : Int) ≤ 10))
  have hfinal := hdraft.step (.rename "/notes/july/draft.txt" "notes/final.txt")
    (readings_tenReadings (by decide : (19 : Int) ≤ 20))
  have hfails := hfinal.step (.mkdir "/notes/final.txt/old") (readings_tenReadings (by decide : (29 : Int) ≤ 30))
  have htouch := hfails.step (.touch "/notes") (readings_tenReadings (by decide : (39 : Int) ≤ 40))
  exact ⟨htouch, wellFormed_of_reachableBy htouch, by decide +kernel⟩

end Tree

end Terminal
