import Terminal.Proofs.Removal.Recursive

namespace Terminal

open Commands

theorem Path.split_of_canonical {path : String} (h : Canonical path) :
    (∀ part ∈ split path, IsComponent part) ∧ absolute (split path) = path := by
  obtain ⟨parts, hparts, rfl⟩ := h
  rw [split_absolute (isName_of_isComponent hparts)]
  exact ⟨hparts, rfl⟩

theorem Path.length_absolute_lt_of_prefix {a b : List String} (h : a <+: b) (hne : a ≠ b)
    (hb : ∀ part ∈ b, IsName part) : (absolute a).length < (absolute b).length := by
  obtain ⟨rest, rfl⟩ := h
  cases rest with
  | nil => exact absurd (List.append_nil a).symm hne
  | cons name rest =>
      have hlt : (absolute a).length < (absolute (a ++ [name])).length := length_absolute_lt (hb name (by simp))
      have hle : (absolute (a ++ [name])).length ≤ (absolute (a ++ [name] ++ rest)).length :=
        length_absolute_le fun part hp => hb part (by simp [hp])
      rw [List.append_assoc, List.singleton_append] at hle
      omega

namespace Tree

/-- Every path from `base` down is listed once, and no path before one that is below it. -/
structure Sweeps (t : Tree) (base : List String) (ps : List (List String)) : Prop where
  nodup : ps.Nodup
  mem : ∀ q, q ∈ ps ↔ base <+: q ∧ (t.item? q).isSome
  upward : ps.Pairwise fun a b => ¬ a <+: b

namespace Sweeps

variable {t : Tree} {base q : List String} {ps before after : List (List String)}

theorem isSome (h : t.Sweeps base ps) (hq : q ∈ ps) : (t.item? q).isSome := ((h.mem q).1 hq).2

theorem mem_before (h : t.Sweeps base (before ++ q :: after)) {r : List String} (hr : r ≠ [])
    (hitem : (t.item? (q ++ r)).isSome) : q ++ r ∈ before := by
  have hbase : base <+: q := ((h.mem q).1 (by simp)).1
  have hmem := (h.mem (q ++ r)).2 ⟨hbase.trans (List.prefix_append q r), hitem⟩
  have hafter := (List.pairwise_cons.1 (List.pairwise_append.1 h.upward).2.1).1
  rcases List.mem_append.1 hmem with hb | hb
  · exact hb
  · rcases List.mem_cons.1 hb with he | hb
    · exact absurd (List.append_right_eq_self.1 he) hr
    · exact absurd (List.prefix_append q r) (hafter _ hb)

theorem not_mem_before (h : t.Sweeps base (before ++ q :: after)) {p : List String} (hp : p <+: q) : p ∉ before :=
  fun hb => (List.pairwise_append.1 h.upward).2.2 p hb q List.mem_cons_self hp

theorem upward_before (h : t.Sweeps base (before ++ q :: after)) : t.Upward before := by
  rintro before' p after' rfl name hname
  have hsplit : before' ++ p :: after' ++ q :: after = before' ++ p :: (after' ++ q :: after) := by simp
  exact (hsplit ▸ h).mem_before (List.cons_ne_nil name []) hname

theorem exists_clearEach (h : t.Sweeps base (before ++ q :: after)) (ht : t.Reachable) :
    ∃ t', t.clearEach (before.map Path.absolute) = (t', .ok ()) ∧ (t'.item? q).isSome ∧
      (∀ name, t'.item? (q ++ [name]) = none) ∧ ∃ stamp, t'.item? q.dropLast = some (.dir stamp) := by
  have hmem (p : List String) (hp : p ∈ before) : p ∈ before ++ q :: after := List.mem_append_left _ hp
  have hne (p : List String) (hp : p ∈ before) : p ≠ [] := by
    rintro rfl
    exact h.not_mem_before List.nil_prefix hp
  obtain ⟨t', hclear, -, hitem⟩ := clearEach_upward ht.ordered (fun p hp => ht.isName (h.isSome (hmem p hp)))
    (fun p hp => ⟨hne p hp, h.isSome (hmem p hp)⟩) (List.nodup_append.1 h.nodup).1 h.upward_before
  refine ⟨t', hclear, ?_, fun name => ?_, ?_⟩
  · rw [hitem, if_neg (h.not_mem_before (List.prefix_refl q))]
    exact h.isSome (by simp)
  · rw [hitem]
    split
    · rfl
    · rename_i hnot
      exact Option.not_isSome_iff_eq_none.1 fun hsome => hnot (h.mem_before (List.cons_ne_nil name []) hsome)
  · rw [hitem, if_neg (h.not_mem_before (List.dropLast_prefix q))]
    have hself := h.isSome (q := q) (by simp)
    rcases List.eq_nil_or_concat' q with rfl | ⟨front, name, rfl⟩
    · exact ⟨t.stamp, rfl⟩
    · rw [List.dropLast_concat]
      exact t.exists_item?_dir (List.cons_ne_nil name []) hself

end Sweeps

end Tree

namespace Commands

variable {v : View} {path : String}

def spelledLonger (a b : List String) : Bool := longerFirst (Path.absolute a) (Path.absolute b)

theorem map_mergeSort_spelledLonger (ps : List (List String)) :
    (ps.mergeSort spelledLonger).map Path.absolute = (ps.map Path.absolute).mergeSort longerFirst :=
  List.map_mergeSort fun _ _ _ _ => rfl

theorem pairwise_mergeSort_spelledLonger (ps : List (List String)) :
    (ps.mergeSort spelledLonger).Pairwise fun a b => (Path.absolute b).length ≤ (Path.absolute a).length := by
  have h := List.pairwise_mergeSort
    (fun a b c => longerFirst_trans (Path.absolute a) (Path.absolute b) (Path.absolute c))
    (fun a b => longerFirst_total (Path.absolute a) (Path.absolute b)) ps
  exact h.imp fun hle => by rwa [longerFirst, decide_eq_true_eq] at hle

theorem mem_base_or_paths_iff {stamp : Stamp} {below : Forest} (hf : v.files.Reachable)
    (hat : v.files.root.at? (Path.split path) = some (.dir stamp below)) (q : List String) :
    q ∈ Path.split path :: below.paths (Path.split path) ↔ Path.split path <+: q ∧ (v.files.item? q).isSome := by
  rw [List.mem_cons, mem_paths_split_iff hf hat]
  constructor
  · rintro (rfl | ⟨r, -, rfl, hsome⟩)
    · exact ⟨List.prefix_refl _, by rw [item?_split_of_at? hat]; rfl⟩
    · exact ⟨List.prefix_append _ r, hsome⟩
  · rintro ⟨⟨r, rfl⟩, hsome⟩
    by_cases hr : r = []
    · exact .inl (by rw [hr, List.append_nil])
    · exact .inr ⟨r, hr, rfl, hsome⟩

theorem exists_sweep (hf : v.files.Reachable)
    (hplain : ∀ q, (v.files.item? q).isSome → ∀ part ∈ q, Path.IsPlain part) (hpath : Path.Canonical path)
    (hdir : v.files.isDir path = true) :
    ∃ ps, victims v path = some (ps.map Path.absolute) ∧ v.files.Sweeps (Path.split path) ps := by
  obtain ⟨hc, hself⟩ := Path.split_of_canonical hpath
  obtain ⟨stamp, hitem⟩ := (v.files.isDir_iff path).1 hdir
  obtain ⟨below, hat⟩ := Node.at?_of_item?_dir _ hitem
  have hres : v.resolve path = path := by rw [← hself, View.resolve, Path.resolve_absolute]
  have hwalk := walk_directory hf hres hc (fun rest hrest part hp => hplain _ hrest part (by simp [hp])) hat
  have hroot : v.files.root.Ordered := hf.ordered
  have hbelow : below.Ordered := hroot.at? hat
  have hperm := List.mergeSort_perm (Path.split path :: below.paths (Path.split path)) spelledLonger
  have hnodup : ((Path.split path :: below.paths (Path.split path)).mergeSort spelledLonger).Nodup :=
    hperm.nodup_iff.2 (List.nodup_cons.2 ⟨hbelow.not_mem_paths_self _, hbelow.nodup_paths _⟩)
  have hmem (q : List String) := hperm.mem_iff.trans (mem_base_or_paths_iff hf hat q)
  have hsorted := pairwise_mergeSort_spelledLonger (Path.split path :: below.paths (Path.split path))
  refine ⟨_, ?_, hnodup, hmem, ?_⟩
  · rw [victims, hwalk, Option.map_some, map_mergeSort_spelledLonger, List.map_cons, hself]
    rfl
  · -- a path is longer than those above it, so it does not come later
    refine (hsorted.and hnodup).imp_of_mem fun {a b} ha hb hab hpre => ?_
    have hlt := Path.length_absolute_lt_of_prefix hpre hab.2 (hf.isName ((hmem b).1 hb).2)
    exact absurd hab.1 (Nat.not_le.2 hlt)

section Command

variable (emit : Session.Emit) (prior : List String) {s : Session}

theorem run_removeAll_append (label : String) {before : List (List String)} {t : Tree}
    (h : s.files.clearEach (before.map Path.absolute) = (t, .ok ())) (rest : List (List String)) :
    (removeAll label ((before ++ rest).map Path.absolute)).run (Session.perform emit prior) s =
      (removeAll label (rest.map Path.absolute)).run (Session.perform emit prior) { s with files := t } := by
  have hresolve (ps : List (List String)) : ∀ b ∈ ps.map Path.absolute, Path.resolve s.cwd b = b := by
    intro b hb
    obtain ⟨q, -, rfl⟩ := List.mem_map.1 hb
    exact Path.resolve_absolute s.cwd q
  rw [run_removeAll emit prior label (hresolve _),
    run_removeAll emit prior label (s := { s with files := t }) (hresolve rest), List.map_append,
    Tree.clearEach_append h]

/-- The victims of a directory are all paths from it down, each once and after what is below it. By its turn each of
them is still there, with nothing below it and in a directory. -/
theorem victims_in_order (hf : s.files.Reachable)
    (hplain : ∀ q, (s.files.item? q).isSome → ∀ part ∈ q, Path.IsPlain part) (hpath : Path.Canonical path)
    (hdir : s.files.isDir path = true) :
    ∃ ps, victims (s.view prior) path = some (ps.map Path.absolute) ∧
      s.files.Sweeps (Path.split path) ps ∧ (∀ q ∈ ps, Path.Canonical (Path.absolute q)) ∧
      (∀ args typed rest, Arguments.positional args = typed :: rest → args.contains "-r" = true →
        Path.resolve s.cwd typed = path →
        (rm args).run (Session.perform emit prior) s =
          (removeAll ("rm: " ++ typed) (ps.map Path.absolute)).run (Session.perform emit prior) s) ∧
      ∀ before q after, ps = before ++ q :: after → ∃ t,
        (∀ label, (removeAll label (ps.map Path.absolute)).run (Session.perform emit prior) s =
          (removeAll label ((q :: after).map Path.absolute)).run (Session.perform emit prior) { s with files := t }) ∧
        t.exists? (Path.absolute q) = true ∧ t.list (Path.absolute q) = [] ∧
        t.isDir (Path.parent (Path.absolute q)) = true := by
  obtain ⟨ps, hvictims, hsweep⟩ := exists_sweep (v := s.view prior) hf hplain hpath hdir
  refine ⟨ps, hvictims, hsweep, fun q hq => ?_, fun args typed rest hargs hr hresolve => ?_, ?_⟩
  · have hitem := hsweep.isSome hq
    exact ⟨q, fun part hp => Path.isComponent_iff.2 ⟨hf.isName hitem part hp, hplain q hitem part hp⟩, rfl⟩
  · have hself : (s.view prior).resolve path = path := by
      rw [← (Path.split_of_canonical hpath).2, View.resolve, Path.resolve_absolute]
    have hview : (s.view prior).isDir (Path.resolve s.cwd typed) = true := by
      rw [hresolve, View.isDir, hself]
      exact hdir
    rw [run_rm_directory emit prior hargs hr hview, hresolve, hvictims]
  · rintro before q after rfl
    obtain ⟨t, hclear, hself, hleaf, stamp, hparent⟩ := hsweep.exists_clearEach hf
    have hnames := hf.isName (hsweep.isSome (q := q) (by simp))
    have hsplit : Path.split (Path.absolute q) = q := Path.split_absolute hnames
    refine ⟨t, fun label => run_removeAll_append emit prior label hclear _, ?_, ?_, ?_⟩
    · rw [Tree.exists?_eq, hsplit]
      exact hself
    · refine List.eq_nil_iff_forall_not_mem.2 fun name hname => ?_
      rw [Tree.mem_list, hsplit, hleaf] at hname
      cases hname
    · have hup : Path.split (Path.parent (Path.absolute q)) = q.dropLast := by
        rw [Path.parent, hsplit, Path.split_absolute fun part hp => hnames part (List.mem_of_mem_dropLast hp)]
      exact (t.isDir_iff _).2 ⟨stamp, by rw [hup, hparent]⟩

theorem nested_in_order : (Session.after ["mkdir -p /a/bb/c", "touch /a/b"]).files.Reachable ∧ Path.Canonical "/a" ∧
    ∃ ps, victims ((Session.after ["mkdir -p /a/bb/c", "touch /a/b"]).view []) "/a" = some (ps.map Path.absolute) ∧
      (Session.after ["mkdir -p /a/bb/c", "touch /a/b"]).files.Sweeps ["a"] ps ∧ ["a", "bb", "c"] ∈ ps := by
  have hfiles := Session.reachable_after ["mkdir -p /a/bb/c", "touch /a/b"]
  have hplain := plain_of_paths (t := (Session.after ["mkdir -p /a/bb/c", "touch /a/b"]).files) (by decide +kernel)
  have hpath : Path.Canonical "/a" := ⟨["a"], by simp [Path.isComponent_iff, Path.IsName]; decide, by decide +kernel⟩
  have hsplit : Path.split "/a" = ["a"] := by decide +kernel
  obtain ⟨ps, hvictims, hsweep, -⟩ :=
    victims_in_order Session.emit [] hfiles hplain hpath (by decide +kernel)
  rw [hsplit] at hsweep
  refine ⟨hfiles, hpath, ps, hvictims, hsweep, (hsweep.mem _).2 ⟨by decide, by decide +kernel⟩⟩

end Command

end Commands

end Terminal
