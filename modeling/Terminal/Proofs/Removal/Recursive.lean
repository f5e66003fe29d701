import Terminal.Proofs.Files.Clearing
import Terminal.Proofs.Removal.Ending

/-!
What `rm -r` leaves behind. Longer paths are removed first, so everything below the directory goes before what it
is in. The directory itself may come too early, because its path is spelled as it was typed.
-/

namespace Terminal

theorem Path.length_absolute_le {parts rest : List String} (h : ∀ part ∈ rest, IsName part) :
    (absolute parts).length ≤ (absolute (parts ++ rest)).length := by
  induction rest generalizing parts with
  | nil => rw [List.append_nil]
  | cons part rest ih =>
      have hpart : (absolute parts).length < (absolute (parts ++ [part])).length :=
        length_absolute_lt (h part (List.mem_cons_self ..))
      have hrest : (absolute (parts ++ [part])).length ≤ (absolute (parts ++ [part] ++ rest)).length :=
        ih fun q hq => h q (List.mem_cons_of_mem _ hq)
      rw [List.append_assoc, List.singleton_append] at hrest
      omega

namespace Commands

def removalResult (label : String) : Except FileError Unit → Result
  | .ok () => {}
  | .error e => .ofLines [label ++ ": " ++ e.message]

section Run

variable (emit : Session.Emit) (prior : List String)

theorem perform_clear {s : Session} {path : String} (h : Path.resolve s.cwd path = path) :
    Session.perform emit prior
        (.change (if (s.view prior).isDir path then .rmdir path else .rm path)) s =
      ((s.files.clear path).2, { s with files := (s.files.clear path).1 }) := by
  have hview : (s.view prior).isDir path = s.files.isDir path := congrArg s.files.isDir h
  rw [hview, Tree.clear]
  cases s.files.isDir path with
  | true =>
      have hop : (FileOp.rmdir path).resolve s.cwd = .rmdir path := congrArg FileOp.rmdir h
      exact congrArg s.edit hop
  | false =>
      have hop : (FileOp.rm path).resolve s.cwd = .rm path := congrArg FileOp.rm h
      exact congrArg s.edit hop

theorem run_removeAll (label : String) {paths : List String} {s : Session}
    (h : ∀ path ∈ paths, Path.resolve s.cwd path = path) :
    (removeAll label paths).run (Session.perform emit prior) s =
      (.done (some (removalResult label (s.files.clearEach paths).2)),
        { s with files := (s.files.clearEach paths).1 }) := by
  induction paths generalizing s with
  | nil => rfl
  | cons path paths ih =>
      have hclear := perform_clear emit prior (h path (List.mem_cons_self ..))
      rw [removeAll, Script.run]
      dsimp only [Session.perform]
      rw [changing, Script.run, hclear]
      rcases hstep : s.files.clear path with ⟨t, outcome⟩
      cases outcome with
      | ok done =>
          rw [Tree.clearEach_cons_ok hstep]
          exact ih (s := { s with files := t }) fun p hp => h p (List.mem_cons_of_mem _ hp)
      | error e =>
          rw [Tree.clearEach_cons_error hstep]
          rfl

end Run

def longerFirst (a b : String) : Bool := b.length ≤ a.length

theorem longerFirst_trans (a b c : String) (hab : longerFirst a b = true) (hbc : longerFirst b c = true) :
    longerFirst a c = true := by
  simp only [longerFirst, decide_eq_true_eq] at *
  omega

theorem longerFirst_total (a b : String) : (longerFirst a b || longerFirst b a) = true := by
  simp only [longerFirst, Bool.or_eq_true, decide_eq_true_eq]
  omega

theorem exists_mergeSort_cons (path : String) (rest : List String) :
    ∃ before after, (path :: rest).mergeSort longerFirst = before ++ path :: after ∧
      (before ++ after).Perm rest ∧ (∀ b ∈ before, path.length < b.length) ∧
      (∀ b ∈ after, b.length ≤ path.length) ∧ before.Pairwise fun a b => b.length ≤ a.length := by
  obtain ⟨before, after, hsort, hrest, hbefore⟩ :=
    List.mergeSort_cons longerFirst_trans longerFirst_total path rest
  have hsorted := List.pairwise_mergeSort longerFirst_trans longerFirst_total (path :: rest)
  rw [hsort, List.pairwise_append, List.pairwise_cons] at hsorted
  obtain ⟨hpairs, ⟨hafter, -⟩, -⟩ := hsorted
  refine ⟨before, after, hsort, hrest ▸ List.mergeSort_perm rest longerFirst, fun b hb => ?_, fun b hb => ?_, ?_⟩
  · have hlt := hbefore b hb
    simp only [longerFirst, Bool.not_eq_true', decide_eq_false_iff_not] at hlt
    omega
  · have hle := hafter b hb
    simpa only [longerFirst, decide_eq_true_eq] using hle
  · refine hpairs.imp fun {a b} hab => ?_
    simpa only [longerFirst, decide_eq_true_eq] using hab

structure Ranked (v : View) (path : String) (below : Forest) (ps : List (List String))
    (after : List String) : Prop where
  victims : victims v path = some (ps.map Path.absolute ++ path :: after)
  nodup : ps.Nodup
  mem : ∀ q, q ∈ ps ↔ q ∈ below.paths (Path.split path) ∧ path.length < (Path.absolute q).length
  after : ∀ b ∈ after, ∃ q ∈ below.paths (Path.split path), b = Path.absolute q ∧ b.length ≤ path.length
  sorted : ps.Pairwise fun a b => (Path.absolute b).length ≤ (Path.absolute a).length

section Directory

variable {v : View} {path : String} {stamp : Stamp} {below : Forest} (hf : v.files.Reachable)
  (hplain : ∀ q, (v.files.item? q).isSome → ∀ part ∈ q, Path.IsPlain part)
  (hres : v.resolve path = path)
  (hat : v.files.root.at? (Path.split path) = some (.dir stamp below))
include hf hat

theorem mem_paths_split_iff (q : List String) :
    q ∈ below.paths (Path.split path) ↔
      ∃ r, r ≠ [] ∧ q = Path.split path ++ r ∧ (v.files.item? q).isSome := by
  have hroot : v.files.root.Ordered := hf.ordered
  rw [(hroot.at? hat).mem_paths_iff stamp]
  refine exists_congr fun r => and_congr_right fun _ => and_congr_right fun hq => ?_
  rw [hq, Tree.item?, Node.item?_append, hat, Option.bind_some]

theorem isName_of_mem_paths {q : List String} (hq : q ∈ below.paths (Path.split path)) :
    ∀ part ∈ q, Path.IsName part := by
  obtain ⟨r, -, -, hitem⟩ := (mem_paths_split_iff hf hat q).1 hq
  exact hf.isName hitem

omit hf in
theorem item?_split_of_at? : v.files.item? (Path.split path) = some (.dir stamp) := by
  rw [Tree.item?, Node.item?, hat]
  rfl

theorem exists_ranked (hplain : ∀ q, (v.files.item? q).isSome → ∀ part ∈ q, Path.IsPlain part)
    (hres : v.resolve path = path) : ∃ ps after, Ranked v path below ps after := by
  have hself : (v.files.item? (Path.split path)).isSome := by
    rw [item?_split_of_at? hat]
    rfl
  have hc (part : String) (hp : part ∈ Path.split path) : Path.IsComponent part :=
    Path.isComponent_iff.2 ⟨hf.isName hself part hp, hplain _ hself part hp⟩
  have hwalk := walk_directory hf hres hc (fun rest hr part hp => hplain _ hr part (by simp [hp])) hat
  obtain ⟨before, after, hsort, hperm, hbefore, hafter, hpairs⟩ :=
    exists_mergeSort_cons path ((below.paths (Path.split path)).map Path.absolute)
  have hmem (b : String) (hb : b ∈ before ++ after) :
      ∃ q ∈ below.paths (Path.split path), Path.absolute q = b := List.mem_map.1 (hperm.mem_iff.1 hb)
  have hback (b : String) (hb : b ∈ before) : Path.absolute (Path.split b) = b := by
    obtain ⟨q, hq, rfl⟩ := hmem b (List.mem_append_left _ hb)
    rw [Path.split_absolute (isName_of_mem_paths hf hat hq)]
  have hmap : (before.map Path.split).map Path.absolute = before := by
    rw [List.map_map]
    exact (List.map_congr_left hback).trans (List.map_id before)
  have hroot : v.files.root.Ordered := hf.ordered
  have habsolute : ((below.paths (Path.split path)).map Path.absolute).Nodup :=
    List.Nodup.map_on (fun p hp q hq => Path.absolute_inj (isName_of_mem_paths hf hat hp)
      (isName_of_mem_paths hf hat hq)) ((hroot.at? hat).nodup_paths _)
  have hnodup : (before.map Path.split).Nodup := by
    refine List.Nodup.of_map Path.absolute ?_
    rw [hmap]
    exact (List.nodup_append.1 (hperm.nodup_iff.2 habsolute)).1
  refine ⟨before.map Path.split, after, ⟨?_, hnodup, fun q => ?_, fun b hb => ?_, ?_⟩⟩
  · rw [Commands.victims, hwalk, Option.map_some, hmap]
    exact congrArg some hsort
  · constructor
    · intro hq
      obtain ⟨b, hb, rfl⟩ := List.mem_map.1 hq
      obtain ⟨p, hp, rfl⟩ := hmem b (List.mem_append_left _ hb)
      rw [Path.split_absolute (isName_of_mem_paths hf hat hp)]
      exact ⟨hp, hbefore _ hb⟩
    · rintro ⟨hq, hlt⟩
      have hall : Path.absolute q ∈ before ++ after := hperm.mem_iff.2 (List.mem_map_of_mem hq)
      rcases List.mem_append.1 hall with hb | hb
      · refine List.mem_map.2 ⟨_, hb, Path.split_absolute (isName_of_mem_paths hf hat hq)⟩
      · exact absurd hlt (Nat.not_lt.2 (hafter _ hb))
  · obtain ⟨q, hq, rfl⟩ := hmem b (List.mem_append_right _ hb)
    exact ⟨q, hq, rfl, hafter _ hb⟩
  · rw [List.pairwise_map]
    refine hpairs.imp_of_mem fun {a b} ha hb hab => ?_
    rw [hback a ha, hback b hb]
    exact hab

theorem Ranked.upward {ps : List (List String)} {after : List String}
    (h : Ranked v path below ps after) : v.files.Upward ps := by
  intro before q rest hps name hname
  obtain ⟨hq, hlong⟩ := (h.mem q).1 (by simp [hps])
  obtain ⟨r, hr, hsplit, -⟩ := (mem_paths_split_iff hf hat q).1 hq
  have hisName : Path.IsName name := hf.isName hname name (by simp)
  have hlt : (Path.absolute q).length < (Path.absolute (q ++ [name])).length := Path.length_absolute_lt hisName
  have hchild : q ++ [name] ∈ ps := by
    refine (h.mem _).2 ⟨(mem_paths_split_iff hf hat _).2 ⟨r ++ [name], by simp, ?_, hname⟩, by omega⟩
    rw [hsplit, List.append_assoc]
  rw [hps] at hchild
  rcases List.mem_append.1 hchild with hb | hb
  · exact hb
  · rcases List.mem_cons.1 hb with he | hb
    · simp at he
    · have hsorted := h.sorted
      rw [hps, List.pairwise_append, List.pairwise_cons] at hsorted
      have hle := hsorted.2.1.1 _ hb
      omega

theorem Ranked.clear_before {ps : List (List String)} {after : List String}
    (h : Ranked v path below ps after) :
    ∃ t, v.files.clearEach (ps.map Path.absolute) = (t, .ok ()) ∧ t.Ordered ∧
      ∀ q, t.item? q = if Path.split path <+: q ∧ q ≠ Path.split path ∧ path.length < (Path.absolute q).length
        then none else v.files.item? q := by
  have hsome (q : List String) (hq : q ∈ ps) : q ≠ [] ∧ (v.files.item? q).isSome := by
    obtain ⟨r, hr, hsplit, hitem⟩ := (mem_paths_split_iff hf hat q).1 ((h.mem q).1 hq).1
    refine ⟨?_, hitem⟩
    rw [hsplit]
    simp [hr]
  obtain ⟨t, hclear, ht, hitem⟩ := Tree.clearEach_upward hf.ordered
    (fun q hq => isName_of_mem_paths hf hat ((h.mem q).1 hq).1) hsome h.nodup (h.upward hf hat)
  refine ⟨t, hclear, ht, fun q => ?_⟩
  rw [hitem]
  by_cases hq : q ∈ ps
  · obtain ⟨hmem, hlong⟩ := (h.mem q).1 hq
    obtain ⟨r, hr, hsplit, -⟩ := (mem_paths_split_iff hf hat q).1 hmem
    have hpre : Path.split path <+: q := ⟨r, hsplit.symm⟩
    have hne : q ≠ Path.split path := by
      rw [hsplit]
      simp [hr]
    rw [if_pos hq, if_pos ⟨hpre, hne, hlong⟩]
  · rw [if_neg hq]
    split
    · rename_i hcond
      obtain ⟨⟨r, rfl⟩, hne, hlong⟩ := hcond
      cases hitem : v.files.item? (Path.split path ++ r) with
      | none => rfl
      | some item =>
          have hr : r ≠ [] := by
            rintro rfl
            exact hne (List.append_nil _)
          have hmem := (mem_paths_split_iff hf hat _).2 ⟨r, hr, rfl, by rw [hitem]; rfl⟩
          exact absurd ((h.mem _).2 ⟨hmem, hlong⟩) hq
    · rfl

omit hf hat in
theorem Ranked.resolve {ps : List (List String)} {after : List String} (h : Ranked v path below ps after)
    (hres : v.resolve path = path) : ∀ b ∈ ps.map Path.absolute ++ path :: after, v.resolve b = b := by
  intro b hb
  rcases List.mem_append.1 hb with hb | hb
  · obtain ⟨q, -, rfl⟩ := List.mem_map.1 hb
    exact Path.resolve_absolute _ q
  · rcases List.mem_cons.1 hb with rfl | hb
    · exact hres
    · obtain ⟨q, -, rfl, -⟩ := h.after b hb
      exact Path.resolve_absolute _ q

end Directory

/-- The path is typed in fewer characters than the paths of all that it holds. -/
def Terse (t : Tree) (path : String) : Prop :=
  ∀ name ∈ t.list path, path.length < (Path.absolute (Path.split path ++ [name])).length

instance (t : Tree) (path : String) : Decidable (Terse t path) :=
  inferInstanceAs (Decidable (∀ name ∈ t.list path,
    path.length < (Path.absolute (Path.split path ++ [name])).length))

section Clear

variable {v : View} {path : String} (hf : v.files.Reachable)
  (hplain : ∀ q, (v.files.item? q).isSome → ∀ part ∈ q, Path.IsPlain part)
  (hres : v.resolve path = path) (hdir : v.files.isDir path = true)
include hf hplain hres hdir

omit hplain hres hdir in
theorem length_lt_of_terse (hterse : Terse v.files path) {r : List String} (hr : r ≠ [])
    (hitem : (v.files.item? (Path.split path ++ r)).isSome) :
    path.length < (Path.absolute (Path.split path ++ r)).length := by
  cases r with
  | nil => exact absurd rfl hr
  | cons name r =>
      have hsplit : Path.split path ++ name :: r = (Path.split path ++ [name]) ++ r := by simp
      rw [hsplit] at hitem ⊢
      have hchild : (v.files.item? (Path.split path ++ [name])).isSome := by
        by_cases hnil : r = []
        · rwa [hnil, List.append_nil] at hitem
        · obtain ⟨stamp, hparent⟩ := v.files.exists_item?_dir hnil hitem
          rw [hparent]
          rfl
      have hlt := hterse name ((v.files.mem_list path name).2 hchild)
      have hle : (Path.absolute (Path.split path ++ [name])).length ≤
          (Path.absolute (Path.split path ++ [name] ++ r)).length :=
        Path.length_absolute_le fun part hp => hf.isName hitem part (List.mem_append_right _ hp)
      omega

theorem clearEach_victims_of_terse (hterse : Terse v.files path) :
    ∃ paths t, victims v path = some paths ∧ (∀ b ∈ paths, v.resolve b = b) ∧
      v.files.clearEach paths = (t, .ok ()) ∧
      ∀ q, t.item? q = if Path.split path <+: q ∧ q ≠ [] then none else v.files.item? q := by
  obtain ⟨stamp, hself⟩ := (v.files.isDir_iff path).1 hdir
  obtain ⟨below, hat⟩ := Node.at?_of_item?_dir _ hself
  obtain ⟨ps, after, h⟩ := exists_ranked hf hat hplain hres
  obtain ⟨t, hclear, ht, hitem⟩ := h.clear_before hf hat
  have hafter : after = [] := by
    refine List.eq_nil_iff_forall_not_mem.2 fun b hb => ?_
    obtain ⟨q, hq, rfl, hle⟩ := h.after b hb
    obtain ⟨r, hr, rfl, hsome⟩ := (mem_paths_split_iff hf hat q).1 hq
    have hlt := length_lt_of_terse hf hterse hr hsome
    omega
  have hsame : t.item? (Path.split path) = some (.dir stamp) := by
    rw [hitem, if_neg fun hcond => hcond.2.1 rfl, hself]
  have hleaf (name : String) : t.item? (Path.split path ++ [name]) = none := by
    rw [hitem]
    split
    · rfl
    · rename_i hcond
      cases hchild : v.files.item? (Path.split path ++ [name]) with
      | none => rfl
      | some item =>
          have hlt := length_lt_of_terse hf hterse (List.cons_ne_nil name []) (by rw [hchild]; rfl)
          exact absurd ⟨List.prefix_append _ _, by simp, hlt⟩ hcond
  obtain ⟨t', hlast, -, hitem'⟩ := Tree.clear_childless ht (by rw [hsame]; rfl) hleaf
  refine ⟨_, t', h.victims, h.resolve hres, ?_, fun q => ?_⟩
  · rw [Tree.clearEach_append hclear, hafter, Tree.clearEach_cons_ok hlast]
    rfl
  · rw [hitem', hitem]
    by_cases hq : Path.split path <+: q ∧ q ≠ []
    · rw [if_pos hq, if_pos hq]
    · rw [if_neg hq, if_neg hq, if_neg]
      rintro ⟨⟨r, rfl⟩, hne, -⟩
      exact hq ⟨List.prefix_append _ r, fun hnil => hne (by simp_all)⟩

theorem clearEach_victims_of_not_terse (hterse : ¬ Terse v.files path) :
    ∃ paths t, victims v path = some paths ∧ (∀ b ∈ paths, v.resolve b = b) ∧
      v.files.clearEach paths = (t, .error .notEmpty) ∧
      ∀ q, t.item? q = if Path.split path <+: q ∧ q ≠ Path.split path ∧ path.length < (Path.absolute q).length
        then none else v.files.item? q := by
  obtain ⟨stamp, hself⟩ := (v.files.isDir_iff path).1 hdir
  obtain ⟨below, hat⟩ := Node.at?_of_item?_dir _ hself
  obtain ⟨ps, after, h⟩ := exists_ranked hf hat hplain hres
  obtain ⟨t, hclear, ht, hitem⟩ := h.clear_before hf hat
  simp only [Terse, not_forall] at hterse
  obtain ⟨name, hname, hshort⟩ := hterse
  have hstays : (t.item? (Path.split path ++ [name])).isSome := by
    rw [hitem, if_neg fun hcond => hshort hcond.2.2]
    exact (v.files.mem_list path name).1 hname
  have hdir' : t.isDir path = true := by
    rw [t.isDir_iff]
    refine ⟨stamp, ?_⟩
    rw [hitem, if_neg fun hcond => hcond.2.1 rfl, hself]
  refine ⟨_, t, h.victims, h.resolve hres, ?_, hitem⟩
  rw [Tree.clearEach_append hclear, Tree.clearEach_cons_error (Tree.clear_not_empty hdir' hstays)]

end Clear

def Removed (s : Session) (path : String) (out : Script.Outcome (Option Result) × Session) : Prop :=
  ∃ t, out = (.done (some {}), { s with files := t }) ∧
    ∀ q, t.item? q = if Path.split path <+: q ∧ q ≠ [] then none else s.files.item? q

def Stopped (s : Session) (typed path : String) (out : Script.Outcome (Option Result) × Session) : Prop :=
  ∃ t, out = (.done (some (.ofLines ["rm: " ++ typed ++ ": " ++ "Directory not empty"])), { s with files := t }) ∧
    ∀ q, t.item? q = if Path.split path <+: q ∧ q ≠ Path.split path ∧ path.length < (Path.absolute q).length
      then none else s.files.item? q

section Command

variable (emit : Session.Emit) (prior : List String) {s : Session} (hf : s.files.Reachable)
  (hplain : ∀ q, (s.files.item? q).isSome → ∀ part ∈ q, Path.IsPlain part)
  (hcwd : Path.Canonical s.cwd) {args rest : List String} {typed : String}
  (hargs : Arguments.positional args = typed :: rest) (hr : args.contains "-r" = true)
  (hdir : s.files.isDir (Path.resolve s.cwd typed) = true)
include hf hplain hcwd hargs hr hdir

omit hf hplain in
theorem run_rm_victims {paths : List String} (h : victims (s.view prior) (Path.resolve s.cwd typed) = some paths)
    (hpaths : ∀ b ∈ paths, (s.view prior).resolve b = b) :
    (rm args).run (Session.perform emit prior) s =
      (.done (some (removalResult ("rm: " ++ typed) (s.files.clearEach paths).2)),
        { s with files := (s.files.clearEach paths).1 }) := by
  have hres : Path.resolve s.cwd (Path.resolve s.cwd typed) = Path.resolve s.cwd typed :=
    Path.resolve_of_startsWith (Path.startsWith_resolve hcwd typed)
  have hview : (s.view prior).isDir (Path.resolve s.cwd typed) = true :=
    (congrArg s.files.isDir hres).trans hdir
  rw [run_rm_directory emit prior hargs hr hview, h]
  exact run_removeAll emit prior ("rm: " ++ typed) hpaths

theorem rm_removed (h : Terse s.files (Path.resolve s.cwd typed)) :
    Removed s (Path.resolve s.cwd typed) ((rm args).run (Session.perform emit prior) s) := by
  have hres : (s.view prior).resolve (Path.resolve s.cwd typed) = Path.resolve s.cwd typed :=
    Path.resolve_of_startsWith (Path.startsWith_resolve hcwd typed)
  obtain ⟨paths, t, hvictims, hpaths, hclear, hitem⟩ :=
    clearEach_victims_of_terse (v := s.view prior) hf hplain hres hdir h
  refine ⟨t, ?_, hitem⟩
  have hclear' : s.files.clearEach paths = (t, .ok ()) := hclear
  rw [run_rm_victims emit prior hcwd hargs hr hdir hvictims hpaths, hclear']
  rfl

theorem rm_stopped (h : ¬ Terse s.files (Path.resolve s.cwd typed)) :
    Stopped s typed (Path.resolve s.cwd typed) ((rm args).run (Session.perform emit prior) s) := by
  have hres : (s.view prior).resolve (Path.resolve s.cwd typed) = Path.resolve s.cwd typed :=
    Path.resolve_of_startsWith (Path.startsWith_resolve hcwd typed)
  obtain ⟨paths, t, hvictims, hpaths, hclear, hitem⟩ :=
    clearEach_victims_of_not_terse (v := s.view prior) hf hplain hres hdir h
  refine ⟨t, ?_, hitem⟩
  have hclear' : s.files.clearEach paths = (t, .error .notEmpty) := hclear
  rw [run_rm_victims emit prior hcwd hargs hr hdir hvictims hpaths, hclear']
  rfl

/-- A directory is removed with everything below it exactly if its path is typed tersely. -/
theorem rm_recursive_iff :
    (Removed s (Path.resolve s.cwd typed) ((rm args).run (Session.perform emit prior) s) ↔
      Terse s.files (Path.resolve s.cwd typed)) ∧
    (Stopped s typed (Path.resolve s.cwd typed) ((rm args).run (Session.perform emit prior) s) ↔
      ¬ Terse s.files (Path.resolve s.cwd typed)) := by
  have hremoved := rm_removed emit prior hf hplain hcwd hargs hr hdir
  have hstopped := rm_stopped emit prior hf hplain hcwd hargs hr hdir
  have hnot : ¬ (Removed s (Path.resolve s.cwd typed) ((rm args).run (Session.perform emit prior) s) ∧
      Stopped s typed (Path.resolve s.cwd typed) ((rm args).run (Session.perform emit prior) s)) := by
    rintro ⟨⟨t, ht, -⟩, t', ht', -⟩
    have hresult := ht.symm.trans ht'
    cases hresult
  by_cases hterse : Terse s.files (Path.resolve s.cwd typed)
  · exact ⟨⟨fun _ => hterse, hremoved⟩, ⟨fun h => absurd ⟨hremoved hterse, h⟩ hnot, fun h => absurd hterse h⟩⟩
  · exact ⟨⟨fun h => absurd ⟨h, hstopped hterse⟩ hnot, fun h => absurd h hterse⟩, ⟨fun _ => hterse, hstopped⟩⟩

end Command

theorem plain_of_paths {t : Tree} (h : ∀ q ∈ [] :: t.entries.paths [], ∀ part ∈ q, Path.IsPlain part) :
    ∀ q, (t.item? q).isSome → ∀ part ∈ q, Path.IsPlain part := fun q hq => h q (Tree.mem_paths hq)

theorem rm_home_removed :
    Removed (Session.after []) "/home/"
      ((rm ["-r", "/home/"]).run (Session.perform Session.emit []) (Session.after [])) := by
  have hplain := plain_of_paths (t := (Session.after []).files) (by decide +kernel)
  have hcwd : Path.Canonical (Session.after []).cwd :=
    ⟨["home", "guest"], by simp [Path.isComponent_iff, Path.IsName]; decide, by decide +kernel⟩
  have hterse : Terse (Session.after []).files "/home/" := by decide +kernel
  have hargs : Arguments.positional ["-r", "/home/"] = ["/home/"] := by decide
  exact (rm_recursive_iff Session.emit [] (Session.reachable_after []) hplain hcwd hargs (by decide)
    (by decide +kernel)).1.2 hterse

/-- With two more slashes the path of a directory is longer than that of one of its entries. -/
theorem rm_of_long_spelling_stops :
    ((Session.after ["mkdir -p /a/longname", "touch /a/b"]).files.item? ["a", "longname"]).isSome ∧
      ∃ t, (rm ["-r", "/a///"]).run (Session.perform Session.emit [])
          (Session.after ["mkdir -p /a/longname", "touch /a/b"]) =
        (.done (some (.ofLines ["rm: /a///: Directory not empty"])),
          { Session.after ["mkdir -p /a/longname", "touch /a/b"] with files := t }) ∧
        t.item? ["a", "longname"] = none := by
  have hplain := plain_of_paths (t := (Session.after ["mkdir -p /a/longname", "touch /a/b"]).files)
    (by decide +kernel)
  have hcwd : Path.Canonical (Session.after ["mkdir -p /a/longname", "touch /a/b"]).cwd :=
    ⟨["home", "guest"], by simp [Path.isComponent_iff, Path.IsName]; decide, by decide +kernel⟩
  have hterse : ¬ Terse (Session.after ["mkdir -p /a/longname", "touch /a/b"]).files "/a///" := by
    decide +kernel
  have hargs : Arguments.positional ["-r", "/a///"] = ["/a///"] := by decide
  obtain ⟨t, hrun, hitem⟩ := rm_stopped Session.emit [] (Session.reachable_after _) hplain hcwd hargs
    (by decide) (by decide +kernel) hterse
  refine ⟨by decide +kernel, t, hrun, ?_⟩
  rw [hitem, if_pos (by decide)]

end Commands

end Terminal
