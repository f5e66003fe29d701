import Terminal.Proofs.Files.Operations
import Terminal.Proofs.Files.PathMap
import Terminal.Proofs.Files.Paths

namespace Terminal

def Item.entry : Item → Entry
  | file doc => .file doc.content
  | dir _ => .dir

theorem Item.entry_eq_dir {item : Item} : item.entry = .dir ↔ ∃ stamp, item = .dir stamp := by
  cases item <;> simp [entry]

theorem Item.entry_eq_file {item : Item} {content : String} :
    item.entry = .file content ↔ ∃ doc, item = .file doc ∧ doc.content = content := by
  cases item <;> simp [entry]

namespace Tree

theorem mem_paths {t : Tree} {p : List String} (h : (t.item? p).isSome) :
    p ∈ [] :: t.entries.paths [] := by
  cases p with
  | nil => exact List.mem_cons_self
  | cons name p =>
      obtain ⟨node, hf, hp⟩ := Node.isSome_item?_dir_cons.1 h
      exact List.mem_cons_of_mem _ (t.entries.mem_paths [] hf hp)

def pathMap (t : Tree) : PathMap where
  get? p := (t.item? p).map Item.entry
  keys := ([] :: t.entries.paths []).toFinset.filter fun p => (t.item? p).isSome
  mem_keys p := by
    rw [Finset.mem_filter, List.mem_toFinset, Option.isSome_map]
    exact ⟨And.right, fun h => ⟨mem_paths h, h⟩⟩
  root := rfl
  closed p name h := by
    rw [Option.isSome_map] at h
    obtain ⟨stamp, hp⟩ := t.exists_item?_dir (List.cons_ne_nil name []) h
    rw [hp]
    rfl

variable {t : Tree}

@[simp] theorem get?_pathMap (p : List String) : t.pathMap.get? p = (t.item? p).map Item.entry := rfl

theorem get?_pathMap_eq_none {p : List String} : t.pathMap.get? p = none ↔ t.item? p = none :=
  Option.map_eq_none_iff

theorem get?_pathMap_eq_dir {p : List String} :
    t.pathMap.get? p = some .dir ↔ ∃ stamp, t.item? p = some (.dir stamp) := by
  rw [get?_pathMap, Option.map_eq_some_iff]
  simp only [Item.entry_eq_dir]
  exact ⟨fun ⟨item, hp, stamp, he⟩ => ⟨stamp, he ▸ hp⟩, fun ⟨stamp, hp⟩ => ⟨_, hp, stamp, rfl⟩⟩

theorem get?_pathMap_eq_file {p : List String} {content : String} :
    t.pathMap.get? p = some (.file content) ↔
      ∃ doc, t.item? p = some (.file doc) ∧ doc.content = content := by
  rw [get?_pathMap, Option.map_eq_some_iff]
  simp only [Item.entry_eq_file]
  exact ⟨fun ⟨item, hp, doc, he, hc⟩ => ⟨doc, he ▸ hp, hc⟩, fun ⟨doc, hp, hc⟩ => ⟨_, hp, doc, rfl, hc⟩⟩

theorem blocked_pathMap (p : List String) : t.pathMap.Blocked p ↔ t.Blocked p := by
  refine exists_congr fun q => and_congr_right fun _ => ?_
  constructor
  · rintro ⟨content, h⟩
    obtain ⟨doc, hdoc, -⟩ := get?_pathMap_eq_file.1 h
    exact ⟨doc, hdoc⟩
  · rintro ⟨doc, hdoc⟩
    exact ⟨doc.content, get?_pathMap_eq_file.2 ⟨doc, hdoc, rfl⟩⟩

theorem map_entry_raised (now : Int) {p q : List String}
    (h : q <+: p → ∀ doc, t.item? q ≠ some (.file doc)) :
    (t.raised now p q).map Item.entry = if q <+: p then some .dir else t.pathMap.get? q := by
  rw [raised]
  split
  · rename_i hq
    cases hitem : t.item? q with
    | none => rfl
    | some item =>
        cases item with
        | file doc => exact absurd hitem (h hq doc)
        | dir stamp => rfl
  · rfl

/-- The step ends as the result on the map says, and a failed one leaves the tree as it is. -/
def Follows (t : Tree) (step : Step) : Except FileError.Kind PathMap → Prop
  | .ok m => ∃ t', step = (t', .ok ()) ∧ t'.Ordered ∧ t'.pathMap = m
  | .error kind => ∃ e, step = (t, .error e) ∧ e.kind = kind

theorem follows_done {t t' : Tree} {m : PathMap} (ht' : t'.Ordered)
    (h : ∀ q, (t'.item? q).map Item.entry = m.get? q) : t.Follows (t', .ok ()) (.ok m) :=
  ⟨t', rfl, ht', PathMap.ext h⟩

theorem follows_failed (t : Tree) (e : FileError) : t.Follows (t, .error e) (.error e.kind) := ⟨e, rfl, rfl⟩

theorem Follows.of_ok {t t' : Tree} {result : Except FileError.Kind PathMap}
    (h : t.Follows (t', .ok ()) result) : t'.Ordered ∧ result = .ok t'.pathMap := by
  cases result with
  | error kind =>
      obtain ⟨e, he, -⟩ := h
      cases he
  | ok m =>
      obtain ⟨u, hu, hord, rfl⟩ := h
      cases hu
      exact ⟨hord, rfl⟩

theorem Follows.of_error {t t' : Tree} {e : FileError} {result : Except FileError.Kind PathMap}
    (h : t.Follows (t', .error e) result) : t' = t ∧ result = .error e.kind := by
  cases result with
  | error kind =>
      obtain ⟨u, hu, rfl⟩ := h
      cases hu
      exact ⟨rfl, rfl⟩
  | ok m =>
      obtain ⟨u, hu, -⟩ := h
      cases hu

theorem Follows.ordered {t : Tree} {step : Step} {result : Except FileError.Kind PathMap}
    (h : t.Follows step result) (ht : t.Ordered) : step.1.Ordered := by
  cases result with
  | error kind =>
      obtain ⟨e, rfl, -⟩ := h
      exact ht
  | ok m =>
      obtain ⟨t', rfl, hord, -⟩ := h
      exact hord

theorem children_pathMap_eq_empty {p : List String} :
    t.pathMap.children p = ∅ ↔ ∀ n, t.item? (p ++ [n]) = none := by
  rw [Finset.eq_empty_iff_forall_notMem]
  refine forall_congr' fun n => ?_
  rw [PathMap.mem_children, get?_pathMap, Option.isSome_map]
  cases t.item? (p ++ [n]) <;> simp

section Perform

variable (now : Int) (ht : t.Ordered)
include ht

theorem follows_mkdir (path : String) :
    t.Follows (t.mkdir now path) (t.pathMap.mkdir (Path.split path)) := by
  rw [PathMap.mkdir]
  rcases mkdir_cases now ht path with ⟨hb, name, hd⟩ | ⟨hb, t', hd, hord, hitem⟩
  · rw [if_pos ((blocked_pathMap _).2 hb), hd]
    exact follows_failed t (.segmentIsFile name)
  · rw [if_neg fun h => hb ((blocked_pathMap _).1 h), hd]
    refine follows_done hord fun q => ?_
    rw [hitem]
    exact map_entry_raised now fun hq doc hdoc => hb ⟨q, hq, doc, hdoc⟩

theorem follows_write (path content : String) :
    t.Follows (t.write now path content) (t.pathMap.write (Path.split path) content) := by
  rw [PathMap.write]
  rcases write_cases now ht path content with
    ⟨hne, hw⟩ | ⟨hne, hb, name, hw⟩ | ⟨hne, hb, hdir, hw⟩ | ⟨hne, hb, hdir, t', hw, hord, hitem⟩
  · rw [dif_pos hne, hw]
    exact follows_failed t .invalidPath
  · rw [dif_neg hne, if_pos ((blocked_pathMap _).2 hb), hw]
    exact follows_failed t (.segmentIsFile name)
  · rw [dif_neg hne, if_neg fun h => hb ((blocked_pathMap _).1 h),
      dif_pos (get?_pathMap_eq_dir.2 hdir), hw]
    exact follows_failed t (.isDirectory path)
  · have hdir' : t.pathMap.get? (Path.split path) ≠ some .dir := fun h => by
      obtain ⟨stamp, hs⟩ := get?_pathMap_eq_dir.1 h
      exact hdir stamp hs
    rw [dif_neg hne, if_neg fun h => hb ((blocked_pathMap _).1 h), dif_neg hdir', hw]
    refine follows_done hord fun q => ?_
    rw [hitem]
    by_cases hq : q = Path.split path
    · subst hq
      rw [if_pos rfl, PathMap.get?_withFile, if_pos rfl]
      rfl
    · rw [if_neg hq, PathMap.get?_withFile, if_neg hq]
      refine map_entry_raised now fun hpre doc hdoc => hb ⟨q, ?_, doc, hdoc⟩
      rw [← List.dropLast_concat_getLast hne, List.prefix_concat_iff,
        List.dropLast_concat_getLast hne] at hpre
      exact hpre.resolve_left hq

theorem follows_append (path content : String) :
    t.Follows (t.append now path content) (t.pathMap.append (Path.split path) content) := by
  rw [PathMap.append]
  rcases append_cases now ht path content with
    ⟨hitem, ha⟩ | ⟨hdir, ha⟩ | ⟨doc, hdoc, t', ha, hord, hitem⟩
  · rw [get?_pathMap_eq_none.2 hitem, ha]
    exact follows_write now ht path content
  · rw [get?_pathMap_eq_dir.2 hdir, ha]
    exact follows_failed t (.cannotAppend path)
  · have hold := get?_pathMap_eq_file.2 ⟨doc, hdoc, rfl⟩
    obtain ⟨m, hm, hentry⟩ := t.pathMap.write_of_file hold (doc.content ++ content)
    rw [hold, ha]
    simp only [hm]
    refine follows_done hord fun q => ?_
    rw [hitem, hentry]
    split <;> rfl

theorem follows_touch (path : String) :
    t.Follows (t.touch now path) (t.pathMap.touch (Path.split path)) := by
  rw [PathMap.touch]
  rcases touch_cases now ht path with ⟨hitem, hd⟩ | ⟨item, hold, t', hd, hord, hitem⟩
  · rw [get?_pathMap_eq_none.2 hitem, hd]
    exact follows_write now ht path ""
  · rw [get?_pathMap, hold, Option.map_some, hd]
    refine follows_done hord fun q => ?_
    rw [hitem]
    split
    · rename_i hq
      rw [hq, get?_pathMap, hold]
      cases item <;> rfl
    · rfl

theorem follows_rm (path : String) : t.Follows (t.rm path) (t.pathMap.rm (Path.split path)) := by
  rw [PathMap.rm]
  rcases rm_cases ht path with ⟨hne, hd⟩ | ⟨hne, hnot, hd⟩ | ⟨hne, hdir, t', hd, hord, hitem⟩
  · rw [dif_pos hne, hd]
    exact follows_done ht fun q => rfl
  · have hnot' : t.pathMap.get? (Path.split path).dropLast ≠ some .dir := fun h => by
      obtain ⟨stamp, hs⟩ := get?_pathMap_eq_dir.1 h
      exact hnot stamp hs
    rw [dif_neg hne, if_neg hnot', hd]
    exact follows_failed t (.missing path)
  · rw [dif_neg hne, if_pos (get?_pathMap_eq_dir.2 hdir), hd]
    refine follows_done hord fun q => ?_
    rw [hitem, PathMap.get?_without]
    split <;> rfl

theorem follows_rmdir (path : String) :
    t.Follows (t.rmdir path) (t.pathMap.rmdir (Path.split path)) := by
  rw [PathMap.rmdir]
  rcases rmdir_cases path with ⟨hitem, hd⟩ | ⟨⟨doc, hdoc⟩, hd⟩ | ⟨hdir, hn, hd⟩ | ⟨hdir, hn, hd⟩
  · rw [get?_pathMap_eq_none.2 hitem, hd]
    exact follows_done ht fun q => rfl
  · rw [get?_pathMap_eq_file.2 ⟨doc, hdoc, rfl⟩, hd]
    exact follows_failed t .notADirectory
  · have hchild : t.pathMap.children (Path.split path) ≠ ∅ := fun h => by
      obtain ⟨n, hn⟩ := hn
      rw [children_pathMap_eq_empty.1 h n] at hn
      exact absurd hn (by simp)
    rw [get?_pathMap_eq_dir.2 hdir, hd]
    simp only [if_neg hchild]
    exact follows_failed t .notEmpty
  · have hchild := children_pathMap_eq_empty.2 hn
    rw [get?_pathMap_eq_dir.2 hdir, hd]
    simp only [if_pos hchild]
    have hrm := follows_rm ht path
    rw [PathMap.rm] at hrm
    by_cases hne : Path.split path = []
    · rw [dif_pos hne] at hrm ⊢
      exact hrm
    · obtain ⟨stamp, hparent⟩ : ∃ s, t.item? (Path.split path).dropLast = some (.dir s) := by
        refine t.exists_item?_dir (q := [(Path.split path).getLast hne]) (by simp) ?_
        rw [List.dropLast_concat_getLast hne]
        obtain ⟨stamp, hs⟩ := hdir
        rw [hs]
        rfl
      rw [dif_neg hne, if_pos (get?_pathMap_eq_dir.2 ⟨stamp, hparent⟩)] at hrm
      rw [dif_neg hne]
      exact hrm

theorem follows_copy (source target : String) :
    t.Follows (t.copy now source target) (t.pathMap.copy (Path.split source) (Path.split target)) := by
  rw [PathMap.copy]
  rcases copy_cases now source target with ⟨hitem, hd⟩ | ⟨hdir, hd⟩ | ⟨doc, hdoc, hd⟩
  · rw [get?_pathMap_eq_none.2 hitem, hd]
    exact follows_failed t (.noSource source)
  · rw [get?_pathMap_eq_dir.2 hdir, hd]
    exact follows_failed t (.isDirectory source)
  · rw [get?_pathMap_eq_file.2 ⟨doc, hdoc, rfl⟩, hd]
    exact follows_write now ht target doc.content

theorem follows_rename (source target : String) :
    t.Follows (t.rename now source target)
      (t.pathMap.rename (Path.split source) (Path.split target)) := by
  rw [PathMap.rename]
  rcases rename_cases now ht source target with
    ⟨hitem, hd⟩ | ⟨hdir, hd⟩ | ⟨doc, hdoc, ⟨e, hw, hd⟩ | ⟨t', t'', hw, hd, hord, hitem⟩⟩
  · rw [get?_pathMap_eq_none.2 hitem, hd]
    exact follows_failed t (.missing source)
  · rw [get?_pathMap_eq_dir.2 hdir, hd]
    exact follows_failed t .cannotRenameDirectory
  · have hres := (hw ▸ follows_write now ht target doc.content).of_error.2
    rw [get?_pathMap_eq_file.2 ⟨doc, hdoc, rfl⟩, hd]
    simp only [hres]
    exact follows_failed t e
  · have hres := (hw ▸ follows_write now ht target doc.content).of_ok.2
    have hne : Path.split source ≠ [] := fun hnil => by
      rw [hnil, item?_nil] at hdoc
      exact absurd hdoc (by simp)
    rw [get?_pathMap_eq_file.2 ⟨doc, hdoc, rfl⟩, hd]
    simp only [hres, dif_neg hne]
    by_cases hsame : Path.split source = Path.split target
    · rw [if_pos hsame]
      refine follows_done hord fun q => ?_
      rw [hitem, if_neg fun h => h.2 hsame]
      rfl
    · have hsource : t''.item? (Path.split source) = none := by rw [hitem, if_pos ⟨rfl, hsame⟩]
      rw [if_neg hsame]
      refine follows_done hord fun q => ?_
      rw [PathMap.get?_without]
      split
      · rename_i hq
        obtain ⟨r, rfl⟩ := hq
        by_cases hr : r = []
        · rw [hr, List.append_nil, hsource]
          rfl
        · rw [t''.item?_append_eq_none hr fun s => by simp [hsource]]
          rfl
      · rename_i hq
        have hne : q ≠ Path.split source := fun he => hq (by rw [he])
        rw [hitem, if_neg fun h => hne h.1]
        rfl

theorem follows_perform (op : FileOp) : t.Follows (op.perform now t) (t.pathMap.perform op) := by
  cases op with
  | mkdir path => exact follows_mkdir now ht path
  | write path content => exact follows_write now ht path content
  | append path content => exact follows_append now ht path content
  | touch path => exact follows_touch now ht path
  | rm path => exact follows_rm ht path
  | rmdir path => exact follows_rmdir ht path
  | copy source target => exact follows_copy now ht source target
  | rename source target => exact follows_rename now ht source target

end Perform

theorem ordered_empty (now : Int) : (empty now).Ordered := trivial

theorem ordered_seeded (now : Int) : (seeded now).Ordered := by
  have hhome := (follows_mkdir now (ordered_empty now) "/home").ordered (ordered_empty now)
  have hguest := (follows_mkdir now hhome "/home/guest").ordered hhome
  have hreadme := (follows_write now hguest "/home/guest/readme.txt" welcome).ordered hguest
  have hprojects := (follows_mkdir now hreadme "/projects").ordered hreadme
  exact (follows_write now hprojects "/projects/todo.md" _).ordered hprojects

section Serve

theorem pathMap_eq {m : PathMap} (h : ∀ p ∈ [] :: t.entries.paths [], t.pathMap.get? p = m.get? p)
    (hm : ∀ p ∈ m.keys, p ∈ [] :: t.entries.paths []) : t.pathMap = m := by
  refine PathMap.ext fun p => ?_
  by_cases hp : p ∈ [] :: t.entries.paths []
  · exact h p hp
  · have hnone : t.item? p = none := by
      cases hitem : t.item? p with
      | none => rfl
      | some item => exact absurd (mem_paths (by rw [hitem]; rfl)) hp
    have hnone' : m.get? p = none := by
      cases hentry : m.get? p with
      | none => rfl
      | some entry => exact absurd (hm p ((m.mem_keys p).2 (by rw [hentry]; rfl))) hp
    rw [hnone', get?_pathMap_eq_none, hnone]

theorem pathMap_empty (now : Int) : (empty now).pathMap = PathMap.empty := by
  have hpaths : (empty now).entries.paths [] = [] := rfl
  refine pathMap_eq ?_ ?_
  · rw [hpaths]
    intro p hp
    cases List.mem_singleton.1 hp
    rfl
  · rw [hpaths]
    decide

theorem seeded_eq (now : Int) :
    seeded now = ⟨.at now "/",
      .dir "home" (.at now "home")
        (.dir "guest" (.at now "guest") (.file "readme.txt" ⟨welcome, .at now "readme.txt"⟩ .nil) .nil)
        (.dir "projects" (.at now "projects")
          (.file "todo.md" ⟨"- build terminal\n- ship app", .at now "todo.md"⟩ .nil) .nil)⟩ := rfl

theorem pathMap_seeded (now : Int) : (seeded now).pathMap = PathMap.seeded := by
  have hpaths : (seeded now).entries.paths [] = [["projects"], ["projects", "todo.md"],
      ["home"], ["home", "guest"], ["home", "guest", "readme.txt"]] := by
    rw [seeded_eq]
    rfl
  refine pathMap_eq ?_ ?_
  · rw [hpaths, seeded_eq]
    simp only [List.mem_cons, List.not_mem_nil, or_false, forall_eq_or_imp, forall_eq]
    exact ⟨rfl, rfl, rfl, rfl, rfl, rfl⟩
  · rw [hpaths]
    decide

def answer (now : Int) (t : Tree) : FileCall → Tree × Except FileError.Kind FileReply
  | .change op =>
    let (t', outcome) := op.perform now t
    (t', (outcome.mapError FileError.kind).map fun _ => .done)
  | .exists? path => (t, .ok (.truth (t.exists? path)))
  | .isDir path => (t, .ok (.truth (t.isDir path)))
  | .list path => (t, .ok (.names (t.list path)))
  | .read path => (t, ((t.read path).mapError FileError.kind).map .text)
  | .stat path =>
    (t, ((t.stat path).mapError FileError.kind).map fun s => .about s.path s.name s.isDir s.size)

def serve : List (Int × FileCall) → Tree → Tree × List (Except FileError.Kind FileReply)
  | [], t => (t, [])
  | (now, call) :: calls, t =>
    let (t', reply) := t.answer now call
    let (t'', replies) := serve calls t'
    (t'', reply :: replies)

theorem list_eq_sort (ht : t.Ordered) (path : String) :
    t.list path = (t.pathMap.children (Path.split path)).sort := by
  have hchildren : t.pathMap.children (Path.split path) = (t.list path).toFinset := by
    refine Finset.ext fun name => ?_
    rw [PathMap.mem_children, get?_pathMap, Option.isSome_map, List.mem_toFinset, mem_list]
  have hsorted : (t.list path).Pairwise (· ≤ ·) := (ht.pairwise_list path).imp fun hlt => le_of_lt hlt
  rw [hchildren]
  exact ((List.toFinset_sort (· ≤ ·) (ht.nodup_list path)).2 hsorted).symm

theorem answer_eq (now : Int) (ht : t.Ordered) (call : FileCall) :
    (t.answer now call).1.Ordered ∧ (t.answer now call).1.pathMap = (t.pathMap.answer call).1 ∧
      (t.answer now call).2 = (t.pathMap.answer call).2 := by
  cases call with
  | change op =>
      have hop := follows_perform now ht op
      rw [answer, PathMap.answer]
      cases hres : t.pathMap.perform op with
      | ok m =>
          rw [hres] at hop
          obtain ⟨t', hstep, hord, rfl⟩ := hop
          rw [hstep]
          exact ⟨hord, rfl, rfl⟩
      | error kind =>
          rw [hres] at hop
          obtain ⟨e, hstep, rfl⟩ := hop
          rw [hstep]
          exact ⟨ht, rfl, rfl⟩
  | exists? path =>
      refine ⟨ht, rfl, ?_⟩
      rw [answer, PathMap.answer, get?_pathMap, item?_split, exists?]
      cases t.get? path with
      | none => rfl
      | some node => cases node <;> rfl
  | isDir path =>
      refine ⟨ht, rfl, ?_⟩
      rw [answer, PathMap.answer, get?_pathMap, item?_split, isDir]
      cases t.get? path with
      | none => rfl
      | some node => cases node <;> rfl
  | list path => exact ⟨ht, rfl, by rw [answer, PathMap.answer, list_eq_sort ht]⟩
  | read path =>
      rw [answer, PathMap.answer, get?_pathMap, item?_split, read]
      cases t.get? path with
      | none => exact ⟨ht, rfl, rfl⟩
      | some node => cases node <;> exact ⟨ht, rfl, rfl⟩
  | stat path =>
      rw [answer, PathMap.answer, get?_pathMap, item?_split, stat]
      cases t.get? path with
      | none => exact ⟨ht, rfl, rfl⟩
      | some node => cases node <;> exact ⟨ht, rfl, rfl⟩

theorem serve_eq (ht : t.Ordered) (calls : List (Int × FileCall)) :
    (t.serve calls).1.pathMap = (t.pathMap.serve (calls.map Prod.snd)).1 ∧
      (t.serve calls).2 = (t.pathMap.serve (calls.map Prod.snd)).2 := by
  induction calls generalizing t with
  | nil => exact ⟨rfl, rfl⟩
  | cons timed calls ih =>
      obtain ⟨hord, hmap, hreply⟩ := answer_eq timed.1 ht timed.2
      obtain ⟨hrest, hreplies⟩ := ih hord
      rw [hmap] at hrest hreplies
      refine ⟨hrest, ?_⟩
      rw [serve, List.map_cons, PathMap.serve]
      simp only [hreply, hreplies]

/-- Whatever is asked of a new tree, one call after the other, it answers as the flat map does. -/
theorem serve_refines_pathMap (now : Int) (calls : List (Int × FileCall)) :
    (((empty now).serve calls).1.pathMap = (PathMap.empty.serve (calls.map Prod.snd)).1 ∧
      ((empty now).serve calls).2 = (PathMap.empty.serve (calls.map Prod.snd)).2) ∧
    (((seeded now).serve calls).1.pathMap = (PathMap.seeded.serve (calls.map Prod.snd)).1 ∧
      ((seeded now).serve calls).2 = (PathMap.seeded.serve (calls.map Prod.snd)).2) := by
  have hempty := serve_eq (ordered_empty now) calls
  have hseeded := serve_eq (ordered_seeded now) calls
  rw [pathMap_empty] at hempty
  rw [pathMap_seeded] at hseeded
  exact ⟨hempty, hseeded⟩

end Serve

end Tree

end Terminal
