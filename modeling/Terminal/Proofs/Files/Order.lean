import Terminal.Proofs.Files.Lookup

namespace Terminal

namespace Forest

def Ordered : Forest → Prop
  | nil => True
  | file n _ rest => (∀ m ∈ rest.names, n < m) ∧ rest.Ordered
  | dir n _ below rest => (∀ m ∈ rest.names, n < m) ∧ below.Ordered ∧ rest.Ordered

end Forest

def Node.Ordered : Node → Prop
  | file _ => True
  | dir _ below => below.Ordered

def Tree.Ordered (t : Tree) : Prop := t.entries.Ordered

namespace Forest

@[elab_as_elim]
theorem entries_induction {motive : Forest → Prop} (f : Forest) (nil : motive nil)
    (cons : ∀ name node rest, motive rest → motive (cons name node rest)) : motive f := by
  induction f with
  | nil => exact nil
  | file n doc rest ih => exact cons n (.file doc) rest ih
  | dir n stamp below rest _ ih => exact cons n (.dir stamp below) rest ih

def entries : Forest → List (String × Node)
  | nil => []
  | file n doc rest => (n, .file doc) :: entries rest
  | dir n stamp below rest => (n, .dir stamp below) :: entries rest

section

variable (name other : String) (node new : Node) (f : Forest)

theorem find?_cons : (cons name node f).find? other = if name = other then some node else f.find? other := by
  cases node <;> rfl

theorem names_cons : (cons name node f).names = name :: f.names := by
  cases node <;> rfl

theorem entries_cons : (cons name node f).entries = (name, node) :: f.entries := by
  cases node <;> rfl

theorem put_cons : (cons name node f).put other new =
    if name = other then cons other new f
    else if other < name then cons other new (cons name node f)
    else cons name node (f.put other new) := by
  cases node <;> rfl

theorem remove_cons : (cons name node f).remove other =
    if name = other then f.remove other else cons name node (f.remove other) := by
  cases node <;> rfl

theorem ordered_cons :
    (cons name node f).Ordered ↔ (∀ m ∈ f.names, name < m) ∧ node.Ordered ∧ f.Ordered := by
  cases node with
  | file doc => exact ⟨fun h => ⟨h.1, trivial, h.2⟩, fun h => ⟨h.1, h.2.2⟩⟩
  | dir stamp below => exact Iff.rfl

end

theorem put_put (f : Forest) (name : String) (node new : Node) : (f.put name node).put name new = f.put name new := by
  induction f using entries_induction with
  | nil => rw [put, put_cons, if_pos rfl, put]
  | cons n own rest ih =>
      rw [put_cons, put_cons]
      by_cases he : n = name
      · rw [if_pos he, if_pos he, put_cons, if_pos rfl]
      · rw [if_neg he, if_neg he]
        by_cases hbefore : name < n
        · rw [if_pos hbefore, if_pos hbefore, put_cons, if_pos rfl]
        · rw [if_neg hbefore, if_neg hbefore, put_cons, if_neg he, if_neg hbefore, ih]

theorem isSome_find? (f : Forest) (name : String) : (f.find? name).isSome ↔ name ∈ f.names := by
  induction f using entries_induction with
  | nil => simp [find?, names]
  | cons n node rest ih =>
      rw [find?_cons, names_cons, List.mem_cons]
      by_cases h : n = name
      · simp [h]
      · rw [if_neg h, ih]
        exact ⟨.inr, fun hm => hm.resolve_left (Ne.symm h)⟩

theorem find?_eq_none {f : Forest} {name : String} (h : name ∉ f.names) : f.find? name = none := by
  rw [← isSome_find?] at h
  simpa using h

theorem map_fst_entries (f : Forest) : f.entries.map Prod.fst = f.names := by
  induction f using entries_induction with
  | nil => rfl
  | cons name node rest ih => rw [entries_cons, names_cons, List.map_cons, ih]

theorem mem_names_put {f : Forest} {name m : String} {node : Node} :
    m ∈ (f.put name node).names ↔ m = name ∨ m ∈ f.names := by
  rw [← isSome_find?, ← isSome_find?]
  by_cases h : name = m
  · subst h
    simp
  · rw [find?_put_of_ne f node h]
    exact ⟨.inr, fun hm => hm.resolve_left (Ne.symm h)⟩

theorem mem_names_remove {f : Forest} {name m : String} :
    m ∈ (f.remove name).names ↔ m ≠ name ∧ m ∈ f.names := by
  rw [← isSome_find?, ← isSome_find?]
  by_cases h : name = m
  · subst h
    simp
  · rw [find?_remove_of_ne f h]
    exact ⟨fun hm => ⟨Ne.symm h, hm⟩, And.right⟩

theorem lt_of_not_lt {a b : String} (hne : a ≠ b) (h : ¬ b < a) : a < b :=
  Std.lt_of_le_of_ne (Std.not_lt.1 h) hne

namespace Ordered

theorem pairwise_names {f : Forest} (h : f.Ordered) : f.names.Pairwise (· < ·) := by
  induction f using entries_induction with
  | nil => exact .nil
  | cons n node rest ih =>
      obtain ⟨hlt, -, hrest⟩ := (ordered_cons ..).1 h
      rw [names_cons]
      exact .cons hlt (ih hrest)

theorem mem_entries_iff {f : Forest} (h : f.Ordered) {name : String} {node : Node} :
    (name, node) ∈ f.entries ↔ f.find? name = some node := by
  induction f using entries_induction with
  | nil => exact ⟨nofun, nofun⟩
  | cons n other rest ih =>
      obtain ⟨hlt, -, hrest⟩ := (ordered_cons ..).1 h
      rw [entries_cons, find?_cons, List.mem_cons, ih hrest]
      split
      · rename_i hn
        have hnone : rest.find? name = none :=
          find?_eq_none fun hmem => String.lt_irrefl n (hlt n (hn ▸ hmem))
        simp [hn, hnone, eq_comm]
      · rename_i hn
        simp [Ne.symm hn]

theorem find? {f : Forest} (h : f.Ordered) {name : String} {node : Node}
    (hf : f.find? name = some node) : node.Ordered := by
  induction f using entries_induction with
  | nil => simp [Forest.find?] at hf
  | cons n own rest ih =>
      obtain ⟨-, hown, hrest⟩ := (ordered_cons ..).1 h
      rw [find?_cons] at hf
      split at hf
      · cases hf
        exact hown
      · exact ih hrest hf

theorem put {f : Forest} (h : f.Ordered) (name : String) {node : Node} (hn : node.Ordered) :
    (f.put name node).Ordered := by
  induction f using entries_induction with
  | nil => exact (ordered_cons ..).2 ⟨fun m hm => absurd hm List.not_mem_nil, hn, trivial⟩
  | cons n own rest ih =>
      obtain ⟨hlt, hown, hrest⟩ := (ordered_cons ..).1 h
      rw [put_cons]
      by_cases he : n = name
      · rw [if_pos he]
        exact (ordered_cons ..).2 ⟨fun m hm => he ▸ hlt m hm, hn, hrest⟩
      · rw [if_neg he]
        by_cases hbefore : name < n
        · rw [if_pos hbefore]
          refine (ordered_cons ..).2 ⟨fun m hm => ?_, hn, h⟩
          rw [names_cons] at hm
          rcases List.mem_cons.1 hm with rfl | hm
          · exact hbefore
          · exact String.lt_trans hbefore (hlt m hm)
        · rw [if_neg hbefore]
          refine (ordered_cons ..).2 ⟨fun m hm => ?_, hown, ih hrest⟩
          rcases mem_names_put.1 hm with rfl | hm
          · exact lt_of_not_lt he hbefore
          · exact hlt m hm

theorem remove {f : Forest} (h : f.Ordered) (name : String) : (f.remove name).Ordered := by
  induction f using entries_induction with
  | nil => trivial
  | cons n own rest ih =>
      obtain ⟨hlt, hown, hrest⟩ := (ordered_cons ..).1 h
      rw [remove_cons]
      split
      · exact ih hrest
      · exact (ordered_cons ..).2 ⟨fun m hm => hlt m (mem_names_remove.1 hm).2, hown, ih hrest⟩

theorem put_self {f : Forest} (h : f.Ordered) {name : String} {node : Node}
    (hf : f.find? name = some node) : f.put name node = f := by
  induction f using entries_induction with
  | nil => simp [Forest.find?] at hf
  | cons n own rest ih =>
      obtain ⟨hlt, -, hrest⟩ := (ordered_cons ..).1 h
      rw [find?_cons] at hf
      rw [put_cons]
      by_cases he : n = name
      · rw [if_pos he] at hf ⊢
        cases hf
        rw [he]
      · rw [if_neg he] at hf ⊢
        have hmem : name ∈ rest.names := (isSome_find? rest name).1 (by rw [hf]; rfl)
        rw [if_neg (String.lt_asymm (hlt name hmem)), ih hrest hf]

end Ordered

def SameItems (f g : Forest) : Prop :=
  ∀ name path, ((f.find? name).bind fun node => node.item? path) =
    (g.find? name).bind fun node => node.item? path

theorem SameItems.mem_names {f g : Forest} (h : SameItems f g) {name : String} :
    name ∈ f.names ↔ name ∈ g.names := by
  have hname := congrArg Option.isSome (h name [])
  simp only [Option.isSome_bind, Node.item?_nil, Option.isSome_some] at hname
  rw [← isSome_find?, ← isSome_find?]
  cases hf : f.find? name <;> cases hg : g.find? name <;> simp_all

theorem SameItems.of_cons (node : Node) {n m : String} {other : Node} {f g : Forest}
    (hf : (cons n node f).Ordered) (hg : (cons m other g).Ordered)
    (h : SameItems (cons n node f) (cons m other g)) :
    n = m ∧ (∀ path, node.item? path = other.item? path) ∧ SameItems f g := by
  obtain ⟨hnlt, -, -⟩ := (ordered_cons ..).1 hf
  obtain ⟨hmlt, -, -⟩ := (ordered_cons ..).1 hg
  have hnm : n = m := by
    have hn : n ∈ (cons m other g).names := h.mem_names.1 (by simp [names_cons])
    have hm : m ∈ (cons n node f).names := h.mem_names.2 (by simp [names_cons])
    rw [names_cons] at hn hm
    rcases List.mem_cons.1 hn with he | hn
    · exact he
    · rcases List.mem_cons.1 hm with he | hm
      · exact he.symm
      · exact absurd (hnlt m hm) (String.lt_asymm (hmlt n hn))
  subst hnm
  refine ⟨rfl, fun path => ?_, fun name path => ?_⟩
  · have hn := h n path
    rw [find?_cons, find?_cons, if_pos rfl, if_pos rfl] at hn
    exact hn
  · by_cases he : n = name
    · subst he
      rw [find?_eq_none fun hn => String.lt_irrefl n (hnlt n hn),
        find?_eq_none fun hn => String.lt_irrefl n (hmlt n hn)]
    · have hname := h name path
      rw [find?_cons, find?_cons, if_neg he, if_neg he] at hname
      exact hname

theorem sameItems_of_item? {stamp stamp' : Stamp} {f g : Forest}
    (h : ∀ path, (Node.dir stamp f).item? path = (Node.dir stamp' g).item? path) : SameItems f g := by
  intro name path
  have hname := h (name :: path)
  rw [Node.item?_dir_cons, Node.item?_dir_cons] at hname
  exact hname

theorem not_sameItems_nil_cons (node : Node) {name : String} {f : Forest} :
    ¬ SameItems nil (cons name node f) := by
  intro h
  have hname : name ∈ nil.names := h.mem_names.2 (by simp [names_cons])
  exact absurd hname List.not_mem_nil

theorem SameItems.symm {f g : Forest} (h : SameItems f g) : SameItems g f :=
  fun name path => (h name path).symm

theorem SameItems.eq {f g : Forest} (hf : f.Ordered) (hg : g.Ordered) (h : SameItems f g) : f = g := by
  induction f generalizing g with
  | nil =>
      cases g using entries_induction with
      | nil => rfl
      | cons m other g => exact absurd h (not_sameItems_nil_cons other)
  | file n doc rest ih =>
      cases g using entries_induction with
      | nil => exact absurd (h.symm) (not_sameItems_nil_cons (.file doc))
      | cons m other g =>
          obtain ⟨rfl, hitem, hrest⟩ := SameItems.of_cons (.file doc) hf hg h
          have hother : other.item = .file doc := (Option.some.inj (hitem [])).symm
          cases other with
          | dir stamp below => exact Item.noConfusion hother
          | file doc' =>
              cases hother
              rw [ih hf.2 hg.2 hrest]
              rfl
  | dir n stamp below rest ihb ih =>
      cases g using entries_induction with
      | nil => exact absurd (h.symm) (not_sameItems_nil_cons (.dir stamp below))
      | cons m other g =>
          obtain ⟨rfl, hitem, hrest⟩ := SameItems.of_cons (.dir stamp below) hf hg h
          have hother : other.item = .dir stamp := (Option.some.inj (hitem [])).symm
          cases other with
          | file doc => exact Item.noConfusion hother
          | dir stamp' below' =>
              cases hother
              rw [ihb hf.2.1 hg.2.1 (sameItems_of_item? hitem), ih hf.2.2 hg.2.2 hrest]
              rfl

end Forest

theorem Node.Ordered.at? {node found : Node} {p : List String} (h : node.Ordered)
    (hp : node.at? p = some found) : found.Ordered := by
  induction p generalizing node with
  | nil =>
      cases hp
      exact h
  | cons name p ih =>
      rw [Node.at?_cons] at hp
      cases node with
      | file doc => exact absurd hp (by simp)
      | dir stamp below =>
          rw [Node.child?_dir] at hp
          cases hf : below.find? name with
          | none => simp [hf] at hp
          | some child =>
              rw [hf, Option.bind_some] at hp
              exact ih (Forest.Ordered.find? h hf) hp

theorem Tree.mem_list (t : Tree) (path name : String) :
    name ∈ t.list path ↔ (t.item? (Path.split path ++ [name])).isSome := by
  rw [Tree.list, Tree.item?, Node.item?_append, ← Tree.get?_eq_at?]
  cases t.get? path with
  | none => simp
  | some node =>
      cases node with
      | file doc => simp [Node.item?_cons]
      | dir stamp below =>
          rw [Option.bind_some, Node.item?_dir_cons, ← Forest.isSome_find?]
          cases below.find? name <;> rfl

theorem Tree.Ordered.pairwise_list {t : Tree} (ht : t.Ordered) (path : String) :
    (t.list path).Pairwise (· < ·) := by
  rw [Tree.list]
  cases hget : t.get? path with
  | none => exact .nil
  | some node =>
      cases node with
      | file doc => exact .nil
      | dir stamp below =>
          rw [Tree.get?_eq_at?] at hget
          have hroot : t.root.Ordered := ht
          exact Forest.Ordered.pairwise_names (hroot.at? hget)

theorem Forest.nodup_of_pairwise {names : List String} (h : names.Pairwise (· < ·)) : names.Nodup :=
  h.imp fun {a b} (hlt : a < b) (he : a = b) => String.lt_irrefl b (he ▸ hlt)

theorem Tree.Ordered.nodup_list {t : Tree} (ht : t.Ordered) (path : String) : (t.list path).Nodup :=
  Forest.nodup_of_pairwise (ht.pairwise_list path)

theorem Tree.eq_of_item? {t t' : Tree} (ht : t.Ordered) (ht' : t'.Ordered)
    (h : ∀ path, t.item? path = t'.item? path) : t = t' := by
  have hstamp : t.stamp = t'.stamp := by simpa using h []
  have hentries : t.entries = t'.entries := Forest.SameItems.eq ht ht' (Forest.sameItems_of_item? h)
  cases t
  cases t'
  cases hstamp
  cases hentries
  rfl

end Terminal
