import Terminal.Files.Tree

namespace Terminal

inductive Item where
  | file (doc : Doc)
  | dir (stamp : Stamp)
  deriving DecidableEq, Repr

namespace Node

def child? : Node → String → Option Node
  | file _, _ => none
  | dir _ below, name => below.find? name

def at? (node : Node) (path : List String) : Option Node := path.foldlM child? node

def item : Node → Item
  | file doc => .file doc
  | dir stamp _ => .dir stamp

def item? (node : Node) (path : List String) : Option Item := (node.at? path).map item

variable (node : Node)

@[simp] theorem child?_file (doc : Doc) (name : String) : (file doc).child? name = none := rfl

@[simp] theorem child?_dir (stamp : Stamp) (below : Forest) (name : String) :
    (dir stamp below).child? name = below.find? name := rfl

@[simp] theorem at?_nil : node.at? [] = some node := rfl

theorem at?_cons (name : String) (path : List String) :
    node.at? (name :: path) = (node.child? name).bind fun child => child.at? path := rfl

theorem at?_append (p q : List String) :
    node.at? (p ++ q) = (node.at? p).bind fun below => below.at? q := by
  simp only [at?, List.foldlM_append]
  rfl

@[simp] theorem item?_nil : node.item? [] = some node.item := rfl

theorem item?_cons (name : String) (path : List String) :
    node.item? (name :: path) = (node.child? name).bind fun child => child.item? path := by
  rw [item?, at?_cons]
  cases node.child? name <;> rfl

theorem item?_append (p q : List String) :
    node.item? (p ++ q) = (node.at? p).bind fun below => below.item? q := by
  rw [item?, at?_append]
  cases node.at? p <;> rfl

theorem item?_dir_cons (stamp : Stamp) (below : Forest) (name : String) (path : List String) :
    (dir stamp below).item? (name :: path) = (below.find? name).bind fun child => child.item? path :=
  item?_cons _ name path

theorem isSome_item?_dir_cons {stamp : Stamp} {below : Forest} {name : String} {path : List String} :
    ((dir stamp below).item? (name :: path)).isSome ↔
      ∃ child, below.find? name = some child ∧ (child.item? path).isSome := by
  rw [item?_dir_cons]
  cases below.find? name with
  | none => simp
  | some child => simp

theorem at?_file_of_ne_nil (doc : Doc) {path : List String} (h : path ≠ []) :
    (file doc).at? path = none := by
  cases path with
  | nil => exact absurd rfl h
  | cons name path => exact at?_cons _ name path

theorem item?_file_of_ne_nil (doc : Doc) {path : List String} (h : path ≠ []) :
    (file doc).item? path = none := by
  rw [item?, at?_file_of_ne_nil doc h]
  rfl

theorem item?_empty (stamp : Stamp) (path : List String) :
    (dir stamp .nil).item? path = if path = [] then some (.dir stamp) else none := by
  cases path with
  | nil => rfl
  | cons name path =>
      rw [item?_dir_cons, if_neg (by simp)]
      rfl

theorem at?_of_item?_dir {path : List String} {stamp : Stamp} (h : node.item? path = some (.dir stamp)) :
    ∃ below, node.at? path = some (.dir stamp below) := by
  obtain ⟨found, hat, hitem⟩ := Option.map_eq_some_iff.1 h
  cases found with
  | file doc => exact Item.noConfusion hitem
  | dir stamp' below =>
      cases hitem
      exact ⟨below, hat⟩

theorem at?_of_item?_file {path : List String} {doc : Doc} (h : node.item? path = some (.file doc)) :
    node.at? path = some (.file doc) := by
  obtain ⟨found, hat, hitem⟩ := Option.map_eq_some_iff.1 h
  cases found with
  | dir stamp below => exact Item.noConfusion hitem
  | file doc' =>
      cases hitem
      exact hat

theorem exists_item?_dir {p q : List String} (hq : q ≠ []) (h : (node.item? (p ++ q)).isSome) :
    ∃ stamp, node.item? p = some (.dir stamp) := by
  rw [item?_append] at h
  cases hp : node.at? p with
  | none => simp [hp] at h
  | some found =>
      cases found with
      | file doc =>
          rw [hp, Option.bind_some, item?_file_of_ne_nil doc hq] at h
          simp at h
      | dir stamp below => exact ⟨stamp, by simp [item?, hp, item]⟩

end Node

namespace Forest

variable (f : Forest)

theorem item?_put (stamp : Stamp) (name n : String) (node : Node) (path : List String) :
    (Node.dir stamp (f.put name node)).item? (n :: path) =
      if name = n then node.item? path else (Node.dir stamp f).item? (n :: path) := by
  rw [Node.item?_dir_cons, Node.item?_dir_cons]
  by_cases h : name = n
  · subst h
    rw [find?_put_self, if_pos rfl]
    rfl
  · rw [find?_put_of_ne f node h, if_neg h]

theorem item?_remove (stamp : Stamp) (name n : String) (path : List String) :
    (Node.dir stamp (f.remove name)).item? (n :: path) =
      if name = n then none else (Node.dir stamp f).item? (n :: path) := by
  rw [Node.item?_dir_cons, Node.item?_dir_cons]
  by_cases h : name = n
  · subst h
    rw [find?_remove_self, if_pos rfl]
    rfl
  · rw [find?_remove_of_ne f h, if_neg h]

theorem walk?_cons (name : String) (path : List String) :
    f.walk? (name :: path) = (f.find? name).bind fun child => child.at? path := by
  induction path generalizing f name with
  | nil =>
      rw [walk?]
      cases f.find? name <;> rfl
  | cons next path ih =>
      rw [walk?]
      cases hf : f.find? name with
      | none => rfl
      | some child =>
          cases child with
          | file doc => rfl
          | dir stamp below => exact ih below next

end Forest

namespace Tree

def root (t : Tree) : Node := .dir t.stamp t.entries

def item? (t : Tree) (path : List String) : Option Item := t.root.item? path

variable (t : Tree)

theorem node?_eq_at? (path : List String) : t.node? path = t.root.at? path := by
  cases path with
  | nil => rfl
  | cons name path => exact Forest.walk?_cons t.entries name path

theorem get?_eq_at? (path : String) : t.get? path = t.root.at? (Path.split path) := node?_eq_at? t _

theorem item?_split (path : String) : t.item? (Path.split path) = (t.get? path).map Node.item := by
  rw [get?_eq_at?]
  rfl

@[simp] theorem item?_nil : t.item? [] = some (.dir t.stamp) := rfl

theorem get?_eq_file_iff (path : String) (doc : Doc) :
    t.get? path = some (.file doc) ↔ t.item? (Path.split path) = some (.file doc) := by
  constructor
  · intro h
    rw [item?_split, h]
    rfl
  · intro h
    rw [get?_eq_at?]
    exact Node.at?_of_item?_file _ h

theorem isDir_iff (path : String) :
    t.isDir path = true ↔ ∃ stamp, t.item? (Path.split path) = some (.dir stamp) := by
  rw [item?_split, isDir]
  cases t.get? path with
  | none => simp
  | some node => cases node <;> simp [Node.isDir, Node.item]

theorem exists?_eq (path : String) : t.exists? path = (t.item? (Path.split path)).isSome := by
  rw [item?_split, exists?, Option.isSome_map]

theorem exists?_of_isDir {t : Tree} {path : String} (h : t.isDir path = true) : t.exists? path = true := by
  obtain ⟨stamp, hitem⟩ := (t.isDir_iff path).1 h
  rw [exists?_eq, hitem]
  rfl

theorem exists_item?_dir {p q : List String} (hq : q ≠ []) (h : (t.item? (p ++ q)).isSome) :
    ∃ stamp, t.item? p = some (.dir stamp) :=
  t.root.exists_item?_dir hq h

theorem item?_append_eq_none {p q : List String} (hq : q ≠ [])
    (h : ∀ stamp, t.item? p ≠ some (.dir stamp)) : t.item? (p ++ q) = none := by
  cases hs : t.item? (p ++ q) with
  | none => rfl
  | some item =>
      obtain ⟨stamp, hp⟩ := t.exists_item?_dir hq (by rw [hs]; rfl)
      exact absurd hp (h stamp)

end Tree

end Terminal
