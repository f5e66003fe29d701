import Terminal.Proofs.Files.Independence

namespace Terminal

def Node.Named (node : Node) : Prop := ∀ p, (node.item? p).isSome → ∀ name ∈ p, Path.IsName name

def Forest.Named (f : Forest) : Prop := ∀ name node, f.find? name = some node → Path.IsName name ∧ node.Named

theorem Node.named_file (doc : Doc) : (file doc).Named := by
  intro p hp name hname
  rw [item?_file_of_ne_nil doc (List.ne_nil_of_mem hname)] at hp
  cases hp

theorem Node.named_dir_iff {stamp : Stamp} {below : Forest} : (dir stamp below).Named ↔ below.Named := by
  constructor
  · intro h name node hfind
    have hat {p : List String} (hp : (node.item? p).isSome) : ((dir stamp below).item? (name :: p)).isSome :=
      isSome_item?_dir_cons.2 ⟨node, hfind, hp⟩
    refine ⟨h [name] (hat rfl) name (List.mem_cons_self ..), fun p hp n hn => ?_⟩
    exact h (name :: p) (hat hp) n (List.mem_cons_of_mem _ hn)
  · intro h p hp n hn
    cases p with
    | nil => cases hn
    | cons name p =>
        obtain ⟨node, hfind, hbelow⟩ := isSome_item?_dir_cons.1 hp
        obtain ⟨hname, hnode⟩ := h name node hfind
        rcases List.mem_cons.1 hn with rfl | hn
        · exact hname
        · exact hnode p hbelow n hn

namespace Forest

variable {f : Forest}

theorem named_nil : Named .nil := by
  intro name node hfind
  cases hfind

theorem Named.put {name : String} {node : Node} (h : f.Named) (hname : Path.IsName name) (hnode : node.Named) :
    (f.put name node).Named := by
  intro other found hfind
  by_cases hother : name = other
  · subst hother
    rw [find?_put_self] at hfind
    cases hfind
    exact ⟨hname, hnode⟩
  · rw [find?_put_of_ne f node hother] at hfind
    exact h other found hfind

theorem Named.descendBy {clock : Nat → Int} {act : Nat → Forest → Forest × Except FileError Unit}
    (hact : ∀ i f, f.Named → (act i f).1.Named) {path : List String} (hpath : ∀ name ∈ path, Path.IsName name)
    (h : f.Named) (i : Nat) : (f.descendBy clock act i path).1.Named := by
  induction path generalizing i f with
  | nil => exact hact i f h
  | cons name path ih =>
      have hname : Path.IsName name := hpath name (List.mem_cons_self ..)
      have hrest : ∀ m ∈ path, Path.IsName m := fun m hm => hpath m (List.mem_cons_of_mem _ hm)
      rw [Forest.descendBy]
      cases hfind : f.find? name with
      | none => exact h.put hname (Node.named_dir_iff.2 (ih hrest named_nil (i + 2)))
      | some node =>
          cases node with
          | file doc => exact h
          | dir stamp below =>
              have hbelow : below.Named := Node.named_dir_iff.1 (h name _ hfind).2
              exact h.put hname (Node.named_dir_iff.2 (ih hrest hbelow i))

end Forest

namespace Tree

variable {t : Tree} {clock : Nat → Int}

theorem Named.descendBy (h : t.Named) {act : Nat → Forest → Forest × Except FileError Unit}
    (hact : ∀ i f, f.Named → (act i f).1.Named) {path : List String} (hpath : ∀ name ∈ path, Path.IsName name) :
    (t.descendBy clock act path).1.Named := by
  have hroot : t.entries.Named := Node.named_dir_iff.1 h
  exact Node.named_dir_iff.2 (Forest.Named.descendBy hact hpath hroot 0)

theorem Named.writeBy (h : t.Named) (clock : Nat → Int) (path content : String) :
    (t.writeBy clock path content).1.Named := by
  rw [Tree.writeBy]
  cases hlast : (Path.split path).getLast? with
  | none => exact h
  | some name =>
      have hname : Path.IsName name := Path.isName_of_mem_split (List.mem_of_getLast? hlast)
      refine h.descendBy (fun i f hf => ?_) fun m hm => Path.isName_of_mem_split (List.dropLast_subset _ hm)
      cases f.find? name with
      | none => exact hf.put hname (Node.named_file _)
      | some node =>
          cases node with
          | file doc => exact hf.put hname (Node.named_file _)
          | dir stamp below => exact hf

theorem Named.performBy (h : t.Named) (ht : t.Ordered) (clock : Nat → Int) (op : FileOp) :
    (op.performBy clock t).1.Named := by
  cases op with
  | mkdir path =>
      rw [FileOp.performBy]
      split
      · exact h
      · exact h.descendBy (fun _ f hf => hf) fun m hm => Path.isName_of_mem_split hm
  | write path content => exact h.writeBy clock path content
  | append path content =>
      rw [FileOp.performBy]
      split
      · exact h.writeBy clock path content
      · exact h.perform ht (clock 0) (.append path content)
  | touch path =>
      rw [FileOp.performBy]
      split
      · exact h.writeBy clock path ""
      · exact h.perform ht (clock 0) (.touch path)
  | rm path => exact h.perform ht 0 (.rm path)
  | rmdir path => exact h.perform ht 0 (.rmdir path)
  | copy source target =>
      rw [FileOp.performBy]
      split
      · exact h.writeBy clock target _
      · exact h.perform ht (clock 0) (.copy source target)
  | rename source target =>
      rw [FileOp.performBy]
      split
      · rename_i doc _
        have hwritten := h.writeBy clock target doc.content
        have hordered := ht.writeBy clock target doc.content
        split
        · rename_i t' e hw
          rwa [hw] at hwritten
        · rename_i t' hw
          rw [hw] at hwritten hordered
          split
          · exact hwritten
          · exact hwritten.perform hordered 0 (.rm source)
      · exact h.perform ht (clock 0) (.rename source target)

theorem Grown.named (h : t.Grown) : t.Named := by
  induction h with
  | root created updated => exact named_bare ⟨"/", created, updated⟩
  | step clock op ht ih => exact ih.performBy ht.ordered clock op

end Tree

end Terminal
