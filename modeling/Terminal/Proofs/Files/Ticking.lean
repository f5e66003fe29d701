import Terminal.Files.Operation
import Terminal.Proofs.Files.Order
import Terminal.Proofs.Path.Split

namespace Terminal

def Stamp.made (clock : Nat → Int) (i : Nat) (name : String) : Stamp := ⟨name, clock i, clock (i + 1)⟩

def Forest.descendBy (clock : Nat → Int) (act : Nat → Forest → Forest × Except FileError Unit) :
    Nat → List String → Forest → Forest × Except FileError Unit
  | i, [], f => act i f
  | i, name :: path, f =>
    match f.find? name with
    | some (.file _) => (f, .error (.segmentIsFile name))
    | some (.dir stamp below) =>
      let (below', outcome) := descendBy clock act i path below
      (f.put name (.dir stamp below'), outcome)
    | none =>
      let (below', outcome) := descendBy clock act (i + 2) path .nil
      (f.put name (.dir (.made clock i name) below'), outcome)

namespace Tree

variable (clock : Nat → Int)

def descendBy (act : Nat → Forest → Forest × Except FileError Unit) (path : List String) (t : Tree) : Step :=
  let (entries, outcome) := t.entries.descendBy clock act 0 path
  ({ t with entries }, outcome)

def writeBy (path content : String) (t : Tree) : Step :=
  match (Path.split path).getLast? with
  | none => (t, .error .invalidPath)
  | some name =>
    t.descendBy clock (fun i f => match f.find? name with
      | some (.dir _ _) => (f, .error (.isDirectory path))
      | _ => (f.put name (.file ⟨content, .made clock i name⟩), .ok ())) (Path.split path).dropLast

end Tree

/-- `perform` under a moving clock. Only an operation that makes nodes takes more than one reading. -/
def FileOp.performBy (clock : Nat → Int) (t : Tree) : FileOp → Tree.Step
  | mkdir path =>
    if t.isDir path then (t, .ok ()) else t.descendBy clock (fun _ f => (f, .ok ())) (Path.split path)
  | write path content => t.writeBy clock path content
  | append path content =>
    match t.get? path with
    | none => t.writeBy clock path content
    | some _ => t.append (clock 0) path content
  | touch path =>
    match t.get? path with
    | none => t.writeBy clock path ""
    | some _ => t.touch (clock 0) path
  | rm path => t.rm path
  | rmdir path => t.rmdir path
  | copy source target =>
    match t.get? source with
    | some (.file doc) => t.writeBy clock target doc.content
    | _ => t.copy (clock 0) source target
  | rename source target =>
    match t.get? source with
    | some (.file doc) =>
      match t.writeBy clock target doc.content with
      | (t', .error e) => (t', .error e)
      | (t', .ok ()) => if Path.split source = Path.split target then (t', .ok ()) else t'.rm source
    | _ => t.rename (clock 0) source target

section Still

variable (now : Int)

theorem Stamp.made_still (i : Nat) (name : String) : made (fun _ => now) i name = .at now name := rfl

theorem Forest.descendBy_still (act : Forest → Forest × Except FileError Unit) (i : Nat) (path : List String)
    (f : Forest) : f.descendBy (fun _ => now) (fun _ => act) i path = f.descend now act path := by
  induction path generalizing i f with
  | nil => rfl
  | cons name path ih =>
      rw [descendBy, descend]
      cases f.find? name with
      | none => simp only [ih, Stamp.made_still]
      | some node =>
          cases node with
          | file doc => rfl
          | dir stamp below => simp only [ih]

theorem Tree.writeBy_still (path content : String) (t : Tree) :
    t.writeBy (fun _ => now) path content = t.write now path content := by
  rw [writeBy, write]
  cases (Path.split path).getLast? with
  | none => rfl
  | some name =>
      simp only [Stamp.made_still]
      exact congrArg (fun p => (({ stamp := t.stamp, entries := p.1 } : Tree), p.2))
        (Forest.descendBy_still now _ 0 (Path.split path).dropLast t.entries)

theorem FileOp.performBy_still (t : Tree) (op : FileOp) : op.performBy (fun _ => now) t = op.perform now t := by
  cases op with
  | mkdir path => simp only [performBy, perform, Tree.mkdir, Tree.descendBy, Tree.descend, Forest.descendBy_still]
  | write path content => exact t.writeBy_still now path content
  | append path content =>
      simp only [performBy, perform, Tree.writeBy_still]
      cases hget : t.get? path <;> simp [Tree.append, hget]
  | touch path =>
      simp only [performBy, perform, Tree.writeBy_still]
      cases hget : t.get? path <;> simp [Tree.touch, hget]
  | rm path => rfl
  | rmdir path => rfl
  | copy source target =>
      simp only [performBy, perform, Tree.writeBy_still, Tree.copy]
      cases t.get? source with
      | none => rfl
      | some node => cases node <;> rfl
  | rename source target =>
      simp only [performBy, perform, Tree.writeBy_still, Tree.rename]
      cases t.get? source with
      | none => rfl
      | some node => cases node <;> rfl

end Still

/-- Under its own name, in order, and neither before `since` nor after `now`. -/
structure Stamp.Fits (since now : Int) (name : String) (s : Stamp) : Prop where
  name : s.name = name
  since : since ≤ s.created
  order : s.created ≤ s.updated
  now : s.updated ≤ now

def Forest.Sound (now : Int) : Int → Forest → Prop
  | _, nil => True
  | since, file n doc rest => Path.IsName n ∧ doc.stamp.Fits since now n ∧ Sound now since rest
  | since, dir n stamp below rest =>
    Path.IsName n ∧ (stamp.Fits since now n ∧ Sound now stamp.created below) ∧ Sound now since rest

def Node.Sound (now since : Int) (name : String) : Node → Prop
  | file doc => doc.stamp.Fits since now name
  | dir stamp below => stamp.Fits since now name ∧ below.Sound now stamp.created

structure Tree.Sound (now : Int) (t : Tree) : Prop where
  ordered : t.Ordered
  root : t.root.Sound now t.stamp.created "/"

theorem Stamp.Fits.weaken {since since' now later : Int} {name : String} {s : Stamp} (h : s.Fits since now name)
    (hsince : since' ≤ since) (hnow : now ≤ later) : s.Fits since' later name :=
  ⟨h.name, Int.le_trans hsince h.since, h.order, Int.le_trans h.now hnow⟩

theorem Node.Sound.fits {node : Node} {now since : Int} {name : String} (h : node.Sound now since name) :
    node.stamp.Fits since now name := by
  cases node with
  | file doc => exact h
  | dir stamp below => exact h.1

namespace Forest

variable {now later since since' : Int} {f : Forest} {name : String} {node : Node}

theorem sound_cons : (cons name node f).Sound now since ↔
    Path.IsName name ∧ node.Sound now since name ∧ f.Sound now since := by
  cases node <;> exact Iff.rfl

theorem Sound.weaken (h : f.Sound now since) (hsince : since' ≤ since) (hnow : now ≤ later) :
    f.Sound later since' := by
  induction f generalizing since since' with
  | nil => trivial
  | file n doc rest ih => exact ⟨h.1, h.2.1.weaken hsince hnow, ih h.2.2 hsince⟩
  | dir n stamp below rest ihb ih =>
      obtain ⟨hname, ⟨hstamp, hbelow⟩, hrest⟩ := h
      exact ⟨hname, ⟨hstamp.weaken hsince hnow, ihb hbelow (Int.le_refl _)⟩, ih hrest hsince⟩

theorem Sound.find? (h : f.Sound now since) (hf : f.find? name = some node) :
    Path.IsName name ∧ node.Sound now since name := by
  induction f using entries_induction with
  | nil => cases hf
  | cons n own rest ih =>
      obtain ⟨hname, hown, hrest⟩ := sound_cons.1 h
      rw [find?_cons] at hf
      split at hf
      · rename_i hn
        cases hf
        subst hn
        exact ⟨hname, hown⟩
      · exact ih hrest hf

theorem Sound.put (h : f.Sound now since) (hname : Path.IsName name) (hnode : node.Sound now since name) :
    (f.put name node).Sound now since := by
  induction f using entries_induction with
  | nil => exact sound_cons.2 ⟨hname, hnode, trivial⟩
  | cons n own rest ih =>
      obtain ⟨hn, hown, hrest⟩ := sound_cons.1 h
      rw [put_cons]
      split
      · exact sound_cons.2 ⟨hname, hnode, hrest⟩
      · split
        · exact sound_cons.2 ⟨hname, hnode, h⟩
        · exact sound_cons.2 ⟨hn, hown, ih hrest⟩

theorem Sound.remove (h : f.Sound now since) (name : String) : (f.remove name).Sound now since := by
  induction f using entries_induction with
  | nil => trivial
  | cons n own rest ih =>
      obtain ⟨hn, hown, hrest⟩ := sound_cons.1 h
      rw [remove_cons]
      split
      · exact ih hrest
      · exact sound_cons.2 ⟨hn, hown, ih hrest⟩

end Forest

theorem Node.Sound.weaken {node : Node} {now later since since' : Int} {name : String}
    (h : node.Sound now since name) (hsince : since' ≤ since) (hnow : now ≤ later) : node.Sound later since' name := by
  cases node with
  | file doc => exact Stamp.Fits.weaken h hsince hnow
  | dir stamp below => exact ⟨h.1.weaken hsince hnow, h.2.weaken (Int.le_refl _) hnow⟩

theorem Node.Sound.at? {node found : Node} {now since : Int} {own : String} {p : List String}
    (h : node.Sound now since own) (hp : node.at? p = some found) :
    (∀ part ∈ p, Path.IsName part) ∧ found.Sound now node.stamp.created (p.getLastD own) := by
  induction p generalizing node since own with
  | nil =>
      cases hp
      refine ⟨fun part hpart => absurd hpart List.not_mem_nil, ?_⟩
      cases found with
      | file doc => exact ⟨h.name, Int.le_refl _, h.order, h.now⟩
      | dir stamp below => exact ⟨⟨h.1.name, Int.le_refl _, h.1.order, h.1.now⟩, h.2⟩
  | cons name p ih =>
      obtain ⟨child, hchild, hbelow⟩ := Option.bind_eq_some_iff.1 hp
      cases node with
      | file doc => cases hchild
      | dir stamp below =>
          obtain ⟨hname, hsound⟩ := h.2.find? hchild
          obtain ⟨hnames, hfound⟩ := ih hsound hbelow
          refine ⟨fun part hpart => ?_, ?_⟩
          · rcases List.mem_cons.1 hpart with rfl | hpart
            · exact hname
            · exact hnames part hpart
          · rw [List.getLastD_cons]
            exact hfound.weaken hsound.fits.since (Int.le_refl _)

structure Readings (clock : Nat → Int) (now later : Int) : Prop where
  first : now ≤ clock 0
  next : ∀ i, clock i ≤ clock (i + 1)
  last : ∀ i, clock i ≤ later

namespace Readings

variable {clock : Nat → Int} {now later : Int} (h : Readings clock now later)

include h

theorem now_le (i : Nat) : now ≤ clock i := by
  induction i with
  | zero => exact h.first
  | succ i ih => exact Int.le_trans ih (h.next i)

theorem le : now ≤ later := Int.le_trans h.first (h.last 0)

theorem made (i : Nat) (name : String) {since : Int} (hsince : since ≤ clock i) :
    (Stamp.made clock i name).Fits since later name :=
  ⟨rfl, hsince, h.next i, h.last (i + 1)⟩

end Readings

namespace Forest

def Keeps (now later : Int) (clock : Nat → Int) (act : Nat → Forest → Forest × Except FileError Unit) : Prop :=
  ∀ i since f, since ≤ clock i → f.Ordered → f.Sound now since →
    (act i f).1.Ordered ∧ (act i f).1.Sound later since

variable {clock : Nat → Int} {now later since : Int} {f f' : Forest}

theorem keeps_descendBy (hclock : Readings clock now later) {act : Nat → Forest → Forest × Except FileError Unit}
    (hact : Keeps now later clock act) {path : List String} (hpath : ∀ name ∈ path, Path.IsName name) :
    Keeps now later clock fun i => descendBy clock act i path := by
  induction path with
  | nil => exact hact
  | cons name path ih =>
      intro i since f hsince hordered hsound
      have hname : Path.IsName name := hpath name (List.mem_cons_self ..)
      have ih := ih fun m hm => hpath m (List.mem_cons_of_mem _ hm)
      have hlater : f.Sound later since := hsound.weaken (Int.le_refl _) hclock.le
      simp only [descendBy]
      cases hfind : f.find? name with
      | none =>
          have hnext : clock i ≤ clock (i + 2) := Int.le_trans (hclock.next i) (hclock.next (i + 1))
          obtain ⟨hbo, hbs⟩ := ih (i + 2) (clock i) .nil hnext trivial trivial
          exact ⟨hordered.put name hbo, hlater.put hname ⟨hclock.made i name hsince, hbs⟩⟩
      | some node =>
          obtain ⟨-, hnode⟩ := hsound.find? hfind
          cases node with
          | file doc => exact ⟨hordered, hlater⟩
          | dir stamp below =>
              have hold : stamp.created ≤ clock i :=
                Int.le_trans (Int.le_trans hnode.1.order hnode.1.now) (hclock.now_le i)
              obtain ⟨hbo, hbs⟩ := ih i stamp.created below hold (hordered.find? hfind) hnode.2
              exact ⟨hordered.put name hbo,
                hlater.put hname ⟨hnode.1.weaken (Int.le_refl _) hclock.le, hbs⟩⟩

theorem detach_sound {path : List String} (hordered : f.Ordered) (hsound : f.Sound now since)
    (h : f.detach path = some f') : f'.Ordered ∧ f'.Sound now since := by
  induction path generalizing f f' since with
  | nil =>
      cases h
      exact ⟨hordered, hsound⟩
  | cons name path ih =>
      cases path with
      | nil =>
          cases h
          exact ⟨hordered.remove name, hsound.remove name⟩
      | cons next path =>
          rw [detach] at h
          split at h
          · rename_i stamp below hfind
            obtain ⟨below', hbelow, rfl⟩ := Option.map_eq_some_iff.1 h
            obtain ⟨hname, hnode⟩ := hsound.find? hfind
            obtain ⟨hbo, hbs⟩ := ih (hordered.find? hfind) hnode.2 hbelow
            exact ⟨hordered.put name hbo, hsound.put hname ⟨hnode.1, hbs⟩⟩
          · cases h

theorem modify_sound {change : Node → Node} (hle : now ≤ later)
    (hchange : ∀ since own node, node.Ordered → node.Sound now since own →
      (change node).Ordered ∧ (change node).Sound later since own)
    (path : List String) (hordered : f.Ordered) (hsound : f.Sound now since) :
    (f.modify change path).Ordered ∧ (f.modify change path).Sound later since := by
  have hstays (f : Forest) (since : Int) (hf : f.Sound now since) : f.Sound later since :=
    hf.weaken (Int.le_refl _) hle
  induction path generalizing f since with
  | nil => exact ⟨hordered, hstays f since hsound⟩
  | cons name path ih =>
      cases path with
      | nil =>
          rw [modify]
          cases hfind : f.find? name with
          | none => exact ⟨hordered, hstays f since hsound⟩
          | some node =>
              obtain ⟨hname, hnode⟩ := hsound.find? hfind
              obtain ⟨ho, hs⟩ := hchange since name node (hordered.find? hfind) hnode
              exact ⟨hordered.put name ho, (hstays f since hsound).put hname hs⟩
      | cons next path =>
          rw [modify]
          split
          · rename_i stamp below hfind
            obtain ⟨hname, hnode⟩ := hsound.find? hfind
            obtain ⟨hbo, hbs⟩ := ih (hordered.find? hfind) hnode.2
            exact ⟨hordered.put name hbo,
              (hstays f since hsound).put hname ⟨hnode.1.weaken (Int.le_refl _) hle, hbs⟩⟩
          · exact ⟨hordered, hstays f since hsound⟩

end Forest

namespace Tree

variable {clock : Nat → Int} {now later : Int} {t : Tree}

theorem Sound.wait (h : t.Sound now) (hle : now ≤ later) : t.Sound later :=
  ⟨h.1, h.2.weaken (Int.le_refl _) hle⟩

theorem Sound.descendBy (h : t.Sound now) (hclock : Readings clock now later)
    {act : Nat → Forest → Forest × Except FileError Unit} (hact : Forest.Keeps now later clock act)
    {path : List String} (hpath : ∀ name ∈ path, Path.IsName name) : (t.descendBy clock act path).1.Sound later := by
  obtain ⟨hordered, hstamp, hentries⟩ := h
  have hroot : t.stamp.created ≤ clock 0 := Int.le_trans (Int.le_trans hstamp.order hstamp.now) hclock.first
  obtain ⟨ho, hs⟩ := Forest.keeps_descendBy hclock hact hpath 0 t.stamp.created t.entries hroot hordered hentries
  exact ⟨ho, hstamp.weaken (Int.le_refl _) hclock.le, hs⟩

theorem Sound.writeBy (h : t.Sound now) (hclock : Readings clock now later) (path content : String) :
    (t.writeBy clock path content).1.Sound later := by
  rw [Tree.writeBy]
  cases hlast : (Path.split path).getLast? with
  | none => exact h.wait hclock.le
  | some name =>
      have hname : Path.IsName name := Path.isName_of_mem_split (List.mem_of_getLast? hlast)
      refine h.descendBy hclock (fun i since f hsince hordered hsound => ?_) fun m hm =>
        Path.isName_of_mem_split (List.dropLast_subset _ hm)
      have hlater : f.Sound later since := hsound.weaken (Int.le_refl _) hclock.le
      have hfile : (Node.file ⟨content, .made clock i name⟩).Sound later since name := hclock.made i name hsince
      cases f.find? name with
      | none => exact ⟨hordered.put name trivial, hlater.put hname hfile⟩
      | some node =>
          cases node with
          | file doc => exact ⟨hordered.put name trivial, hlater.put hname hfile⟩
          | dir stamp below => exact ⟨hordered, hlater⟩

theorem Sound.rm (h : t.Sound now) (path : String) : (t.rm path).1.Sound now := by
  rw [Tree.rm]
  cases hd : t.entries.detach (Path.split path) with
  | none => exact h
  | some entries =>
      obtain ⟨hordered, hstamp, hentries⟩ := h
      obtain ⟨ho, hs⟩ := Forest.detach_sound hordered hentries hd
      exact ⟨ho, hstamp, hs⟩

theorem Sound.rmdir (h : t.Sound now) (path : String) : (t.rmdir path).1.Sound now := by
  rw [Tree.rmdir]
  split
  · exact h
  · exact h
  · exact h.rm path
  · exact h

theorem Sound.modify {change : Node → Node} (h : t.Sound now) (hle : now ≤ later)
    (hdir : ∀ stamp below, ∃ updated, change (.dir stamp below) = .dir { stamp with updated } below)
    (hchange : ∀ since own node, node.Ordered → node.Sound now since own →
      (change node).Ordered ∧ (change node).Sound later since own)
    (path : List String) : (t.modify change path).Sound later := by
  obtain ⟨hordered, hroot⟩ := h
  cases path with
  | nil =>
      obtain ⟨updated, heq⟩ := hdir t.stamp t.entries
      have hnew := (hchange t.stamp.created "/" t.root hordered hroot).2
      rw [Tree.modify, heq]
      rw [Tree.root, heq] at hnew
      exact ⟨hordered, hnew⟩
  | cons name path =>
      obtain ⟨ho, hs⟩ := Forest.modify_sound hle hchange (name :: path) hordered hroot.2
      exact ⟨ho, hroot.1.weaken (Int.le_refl _) hle, hs⟩

variable (hclock : Readings clock now later)

include hclock

theorem Sound.touch (h : t.Sound now) {path : String} (hget : t.get? path ≠ none) :
    (t.touch (clock 0) path).1.Sound later := by
  rw [Tree.touch]
  cases hnode : t.get? path with
  | none => exact absurd hnode hget
  | some found =>
      have hdir (stamp : Stamp) (below : Forest) : ∃ updated,
          (Node.dir stamp below).touch (clock 0) = .dir { stamp with updated } below := ⟨clock 0, rfl⟩
      refine h.modify hclock.le hdir (fun since own node ho hs => ?_) _
      have hup : node.stamp.created ≤ clock 0 :=
        Int.le_trans (Int.le_trans hs.fits.order hs.fits.now) hclock.first
      cases node with
      | file doc => exact ⟨trivial, hs.name, hs.since, hup, hclock.last 0⟩
      | dir stamp below => exact ⟨ho, ⟨hs.1.name, hs.1.since, hup, hclock.last 0⟩, hs.2.weaken (Int.le_refl _) hclock.le⟩

theorem Sound.append (h : t.Sound now) {path : String} (content : String) (hget : t.get? path ≠ none) :
    (t.append (clock 0) path content).1.Sound later := by
  rw [Tree.append]
  cases hnode : t.get? path with
  | none => exact absurd hnode hget
  | some found =>
      cases found with
      | dir stamp below => exact h.wait hclock.le
      | file doc =>
          have hdir (stamp : Stamp) (below : Forest) : ∃ updated,
              (Node.dir stamp below).append (clock 0) content = .dir { stamp with updated } below :=
            ⟨stamp.updated, rfl⟩
          refine h.modify hclock.le hdir (fun since own node ho hs => ?_) _
          have hup : node.stamp.created ≤ clock 0 :=
            Int.le_trans (Int.le_trans hs.fits.order hs.fits.now) hclock.first
          cases node with
          | file doc => exact ⟨trivial, hs.name, hs.since, hup, hclock.last 0⟩
          | dir stamp below => exact ⟨ho, hs.weaken (Int.le_refl _) hclock.le⟩

theorem Sound.performBy (h : t.Sound now) (op : FileOp) : (op.performBy clock t).1.Sound later := by
  have hlater : t.Sound later := h.wait hclock.le
  cases op with
  | mkdir path =>
      rw [FileOp.performBy]
      split
      · exact hlater
      · exact h.descendBy hclock
          (fun i since f _ ho hs => ⟨ho, hs.weaken (Int.le_refl _) hclock.le⟩) fun m hm => Path.isName_of_mem_split hm
  | write path content => exact h.writeBy hclock path content
  | append path content =>
      rw [FileOp.performBy]
      split
      · exact h.writeBy hclock path content
      · rename_i hget
        exact h.append hclock content (by rw [hget]; simp)
  | touch path =>
      rw [FileOp.performBy]
      split
      · exact h.writeBy hclock path ""
      · rename_i hget
        exact h.touch hclock (by rw [hget]; simp)
  | rm path => exact hlater.rm path
  | rmdir path => exact hlater.rmdir path
  | copy source target =>
      rw [FileOp.performBy]
      split
      · exact h.writeBy hclock target _
      · rename_i hnot
        rw [Tree.copy]
        split
        · exact hlater
        · exact hlater
        · rename_i doc hget
          exact absurd hget (hnot doc)
  | rename source target =>
      rw [FileOp.performBy]
      split
      · rename_i doc hget
        have hwrite := h.writeBy hclock target doc.content
        split
        · rename_i t' e hw
          rw [hw] at hwrite
          exact hwrite
        · rename_i t' hw
          rw [hw] at hwrite
          split
          · exact hwrite
          · exact hwrite.rm source
      · rename_i hnot
        rw [Tree.rename]
        split
        · exact hlater
        · exact hlater
        · rename_i doc hget
          exact absurd hget (hnot doc)

end Tree

end Terminal
