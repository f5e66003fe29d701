import Terminal.Proofs.Completion.Candidates
import Terminal.Proofs.Files.Drawing
import Terminal.Proofs.Session.Answering

namespace Terminal

open Commands

def Text.StandsAt (line : String) (place : Nat) (text : String) : Prop := text.toList <+: line.toList.drop place

namespace Forest

variable {f : Forest}

theorem sketch_entries (f : Forest) :
    List.Forall₂ (fun e line => line = "├── " ++ e.1 ++ e.2.mark ∨ line = "└── " ++ e.1 ++ e.2.mark)
      f.entries (f.sketch "" 1) := by
  induction f using entries_induction with
  | nil => exact .nil
  | cons name node rest ih =>
      rw [entries_cons, sketch_cons, sketch, List.nil_append]
      refine .cons ?_ ih
      rw [String.empty_append, branch]
      split
      · exact .inr rfl
      · exact .inl rfl

end Forest

namespace Node

def stat (path : String) (node : Node) : Tree.Stat := ⟨path, Path.name path, node.isDir, node.size,
  node.stamp.created, node.stamp.updated⟩

def date (node : Node) : String := (stampText node.stamp.updated).toOption.getD ""

theorem stampText_eq (node : Node) (h : ∃ text, stampText node.stamp.updated = .ok text) :
    stampText node.stamp.updated = .ok node.date := by
  obtain ⟨text, htext⟩ := h
  rw [date, htext]
  rfl

end Node

namespace Tree

variable {t : Tree} {path : String} {node : Node}

def Dated (t : Tree) : Prop := ∀ q node, t.node? q = some node → ∃ text, stampText node.stamp.updated = .ok text

theorem stat_of_get? (h : t.get? path = some node) : t.stat path = .ok (node.stat path) := by
  rw [stat, h]
  rfl

theorem drawing_one (ht : t.Ordered) {stamp : Stamp} {below : Forest} (h : t.get? path = some (.dir stamp below)) :
    t.drawing levelLimit path 1 = .ok ("\n".intercalate (Path.header path :: below.sketch "" 1)) :=
  have hroom : ¬ t.Outruns path levelLimit 1 := fun hout => absurd hout.1 (by decide)
  drawing_eq ht h hroom

theorem node?_child {stamp : Stamp} {below : Forest} (h : t.get? path = some (.dir stamp below)) (name : String) :
    t.node? (Path.split path ++ [name]) = below.find? name := by
  rw [node?_below h, Node.at?_cons, Node.child?_dir]
  cases below.find? name <;> rfl

end Tree

namespace Commands

theorem mapM_of_ok {α β ε : Type} {f : α → Except ε β} {g : α → β} {l : List α} (h : ∀ a ∈ l, f a = .ok (g a)) :
    l.mapM f = .ok (l.map g) := by
  induction l with
  | nil => rfl
  | cons a l ih =>
      obtain ⟨ha, hl⟩ := List.forall_mem_cons.1 h
      rw [List.mapM_cons, ha, ih hl]
      rfl

def longRow (width : Nat) (shown : String) (node : Node) : String :=
  Text.padRight shown width ++ "  " ++ Text.padRight (if node.isDir then "dir" else "file") 4 ++ "  " ++
    Text.padRight (toString node.size) 6 ++ "  " ++ node.date

theorem standsAt_padRight {shown : String} {width : Nat} (h : shown.length ≤ width) (text rest : String) :
    Text.StandsAt (Text.padRight shown width ++ "  " ++ text ++ rest) (width + 2) text := by
  have hlength : (Text.padRight shown width ++ "  ").toList.length = width + 2 := by
    have hpad := Text.length_padRight shown width
    rw [String.length_toList, String.length_append]
    have htwo : "  ".length = 2 := rfl
    omega
  rw [Text.StandsAt, String.append_assoc, String.toList_append, ← hlength, List.drop_left, String.toList_append]
  exact List.prefix_append ..

theorem standsAt_longRow {shown : String} {width : Nat} (h : shown.length ≤ width) (node : Node) :
    Text.StandsAt (longRow width shown node) (width + 2) (if node.isDir then "dir" else "file") := by
  have hrow : longRow width shown node = Text.padRight shown width ++ "  " ++ kindText node.isDir ++
      (.ofList (List.replicate (4 - (kindText node.isDir).length : Int).toNat ' ') ++ "  " ++
        Text.padRight (toString node.size) 6 ++ "  " ++ node.date) := by
    simp only [longRow, kindText, Text.padRight, String.append_assoc]
  rw [hrow]
  exact standsAt_padRight h _ _

def Row.line (width : Int) (r : Row) : String :=
  Text.padRight r.shown width ++ "  " ++ Text.padRight (kindText r.stat.isDir) columns.kind ++ "  " ++
    Text.padRight (toString r.stat.size) columns.size ++ "  " ++ (stampText r.stat.updated).toOption.getD ""

theorem Row.text_eq {r : Row} (h : ∃ text, stampText r.stat.updated = .ok text) (width : Int) :
    r.text width = .ok (r.line width) := by
  obtain ⟨text, htext⟩ := h
  rw [Row.text, Row.line, htext]
  rfl

theorem exists_width (rows : List Row) (least : Nat) :
    ∃ width : Nat, rows.foldl (fun w r => max w (r.shown.length : Int)) (least : Int) = width ∧ least ≤ width ∧
      ∀ r ∈ rows, r.shown.length ≤ width := by
  induction rows generalizing least with
  | nil => exact ⟨least, rfl, Nat.le_refl least, nofun⟩
  | cons r rows ih =>
      obtain ⟨width, hwidth, hleast, hrows⟩ := ih (max least r.shown.length)
      refine ⟨width, ?_, by omega, List.forall_mem_cons.2 ⟨by omega, hrows⟩⟩
      rw [← hwidth, List.foldl_cons]
      congr 1
      omega

structure Entry where
  shown : String
  node : Node
  path : String

def Entry.row (e : Entry) : Row := ⟨e.shown, e.node.stat e.path⟩

def ownEntries (path : String) (here above : Node) : List Entry :=
  [⟨".", here, path⟩, ⟨"..", above, Path.parent path⟩]

def childEntries (path : String) (here : Node) : List Entry :=
  here.below.entries.map fun e => ⟨e.1 ++ e.2.mark, e.2, Path.resolve path e.1⟩

def longEntries (path : String) (all : Bool) (here above : Node) : List Entry :=
  (if all then ownEntries path here above else []) ++ childEntries path here

theorem map_longEntries (path : String) (all : Bool) (here above : Node) :
    (longEntries path all here above).map (fun e => (e.shown, e.node)) =
      (if all then [(".", here), ("..", above)] else []) ++ here.below.entries.map fun e => (e.1 ++ e.2.mark, e.2) := by
  rw [longEntries, childEntries, List.map_append, List.map_map]
  cases all <;> rfl

theorem longListing_of_rows {v : View} {path : String} {all : Bool} {own children : List Row}
    (hown : (if all then ownRows v path else .ok []) = .ok own)
    (hchildren : (v.list path).mapM (childRow v path) = .ok children)
    (hdated : ∀ r ∈ own ++ children, ∃ text, stampText r.stat.updated = .ok text) :
    ∃ width : Nat, 4 ≤ width ∧ (∀ r ∈ own ++ children, r.shown.length ≤ width) ∧
      longListing v path all = .ok ((Text.padRight "name" width ++ "  type  size  updated") ::
        .ofList (List.replicate (width + 32) '-') :: (own ++ children).map (Row.line width)) := by
  obtain ⟨width, hwidth, hleast, hfit⟩ := exists_width (own ++ children) 4
  have htexts : (own ++ children).mapM (Row.text width) = .ok ((own ++ children).map (Row.line width)) :=
    mapM_of_ok fun r hr => r.text_eq (hdated r hr) width
  have hlisting : longListing v path all =
      (if all then ownRows v path else .ok []).bind fun own =>
        ((v.list path).mapM (childRow v path)).bind fun children =>
          let width := (own ++ children).foldl (fun w r => max w (r.shown.length : Int)) 4
          ((own ++ children).mapM (Row.text width)).bind fun texts =>
            .ok ((Text.padRight "name" width ++ "  type  size  updated") ::
              .ofList (List.replicate (width.toNat + 32) '-') :: texts) := by
    cases all <;> rfl
  refine ⟨width, hleast, hfit, ?_⟩
  rw [hlisting, hown, hchildren]
  dsimp only [Except.bind]
  rw [show ((4 : Int)) = ((4 : Nat) : Int) from rfl, hwidth, htexts, Int.toNat_natCast]

theorem longListing_congr {v v' : View} (hfiles : v'.files = v.files) (hcwd : v'.cwd = v.cwd) (path : String)
    (all : Bool) : longListing v' path all = longListing v path all := by
  have hlist : v'.list path = v.list path := by rw [View.list, View.list, View.resolve, View.resolve, hfiles, hcwd]
  have hstat : v'.stat = v.stat := by
    funext p
    rw [View.stat, View.stat, View.resolve, View.resolve, hfiles, hcwd]
  have hchild : childRow v' path = childRow v path := by
    funext name
    rw [childRow, childRow, hstat]
  rw [longListing, longListing, ownRows, ownRows, hlist, hstat, hchild]

structure Opens (v : View) (path : String) (stamp : Stamp) (below : Forest) : Prop where
  grown : v.files.Grown
  plain : ∀ q, (v.files.item? q).isSome → ∀ part ∈ q, Path.IsPlain part
  settled : v.resolve path = path
  found : v.files.get? path = some (.dir stamp below)

namespace Opens

variable {v : View} {path name : String} {stamp : Stamp} {below : Forest} {above node : Node}

theorem list_eq (h : Opens v path stamp below) : v.list path = below.names := by
  rw [View.list, h.settled, Tree.list, h.found]

theorem isPlain (h : Opens v path stamp below) : ∀ part ∈ Path.split path, Path.IsPlain part :=
  h.plain _ (by rw [Tree.item?_split, h.found]; rfl)

theorem isComponent (h : Opens v path stamp below) (hchild : (name, node) ∈ below.entries) : Path.IsComponent name := by
  have hmem : name ∈ below.names := Forest.map_fst_entries below ▸ List.mem_map_of_mem (f := Prod.fst) hchild
  let src : Completion.Source := ⟨[], v.files, ""⟩
  have hlist : name ∈ src.files.list path := by rwa [Tree.list, h.found]
  exact Completion.isComponent_of_mem_list h.grown h.plain hlist

theorem mem_entries_iff (h : Opens v path stamp below) :
    (name, node) ∈ below.entries ↔ v.files.node? (Path.split path ++ [name]) = some node := by
  rw [(Tree.ordered_below h.grown.ordered h.found).mem_entries_iff, Tree.node?_child h.found]

theorem exists_above (h : Opens v path stamp below) :
    ∃ above, v.files.node? (Path.split path).dropLast = some above := by
  have hnode : v.files.root.at? (Path.split path) = some (.dir stamp below) := (Tree.get?_eq_at? _ _).symm.trans h.found
  rcases List.eq_nil_or_concat (Path.split path) with hnil | ⟨parts, last, hsplit⟩
  · exact ⟨.dir v.files.stamp v.files.entries, by rw [hnil]; rfl⟩
  · rw [hsplit, List.concat_eq_append, Node.at?_append] at hnode
    obtain ⟨above, habove, -⟩ := Option.bind_eq_some_iff.1 hnode
    rw [hsplit, List.concat_eq_append, List.dropLast_concat, Tree.node?_eq_at?]
    exact ⟨above, habove⟩

theorem get?_child (h : Opens v path stamp below) (hchild : (name, node) ∈ below.entries) :
    v.resolve (Path.resolve path name) = Path.resolve path name ∧
      v.files.get? (Path.resolve path name) = some node := by
  have hname := h.isComponent hchild
  constructor
  · rw [Path.resolve_name hname.isName (Path.isComponent_iff.1 hname).2.1]
    exact Path.resolve_absolute _ _
  · rw [Tree.get?, Path.split_resolve_name h.isPlain hname]
    exact h.mem_entries_iff.1 hchild

theorem get?_parent (habove : v.files.node? (Path.split path).dropLast = some above) :
    v.files.get? (Path.parent path) = some above := by
  have hsplit : Path.split (Path.parent path) = (Path.split path).dropLast :=
    Path.split_absolute fun part hpart => Path.isName_of_mem_split (List.dropLast_subset _ hpart)
  rw [Tree.get?, hsplit, habove]

theorem get?_entry (h : Opens v path stamp below) (habove : v.files.node? (Path.split path).dropLast = some above)
    {all : Bool} {e : Entry} (he : e ∈ longEntries path all (.dir stamp below) above) :
    v.files.get? e.path = some e.node := by
  rcases List.mem_append.1 he with he | he
  · cases all with
    | false => cases he
    | true =>
        rcases List.mem_cons.1 he with rfl | he
        · exact h.found
        · cases List.mem_singleton.1 he
          exact get?_parent habove
  · obtain ⟨⟨name, node⟩, hchild, rfl⟩ := List.mem_map.1 he
    exact (h.get?_child hchild).2

theorem childRow_eq (h : Opens v path stamp below) (hchild : (name, node) ∈ below.entries) :
    childRow v path name = .ok (Entry.row ⟨name ++ node.mark, node, Path.resolve path name⟩) := by
  obtain ⟨hresolve, hget⟩ := h.get?_child hchild
  rw [childRow, View.stat, hresolve, Tree.stat_of_get? hget]
  cases node with
  | file doc => exact congrArg (fun shown => Except.ok (Row.mk shown _)) String.append_empty.symm
  | dir stamp below => rfl

theorem ownRows_eq (h : Opens v path stamp below) (habove : v.files.node? (Path.split path).dropLast = some above) :
    ownRows v path = .ok ((ownEntries path (.dir stamp below) above).map Entry.row) := by
  have hresolve : v.resolve (Path.parent path) = Path.parent path := Path.resolve_absolute _ _
  rw [ownRows, View.stat, View.stat, h.settled, hresolve, Tree.stat_of_get? h.found,
    Tree.stat_of_get? (get?_parent habove)]
  rfl

theorem longListing_eq (h : Opens v path stamp below) (habove : v.files.node? (Path.split path).dropLast = some above)
    (hdated : v.files.Dated) (all : Bool) :
    ∃ width : Nat, 4 ≤ width ∧ (∀ e ∈ longEntries path all (.dir stamp below) above, e.shown.length ≤ width) ∧
      longListing v path all = .ok ((Text.padRight "name" width ++ "  type  size  updated") ::
        .ofList (List.replicate (width + 32) '-') ::
        (longEntries path all (.dir stamp below) above).map fun e => longRow width e.shown e.node) := by
  have hown : (if all then ownRows v path else .ok []) =
      .ok ((if all then ownEntries path (.dir stamp below) above else []).map Entry.row) := by
    cases all with
    | true => exact h.ownRows_eq habove
    | false => rfl
  have hchildren : (v.list path).mapM (childRow v path) = .ok ((childEntries path (.dir stamp below)).map Entry.row) := by
    rw [h.list_eq, ← Forest.map_fst_entries, List.mapM_map, childEntries, List.map_map]
    exact mapM_of_ok fun e he => h.childRow_eq he
  have hlisting := longListing_of_rows hown hchildren
  rw [← List.map_append] at hlisting
  obtain ⟨width, hleast, hfit, hlines⟩ := hlisting fun r hr => by
    obtain ⟨e, he, rfl⟩ := List.mem_map.1 hr
    exact hdated _ _ (h.get?_entry habove he)
  rw [List.map_map] at hlines
  exact ⟨width, hleast, fun e he => hfit _ (List.mem_map_of_mem he), hlines⟩

theorem congr {v' : View} (h : Opens v path stamp below) (hfiles : v'.files = v.files) (hcwd : v'.cwd = v.cwd) :
    Opens v' path stamp below where
  grown := hfiles ▸ h.grown
  plain := hfiles ▸ h.plain
  settled := by rw [View.resolve, hcwd]; exact h.settled
  found := hfiles ▸ h.found

theorem isDir (h : Opens v path stamp below) : v.isDir path = true ∧ v.exists? path = true := by
  rw [View.isDir, View.exists?, h.settled, Tree.isDir, Tree.exists?, h.found]
  exact ⟨rfl, rfl⟩

end Opens

theorem opens_resolve {v : View} (hfiles : v.files.Grown)
    (hplain : ∀ q, (v.files.item? q).isSome → ∀ part ∈ q, Path.IsPlain part) (hcwd : Path.Canonical v.cwd)
    {typed : String} (hdir : v.files.isDir (v.resolve typed) = true) :
    ∃ stamp below, Opens v (v.resolve typed) stamp below := by
  rw [Tree.isDir] at hdir
  cases hget : v.files.get? (v.resolve typed) with
  | none => simp [hget] at hdir
  | some node =>
      cases node with
      | file doc => simp [hget, Node.isDir] at hdir
      | dir stamp below => exact ⟨stamp, below, hfiles, hplain, Path.resolve_idem hcwd typed, hget⟩

end Commands

namespace Session

variable {s : Session} {stamp : Stamp} {below : Forest} {above : Node} {typed : String} {args : List String}

section Ls

variable (h : Opens (s.view []) (Path.resolve s.cwd typed) stamp below)
variable (htyped : (Arguments.positional args).headD "." = typed)

include h htyped

theorem answers_ls (hshort : Arguments.hasFlag args 'l' = false) :
    s.Answers "ls" args
      ["  ".intercalate ((if Arguments.hasFlag args 'a' then [".", ".."] else []) ++ below.names)] := by
  have hbuiltin : ∃ c, Registry.builtin.get? "ls" = some c ∧ c.handler = ls :=
    exists_builtin (by decide +kernel) (by decide) (by simp [builtins])
  refine answers_of_yields hbuiltin fun s' hstays => yields_report fun prior => ?_
  have hopens : Opens (s'.view prior) (Path.resolve s.cwd typed) stamp below := h.congr hstays.files hstays.cwd
  have hpath : (s'.view prior).resolve typed = Path.resolve s.cwd typed := congrArg (Path.resolve · typed) hstays.cwd
  dsimp only
  rw [htyped, hpath, hopens.isDir.1, hopens.isDir.2, hshort]
  simp only [Bool.not_true, Bool.false_eq_true, if_false, line, shortListing, hopens.list_eq]

theorem answers_ls_long (hlong : Arguments.hasFlag args 'l' = true)
    (habove : s.files.node? (Path.split (Path.resolve s.cwd typed)).dropLast = some above) (hdated : s.files.Dated) :
    let entries := longEntries (Path.resolve s.cwd typed) (Arguments.hasFlag args 'a') (.dir stamp below) above
    ∃ width : Nat, 4 ≤ width ∧ (∀ e ∈ entries, e.shown.length ≤ width) ∧
      s.Answers "ls" args ((Text.padRight "name" width ++ "  type  size  updated") ::
        .ofList (List.replicate (width + 32) '-') :: entries.map fun e => longRow width e.shown e.node) := by
  intro entries
  have hbuiltin : ∃ c, Registry.builtin.get? "ls" = some c ∧ c.handler = ls :=
    exists_builtin (by decide +kernel) (by decide) (by simp [builtins])
  obtain ⟨width, hleast, hfit, hlisting⟩ := h.longListing_eq habove hdated (Arguments.hasFlag args 'a')
  refine ⟨width, hleast, hfit, ?_⟩
  refine answers_of_yields hbuiltin fun s' hstays => yields_report fun prior => ?_
  have hopens : Opens (s'.view prior) (Path.resolve s.cwd typed) stamp below := h.congr hstays.files hstays.cwd
  have hpath : (s'.view prior).resolve typed = Path.resolve s.cwd typed := congrArg (Path.resolve · typed) hstays.cwd
  have hsame (path : String) (all : Bool) : longListing (s'.view prior) path all = longListing (s.view []) path all :=
    longListing_congr hstays.files hstays.cwd path all
  dsimp only
  rw [htyped, hpath, hopens.isDir.1, hopens.isDir.2, hlong, hsame, hlisting]
  rfl

end Ls

theorem answers_tree (h : Opens (s.view []) (Path.resolve s.cwd typed) stamp below) (rest : List String) :
    s.Answers "tree" (typed :: "1" :: rest) (Text.lines
      ("\n".intercalate (Path.header (Path.resolve s.cwd typed) :: below.sketch "" 1))) := by
  have hbuiltin : ∃ c, Registry.builtin.get? "tree" = some c ∧ c.handler = tree :=
    exists_builtin (by decide +kernel) (by decide) (by simp [builtins])
  have hone : number "1" = .ok (some 1) := by rfl
  refine answers_of_yields hbuiltin fun s' hstays => yields_report fun prior => ?_
  have hopens : Opens (s'.view prior) (Path.resolve s.cwd typed) stamp below := h.congr hstays.files hstays.cwd
  have hpath : (s'.view prior).resolve typed = Path.resolve s.cwd typed := congrArg (Path.resolve · typed) hstays.cwd
  have hdrawing : (s'.view prior).drawing (Path.resolve s.cwd typed) 1 =
      .ok ("\n".intercalate (Path.header (Path.resolve s.cwd typed) :: below.sketch "" 1)) := by
    rw [View.drawing, hopens.settled]
    exact Tree.drawing_one hopens.grown.ordered hopens.found
  dsimp only [List.headD_cons]
  rw [hone, hpath, hopens.isDir.1, hopens.isDir.2]
  exact congrArg (fun drawn => (orFault drawn).bind fun text => lines (Text.lines text)) hdrawing

theorem candidates_slash (h : Opens (s.view []) (Path.resolve s.cwd typed) stamp below) (hcwd : Path.Canonical s.cwd)
    (hne : typed ≠ "") {line : String} {earlier : List String} (hearlier : earlier ≠ [])
    (hwords : Text.words line = earlier ++ [typed ++ "/"]) :
    Completion.candidates s.source (typed ++ "/") line =
      below.entries.map fun e => typed ++ "/" ++ e.1 ++ e.2.mark := by
  have hstart : Text.startsWith (typed ++ "/") "/" = Text.startsWith typed "/" := Path.startsWith_append hne "/"
  have hsplit : Path.split (Path.resolve s.cwd (Completion.lookupPath (typed ++ "/"))) =
      Path.split (Path.resolve s.cwd typed) := by
    rw [Completion.split_resolve_lookupPath hcwd]
    exact Path.split_resolve_congr hcwd hstart (Path.split_concat_slash typed)
  have hcut : Path.cutLast (typed ++ "/") = (typed ++ "/", "") := by
    have hhead : Path.IsHead (typed ++ "/") := .inr ⟨typed, rfl⟩
    have hcut : Path.cutLast (typed ++ "/" ++ "") = (typed ++ "/", "") := Path.cutLast_append hhead (by simp)
    rwa [String.append_empty] at hcut
  have hnames : Completion.entryNames s.source (typed ++ "/") = below.entries.map Prod.fst := by
    have hlist : s.files.list (Path.resolve s.cwd (Completion.lookupPath (typed ++ "/"))) = below.names := by
      have hget : s.files.node? (Path.split (Path.resolve s.cwd typed)) = some (.dir stamp below) := h.found
      rw [Tree.list, Tree.get?, hsplit, hget]
    rw [Completion.entryNames, hcut, Forest.map_fst_entries]
    exact (List.filter_eq_self.2 fun name _ => by simp [Text.startsWith]).trans hlist
  rw [Completion.candidates_of_later hearlier hwords, Completion.pathCandidates_eq, hnames, hcut, List.map_map,
    List.map_map]
  refine List.map_congr_left fun e he => ?_
  obtain ⟨name, node⟩ := e
  have hplain : ∀ part ∈ Path.split (Path.resolve s.cwd (Completion.lookupPath (typed ++ "/"))), Path.IsPlain part := by
    rw [hsplit]
    exact h.isPlain
  have hmark : s.files.isDir (Path.resolve (Path.resolve s.cwd (Completion.lookupPath (typed ++ "/"))) name) =
      node.isDir := by
    have hnode : s.files.node? (Path.split (Path.resolve s.cwd typed) ++ [name]) = some node := h.mem_entries_iff.1 he
    rw [Tree.isDir, Tree.get?, Path.split_resolve_name hplain (h.isComponent he), hsplit, hnode]
    rfl
  have hfiles : s.source.files = s.files := rfl
  have hwhere : s.source.cwd = s.cwd := rfl
  simp only [Function.comp, Completion.text_eq, hfiles, hwhere, hmark, Node.mark]

/-- Whatever lists a directory shows its entries, sorted, each with what is known of the node itself. `tree` needs names
that stay on their line. -/
theorem listings_agree (hfiles : s.files.Grown) (hplain : ∀ q, (s.files.item? q).isSome → ∀ part ∈ q, Path.IsPlain part)
    (hdated : s.files.Dated) (hcwd : Path.Canonical s.cwd)
    (hdir : s.files.isDir (Path.resolve s.cwd typed) = true) :
    let path := Path.resolve s.cwd typed
    ∃ here above children, s.files.get? path = some here ∧
      s.files.node? (Path.split path).dropLast = some above ∧
      ((children.map Prod.fst).Pairwise (· < ·) ∧ ∀ name node, (name, node) ∈ children ↔
        s.files.node? (Path.split path ++ [name]) = some node) ∧
      (∀ args, (Arguments.positional args).headD "." = typed → Arguments.hasFlag args 'l' = false → s.Answers "ls" args
        ["  ".intercalate ((if Arguments.hasFlag args 'a' then [".", ".."] else []) ++ children.map Prod.fst)]) ∧
      (∀ args, (Arguments.positional args).headD "." = typed → Arguments.hasFlag args 'l' = true →
        let entries := (if Arguments.hasFlag args 'a' then [(".", here), ("..", above)] else []) ++
          children.map fun e => (e.1 ++ e.2.mark, e.2)
        ∃ width : Nat,
          let header := Text.padRight "name" width ++ "  type  size  updated"
          s.Answers "ls" args (header :: .ofList (List.replicate (width + 32) '-') ::
            entries.map fun e => longRow width e.1 e.2) ∧
          Text.StandsAt header (width + 2) "type" ∧
          ∀ e ∈ entries, Text.StandsAt (longRow width e.1 e.2) (width + 2) (if e.2.isDir then "dir" else "file") ∧
            stampText e.2.stamp.updated = .ok e.2.date) ∧
      ((∀ n ∈ Path.split path ++ children.map Prod.fst, '\n' ∉ n.toList) → ∀ rest, ∃ lines,
        s.Answers "tree" (typed :: "1" :: rest) (Path.header path :: lines) ∧
        List.Forall₂ (fun e line => line = "├── " ++ e.1 ++ e.2.mark ∨ line = "└── " ++ e.1 ++ e.2.mark)
          children lines) ∧
      ∀ line earlier, typed ≠ "" → earlier ≠ [] → Text.words line = earlier ++ [typed ++ "/"] →
        Completion.candidates s.source (typed ++ "/") line = children.map fun e => typed ++ "/" ++ e.1 ++ e.2.mark := by
  intro path
  obtain ⟨stamp, below, h⟩ : ∃ stamp below, Opens (s.view []) path stamp below :=
    opens_resolve hfiles hplain hcwd hdir
  obtain ⟨above, habove⟩ := h.exists_above
  have hordered : below.Ordered := Tree.ordered_below hfiles.ordered h.found
  have hnames := Forest.map_fst_entries below
  refine ⟨.dir stamp below, above, below.entries, h.found, habove, ⟨?_, fun _ _ => h.mem_entries_iff⟩, ?_, ?_, ?_, ?_⟩
  · rw [hnames]
    exact hordered.pairwise_names
  · intro args htyped hshort
    rw [hnames]
    exact answers_ls h htyped hshort
  · intro args htyped hlong entries
    obtain ⟨width, hleast, hfit, hanswers⟩ := answers_ls_long h htyped hlong habove hdated
    have hentries : entries =
        (longEntries path (Arguments.hasFlag args 'a') (.dir stamp below) above).map fun e => (e.shown, e.node) :=
      (map_longEntries ..).symm
    refine ⟨width, ?_, ?_, fun e he => ?_⟩
    · rw [hentries, List.map_map]
      exact hanswers
    · have hheader : Text.padRight "name" width ++ "  type  size  updated" =
          Text.padRight "name" width ++ "  " ++ "type" ++ "  size  updated" := by
        simp only [String.append_assoc]
        rfl
      rw [hheader]
      exact standsAt_padRight hleast "type" "  size  updated"
    · rw [hentries] at he
      obtain ⟨entry, hentry, rfl⟩ := List.mem_map.1 he
      exact ⟨standsAt_longRow (hfit entry hentry) _, Node.stampText_eq _ (hdated _ _ (h.get?_entry habove hentry))⟩
  · intro hlines rest
    obtain ⟨hpath, hbelow⟩ := List.forall_mem_append.1 hlines
    have htour : ∀ q ∈ below.tour 1, ∀ n ∈ q, '\n' ∉ n.toList := by
      rw [Forest.tour_one, ← hnames, List.forall_mem_map]
      exact fun name hname => by simpa using hbelow name hname
    have hdrawing := Tree.lines_sketch hpath htour
    exact ⟨_, hdrawing ▸ answers_tree h rest, Forest.sketch_entries below⟩
  · exact fun line earlier hne hearlier hwords => candidates_slash h hcwd hne hearlier hwords

theorem dated_of_paths {t : Tree} (h : ∀ q ∈ [] :: t.entries.paths [], ∀ node ∈ t.node? q,
    (stampText node.stamp.updated).toOption.isSome) : t.Dated := by
  intro q node hnode
  have hitem : (t.item? q).isSome := by
    rw [Tree.item?, Node.item?, ← Tree.node?_eq_at?, hnode]
    rfl
  have hdate := h q (Tree.mem_paths hitem) node hnode
  cases hstamp : stampText node.stamp.updated with
  | ok text => exact ⟨text, rfl⟩
  | error e => simp [hstamp, Except.toOption] at hdate

def shelf : Session := after ["mkdir -p a/b", "touch a/b-", "touch a/c.txt", "cd a"]

theorem shelf_agrees :
    Completion.candidates shelf.source "..\\a/" "cd ..\\a/" = ["..\\a/b/", "..\\a/b-", "..\\a/c.txt"] ∧
    ∃ children : List (String × Node),
      children.map (fun e => "..\\a" ++ "/" ++ e.1 ++ e.2.mark) = ["..\\a/b/", "..\\a/b-", "..\\a/c.txt"] ∧
      shelf.Answers "ls" ["..\\a", "-a"] ["  ".intercalate ([".", ".."] ++ children.map Prod.fst)] := by
  obtain ⟨hpaths, hdates, hwhere, hcandidates, hdir⟩ :
      (∀ q ∈ [] :: shelf.files.entries.paths [], ∀ part ∈ q, Path.IsPlain part) ∧
      (∀ q ∈ [] :: shelf.files.entries.paths [], ∀ node ∈ shelf.files.node? q,
        (stampText node.stamp.updated).toOption.isSome) ∧
      shelf.cwd = Path.absolute ["home", "guest", "a"] ∧
      Completion.candidates shelf.source ("..\\a" ++ "/") "cd ..\\a/" = ["..\\a/b/", "..\\a/b-", "..\\a/c.txt"] ∧
      shelf.files.isDir (Path.resolve shelf.cwd "..\\a") = true := by decide +kernel
  have hdated : shelf.files.Dated := dated_of_paths hdates
  have hcwd : Path.Canonical shelf.cwd :=
    ⟨["home", "guest", "a"], by simp [Path.isComponent_iff, Path.IsName]; decide, hwhere⟩
  obtain ⟨here, above, children, -, -, -, hls, -, -, hcompleted⟩ := listings_agree (reachable_after _).grown
    (fun q hq => hpaths q (Tree.mem_paths hq)) hdated hcwd hdir
  have hwords : Text.words "cd ..\\a/" = ["cd"] ++ ["..\\a" ++ "/"] := by decide +kernel
  have hmarked := (hcompleted "cd ..\\a/" ["cd"] (by decide) (by simp) hwords).symm.trans hcandidates
  exact ⟨hcandidates, children, hmarked, hls ["..\\a", "-a"] (by decide +kernel) (by decide +kernel)⟩

def foldedHome : Session :=
  ((start { home := "/a\nb" } (.seeded 0) .builtin (.empty none) { wall := 0 }).submit "mkdir -p x").2

theorem foldedHome_disagrees :
    foldedHome.files.Reachable ∧ (∀ q, (foldedHome.files.item? q).isSome → ∀ part ∈ q, Path.IsPlain part) ∧
    foldedHome.files.Dated ∧ Path.Canonical foldedHome.cwd ∧
    foldedHome.Answers "ls" ["/"] ["a\nb  home  projects"] ∧
    ∃ here lines, foldedHome.files.get? (Path.resolve foldedHome.cwd "/") = some here ∧
      foldedHome.Answers "tree" ["/", "1"] ("/" :: lines) ∧ lines = ["├── a", "b/", "├── home/", "└── projects/"] ∧
      ¬ List.Forall₂ (fun e line => line = "├── " ++ e.1 ++ e.2.mark ∨ line = "└── " ++ e.1 ++ e.2.mark)
        here.below.entries lines := by
  have hreachable : foldedHome.files.Reachable := reachable_submit _ (.seeded 0)
  obtain ⟨hpaths, hdates, hwhere, hlist, hdir, htext⟩ :
      (∀ q ∈ [] :: foldedHome.files.entries.paths [], ∀ part ∈ q, Path.IsPlain part) ∧
      (∀ q ∈ [] :: foldedHome.files.entries.paths [], ∀ node ∈ foldedHome.files.node? q,
        (stampText node.stamp.updated).toOption.isSome) ∧
      foldedHome.cwd = Path.absolute ["a\nb"] ∧
      foldedHome.files.list (Path.resolve foldedHome.cwd "/") = ["a\nb", "home", "projects"] ∧
      foldedHome.files.isDir (Path.resolve foldedHome.cwd "/") = true ∧
      foldedHome.files.drawing Tree.levelLimit (Path.resolve foldedHome.cwd "/") 1 =
        .ok "/\n├── a\nb/\n├── home/\n└── projects/" := by decide +kernel
  have hplain (q : List String) (hq : (foldedHome.files.item? q).isSome) : ∀ part ∈ q, Path.IsPlain part :=
    hpaths q (Tree.mem_paths hq)
  have hcwd : Path.Canonical foldedHome.cwd :=
    ⟨["a\nb"], by simp [Path.isComponent_iff, Path.IsName]; decide, hwhere⟩
  obtain ⟨stamp, below, h⟩ : ∃ stamp below, Opens (foldedHome.view []) (Path.resolve foldedHome.cwd "/") stamp below :=
    opens_resolve hreachable.grown hplain hcwd hdir
  have hnames : below.names = ["a\nb", "home", "projects"] := by
    have hget : foldedHome.files.get? (Path.resolve foldedHome.cwd "/") = some (.dir stamp below) := h.found
    rwa [Tree.list, hget] at hlist
  refine ⟨hreachable, hplain, dated_of_paths hdates, hcwd, ?_, _, _, h.found, ?_, rfl, fun hlines => ?_⟩
  · have htyped : (Arguments.positional ["/"]).headD "." = "/" := by decide +kernel
    have hanswers := answers_ls h htyped (by decide +kernel)
    rw [hnames] at hanswers
    exact hanswers
  · have hdrawn := (Tree.drawing_one hreachable.ordered h.found).symm.trans htext
    have hanswers := answers_tree h []
    rw [Except.ok.inj hdrawn] at hanswers
    exact hanswers
  · have hlength := hlines.length_eq
    rw [Node.below, ← List.length_map Prod.fst, Forest.map_fst_entries, hnames] at hlength
    cases hlength

end Session

end Terminal
