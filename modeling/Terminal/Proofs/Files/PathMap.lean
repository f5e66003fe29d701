import Mathlib.Data.Finset.Sort
import Mathlib.Data.String.Basic
import Terminal.Files.Operation

namespace Terminal

inductive Entry where
  | dir
  | file (content : String)
  deriving DecidableEq, Repr

namespace Entry

def isDir : Entry → Bool
  | dir => true
  | file _ => false

def size : Entry → Nat
  | dir => 0
  | file content => content.length

end Entry

/-- What is above a key is a directory, and so is the root. -/
structure PathMap where
  get? : List String → Option Entry
  keys : Finset (List String)
  mem_keys : ∀ p, p ∈ keys ↔ (get? p).isSome
  root : get? [] = some .dir
  closed : ∀ p name, (get? (p ++ [name])).isSome → get? p = some .dir

inductive FileCall where
  | change (op : FileOp)
  | exists? (path : String)
  | isDir (path : String)
  | list (path : String)
  | read (path : String)
  | stat (path : String)
  deriving DecidableEq, Repr

inductive FileReply where
  | done
  | truth (holds : Bool)
  | names (sorted : List String)
  | text (content : String)
  | about (path name : String) (isDir : Bool) (size : Nat)
  deriving DecidableEq, Repr

namespace PathMap

@[ext] theorem ext {m m' : PathMap} (h : ∀ p, m.get? p = m'.get? p) : m = m' := by
  have hentry : m.get? = m'.get? := funext h
  have hkeys : m.keys = m'.keys := by
    refine Finset.ext fun p => ?_
    rw [m.mem_keys, m'.mem_keys, hentry]
  cases m
  cases m'
  cases hentry
  cases hkeys
  rfl

def ofTable (table : List (List String × Entry)) (root : table.lookup [] = some .dir)
    (closed : ∀ row ∈ table, row.1 ≠ [] → table.lookup row.1.dropLast = some .dir) : PathMap where
  get? p := table.lookup p
  keys := (table.map Prod.fst).toFinset
  mem_keys p := by
    rw [List.mem_toFinset, List.mem_map, List.lookup_isSome_iff]
    refine exists_congr fun row => and_congr_right fun _ => ?_
    rw [beq_iff_eq, eq_comm]
  root := root
  closed p name h := by
    obtain ⟨row, hrow, he⟩ := List.lookup_isSome_iff.1 h
    have hname : row.1 = p ++ [name] := (eq_of_beq he).symm
    have hdir := closed row hrow (by simp [hname])
    rwa [hname, List.dropLast_concat] at hdir

def empty : PathMap := ofTable [([], .dir)] rfl (by decide)

def seeded : PathMap :=
  ofTable [([], .dir),
    (["home"], .dir),
    (["home", "guest"], .dir),
    (["home", "guest", "readme.txt"], .file "Welcome to Terminal. Type `help` to get started."),
    (["projects"], .dir),
    (["projects", "todo.md"], .file "- build terminal\n- ship app")] rfl (by decide)

variable (m : PathMap)

def Blocked (p : List String) : Prop := ∃ q, q <+: p ∧ ∃ content, m.get? q = some (.file content)

instance (p : List String) : Decidable (m.Blocked p) :=
  decidable_of_iff (∃ q ∈ p.inits, ∃ e ∈ m.get? q, e.isDir = false) <| by
    refine exists_congr fun q => and_congr (List.mem_inits q p) ?_
    cases m.get? q with
    | none => simp
    | some e => cases e <;> simp [Entry.isDir]

def withDirs (p : List String) : PathMap where
  get? q := if q <+: p then some .dir else m.get? q
  keys := m.keys ∪ p.inits.toFinset
  mem_keys q := by
    rw [Finset.mem_union, m.mem_keys, List.mem_toFinset, List.mem_inits]
    by_cases h : q <+: p <;> simp [h]
  root := by rw [if_pos List.nil_prefix]
  closed q name h := by
    by_cases hq : q <+: p
    · rw [if_pos hq]
    · have hname : ¬ q ++ [name] <+: p := fun hp => hq ((List.prefix_append q [name]).trans hp)
      rw [if_neg hname] at h
      rw [if_neg hq]
      exact m.closed q name h

def withFile (p : List String) (content : String) (hp : p ≠ []) (hdir : m.get? p ≠ some .dir) :
    PathMap where
  get? q := if q = p then some (.file content) else if q <+: p then some .dir else m.get? q
  keys := m.keys ∪ p.inits.toFinset
  mem_keys q := by
    rw [Finset.mem_union, m.mem_keys, List.mem_toFinset, List.mem_inits]
    by_cases hq : q = p
    · simp [hq]
    · by_cases hpre : q <+: p <;> simp [hq, hpre]
  root := by
    rw [if_neg (Ne.symm hp), if_pos List.nil_prefix]
  closed q name h := by
    by_cases hname : q ++ [name] <+: p
    · have hq : q <+: p := (List.prefix_append q [name]).trans hname
      have hne : q ≠ p := by
        rintro rfl
        simpa using hname.length_le
      rw [if_neg hne, if_pos hq]
    · have hne : q ++ [name] ≠ p := fun he => hname (he ▸ List.prefix_refl _)
      rw [if_neg hne, if_neg hname] at h
      have hq : m.get? q = some .dir := m.closed q name h
      have hqp : q ≠ p := fun he => hdir (by rw [← he, hq])
      rw [if_neg hqp, hq, ite_self]

def without (p : List String) (hp : p ≠ []) : PathMap where
  get? q := if p <+: q then none else m.get? q
  keys := m.keys.filter fun q => ¬ p <+: q
  mem_keys q := by
    rw [Finset.mem_filter, m.mem_keys]
    by_cases h : p <+: q <;> simp [h]
  root := by
    rw [if_neg fun h => hp (List.prefix_nil.1 h)]
    exact m.root
  closed q name h := by
    by_cases hname : p <+: q ++ [name]
    · rw [if_pos hname] at h
      exact absurd h (by simp)
    · rw [if_neg hname] at h
      rw [if_neg fun hq => hname (hq.trans (List.prefix_append q [name]))]
      exact m.closed q name h

@[simp] theorem get?_withDirs (p q : List String) :
    (m.withDirs p).get? q = if q <+: p then some .dir else m.get? q := rfl

@[simp] theorem get?_withFile {p : List String} (content : String) (hp : p ≠ [])
    (hdir : m.get? p ≠ some .dir) (q : List String) :
    (m.withFile p content hp hdir).get? q =
      if q = p then some (.file content) else if q <+: p then some .dir else m.get? q := rfl

@[simp] theorem get?_without {p : List String} (hp : p ≠ []) (q : List String) :
    (m.without p hp).get? q = if p <+: q then none else m.get? q := rfl

theorem get?_of_prefix {p q : List String} (hq : q ≠ []) (h : (m.get? (p ++ q)).isSome) :
    m.get? p = some .dir := by
  induction q using List.reverseRecOn with
  | nil => exact absurd rfl hq
  | append_singleton q name ih =>
      rw [← List.append_assoc] at h
      have hdir := m.closed _ name h
      by_cases hnil : q = []
      · rwa [hnil, List.append_nil] at hdir
      · exact ih hnil (by rw [hdir]; rfl)

def children (p : List String) : Finset String :=
  (m.keys.filter fun q => q ≠ [] ∧ q.dropLast = p).image fun q => q.getLastD ""

def mkdir (p : List String) : Except FileError.Kind PathMap :=
  if m.Blocked p then .error .pathIsFile else .ok (m.withDirs p)

def write (p : List String) (content : String) : Except FileError.Kind PathMap :=
  if hp : p = [] then .error .invalidPath
  else if m.Blocked p.dropLast then .error .pathIsFile
  else if hdir : m.get? p = some .dir then .error .notAFile
  else .ok (m.withFile p content hp hdir)

theorem write_of_file {p : List String} {old : String} (h : m.get? p = some (.file old))
    (content : String) :
    ∃ m', m.write p content = .ok m' ∧
      ∀ q, m'.get? q = if q = p then some (.file content) else m.get? q := by
  have hp : p ≠ [] := by
    rintro rfl
    rw [m.root] at h
    exact absurd h (by simp)
  have habove {q : List String} (hq : q <+: p) (hne : q ≠ p) : m.get? q = some .dir := by
    obtain ⟨r, rfl⟩ := hq
    refine m.get?_of_prefix (q := r) ?_ (by rw [h]; rfl)
    rintro rfl
    exact hne (List.append_nil q).symm
  have hb : ¬ m.Blocked p.dropLast := by
    rintro ⟨q, hq, doc, hdoc⟩
    have hlt : q ≠ p := by
      rintro rfl
      have hlen := hq.length_le
      have hpos := List.length_pos_iff.2 hp
      rw [List.length_dropLast] at hlen
      omega
    rw [habove (hq.trans (List.dropLast_prefix p)) hlt] at hdoc
    exact absurd hdoc (by simp)
  have hdir : m.get? p ≠ some .dir := by simp [h]
  refine ⟨m.withFile p content hp hdir, ?_, fun q => ?_⟩
  · rw [write, dif_neg hp, if_neg hb, dif_neg hdir]
  · rw [get?_withFile]
    by_cases hq : q = p
    · rw [if_pos hq, if_pos hq]
    · rw [if_neg hq, if_neg hq]
      split
      · rename_i hpre
        exact (habove hpre hq).symm
      · rfl

def append (p : List String) (content : String) : Except FileError.Kind PathMap :=
  match m.get? p with
  | none => m.write p content
  | some .dir => .error .notAFile
  | some (.file old) => m.write p (old ++ content)

def touch (p : List String) : Except FileError.Kind PathMap :=
  match m.get? p with
  | none => m.write p ""
  | some _ => .ok m

def rm (p : List String) : Except FileError.Kind PathMap :=
  if hp : p = [] then .ok m
  else if m.get? p.dropLast = some .dir then .ok (m.without p hp)
  else .error .noSuchPath

def rmdir (p : List String) : Except FileError.Kind PathMap :=
  match m.get? p with
  | none => .ok m
  | some (.file _) => .error .notADirectory
  | some .dir =>
    if m.children p = ∅ then (if hp : p = [] then .ok m else .ok (m.without p hp))
    else .error .directoryNotEmpty

def copy (source target : List String) : Except FileError.Kind PathMap :=
  match m.get? source with
  | none => .error .noSuchFile
  | some .dir => .error .notAFile
  | some (.file content) => m.write target content

def rename (source target : List String) : Except FileError.Kind PathMap :=
  match m.get? source with
  | none => .error .noSuchPath
  | some .dir => .error .unsupported
  | some (.file content) =>
    match m.write target content with
    | .error e => .error e
    | .ok m' =>
      if source = target then .ok m'
      else if hs : source = [] then .ok m'
      else .ok (m'.without source hs)

def perform : FileOp → Except FileError.Kind PathMap
  | .mkdir path => m.mkdir (Path.split path)
  | .write path content => m.write (Path.split path) content
  | .append path content => m.append (Path.split path) content
  | .touch path => m.touch (Path.split path)
  | .rm path => m.rm (Path.split path)
  | .rmdir path => m.rmdir (Path.split path)
  | .copy source target => m.copy (Path.split source) (Path.split target)
  | .rename source target => m.rename (Path.split source) (Path.split target)

def answer (m : PathMap) : FileCall → PathMap × Except FileError.Kind FileReply
  | .change op =>
    match m.perform op with
    | .ok m' => (m', .ok .done)
    | .error kind => (m, .error kind)
  | .exists? path => (m, .ok (.truth (m.get? (Path.split path)).isSome))
  | .isDir path => (m, .ok (.truth ((m.get? (Path.split path)).any Entry.isDir)))
  | .list path => (m, .ok (.names (m.children (Path.split path)).sort))
  | .read path =>
    match m.get? (Path.split path) with
    | none => (m, .error .noSuchFile)
    | some .dir => (m, .error .notAFile)
    | some (.file content) => (m, .ok (.text content))
  | .stat path =>
    match m.get? (Path.split path) with
    | none => (m, .error .noSuchPath)
    | some e => (m, .ok (.about path ((Path.split path).getLastD "/") e.isDir e.size))

def serve : List FileCall → PathMap → PathMap × List (Except FileError.Kind FileReply)
  | [], m => (m, [])
  | call :: calls, m =>
    let (m', reply) := m.answer call
    let (m'', replies) := serve calls m'
    (m'', reply :: replies)

variable {m}

theorem mem_children {p : List String} {name : String} :
    name ∈ m.children p ↔ (m.get? (p ++ [name])).isSome := by
  rw [children, Finset.mem_image]
  constructor
  · rintro ⟨q, hq, rfl⟩
    obtain ⟨hmem, hne, rfl⟩ := Finset.mem_filter.1 hq
    rw [List.getLastD_eq_getLast?, List.getLast?_eq_some_getLast hne, Option.getD_some,
      List.dropLast_concat_getLast hne]
    exact (m.mem_keys q).1 hmem
  · intro h
    refine ⟨p ++ [name], Finset.mem_filter.2 ⟨(m.mem_keys _).2 h, by simp, by simp⟩, by simp⟩

end PathMap

end Terminal
