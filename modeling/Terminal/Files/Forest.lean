namespace Terminal

/-- The name that a node was made under, when it was made and when it last changed, in milliseconds. -/
structure Stamp where
  name : String
  created : Int
  updated : Int
  deriving DecidableEq, Repr

def Stamp.at (now : Int) (name : String) : Stamp := ⟨name, now, now⟩

structure Doc where
  content : String
  stamp : Stamp
  deriving DecidableEq, Repr

inductive Forest where
  | nil
  | file (name : String) (doc : Doc) (rest : Forest)
  | dir (name : String) (stamp : Stamp) (below rest : Forest)
  deriving DecidableEq, Repr

inductive Node where
  | file (doc : Doc)
  | dir (stamp : Stamp) (below : Forest)
  deriving DecidableEq, Repr

namespace Node

def isDir : Node → Bool
  | file _ => false
  | dir _ _ => true

def stamp : Node → Stamp
  | file doc => doc.stamp
  | dir stamp _ => stamp

def size : Node → Nat
  | file doc => doc.content.length
  | dir _ _ => 0

def touch (now : Int) : Node → Node
  | file doc => file { doc with stamp := { doc.stamp with updated := now } }
  | dir stamp below => dir { stamp with updated := now } below

def append (now : Int) (text : String) : Node → Node
  | file doc => file ⟨doc.content ++ text, { doc.stamp with updated := now }⟩
  | dir stamp below => dir stamp below

end Node

namespace Forest

def cons (name : String) : Node → Forest → Forest
  | .file doc, rest => file name doc rest
  | .dir stamp below, rest => dir name stamp below rest

def find? : Forest → String → Option Node
  | nil, _ => none
  | file n doc rest, name => if n = name then some (.file doc) else find? rest name
  | dir n stamp below rest, name => if n = name then some (.dir stamp below) else find? rest name

def names : Forest → List String
  | nil => []
  | file n _ rest => n :: names rest
  | dir n _ _ rest => n :: names rest

def size : Forest → Nat
  | nil => 0
  | file _ _ rest => size rest + 1
  | dir _ _ below rest => size below + size rest + 1

def put : Forest → String → Node → Forest
  | nil, name, node => cons name node nil
  | file n doc rest, name, node =>
    if n = name then cons name node rest
    else if name < n then cons name node (file n doc rest)
    else file n doc (put rest name node)
  | dir n stamp below rest, name, node =>
    if n = name then cons name node rest
    else if name < n then cons name node (dir n stamp below rest)
    else dir n stamp below (put rest name node)

def remove : Forest → String → Forest
  | nil, _ => nil
  | file n doc rest, name => if n = name then remove rest name else file n doc (remove rest name)
  | dir n stamp below rest, name =>
    if n = name then remove rest name else dir n stamp below (remove rest name)

@[simp] theorem find?_cons_self (name : String) (node : Node) (f : Forest) :
    (cons name node f).find? name = some node := by
  cases node <;> simp [cons, find?]

theorem find?_cons_of_ne {name other : String} (node : Node) (f : Forest) (h : name ≠ other) :
    (cons name node f).find? other = f.find? other := by
  cases node <;> simp [cons, find?, h]

@[simp] theorem find?_put_self (f : Forest) (name : String) (node : Node) :
    (f.put name node).find? name = some node := by
  induction f with
  | nil => simp [put]
  | file n doc rest ih =>
      simp only [put]
      split
      · simp
      · split
        · simp
        · simp_all [find?]
  | dir n stamp below rest _ ih =>
      simp only [put]
      split
      · simp
      · split
        · simp
        · simp_all [find?]

theorem find?_put_of_ne (f : Forest) {name other : String} (node : Node) (h : name ≠ other) :
    (f.put name node).find? other = f.find? other := by
  induction f with
  | nil => simp [put, find?_cons_of_ne node _ h]
  | file n doc rest ih =>
      simp only [put]
      split
      · rename_i hn; subst hn; rw [find?_cons_of_ne node _ h]; simp [find?, h]
      · split
        · rw [find?_cons_of_ne node _ h]
        · simp only [find?, ih]
  | dir n stamp below rest _ ih =>
      simp only [put]
      split
      · rename_i hn; subst hn; rw [find?_cons_of_ne node _ h]; simp [find?, h]
      · split
        · rw [find?_cons_of_ne node _ h]
        · simp only [find?, ih]

@[simp] theorem find?_remove_self (f : Forest) (name : String) :
    (f.remove name).find? name = none := by
  induction f with
  | nil => rfl
  | file n doc rest ih => simp only [remove]; split <;> simp_all [find?]
  | dir n stamp below rest _ ih => simp only [remove]; split <;> simp_all [find?]

theorem find?_remove_of_ne (f : Forest) {name other : String} (h : name ≠ other) :
    (f.remove name).find? other = f.find? other := by
  induction f with
  | nil => rfl
  | file n doc rest ih => simp only [remove]; split <;> simp_all [find?]
  | dir n stamp below rest _ ih => simp only [remove]; split <;> simp_all [find?]

def walk? : List String → Forest → Option Node
  | [], _ => none
  | [name], f => f.find? name
  | name :: next :: path, f =>
    match f.find? name with
    | some (.dir _ below) => walk? (next :: path) below
    | _ => none

def modify (change : Node → Node) : List String → Forest → Forest
  | [], f => f
  | [name], f =>
    match f.find? name with
    | some node => f.put name (change node)
    | none => f
  | name :: next :: path, f =>
    match f.find? name with
    | some (.dir stamp below) => f.put name (.dir stamp (modify change (next :: path) below))
    | _ => f

end Forest

end Terminal
