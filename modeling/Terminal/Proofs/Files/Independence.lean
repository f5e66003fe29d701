import Terminal.Proofs.Files.Reachable
import Terminal.Proofs.Files.Ticking

namespace Terminal

namespace FileOp

def path? : FileOp → Option String
  | mkdir path | write path _ | append path _ | touch path | rm path | rmdir path => some path
  | copy _ _ | rename _ _ => none

end FileOp

namespace Tree

/-- What operations lead to, whatever the clock shows while they run. -/
inductive Grown : Tree → Prop
  | root (created updated : Int) : Grown ⟨⟨"/", created, updated⟩, .nil⟩
  | step {t : Tree} (clock : Nat → Int) (op : FileOp) : Grown t → Grown (op.performBy clock t).1

theorem Reachable.grown {t : Tree} (h : t.Reachable) : t.Grown := by
  induction h with
  | empty now => exact .root now now
  | step now op _ ih =>
      rw [← FileOp.performBy_still]
      exact ih.step (fun _ => now) op

end Tree

section Ordered

variable {clock : Nat → Int}

theorem Forest.Ordered.descendBy {act : Nat → Forest → Forest × Except FileError Unit}
    (hact : ∀ i f, f.Ordered → (act i f).1.Ordered) {f : Forest} (hf : f.Ordered) (i : Nat) (path : List String) :
    (f.descendBy clock act i path).1.Ordered := by
  induction path generalizing i f with
  | nil => exact hact i f hf
  | cons name path ih =>
      rw [Forest.descendBy]
      cases hfind : f.find? name with
      | none =>
          have hnil : Forest.nil.Ordered := trivial
          exact hf.put name (ih hnil (i + 2))
      | some node =>
          cases node with
          | file doc => exact hf
          | dir stamp below =>
              have hbelow : below.Ordered := hf.find? hfind
              exact hf.put name (ih hbelow i)

namespace Tree

variable {t : Tree}

theorem Ordered.writeBy (ht : t.Ordered) (clock : Nat → Int) (path content : String) :
    (t.writeBy clock path content).1.Ordered := by
  rw [Tree.writeBy]
  cases (Path.split path).getLast? with
  | none => exact ht
  | some name =>
      refine Forest.Ordered.descendBy (fun i f hf => ?_) ht 0 _
      cases f.find? name with
      | none => exact hf.put name trivial
      | some node =>
          cases node with
          | file doc => exact hf.put name trivial
          | dir stamp below => exact hf

theorem Ordered.performBy (ht : t.Ordered) (op : FileOp) : (op.performBy clock t).1.Ordered := by
  cases op with
  | mkdir path =>
      rw [FileOp.performBy]
      split
      · exact ht
      · exact Forest.Ordered.descendBy (fun _ f hf => hf) ht 0 _
  | write path content => exact ht.writeBy clock path content
  | append path content =>
      rw [FileOp.performBy]
      split
      · exact ht.writeBy clock path content
      · exact ht.perform (clock 0) (.append path content)
  | touch path =>
      rw [FileOp.performBy]
      split
      · exact ht.writeBy clock path ""
      · exact ht.perform (clock 0) (.touch path)
  | rm path => exact ht.perform 0 (.rm path)
  | rmdir path => exact ht.perform 0 (.rmdir path)
  | copy source target =>
      rw [FileOp.performBy]
      split
      · exact ht.writeBy clock target _
      · exact ht.perform (clock 0) (.copy source target)
  | rename source target =>
      rw [FileOp.performBy]
      split
      · rename_i doc _
        have hwrite := ht.writeBy clock target doc.content
        split
        · rename_i t' e hw
          rwa [hw] at hwrite
        · rename_i t' hw
          rw [hw] at hwrite
          split
          · exact hwrite
          · exact hwrite.perform 0 (.rm source)
      · exact ht.perform (clock 0) (.rename source target)

theorem Grown.ordered (h : t.Grown) : t.Ordered := by
  induction h with
  | root stamp => trivial
  | step clock op _ ih => exact ih.performBy op

end Tree

end Ordered

/-- What an operation does at its path: nothing, or it puts an item there, or it takes away what is there. -/
inductive Effect where
  | keep
  | place (item : Item)
  | drop
  deriving DecidableEq, Repr

namespace Effect

def on (now : Int) (p q : List String) (old : Option Item) : Effect → Option Item
  | keep => old
  | place item => if q = p then some item else if q <+: p then some (old.getD (.dir (.along now q))) else old
  | drop => if p <+: q then none else old

open Classical in
noncomputable def filling (now : Int) (t : Tree) (p : List String) (content : String) : Effect :=
  if t.Blocked p.dropLast then keep
  else match t.item? p with
    | some (.dir _) => keep
    | _ => place (.file ⟨content, .along now p⟩)

end Effect

open Classical in
noncomputable def FileOp.effect (now : Int) (t : Tree) : FileOp → Effect
  | mkdir path =>
    if t.Blocked (Path.split path) then .keep
    else .place ((t.item? (Path.split path)).getD (.dir (.along now (Path.split path))))
  | write path content => .filling now t (Path.split path) content
  | append path content =>
    match t.item? (Path.split path) with
    | none => .filling now t (Path.split path) content
    | some (.dir _) => .keep
    | some (.file doc) => .place ((Item.file doc).append now content)
  | touch path =>
    match t.item? (Path.split path) with
    | none => .filling now t (Path.split path) ""
    | some item => .place (item.touch now)
  | rm _ => .drop
  | rmdir path =>
    match t.item? (Path.split path) with
    | some (.dir _) => if ∀ name, t.item? (Path.split path ++ [name]) = none then .drop else .keep
    | _ => .keep
  | copy _ _ | rename _ _ => .keep

namespace Tree

variable (now : Int) {t u : Tree} {p q r : List String}

section Effect

theorem on_place_of_exists (item : Item) (h : (t.item? p).isSome) (q : List String) :
    Effect.on now p q (t.item? q) (.place item) = if q = p then some item else t.item? q := by
  have hraised := raised_of_exists now h q
  rw [raised] at hraised
  rw [Effect.on, hraised]

theorem on_drop_of_none (hp : t.item? p = none) (q : List String) :
    Effect.on now p q (t.item? q) .drop = t.item? q := by
  rw [Effect.on]
  split
  · rename_i hpre
    obtain ⟨r, rfl⟩ := hpre
    by_cases hr : r = []
    · rw [hr, List.append_nil, hp]
    · rw [t.item?_append_eq_none hr fun s => by simp [hp]]
  · rfl

theorem item?_write (ht : t.Ordered) {path : String} (hne : Path.split path ≠ []) (content : String)
    (q : List String) : (t.write now path content).1.item? q =
      (Effect.filling now t (Path.split path) content).on now (Path.split path) q (t.item? q) := by
  rcases write_cases now ht path content with
    ⟨hnil, -⟩ | ⟨-, hb, name, hw⟩ | ⟨-, hb, ⟨s, hdir⟩, hw⟩ | ⟨-, hb, hnot, t', hw, -, hitem⟩
  · exact absurd hnil hne
  · rw [hw, Effect.filling, if_pos hb]
    rfl
  · rw [hw, Effect.filling, if_neg hb, hdir]
    rfl
  · rw [hw, Effect.filling, if_neg hb]
    cases hp : t.item? (Path.split path) with
    | none => exact hitem q
    | some item =>
        cases item with
        | file doc => exact hitem q
        | dir s => exact absurd hp (hnot s)

theorem item?_rm (ht : t.Ordered) {path : String} (hne : Path.split path ≠ []) (q : List String) :
    (t.rm path).1.item? q = Effect.on now (Path.split path) q (t.item? q) .drop := by
  rcases rm_cases ht path with ⟨hnil, -⟩ | ⟨-, hnot, hrm⟩ | ⟨-, -, t', hrm, -, hitem⟩
  · exact absurd hnil hne
  · have hnone : t.item? (Path.split path) = none := by
      rw [← List.dropLast_concat_getLast hne]
      exact t.item?_append_eq_none (by simp) hnot
    rw [hrm, on_drop_of_none now hnone]
  · rw [hrm]
    exact hitem q

theorem item?_perform (ht : t.Ordered) {op : FileOp} {path : String} (hop : op.path? = some path)
    (hne : Path.split path ≠ []) (q : List String) :
    (op.perform now t).1.item? q = (op.effect now t).on now (Path.split path) q (t.item? q) := by
  cases op with
  | mkdir path' =>
      cases hop
      rw [FileOp.perform, FileOp.effect]
      rcases mkdir_cases now ht path with ⟨hb, name, hd⟩ | ⟨hb, t', hd, -, hitem⟩
      · rw [hd, if_pos hb]
        rfl
      · rw [hd, if_neg hb, hitem, Effect.on, raised]
        by_cases hq : q = Path.split path
        · rw [hq, if_pos rfl, if_pos (List.prefix_refl _)]
        · rw [if_neg hq]
  | write path' content =>
      cases hop
      exact item?_write now ht hne content q
  | append path' content =>
      cases hop
      rw [FileOp.perform, FileOp.effect]
      rcases append_cases now ht path content with
        ⟨hnone, hd⟩ | ⟨⟨s, hdir⟩, hd⟩ | ⟨doc, hdoc, t', hd, -, hitem⟩
      · rw [hd, hnone]
        exact item?_write now ht hne content q
      · rw [hd, hdir]
        rfl
      · rw [hd, hdoc, hitem]
        exact (on_place_of_exists now _ (by rw [hdoc]; rfl) q).symm
  | touch path' =>
      cases hop
      rw [FileOp.perform, FileOp.effect]
      rcases touch_cases now ht path with ⟨hnone, hd⟩ | ⟨item, hsome, t', hd, -, hitem⟩
      · rw [hd, hnone]
        exact item?_write now ht hne "" q
      · rw [hd, hsome, hitem]
        exact (on_place_of_exists now _ (by rw [hsome]; rfl) q).symm
  | rm path' =>
      cases hop
      exact item?_rm now ht hne q
  | rmdir path' =>
      cases hop
      rw [FileOp.perform, FileOp.effect]
      rcases rmdir_cases path (t := t) with
        ⟨hnone, hd⟩ | ⟨⟨doc, hdoc⟩, hd⟩ | ⟨⟨s, hdir⟩, ⟨n, hchild⟩, hd⟩ | ⟨⟨s, hdir⟩, hbare, hd⟩
      · rw [hd, hnone]
        rfl
      · rw [hd, hdoc]
        rfl
      · have hnot : ¬ ∀ name, t.item? (Path.split path ++ [name]) = none := by
          intro hall
          rw [hall n] at hchild
          cases hchild
        rw [hd, hdir]
        simp only [if_neg hnot]
        rfl
      · rw [hd, hdir]
        simp only [if_pos hbare]
        exact item?_rm now ht hne q
  | copy source target => cases hop
  | rename source target => cases hop

end Effect

structure SameAt (p : List String) (t u : Tree) : Prop where
  item : t.item? p = u.item? p
  file : ∀ q, q <+: p → ∀ doc, t.item? q = some (.file doc) ↔ u.item? q = some (.file doc)
  child : ∀ name, t.item? (p ++ [name]) = u.item? (p ++ [name])

namespace SameAt

theorem blocked_eq (h : SameAt p t u) (hq : q <+: p) : t.Blocked q = u.Blocked q := by
  apply propext
  constructor
  · rintro ⟨r, hr, doc, hdoc⟩
    exact ⟨r, hr, doc, (h.file r (hr.trans hq) doc).1 hdoc⟩
  · rintro ⟨r, hr, doc, hdoc⟩
    exact ⟨r, hr, doc, (h.file r (hr.trans hq) doc).2 hdoc⟩

theorem filling_eq (h : SameAt p t u) (content : String) :
    Effect.filling now t p content = Effect.filling now u p content := by
  rw [Effect.filling, Effect.filling, h.item, h.blocked_eq p.dropLast_prefix]

theorem effect_eq {op : FileOp} {path : String} (hop : op.path? = some path)
    (h : SameAt (Path.split path) t u) : op.effect now t = op.effect now u := by
  cases op with
  | mkdir path' =>
      cases hop
      rw [FileOp.effect, FileOp.effect, h.item, h.blocked_eq (List.prefix_refl _)]
  | write path' content =>
      cases hop
      exact h.filling_eq now content
  | append path' content =>
      cases hop
      rw [FileOp.effect, FileOp.effect, h.item, h.filling_eq now content]
  | touch path' =>
      cases hop
      rw [FileOp.effect, FileOp.effect, h.item, h.filling_eq now ""]
  | rm path' => rfl
  | rmdir path' =>
      cases hop
      have hbare : (∀ name, t.item? (Path.split path ++ [name]) = none) =
          ∀ name, u.item? (Path.split path ++ [name]) = none := by
        simp only [h.child]
      rw [FileOp.effect, FileOp.effect, h.item, hbare]
  | copy source target => cases hop
  | rename source target => cases hop

end SameAt

end Tree

structure Path.Apart (p q : List String) : Prop where
  left : ¬ p <+: q
  right : ¬ q <+: p

namespace Path.Apart

variable {p q r : List String} (h : Apart p q)

include h

theorem symm : Apart q p := ⟨h.right, h.left⟩

theorem ne_nil : p ≠ [] := by
  rintro rfl
  exact h.left List.nil_prefix

theorem below (hr : p <+: r) : Apart r q where
  left hq := h.left (hr.trans hq)
  right hq := by
    rcases List.prefix_or_prefix_of_prefix hr hq with hpq | hqp
    · exact h.left hpq
    · exact h.right hqp

end Path.Apart

namespace Effect

variable (now : Int) {p q r : List String} (h : Path.Apart p q) (e f : Effect) (old : Option Item)

theorem on_of_apart (h : Path.Apart p q) : e.on now p q old = old := by
  cases e with
  | keep => rfl
  | place item =>
      have hne : q ≠ p := by
        rintro rfl
        exact h.left (List.prefix_refl q)
      rw [on, if_neg hne, if_neg h.right]
  | drop => rw [on, if_neg h.left]

theorem on_above (h : ¬ p <+: r) :
    (∀ old, e.on now p r old = old) ∨ ∀ old, e.on now p r old = some (old.getD (.dir (.along now r))) := by
  cases e with
  | keep => exact .inl fun old => rfl
  | place item =>
      have hne : r ≠ p := by
        rintro rfl
        exact h (List.prefix_refl r)
      by_cases hr : r <+: p
      · exact .inr fun old => by rw [on, if_neg hne, if_pos hr]
      · exact .inl fun old => by rw [on, if_neg hne, if_neg hr]
  | drop => exact .inl fun old => by rw [on, if_neg h]

theorem on_eq_file_iff (h : ¬ p <+: r) (doc : Doc) :
    e.on now p r old = some (.file doc) ↔ old = some (.file doc) := by
  rcases e.on_above now h with hsame | hmade
  · rw [hsame]
  · rw [hmade]
    cases old <;> simp

theorem on_comm (h : Path.Apart p q) (r : List String) :
    f.on now q r (e.on now p r old) = e.on now p r (f.on now q r old) := by
  by_cases hp : p <+: r
  · have hr : Path.Apart q r := (h.below hp).symm
    rw [f.on_of_apart now _ hr, f.on_of_apart now _ hr]
  by_cases hq : q <+: r
  · have hr : Path.Apart p r := (h.symm.below hq).symm
    rw [e.on_of_apart now _ hr, e.on_of_apart now _ hr]
  -- both paths lead on from `r` or past it
  rcases e.on_above now hp with he | he <;> rcases f.on_above now hq with hf | hf
  · rw [he, he]
  · rw [he, he]
  · rw [hf, hf]
  · rw [he, he, hf, hf, Option.getD_some]

end Effect

namespace Tree

variable (now : Int) {t u : Tree} {p q : List String}

theorem sameAt_of_apart (h : Path.Apart p q) {e : Effect} (hu : ∀ r, u.item? r = e.on now p r (t.item? r)) :
    SameAt q u t where
  item := by rw [hu, e.on_of_apart now _ h]
  file r hr doc := by rw [hu, e.on_eq_file_iff now _ fun hp => h.left (hp.trans hr)]
  child name := by
    have hchild : Path.Apart p (q ++ [name]) := (h.symm.below (List.prefix_append q [name])).symm
    rw [hu, e.on_of_apart now _ hchild]

/-- The tree that two operations at paths apart lead to does not depend on which comes first. -/
theorem perform_comm (h : t.Grown) {a b : FileOp} {p q : String} (ha : a.path? = some p) (hb : b.path? = some q)
    (hpq : ¬ Path.split p <+: Path.split q) (hqp : ¬ Path.split q <+: Path.split p) :
    (b.perform now (a.perform now t).1).1 = (a.perform now (b.perform now t).1).1 := by
  have hapart : Path.Apart (Path.split p) (Path.split q) := ⟨hpq, hqp⟩
  have hp : Path.split p ≠ [] := hapart.ne_nil
  have hq : Path.split q ≠ [] := hapart.symm.ne_nil
  have ht : t.Ordered := h.ordered
  have hta : (a.perform now t).1.Ordered := ht.perform now a
  have htb : (b.perform now t).1.Ordered := ht.perform now b
  have hitema := item?_perform now ht ha hp
  have hitemb := item?_perform now ht hb hq
  -- each operation does in the tree that the other left what it does in `t`
  have heffb : b.effect now (a.perform now t).1 = b.effect now t :=
    (sameAt_of_apart now hapart hitema).effect_eq now hb
  have heffa : a.effect now (b.perform now t).1 = a.effect now t :=
    (sameAt_of_apart now hapart.symm hitemb).effect_eq now ha
  refine eq_of_item? (hta.perform now b) (htb.perform now a) fun r => ?_
  calc (b.perform now (a.perform now t).1).1.item? r
      = (b.effect now t).on now (Path.split q) r ((a.perform now t).1.item? r) := by
        rw [item?_perform now hta hb hq, heffb]
    _ = (b.effect now t).on now (Path.split q) r ((a.effect now t).on now (Path.split p) r (t.item? r)) := by
        rw [hitema]
    _ = (a.effect now t).on now (Path.split p) r ((b.effect now t).on now (Path.split q) r (t.item? r)) :=
        Effect.on_comm now _ _ _ hapart r
    _ = (a.effect now t).on now (Path.split p) r ((b.perform now t).1.item? r) := by rw [hitemb]
    _ = (a.perform now (b.perform now t).1).1.item? r := by rw [item?_perform now htb ha hp, heffa]

theorem made_beside : (seeded 0).Grown ∧
    ((FileOp.rm "/new/a").perform 7 (seeded 0)).2 = .error (.missing "/new/a") ∧
    ((FileOp.rm "/new/a").perform 7 ((FileOp.write "//new/b" "x").perform 7 (seeded 0)).1).2 = .ok () ∧
    ((FileOp.write "//new/b" "x").perform 7 ((FileOp.rm "/new/a").perform 7 (seeded 0)).1).1 =
      ((FileOp.rm "/new/a").perform 7 ((FileOp.write "//new/b" "x").perform 7 (seeded 0)).1).1 := by
  have h : (seeded 0).Grown := (Reachable.seeded 0).grown
  exact ⟨h, by decide, by decide, perform_comm 7 h rfl rfl (by decide) (by decide)⟩

end Tree

end Terminal
