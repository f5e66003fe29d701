import Terminal.Proofs.Files.Making
import Terminal.Proofs.Files.Splice

namespace Terminal.Tree

section Modify

variable {change : Node → Node} {onItem : Item → Item} {t : Tree}

theorem item?_modify (hc : InPlace change onItem) {path : List String} {node : Node}
    (h : t.root.at? path = some node) (q : List String) :
    (t.modify change path).item? q = if q = path then some (onItem node.item) else t.item? q := by
  cases path with
  | nil =>
      cases h
      obtain ⟨stamp', hdir⟩ := hc.dir t.stamp t.entries
      have hroot : (t.modify change []).root = change t.root := by
        rw [modify, root, root, hdir]
      rw [item?, hroot, hc.item?]
      rfl
  | cons name path => exact Forest.item?_modify t.entries hc t.stamp (by simp) h q

theorem ordered_modify (hc : InPlace change onItem) (ht : t.Ordered) (path : List String) :
    (t.modify change path).Ordered := by
  cases path with
  | nil =>
      obtain ⟨stamp', hdir⟩ := hc.dir t.stamp t.entries
      rw [modify, hdir]
      exact ht
  | cons name path => exact Forest.Ordered.modify hc ht (name :: path)

end Modify

variable (now : Int) {t : Tree}

theorem append_cases (ht : t.Ordered) (path content : String) :
    (t.item? (Path.split path) = none ∧ t.append now path content = t.write now path content) ∨
    ((∃ s, t.item? (Path.split path) = some (.dir s)) ∧
      t.append now path content = (t, .error (.cannotAppend path))) ∨
    (∃ doc, t.item? (Path.split path) = some (.file doc) ∧
      ∃ t', t.append now path content = (t', .ok ()) ∧ t'.Ordered ∧
        ∀ q, t'.item? q = if q = Path.split path then some ((Item.file doc).append now content)
          else t.item? q) := by
  rw [item?_split, append]
  cases h : t.get? path with
  | none => exact .inl ⟨rfl, rfl⟩
  | some node =>
      cases node with
      | dir stamp below => exact .inr (.inl ⟨⟨stamp, rfl⟩, rfl⟩)
      | file doc =>
          have hat := h
          rw [get?_eq_at?] at hat
          exact .inr (.inr ⟨doc, rfl, _, rfl, ordered_modify (inPlace_append now content) ht _,
            item?_modify (inPlace_append now content) hat⟩)

theorem touch_cases (ht : t.Ordered) (path : String) :
    (t.item? (Path.split path) = none ∧ t.touch now path = t.write now path "") ∨
    (∃ item, t.item? (Path.split path) = some item ∧
      ∃ t', t.touch now path = (t', .ok ()) ∧ t'.Ordered ∧
        ∀ q, t'.item? q = if q = Path.split path then some (item.touch now) else t.item? q) := by
  rw [item?_split, touch]
  cases h : t.get? path with
  | none => exact .inl ⟨rfl, rfl⟩
  | some node =>
      have hat := h
      rw [get?_eq_at?] at hat
      exact .inr ⟨node.item, rfl, _, rfl, ordered_modify (inPlace_touch now) ht _,
        item?_modify (inPlace_touch now) hat⟩

theorem rm_cases (ht : t.Ordered) (path : String) :
    (Path.split path = [] ∧ t.rm path = (t, .ok ())) ∨
    (Path.split path ≠ [] ∧ (∀ s, t.item? (Path.split path).dropLast ≠ some (.dir s)) ∧
      t.rm path = (t, .error (.missing path))) ∨
    (Path.split path ≠ [] ∧ (∃ s, t.item? (Path.split path).dropLast = some (.dir s)) ∧
      ∃ t', t.rm path = (t', .ok ()) ∧ t'.Ordered ∧
        ∀ q, t'.item? q = if Path.split path <+: q then none else t.item? q) := by
  rw [rm]
  by_cases hne : Path.split path = []
  · exact .inl ⟨hne, by rw [hne]; rfl⟩
  · have hp := (List.dropLast_concat_getLast hne).symm
    by_cases hdir : ∃ s, t.item? (Path.split path).dropLast = some (.dir s)
    · obtain ⟨f', hd, hord, hitem⟩ := Forest.detach_concat_of_dir t.entries
        ((Path.split path).getLast hne) t.stamp _ hdir
      rw [← hp] at hd hitem
      refine .inr (.inr ⟨hne, hdir, { t with entries := f' }, ?_, hord ht, hitem⟩)
      rw [hd]
    · have hnot (s : Stamp) : t.item? (Path.split path).dropLast ≠ some (.dir s) := fun hs => hdir ⟨s, hs⟩
      have hd := Forest.detach_concat_of_not_dir t.entries ((Path.split path).getLast hne) t.stamp _ hnot
      rw [← hp] at hd
      exact .inr (.inl ⟨hne, hnot, by rw [hd]⟩)

theorem exists_child_iff {p : List String} {stamp : Stamp} {below : Forest}
    (h : t.root.at? p = some (.dir stamp below)) :
    (∃ n, (t.item? (p ++ [n])).isSome) ↔ below ≠ .nil := by
  have hchild (n : String) : (t.item? (p ++ [n])).isSome = (below.find? n).isSome := by
    rw [item?, Node.item?_append, h, Option.bind_some, Node.item?_dir_cons]
    cases below.find? n <;> rfl
  cases below using Forest.entries_induction with
  | nil => simp [hchild, Forest.find?]
  | cons name node rest =>
      constructor
      · rintro - hnil
        cases node <;> cases hnil
      · intro _
        exact ⟨name, by rw [hchild, Forest.find?_cons, if_pos rfl]; rfl⟩

theorem rmdir_cases (path : String) :
    (t.item? (Path.split path) = none ∧ t.rmdir path = (t, .ok ())) ∨
    ((∃ doc, t.item? (Path.split path) = some (.file doc)) ∧
      t.rmdir path = (t, .error .notADirectory)) ∨
    ((∃ s, t.item? (Path.split path) = some (.dir s)) ∧
      (∃ n, (t.item? (Path.split path ++ [n])).isSome) ∧ t.rmdir path = (t, .error .notEmpty)) ∨
    ((∃ s, t.item? (Path.split path) = some (.dir s)) ∧
      (∀ n, t.item? (Path.split path ++ [n]) = none) ∧ t.rmdir path = t.rm path) := by
  have hitem := t.item?_split path
  rw [rmdir]
  cases h : t.get? path with
  | none => exact .inl ⟨by rw [hitem, h]; rfl, rfl⟩
  | some node =>
      rw [h] at hitem
      cases node with
      | file doc => exact .inr (.inl ⟨⟨doc, hitem⟩, rfl⟩)
      | dir stamp below =>
          rw [get?_eq_at?] at h
          have hchild := exists_child_iff h
          cases below with
          | nil =>
              refine .inr (.inr (.inr ⟨⟨stamp, hitem⟩, fun n => ?_, rfl⟩))
              have hn : ¬ (t.item? (Path.split path ++ [n])).isSome := fun hn => hchild.1 ⟨n, hn⟩ rfl
              simpa using hn
          | file n doc rest => exact .inr (.inr (.inl ⟨⟨stamp, hitem⟩, hchild.2 (by simp), rfl⟩))
          | dir n s b rest => exact .inr (.inr (.inl ⟨⟨stamp, hitem⟩, hchild.2 (by simp), rfl⟩))

theorem copy_cases (source target : String) :
    (t.item? (Path.split source) = none ∧ t.copy now source target = (t, .error (.noSource source))) ∨
    ((∃ s, t.item? (Path.split source) = some (.dir s)) ∧
      t.copy now source target = (t, .error (.isDirectory source))) ∨
    (∃ doc, t.item? (Path.split source) = some (.file doc) ∧
      t.copy now source target = t.write now target doc.content) := by
  rw [item?_split, copy]
  cases h : t.get? source with
  | none => exact .inl ⟨rfl, rfl⟩
  | some node =>
      cases node with
      | dir stamp below => exact .inr (.inl ⟨⟨stamp, rfl⟩, rfl⟩)
      | file doc => exact .inr (.inr ⟨doc, rfl, rfl⟩)

theorem rm_after_write {p q : List String} {doc fresh : Doc} {t' : Tree} {source : String}
    (ht' : t'.Ordered) (hsource : Path.split source = p) (hdoc : t.item? p = some (.file doc))
    (hq : ∀ s, t.item? q ≠ some (.dir s)) (hpq : p ≠ q)
    (hitem : ∀ r, t'.item? r = if r = q then some (.file fresh) else t.raised now q r) :
    ∃ t'', t'.rm source = (t'', .ok ()) ∧ t''.Ordered ∧
      ∀ r, t''.item? r = if r = p then none else t'.item? r := by
  have hne : p ≠ [] := by
    rintro rfl
    exact absurd hdoc (by simp)
  have hp := List.dropLast_concat_getLast hne
  obtain ⟨stamp, hparent⟩ : ∃ s, t.item? p.dropLast = some (.dir s) := by
    refine t.exists_item?_dir (q := [p.getLast hne]) (by simp) ?_
    rw [hp, hdoc]
    rfl
  have hparent' : t'.item? p.dropLast = some (.dir stamp) := by
    have hnot : p.dropLast ≠ q := fun he => hq stamp (by rw [← he, hparent])
    rw [hitem, if_neg hnot, raised, hparent]
    split <;> rfl
  have hdoc' : t'.item? p = some (.file doc) := by
    rw [hitem, if_neg hpq, raised, hdoc]
    split <;> rfl
  rcases rm_cases ht' source with ⟨hnil, -⟩ | ⟨-, hnot, -⟩ | ⟨-, -, t'', hrm, hord, hitem''⟩
  · exact absurd (hsource.symm.trans hnil) hne
  · rw [hsource] at hnot
    exact absurd hparent' (hnot stamp)
  · refine ⟨t'', hrm, hord, fun r => ?_⟩
    rw [hitem'', hsource]
    by_cases hr : r = p
    · subst hr
      rw [if_pos (List.prefix_refl r), if_pos rfl]
    · rw [if_neg hr]
      split
      · rename_i hpre
        obtain ⟨r', rfl⟩ := hpre
        refine (t'.item?_append_eq_none ?_ fun s => by simp [hdoc']).symm
        rintro rfl
        exact hr (List.append_nil p)
      · rfl

theorem rename_cases (ht : t.Ordered) (source target : String) :
    (t.item? (Path.split source) = none ∧ t.rename now source target = (t, .error (.missing source))) ∨
    ((∃ s, t.item? (Path.split source) = some (.dir s)) ∧
      t.rename now source target = (t, .error .cannotRenameDirectory)) ∨
    (∃ doc, t.item? (Path.split source) = some (.file doc) ∧
      ((∃ e, t.write now target doc.content = (t, .error e) ∧
          t.rename now source target = (t, .error e)) ∨
        ∃ t' t'', t.write now target doc.content = (t', .ok ()) ∧
          t.rename now source target = (t'', .ok ()) ∧ t''.Ordered ∧
          ∀ q, t''.item? q = if q = Path.split source ∧ Path.split source ≠ Path.split target then none
            else t'.item? q)) := by
  rw [item?_split]
  cases h : t.get? source with
  | none => exact .inl ⟨rfl, by rw [rename, h]⟩
  | some node =>
      cases node with
      | dir stamp below => exact .inr (.inl ⟨⟨stamp, rfl⟩, by rw [rename, h]⟩)
      | file doc =>
          refine .inr (.inr ⟨doc, rfl, ?_⟩)
          have hfail {e : FileError} (hw : t.write now target doc.content = (t, .error e)) :
              ∃ e, t.write now target doc.content = (t, .error e) ∧
                t.rename now source target = (t, .error e) := by
            refine ⟨e, hw, ?_⟩
            rw [rename, h]
            simp only [hw]
          rcases write_cases now ht target doc.content with
            ⟨-, hw⟩ | ⟨-, -, name, hw⟩ | ⟨-, -, -, hw⟩ | ⟨-, -, hdir, t', hw, hord, hitem⟩
          · exact .inl (hfail hw)
          · exact .inl (hfail hw)
          · exact .inl (hfail hw)
          · right
            have hrename : t.rename now source target =
                if Path.split source = Path.split target then (t', .ok ()) else t'.rm source := by
              rw [rename, h]
              simp only [hw]
            by_cases hsame : Path.split source = Path.split target
            · refine ⟨t', t', hw, ?_, hord, fun q => ?_⟩
              · rw [hrename, if_pos hsame]
              · rw [if_neg fun hq => hq.2 hsame]
            · have hdoc := (t.get?_eq_file_iff source doc).1 h
              obtain ⟨t'', hrm, hord'', hitem''⟩ := rm_after_write now hord rfl hdoc hdir hsame hitem
              refine ⟨t', t'', hw, ?_, hord'', fun q => ?_⟩
              · rw [hrename, if_neg hsame, hrm]
              · rw [hitem'']
                simp only [hsame, ne_eq, not_false_eq_true, and_true]

end Terminal.Tree
