import Terminal.Proofs.Files.Descent

namespace Terminal.Tree

def raised (now : Int) (t : Tree) (p q : List String) : Option Item :=
  if q <+: p then some ((t.item? q).getD (.dir (.along now q))) else t.item? q

variable (now : Int) {t : Tree}

theorem raised_of_exists {p : List String} (h : (t.item? p).isSome) (q : List String) :
    t.raised now p q = t.item? q := by
  rw [raised]
  split
  · rename_i hq
    obtain ⟨r, rfl⟩ := hq
    by_cases hr : r = []
    · subst hr
      rw [List.append_nil] at h
      obtain ⟨item, hitem⟩ := Option.isSome_iff_exists.1 h
      rw [hitem]
      rfl
    · obtain ⟨stamp, hdir⟩ := t.exists_item?_dir hr h
      rw [hdir]
      rfl
  · rfl

theorem descend_of_not_blocked (act : Forest → Forest × Except FileError Unit) {p : List String}
    (h : ¬ t.Blocked p) :
    ∃ g, (t.descend now act p).2 = (act g).2 ∧
      (∀ r, r ≠ [] → (Node.dir t.stamp g).item? r = t.item? (p ++ r)) ∧
      (∀ r, r ≠ [] → (t.descend now act p).1.item? (p ++ r) = (Node.dir t.stamp (act g).1).item? r) ∧
      ∀ q, (∀ r, r ≠ [] → q ≠ p ++ r) → (t.descend now act p).1.item? q = t.raised now p q := by
  obtain ⟨g, hout, hg, hbelow, helse⟩ := Forest.descend_of_not_blocked now act t.stamp h
  exact ⟨g, hout, hg, hbelow, helse⟩

theorem descend_of_blocked (act : Forest → Forest × Except FileError Unit) {p : List String}
    (ht : t.Ordered) (h : t.Blocked p) :
    ∃ name, t.descend now act p = (t, .error (.segmentIsFile name)) := by
  obtain ⟨name, hd⟩ := Forest.descend_of_blocked now act t.stamp ht h
  exact ⟨name, by rw [descend, hd]⟩

theorem ordered_descend {act : Forest → Forest × Except FileError Unit}
    (hact : ∀ g : Forest, g.Ordered → (act g).1.Ordered) (ht : t.Ordered) (p : List String) :
    (t.descend now act p).1.Ordered :=
  Forest.Ordered.descend now hact ht p

theorem not_blocked_of_item?_dir {p : List String} {stamp : Stamp} (h : t.item? p = some (.dir stamp)) :
    ¬ t.Blocked p := by
  rintro ⟨q, ⟨r, rfl⟩, doc, hdoc⟩
  change t.item? q = some (.file doc) at hdoc
  by_cases hr : r = []
  · subst hr
    rw [List.append_nil, hdoc] at h
    exact absurd h (by simp)
  · rw [t.item?_append_eq_none hr fun s => by simp [hdoc]] at h
    exact absurd h (by simp)

theorem descend_append (act : Forest → Forest × Except FileError Unit) (path more : List String) (t : Tree) :
    t.descend now act (path ++ more) =
      match t.descend now Forest.keep path with
      | (t', .ok ()) => t'.descend now act (path ++ more)
      | (t', .error e) => (t', .error e) := by
  rw [descend, descend, Forest.descend_append]
  rcases t.entries.descend now Forest.keep path with ⟨f, e | ⟨⟩⟩
  · rfl
  · rfl

theorem descend_keep (ht : t.Ordered) {p : List String} (h : ¬ t.Blocked p) :
    ∃ t', t.descend now Forest.keep p = (t', .ok ()) ∧ t'.Ordered ∧ ∀ q, t'.item? q = t.raised now p q := by
  obtain ⟨g, hout, hg, hbelow, helse⟩ := descend_of_not_blocked now Forest.keep h
  refine ⟨_, Prod.ext rfl hout, ordered_descend now (fun g hg => hg) ht _, fun q => ?_⟩
  by_cases hq : ∃ r, r ≠ [] ∧ q = p ++ r
  · obtain ⟨r, hr, rfl⟩ := hq
    rw [hbelow r hr, Forest.keep, hg r hr, raised, if_neg]
    intro hp
    exact hr (List.append_right_eq_self.1 (List.IsPrefix.eq_of_length_le hp (by simp)))
  · exact helse q fun r hr he => hq ⟨r, hr, he⟩

theorem mkdir_eq_descend (ht : t.Ordered) (path : String) :
    t.mkdir now path = t.descend now Forest.keep (Path.split path) := by
  by_cases hdir : t.isDir path = true
  · obtain ⟨stamp, hitem⟩ := (t.isDir_iff path).1 hdir
    obtain ⟨t', hdescend, ht', hitems⟩ := descend_keep now ht (not_blocked_of_item?_dir hitem)
    have hsame : t' = t := by
      refine eq_of_item? ht' ht fun q => ?_
      rw [hitems, raised_of_exists now (by rw [hitem]; rfl)]
    rw [mkdir, if_pos hdir, hdescend, hsame]
  · rw [mkdir, if_neg hdir]
    rfl

theorem mkdir_cases (ht : t.Ordered) (path : String) :
    (t.Blocked (Path.split path) ∧ ∃ name, t.mkdir now path = (t, .error (.segmentIsFile name))) ∨
    (¬ t.Blocked (Path.split path) ∧ ∃ t', t.mkdir now path = (t', .ok ()) ∧ t'.Ordered ∧
      ∀ q, t'.item? q = t.raised now (Path.split path) q) := by
  rw [mkdir_eq_descend now ht]
  by_cases hb : t.Blocked (Path.split path)
  · exact .inl ⟨hb, descend_of_blocked now _ ht hb⟩
  · exact .inr ⟨hb, descend_keep now ht hb⟩

section Write

variable (path name content : String)

def fill (f : Forest) : Forest × Except FileError Unit :=
  match f.find? name with
  | some (.dir _ _) => (f, .error (.isDirectory path))
  | _ => (f.put name (.file ⟨content, .at now name⟩), .ok ())

theorem fill_of_dir {f : Forest} {s : Stamp} {b : Forest} (h : f.find? name = some (.dir s b)) :
    fill now path name content f = (f, .error (.isDirectory path)) := by
  rw [fill, h]

theorem fill_of_not_dir {f : Forest} (h : ∀ s b, f.find? name ≠ some (.dir s b)) :
    fill now path name content f = (f.put name (.file ⟨content, .at now name⟩), .ok ()) := by
  rw [fill]
  split
  · rename_i s b hf
    exact absurd hf (h s b)
  · rfl

theorem ordered_fill {f : Forest} (h : f.Ordered) : (fill now path name content f).1.Ordered := by
  rw [fill]
  split
  · exact h
  · exact h.put name trivial

variable {path name}

theorem write_eq {front : List String} (h : Path.split path = front ++ [name]) :
    t.write now path content = t.descend now (fill now path name content) front := by
  rw [write, h, List.getLast?_append]
  simp only [List.getLast?_singleton, Option.some_or, List.dropLast_concat]
  rfl

theorem find?_eq_dir_iff {g : Forest} {p : List String}
    (hg : ∀ r, r ≠ [] → (Node.dir t.stamp g).item? r = t.item? (p ++ r)) :
    (∃ s b, g.find? name = some (.dir s b)) ↔ ∃ s, t.item? (p ++ [name]) = some (.dir s) := by
  rw [← hg [name] (by simp), Node.item?_dir_cons]
  cases g.find? name with
  | none => simp
  | some node => cases node <;> simp [Node.item]

theorem write_concat_of_dir (ht : t.Ordered) {front : List String} {s : Stamp}
    (h : Path.split path = front ++ [name]) (hdir : t.item? (front ++ [name]) = some (.dir s)) :
    t.write now path content = (t, .error (.isDirectory path)) := by
  have hsome : (t.item? (front ++ [name])).isSome := by rw [hdir]; rfl
  have hfront : (t.item? front).isSome := by
    obtain ⟨s', hs'⟩ := t.exists_item?_dir (by simp) hsome
    rw [hs']
    rfl
  have hb : ¬ t.Blocked front := by
    obtain ⟨s', hs'⟩ := t.exists_item?_dir (by simp) hsome
    exact not_blocked_of_item?_dir hs'
  obtain ⟨g, hout, hg, hbelow, helse⟩ := descend_of_not_blocked now (fill now path name content) hb
  obtain ⟨s', b', hfind⟩ := (find?_eq_dir_iff hg).2 ⟨s, hdir⟩
  rw [fill_of_dir now path name content hfind] at hout hbelow
  have hsame : (t.descend now (fill now path name content) front).1 = t := by
    refine eq_of_item? (ordered_descend now (fun g => ordered_fill now path name content) ht _) ht
      fun q => ?_
    by_cases hq : ∃ r, r ≠ [] ∧ q = front ++ r
    · obtain ⟨r, hr, rfl⟩ := hq
      rw [hbelow r hr, hg r hr]
    · rw [helse q fun r hr he => hq ⟨r, hr, he⟩, raised_of_exists now hfront]
  rw [write_eq now content h]
  exact Prod.ext hsame hout

theorem write_concat_of_not_dir (ht : t.Ordered) {front : List String}
    (h : Path.split path = front ++ [name]) (hb : ¬ t.Blocked front)
    (hdir : ∀ s, t.item? (front ++ [name]) ≠ some (.dir s)) :
    ∃ t', t.write now path content = (t', .ok ()) ∧ t'.Ordered ∧
      ∀ q, t'.item? q = if q = front ++ [name] then some (.file ⟨content, .along now (front ++ [name])⟩)
        else t.raised now (front ++ [name]) q := by
  obtain ⟨g, hout, hg, hbelow, helse⟩ := descend_of_not_blocked now (fill now path name content) hb
  have hfind (s : Stamp) (b : Forest) : g.find? name ≠ some (.dir s b) := fun hf => by
    obtain ⟨s', hs'⟩ := (find?_eq_dir_iff hg).1 ⟨s, b, hf⟩
    exact hdir s' hs'
  rw [fill_of_not_dir now path name content hfind] at hout hbelow
  refine ⟨_, (write_eq now content h).trans (Prod.ext rfl hout),
    ordered_descend now (fun g => ordered_fill now path name content) ht _, fun q => ?_⟩
  by_cases hq : ∃ r, r ≠ [] ∧ q = front ++ r
  · obtain ⟨r, hr, rfl⟩ := hq
    rw [hbelow r hr]
    cases r with
    | nil => exact absurd rfl hr
    | cons m r =>
        rw [Forest.item?_put]
        by_cases hm : name = m
        · subst hm
          rw [if_pos rfl]
          by_cases hnil : r = []
          · subst hnil
            rw [if_pos rfl, Stamp.along_append now front (by simp)]
            rfl
          · have hlong : front ++ name :: r = (front ++ [name]) ++ r := by simp
            have hnot : ¬ (front ++ [name]) ++ r <+: front ++ [name] := fun hp =>
              hnil (List.append_right_eq_self.1 (List.IsPrefix.eq_of_length_le hp (by simp)))
            rw [Node.item?_file_of_ne_nil _ hnil, hlong, if_neg (by simpa using hnil), raised, if_neg hnot,
              t.item?_append_eq_none hnil hdir]
        · have hne : front ++ m :: r ≠ front ++ [name] := by simpa using fun he : m = name => absurd he.symm hm
          have hnot : ¬ front ++ m :: r <+: front ++ [name] := by
            rw [List.prefix_append_right_inj, List.cons_prefix_cons]
            exact fun hp => hm hp.1.symm
          rw [if_neg hm, hg _ (by simp), if_neg hne, raised, if_neg hnot]
  · have hnot (r : List String) (hr : r ≠ []) : q ≠ front ++ r := fun he => hq ⟨r, hr, he⟩
    rw [helse q hnot, if_neg (hnot [name] (by simp))]
    simp only [raised, List.prefix_concat_iff, hnot [name] (by simp), false_or]

theorem write_cases (ht : t.Ordered) (path content : String) :
    (Path.split path = [] ∧ t.write now path content = (t, .error .invalidPath)) ∨
    (Path.split path ≠ [] ∧ t.Blocked (Path.split path).dropLast ∧
      ∃ name, t.write now path content = (t, .error (.segmentIsFile name))) ∨
    (Path.split path ≠ [] ∧ ¬ t.Blocked (Path.split path).dropLast ∧
      (∃ s, t.item? (Path.split path) = some (.dir s)) ∧
      t.write now path content = (t, .error (.isDirectory path))) ∨
    (Path.split path ≠ [] ∧ ¬ t.Blocked (Path.split path).dropLast ∧
      (∀ s, t.item? (Path.split path) ≠ some (.dir s)) ∧
      ∃ t', t.write now path content = (t', .ok ()) ∧ t'.Ordered ∧
        ∀ q, t'.item? q = if q = Path.split path then some (.file ⟨content, .along now (Path.split path)⟩)
          else t.raised now (Path.split path) q) := by
  by_cases hne : Path.split path = []
  · refine .inl ⟨hne, ?_⟩
    rw [write, hne]
    rfl
  · have hp := (List.dropLast_concat_getLast hne).symm
    by_cases hb : t.Blocked (Path.split path).dropLast
    · refine .inr (.inl ⟨hne, hb, ?_⟩)
      rw [write_eq now content hp]
      exact descend_of_blocked now _ ht hb
    · by_cases hdir : ∃ s, t.item? (Path.split path) = some (.dir s)
      · obtain ⟨s, hs⟩ := hdir
        refine .inr (.inr (.inl ⟨hne, hb, ⟨s, hs⟩, ?_⟩))
        exact write_concat_of_dir now content ht hp (hp ▸ hs)
      · have hnot (s : Stamp) : t.item? (Path.split path) ≠ some (.dir s) := fun hs => hdir ⟨s, hs⟩
        have hdone := write_concat_of_not_dir now content ht hp hb (hp ▸ hnot)
        rw [← hp] at hdone
        exact .inr (.inr (.inr ⟨hne, hb, hnot, hdone⟩))

end Write

end Terminal.Tree
