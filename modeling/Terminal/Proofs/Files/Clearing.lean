import Terminal.Proofs.Files.Operations
import Terminal.Proofs.Path.Split

namespace Terminal.Tree

def clear (path : String) (t : Tree) : Step := if t.isDir path then t.rmdir path else t.rm path

def clearEach : List String → Tree → Step
  | [], t => (t, .ok ())
  | path :: paths, t =>
    match t.clear path with
    | (t', .ok ()) => clearEach paths t'
    | (t', .error e) => (t', .error e)

variable {t : Tree}

theorem clearEach_cons_ok {path : String} {t' : Tree} (h : t.clear path = (t', .ok ()))
    (paths : List String) : t.clearEach (path :: paths) = t'.clearEach paths := by
  rw [clearEach, h]

theorem clearEach_cons_error {path : String} {t' : Tree} {e : FileError}
    (h : t.clear path = (t', .error e)) (paths : List String) :
    t.clearEach (path :: paths) = (t', .error e) := by
  rw [clearEach, h]

theorem clearEach_append {a : List String} {t' : Tree} (h : t.clearEach a = (t', .ok ())) (b : List String) :
    t.clearEach (a ++ b) = t'.clearEach b := by
  induction a generalizing t with
  | nil =>
      cases h
      rfl
  | cons path a ih =>
      rw [clearEach] at h
      rw [List.cons_append]
      split at h
      · rename_i u hclear
        rw [clearEach_cons_ok hclear]
        exact ih h
      · cases h

theorem item?_append_of_leaf {q r : List String} (h : ∀ name, t.item? (q ++ [name]) = none) (hr : r ≠ []) :
    t.item? (q ++ r) = none := by
  cases r with
  | nil => exact absurd rfl hr
  | cons name r =>
      have hsplit : q ++ name :: r = (q ++ [name]) ++ r := by simp
      by_cases hnil : r = []
      · rw [hnil]
        exact h name
      · rw [hsplit]
        exact t.item?_append_eq_none hnil fun stamp => by simp [h name]

theorem clear_eq_rm {path : String} (h : ∀ name, t.item? (Path.split path ++ [name]) = none) :
    t.clear path = t.rm path := by
  rw [clear]
  by_cases hdir : t.isDir path = true
  · rw [if_pos hdir]
    obtain ⟨stamp, hitem⟩ := (t.isDir_iff path).1 hdir
    rcases rmdir_cases (t := t) path with ⟨hnone, -⟩ | ⟨⟨doc, hdoc⟩, -⟩ | ⟨-, ⟨name, hname⟩, -⟩ | ⟨-, -, hrm⟩
    · rw [hitem] at hnone
      cases hnone
    · rw [hitem] at hdoc
      cases hdoc
    · rw [h name] at hname
      cases hname
    · exact hrm
  · rw [if_neg hdir]

theorem clear_leaf (ht : t.Ordered) (path : String) (hne : Path.split path ≠ [])
    (hsome : (t.item? (Path.split path)).isSome) (h : ∀ name, t.item? (Path.split path ++ [name]) = none) :
    ∃ t', t.clear path = (t', .ok ()) ∧ t'.Ordered ∧
      ∀ q, t'.item? q = if q = Path.split path then none else t.item? q := by
  rw [clear_eq_rm h]
  rcases rm_cases ht path with ⟨hnil, -⟩ | ⟨-, hnot, -⟩ | ⟨-, -, t', hrm, hord, hitem⟩
  · exact absurd hnil hne
  · obtain ⟨stamp, hdir⟩ : ∃ s, t.item? (Path.split path).dropLast = some (.dir s) := by
      refine t.exists_item?_dir (q := [(Path.split path).getLast hne]) (by simp) ?_
      rw [List.dropLast_concat_getLast hne]
      exact hsome
    exact absurd hdir (hnot stamp)
  · refine ⟨t', hrm, hord, fun q => ?_⟩
    rw [hitem]
    by_cases hq : q = Path.split path
    · rw [if_pos hq, if_pos (hq ▸ List.prefix_refl _)]
    · rw [if_neg hq]
      split
      · rename_i hpre
        obtain ⟨r, rfl⟩ := hpre
        have hr : r ≠ [] := by
          rintro rfl
          exact hq (List.append_nil _)
        rw [item?_append_of_leaf h hr]
      · rfl

theorem clear_childless (ht : t.Ordered) {path : String} (hsome : (t.item? (Path.split path)).isSome)
    (h : ∀ name, t.item? (Path.split path ++ [name]) = none) :
    ∃ t', t.clear path = (t', .ok ()) ∧ t'.Ordered ∧
      ∀ q, t'.item? q = if Path.split path <+: q ∧ q ≠ [] then none else t.item? q := by
  have hbelow (r : List String) (hr : r ≠ []) : t.item? (Path.split path ++ r) = none :=
    item?_append_of_leaf h hr
  by_cases hnil : Path.split path = []
  · rw [clear_eq_rm h]
    rcases rm_cases ht path with ⟨-, hrm⟩ | ⟨hne, -⟩ | ⟨hne, -⟩
    · refine ⟨t, hrm, ht, fun q => ?_⟩
      split
      · rename_i hq
        have hgone := hbelow q hq.2
        rwa [hnil, List.nil_append] at hgone
      · rfl
    · exact absurd hnil hne
    · exact absurd hnil hne
  · obtain ⟨t', hclear, ht', hitem⟩ := clear_leaf ht path hnil hsome h
    refine ⟨t', hclear, ht', fun q => ?_⟩
    rw [hitem]
    by_cases hq : Path.split path <+: q
    · obtain ⟨r, rfl⟩ := hq
      have hcond : Path.split path <+: Path.split path ++ r ∧ Path.split path ++ r ≠ [] :=
        ⟨List.prefix_append _ r, by simp [hnil]⟩
      rw [if_pos hcond]
      by_cases hr : r = []
      · rw [hr, List.append_nil, if_pos rfl]
      · rw [hbelow r hr, ite_self]
    · have hne : q ≠ Path.split path := fun he => hq (he ▸ List.prefix_refl _)
      rw [if_neg hne, if_neg fun hcond => hq hcond.1]

theorem clear_not_empty {path name : String} (hdir : t.isDir path = true)
    (h : (t.item? (Path.split path ++ [name])).isSome) : t.clear path = (t, .error .notEmpty) := by
  rw [clear, if_pos hdir]
  obtain ⟨stamp, hitem⟩ := (t.isDir_iff path).1 hdir
  rcases rmdir_cases (t := t) path with ⟨hnone, -⟩ | ⟨⟨doc, hdoc⟩, -⟩ | ⟨-, -, hrm⟩ | ⟨-, hnone, -⟩
  · rw [hitem] at hnone
    cases hnone
  · rw [hitem] at hdoc
    cases hdoc
  · exact hrm
  · rw [hnone name] at h
    cases h

def Upward (t : Tree) (ps : List (List String)) : Prop :=
  ∀ before q after, ps = before ++ q :: after → ∀ name, (t.item? (q ++ [name])).isSome → q ++ [name] ∈ before

theorem clearEach_upward (ht : t.Ordered) {ps : List (List String)}
    (hnames : ∀ q ∈ ps, ∀ part ∈ q, Path.IsName part) (hsome : ∀ q ∈ ps, q ≠ [] ∧ (t.item? q).isSome)
    (hnodup : ps.Nodup) (hup : t.Upward ps) :
    ∃ t', t.clearEach (ps.map Path.absolute) = (t', .ok ()) ∧ t'.Ordered ∧
      ∀ q, t'.item? q = if q ∈ ps then none else t.item? q := by
  induction ps generalizing t with
  | nil => exact ⟨t, rfl, ht, fun q => by rw [if_neg List.not_mem_nil]⟩
  | cons p ps ih =>
      obtain ⟨hp, hnodup⟩ := List.nodup_cons.1 hnodup
      have hsplit : Path.split (Path.absolute p) = p := Path.split_absolute (hnames p (List.mem_cons_self ..))
      obtain ⟨hne, hitem⟩ := hsome p (List.mem_cons_self ..)
      have hleaf (name : String) : t.item? (p ++ [name]) = none := by
        cases hchild : t.item? (p ++ [name]) with
        | none => rfl
        | some item =>
            have hmem := hup [] p ps rfl name (by rw [hchild]; rfl)
            exact absurd hmem List.not_mem_nil
      obtain ⟨u, hclear, hu, hitems⟩ := clear_leaf ht (Path.absolute p)
        (by rw [hsplit]; exact hne) (by rw [hsplit]; exact hitem) (by rw [hsplit]; exact hleaf)
      rw [hsplit] at hitems
      have hsome' (q : List String) (hq : q ∈ ps) : q ≠ [] ∧ (u.item? q).isSome := by
        have hqp : q ≠ p := fun he => hp (he ▸ hq)
        rw [hitems, if_neg hqp]
        exact hsome q (List.mem_cons_of_mem _ hq)
      have hup' : u.Upward ps := by
        rintro before q after rfl name hname
        rw [hitems] at hname
        by_cases hchild : q ++ [name] = p
        · rw [if_pos hchild] at hname
          cases hname
        · rw [if_neg hchild] at hname
          have hmem := hup (p :: before) q after rfl name hname
          exact (List.mem_cons.1 hmem).resolve_left hchild
      obtain ⟨t', hrest, ht', hitems'⟩ := ih hu
        (fun q hq => hnames q (List.mem_cons_of_mem _ hq)) hsome' hnodup hup'
      refine ⟨t', ?_, ht', fun q => ?_⟩
      · rw [List.map_cons, clearEach_cons_ok hclear, hrest]
      · rw [hitems', hitems]
        simp only [List.mem_cons]
        by_cases hq : q ∈ ps
        · rw [if_pos hq, if_pos (.inr hq)]
        · by_cases hqp : q = p
          · rw [if_neg hq, if_pos hqp, if_pos (.inl hqp)]
          · rw [if_neg hq, if_neg hqp, if_neg (not_or.2 ⟨hqp, hq⟩)]

end Terminal.Tree
