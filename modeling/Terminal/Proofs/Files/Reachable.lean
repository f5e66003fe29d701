import Terminal.Proofs.Files.Refinement
import Terminal.Proofs.Path.Split

namespace Terminal

namespace PathMap

variable {m m' : PathMap} {q : List String}

theorem keys_of_write {p : List String} {content : String} (h : m.write p content = .ok m')
    (hq : (m'.get? q).isSome) : (m.get? q).isSome ∨ q <+: p := by
  rw [write] at h
  split at h
  · cases h
  · split at h
    · cases h
    · split at h
      · cases h
      · cases h
        rw [get?_withFile] at hq
        split at hq
        · rename_i he
          exact .inr (by rw [he])
        · split at hq
          · rename_i hpre
            exact .inr hpre
          · exact .inl hq

theorem keys_of_without {p : List String} (hp : p ≠ []) (hq : ((m.without p hp).get? q).isSome) :
    (m.get? q).isSome := by
  rw [get?_without] at hq
  split at hq
  · exact absurd hq (by simp)
  · exact hq

theorem keys_of_perform {op : FileOp} (h : m.perform op = .ok m') (hq : (m'.get? q).isSome) :
    (m.get? q).isSome ∨ ∃ path, q <+: Path.split path := by
  have hwritten {p : List String} {content path : String} (hp : p = Path.split path)
      (hw : m.write p content = .ok m') : (m.get? q).isSome ∨ ∃ path, q <+: Path.split path :=
    (keys_of_write hw hq).imp id fun hpre => ⟨path, hp ▸ hpre⟩
  cases op with
  | mkdir path =>
      rw [perform, mkdir] at h
      split at h
      · cases h
      · cases h
        rw [get?_withDirs] at hq
        split at hq
        · rename_i hpre
          exact .inr ⟨path, hpre⟩
        · exact .inl hq
  | write path content => exact hwritten rfl h
  | append path content =>
      rw [perform, append] at h
      split at h
      · exact hwritten rfl h
      · cases h
      · exact hwritten rfl h
  | touch path =>
      rw [perform, touch] at h
      split at h
      · exact hwritten rfl h
      · cases h
        exact .inl hq
  | rm path =>
      rw [perform, rm] at h
      split at h
      · cases h
        exact .inl hq
      · split at h
        · cases h
          exact .inl (keys_of_without _ hq)
        · cases h
  | rmdir path =>
      rw [perform, rmdir] at h
      split at h
      · cases h
        exact .inl hq
      · cases h
      · split at h
        · split at h
          · cases h
            exact .inl hq
          · cases h
            exact .inl (keys_of_without _ hq)
        · cases h
  | copy source target =>
      rw [perform, copy] at h
      split at h
      · cases h
      · cases h
      · exact hwritten rfl h
  | rename source target =>
      rw [perform, rename] at h
      split at h
      · cases h
      · cases h
      · split at h
        · cases h
        · rename_i moved hw
          have hmoved (hkey : (moved.get? q).isSome) :
              (m.get? q).isSome ∨ ∃ path, q <+: Path.split path :=
            (keys_of_write hw hkey).imp id fun hpre => ⟨target, hpre⟩
          split at h
          · cases h
            exact hmoved hq
          · split at h
            · cases h
              exact hmoved hq
            · cases h
              exact hmoved (keys_of_without _ hq)

end PathMap

namespace Tree

theorem Ordered.perform {t : Tree} (h : t.Ordered) (now : Int) (op : FileOp) : (op.perform now t).1.Ordered :=
  (follows_perform now h op).ordered h

def Named (t : Tree) : Prop := ∀ p, (t.item? p).isSome → ∀ name ∈ p, Path.IsName name

theorem named_bare (stamp : Stamp) : Named ⟨stamp, .nil⟩ := by
  intro p hp
  rw [item?, root, Node.item?_empty] at hp
  split at hp
  · rename_i hnil
    simp [hnil]
  · exact absurd hp (by simp)

theorem Named.perform {t : Tree} (h : t.Named) (ht : t.Ordered) (now : Int) (op : FileOp) :
    (op.perform now t).1.Named := by
  intro p hp
  have hop := follows_perform now ht op
  cases hres : t.pathMap.perform op with
  | error kind =>
      rw [hres] at hop
      obtain ⟨e, hstep, -⟩ := hop
      rw [hstep] at hp
      exact h p hp
  | ok m =>
      rw [hres] at hop
      obtain ⟨t', hstep, -, hmap⟩ := hop
      rw [hstep] at hp
      have hkey : (m.get? p).isSome := by
        rw [← hmap, get?_pathMap, Option.isSome_map]
        exact hp
      rcases PathMap.keys_of_perform hres hkey with hold | ⟨path, hpre⟩
      · rw [get?_pathMap, Option.isSome_map] at hold
        exact h p hold
      · intro name hname
        exact Path.isName_of_mem_split (hpre.subset hname)

inductive Reachable : Tree → Prop
  | empty (now : Int) : Reachable (Tree.empty now)
  | step {t : Tree} (now : Int) (op : FileOp) : Reachable t → Reachable (op.perform now t).1

namespace Reachable

theorem seeded (now : Int) : (Tree.seeded now).Reachable := by
  have hhome := (empty now).step now (.mkdir "/home")
  have hguest := hhome.step now (.mkdir "/home/guest")
  have hreadme := hguest.step now (.write "/home/guest/readme.txt" welcome)
  have hprojects := hreadme.step now (.mkdir "/projects")
  exact hprojects.step now (.write "/projects/todo.md" "- build terminal\n- ship app")

theorem ordered {t : Tree} (h : t.Reachable) : t.Ordered := by
  induction h with
  | empty now => exact ordered_empty now
  | step now op _ ih => exact ih.perform now op

theorem isName {t : Tree} (h : t.Reachable) {p : List String} (hp : (t.item? p).isSome) :
    ∀ name ∈ p, Path.IsName name := by
  have hnamed : t.Named := by
    clear hp
    induction h with
    | empty now => exact named_bare (.at now "/")
    | step now op ht ih => exact ih.perform ht.ordered now op
  exact hnamed p hp

end Reachable

/-- The file at `source` stands at `target` with the content it had, and what is on neither path is as before,
but for the directories made on the way to `target`. -/
structure Moved (now : Int) (t t' : Tree) (source target : List String) : Prop where
  arrived : ∃ doc, t.item? source = some (.file doc) ∧
    t'.item? target = some (.file ⟨doc.content, .along now target⟩)
  gone : source ≠ target → t'.item? source = none
  other : ∀ q, q ≠ source → q ≠ target → t'.item? q = t.raised now target q

theorem rename_moved (now : Int) {t : Tree} (ht : t.Ordered) (source target : String) :
    (∃ e, t.rename now source target = (t, .error e)) ∨
    ∃ t', t.rename now source target = (t', .ok ()) ∧
      t.Moved now t' (Path.split source) (Path.split target) := by
  rcases rename_cases now ht source target with
    ⟨-, hd⟩ | ⟨-, hd⟩ | ⟨doc, hdoc, ⟨e, -, hd⟩ | ⟨t', t'', hw, hd, -, hitem⟩⟩
  · exact .inl ⟨_, hd⟩
  · exact .inl ⟨_, hd⟩
  · exact .inl ⟨e, hd⟩
  · rcases write_cases now ht target doc.content with
      ⟨-, hw'⟩ | ⟨-, -, name, hw'⟩ | ⟨-, -, -, hw'⟩ | ⟨-, -, -, u, hw', -, hwritten⟩
    · cases hw.symm.trans hw'
    · cases hw.symm.trans hw'
    · cases hw.symm.trans hw'
    · cases hw.symm.trans hw'
      refine .inr ⟨t'', hd, ⟨⟨doc, hdoc, ?_⟩, fun hne => ?_, fun q hs hq => ?_⟩⟩
      · rw [hitem, if_neg fun h => h.2 h.1.symm, hwritten, if_pos rfl]
      · rw [hitem, if_pos ⟨rfl, hne⟩]
      · rw [hitem, if_neg fun h => hs h.1, hwritten, if_neg hq]

theorem rename_of_write (now : Int) {t t' : Tree} (ht : t.Ordered) {source target : String} {doc : Doc}
    (hdoc : t.get? source = some (.file doc)) (hw : t.write now target doc.content = (t', .ok ())) :
    (t.rename now source target).2 = .ok () := by
  have hitem := (t.get?_eq_file_iff source doc).1 hdoc
  rcases rename_cases now ht source target with
    ⟨hnone, -⟩ | ⟨⟨s, hdir⟩, -⟩ | ⟨doc', hdoc', ⟨e, hw', -⟩ | ⟨u, u', -, hd, -⟩⟩
  · rw [hitem] at hnone
    cases hnone
  · rw [hitem] at hdir
    cases hdir
  · cases hitem.symm.trans hdoc'
    cases hw.symm.trans hw'
  · rw [hd]

/-- An operation that fails leaves every node, content and stamp as it was, and a rename cannot stop halfway. -/
theorem perform_atomic {t : Tree} (h : t.Reachable) (now : Int) :
    (∀ (op : FileOp) (t' : Tree) (e : FileError), op.perform now t = (t', .error e) → t' = t) ∧
    ∀ source target,
      ((∃ e, t.rename now source target = (t, .error e)) ∨
        ∃ t', t.rename now source target = (t', .ok ()) ∧
          t.Moved now t' (Path.split source) (Path.split target)) ∧
      ∀ doc t', t.get? source = some (.file doc) → t.write now target doc.content = (t', .ok ()) →
        (t.rename now source target).2 = .ok () := by
  refine ⟨fun op t' e hstep => ?_, fun source target => ⟨?_, fun doc t' hdoc hw => ?_⟩⟩
  · exact (hstep ▸ follows_perform now h.ordered op).of_error.1
  · exact rename_moved now h.ordered source target
  · exact rename_of_write now h.ordered hdoc hw

theorem rename_onto_directory_unchanged :
    (Tree.seeded 0).Reachable ∧
      (FileOp.rename "/home/guest/readme.txt" "/projects").perform 7 (Tree.seeded 0) =
        (Tree.seeded 0, .error (.isDirectory "/projects")) := by
  have h := (perform_atomic (.seeded 0) 7).1 (.rename "/home/guest/readme.txt" "/projects")
  have hfail : ((FileOp.rename "/home/guest/readme.txt" "/projects").perform 7 (Tree.seeded 0)).2 =
      .error (.isDirectory "/projects") := by decide
  exact ⟨.seeded 0, Prod.ext (h _ _ (Prod.ext rfl hfail)) hfail⟩

end Tree

end Terminal
