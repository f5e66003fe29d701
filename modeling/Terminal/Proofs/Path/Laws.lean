import Terminal.Proofs.Path.Settle

namespace Terminal.Path

theorem isPlain_of_components {parts : List String} (h : ∀ part ∈ parts, IsComponent part) :
    ∀ part ∈ parts, IsPlain part := fun part hpart => (isComponent_iff.1 (h part hpart)).2

theorem split_absolute_of_components {parts : List String} (h : ∀ part ∈ parts, IsComponent part) :
    split (absolute parts) = parts := split_absolute fun part hpart => (h part hpart).isName

theorem settle_append_of_components {parts : List String} (h : ∀ part ∈ parts, IsComponent part) (more : List String) :
    settle [] (parts ++ more) = settle parts.reverse more := by
  rw [settle_append, settle_eq_self (isPlain_of_components h)]

theorem resolve_eq_settle {parts : List String} (h : ∀ part ∈ parts, IsComponent part) {path : String}
    (hpath : Text.startsWith path "/" = false) :
    resolve (absolute parts) path = absolute (settle [] (parts ++ split path)) := by
  have hself : settle [] parts = parts := settle_eq_self (isPlain_of_components h)
  by_cases hshort : path = "" ∨ path = "."
  · rw [resolve, if_pos hshort, if_neg (absolute_ne_empty parts)]
    -- neither of them adds a step to the directory
    rcases hshort with rfl | rfl
    · rw [split_empty, List.append_nil, hself]
    · have hdot : split "." = ["."] := by decide +kernel
      rw [hdot, settle_append, hself, settle, if_pos rfl, settle, List.reverse_reverse]
  · rw [resolve, if_neg hshort, if_neg (by simp [hpath]), split_absolute_of_components h]

theorem isComponent_of_settled {parts : List String} (h : ∀ part ∈ parts, IsComponent part) (path : String) :
    ∀ part ∈ settle [] (parts ++ split path), IsComponent part := by
  intro part hpart
  refine isComponent_of_mem_settle (fun q hq => ?_) hpart
  rcases List.mem_append.1 hq with hq | hq
  · exact (h q hq).isName
  · exact isName_of_mem_split hq

theorem canonical_resolve {cwd path : String} (h : Canonical cwd) (hpath : Text.startsWith path "/" = false) :
    Canonical (resolve cwd path) := by
  obtain ⟨parts, hparts, rfl⟩ := h
  exact ⟨_, isComponent_of_settled hparts path, resolve_eq_settle hparts hpath⟩

theorem normalize_of_canonical {path : String} (h : Canonical path) : normalize path = path := by
  obtain ⟨parts, hparts, rfl⟩ := h
  rw [normalize, split_absolute_of_components hparts, settle_eq_self (isPlain_of_components hparts)]

theorem resolve_idem {cwd : String} (h : Canonical cwd) (path : String) :
    resolve cwd (resolve cwd path) = resolve cwd path := resolve_of_startsWith (startsWith_resolve h path)

theorem startsWith_append {p : String} (h : p ≠ "") (rest : String) :
    Text.startsWith (p ++ rest) "/" = Text.startsWith p "/" := by
  obtain ⟨c, cs, hp⟩ := List.exists_cons_of_ne_nil fun hnil => h (String.toList_inj.1 hnil)
  simp [Text.startsWith, hp, List.isPrefixOf]

theorem resolve_resolve {cwd p q : String} (h : Canonical cwd) (hne : p ≠ "") (hp : Text.startsWith p "/" = false)
    (hq : Text.startsWith q "/" = false) : resolve (resolve cwd p) q = resolve cwd (p ++ "/" ++ q) := by
  obtain ⟨parts, hparts, rfl⟩ := h
  have hsettled := isComponent_of_settled hparts p
  have hjoined : Text.startsWith (p ++ "/" ++ q) "/" = false := by
    rw [String.append_assoc, startsWith_append hne, hp]
  calc resolve (resolve (absolute parts) p) q
      = resolve (absolute (settle [] (parts ++ split p))) q := by rw [resolve_eq_settle hparts hp]
    _ = absolute (settle [] (settle [] (parts ++ split p) ++ split q)) := resolve_eq_settle hsettled hq
    _ = absolute (settle [] (parts ++ split p ++ split q)) := by
        rw [settle_append_of_components hsettled, settle_append (a := parts ++ split p)]
    _ = absolute (settle [] (parts ++ split (p ++ "/" ++ q))) := by rw [split_append_slash, List.append_assoc]
    _ = resolve (absolute parts) (p ++ "/" ++ q) := (resolve_eq_settle hparts hjoined).symm

def withoutLead (path : String) : String := .ofList (path.toList.dropWhile (· == '/'))

theorem startsWith_withoutLead (path : String) : Text.startsWith (withoutLead path) "/" = false := by
  have hhead := List.head?_dropWhile_not (· == '/') path.toList
  rw [withoutLead, Text.startsWith, String.toList_ofList]
  cases hrest : path.toList.dropWhile (· == '/') with
  | nil => rfl
  | cons c cs =>
      rw [hrest] at hhead
      have hc : c ≠ '/' := by simpa using hhead
      simp [List.isPrefixOf, hc.symm]

theorem split_withoutLead (path : String) : split (withoutLead path) = split path := by
  rw [withoutLead]
  have hchars (cs : List Char) : split (.ofList (cs.dropWhile (· == '/'))) = split (.ofList cs) := by
    induction cs with
    | nil => rfl
    | cons c cs ih =>
        by_cases hc : c = '/'
        · subst hc
          have hsplit := split_slash_append (.ofList cs)
          have hcons : "/" ++ String.ofList cs = .ofList ('/' :: cs) := String.toList_inj.1 (by simp)
          rw [hcons] at hsplit
          rw [List.dropWhile_cons_of_pos (by simp), ih, hsplit]
        · rw [List.dropWhile_cons_of_neg (by simpa using hc)]
  simpa using hchars path.toList

theorem normalize_eq_resolve (path : String) : normalize path = resolve "/" (withoutLead path) := by
  have hroot : resolve (absolute []) (withoutLead path) = absolute (settle [] ([] ++ split (withoutLead path))) :=
    resolve_eq_settle (by simp) (startsWith_withoutLead path)
  rw [List.nil_append, split_withoutLead] at hroot
  exact hroot.symm

/-- Every text has one canonical spelling, which normalizing finds. Resolving again changes nothing, what is resolved
below a canonical directory is canonical unless the path is absolute, and resolving step by step is resolving along the
joined path. -/
theorem resolution_laws :
    (∀ path, Canonical (normalize path) ∧ normalize (normalize path) = normalize path ∧
      normalize path = resolve "/" (withoutLead path)) ∧
    (∀ path, Canonical path → normalize path = path) ∧
    (∀ cwd path, Canonical cwd → resolve cwd (resolve cwd path) = resolve cwd path ∧
      (Text.startsWith path "/" = false → Canonical (resolve cwd path))) ∧
    ∀ cwd p q, Canonical cwd → p ≠ "" → Text.startsWith p "/" = false → Text.startsWith q "/" = false →
      resolve (resolve cwd p) q = resolve cwd (p ++ "/" ++ q) := by
  refine ⟨fun path => ?_, fun _ => normalize_of_canonical, fun cwd path h => ?_, fun _ _ _ => resolve_resolve⟩
  · have hcanonical := canonical_normalize path
    exact ⟨hcanonical, normalize_of_canonical hcanonical, normalize_eq_resolve path⟩
  · exact ⟨resolve_idem h path, canonical_resolve h⟩

theorem resolved_in_two_steps : Canonical "/srv/a" ∧
    resolve (resolve "/srv/a" "..\\../x") ".//../\\y" = resolve "/srv/a" "..\\../x/.//../\\y" ∧
    resolve "/srv/a" "..\\../x/.//../\\y" = "/y" ∧ Canonical (resolve "/srv/a" "..\\../x") ∧
    normalize "/srv/a" = "/srv/a" := by
  have hspelled : normalize "/srv/a" = "/srv/a" := by decide +kernel
  have hcanonical : Canonical "/srv/a" := hspelled ▸ canonical_normalize "/srv/a"
  obtain ⟨-, hself, hbelow, hsteps⟩ := resolution_laws
  exact ⟨hcanonical, hsteps _ _ _ hcanonical (by decide +kernel) (by decide +kernel) (by decide +kernel),
    by decide +kernel, (hbelow _ _ hcanonical).2 (by decide +kernel), hself _ hcanonical⟩

end Terminal.Path
