import Mathlib.Data.List.Induction
import Mathlib.Data.List.TakeWhile
import Terminal.Proofs.Path.Laws

namespace Terminal

namespace Text

variable {p : Char → Bool}

theorem dropRightWhile_concat (cs : List Char) (c : Char) :
    dropRightWhile p (cs ++ [c]) = if p c then dropRightWhile p cs else cs ++ [c] := by
  rw [dropRightWhile, List.reverse_append, List.reverse_singleton, List.singleton_append, List.dropWhile_cons]
  split
  · rfl
  · simp

theorem dropRightWhile_prefix (cs : List Char) : dropRightWhile p cs <+: cs := by
  have hsuffix := List.dropWhile_suffix p (l := cs.reverse)
  rwa [← List.reverse_prefix, List.reverse_reverse] at hsuffix

theorem dropRightWhile_eq_nil_iff (cs : List Char) : dropRightWhile p cs = [] ↔ ∀ c ∈ cs, p c = true := by
  rw [dropRightWhile, List.reverse_eq_nil_iff, List.dropWhile_eq_nil_iff]
  simp

end Text

namespace Path

def IsHead (head : String) : Prop := head = "" ∨ ∃ front, head = front ++ "/"

theorem exists_head (path : String) : ∃ head base, path = head ++ base ∧ IsHead head ∧ '/' ∉ base.toList := by
  have hchars (cs : List Char) :
      ∃ head base, String.ofList cs = head ++ base ∧ IsHead head ∧ '/' ∉ base.toList := by
    induction cs using List.reverseRecOn with
    | nil => exact ⟨"", "", rfl, .inl rfl, by simp⟩
    | append_singleton cs c ih =>
        by_cases hc : c = '/'
        · subst hc
          exact ⟨.ofList cs ++ "/", "", String.toList_inj.1 (by simp), .inr ⟨_, rfl⟩, by simp⟩
        · obtain ⟨head, base, hcs, hhead, hbase⟩ := ih
          refine ⟨head, base ++ .ofList [c], ?_, hhead, ?_⟩
          · rw [String.ofList_append, hcs, String.append_assoc]
          · simpa using ⟨hbase, Ne.symm hc⟩
  simpa using hchars path.toList

theorem takeWhile_reverse_of_isHead {head : String} (h : IsHead head) :
    head.toList.reverse.takeWhile (· != '/') = [] := by
  rcases h with rfl | ⟨front, rfl⟩
  · rfl
  · simp

theorem cutLast_append {head base : String} (h : IsHead head) (hbase : '/' ∉ base.toList) :
    cutLast (head ++ base) = (head, base) := by
  have hkept : (head ++ base).toList.reverse.takeWhile (· != '/') = base.toList.reverse := by
    rw [String.toList_append, List.reverse_append, List.takeWhile_append_of_pos, takeWhile_reverse_of_isHead h,
      List.append_nil]
    intro c hc
    have hmem : c ∈ base.toList := List.mem_reverse.1 hc
    simpa using fun he : c = '/' => hbase (he ▸ hmem)
  have htaken : (head ++ base).toList.take ((head ++ base).length - base.toList.reverse.length) = head.toList := by
    rw [String.length_append, List.length_reverse, String.length_toList, Nat.add_sub_cancel, String.toList_append]
    exact List.take_left' String.length_toList
  rw [cutLast, hkept]
  simp only [htaken, List.reverse_reverse, String.ofList_toList]

theorem split_concat_slash (path : String) : split (path ++ "/") = split path := by
  have h := split_append_slash path ""
  rwa [String.append_empty, split_empty, List.append_nil] at h

theorem split_dropSlashes (path : String) :
    split (.ofList (Text.dropRightWhile (· == '/') path.toList)) = split path := by
  have hchars (cs : List Char) : split (.ofList (Text.dropRightWhile (· == '/') cs)) = split (.ofList cs) := by
    induction cs using List.reverseRecOn with
    | nil => rfl
    | append_singleton cs c ih =>
        rw [Text.dropRightWhile_concat]
        split
        · rename_i hc
          have hslash : String.ofList (cs ++ [c]) = String.ofList cs ++ "/" :=
            String.toList_inj.1 (by simpa using hc)
          rw [ih, hslash, split_concat_slash]
        · rfl
  simpa using hchars path.toList

theorem split_head_append {head name : String} (h : IsHead head) (hname : IsName name) :
    split (head ++ name) = split head ++ [name] := by
  rcases h with rfl | ⟨front, rfl⟩
  · rw [String.empty_append, split_name hname]
    rfl
  · rw [split_append_slash, split_name hname, split_concat_slash]

theorem startsWith_head_append {head name : String} (h : IsName name) :
    Text.startsWith (head ++ name) "/" = Text.startsWith head "/" := by
  by_cases hne : head = ""
  · subst hne
    rw [String.empty_append, not_startsWith_of_isName h]
    rfl
  · exact startsWith_append hne name

section Resolve

variable {cwd p q : String} (h : Canonical cwd)

include h

theorem split_resolve_congr (hlead : Text.startsWith p "/" = Text.startsWith q "/") (hsplit : split p = split q) :
    split (resolve cwd p) = split (resolve cwd q) := by
  cases hq : Text.startsWith q "/" with
  | true => rw [resolve_of_startsWith hq, resolve_of_startsWith (hlead.trans hq), hsplit]
  | false =>
      obtain ⟨parts, hparts, rfl⟩ := h
      rw [resolve_eq_settle hparts hq, resolve_eq_settle hparts (hlead.trans hq), hsplit]

theorem split_resolve_append {head name : String} (hhead : IsHead head) (hname : IsComponent name) :
    split (resolve cwd (head ++ name)) = split (resolve cwd head) ++ [name] := by
  have hsplit : split (head ++ name) = split head ++ [name] := split_head_append hhead hname.isName
  have hlead : Text.startsWith (head ++ name) "/" = Text.startsWith head "/" := startsWith_head_append hname.isName
  cases hstart : Text.startsWith head "/" with
  | true => rw [resolve_of_startsWith hstart, resolve_of_startsWith (hlead.trans hstart), hsplit]
  | false =>
      obtain ⟨parts, hparts, rfl⟩ := h
      have hplain : IsPlain name := (isComponent_iff.1 hname).2
      have hlonger : settle [] (parts ++ split (head ++ name)) = settle [] (parts ++ split head) ++ [name] := by
        rw [hsplit, ← List.append_assoc, settle_concat_of_isPlain _ hplain]
      have hbefore := isComponent_of_settled hparts head
      have hafter := isComponent_of_settled hparts (head ++ name)
      rw [resolve_eq_settle hparts hstart, resolve_eq_settle hparts (hlead.trans hstart),
        split_absolute_of_components hafter, split_absolute_of_components hbefore, hlonger]

end Resolve

theorem split_resolve_name {base name : String} (h : ∀ part ∈ split base, IsPlain part) (hname : IsComponent name) :
    split (resolve base name) = split base ++ [name] := by
  have hplain : IsPlain name := (isComponent_iff.1 hname).2
  have hnames : ∀ part ∈ split base ++ [name], IsName part := by
    intro part hpart
    rcases List.mem_append.1 hpart with hpart | hpart
    · exact isName_of_mem_split hpart
    · exact List.mem_singleton.1 hpart ▸ hname.isName
  rw [resolve_name hname.isName hplain.1, settle_concat_of_isPlain _ hplain, settle_eq_self h, split_absolute hnames]

end Path

end Terminal
