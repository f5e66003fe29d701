import Terminal.Path

namespace Terminal.Text

variable {p : Char → Bool}

theorem consHead_append {c : Char} {ws vs : List (List Char)} (h : ws ≠ []) :
    consHead c (ws ++ vs) = consHead c ws ++ vs := by
  cases ws with
  | nil => exact absurd rfl h
  | cons w ws => rfl

theorem pieces_eq_singleton {cs : List Char} (h : ∀ c ∈ cs, p c = false) : pieces p cs = [cs] := by
  induction cs with
  | nil => rfl
  | cons c cs ih =>
      have hc : p c = false := h c (List.mem_cons_self ..)
      have hcs : pieces p cs = [cs] := ih fun d hd => h d (List.mem_cons_of_mem _ hd)
      simp [pieces, hc, hcs, consHead]

theorem pieces_append_sep {c : Char} (a b : List Char) (hc : p c = true) :
    pieces p (a ++ c :: b) = pieces p a ++ pieces p b := by
  induction a with
  | nil => simp [pieces, hc]
  | cons d a ih =>
      cases hd : p d with
      | true => simp [pieces, hd, ih]
      | false =>
          have ha : pieces p a ≠ [] := pieces_ne_nil p a
          simp [pieces, hd, ih, consHead_append ha]

theorem pieces_intercalate {sep : String} {c : Char} (hsep : sep.toList = [c]) (hc : p c = true) {ws : List String}
    (hne : ws ≠ []) (h : ∀ w ∈ ws, ∀ d ∈ w.toList, p d = false) :
    pieces p (sep.intercalate ws).toList = ws.map String.toList := by
  induction ws with
  | nil => exact absurd rfl hne
  | cons w ws ih =>
      have hone : pieces p w.toList = [w.toList] := pieces_eq_singleton (h w (List.mem_cons_self ..))
      by_cases hws : ws = []
      · rw [hws, String.intercalate_singleton, hone]
        rfl
      · have hrest := ih hws fun v hv => h v (List.mem_cons_of_mem _ hv)
        have htext : (sep.intercalate (w :: ws)).toList = w.toList ++ c :: (sep.intercalate ws).toList := by
          rw [String.intercalate_cons_of_ne_nil hws]
          simp [hsep]
        rw [htext, pieces_append_sep _ _ hc, hone, hrest]
        rfl

theorem lines_intercalate {ls : List String} (hne : ls ≠ []) (h : ∀ l ∈ ls, '\n' ∉ l.toList) :
    lines ("\n".intercalate ls) = ls := by
  have hpieces : pieces (· == '\n') ("\n".intercalate ls).toList = ls.map String.toList := by
    refine pieces_intercalate rfl (by rfl) hne fun l hl c hc => ?_
    exact beq_eq_false_iff_ne.2 fun he => h l hl (he ▸ hc)
  rw [lines, hpieces, List.map_map]
  simp

theorem intercalate_pieces (c : Char) (cs : List Char) : [c].intercalate (pieces (· == c) cs) = cs := by
  induction cs with
  | nil => rfl
  | cons d cs ih =>
      cases hps : pieces (· == c) cs with
      | nil => exact absurd hps (pieces_ne_nil _ cs)
      | cons w ws =>
          rw [hps] at ih
          by_cases hd : d = c
          · subst hd
            simpa [pieces, hps] using ih
          · cases ws with
            | nil => simpa [pieces, hps, hd, consHead] using ih
            | cons v ws => simpa [pieces, hps, hd, consHead] using ih

theorem length_lines_pos (s : String) : 0 < (lines s).length := by
  rw [lines, List.length_map]
  exact List.length_pos_iff.2 (pieces_ne_nil _ _)

theorem intercalate_lines (s : String) : "\n".intercalate (lines s) = s := by
  rw [← String.toList_inj, String.toList_intercalate, lines, List.map_map]
  have hmap : (pieces (· == '\n') s.toList).map (String.toList ∘ String.ofList) = pieces (· == '\n') s.toList := by
    simp [Function.comp_def]
  rw [hmap]
  exact intercalate_pieces '\n' s.toList

theorem exists_mem_pieces_iff {c : Char} (cs : List Char) :
    (∃ w ∈ pieces p cs, c ∈ w) ↔ c ∈ cs ∧ p c = false := by
  constructor
  · rintro ⟨w, hw, hc⟩
    refine ⟨?_, not_sep_of_mem_pieces hw hc⟩
    induction cs generalizing w with
    | nil => simp_all [pieces]
    | cons d cs ih =>
        rw [pieces] at hw
        split at hw
        · rcases List.mem_cons.1 hw with rfl | hw
          · cases hc
          · exact List.mem_cons_of_mem _ (ih w hw hc)
        · cases hps : pieces p cs with
          | nil => exact absurd hps (pieces_ne_nil p cs)
          | cons v vs =>
              rw [hps] at hw ih
              rcases List.mem_cons.1 hw with rfl | hw
              · rcases List.mem_cons.1 hc with rfl | hc
                · exact List.mem_cons_self ..
                · exact List.mem_cons_of_mem _ (ih v (List.mem_cons_self ..) hc)
              · exact List.mem_cons_of_mem _ (ih w (List.mem_cons_of_mem _ hw) hc)
  · rintro ⟨hmem, hsep⟩
    obtain ⟨a, b, rfl⟩ := List.append_of_mem hmem
    induction a with
    | nil =>
        rw [List.nil_append, pieces, hsep]
        cases pieces p b with
        | nil => exact ⟨[c], by simp [consHead], by simp⟩
        | cons v vs => exact ⟨c :: v, by simp [consHead], by simp⟩
    | cons d a ih =>
        obtain ⟨w, hw, hc⟩ := ih (by simp)
        rw [List.cons_append, pieces]
        split
        · exact ⟨w, List.mem_cons_of_mem _ hw, hc⟩
        · cases hps : pieces p (a ++ c :: b) with
          | nil => exact absurd hps (pieces_ne_nil p _)
          | cons v vs =>
              rw [hps] at hw
              rcases List.mem_cons.1 hw with rfl | hw
              · exact ⟨d :: w, List.mem_cons_self .., List.mem_cons_of_mem _ hc⟩
              · exact ⟨w, List.mem_cons_of_mem _ hw, hc⟩

theorem exists_mem_tokens_iff {c : Char} (s : String) :
    (∃ w ∈ tokens p s, c ∈ w.toList) ↔ c ∈ s.toList ∧ p c = false := by
  rw [← exists_mem_pieces_iff]
  constructor
  · rintro ⟨w, hw, hc⟩
    obtain ⟨cs, hcs, rfl⟩ := List.mem_map.1 hw
    exact ⟨cs, (List.mem_filter.1 hcs).1, by simpa using hc⟩
  · rintro ⟨cs, hcs, hc⟩
    have hne : cs.isEmpty = false := by
      cases cs with
      | nil => cases hc
      | cons d cs => rfl
    exact ⟨String.ofList cs, List.mem_map.2 ⟨cs, List.mem_filter.2 ⟨hcs, by simp [hne]⟩, rfl⟩, by simpa using hc⟩

theorem tokens_eq_nil_iff (s : String) : tokens p s = [] ↔ ∀ c ∈ s.toList, p c = true := by
  constructor
  · intro h c hc
    cases hsep : p c with
    | true => rfl
    | false =>
        obtain ⟨w, hw, -⟩ := (exists_mem_tokens_iff s).2 ⟨hc, hsep⟩
        rw [h] at hw
        cases hw
  · intro h
    refine List.eq_nil_iff_forall_not_mem.2 fun w hw => ?_
    obtain ⟨cs, hcs, rfl⟩ := List.mem_map.1 hw
    cases cs with
    | nil => simp at hcs
    | cons d cs =>
        obtain ⟨hmem, hsep⟩ := (exists_mem_tokens_iff (c := d) s).1 ⟨_, hw, by simp⟩
        rw [h d hmem] at hsep
        cases hsep

end Terminal.Text

namespace Terminal.Path

def IsName (part : String) : Prop := part ≠ "" ∧ ∀ c ∈ part.toList, isSlash c = false

theorem IsComponent.isName {part : String} (h : IsComponent part) : IsName part := ⟨h.1, h.2.2.2⟩

theorem isComponent_iff {part : String} :
    IsComponent part ↔ IsName part ∧ part ≠ "." ∧ part ≠ ".." := by
  constructor
  · intro h
    exact ⟨h.isName, h.2.1, h.2.2.1⟩
  · rintro ⟨⟨hne, hs⟩, hd, hdd⟩
    exact ⟨hne, hd, hdd, hs⟩

theorem isName_of_mem_split {path part : String} (h : part ∈ split path) : IsName part := by
  obtain ⟨w, hw, rfl⟩ := List.mem_map.1 h
  obtain ⟨hmem, hne⟩ := List.mem_filter.1 hw
  refine ⟨?_, ?_⟩
  · intro he
    have hnil : w = [] := by simpa using congrArg String.toList he
    simp [hnil] at hne
  · intro c hc
    rw [String.toList_ofList] at hc
    exact Text.not_sep_of_mem_pieces hmem hc

@[simp] theorem split_empty : split "" = [] := rfl

theorem split_name {part : String} (h : IsName part) : split part = [part] := by
  have hp : Text.pieces isSlash part.toList = [part.toList] := Text.pieces_eq_singleton h.2
  have hne : part.toList ≠ [] := fun he => h.1 (String.toList_inj.1 he)
  simp [split, Text.tokens, hp, hne]

theorem split_append_slash (a b : String) : split (a ++ "/" ++ b) = split a ++ split b := by
  have hs : (a ++ "/" ++ b).toList = a.toList ++ '/' :: b.toList := by simp
  have hp : isSlash '/' = true := rfl
  simp only [split, Text.tokens, hs, Text.pieces_append_sep _ _ hp, List.filter_append, List.map_append]

theorem split_slash_append (b : String) : split ("/" ++ b) = split b := by
  have h := split_append_slash "" b
  rw [String.empty_append, split_empty, List.nil_append] at h
  exact h

theorem split_intercalate {parts : List String} (h : ∀ part ∈ parts, IsName part) :
    split ("/".intercalate parts) = parts := by
  induction parts with
  | nil => rfl
  | cons part parts ih =>
      have hpart : split part = [part] := split_name (h part (List.mem_cons_self ..))
      have hparts := ih fun q hq => h q (List.mem_cons_of_mem _ hq)
      by_cases hne : parts = []
      · subst hne
        rw [String.intercalate_singleton, hpart]
      · rw [String.intercalate_cons_of_ne_nil hne, split_append_slash, hpart, hparts]
        rfl

theorem split_absolute {parts : List String} (h : ∀ part ∈ parts, IsName part) :
    split (absolute parts) = parts := by
  rw [absolute, split_slash_append, split_intercalate h]

theorem absolute_inj {a b : List String} (ha : ∀ part ∈ a, IsName part) (hb : ∀ part ∈ b, IsName part)
    (h : absolute a = absolute b) : a = b := by
  rw [← split_absolute ha, h, split_absolute hb]

theorem startsWith_absolute (parts : List String) : Text.startsWith (absolute parts) "/" = true := by
  simp [Text.startsWith, absolute]

theorem absolute_concat_of_ne_nil {parts : List String} (part : String) (h : parts ≠ []) :
    absolute (parts ++ [part]) = absolute parts ++ "/" ++ part := by
  rw [absolute, String.intercalate_append_of_ne_nil h (by simp), String.intercalate_singleton, absolute]
  simp only [String.append_assoc]

theorem length_absolute_lt {parts : List String} {part : String} (h : IsName part) :
    (absolute parts).length < (absolute (parts ++ [part])).length := by
  have hpart : part.length ≠ 0 := fun he => h.1 (String.length_eq_zero_iff.1 he)
  by_cases hne : parts = []
  · subst hne
    simp only [absolute, List.nil_append, String.intercalate_nil, String.intercalate_singleton,
      String.length_append, String.length_empty]
    omega
  · rw [absolute_concat_of_ne_nil part hne]
    simp only [String.length_append]
    omega

end Terminal.Path
