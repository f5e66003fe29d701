import Terminal.Proofs.Completion.Candidates
import Terminal.Proofs.Text.Fields

namespace Terminal

namespace Completion

open Terminal.Path
open Text (Unbroken)

section SharedStart

theorem prefix_commonStart_iff (p a b : List Char) : p <+: commonStart a b ↔ p <+: a ∧ p <+: b := by
  induction a generalizing p b with
  | nil =>
      rw [commonStart]
      · constructor
        · intro h
          rw [List.prefix_nil.1 h]
          exact ⟨List.nil_prefix, List.nil_prefix⟩
        · exact And.left
      · simp
  | cons c a ih =>
      cases b with
      | nil =>
          rw [commonStart]
          · constructor
            · intro h
              rw [List.prefix_nil.1 h]
              exact ⟨List.nil_prefix, List.nil_prefix⟩
            · exact And.right
          · simp
      | cons d b =>
          cases p with
          | nil => simp
          | cons e p =>
              rw [commonStart, List.cons_prefix_cons, List.cons_prefix_cons]
              split
              · rename_i hcd
                rw [List.cons_prefix_cons, ih, ← hcd]
                exact and_and_left
              · rename_i hcd
                constructor
                · intro h
                  cases List.prefix_nil.1 h
                · rintro ⟨⟨rfl, -⟩, rfl, -⟩
                  exact absurd rfl hcd

theorem prefix_foldl_commonStart_iff (p : List Char) (names : List String) (start : List Char) :
    p <+: names.foldl (fun start t => commonStart start t.toList) start ↔
      p <+: start ∧ ∀ name ∈ names, p <+: name.toList := by
  induction names generalizing start with
  | nil => simp
  | cons name names ih =>
      rw [List.foldl_cons, ih, prefix_commonStart_iff, List.forall_mem_cons, and_assoc]

variable {names : List String}

theorem prefix_sharedStart_iff (h : names ≠ []) (p : List Char) :
    p <+: (sharedStart names).toList ↔ ∀ name ∈ names, p <+: name.toList := by
  cases names with
  | nil => exact absurd rfl h
  | cons name names => rw [sharedStart, String.toList_ofList, prefix_foldl_commonStart_iff, List.forall_mem_cons]

theorem sharedStart_starts {name : String} (h : name ∈ names) : (sharedStart names).toList <+: name.toList :=
  (prefix_sharedStart_iff (List.ne_nil_of_mem h) _).1 (List.prefix_refl _) name h

theorem filter_sharedStart {all : List String} {typed : String}
    (hnames : names = all.filter fun name => Text.startsWith name typed) (hne : names ≠ []) :
    (all.filter fun name => Text.startsWith name (sharedStart names)) = names := by
  have htyped : typed.toList <+: (sharedStart names).toList := by
    refine (prefix_sharedStart_iff hne _).2 fun name hname => ?_
    rw [hnames] at hname
    exact List.isPrefixOf_iff_prefix.1 (List.mem_filter.1 hname).2
  conv_rhs => rw [hnames]
  refine List.filter_congr fun name hname => Bool.eq_iff_iff.2 ?_
  rw [Text.startsWith, Text.startsWith, List.isPrefixOf_iff_prefix, List.isPrefixOf_iff_prefix]
  constructor
  · exact htyped.trans
  · intro hstart
    have hmem : name ∈ names := by
      rw [hnames]
      exact List.mem_filter.2 ⟨hname, List.isPrefixOf_iff_prefix.2 hstart⟩
    exact sharedStart_starts hmem

end SharedStart

section Place

def byPlace {α : Type} (line : String) (first later : String → α) : α :=
  match Text.words line with
  | [word] => first word
  | words => later (words.getLastD "")

theorem byPlace_eq {α : Type} {line last : String} {earlier : List String} (first later : String → α)
    (h : Text.words line = earlier ++ [last]) :
    byPlace line first later = if earlier = [] then first last else later last := by
  have hlast : (earlier ++ [last]).getLastD "" = last := List.getLastD_concat
  rw [byPlace, h]
  cases earlier with
  | nil => rfl
  | cons word words =>
      rw [if_neg (List.cons_ne_nil word words)]
      cases words with
      | nil => rfl
      | cons next words => exact congrArg later hlast

def cut (line : String) : String × String := byPlace line (fun word => ("", word)) cutLast

def pool (src : Source) (line : String) : List String :=
  byPlace line (fun _ => src.commands) fun last => src.files.list (resolve src.cwd (lookupPath (cutLast last).1))

def choices (src : Source) (line : String) : List String :=
  (pool src line).filter fun name => Text.startsWith name (cut line).2

def ending (line last : String) : String :=
  byPlace line (fun _ => last) fun _ => withLast (Text.fields line) last

end Place

def attempt (line base : String) (names : List String) (only shared : String → String) : Completion :=
  match names with
  | [] => ⟨line, []⟩
  | [name] => ⟨only name, []⟩
  | _ =>
    if sharedStart names ≠ "" ∧ sharedStart names ≠ base then ⟨shared (sharedStart names), []⟩ else ⟨line, names⟩

section Attempt

variable (line base : String) (names : List String) (only shared : String → String)

theorem attempt_cases :
    attempt line base names only shared = ⟨line, names⟩ ∨
    (∃ name, names = [name] ∧ attempt line base names only shared = ⟨only name, []⟩) ∨
    2 ≤ names.length ∧ sharedStart names ≠ "" ∧
      attempt line base names only shared = ⟨shared (sharedStart names), []⟩ := by
  cases names with
  | nil => exact .inl rfl
  | cons name names =>
      cases names with
      | nil => exact .inr (.inl ⟨name, rfl, rfl⟩)
      | cons other names =>
          rw [attempt]
          · split
            · rename_i hstart
              exact .inr (.inr ⟨by simp, hstart.1, rfl⟩)
            · exact .inl rfl
          · simp
          · simp

theorem attempt_sharedStart (h : 2 ≤ names.length) :
    attempt line (sharedStart names) names only shared = ⟨line, names⟩ := by
  cases names with
  | nil => simp at h
  | cons name names =>
      cases names with
      | nil => simp at h
      | cons other names =>
          rw [attempt]
          · exact if_neg fun hstart => hstart.2 rfl
          · simp
          · simp

end Attempt

theorem firstWord_eq (src : Source) (line : String) {typed : String} (h : typed ≠ "") :
    firstWord src line typed = attempt line typed (commandCandidates src typed) (· ++ " ") id := by
  rw [firstWord, if_neg h]
  cases commandCandidates src typed with
  | nil => rfl
  | cons name names =>
      cases names with
      | nil => rfl
      | cons other names => rfl

theorem drop_head (head name : String) : String.ofList ((head ++ name).toList.drop head.length) = name := by
  rw [String.toList_append, ← String.length_toList, List.drop_left, String.ofList_toList]

theorem laterWord_eq (src : Source) (line : String) {last : String} (hlast : (Text.fields line).getLastD "" = last)
    (h : last ≠ "") : ∃ tail : String → String, (∀ name, tail name = " " ∨ tail name = "/") ∧
      laterWord src line = attempt line (cutLast last).2 (entryNames src last)
        (fun name => withLast (Text.fields line) ((cutLast last).1 ++ name ++ tail name))
        (fun start => withLast (Text.fields line) ((cutLast last).1 ++ start)) := by
  refine ⟨fun name => if src.files.isDir (resolve (resolve src.cwd (lookupPath (cutLast last).1)) name) then "/"
    else " ", ?_, ?_⟩
  · intro name
    dsimp only
    split
    · exact .inr rfl
    · exact .inl rfl
  · rw [laterWord]
    dsimp only
    rw [hlast, if_neg h, pathCandidates_eq]
    cases entryNames src last with
    | nil => rfl
    | cons name names =>
        cases names with
        | nil => rfl
        | cons other names =>
            simp only [attempt, List.map_cons, List.map_map, Function.comp_def, drop_head, List.map_id']

section Ending

variable {line last : String} {earlier : List String}

theorem withLast_append (fields : List String) (a b : String) : withLast fields (a ++ b) = withLast fields a ++ b := by
  rw [withLast, withLast]
  by_cases h : fields.dropLast = []
  · rw [h, List.nil_append, List.nil_append, String.intercalate_singleton, String.intercalate_singleton]
  · rw [String.intercalate_append_of_ne_nil h (by simp), String.intercalate_append_of_ne_nil h (by simp),
      String.intercalate_singleton, String.intercalate_singleton]
    simp only [String.append_assoc]

theorem ending_append (hwords : Text.words line = earlier ++ [last]) (a b : String) :
    ending line (a ++ b) = ending line a ++ b := by
  rw [ending, ending, byPlace_eq _ _ hwords, byPlace_eq _ _ hwords, withLast_append]
  split <;> rfl

theorem endsBlank_eq_false_iff (line : String) :
    endsBlank line = false ↔ ∀ c, line.toList.getLast? = some c → Text.isBlank c = false := by
  rw [endsBlank]
  cases line.toList.getLast? with
  | none => simp
  | some c => simp

theorem endsBlank_append (s : String) {word : String} (hne : word ≠ "") : endsBlank (s ++ word) = endsBlank word := by
  obtain ⟨cs, c, hword⟩ := List.eq_nil_or_concat word.toList |>.resolve_left fun h => hne (String.toList_inj.1 h)
  simp [endsBlank, hword]

theorem endsBlank_ending (hwords : Text.words line = earlier ++ [last]) {word : String} (h : Unbroken word)
    (hne : word ≠ "") : endsBlank (ending line word) = false := by
  have hsplit := ending_append hwords "" word
  rw [String.empty_append] at hsplit
  rw [hsplit, endsBlank_append _ hne, endsBlank_eq_false_iff]
  intro c hc
  exact h c (List.mem_of_getLast? hc)

theorem words_ending (hend : endsBlank line = false) (hwords : Text.words line = earlier ++ [last]) {word : String}
    (h : Unbroken word) (hne : word ≠ "") : Text.words (ending line word) = earlier ++ [word] := by
  rw [ending, byPlace_eq _ _ hwords]
  split
  · rename_i hnil
    rw [h.words_eq hne, hnil]
    rfl
  · obtain ⟨front, hfields, hfront⟩ := Text.exists_fields_eq hwords ((endsBlank_eq_false_iff line).1 hend)
    have hunbroken : ∀ f ∈ front ++ [word], Unbroken f := by
      intro f hf
      rcases List.mem_append.1 hf with hf | hf
      · exact Text.unbroken_of_mem_fields (hfields ▸ List.mem_append_left _ hf)
      · exact List.mem_singleton.1 hf ▸ h
    rw [withLast, hfields, List.dropLast_concat, Text.words_intercalate hunbroken, List.filter_append, hfront,
      List.filter_singleton, decide_eq_true hne, cond_true]

end Ending

section Cut

def Cut (earlier : List String) (head base : String) : Prop :=
  earlier = [] ∧ head = "" ∨ earlier ≠ [] ∧ IsHead head ∧ '/' ∉ base.toList

theorem exists_cut (earlier : List String) (last : String) :
    ∃ head base, last = head ++ base ∧ Cut earlier head base := by
  by_cases h : earlier = []
  · exact ⟨"", last, String.empty_append.symm, .inl ⟨h, rfl⟩⟩
  · obtain ⟨head, base, hlast, hhead, hbase⟩ := exists_head last
    exact ⟨head, base, hlast, .inr ⟨h, hhead, hbase⟩⟩

variable {line head base : String} {earlier : List String}

theorem cut_eq (hwords : Text.words line = earlier ++ [head ++ base]) (h : Cut earlier head base) :
    cut line = (head, base) := by
  rw [cut, byPlace_eq _ _ hwords]
  rcases h with ⟨hnil, rfl⟩ | ⟨hne, hhead, hbase⟩
  · rw [if_pos hnil, String.empty_append]
  · rw [if_neg hne, cutLast_append hhead hbase]

theorem pool_eq (src : Source) (hwords : Text.words line = earlier ++ [head ++ base]) (h : Cut earlier head base) :
    pool src line = if earlier = [] then src.commands else src.files.list (resolve src.cwd (lookupPath head)) := by
  rw [pool, byPlace_eq _ _ hwords]
  rcases h with ⟨hnil, -⟩ | ⟨hne, hhead, hbase⟩
  · rw [if_pos hnil, if_pos hnil]
  · rw [if_neg hne, if_neg hne, cutLast_append hhead hbase]

theorem choices_eq (src : Source) (hwords : Text.words line = earlier ++ [head ++ base]) (h : Cut earlier head base) :
    choices src line = (pool src line).filter fun name => Text.startsWith name base := by
  rw [choices, cut_eq hwords h]

theorem ofLine_of_endsBlank (src : Source) (h : endsBlank line = true) : ofLine src line = ⟨line, []⟩ := by
  have hlast : (Text.fields line).getLast? = some "" := by
    refine (Text.getLast?_fields_eq_empty_iff line).2 fun c hc => ?_
    simpa [endsBlank, hc] using h
  have hlater : laterWord src line = ⟨line, []⟩ := by
    rw [laterWord, List.getLastD_eq_getLast?, hlast]
    rfl
  rw [ofLine]
  split
  · rw [if_pos h, hlater]
  · rw [if_pos h, hlater]
  · exact hlater

theorem ofLine_of_no_words (src : Source) (h : Text.words line = []) : ofLine src line = ⟨line, []⟩ := by
  cases hend : endsBlank line with
  | true => exact ofLine_of_endsBlank src hend
  | false =>
      rw [ofLine, h]
      dsimp only
      rw [if_neg (by simp [hend]), firstWord, if_pos rfl]

theorem ofLine_first (src : Source) {word : String} (hend : endsBlank line = false)
    (hwords : Text.words line = [word]) : ofLine src line = firstWord src line word := by
  rw [ofLine, hwords]
  dsimp only
  rw [if_neg (by simp [hend])]

theorem ofLine_eq_attempt (src : Source) (hend : endsBlank line = false)
    (hwords : Text.words line = earlier ++ [head ++ base]) (h : Cut earlier head base) :
    ∃ tail : String → String, (∀ name, tail name = " " ∨ tail name = "/") ∧
      ofLine src line = attempt line base (choices src line) (fun name => ending line (head ++ name ++ tail name))
        fun start => ending line (head ++ start) := by
  have hne : head ++ base ≠ "" := Text.ne_empty_of_mem_words (s := line) (by simp [hwords])
  have hending (word : String) :
      ending line word = if earlier = [] then word else withLast (Text.fields line) word := by
    rw [ending, byPlace_eq _ _ hwords]
  simp only [hending, choices_eq src hwords h, pool_eq src hwords h]
  rcases h with ⟨rfl, rfl⟩ | ⟨hearlier, hhead, hbase⟩
  · rw [String.empty_append] at hwords hne
    refine ⟨fun _ => " ", fun _ => .inl rfl, ?_⟩
    rw [ofLine_first src hend hwords, firstWord_eq src line hne]
    simp only [if_pos, String.empty_append]
    rfl
  · have hlater : ofLine src line = laterWord src line := by
      rw [ofLine, hwords]
      obtain ⟨word, words, rfl⟩ := List.exists_cons_of_ne_nil hearlier
      cases words with
      | nil => rfl
      | cons next words => rfl
    have hlast : (Text.fields line).getLastD "" = head ++ base := by
      obtain ⟨front, hfields, -⟩ := Text.exists_fields_eq hwords ((endsBlank_eq_false_iff line).1 hend)
      rw [hfields, List.getLastD_concat]
    obtain ⟨tail, htail, heq⟩ := laterWord_eq src line hlast hne
    refine ⟨tail, htail, ?_⟩
    rw [hlater, heq, entryNames, cutLast_append hhead hbase]
    simp only [if_neg hearlier]

end Cut

/-- The last word is longer, or the same, and the other words stay. -/
def Extends (line longer : String) : Prop :=
  endsBlank line = false ∧ ∃ earlier last last', Text.words line = earlier ++ [last] ∧
    Text.words longer = earlier ++ [last'] ∧ last.toList <+: last'.toList

theorem Extends.concat_space {line longer : String} (h : Extends line longer) : Extends line (longer ++ " ") := by
  obtain ⟨hend, earlier, last, last', hwords, hlonger, hstarts⟩ := h
  exact ⟨hend, earlier, last, last', hwords, (Text.words_concat_space longer).trans hlonger, hstarts⟩

theorem extends_ending {line last word : String} {earlier : List String} (hend : endsBlank line = false)
    (hwords : Text.words line = earlier ++ [last]) (hword : Unbroken word) (hstarts : last.toList <+: word.toList) :
    Extends line (ending line word) := by
  have hlast : last ≠ "" := Text.ne_empty_of_mem_words (s := line) (by simp [hwords])
  have hne : word ≠ "" := by
    rintro rfl
    exact hlast (String.toList_inj.1 (List.prefix_nil.1 hstarts))
  exact ⟨hend, earlier, last, word, hwords, words_ending hend hwords hword hne, hstarts⟩

section Extension

variable {src : Source} (hfiles : src.files.Grown)
  (hentries : ∀ q, (src.files.item? q).isSome → ∀ name ∈ q, Unbroken name)
  (hcommands : ∀ name ∈ src.commands, Unbroken name)
  {line head base : String} {earlier : List String}
  (hend : endsBlank line = false) (hwords : Text.words line = earlier ++ [head ++ base]) (hcut : Cut earlier head base)

include hwords

theorem unbroken_head : Unbroken head := by
  have hlast : Unbroken (head ++ base) := Text.unbroken_of_mem_words (s := line) (by simp [hwords])
  exact hlast.of_start (by simp)

include hcut

theorem prefix_of_mem_choices {name : String} (h : name ∈ choices src line) :
    name ∈ pool src line ∧ base.toList <+: name.toList := by
  rw [choices_eq src hwords hcut] at h
  obtain ⟨hpool, hstart⟩ := List.mem_filter.1 h
  exact ⟨hpool, List.isPrefixOf_iff_prefix.1 hstart⟩

include hcommands hentries

theorem unbroken_of_mem_pool {name : String} (h : name ∈ pool src line) : Unbroken name := by
  rw [pool_eq src hwords hcut] at h
  split at h
  · exact hcommands name h
  · exact hentries _ ((Tree.mem_list src.files _ name).1 h) name (by simp)

omit hcommands hentries
include hfiles

theorem cut_of_mem_pool {name start : String} (h : name ∈ pool src line) (hstart : start.toList <+: name.toList) :
    Cut earlier head start := by
  rw [pool_eq src hwords hcut] at h
  rcases hcut with ⟨hnil, hhead⟩ | ⟨hne, hhead, -⟩
  · exact .inl ⟨hnil, hhead⟩
  · rw [if_neg hne] at h
    have hname : IsName name := hfiles.named _ ((Tree.mem_list src.files _ name).1 h) name (by simp)
    refine .inr ⟨hne, hhead, fun hslash => ?_⟩
    exact absurd (hname.2 '/' (hstart.subset hslash)) (by decide)

omit hfiles hcut
include hend

theorem extends_head_append {word : String} (hstarts : base.toList <+: word.toList) (hword : Unbroken word) :
    Extends line (ending line (head ++ word)) := by
  refine extends_ending hend hwords ((unbroken_head hwords).append hword) ?_
  rw [String.toList_append, String.toList_append, List.prefix_append_right_inj]
  exact hstarts

include hcut hentries hcommands

theorem extends_only {name tail : String} (hname : name ∈ choices src line) (htail : tail = " " ∨ tail = "/") :
    Extends line (ending line (head ++ name ++ tail)) := by
  obtain ⟨hpool, hstarts⟩ := prefix_of_mem_choices hwords hcut hname
  have hunbroken := unbroken_of_mem_pool hentries hcommands hwords hcut hpool
  rcases htail with rfl | rfl
  · rw [ending_append hwords]
    exact (extends_head_append hend hwords hstarts hunbroken).concat_space
  · have hslash : Unbroken "/" := by decide
    rw [String.append_assoc]
    refine extends_head_append hend hwords ?_ (hunbroken.append hslash)
    rw [String.toList_append]
    exact hstarts.trans (List.prefix_append _ _)

include hfiles

theorem ofLine_sharedStart (hmany : 2 ≤ (choices src line).length) (hstart : sharedStart (choices src line) ≠ "") :
    Extends line (ending line (head ++ sharedStart (choices src line))) ∧
      ofLine src (ending line (head ++ sharedStart (choices src line))) =
        ⟨ending line (head ++ sharedStart (choices src line)), choices src line⟩ := by
  generalize hnames : choices src line = names at *
  have hne : names ≠ [] := by
    rintro rfl
    simp at hmany
  obtain ⟨name, hname⟩ := List.exists_mem_of_ne_nil names hne
  have hstarts : base.toList <+: (sharedStart names).toList := by
    refine (prefix_sharedStart_iff hne _).2 fun other hother => ?_
    exact (prefix_of_mem_choices hwords hcut (hnames ▸ hother)).2
  obtain ⟨hpool, -⟩ := prefix_of_mem_choices hwords hcut (hnames ▸ hname)
  have hunbroken : Unbroken (sharedStart names) :=
    (unbroken_of_mem_pool hentries hcommands hwords hcut hpool).of_start (sharedStart_starts hname)
  have hlonger : head ++ sharedStart names ≠ "" := by
    intro he
    exact hstart (String.append_eq_empty_iff.1 he).2
  have hlast : Unbroken (head ++ sharedStart names) := (unbroken_head hwords).append hunbroken
  have hwords' := words_ending hend hwords hlast hlonger
  have hend' := endsBlank_ending hwords hlast hlonger
  have hcut' := cut_of_mem_pool hfiles hwords hcut hpool (sharedStart_starts hname)
  have hsame : choices src (ending line (head ++ sharedStart names)) = names := by
    rw [choices_eq src hwords' hcut', pool_eq src hwords' hcut', ← pool_eq src hwords hcut]
    exact filter_sharedStart (hnames.symm.trans (choices_eq src hwords hcut)) hne
  obtain ⟨tail, -, heq⟩ := ofLine_eq_attempt src hend' hwords' hcut'
  refine ⟨extends_head_append hend hwords hstarts hunbroken, ?_⟩
  rw [heq, hsame, attempt_sharedStart _ _ _ _ hmany]

end Extension

/-- Completing a line makes its last word longer or leaves the line as it is. A line that ends in the shared start of
several names has the same names to choose from, and these are shown. Names are shown only where the line stays. -/
theorem ofLine_extends {src : Source} (hfiles : src.files.Grown)
    (hentries : ∀ q, (src.files.item? q).isSome → ∀ name ∈ q, Unbroken name)
    (hcommands : ∀ name ∈ src.commands, Unbroken name) (line : String) :
    ((ofLine src line).line ≠ line → Extends line (ofLine src line).line ∧
      (2 ≤ (choices src line).length ∨
          endsBlank (ofLine src line).line = false ∧ (ofLine src line).line.toList.getLast? ≠ some '/' →
        2 ≤ (choices src line).length ∧
          ofLine src (ofLine src line).line = ⟨(ofLine src line).line, choices src line⟩)) ∧
    ((ofLine src line).shown ≠ [] → ofLine src line = ⟨line, choices src line⟩) := by
  cases hend : endsBlank line with
  | true => simp [ofLine_of_endsBlank src hend]
  | false =>
    rcases List.eq_nil_or_concat (Text.words line) with hnil | ⟨earlier, last, hwords⟩
    · simp [ofLine_of_no_words src hnil]
    · rw [List.concat_eq_append] at hwords
      obtain ⟨head, base, rfl, hcut⟩ := exists_cut earlier last
      obtain ⟨tail, htail, heq⟩ := ofLine_eq_attempt src hend hwords hcut
      rcases attempt_cases line base (choices src line) (fun name => ending line (head ++ name ++ tail name))
        (fun start => ending line (head ++ start)) with hsame | ⟨name, hone, honly⟩ | ⟨hmany, hstart, hshared⟩
      · rw [heq, hsame]
        exact ⟨fun h => absurd rfl h, fun _ => rfl⟩
      · have hr : ofLine src line = ⟨ending line (head ++ name ++ tail name), []⟩ := heq.trans honly
        have hname : name ∈ choices src line := by simp [hone]
        rw [hr]
        refine ⟨fun _ => ⟨extends_only hentries hcommands hend hwords hcut hname (htail name), ?_⟩, by simp⟩
        rintro (htwo | ⟨hblank, hslash⟩)
        · simp [hone] at htwo
        · -- a single name is followed by a space or a slash
          rw [ending_append hwords] at hblank hslash
          rcases htail name with ht | ht
          · rw [ht, endsBlank_append _ (by decide)] at hblank
            exact absurd hblank (by decide)
          · simp [ht] at hslash
      · have hr := heq.trans hshared
        obtain ⟨hextends, hagain⟩ := ofLine_sharedStart hfiles hentries hcommands hend hwords hcut hmany hstart
        rw [hr]
        exact ⟨fun _ => ⟨hextends, fun _ => ⟨hmany, hagain⟩⟩, by simp⟩

def twoNotes : Tree :=
  ((FileOp.write "/notes2" "").perform 0 ((FileOp.write "/notes1" "").perform 0 (Tree.empty 0)).1).1

theorem notes_extended : Extends " cat\t./no" " cat ./notes" ∧
    ofLine ⟨["cat"], twoNotes, "/"⟩ " cat\t./no" = ⟨" cat ./notes", []⟩ ∧
    ofLine ⟨["cat"], twoNotes, "/"⟩ " cat ./notes" = ⟨" cat ./notes", ["notes1", "notes2"]⟩ := by
  have hfiles : twoNotes.Grown := (((Tree.Reachable.empty 0).step 0 _).step 0 _).grown
  have hpaths : ∀ q ∈ [] :: twoNotes.entries.paths [], ∀ name ∈ q, Unbroken name := by decide +kernel
  have hentries (q : List String) (hq : (twoNotes.item? q).isSome) : ∀ name ∈ q, Unbroken name :=
    hpaths q (Tree.mem_paths hq)
  have hcommands : ∀ name ∈ ["cat"], Unbroken name := by decide +kernel
  have hfirst : ofLine ⟨["cat"], twoNotes, "/"⟩ " cat\t./no" = ⟨" cat ./notes", []⟩ := by decide +kernel
  have hchoices : choices ⟨["cat"], twoNotes, "/"⟩ " cat\t./no" = ["notes1", "notes2"] := by decide +kernel
  have h := (@ofLine_extends ⟨["cat"], twoNotes, "/"⟩ hfiles hentries hcommands " cat\t./no").1
  rw [hfirst, hchoices] at h
  obtain ⟨hextends, hagain⟩ := h (by decide)
  exact ⟨hextends, hfirst, (hagain (.inl (by decide))).2⟩

end Completion

end Terminal
