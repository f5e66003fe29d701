import Terminal.Proofs.Completion.Extension

namespace Terminal

theorem Tree.list_empty (now : Int) (path : String) : (Tree.empty now).list path = [] := by
  refine List.eq_nil_iff_forall_not_mem.2 fun name hname => ?_
  have hitem := ((Tree.empty now).mem_list path name).1 hname
  rw [Tree.item?, Tree.root, Tree.empty, Node.item?_empty, if_neg (by simp)] at hitem
  cases hitem

namespace Completion

def wordAt (line : String) : String :=
  .ofList (line.toList.reverse.takeWhile fun c => c != ' ' && c != '\t').reverse

def DrawsCommands (text line : String) : Prop := ∀ src, candidates src text line = commandCandidates src text

def DrawsPaths (text line : String) : Prop :=
  ∀ src, candidates src text line = (pathCandidates src text).map PathCandidate.text

def InFirstWord (line : String) : Prop :=
  ∃ word, Text.words line = [word] ∧ ∀ src, ofLine src line = firstWord src line word

/-- A single word before white space that is not a space. -/
def Astray (line : String) : Prop :=
  ∃ word c, Text.words line = [word] ∧ line.toList.getLast? = some c ∧ Text.isBlank c = true ∧ c ≠ ' '

variable {line word : String}

theorem DrawsPaths.not_drawsCommands {text : String} (h : DrawsPaths text line) : ¬ DrawsCommands text line := by
  intro hcommands
  have hpaths : pathCandidates ⟨[text], .empty 0, "/"⟩ text = [] := by
    rw [pathCandidates_eq, entryNames, Tree.list_empty]
    rfl
  have hboth := (hcommands ⟨[text], .empty 0, "/"⟩).symm.trans (h _)
  rw [hpaths, commandCandidates] at hboth
  simp [Text.startsWith] at hboth

theorem drawsCommands_of_one_word (text : String) (hwords : Text.words line = [word])
    (hlast : line.toList.getLast? ≠ some ' ') : DrawsCommands text line := by
  intro src
  simp [candidates, hwords, hlast]

theorem drawsPaths_of_space (text : String) (hwords : Text.words line = [word])
    (hlast : line.toList.getLast? = some ' ') : DrawsPaths text line := by
  intro src
  simp [candidates, hwords, hlast]

theorem drawsPaths_of_words (text : String) (h : 2 ≤ (Text.words line).length) : DrawsPaths text line := by
  intro src
  have hone : (Text.words line).isEmpty = false ∧ (Text.words line).length ≠ 1 := by
    obtain ⟨first, rest, hwords⟩ := List.exists_cons_of_length_pos (Nat.lt_of_lt_of_le Nat.zero_lt_two h)
    refine ⟨by simp [hwords], by omega⟩
  simp [candidates, hone]

theorem not_inFirstWord_of_endsBlank (h : endsBlank line = true) : ¬ InFirstWord line := by
  rintro ⟨word, hwords, hfirst⟩
  have hmem : word ∈ Text.words line := by simp [hwords]
  have hx : Text.Unbroken "x" := by decide
  have hlonger : Text.words (word ++ "x" ++ " ") = [word ++ "x"] := by
    rw [Text.words_concat_space]
    exact ((Text.unbroken_of_mem_words hmem).append hx).words_eq (by simp)
  -- a command that goes on where the word ends would complete the first word
  have hnames : commandCandidates ⟨[word ++ "x"], .empty 0, "/"⟩ word = [word ++ "x"] := by
    simp [commandCandidates, Text.startsWith]
  have hcompleted : firstWord ⟨[word ++ "x"], .empty 0, "/"⟩ line word = ⟨word ++ "x" ++ " ", []⟩ := by
    rw [firstWord_eq _ _ (Text.ne_empty_of_mem_words hmem), hnames]
    rfl
  have hline : line = word ++ "x" ++ " " := by
    have heq := (ofLine_of_endsBlank ⟨[word ++ "x"], .empty 0, "/"⟩ h).symm.trans ((hfirst _).trans hcompleted)
    exact congrArg Completion.line heq
  rw [hline, hlonger] at hwords
  simp at hwords

theorem inFirstWord_of_one_word (hwords : Text.words line = [word]) (h : endsBlank line = false) : InFirstWord line :=
  ⟨word, hwords, fun src => ofLine_first src h hwords⟩

theorem getLast?_of_not_astray (hwords : Text.words line = [word]) (h : ¬ Astray line) (hend : endsBlank line = true) :
    line.toList.getLast? = some ' ' := by
  rw [endsBlank, Option.any_eq_true] at hend
  obtain ⟨c, hlast, hblank⟩ := hend
  by_cases hc : c = ' '
  · rw [hlast, hc]
  · exact absurd ⟨word, c, hwords, hlast, hblank, hc⟩ h

/-- A word is completed with commands where the whole line is in its first word and with paths elsewhere, but for a line
of one word that ends in white space other than a space. There a word is completed with commands although the line is
past its first word. -/
theorem modes_agree (h : Text.words line ≠ []) :
    (¬ Astray line → (DrawsCommands (wordAt line) line ↔ InFirstWord line) ∧
      (¬ InFirstWord line → DrawsPaths (wordAt line) line)) ∧
    (Astray line → DrawsCommands (wordAt line) line ∧ ¬ InFirstWord line) := by
  have hlater (hpaths : DrawsPaths (wordAt line) line) (hnot : ¬ InFirstWord line) :
      (DrawsCommands (wordAt line) line ↔ InFirstWord line) ∧
        (¬ InFirstWord line → DrawsPaths (wordAt line) line) :=
    ⟨iff_of_false hpaths.not_drawsCommands hnot, fun _ => hpaths⟩
  constructor
  · intro hastray
    obtain ⟨word, words, hwords⟩ := List.exists_cons_of_ne_nil h
    cases words with
    | nil =>
        cases hend : endsBlank line with
        | false =>
            have hfirst : InFirstWord line := inFirstWord_of_one_word hwords hend
            have hlast : line.toList.getLast? ≠ some ' ' := by
              intro hspace
              exact absurd ((endsBlank_eq_false_iff line).1 hend ' ' hspace) (by decide)
            exact ⟨iff_of_true (drawsCommands_of_one_word _ hwords hlast) hfirst, fun hnot => absurd hfirst hnot⟩
        | true =>
            have hlast := getLast?_of_not_astray hwords hastray hend
            exact hlater (drawsPaths_of_space _ hwords hlast) (not_inFirstWord_of_endsBlank hend)
    | cons next words =>
        refine hlater (drawsPaths_of_words _ (by simp [hwords])) ?_
        rintro ⟨other, hone, -⟩
        simp [hwords] at hone
  · rintro ⟨word, c, hwords, hlast, hblank, hc⟩
    refine ⟨drawsCommands_of_one_word _ hwords ?_, not_inFirstWord_of_endsBlank ?_⟩
    · simpa [hlast] using hc
    · simpa [endsBlank, hlast] using hblank

theorem modes_agree_after_space : DrawsPaths (wordAt "\tls ") "\tls " ∧ ¬ DrawsCommands (wordAt "\tls ") "\tls " ∧
    ¬ InFirstWord "\tls " := by
  have hlast : "\tls ".toList.getLast? = some ' ' := by decide
  have hastray : ¬ Astray "\tls " := by
    rintro ⟨word, c, -, hc, -, hne⟩
    exact hne (Option.some.inj (hc.symm.trans hlast))
  have h := (@modes_agree "\tls " (by decide)).1 hastray
  have hfirst : ¬ InFirstWord "\tls " := not_inFirstWord_of_endsBlank (by decide)
  exact ⟨h.2 hfirst, fun hcommands => hfirst (h.1.1 hcommands), hfirst⟩

/-- After a tab the commands are offered, and the line as a whole is past its first word. -/
theorem modes_differ_after_tab : Text.words "ls\t" ≠ [] ∧
    ¬ ((DrawsCommands (wordAt "ls\t") "ls\t" ↔ InFirstWord "ls\t") ∧
      (¬ InFirstWord "ls\t" → DrawsPaths (wordAt "ls\t") "ls\t")) := by
  have hwords : Text.words "ls\t" = ["ls"] := by decide
  have hcommands : DrawsCommands (wordAt "ls\t") "ls\t" := drawsCommands_of_one_word _ hwords (by decide)
  have hfirst : ¬ InFirstWord "ls\t" := not_inFirstWord_of_endsBlank (by decide)
  exact ⟨by simp [hwords], fun h => hfirst (h.1.1 hcommands)⟩

end Completion

end Terminal
