import Terminal.Proofs.Console.Transcript

namespace Terminal.Console

open Session (hushed)

/-- The screen shows these marks below the title, and its session is up to date. -/
structure Screen.Follows (c : Screen) (s : Session) (marks : List Mark) : Prop where
  session : c.session = s.hushed
  written : String.join c.written = title ++ "\n" ++ String.join (marks.map Mark.text)

def goodbye (s : Session) (keys : List Key) : String :=
  if hung s (heard s keys) then "" else if keys.any Key.leaves then "logout\n" else "\nlogout\n"

section

variable {c : Screen} {s : Session} {marks : List Mark} {k : Key}

theorem join_write (text : String) (c : Screen) : String.join (c.write text).written = String.join c.written ++ text := by
  rw [Screen.write, String.join_append, String.join_cons, String.join_nil, String.append_empty]

namespace Screen.Follows

theorem write (h : c.Follows s marks) (mark : Mark) : (c.write mark.text).Follows s (marks ++ [mark]) := by
  refine ⟨h.session, ?_⟩
  have hmark : String.join ([mark].map Mark.text) = mark.text := by simp
  rw [join_write, h.written, List.map_append, String.join_append, hmark, String.append_assoc]

theorem showPrompt (h : c.Follows s marks) : c.showPrompt.Follows s (marks ++ [.prompt s.prompt]) := by
  have hprompt : promptText c.session = (Mark.prompt s.prompt).text := by
    rw [h.session]
    rfl
  rw [Screen.showPrompt, hprompt]
  exact h.write (.prompt s.prompt)

theorem refresh (h : c.Follows s marks) {t s' : Session} (ht : t.precede s.notices = s') :
    ({ c with session := t }.refresh).Follows s' (marks ++ news s s') := by
  have hnews : (news s s').map Mark.text = t.notices.map noticeText := by
    have hnotices : s'.notices = s.notices ++ t.notices := by rw [← ht, Session.precede]
    rw [notices_news hnotices, List.map_map]
    exact List.map_congr_left fun n _ => Mark.text_notice n
  have hwritten : String.join ({ c with session := t }.refresh).written =
      String.join c.written ++ String.join (t.notices.map noticeText) := join_write _ { c with session := t }
  refine ⟨?_, ?_⟩
  · rw [← ht]
    rfl
  · rw [hwritten, h.written, List.map_append, hnews, String.join_append, String.append_assoc]

theorem enter {text : String} (h : c.Follows s marks) (hopen : c.closed = false) (hexit : isExit text = false) :
    (c.enter text).Follows (Key.feed s (.line text)) (marks ++ Key.entry s (.line text)) ∧
      (c.enter text).closed = Key.hangs s (.line text) := by
  have hsubmit : c.session.submit text = ((s.submit text).1, Key.feed s.hushed (.line text)) := by
    rw [h.session]
    exact Session.submit_hushed text s
  have hrefresh := h.refresh (Key.feed_hushed s (.line text))
  by_cases ho : (s.submit text).1 = .endless
  · have henter : c.enter text = { c with session := Key.feed s.hushed (.line text) }.refresh.close := by
      simp [Screen.enter, hexit, hsubmit, ho]
    have hentry : Key.entry s (.line text) = news s (Key.feed s (.line text)) := by simp [Key.entry, Key.hangs, ho]
    rw [henter, hentry]
    exact ⟨⟨hrefresh.session, hrefresh.written⟩, by simp [Screen.close, Key.hangs, ho]⟩
  · have henter : c.enter text = { c with session := Key.feed s.hushed (.line text) }.refresh.showPrompt := by
      simp [Screen.enter, hexit, hsubmit]
    have hentry : Key.entry s (.line text) =
        news s (Key.feed s (.line text)) ++ [.prompt (Key.feed s (.line text)).prompt] := by
      simp [Key.entry, Key.hangs, ho]
    rw [henter, hentry, ← List.append_assoc]
    have hhangs : Key.hangs s (.line text) = false := by simp [Key.hangs, ho]
    exact ⟨hrefresh.showPrompt, hopen.trans hhangs.symm⟩

theorem press (h : c.Follows s marks) (hopen : c.closed = false) (hk : k.leaves = false) :
    (c.press k).Follows (k.feed s) (marks ++ k.entry s) ∧ (c.press k).closed = k.hangs s := by
  rw [Screen.press.eq_def, if_neg (by simp [hopen])]
  cases k with
  | line text => exact h.enter hopen hk
  | interrupt typed =>
      have hcaught := h.write .caught
      have hshown := (hcaught.refresh (Key.feed_hushed s (.interrupt typed))).showPrompt
      rw [List.append_assoc, List.append_assoc] at hshown
      have hsession : (c.write "^C\n").session = s.hushed := h.session
      have hchange : (c.write "^C\n").change (·.interrupt Session.emit typed) =
          { c.write "^C\n" with session := Key.feed s.hushed (.interrupt typed) } := by
        rw [Screen.change, hsession]
        rfl
      refine ⟨?_, hopen⟩
      dsimp only
      rw [hchange]
      exact hshown
  | tab text line =>
      refine ⟨⟨h.session, ?_⟩, hopen⟩
      rw [Key.entry, List.append_nil]
      exact h.written
  | wait ms =>
      refine ⟨⟨congrArg (Session.advance ms) h.session, ?_⟩, hopen⟩
      rw [Key.entry, List.append_nil]
      exact h.written

end Screen.Follows

theorem foldl_press_of_closed (h : c.closed = true) (keys : List Key) : keys.foldl Screen.press c = c := by
  have hpress (k : Key) : c.press k = c := by rw [Screen.press.eq_def, if_pos h]
  induction keys with
  | nil => rfl
  | cons k keys ih => rw [List.foldl_cons, hpress, ih]

theorem written_logOut (c : Screen) : String.join c.logOut.written = String.join c.written ++ "logout\n" :=
  join_write "logout\n" c

theorem Screen.Follows.sit (h : c.Follows s marks) (hopen : c.closed = false) (keys : List Key) :
    (keys.foldl Screen.press c).endInput.session = ((heard s keys).foldl Key.feed s).hushed ∧
      String.join (keys.foldl Screen.press c).endInput.written =
        title ++ "\n" ++ String.join ((marks ++ transcript s (heard s keys)).map Mark.text) ++ goodbye s keys := by
  induction keys generalizing c s marks with
  | nil =>
      have hend : c.endInput = (c.write "\n").logOut := by rw [Screen.endInput, if_neg (by simp [hopen])]
      have hgoodbye : goodbye s [] = "\n" ++ "logout\n" := rfl
      refine ⟨?_, ?_⟩
      · rw [List.foldl_nil, hend]
        exact h.session
      · rw [List.foldl_nil, hend, written_logOut, join_write, h.written, heard, transcript, List.append_nil, hgoodbye,
          String.append_assoc]
  | cons k keys ih =>
      rw [List.foldl_cons]
      cases hleaves : k.leaves with
      | true =>
          have hpress : c.press k = c.logOut := by
            cases k with
            | line text =>
                have hexit : isExit text = true := hleaves
                simp [Screen.press, hopen, Screen.enter, hexit]
            | _ => cases hleaves
          have hheard : heard s (k :: keys) = [] := by simp [heard, hleaves]
          have hgoodbye : goodbye s (k :: keys) = "logout\n" := by simp [goodbye, hheard, hung, hleaves]
          have hend : c.logOut.endInput = c.logOut := rfl
          rw [hpress, foldl_press_of_closed rfl, hend, hheard, hgoodbye, written_logOut, h.written, transcript,
            List.append_nil]
          exact ⟨h.session, rfl⟩
      | false =>
          obtain ⟨hpress, hclosed⟩ := h.press hopen hleaves
          cases hhangs : k.hangs s with
          | true =>
              have hheard : heard s (k :: keys) = [k] := by simp [heard, hleaves, hhangs]
              have hgoodbye : goodbye s (k :: keys) = "" := by simp [goodbye, hheard, hung, hhangs]
              have hend : (c.press k).endInput = c.press k := by rw [Screen.endInput, if_pos (hclosed.trans hhangs)]
              rw [foldl_press_of_closed (hclosed.trans hhangs), hend, hheard, hgoodbye, transcript, transcript,
                List.append_nil, String.append_empty]
              exact ⟨hpress.session, hpress.written⟩
          | false =>
              have hheard : heard s (k :: keys) = k :: heard (k.feed s) keys := by simp [heard, hleaves, hhangs]
              have hgoodbye : goodbye s (k :: keys) = goodbye (k.feed s) keys := by
                simp [goodbye, hheard, hung, hhangs, hleaves]
              have hrest := ih hpress (hclosed.trans hhangs)
              rw [hheard, hgoodbye, transcript, ← List.append_assoc]
              exact hrest

theorem follows_start (h : s.notices = []) : (Screen.start s).Follows (s.welcome Session.emit) (played s []) := by
  have htitle : ({ session := s : Screen }.write (title ++ "\n")).Follows s [] := by
    refine ⟨?_, ?_⟩
    · rw [Screen.write, hushed, ← h]
    · rw [join_write]
      simp
  have hwelcome : (s.welcome Session.emit).precede s.notices = s.welcome Session.emit := by rw [h, Session.precede]; rfl
  have hshown := (htitle.refresh hwelcome).showPrompt
  rw [List.nil_append] at hshown
  exact hshown

theorem exists_last_clear (marks : List Mark) :
    ∃ before after, marks = before ++ after ∧ (before = [] ∨ before.getLast? = some (.notice .clear)) ∧
      .notice .clear ∉ after := by
  induction marks using List.reverseRecOn with
  | nil => exact ⟨[], [], rfl, .inl rfl, by simp⟩
  | append_singleton marks x ih =>
      by_cases hx : x = .notice .clear
      · exact ⟨marks ++ [x], [], by simp, .inr (by simp [hx]), by simp⟩
      · obtain ⟨before, after, rfl, hbefore, hafter⟩ := ih
        exact ⟨before, after ++ [x], by simp, hbefore, by simp [hafter, Ne.symm hx]⟩

theorem record_replay {ns : List Notice} (h : .clear ∉ ns) : (Notice.replay [] ns).map .record = ns := by
  induction ns with
  | nil => rfl
  | cons n ns ih =>
      cases n with
      | clear => simp at h
      | record r =>
          have hns : Notice.clear ∉ ns := by simpa using h
          rw [Notice.replay, Notice.replay_of_no_clear hns, List.map_append, ih hns]
          rfl

theorem notices_after_clear {before after : List Mark}
    (hbefore : before = [] ∨ before.getLast? = some (.notice .clear)) (hafter : .notice .clear ∉ after) :
    after.filterMap Mark.notice? = (Notice.replay [] ((before ++ after).filterMap Mark.notice?)).map .record := by
  have hempty : Notice.replay [] (before.filterMap Mark.notice?) = [] := by
    rcases hbefore with rfl | hlast
    · rfl
    · obtain ⟨b, rfl⟩ := List.getLast?_eq_some_iff.1 hlast
      rw [List.filterMap_append, Notice.replay_append]
      rfl
  have hclear : Notice.clear ∉ after.filterMap Mark.notice? := by
    intro h
    obtain ⟨x, hx, hn⟩ := List.mem_filterMap.1 h
    cases x with
    | notice n =>
        cases hn
        exact hafter hx
    | _ => cases hn
  rw [List.filterMap_append, Notice.replay_append, hempty, record_replay hclear]

theorem reachable_foldl (h : Scene.Reachable ⟨s, []⟩) {m : List Key} (hm : hung s m = false) :
    Scene.Reachable ⟨m.foldl Key.feed s, []⟩ := by
  induction m generalizing s with
  | nil => exact h
  | cons k m ih =>
      obtain ⟨hhangs, hrest⟩ := Bool.or_eq_false_iff.1 hm
      obtain ⟨es, fs, hrun, hfs⟩ := k.exists_run_feed s
      rw [hfs hhangs] at hrun
      exact ih (h.run hrun) hrest

theorem reachable_heard (h : Scene.Reachable ⟨s, []⟩) (keys : List Key) :
    ∃ fs, Scene.Reachable ⟨(heard s keys).foldl Key.feed s, fs⟩ := by
  rcases heard_cases s keys with ⟨-, hhung⟩ | ⟨m, k, -, -, hread, hhung, -⟩
  · exact ⟨[], reachable_foldl h hhung⟩
  · obtain ⟨es, fs, hrun, -⟩ := k.exists_run_feed (m.foldl Key.feed s)
    rw [hread, List.foldl_append]
    exact ⟨fs, (reachable_foldl h hhung).run hrun⟩

end

/-- A sitting submits the lines before the first that leaves, each while nothing runs, unless one of them never ends.
Below the title it writes what the session tells and nothing else but the prompts of the moment and a mark for each
interrupt, so that below the last clearing stand the records of the scrollback. -/
theorem sitting_shows (config : Config) (files : Tree) (registry : Registry) (log : Log) (world : World)
    (hooks : List Hook) (keys : List Key) :
    let opened := (Session.start config files registry log world).watch hooks
    let s := opened.welcome Session.emit
    let read := heard s keys
    let final := read.foldl Key.feed s
    let marks := played opened read
    let shown := title ++ "\n" ++ String.join (marks.map Mark.text)
    let written := String.join (run keys opened).written
    (run keys opened).session = final.hushed ∧
    (read = keys.takeWhile (!·.leaves) ∧ marks.getLast? = some (.prompt final.prompt) ∧
        written = shown ++ (if keys.any Key.leaves then "logout\n" else "\nlogout\n") ∨
      ∃ m k rest, keys.takeWhile (!·.leaves) = m ++ k :: rest ∧ read = m ++ [k] ∧
        k.hangs (m.foldl Key.feed s) = true ∧ written = shown) ∧
    marks.filterMap Mark.notice? = final.notices ∧
    marks.count .caught = read.countP Key.interrupts ∧
    (∃ before after, marks = before ++ after ∧ (before = [] ∨ before.getLast? = some (.notice .clear)) ∧
      .notice .clear ∉ after ∧ after.filterMap Mark.notice? = final.scrollback.map .record) ∧
    (∀ m k rest, read = m ++ k :: rest → (m.foldl Key.feed s).running = false ∧
      ∃ before after, marks = before ++ .prompt (m.foldl Key.feed s).prompt :: after ∧
        before.filterMap Mark.notice? = (m.foldl Key.feed s).notices ∧
        before.count .caught = m.countP Key.interrupts) ∧
    ∀ before text after, marks = before ++ .prompt text :: after →
      ∃ m, m <+: read ∧ text = (m.foldl Key.feed s).prompt ∧
        before.filterMap Mark.notice? = (m.foldl Key.feed s).notices := by
  intro opened s read final marks shown written
  have hquiet : opened.notices = [] := rfl
  have hopened : Scene.Reachable ⟨opened, []⟩ := ⟨config, files, registry, log, world, _, .cons (.watch hooks) .nil⟩
  have hs : Scene.Reachable ⟨s, []⟩ := hopened.run (.cons (.act .welcome) .nil)
  obtain ⟨hsession, hwritten⟩ := (follows_start hquiet).sit rfl keys
  have hplayed : played opened read = played opened [] ++ transcript s read := played_append opened [] read
  rw [← hplayed] at hwritten
  refine ⟨hsession, ?_, notices_played hquiet read, caught_played opened read, ?_, ?_, ?_⟩
  · rcases heard_cases s keys with ⟨hall, hhung⟩ | ⟨m, k, rest, hall, hread, hhung, hhangs⟩
    · refine .inl ⟨hall, List.getLast?_eq_some_iff.2 (prompt_played hhung), hwritten.trans ?_⟩
      rw [goodbye, hhung]
      rfl
    · have hlast : hung s (heard s keys) = true := by
        rw [hread, hung_append, hung, hhangs]
        simp
      refine .inr ⟨m, k, rest, hall, hread, hhangs, hwritten.trans ?_⟩
      rw [goodbye, hlast]
      exact String.append_empty
  · obtain ⟨before, after, hmarks, hbefore, hafter⟩ := exists_last_clear marks
    obtain ⟨fs, hfinal⟩ := reachable_heard hs keys
    have hshown : Notice.replay [] final.notices = final.scrollback := hfinal.shown
    refine ⟨before, after, hmarks, hbefore, hafter, ?_⟩
    rw [notices_after_clear hbefore hafter, ← hmarks, notices_played hquiet read, hshown]
  · intro m k rest hread
    have hhung : hung s m = false := hung_of_heard hread
    have hidle : (m.foldl Key.feed s).running = false := (reachable_foldl hs hhung).idle.running
    obtain ⟨before, hbefore⟩ := prompt_played (s := opened) hhung
    refine ⟨hidle, before, transcript (m.foldl Key.feed s) (k :: rest), ?_, ?_, ?_⟩
    · have hmarks : marks = played opened (m ++ k :: rest) := congrArg (played opened) hread
      rw [hmarks, played_append, hbefore, List.append_assoc]
      rfl
    · rw [← notices_played hquiet m, hbefore, List.filterMap_append]
      simp [Mark.notice?]
    · rw [← caught_played opened m, hbefore, List.count_append]
      simp
  · exact fun before text after hmarks => prompt_of_played hquiet hmarks

example :
    (run [.line "whoami", .interrupt "ec", .line " exit", .line "clear"]
      (Session.start {} (.seeded 0) .builtin (.empty none) { wall := 0 })).written.drop 1 =
    ["Welcome to Stellar Terminal. Type `help` to begin.\n\n", "guest@stellar:/home/guest$ ", "guest\n",
      "guest@stellar:/home/guest$ ", "^C\n", "", "guest@stellar:/home/guest$ ", "logout\n"] := by decide +kernel

end Terminal.Console
