import Terminal.Console
import Terminal.Proofs.Session.Ledger
import Terminal.Proofs.Session.Telling
import Terminal.Proofs.Session.Waiting

/-!
A sitting at the terminal as its session sees it. The screen takes the notices away after every key; a session that
keeps them all, and is fed the same keys, tells what stands on the screen.
-/

namespace Terminal.Console

namespace Key

def leaves : Key → Bool
  | .line text => Text.trim text == "exit" || Text.trim text == "logout"
  | _ => false

def interrupts : Key → Bool
  | .interrupt _ => true
  | _ => false

def feed (s : Session) : Key → Session
  | .line text => (s.submit text).2
  | .interrupt typed => s.interrupt Session.emit typed
  | .tab _ _ => s
  | .wait ms => s.advance ms

def hangs (s : Session) : Key → Bool
  | .line text => (s.submit text).1 == .endless
  | _ => false

variable {s : Session} {pre : List Notice}

theorem feed_precede (s : Session) (k : Key) : k.feed (s.precede pre) = (k.feed s).precede pre := by
  cases k with
  | line text => exact congrArg Prod.snd (Session.submit_precede text s)
  | interrupt typed => exact Session.interrupt_precede Session.deaf_emit typed s
  | _ => rfl

theorem feed_hushed (s : Session) (k : Key) : (k.feed s.hushed).precede s.notices = k.feed s := by
  rw [← feed_precede, Session.precede_hushed]

theorem exists_run_feed (s : Session) (k : Key) :
    ∃ es fs, Scene.Run ⟨s, []⟩ es ⟨k.feed s, fs⟩ ∧ (k.hangs s = false → fs = []) := by
  cases k with
  | line text =>
      obtain ⟨es, fs, hrun, hfs⟩ := Scene.exists_run_submit s text
      exact ⟨es, fs, hrun, fun h => hfs (by simpa [hangs] using h)⟩
  | interrupt typed => exact ⟨_, [], .cons (.act (.interrupt typed)) .nil, fun _ => rfl⟩
  | tab text line => exact ⟨[], [], .nil, fun _ => rfl⟩
  | wait ms => exact ⟨_, [], .cons (.advance ms) .nil, fun _ => rfl⟩

end Key

/-- The keys that are read: those before the first line that leaves, and none after a command that never ends. -/
def heard (s : Session) : List Key → List Key
  | [] => []
  | k :: keys =>
    if k.leaves then []
    else if k.hangs s then [k]
    else k :: heard (k.feed s) keys

def hung (s : Session) : List Key → Bool
  | [] => false
  | k :: keys => k.hangs s || hung (k.feed s) keys

inductive Mark where
  | notice (n : Notice)
  | prompt (text : String)
  | caught
  deriving DecidableEq, Repr

namespace Mark

/-- What was typed is on the screen already; every other record has a line of its own. -/
def text : Mark → String
  | notice (.record (.input ..)) => ""
  | notice (.record (.output text)) => text ++ "\n"
  | notice (.record (.system text)) => text ++ "\n"
  | notice .clear => "\x1b[2J\x1b[H"
  | prompt text => text ++ " "
  | caught => "^C\n"

theorem text_notice (n : Notice) : (notice n).text = noticeText n := by
  cases n with
  | clear => rfl
  | record r => cases r <;> rfl

def notice? : Mark → Option Notice
  | notice n => some n
  | _ => none

end Mark

def news (s s' : Session) : List Mark := (s'.notices.drop s.notices.length).map .notice

def Key.entry (s : Session) (k : Key) : List Mark :=
  match k with
  | .line _ => news s (k.feed s) ++ if k.hangs s then [] else [.prompt (k.feed s).prompt]
  | .interrupt _ => .caught :: news s (k.feed s) ++ [.prompt (k.feed s).prompt]
  | .tab _ _ | .wait _ => []

def transcript (s : Session) : List Key → List Mark
  | [] => []
  | k :: keys => k.entry s ++ transcript (k.feed s) keys

def played (s : Session) (keys : List Key) : List Mark :=
  news s (s.welcome Session.emit) ++ .prompt (s.welcome Session.emit).prompt ::
    transcript (s.welcome Session.emit) keys

section

variable {s : Session} {keys m rest : List Key} {k : Key}

theorem hung_append (s : Session) (m rest : List Key) :
    hung s (m ++ rest) = (hung s m || hung (m.foldl Key.feed s) rest) := by
  induction m generalizing s with
  | nil => rfl
  | cons k m ih => rw [List.cons_append, hung, hung, ih, List.foldl_cons, Bool.or_assoc]

theorem transcript_append (s : Session) (m rest : List Key) :
    transcript s (m ++ rest) = transcript s m ++ transcript (m.foldl Key.feed s) rest := by
  induction m generalizing s with
  | nil => rfl
  | cons k m ih => rw [List.cons_append, transcript, transcript, ih, List.foldl_cons, List.append_assoc]

theorem heard_cases (s : Session) (keys : List Key) :
    (heard s keys = keys.takeWhile (!·.leaves) ∧ hung s (heard s keys) = false) ∨
      ∃ m k rest, keys.takeWhile (!·.leaves) = m ++ k :: rest ∧ heard s keys = m ++ [k] ∧
        hung s m = false ∧ k.hangs (m.foldl Key.feed s) = true := by
  induction keys generalizing s with
  | nil => exact .inl ⟨rfl, rfl⟩
  | cons k keys ih =>
      cases hleaves : k.leaves with
      | true => exact .inl ⟨by simp [heard, hleaves], by simp [heard, hleaves, hung]⟩
      | false =>
          cases hhangs : k.hangs s with
          | true =>
              have hheard : heard s (k :: keys) = [k] := by simp [heard, hleaves, hhangs]
              exact .inr ⟨[], k, keys.takeWhile (!·.leaves), by simp [hleaves], hheard, rfl, hhangs⟩
          | false =>
              have hheard : heard s (k :: keys) = k :: heard (k.feed s) keys := by simp [heard, hleaves, hhangs]
              have htake : (k :: keys).takeWhile (!·.leaves) = k :: keys.takeWhile (!·.leaves) := by simp [hleaves]
              rw [hheard, htake]
              rcases ih (k.feed s) with ⟨hall, hhung⟩ | ⟨m, k', rest, hall, hread, hhung, hlast⟩
              · exact .inl ⟨by rw [hall], by rw [hung, hhangs, hhung]; rfl⟩
              · refine .inr ⟨k :: m, k', rest, by rw [hall]; rfl, by rw [hread]; rfl, ?_, hlast⟩
                rw [hung, hhangs, hhung]
                rfl

theorem hung_of_heard (h : heard s keys = m ++ k :: rest) : hung s m = false := by
  rcases heard_cases s keys with ⟨-, hhung⟩ | ⟨m', k', -, -, hread, hhung, -⟩
  · rw [h, hung_append] at hhung
    exact (Bool.or_eq_false_iff.1 hhung).1
  · have hlast : (m ++ k :: rest).dropLast = m' := by rw [← h, hread, List.dropLast_concat]
    rw [List.dropLast_append_cons] at hlast
    rw [← hlast, hung_append] at hhung
    exact (Bool.or_eq_false_iff.1 hhung).1

theorem notices_news {s' : Session} {ns : List Notice} (h : s'.notices = s.notices ++ ns) :
    news s s' = ns.map .notice := by
  rw [news, h, List.drop_left]

theorem notices_feed (s : Session) (k : Key) : (k.feed s).notices = s.notices ++ (k.feed s.hushed).notices := by
  rw [← k.feed_hushed s]
  rfl

theorem news_feed (s : Session) (k : Key) : news s (k.feed s) = (k.feed s.hushed).notices.map .notice :=
  notices_news (notices_feed s k)

theorem notices_map (ns : List Notice) : (ns.map Mark.notice).filterMap Mark.notice? = ns := by
  rw [List.filterMap_map]
  exact List.filterMap_some

theorem notices_entry (s : Session) (k : Key) :
    s.notices ++ (k.entry s).filterMap Mark.notice? = (k.feed s).notices := by
  rw [notices_feed]
  cases k with
  | line text =>
      rw [Key.entry, news_feed, List.filterMap_append, notices_map]
      split <;> simp [Mark.notice?]
  | interrupt typed =>
      rw [Key.entry, news_feed, List.filterMap_append, List.filterMap_cons, notices_map]
      simp [Mark.notice?]
  | _ => rfl

theorem notices_transcript (s : Session) (keys : List Key) :
    s.notices ++ (transcript s keys).filterMap Mark.notice? = (keys.foldl Key.feed s).notices := by
  induction keys generalizing s with
  | nil => simp [transcript]
  | cons k keys ih =>
      rw [transcript, List.filterMap_append, ← List.append_assoc, notices_entry, ih]
      rfl

theorem notMem_news {s' : Session} {x : Mark} (h : x.notice? = none) : x ∉ news s s' := by
  intro hx
  obtain ⟨n, -, rfl⟩ := List.mem_map.1 hx
  cases h

theorem caught_news (s s' : Session) : (news s s').count .caught = 0 := List.count_eq_zero.2 (notMem_news rfl)

theorem caught_entry (s : Session) (k : Key) : (k.entry s).count .caught = [k].countP Key.interrupts := by
  cases k with
  | line text =>
      rw [Key.entry, List.count_append, caught_news]
      split <;> simp [Key.interrupts]
  | interrupt typed =>
      rw [Key.entry, List.count_append, List.count_cons_self, caught_news]
      simp [Key.interrupts]
  | _ => rfl

theorem caught_transcript (s : Session) (keys : List Key) :
    (transcript s keys).count .caught = keys.countP Key.interrupts := by
  induction keys generalizing s with
  | nil => rfl
  | cons k keys ih =>
      rw [transcript, List.count_append, caught_entry, ih, ← List.countP_append]
      rfl

theorem prompt_stands {marks before : List Mark} (hmarks : marks = before ++ [.prompt s.prompt])
    (hhung : hung s m = false) :
    ∃ before, marks ++ transcript s m = before ++ [.prompt (m.foldl Key.feed s).prompt] := by
  induction m generalizing s marks before with
  | nil => exact ⟨before, by rw [transcript, List.append_nil, hmarks]; rfl⟩
  | cons k m ih =>
      obtain ⟨hhangs, hrest⟩ := Bool.or_eq_false_iff.1 hhung
      have hentry : ∃ before, marks ++ k.entry s = before ++ [.prompt (k.feed s).prompt] := by
        cases k with
        | line text =>
            refine ⟨marks ++ news s (Key.feed s (.line text)), ?_⟩
            rw [Key.entry, hhangs, List.append_assoc]
            rfl
        | interrupt typed => exact ⟨_, (List.append_assoc ..).symm⟩
        | _ => exact ⟨before, (List.append_nil marks).trans hmarks⟩
      obtain ⟨before', hentry⟩ := hentry
      rw [transcript, ← List.append_assoc]
      exact ih hentry hrest

theorem append_cases {α : Type} {l r before after : List α} {x : α} (h : l ++ r = before ++ x :: after) :
    (∃ c, before = l ++ c ∧ r = c ++ x :: after) ∨ ∃ c, l = before ++ x :: c := by
  rcases List.append_eq_append_iff.1 h with ⟨c, hbefore, hr⟩ | ⟨c, hl, hafter⟩
  · exact .inl ⟨c, hbefore, hr⟩
  · cases c with
    | nil => exact .inl ⟨[], by simpa using hl.symm, hafter.symm⟩
    | cons y c =>
        obtain ⟨rfl, -⟩ := List.cons.inj hafter
        exact .inr ⟨c, hl⟩

theorem prompt_of_entry {before after : List Mark} {text : String} (h : k.entry s = before ++ .prompt text :: after) :
    before.filterMap Mark.notice? = (k.entry s).filterMap Mark.notice? ∧ text = (k.feed s).prompt := by
  have hnews : Mark.prompt text ∉ news s (k.feed s) := notMem_news rfl
  cases k with
  | line line =>
      rw [Key.entry] at h ⊢
      split at h
      · rw [List.append_nil] at h
        exact absurd (h ▸ by simp) hnews
      · obtain ⟨rfl, hprompt, -⟩ := (List.append_cons_inj_of_notMem hnews List.not_mem_nil).1 h
        exact ⟨by simp [*, Mark.notice?], (Mark.prompt.inj hprompt).symm⟩
  | interrupt typed =>
      obtain ⟨rfl, hprompt, -⟩ := (List.append_cons_inj_of_notMem (by simpa using hnews) List.not_mem_nil).1 h
      exact ⟨by simp [Key.entry, Mark.notice?, List.filterMap_cons], (Mark.prompt.inj hprompt).symm⟩
  | _ => simp [Key.entry] at h

theorem prompt_of_transcript {before after : List Mark} {text : String}
    (h : transcript s keys = before ++ .prompt text :: after) :
    ∃ m, m <+: keys ∧ text = (m.foldl Key.feed s).prompt ∧
      s.notices ++ before.filterMap Mark.notice? = (m.foldl Key.feed s).notices := by
  induction keys generalizing s before with
  | nil => simp [transcript] at h
  | cons k keys ih =>
      rw [transcript] at h
      -- the prompt stands among what comes of the later keys or of the first
      rcases append_cases h with ⟨c, rfl, hrest⟩ | ⟨c, hentry⟩
      · obtain ⟨m, hm, htext, hnotices⟩ := ih hrest
        refine ⟨k :: m, (List.prefix_cons_inj k).2 hm, htext, ?_⟩
        rw [List.filterMap_append, ← List.append_assoc, notices_entry, hnotices]
        rfl
      · obtain ⟨hnotices, htext⟩ := prompt_of_entry hentry
        refine ⟨[k], (List.prefix_cons_inj k).2 List.nil_prefix, htext, ?_⟩
        rw [hnotices, notices_entry]
        rfl

end

section

variable {s : Session} {m keys : List Key}

theorem played_append (s : Session) (m rest : List Key) :
    played s (m ++ rest) = played s m ++ transcript (m.foldl Key.feed (s.welcome Session.emit)) rest := by
  rw [played, played, transcript_append, List.append_assoc, List.cons_append]

theorem caught_played (s : Session) (m : List Key) : (played s m).count .caught = m.countP Key.interrupts := by
  rw [played, List.count_append, caught_news, List.count_cons_of_ne (by simp), caught_transcript, Nat.zero_add]

theorem prompt_played (hm : hung (s.welcome Session.emit) m = false) :
    ∃ before, played s m = before ++ [.prompt (m.foldl Key.feed (s.welcome Session.emit)).prompt] := by
  obtain ⟨before, hstands⟩ := prompt_stands rfl hm
  rw [List.append_assoc] at hstands
  exact ⟨before, hstands⟩

variable (hs : s.notices = [])
include hs

theorem news_welcome : news s (s.welcome Session.emit) = (s.welcome Session.emit).notices.map .notice :=
  notices_news (by rw [hs, List.nil_append])

theorem notices_played (m : List Key) :
    (played s m).filterMap Mark.notice? = (m.foldl Key.feed (s.welcome Session.emit)).notices := by
  rw [played, List.filterMap_append, news_welcome hs, notices_map, List.filterMap_cons_none rfl, notices_transcript]

theorem prompt_of_played {before after : List Mark} {text : String}
    (h : played s keys = before ++ .prompt text :: after) :
    ∃ m, m <+: keys ∧ text = (m.foldl Key.feed (s.welcome Session.emit)).prompt ∧
      before.filterMap Mark.notice? = (m.foldl Key.feed (s.welcome Session.emit)).notices := by
  rcases append_cases h with ⟨c, rfl, hrest⟩ | ⟨c, hmem⟩
  · rw [List.filterMap_append, news_welcome hs, notices_map]
    cases c with
    | nil =>
        obtain ⟨htext, -⟩ := List.cons.inj hrest
        exact ⟨[], List.nil_prefix, (Mark.prompt.inj htext).symm, List.append_nil _⟩
    | cons x c =>
        obtain ⟨rfl, hc⟩ := List.cons.inj hrest
        rw [List.filterMap_cons_none rfl]
        exact prompt_of_transcript hc
  · have hprompt : .prompt text ∈ news s (s.welcome Session.emit) := hmem ▸ by simp
    exact absurd hprompt (notMem_news rfl)

end

end Terminal.Console
