import Terminal.Proofs.Files.Operations
import Terminal.Proofs.Session.Frame

namespace Terminal

open Session Commands

namespace FileOp

def removes : FileOp → Bool
  | rm _ | rmdir _ => true
  | _ => false

@[simp] theorem removes_resolve (cwd : String) (op : FileOp) : (op.resolve cwd).removes = op.removes := by
  cases op <;> rfl

end FileOp

namespace Tree

variable (now : Int) {t : Tree} {p : List String} {stamp : Stamp}

theorem raised_of_item? (h : t.item? p = some (.dir stamp)) (q : List String) :
    t.raised now q p = some (.dir stamp) := by
  rw [raised, h]
  split <;> rfl

theorem item?_write_dir (ht : t.Ordered) (path content : String) (h : t.item? p = some (.dir stamp)) :
    (t.write now path content).1.item? p = some (.dir stamp) := by
  rcases write_cases now ht path content with
    ⟨-, hw⟩ | ⟨-, -, name, hw⟩ | ⟨-, -, -, hw⟩ | ⟨-, -, hnot, t', hw, -, hitem⟩
  · rw [hw, h]
  · rw [hw, h]
  · rw [hw, h]
  · have hne : p ≠ Path.split path := by
      rintro rfl
      exact hnot stamp h
    rw [hw, hitem, if_neg hne, raised_of_item? now h]

theorem exists_dir_perform (ht : t.Ordered) {op : FileOp} (hop : op.removes = false)
    (h : t.item? p = some (.dir stamp)) : ∃ s, (op.perform now t).1.item? p = some (.dir s) := by
  cases op with
  | mkdir path =>
      rw [FileOp.perform]
      rcases mkdir_cases now ht path with ⟨-, name, hd⟩ | ⟨-, t', hd, -, hitem⟩
      · exact ⟨stamp, by rw [hd, h]⟩
      · exact ⟨stamp, by rw [hd, hitem, raised_of_item? now h]⟩
  | write path content => exact ⟨stamp, item?_write_dir now ht path content h⟩
  | append path content =>
      rw [FileOp.perform]
      rcases append_cases now ht path content with ⟨-, hd⟩ | ⟨-, hd⟩ | ⟨doc, hdoc, t', hd, -, hitem⟩
      · rw [hd]
        exact ⟨stamp, item?_write_dir now ht path content h⟩
      · exact ⟨stamp, by rw [hd, h]⟩
      · have hne : p ≠ Path.split path := by
          rintro rfl
          cases h.symm.trans hdoc
        exact ⟨stamp, by rw [hd, hitem, if_neg hne, h]⟩
  | touch path =>
      rw [FileOp.perform]
      rcases touch_cases now ht path with ⟨-, hd⟩ | ⟨item, hsome, t', hd, -, hitem⟩
      · rw [hd]
        exact ⟨stamp, item?_write_dir now ht path "" h⟩
      · rw [hd, hitem]
        by_cases hp : p = Path.split path
        · subst hp
          cases h.symm.trans hsome
          exact ⟨_, if_pos rfl⟩
        · exact ⟨stamp, by rw [if_neg hp, h]⟩
  | rm path => cases hop
  | rmdir path => cases hop
  | copy source target =>
      rw [FileOp.perform]
      rcases copy_cases now source target with ⟨-, hd⟩ | ⟨-, hd⟩ | ⟨doc, -, hd⟩
      · exact ⟨stamp, by rw [hd, h]⟩
      · exact ⟨stamp, by rw [hd, h]⟩
      · rw [hd]
        exact ⟨stamp, item?_write_dir now ht target doc.content h⟩
  | rename source target =>
      rw [FileOp.perform]
      rcases rename_cases now ht source target with
        ⟨-, hd⟩ | ⟨-, hd⟩ | ⟨doc, hdoc, ⟨e, -, hd⟩ | ⟨t', t'', hw, hd, -, hitem⟩⟩
      · exact ⟨stamp, by rw [hd, h]⟩
      · exact ⟨stamp, by rw [hd, h]⟩
      · exact ⟨stamp, by rw [hd, h]⟩
      · -- what moves away is a file
        have hne : p ≠ Path.split source := by
          rintro rfl
          cases h.symm.trans hdoc
        have hwritten := item?_write_dir now ht target doc.content h
        rw [hw] at hwritten
        exact ⟨stamp, by rw [hd, hitem, if_neg fun hp => hne hp.1, hwritten]⟩

theorem isDir_perform (ht : t.Ordered) {op : FileOp} (hop : op.removes = false) {path : String}
    (h : t.isDir path = true) : (op.perform now t).1.isDir path = true := by
  obtain ⟨stamp, hitem⟩ := (t.isDir_iff path).1 h
  exact ((op.perform now t).1.isDir_iff path).2 (exists_dir_perform now ht hop hitem)

end Tree

namespace Script

variable {α β : Type}

def Sparing : Script α → Prop
  | .call c next => (∀ op, c = .change op → op.removes = false) ∧ ∀ reply, (next reply).Sparing
  | .endless => False
  | _ => True

theorem Sparing.bind {script : Script α} {f : α → Script β} (h : script.Sparing) (hf : ∀ a, (f a).Sparing) :
    (script.bind f).Sparing := by
  induction script with
  | call c next ih => exact ⟨h.1, fun reply => ih reply (h.2 reply)⟩
  | done a => exact hf a
  | fail e => trivial
  | endless => exact h

theorem Sparing.ite {p : Prop} [Decidable p] {a b : Script α} (ha : a.Sparing) (hb : b.Sparing) :
    (if p then a else b).Sparing := by
  split
  · exact ha
  · exact hb

theorem sparing_printAll (texts : List String) : (printAll texts).Sparing := by
  induction texts with
  | nil => trivial
  | cons text texts ih => exact ⟨nofun, fun _ => ih⟩

theorem sparing_ofExcept {ε : Type} (f : ε → Failure) (outcome : Except ε α) : (ofExcept f outcome).Sparing := by
  cases outcome <;> trivial

end Script

namespace Commands

theorem sparing_report (f : View → Except Failure Result) : (report f).Sparing := by
  refine ⟨nofun, fun v => ?_⟩
  dsimp only
  split <;> trivial

theorem sparing_changing {label : String} {op : FileOp} (hop : op.removes = false) {next : Script (Option Result)}
    (hnext : next.Sparing) : (changing label op next).Sparing := by
  constructor
  · intro op' he
    cases he
    exact hop
  · intro outcome
    cases outcome with
    | ok done => exact hnext
    | error e => trivial

theorem sparing_mkdirAll (label made : String) (parts : List String) : (mkdirAll label made parts).Sparing := by
  induction parts generalizing made with
  | nil => trivial
  | cons part parts ih => exact sparing_changing rfl (ih _)

theorem sparing_unlessCancelled {α : Type} {next : Script α} (hnext : next.Sparing) : (unlessCancelled next).Sparing :=
  ⟨nofun, fun _ => Script.Sparing.ite trivial hnext⟩

theorem sparing_probes (url : String) {next : List Int → Script (Option Result)} (hnext : ∀ times, (next times).Sparing)
    (left seq : Nat) (times : List Int) : (probes url next left seq times).Sparing := by
  induction left generalizing seq times with
  | zero => exact hnext times
  | succ left ih =>
      refine sparing_unlessCancelled ⟨nofun, fun echo => ?_⟩
      cases echo with
      | cancelled => trivial
      | broken f => trivial
      | answered ms => exact ⟨nofun, fun _ => ⟨nofun, fun _ => sparing_unlessCancelled (ih _ _)⟩⟩
      | lost => exact ⟨nofun, fun _ => ⟨nofun, fun _ => sparing_unlessCancelled (ih _ _)⟩⟩

theorem sparing_set (args : List String) : (set args).Sparing := by
  dsimp only [set]
  split
  · trivial
  · exact ⟨nofun, fun _ => Script.Sparing.ite ⟨nofun, fun _ => trivial⟩ trivial⟩

theorem sparing_theme (args : List String) : (theme args).Sparing := by
  dsimp only [theme]
  split
  · exact sparing_report _
  · trivial
  · exact sparing_report _
  · split
    · trivial
    · exact ⟨nofun, fun _ => trivial⟩

theorem sparing_openLink (args : List String) : (openLink args).Sparing := by
  cases args with
  | nil => trivial
  | cons target rest =>
      dsimp only [openLink]
      split
      · trivial
      · exact ⟨nofun, fun _ => trivial⟩

theorem sparing_cd (args : List String) : (cd args).Sparing :=
  ⟨nofun, fun _ => Script.Sparing.ite trivial (Script.Sparing.ite trivial ⟨nofun, fun _ => trivial⟩)⟩

theorem sparing_nano (args : List String) : (nano args).Sparing := by
  cases args with
  | nil => trivial
  | cons path rest => exact ⟨nofun, fun v => (Script.sparing_printAll _).bind fun _ => trivial⟩

theorem sparing_touch (args : List String) : (touch args).Sparing := by
  cases args with
  | nil => trivial
  | cons path rest => exact sparing_changing rfl trivial

theorem sparing_between {op : String → String → FileOp} (hop : ∀ source target, (op source target).removes = false)
    (name : String) (args : List String) : (between name op args).Sparing := by
  match args with
  | [] | [_] => trivial
  | source :: target :: rest => exact sparing_changing (hop source target) trivial

theorem sparing_mkdir (args : List String) : (mkdir args).Sparing := by
  dsimp only [mkdir]
  split
  · trivial
  · refine ⟨nofun, fun v => ?_⟩
    dsimp only
    generalize v.isDir (Path.parent (v.resolve _)) = above
    refine Script.Sparing.ite (sparing_mkdirAll _ _ _) ?_
    exact Script.Sparing.ite trivial (sparing_changing rfl trivial)

theorem sparing_ping (args : List String) : (ping args).Sparing := by
  refine ⟨nofun, fun v => ?_⟩
  dsimp only
  split
  · trivial
  · trivial
  · refine ⟨nofun, fun _ => sparing_probes _ (fun times => ?_) _ _ _⟩
    refine Script.Sparing.bind (Script.Sparing.bind (Script.sparing_ofExcept _ _) fun lines => ?_) fun _ => trivial
    exact Script.sparing_printAll lines

theorem sparing_builtins {b : Command} (h : b ∈ builtins) (hname : b.info.name ≠ "rm") (args : List String) :
    (b.handler args).Sparing := by
  revert args
  revert hname
  revert b
  simp only [builtins, List.forall_mem_cons]
  refine ⟨?_, ?_, ?_, ?_, ?_, ?_, ?_, ?_, ?_, fun _ => sparing_set, fun _ => sparing_theme, fun _ => sparing_openLink,
    ?_, ?_, ?_, ?_, ?_, ?_, fun _ => sparing_cd, ?_, fun _ => sparing_touch, fun _ => sparing_mkdir,
    fun h => absurd rfl h, ?_, fun _ => sparing_between (fun _ _ => rfl) _,
    fun _ => sparing_between (fun _ _ => rfl) _, ?_, ?_, ?_, ?_, fun _ => sparing_nano, ?_,
    fun _ => sparing_ping, by simp⟩
  all_goals first | exact fun _ args => sparing_report _ | exact fun _ args => trivial

theorem sparing_command {name : String} (hname : name ≠ "rm") {c : Command}
    (h : Registry.builtin.get? name = some c) (args : List String) : (c.handler args).Sparing := by
  obtain ⟨b, hb, hhandler, hmeans⟩ := handler_builtin h
  have hbase : b.info.name ≠ "rm" := by
    rcases hmeans with rfl | ⟨text, hmem⟩
    · exact hname
    · have hsecond : ∀ e ∈ secondNames, e.2.1 ≠ "rm" := by decide
      exact hsecond _ hmem
  rw [hhandler]
  exact sparing_builtins hb hbase args

end Commands

namespace Session

variable {s : Session}

structure Spares (s s' : Session) : Prop where
  ordered : s'.files.Ordered
  isDir : ∀ path, s.files.isDir path = true → s'.files.isDir path = true

theorem Spares.of_eq {s' : Session} (hs : s.files.Ordered) (h : s'.files = s.files) : s.Spares s' :=
  ⟨h ▸ hs, fun path hpath => by rw [h]; exact hpath⟩

theorem Spares.trans {s' s'' : Session} (h : s.Spares s') (h' : s'.Spares s'') : s.Spares s'' :=
  ⟨h'.ordered, fun path hpath => h'.isDir path (h.isDir path hpath)⟩

theorem not_stirred_files (s : Session) : ¬ s.Stirred .files := by
  rintro ⟨⟨after, action⟩, -, h⟩
  cases h

theorem files_perform (prior : List String) {c : Call} (hc : ∀ op, c ≠ .change op) (s : Session) :
    (s.perform emit prior c).2.files = s.files := by
  refine (touches_perform prior c s).files.resolve_left ?_
  rintro (h | h)
  · cases h with
    | edit op => exact hc op rfl
    | act h => cases h
  · exact not_stirred_files s h

theorem spares_perform (hs : s.files.Ordered) (prior : List String) {c : Call}
    (hc : ∀ op, c = .change op → op.removes = false) : s.Spares (s.perform emit prior c).2 := by
  by_cases hchange : ∃ op, c = .change op
  · obtain ⟨op, rfl⟩ := hchange
    have hop : (op.resolve s.cwd).removes = false := by simpa using hc op rfl
    exact ⟨hs.perform s.world.wall _, fun path hpath => Tree.isDir_perform s.world.wall hs hop hpath⟩
  · exact .of_eq hs (files_perform prior (fun op he => hchange ⟨op, he⟩) s)

theorem spares_run {α : Type} {script : Script α} (h : script.Sparing) (hs : s.files.Ordered) (prior : List String) :
    (script.run (perform emit prior) s).1.ending? ≠ none ∧
      s.Spares (script.run (perform emit prior) s).2 := by
  induction script generalizing s with
  | call c next ih =>
      have hcall := spares_perform hs prior h.1
      obtain ⟨hends, hrest⟩ := ih _ (h.2 (s.perform emit prior c).1) hcall.ordered
      exact ⟨hends, hcall.trans hrest⟩
  | done a => exact ⟨nofun, .of_eq hs rfl⟩
  | fail f => exact ⟨nofun, .of_eq hs rfl⟩
  | endless => exact h.elim

theorem spares_opening (hs : s.files.Ordered) (line : String) : s.Spares (s.opening line).2 :=
  .of_eq hs ((touches_opening line s).files.resolve_left (not_stirred_files s))

theorem spares_settle (hs : s.files.Ordered) (name : String) (ending : Except Failure (Option Result)) :
    s.Spares (s.settle name ending).2 := by
  refine .of_eq hs ((touches_settle name ending s).files.resolve_left ?_)
  rintro (⟨r, -, h⟩ | h)
  · cases h
  · exact not_stirred_files s h

theorem spares_submit (hidle : s.Idle) (hregistry : s.registry = .builtin) (hs : s.files.Ordered) {line : String}
    (hline : (Text.words line).head? ≠ some "rm") :
    (s.submit line).1 ≠ .endless ∧ (s.submit line).2.Idle ∧ s.Spares (s.submit line).2 := by
  have hopening := spares_opening hs line
  rw [submit_eq]
  rcases ho : s.opening line with ⟨o | f, s₁⟩
  · rw [ho] at hopening
    rcases opening_answered ho with ⟨-, rfl, rfl⟩ | ⟨-, s₂, hbegins, hfinish⟩
    · exact ⟨nofun, hidle, hopening⟩
    · cases hfinish
      exact ⟨nofun, hbegins.idle_finish hidle, hopening⟩
  · rw [ho] at hopening
    obtain ⟨-, -, -, ⟨c, hc, hrest⟩, -⟩ := opening_begun ho
    have hname : f.name ≠ "rm" := by
      rw [words_of_begun ho] at hline
      exact fun he => hline (congrArg some he)
    have hsparing : f.rest.Sparing := hrest ▸ sparing_command hname (hregistry ▸ hc) f.args
    obtain ⟨hends, hrun⟩ := spares_run hsparing hopening.ordered f.prior
    obtain ⟨ending, hending⟩ := Option.ne_none_iff_exists'.1 hends
    have hsettle := spares_settle hrun.ordered f.name ending
    dsimp only
    rw [fly_of_ending hending]
    exact ⟨nofun, idle_settle _ _ _, hopening.trans (hrun.trans hsettle)⟩

end Session

end Terminal
