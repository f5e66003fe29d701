import Mathlib.Data.List.Basic
import Terminal.Token

/-!
A token that many calls share. The calls take turns: each goes on by itself until it waits for something, and then
others may go on. In whatever order they do, the signal says what the mark says, nothing that listens misses a
cancelling, and a call that comes after it does not wait.
-/

namespace Terminal

namespace Token

inductive Call where
  | cancel
  | check
  | wait
  | sleep (seconds : Number)
  | race (limit : Option Number)
  deriving DecidableEq, Repr

inductive Answer (α : Type) where
  | returned
  | value (a : α)
  | failure (a : α)
  | cancelled
  | timedOut (limit : Number)
  | dropped
  deriving Repr

inductive Ear where
  | idle
  | listening
  | heard
  deriving DecidableEq, Repr

inductive Stage (α : Type) where
  | pending (ear : Ear) (work : Work α)
  | answered (a : Answer α)
  deriving Repr

structure Made (α : Type) where
  call : Call
  stage : Stage α
  deriving Repr

/-- What goes on in a pending call: its listening begins, its listening is woken, its work ends, the call itself goes
on with its time up or not, or it is given up. -/
inductive Act (α : Type) where
  | listens
  | hears
  | works (w : Work α)
  | resumes (timeUp : Bool)
  | dropped
  deriving Repr

def Call.touch (t : Token) : Call → Token
  | .cancel => t.cancel
  | .wait => t.listen
  | .check | .sleep _ | .race _ => t

def Call.begin {α : Type} (t : Token) : Call → Stage α
  | .cancel => .answered .returned
  | .check => .answered (if t.cancelled then .cancelled else .returned)
  | .wait => if t.listen.isSignalled then .answered .returned else .pending .listening .never
  | .sleep _ => if t.cancelled then .answered .returned else .pending .idle .never
  | .race _ => if t.cancelled then .answered .cancelled else .pending .idle .never

def Call.resume {α : Type} (timeUp : Bool) : Call → Ear → Work α → Option (Answer α)
  | .wait, .heard, _ => some .returned
  | .sleep _, ear, _ => if ear = .heard ∨ timeUp then some .returned else none
  | .race _, _, .value a => some (.value a)
  | .race _, _, .failure a => some (.failure a)
  | .race limit, ear, .never =>
    if ear = .heard then some .cancelled else if timeUp then limit.map .timedOut else none
  | _, _, _ => none

def Call.late {α : Type} : Call → Answer α
  | .cancel | .wait | .sleep _ => .returned
  | .check | .race _ => .cancelled

def Made.act {α : Type} (t : Token) : Made α → Act α → Option (Token × Stage α)
  | ⟨_, .pending .idle work⟩, .listens => some (t.listen, .pending .listening work)
  | ⟨_, .pending .listening work⟩, .hears => if t.isSignalled then some (t, .pending .heard work) else none
  | ⟨.race _, .pending ear .never⟩, .works w => some (t, .pending ear w)
  | ⟨call, .pending ear work⟩, .resumes timeUp => (call.resume timeUp ear work).map fun a => (t, .answered a)
  | ⟨_, .pending _ _⟩, .dropped => some (t, .answered .dropped)
  | _, _ => none

structure Pool (α : Type) where
  token : Token
  made : List (Made α)
  deriving Repr

inductive Move (α : Type) where
  | call (c : Call)
  | act (i : Nat) (a : Act α)
  deriving Repr

namespace Pool

variable {α : Type}

def start (t : Token) : Pool α := ⟨t, []⟩

def call (p : Pool α) (c : Call) : Pool α := ⟨c.touch p.token, p.made ++ [⟨c, c.begin p.token⟩]⟩

def step (p : Pool α) : Move α → Option (Pool α)
  | .call c => some (p.call c)
  | .act i a => do
      let m ← p.made[i]?
      let (t, s) ← m.act p.token a
      return ⟨t, p.made.set i ⟨m.call, s⟩⟩

def play (p : Pool α) (moves : List (Move α)) : Option (Pool α) := moves.foldlM step p

end Pool

section Laws

variable {α : Type} {t t' : Token} {c : Call} {m : Made α} {a : Act α} {s : Stage α}

@[simp] theorem listen_cancelled (t : Token) : t.listen.cancelled = t.cancelled := rfl

@[simp] theorem cancel_cancelled (t : Token) : t.cancel.cancelled = true := rfl

theorem isSignalled_of_inStep {x : Bool} (h : t.InStep) (hx : t.signal = some x) : t.isSignalled = t.cancelled := by
  rw [isSignalled, hx, h x hx]
  cases t.cancelled <;> rfl

theorem InStep.isSignalled_listen (h : t.InStep) : t.listen.isSignalled = t.cancelled :=
  isSignalled_of_inStep h.listen rfl

structure Precedes (t t' : Token) : Prop where
  cancelled : t.cancelled = true → t'.cancelled = true
  signal : t.signal.isSome → t'.signal.isSome

theorem precedes_refl (t : Token) : t.Precedes t := ⟨id, id⟩

theorem precedes_listen (t : Token) : t.Precedes t.listen := ⟨id, fun _ => rfl⟩

theorem precedes_cancel (t : Token) : t.Precedes t.cancel :=
  ⟨fun _ => rfl, fun h => by simpa [cancel] using h⟩

structure Made.Sound (t : Token) (m : Made α) : Prop where
  waits : ∀ ear work, m.stage = .pending ear work → m.call ≠ .cancel ∧ m.call ≠ .check
  listening : ∀ work, m.stage = .pending .listening work → t.signal.isSome
  heard : ∀ work, m.stage = .pending .heard work → t.cancelled = true
  answered : m.stage = .answered .cancelled → t.cancelled = true

theorem Made.Sound.mono (h : m.Sound t) (ht : t.Precedes t') : m.Sound t' :=
  ⟨h.waits, fun w hw => ht.signal (h.listening w hw), fun w hw => ht.cancelled (h.heard w hw),
    fun hs => ht.cancelled (h.answered hs)⟩

theorem Call.touch_cancelled (t : Token) (c : Call) :
    (c.touch t).cancelled = true ↔ t.cancelled = true ∨ c = .cancel := by
  cases c <;> simp [Call.touch]

theorem Call.precedes_touch (t : Token) (c : Call) : t.Precedes (c.touch t) := by
  cases c with
  | cancel => exact precedes_cancel t
  | wait => exact precedes_listen t
  | check | sleep | race => exact precedes_refl t

theorem InStep.touch (h : t.InStep) (c : Call) : (c.touch t).InStep := by
  cases c with
  | cancel => exact InStep.cancel
  | wait => exact h.listen
  | check | sleep | race => exact h

theorem Call.begin_sound (t : Token) (c : Call) : Made.Sound (c.touch t) (⟨c, c.begin t⟩ : Made α) := by
  cases c <;> simp only [Call.begin, Call.touch]
  case cancel => constructor <;> simp
  all_goals split <;> constructor <;> simp_all [listen]

theorem Call.begin_late (h : t.InStep) (hc : t.cancelled = true) (c : Call) :
    (c.begin t : Stage α) = .answered c.late := by
  cases c <;> simp [Call.begin, Call.late, h.isSignalled_listen, hc]

theorem Made.act_cases (h : m.act t a = some (t', s)) : ∃ ear work, m.stage = .pending ear work ∧
    ((a = .listens ∧ ear = .idle ∧ t' = t.listen ∧ s = .pending .listening work) ∨
      t' = t ∧ ((a = .hears ∧ ear = .listening ∧ t.isSignalled = true ∧ s = .pending .heard work) ∨
        (∃ limit w, a = .works w ∧ m.call = .race limit ∧ work = .never ∧ s = .pending ear w) ∨
        (∃ timeUp r, a = .resumes timeUp ∧ m.call.resume timeUp ear work = some r ∧ s = .answered r) ∨
        a = .dropped ∧ s = .answered .dropped)) := by
  unfold act at h
  split at h
  case h_1 =>
      cases h
      exact ⟨_, _, rfl, .inl ⟨rfl, rfl, rfl, rfl⟩⟩
  case h_2 =>
      split at h
      case isTrue hs =>
          cases h
          exact ⟨_, _, rfl, .inr ⟨rfl, .inl ⟨rfl, rfl, hs, rfl⟩⟩⟩
      case isFalse => cases h
  case h_3 =>
      cases h
      exact ⟨_, _, rfl, .inr ⟨rfl, .inr (.inl ⟨_, _, rfl, rfl, rfl, rfl⟩)⟩⟩
  case h_4 =>
      obtain ⟨r, hr, h⟩ := Option.map_eq_some_iff.1 h
      cases h
      exact ⟨_, _, rfl, .inr ⟨rfl, .inr (.inr (.inl ⟨_, r, rfl, hr, rfl⟩))⟩⟩
  case h_5 =>
      cases h
      exact ⟨_, _, rfl, .inr ⟨rfl, .inr (.inr (.inr ⟨rfl, rfl⟩))⟩⟩
  case h_6 => cases h

theorem Call.resume_cancelled {timeUp : Bool} {ear : Ear} {work : Work α}
    (h : c.resume timeUp ear work = some .cancelled) : ear = .heard := by
  unfold Call.resume at h
  split at h
  case h_5 =>
      by_contra hear
      cases timeUp <;> simp [hear] at h
  all_goals simp_all

theorem Call.resume_heard (hcancel : c ≠ .cancel) (hcheck : c ≠ .check) (work : Work α) :
    ∃ r, c.resume false .heard work = some r ∧ (work = .never → r = c.late) := by
  cases c with
  | cancel => exact absurd rfl hcancel
  | check => exact absurd rfl hcheck
  | wait | sleep => exact ⟨_, rfl, fun _ => rfl⟩
  | race limit =>
      cases work with
      | value a | failure a => exact ⟨_, rfl, nofun⟩
      | never => exact ⟨_, rfl, fun _ => rfl⟩

theorem Made.Sound.act (h : m.Sound t) (ht : t.InStep) (hact : m.act t a = some (t', s)) :
    t.Precedes t' ∧ t'.InStep ∧ (⟨m.call, s⟩ : Made α).Sound t' := by
  obtain ⟨ear, work, hm, ⟨-, -, rfl, rfl⟩ | ⟨rfl, hs⟩⟩ := m.act_cases hact
  · refine ⟨precedes_listen t, ht.listen, ?_⟩
    exact ⟨fun _ _ _ => h.waits _ _ hm, fun _ _ => rfl, nofun, nofun⟩
  · refine ⟨precedes_refl _, ht, ?_⟩
    obtain ⟨-, rfl, hsignal, rfl⟩ | ⟨_, w, -, -, -, rfl⟩ | ⟨timeUp, r, -, hr, rfl⟩ | ⟨-, rfl⟩ := hs
    · refine ⟨fun _ _ _ => h.waits _ _ hm, nofun, fun _ _ => ?_, nofun⟩
      rw [isSignalled, beq_iff_eq] at hsignal
      exact (ht _ hsignal).symm
    · refine ⟨fun _ _ _ => h.waits _ _ hm, fun _ hear => ?_, fun _ hear => ?_, nofun⟩
      all_goals cases hear
      · exact h.listening work hm
      · exact h.heard work hm
    · -- a call that goes on is told of a cancelling by its own listening only
      refine ⟨nofun, nofun, nofun, fun hr' => ?_⟩
      cases hr'
      cases Call.resume_cancelled hr
      exact h.heard work hm
    · exact ⟨nofun, nofun, nofun, nofun⟩

end Laws

namespace Pool

variable {α : Type} {p q : Pool α} {move : Move α} {moves : List (Move α)} {c : Call} {i : Nat}

structure Sound (p : Pool α) : Prop where
  inStep : p.token.InStep
  made : ∀ m ∈ p.made, m.Sound p.token

theorem sound_start {t : Token} (h : t.InStep) : (start t : Pool α).Sound := ⟨h, nofun⟩

theorem step_cases (h : p.step move = some q) :
    (∃ c, move = .call c ∧ q = p.call c) ∨
      ∃ i a m t s, move = .act i a ∧ p.made[i]? = some m ∧ m.act p.token a = some (t, s) ∧
        q = ⟨t, p.made.set i ⟨m.call, s⟩⟩ := by
  cases move with
  | call c => exact .inl ⟨c, rfl, by simpa [step] using h.symm⟩
  | act i a =>
      simp only [step, Option.bind_eq_bind, Option.pure_def, Option.bind_eq_some_iff] at h
      obtain ⟨m, hm, ⟨t, s⟩, hact, h⟩ := h
      exact .inr ⟨i, a, m, t, s, rfl, hm, hact, (Option.some.inj h).symm⟩

theorem Sound.step (h : p.Sound) (hstep : p.step move = some q) : q.Sound := by
  obtain ⟨c, -, rfl⟩ | ⟨i, a, m, t, s, -, hm, hact, rfl⟩ := step_cases hstep
  · refine ⟨h.inStep.touch c, fun m hm => ?_⟩
    obtain hm | hm := List.mem_append.1 hm
    · exact (h.made m hm).mono (c.precedes_touch _)
    · rw [List.mem_singleton.1 hm]
      exact c.begin_sound _
  · obtain ⟨ht, hstep, hs⟩ := (h.made m (List.mem_of_getElem? hm)).act h.inStep hact
    refine ⟨hstep, fun m' hm' => ?_⟩
    obtain hm' | rfl := List.mem_or_eq_of_mem_set hm'
    · exact (h.made m' hm').mono ht
    · exact hs

theorem step_cancelled (hstep : p.step move = some q) :
    q.token.cancelled = true ↔ p.token.cancelled = true ∨ move = .call .cancel := by
  obtain ⟨c, rfl, rfl⟩ | ⟨i, a, m, t, s, rfl, -, hact, rfl⟩ := step_cases hstep
  · rw [call, Call.touch_cancelled, Move.call.injEq]
  · obtain ⟨_, _, -, ⟨-, -, rfl, -⟩ | ⟨rfl, -⟩⟩ := m.act_cases hact <;> simp

theorem step_answered {a : Answer α} (hstep : p.step move = some q) (hi : p.made[i]? = some ⟨c, .answered a⟩) :
    q.made[i]? = some ⟨c, .answered a⟩ := by
  obtain ⟨c', -, rfl⟩ | ⟨j, b, m, t, s, -, hm, hact, rfl⟩ := step_cases hstep
  · exact List.getElem?_append_left (List.getElem?_eq_some_iff.1 hi).1 |>.trans hi
  · obtain ⟨_, _, hpending, -⟩ := m.act_cases hact
    have hij : j ≠ i := by
      rintro rfl
      cases hi.symm.trans hm
      cases hpending
    rw [List.getElem?_set_ne hij, hi]

theorem play_cons (p : Pool α) (move : Move α) (moves : List (Move α)) :
    p.play (move :: moves) = (p.step move).bind fun q => q.play moves := rfl

theorem play_cons_iff {r : Pool α} :
    p.play (move :: moves) = some r ↔ ∃ q, p.step move = some q ∧ q.play moves = some r := by
  rw [play_cons, Option.bind_eq_some_iff]

theorem play_concat (p : Pool α) (moves : List (Move α)) (move : Move α) :
    p.play (moves ++ [move]) = (p.play moves).bind fun q => q.step move := by
  simp only [play, List.foldlM_append, List.foldlM_cons, List.foldlM_nil, bind_pure]
  rfl

theorem play_keeps {P : Pool α → Prop} (hstep : ∀ p move q, P p → p.step move = some q → P q)
    (hp : P p) (h : p.play moves = some q) : P q := by
  induction moves generalizing p with
  | nil =>
      cases h
      exact hp
  | cons move moves ih =>
      obtain ⟨p', hp', h⟩ := play_cons_iff.1 h
      exact ih (hstep p move p' hp hp') h

theorem Sound.play (h : p.Sound) (hplay : p.play moves = some q) : q.Sound :=
  play_keeps (fun _ _ _ hp hstep => hp.step hstep) h hplay

theorem play_answered {a : Answer α} (hplay : p.play moves = some q) (hi : p.made[i]? = some ⟨c, .answered a⟩) :
    q.made[i]? = some ⟨c, .answered a⟩ :=
  play_keeps (P := fun p => p.made[i]? = some ⟨c, .answered a⟩) (fun _ _ _ hp hstep => step_answered hstep hp) hi hplay

theorem play_cancelled (h : p.play moves = some q) :
    q.token.cancelled = true ↔ p.token.cancelled = true ∨ .call .cancel ∈ moves := by
  induction moves generalizing p with
  | nil =>
      cases h
      simp
  | cons move moves ih =>
      obtain ⟨p', hp', h⟩ := play_cons_iff.1 h
      rw [ih h, step_cancelled hp', List.mem_cons, or_assoc, eq_comm (a := move)]

theorem call_late (h : p.Sound) (hc : p.token.cancelled = true) (c : Call) :
    (p.call c).made = p.made ++ [⟨c, .answered c.late⟩] := by
  rw [call, Call.begin_late h.inStep hc]

section Ending

variable {work : Work α} {r : Answer α}

theorem step_act {m : Made α} {a : Act α} {t : Token} {s : Stage α} (hi : p.made[i]? = some m)
    (hact : m.act p.token a = some (t, s)) : p.step (.act i a) = some ⟨t, p.made.set i ⟨m.call, s⟩⟩ := by
  simp [step, hi, hact]

theorem play_act {m : Made α} {a : Act α} {t : Token} {s : Stage α} (hi : p.made[i]? = some m)
    (hact : m.act p.token a = some (t, s)) :
    p.play (.act i a :: moves) = (⟨t, p.made.set i ⟨m.call, s⟩⟩ : Pool α).play moves := by
  rw [play_cons, step_act hi hact, Option.bind_some]

theorem getElem?_set_made {m m' : Made α} (hi : p.made[i]? = some m) : (p.made.set i m')[i]? = some m' :=
  List.getElem?_set_self (List.getElem?_eq_some_iff.1 hi).1

variable (hr : c.resume false .heard work = some r)
include hr

theorem play_heard (hi : p.made[i]? = some ⟨c, .pending .heard work⟩) :
    p.play [.act i (.resumes false)] = some ⟨p.token, p.made.set i ⟨c, .answered r⟩⟩ := by
  rw [play_act hi (s := .answered r) (by rw [Made.act, hr, Option.map_some])]
  rfl

theorem play_listening (hs : p.token.isSignalled = true) (hi : p.made[i]? = some ⟨c, .pending .listening work⟩) :
    p.play [.act i .hears, .act i (.resumes false)] = some ⟨p.token, p.made.set i ⟨c, .answered r⟩⟩ := by
  have hact : Made.act p.token ⟨c, .pending .listening work⟩ .hears = some (p.token, .pending .heard work) :=
    if_pos hs
  rw [play_act hi hact, play_heard hr (getElem?_set_made hi), List.set_set]

theorem play_idle (hs : p.token.listen.isSignalled = true) (hi : p.made[i]? = some ⟨c, .pending .idle work⟩) :
    p.play [.act i .listens, .act i .hears, .act i (.resumes false)] =
      some ⟨p.token.listen, p.made.set i ⟨c, .answered r⟩⟩ := by
  rw [play_act hi rfl, play_listening hr hs (getElem?_set_made hi), List.set_set]

end Ending

theorem Sound.exists_play {ear : Ear} {work : Work α} (h : p.Sound) (hc : p.token.cancelled = true)
    (hi : p.made[i]? = some ⟨c, .pending ear work⟩) :
    ∃ acts r q, acts <:+ [.listens, .hears, .resumes false] ∧ p.play (acts.map (.act i)) = some q ∧
      q.made = p.made.set i ⟨c, .answered r⟩ ∧ c.resume false .heard work = some r ∧ (work = .never → r = c.late) := by
  have hm := h.made _ (List.mem_of_getElem? hi)
  obtain ⟨hcancel, hcheck⟩ := hm.waits _ _ rfl
  obtain ⟨r, hr, hlate⟩ := Call.resume_heard hcancel hcheck work
  cases ear with
  | heard => exact ⟨[.resumes false], r, _, ⟨[.listens, .hears], rfl⟩, play_heard hr hi, rfl, hr, hlate⟩
  | listening =>
      obtain ⟨x, hx⟩ := Option.isSome_iff_exists.1 (hm.listening work rfl)
      have hs := (isSignalled_of_inStep h.inStep hx).trans hc
      exact ⟨[.hears, .resumes false], r, _, ⟨[.listens], rfl⟩, play_listening hr hs hi, rfl, hr, hlate⟩
  | idle =>
      have hs := h.inStep.isSignalled_listen.trans hc
      exact ⟨_, r, _, List.suffix_refl _, play_idle hr hs hi, rfl, hr, hlate⟩

end Pool

def Raced.stage {α : Type} : Raced α → Stage α
  | .value a => .answered (.value a)
  | .failure a => .answered (.failure a)
  | .cancelled => .answered .cancelled
  | .timedOut limit => .answered (.timedOut limit)
  | .waiting => .pending .listening .never

section Alone

open Pool

variable {α : Type} {t t' t'' : Token} {c : Call} {cancels : Bool} {s s' : Stage α}

/-- The call is made first and goes on by itself until it has come so far and the token is left so; meanwhile nothing
happens but that the token may be cancelled. -/
def Comes (t : Token) (c : Call) (cancels : Bool) (t' : Token) (s : Stage α) : Prop :=
  ∃ (rest : List (Move α)) (q : Pool α), (∀ other, .call other ∈ rest → other = .cancel ∧ cancels = true) ∧
    ((start t).call c).play rest = some q ∧ q.token = t' ∧ q.made[0]? = some ⟨c, s⟩

theorem Comes.begun : Comes t c cancels (c.touch t) (c.begin t : Stage α) :=
  ⟨[], (start t).call c, nofun, rfl, rfl, rfl⟩

theorem Comes.disturb (h : Comes t c cancels t' s) : Comes t c cancels (t'.disturb cancels) s := by
  cases cancels with
  | false => exact h
  | true =>
      obtain ⟨rest, q, hrest, hplay, rfl, hmade⟩ := h
      refine ⟨rest ++ [.call .cancel], q.call .cancel, fun c hc => ?_, ?_, rfl, ?_⟩
      · obtain hc | hc := List.mem_append.1 hc
        · exact hrest c hc
        · cases List.mem_singleton.1 hc
          exact ⟨rfl, rfl⟩
      · rw [play_concat, hplay]
        rfl
      · exact (List.getElem?_append_left (List.getElem?_eq_some_iff.1 hmade).1).trans hmade

theorem Comes.act {a : Act α} (h : Comes t c cancels t' s) (hact : Made.act t' ⟨c, s⟩ a = some (t'', s')) :
    Comes t c cancels t'' s' := by
  obtain ⟨rest, q, hrest, hplay, rfl, hmade⟩ := h
  refine ⟨rest ++ [.act 0 a], ⟨t'', q.made.set 0 ⟨c, s'⟩⟩, ?_, ?_, rfl, getElem?_set_made hmade⟩
  · simpa using hrest
  · rw [play_concat, hplay, Option.bind_some, step_act hmade hact]

theorem disturb_isSignalled (h : t.isSignalled = true) : (t.disturb cancels).isSignalled = true := by
  cases cancels with
  | false => exact h
  | true =>
      rw [isSignalled, beq_iff_eq] at h
      simp [Token.disturb, cancel, isSignalled, h]

theorem wait_comes (t : Token) (cancels : Bool) : Comes t .wait cancels (t.wait cancels).2
    (if (t.wait cancels).1 then .answered .returned else .pending .listening .never : Stage α) := by
  have h : Comes t .wait cancels (t.wait cancels).2 (Call.wait.begin t : Stage α) := Comes.begun.disturb
  rw [Call.begin] at h
  split at h
  case isTrue hs =>
      rw [if_pos]
      · exact h
      · exact disturb_isSignalled hs
  case isFalse =>
      split
      case isTrue hw => exact (h.act (a := .hears) (if_pos hw)).act (a := .resumes false) rfl
      case isFalse => exact h

theorem sleep_comes (t : Token) (seconds : Number) (cancels : Bool) :
    Comes t (.sleep seconds) cancels (t.sleep cancels) (.answered .returned : Stage α) := by
  have h : Comes t (.sleep seconds) cancels t ((Call.sleep seconds).begin t : Stage α) := Comes.begun
  rw [Call.begin] at h
  rw [sleep]
  split at h
  case isTrue hc =>
      rw [if_pos hc]
      exact h
  case isFalse hc =>
      rw [if_neg hc]
      exact (h.act (a := .listens) rfl).disturb.act (a := .resumes true) rfl

theorem race_comes (t : Token) (limit : Option Number) (cancels : Bool) (work : Work α) :
    Comes t (.race limit) cancels (t.race limit cancels work).2 (t.race limit cancels work).1.stage := by
  have h : Comes t (.race limit) cancels t ((Call.race limit).begin t : Stage α) := Comes.begun
  rw [Call.begin] at h
  rw [race]
  split at h
  case isTrue hc =>
      rw [if_pos hc]
      exact h
  case isFalse hc =>
      rw [if_neg hc]
      have h := h.disturb.act (a := .listens) rfl
      cases work with
      | value a => exact (h.act (a := .works (.value a)) rfl).act (a := .resumes false) rfl
      | failure a => exact (h.act (a := .works (.failure a)) rfl).act (a := .resumes false) rfl
      | never =>
          dsimp only
          split
          case isTrue hs => exact (h.act (a := .hears) (if_pos hs)).act (a := .resumes false) rfl
          case isFalse =>
              cases limit with
              | some limit => exact h.act (a := .resumes true) rfl
              | none => exact h

theorem Comes.ne_cancelled (h : Comes t c false t' s) (ht : t.InStep) (hc : t.cancelled = false)
    (hcall : c ≠ .cancel) : s ≠ .answered .cancelled := by
  rintro rfl
  obtain ⟨rest, q, hrest, hplay, -, hmade⟩ := h
  have hplay : (start t).play (.call c :: rest) = some q := hplay
  have hq := (((sound_start ht).play hplay).made _ (List.mem_of_getElem? hmade)).answered rfl
  obtain hq | hq := (play_cancelled hplay).1 hq
  · exact Bool.false_ne_true (hc.symm.trans hq)
  · obtain hq | hq := List.mem_cons.1 hq
    · cases hq
      exact hcall rfl
    · exact Bool.false_ne_true (hrest _ hq).2

end Alone

namespace Pool

/-- Whatever is asked of a token and in whatever order its calls go on, the signal says what the mark says, and the
mark that there was a cancelling. After it every call is answered at once and every pending call can end, whatever it
waits for; without it nothing is refused. -/
theorem cancelling_kept {α : Type} {moves : List (Move α)} {p : Pool α}
    (h : (start fresh).play moves = some p) :
    p.token.InStep ∧ (p.token.cancelled = true ↔ .call .cancel ∈ moves) ∧
    (∀ later q, p.play later = some q →
      (∀ (i : Nat) c a, p.made[i]? = some ⟨c, .answered a⟩ → q.made[i]? = some ⟨c, .answered a⟩) ∧
      (p.token.cancelled = true → q.token.cancelled = true)) ∧
    (p.token.cancelled = true →
      (∀ c, (p.call c).made = p.made ++ [⟨c, .answered c.late⟩]) ∧
      (∀ (i : Nat) c ear work, p.made[i]? = some ⟨c, .pending ear work⟩ →
        ∃ acts r q, acts <:+ [.listens, .hears, .resumes false] ∧ p.play (acts.map (.act i)) = some q ∧
          q.made = p.made.set i ⟨c, .answered r⟩ ∧
          c.resume false .heard work = some r ∧ (work = .never → r = c.late)) ∧
      ∀ cancels, (p.token.wait cancels).1 = true ∧ p.token.sleep cancels = p.token ∧
        ∀ limit (work : Work α), p.token.race limit cancels work = (.cancelled, p.token)) ∧
    (p.token.cancelled = false →
      (∀ m ∈ p.made, m.stage ≠ .answered .cancelled) ∧
      ∀ limit (work : Work α), (p.token.race limit false work).1 ≠ .cancelled) := by
  have hsound : p.Sound := (sound_start inStep_fresh).play h
  have hmark : p.token.cancelled = true ↔ .call .cancel ∈ moves := by
    simpa [start, fresh] using play_cancelled h
  refine ⟨hsound.inStep, hmark, fun later q hlater => ⟨fun i c a hi => play_answered hlater hi, fun hc => ?_⟩,
    fun hc => ⟨?_, ?_, ?_⟩, fun hc => ⟨?_, ?_⟩⟩
  · exact (play_cancelled hlater).2 (.inl hc)
  · exact call_late hsound hc
  · exact fun i c ear work hi => hsound.exists_play hc hi
  · intro cancels
    have hs := hsound.inStep.isSignalled_listen.trans hc
    exact ⟨disturb_isSignalled hs, if_pos hc, fun limit work => if_pos hc⟩
  · intro m hm hs
    exact Bool.false_ne_true (hc.symm.trans ((hsound.made m hm).answered hs))
  · intro limit work hrace
    have hcall : Call.race limit ≠ .cancel := by simp
    refine (race_comes p.token limit false work).ne_cancelled hsound.inStep hc hcall ?_
    rw [hrace]
    rfl

theorem cancelling_kept_midway : ∃ p : Pool Nat,
    (start fresh).play [.call (.race none), .act 0 .listens, .call (.sleep (.whole 5)), .call .cancel] = some p ∧
      p.token = ⟨true, some true⟩ ∧ (p.call (.race none)).made = p.made ++ [⟨.race none, .answered .cancelled⟩] ∧
      (∃ moves q, p.play moves = some q ∧ q.made[0]? = some ⟨.race none, .answered .cancelled⟩) ∧
      ∃ moves q, p.play moves = some q ∧ q.made[1]? = some ⟨.sleep (.whole 5), .answered .returned⟩ := by
  have hplay : (start fresh).play [.call (.race none), .act 0 .listens, .call (.sleep (.whole 5)), .call .cancel] =
    some (_ : Pool Nat) := rfl
  obtain ⟨-, -, -, hcancelled, -⟩ := cancelling_kept hplay
  obtain ⟨hlate, hend, -⟩ := hcancelled rfl
  refine ⟨_, hplay, rfl, hlate _, ?_, ?_⟩
  · obtain ⟨acts, r, q, -, hplay, hmade, -, hr⟩ := hend 0 _ _ _ rfl
    exact ⟨_, q, hplay, by rw [hmade, hr rfl]; rfl⟩
  · obtain ⟨acts, r, q, -, hplay, hmade, -, hr⟩ := hend 1 _ _ _ rfl
    exact ⟨_, q, hplay, by rw [hmade, hr rfl]; rfl⟩

end Pool

end Token

end Terminal
