import Mathlib.Data.List.TakeWhile
import Terminal.Proofs.Commands.Excerpt
import Terminal.Proofs.Text.Fields

namespace Terminal

open Commands

namespace Arguments

def leadingDigits (text : String) : List Char :=
  (sign (text.toList.dropWhile Text.isBlank)).2.takeWhile Text.isDigit

def written? (text : String) : Option Int :=
  let digits := leadingDigits text
  let n : Int := Text.readDigits digits
  if digits.isEmpty then none
  else some (if (sign (text.toList.dropWhile Text.isBlank)).1 then -n else n)

/-- The value is missing, or it does not begin with a number, or with one that is not positive. -/
def Unfit (value : Option String) : Prop := ∀ n, value.bind written? = some n → n ≤ 0

theorem leadingInt_eq (text : String) : leadingInt text =
    if digitLimit < (leadingDigits text).length then .error (.tooManyDigits (leadingDigits text).length)
    else .ok (written? text) := by
  have hopen : leadingInt text =
      if (leadingDigits text).isEmpty then .ok none
      else if digitLimit < (leadingDigits text).length then .error (.tooManyDigits (leadingDigits text).length)
      else .ok (some (if (sign (text.toList.dropWhile Text.isBlank)).1 then -(Text.readDigits (leadingDigits text) : Int)
        else Text.readDigits (leadingDigits text))) := rfl
  rw [hopen, written?]
  cases leadingDigits text with
  | nil => rfl
  | cons c cs => rfl

theorem leadingInt_of_many {text : String} (h : digitLimit < (leadingDigits text).length) :
    leadingInt text = .error (.tooManyDigits (leadingDigits text).length) := by
  rw [leadingInt_eq, if_pos h]

theorem leadingInt_of_few {text : String} (h : (leadingDigits text).length ≤ digitLimit) :
    leadingInt text = .ok (written? text) := by
  rw [leadingInt_eq, if_neg (Nat.not_lt.2 h)]

end Arguments

namespace Commands

section Numbered

theorem getElem?_numbered (first : Nat) (l : List String) (i : Nat) :
    (numbered first l)[i]? = l[i]?.map fun line => toString (first + i) ++ "  " ++ line := by
  induction l generalizing first i with
  | nil => rfl
  | cons line l ih =>
      cases i with
      | zero => rfl
      | succ i => rw [numbered, List.getElem?_cons_succ, List.getElem?_cons_succ, ih, Nat.add_right_comm, Nat.add_assoc]

theorem length_numbered (first : Nat) (l : List String) : (numbered first l).length = l.length := by
  induction l generalizing first with
  | nil => rfl
  | cons line l ih => rw [numbered, List.length_cons, List.length_cons, ih]

theorem drop_numbered (first k : Nat) (l : List String) : (numbered first l).drop k = numbered (first + k) (l.drop k) := by
  induction l generalizing first k with
  | nil => simp [numbered]
  | cons line l ih =>
      cases k with
      | zero => rfl
      | succ k => rw [numbered, List.drop_succ_cons, List.drop_succ_cons, ih, Nat.add_right_comm, Nat.add_assoc]

theorem numberedTail_eq (all : List String) (count : Nat) :
    numberedTail all count = (numbered 1 all).drop (all.length - count) := by
  rw [numberedTail, drop_numbered, Nat.add_comm]

theorem numberedTail_suffix (all : List String) (count : Nat) : numberedTail all count <:+ numbered 1 all := by
  rw [numberedTail_eq]
  exact List.drop_suffix ..

theorem length_numberedTail (all : List String) (count : Nat) :
    (numberedTail all count).length = min count all.length := by
  rw [numberedTail_eq, List.length_drop, length_numbered]
  omega

end Numbered

def recounted (all : List String) : Option Int → Except Failure Result
  | none => usage historyUsage
  | some n => if n ≤ 0 then usage historyUsage else lines (numberedTail all n.toNat)

theorem recounted_of_unfit {n? : Option Int} (h : ∀ n, n? = some n → n ≤ 0) (all : List String) :
    recounted all n? = usage historyUsage := by
  cases n? with
  | none => rfl
  | some n => rw [recounted, if_pos (h n rfl)]

end Commands

namespace Session

variable {args before later : List String} {outcome : List String → Script.Outcome (Option Result)} {value : String}

theorem ends_history (hmodest : ∀ prior, (outcome prior).Modest)
    (hruns : ∀ (s : Session) prior, (Commands.history args).run (perform emit prior) s = (outcome prior, s))
    (s : Session) : s.Ends "history" args outcome s.files := by
  have hbuiltin : ∃ c, Registry.builtin.get? "history" = some c ∧ c.handler = Commands.history :=
    exists_builtin (by decide +kernel) (by decide) (by simp [builtins])
  refine ends_of_runs hbuiltin hmodest fun s' hstays _ prior => ?_
  rw [hruns, ← hstays.files]

theorem ends_history_all (h : "-n" ∉ args) (s : Session) :
    s.Ends "history" args (fun all => .done (some (.ofLines (numbered 1 all)))) s.files := by
  refine ends_history (fun _ => .done ⟨rfl, rfl⟩) (fun s prior => ?_) s
  rw [Commands.history, run_report]
  simp only [Arguments.takeOption_of_not_mem h]
  rfl

section Flag

variable (hbefore : "-n" ∉ before)
include hbefore

theorem run_history_value (value : String) (rest prior : List String) (s : Session) :
    (Commands.history (before ++ "-n" :: value :: rest)).run (perform emit prior) s =
      (.ofReport (number value >>= recounted prior), s) := by
  rw [Commands.history, run_report]
  simp only [Arguments.takeOption_append hbefore, List.head?_cons]
  rfl

theorem ends_history_last {n : Int} (hvalue : Arguments.leadingInt value = .ok (some n)) (hn : 1 ≤ n)
    (rest : List String) (s : Session) : s.Ends "history" (before ++ "-n" :: value :: rest)
      (fun all => .done (some (.ofLines (numberedTail all n.toNat)))) s.files := by
  refine ends_history (fun _ => .done ⟨rfl, rfl⟩) (fun s prior => ?_) s
  have hnumber : number value = .ok (some n) := by
    rw [number, hvalue]
    rfl
  have hrecounted : recounted prior (some n) = lines (numberedTail prior n.toNat) := by
    rw [recounted, if_neg (by omega)]
  rw [run_history_value hbefore, hnumber]
  exact congrArg (fun told => (Script.Outcome.ofReport told, s)) hrecounted

theorem ends_history_usage (hunfit : Arguments.Unfit later.head?)
    (hfew : ∀ value ∈ later.head?, (Arguments.leadingDigits value).length ≤ Arguments.digitLimit) (s : Session) :
    s.Ends "history" (before ++ "-n" :: later) (fun _ => .failed (.usage historyUsage)) s.files := by
  refine ends_history (fun _ => .failed (by simp)) (fun s prior => ?_) s
  cases later with
  | nil =>
      rw [Commands.history, run_report]
      simp only [Arguments.takeOption_append hbefore]
      rfl
  | cons value rest =>
      have hnumber : number value = .ok (Arguments.written? value) := by
        rw [number, Arguments.leadingInt_of_few (hfew value rfl)]
        rfl
      have hrecounted : recounted prior (Arguments.written? value) = usage historyUsage :=
        recounted_of_unfit hunfit prior
      rw [run_history_value hbefore, hnumber]
      exact congrArg (fun told => (Script.Outcome.ofReport told, s)) hrecounted

theorem ends_history_fault (hmany : Arguments.digitLimit < (Arguments.leadingDigits value).length)
    (rest : List String) (s : Session) : s.Ends "history" (before ++ "-n" :: value :: rest)
      (fun _ => .failed (.fault (.tooManyDigits (Arguments.leadingDigits value).length))) s.files := by
  refine ends_history (fun _ => .failed (by simp)) (fun s prior => ?_) s
  have hnumber : number value = .error (.fault (.tooManyDigits (Arguments.leadingDigits value).length)) := by
    rw [number, Arguments.leadingInt_of_many hmany]
    rfl
  rw [run_history_value hbefore, hnumber]
  rfl

theorem ends_history_usage_iff (hunfit : Arguments.Unfit later.head?) (s : Session) :
    s.Ends "history" (before ++ "-n" :: later) (fun _ => .failed (.usage historyUsage)) s.files ↔
      ∀ value ∈ later.head?, (Arguments.leadingDigits value).length ≤ Arguments.digitLimit := by
  refine ⟨fun h value hvalue => ?_, fun hfew => ends_history_usage hbefore hunfit hfew s⟩
  obtain ⟨rest, rfl⟩ := List.head?_eq_some_iff.1 hvalue
  by_contra hmany
  have hfault := ends_history_fault hbefore (Nat.not_le.1 hmany) rest s
  have hsame := congrFun (h.unique hfault).1 []
  simp at hsame

end Flag

/-- Without a count `history` prints every line before, after its place among them. With one it prints the last of what it
prints without, as many as asked for or all there are. A value that is missing, no number or not positive is answered by
the usage, unless it is written with too many digits: then that is what is told. -/
theorem history_recounted (s : Session) :
    (∀ args, "-n" ∉ args →
      s.Ends "history" args (fun all => .done (some (.ofLines (numbered 1 all)))) s.files) ∧
    (∀ (all : List String) (i : Nat),
      (numbered 1 all)[i]? = all[i]?.map fun line => toString (i + 1) ++ "  " ++ line) ∧
    ∀ before, "-n" ∉ before →
      (∀ value n rest, Arguments.leadingInt value = .ok (some n) → 1 ≤ n →
        ∃ last : List String → List String, (∀ all, last all <:+ numbered 1 all ∧
          (last all).length = min n.toNat all.length) ∧
          s.Ends "history" (before ++ "-n" :: value :: rest)
            (fun all => .done (some (.ofLines (last all)))) s.files) ∧
      (∀ later, Arguments.Unfit later.head? →
        (s.Ends "history" (before ++ "-n" :: later) (fun _ => .failed (.usage historyUsage)) s.files ↔
          ∀ value ∈ later.head?, (Arguments.leadingDigits value).length ≤ Arguments.digitLimit)) ∧
      ∀ value rest, Arguments.digitLimit < (Arguments.leadingDigits value).length →
        s.Ends "history" (before ++ "-n" :: value :: rest)
          (fun _ => .failed (.fault (.tooManyDigits (Arguments.leadingDigits value).length))) s.files := by
  refine ⟨fun args h => ends_history_all h s, fun all i => ?_, fun before hbefore => ⟨?_, ?_, ?_⟩⟩
  · rw [getElem?_numbered, Nat.add_comm]
  · intro value n rest hvalue hn
    exact ⟨fun all => numberedTail all n.toNat, fun all => ⟨numberedTail_suffix all _, length_numberedTail all _⟩,
      ends_history_last hbefore hvalue hn rest s⟩
  · exact fun later hunfit => ends_history_usage_iff hbefore hunfit s
  · exact fun value rest hmany => ends_history_fault hbefore hmany rest s

theorem whoami_recounted : (after ["pwd", "whoami"]).history = ["pwd", "whoami"] ∧
    (∃ last : List String → List String, last ["pwd", "whoami"] = ["2  whoami"] ∧
      (after ["pwd", "whoami"]).Ends "history" ["x", "-n", "1x"]
        (fun all => .done (some (.ofLines (last all)))) (after ["pwd", "whoami"]).files) ∧
    (after ["pwd", "whoami"]).Ends "history" ["x", "-n", "-1"] (fun _ => .failed (.usage historyUsage))
      (after ["pwd", "whoami"]).files := by
  have hrecounted := (history_recounted (after ["pwd", "whoami"])).2.2 ["x"] (by decide)
  obtain ⟨last, hlast, hends⟩ := hrecounted.1 "1x" 1 [] (by decide +kernel) (by decide)
  have hunfit : Arguments.Unfit ["-1"].head? := by
    have hwritten : Arguments.written? "-1" = some (-1) := by decide +kernel
    simp [Arguments.Unfit, hwritten]
  have hfew : ∀ value ∈ ["-1"].head?, (Arguments.leadingDigits value).length ≤ Arguments.digitLimit := by
    decide +kernel
  refine ⟨by decide +kernel, ⟨last, ?_, hends⟩, (hrecounted.2.1 ["-1"] hunfit).2 hfew⟩
  obtain ⟨hsuffix, hlength⟩ := hlast ["pwd", "whoami"]
  rw [List.suffix_iff_eq_drop.1 hsuffix, hlength]
  rfl

def farBelow (zeros : Nat) : String := .ofList ('-' :: '1' :: List.replicate zeros '0')

section FarBelow

variable (zeros : Nat)

theorem toList_farBelow : (farBelow zeros).toList = '-' :: '1' :: List.replicate zeros '0' := String.toList_ofList

theorem eq_of_mem_digits {c : Char} (h : c ∈ '1' :: List.replicate zeros '0') : c = '1' ∨ c = '0' :=
  (List.mem_cons.1 h).imp_right List.eq_of_mem_replicate

theorem dropBlanks_farBelow : (farBelow zeros).toList.dropWhile Text.isBlank = '-' :: '1' :: List.replicate zeros '0' := by
  rw [toList_farBelow]
  exact List.dropWhile_cons_of_neg (by decide)

theorem leadingDigits_farBelow : Arguments.leadingDigits (farBelow zeros) = '1' :: List.replicate zeros '0' := by
  have hdigits : ∀ c ∈ '1' :: List.replicate zeros '0', Text.isDigit c = true := by
    intro c hc
    rcases eq_of_mem_digits zeros hc with rfl | rfl <;> decide
  rw [Arguments.leadingDigits, dropBlanks_farBelow]
  exact List.takeWhile_eq_self_iff.2 hdigits

theorem unfit_farBelow : Arguments.Unfit (some (farBelow zeros)) := by
  intro n hn
  have hwritten : Arguments.written? (farBelow zeros) =
      some (-(Text.readDigits ('1' :: List.replicate zeros '0') : Int)) := by
    rw [Arguments.written?, leadingDigits_farBelow, dropBlanks_farBelow]
    rfl
  rw [Option.bind_some, hwritten, Option.some.injEq] at hn
  omega

theorem unbroken_farBelow : Text.Unbroken (farBelow zeros) := by
  intro c hc
  rw [toList_farBelow] at hc
  rcases List.mem_cons.1 hc with rfl | hc
  · decide
  · rcases eq_of_mem_digits zeros hc with rfl | rfl <;> decide

theorem words_farBelow : Text.words (" ".intercalate ["history", "-n", farBelow zeros]) =
    ["history", "-n", farBelow zeros] := by
  have hunbroken : ∀ word ∈ ["history", "-n", farBelow zeros], Text.Unbroken word := by
    have hname : Text.Unbroken "history" := by decide +kernel
    have hflag : Text.Unbroken "-n" := by decide +kernel
    simp [hname, hflag, unbroken_farBelow]
  have hne : farBelow zeros ≠ "" := by
    intro he
    have hnil := congrArg String.toList he
    rw [toList_farBelow] at hnil
    cases hnil
  rw [Text.words_intercalate hunbroken]
  simp [hne]

end FarBelow

/-- A number below zero that is written with too many digits is not answered by the usage. -/
theorem farBelow_not_refused : Arguments.Unfit (some (farBelow 4300)) ∧
    ∃ t, ((after []).submit (" ".intercalate ["history", "-n", farBelow 4300])).1 = .settled t ∧
      (after []).Prints ((after []).submit (" ".intercalate ["history", "-n", farBelow 4300])).2 t
        ["Exceeds the limit (4300 digits) for integer string conversion: value has 4301 digits; " ++
          "use sys.set_int_max_str_digits() to increase the limit"] := by
  have hmany : Arguments.digitLimit < (Arguments.leadingDigits (farBelow 4300)).length := by
    rw [leadingDigits_farBelow, List.length_cons, List.length_replicate]
    decide
  have hends := ends_history_fault List.not_mem_nil hmany [] (after [])
  obtain ⟨t, hsettled, -, hprints, -⟩ := hends.prints quiet_after_nil _ (words_farBelow 4300)
  rw [leadingDigits_farBelow, List.length_cons, List.length_replicate] at hprints
  refine ⟨unfit_farBelow 4300, t, hsettled, ?_⟩
  have hline : (Script.Outcome.failed (.fault (.tooManyDigits 4301))).said =
      ["Exceeds the limit (4300 digits) for integer string conversion: value has 4301 digits; " ++
        "use sys.set_int_max_str_digits() to increase the limit"] := by decide +kernel
  rw [← hline]
  exact hprints

end Session

end Terminal
