import Mathlib.Data.List.DropRight
import Mathlib.Data.List.Infix
import Terminal.Log

namespace Terminal

def LogEntry.Meets (least : Option Level) (source : Option String) (e : LogEntry) : Prop :=
  (∀ level ∈ least, level.rank ≤ e.level.rank) ∧ ∀ name ∈ source, name = e.source

instance (least : Option Level) (source : Option String) : DecidablePred (LogEntry.Meets least source) := fun e =>
  inferInstanceAs (Decidable ((∀ level ∈ least, level.rank ≤ e.level.rank) ∧ ∀ name ∈ source, name = e.source))

namespace Log

inductive Request where
  | add (e : LogEntry)
  | clear

def Request.entry? : Request → Option LogEntry
  | add e => some e
  | clear => none

def serve (l : Log) : Request → Log
  | .add e => l.add e
  | .clear => l.clear

def run (l : Log) (calls : List Request) : Log := calls.foldl serve l

/-- The entries that the calls add after the last clearing, oldest first. -/
def added (calls : List Request) : List LogEntry :=
  (calls.rtakeWhile fun call => call.entry?.isSome).filterMap Request.entry?

def narrow (least : Option Level) (source : Option String) (l : Log) : Log :=
  { l with entries := l.select least source }

variable {l : Log} {kept : List LogEntry}

theorem run_concat (l : Log) (calls : List Request) (call : Request) :
    l.run (calls ++ [call]) = (l.run calls).serve call := List.foldl_concat ..

@[simp] theorem added_add (calls : List Request) (e : LogEntry) : added (calls ++ [.add e]) = added calls ++ [e] := by
  rw [added, List.rtakeWhile_concat_pos _ _ _ rfl, List.filterMap_append]
  rfl

@[simp] theorem added_clear (calls : List Request) : added (calls ++ [.clear]) = [] := by
  rw [added, List.rtakeWhile_concat_neg _ _ _ (by simp [Request.entry?])]
  rfl

@[simp] theorem newest_nil (capacity : Option Nat) : newest capacity [] = [] := by
  cases capacity with
  | none => rfl
  | some n => exact List.drop_nil

theorem newest_suffix (capacity : Option Nat) (entries : List LogEntry) : newest capacity entries <:+ entries := by
  cases capacity with
  | none => exact List.suffix_refl entries
  | some n => exact List.drop_suffix _ _

theorem length_newest (n : Nat) (entries : List LogEntry) :
    (newest (some n) entries).length = min n entries.length := by
  rw [newest, List.length_drop]
  omega

theorem newest_concat (capacity : Option Nat) (entries : List LogEntry) (e : LogEntry) :
    newest capacity (newest capacity entries ++ [e]) = newest capacity (entries ++ [e]) := by
  cases capacity with
  | none => rfl
  | some n =>
      obtain ⟨gone, hgone⟩ := newest_suffix (some n) entries
      have hsuffix : newest (some n) entries ++ [e] <:+ entries ++ [e] :=
        ⟨gone, by rw [← List.append_assoc, hgone]⟩
      have hlength : (newest (some n) (newest (some n) entries ++ [e])).length =
          (newest (some n) (entries ++ [e])).length := by
        simp only [length_newest, List.length_append, List.length_singleton]
        omega
      -- both are ends of the same list
      have hends := List.suffix_of_suffix_length_le ((newest_suffix _ _).trans hsuffix)
        (newest_suffix _ (entries ++ [e])) hlength.le
      exact hends.eq_of_length hlength

theorem run_empty (capacity : Option Nat) (calls : List Request) :
    (empty capacity).run calls = ⟨capacity, newest capacity (added calls)⟩ := by
  induction calls using List.reverseRecOn with
  | nil =>
      rw [added, List.rtakeWhile_nil, List.filterMap_nil, newest_nil]
      rfl
  | append_singleton calls call ih =>
      rw [run_concat, ih]
      cases call with
      | add e => rw [serve, add, newest_concat, added_add]
      | clear => rw [serve, clear, added_clear, newest_nil]

theorem start_of_nonneg (n : Nat) :
    start (some (n : Int)) = if (n : Int) ≤ capacityLimit then .ok (empty (some n)) else .error .capacityTooLarge := by
  have hlimit : (0 : Int) ≤ capacityLimit := by decide
  rw [start]
  by_cases hn : (n : Int) ≤ capacityLimit
  · rw [if_pos hn, if_neg (by omega), if_neg (by omega), Int.toNat_natCast]
  · rw [if_neg hn, if_pos (by omega)]

section Select

variable {least : Option Level} {source : Option String}

theorem select_eq (l : Log) : l.select least source = l.entries.filter fun e => e.Meets least source := by
  refine List.filter_congr fun e _ => ?_
  cases least <;> cases source <;> simp [LogEntry.Meets, beq_eq_decide]

theorem sublist_select_iff :
    kept.Sublist (l.select least source) ↔ kept.Sublist l.entries ∧ ∀ e ∈ kept, e.Meets least source := by
  rw [select_eq]
  constructor
  · intro h
    refine ⟨h.trans List.filter_sublist, fun e he => ?_⟩
    simpa using (List.mem_filter.1 (h.subset he)).2
  · rintro ⟨hkept, hmeets⟩
    have hself : kept.filter (fun e => e.Meets least source) = kept :=
      List.filter_eq_self.2 fun e he => decide_eq_true (hmeets e he)
    rw [← hself]
    exact hkept.filter _

theorem select_narrow (l : Log) (least' : Option Level) (source' : Option String) :
    (l.narrow least source).select least' source' =
      l.entries.filter fun e => e.Meets least' source' ∧ e.Meets least source := by
  rw [select_eq, narrow, select_eq, List.filter_filter]
  simp only [Bool.decide_and]

theorem select_narrow_least (l : Log) :
    (l.narrow least none).select none source = l.select least source := by
  rw [select_narrow, select_eq]
  simp [LogEntry.Meets, and_comm]

theorem select_narrow_source (l : Log) :
    (l.narrow none source).select least none = l.select least source := by
  rw [select_narrow, select_eq]
  simp [LogEntry.Meets]

end Select

/-- Whatever is added and cleared, the log holds the end of what was added since it was last cleared, as much of it as
there is room for. What is selected is all that meets the criteria, and either criterion selects it from what the other
one has selected. -/
theorem newest_held (m : Nat) (calls : List Request) :
    start (some (m : Int)) = (if (m : Int) ≤ capacityLimit then .ok (empty (some m)) else .error .capacityTooLarge) ∧
    ∃ l, (empty (some m)).run calls = l ∧
      l.entries <:+ added calls ∧ l.entries.length = min m (added calls).length ∧ l.size = l.entries.length ∧
      ∀ (least : Option Level) (source : Option String),
        (∀ kept : List LogEntry, kept.Sublist (l.select least source) ↔
          kept.Sublist l.entries ∧ ∀ e ∈ kept, e.Meets least source) ∧
        (l.narrow least none).select none source = l.select least source ∧
        (l.narrow none source).select least none = l.select least source := by
  have hentries : ((empty (some m)).run calls).entries = newest (some m) (added calls) := by rw [run_empty]
  refine ⟨start_of_nonneg m, _, rfl, ?_, ?_, rfl, fun least source => ⟨fun kept => sublist_select_iff, ?_, ?_⟩⟩
  · rw [hentries]
    exact newest_suffix _ _
  · rw [hentries, length_newest]
  · exact select_narrow_least _
  · exact select_narrow_source _

end Log

end Terminal
