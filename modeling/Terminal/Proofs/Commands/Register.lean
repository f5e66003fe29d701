import Mathlib.Data.List.Basic
import Terminal.Proofs.Commands.Catalogue

namespace Terminal

namespace Registry

inductive Request where
  | add (c : Command)
  | addAlias (name existing : String) (description : Option String)
  | freeze

def serve (r : Registry) : Request → Except RegistryError Registry
  | .add c => r.add c
  | .addAlias name existing description => r.addAlias name existing description
  | .freeze => .ok r.freeze

def served (r : Registry) (call : Request) : Registry := (r.serve call).toOption.getD r

def run (r : Registry) (calls : List Request) : Registry := calls.foldl served r

/-- The command that a call takes up, as it is then. -/
def taken? (r : Registry) : Request → Option Command
  | .add c => if r.frozen then none else some c
  | .addAlias name existing description =>
      if r.frozen then none else (r.get? existing).map (aliasOf name description)
  | .freeze => none

def taken : Registry → List Request → List Command
  | _, [] => []
  | r, call :: calls => (r.taken? call).toList ++ taken (r.served call) calls

def lastNamed (name : String) (cs : List Command) : Option Command :=
  (cs.filter fun c => c.info.name = name).getLast?

variable {r : Registry}

@[simp] theorem run_nil : r.run [] = r := rfl

@[simp] theorem run_cons (call : Request) (calls : List Request) : r.run (call :: calls) = (r.served call).run calls := rfl

theorem run_append (calls more : List Request) : r.run (calls ++ more) = (r.run calls).run more :=
  List.foldl_append

theorem lastNamed_append (name : String) (cs more : List Command) :
    lastNamed name (cs ++ more) = (lastNamed name more).or (lastNamed name cs) := by
  rw [lastNamed, List.filter_append, List.getLast?_append]
  rfl

section Frozen

variable (h : r.frozen = true)

include h

theorem add_of_frozen (c : Command) : r.add c = .error .frozen := if_pos h

theorem addAlias_of_frozen (name existing : String) (description : Option String) :
    r.addAlias name existing description = .error .frozen := if_pos h

theorem served_of_frozen (call : Request) : r.served call = r := by
  cases call with
  | add c => rw [served, serve, add_of_frozen h]; rfl
  | addAlias name existing description => rw [served, serve, addAlias_of_frozen h]; rfl
  | freeze =>
      obtain ⟨commands, frozen⟩ := r
      cases h
      rfl

theorem run_of_frozen (calls : List Request) : r.run calls = r := by
  induction calls with
  | nil => rfl
  | cons call calls ih => rw [run_cons, served_of_frozen h, ih]

end Frozen

theorem frozen_run {calls : List Request} (h : .freeze ∈ calls) : (r.run calls).frozen = true := by
  obtain ⟨before, later, rfl⟩ := List.append_of_mem h
  have hfrozen : ((r.run before).served .freeze).frozen = true := rfl
  rw [run_append, run_cons, run_of_frozen hfrozen, hfrozen]

theorem add_of_open (h : r.frozen = false) (c : Command) :
    r.add c = .ok { r with commands := r.commands.put c.info.name c } := by
  rw [add, h]
  rfl

theorem addAlias_of_open (h : r.frozen = false) (name existing : String) (description : Option String) :
    r.addAlias name existing description =
      match r.get? existing with
      | none => .ok r
      | some c => .ok { r with commands := r.commands.put name (aliasOf name description c) } := by
  rw [addAlias, if_neg (by simp [h])]
  cases r.get? existing with
  | none => rfl
  | some c => exact add_of_open h (aliasOf name description c)

theorem get?_served (r : Registry) (call : Request) (n : String) :
    (r.served call).get? n = (lastNamed n (r.taken? call).toList).or (r.get? n) := by
  have hput (c : Command) :
      Table.get? (r.commands.put c.info.name c) n = (lastNamed n [c]).or (r.get? n) := by
    by_cases hn : c.info.name = n
    · subst hn
      simp [lastNamed]
    · rw [Table.get?_put_of_ne _ _ hn]
      simp [lastNamed, hn, get?]
  cases hfrozen : r.frozen with
  | true =>
      rw [served_of_frozen hfrozen]
      cases call <;> simp [taken?, hfrozen, lastNamed]
  | false =>
      cases call with
      | add c =>
          rw [served, serve, add_of_open hfrozen, taken?, hfrozen]
          exact hput c
      | addAlias name existing description =>
          rw [served, serve, addAlias_of_open hfrozen, taken?, hfrozen]
          cases r.get? existing with
          | none => rfl
          | some c => exact hput (aliasOf name description c)
      | freeze => rfl

theorem get?_run (r : Registry) (calls : List Request) (n : String) :
    (r.run calls).get? n = (lastNamed n (r.taken calls)).or (r.get? n) := by
  induction calls generalizing r with
  | nil => rfl
  | cons call calls ih => rw [run_cons, ih, get?_served, taken, lastNamed_append, Option.or_assoc]

theorem Built.served (h : r.Built) (call : Request) : (r.served call).Built := by
  rw [Registry.served]
  cases hcall : r.serve call with
  | error e => exact h
  | ok r' =>
      cases call with
      | add c => exact h.add c hcall
      | addAlias name existing description => exact h.addAlias name existing description hcall
      | freeze =>
          cases hcall
          exact h.freeze

theorem Built.run (h : r.Built) (calls : List Request) : (r.run calls).Built := by
  induction calls generalizing r with
  | nil => exact h
  | cons call calls ih => exact ih (h.served call)

theorem Built.named (h : r.Built) : r.Holds fun name c => c.info.name = name := by
  induction h with
  | empty => exact holds_empty
  | add c _ hadd ih => exact ih.add rfl hadd
  | addAlias name existing description _ hadd ih =>
      rw [Registry.addAlias] at hadd
      split at hadd
      · cases hadd
      · split at hadd
        · cases hadd
          exact ih
        · exact ih.add rfl hadd
  | freeze _ ih => exact ih

theorem get?_alias (h : r.frozen = false) {name existing : String} {description : Option String} {c : Command}
    (hbase : r.get? existing = some c) {later : List Request}
    (hkept : ∀ d ∈ (r.served (.addAlias name existing description)).taken later, d.info.name ≠ name) :
    ((r.served (.addAlias name existing description)).run later).get? name = some (aliasOf name description c) := by
  have hlater : lastNamed name ((r.served (.addAlias name existing description)).taken later) = none := by
    rw [lastNamed, List.filter_eq_nil_iff.2 fun d hd => by simpa using hkept d hd]
    rfl
  rw [get?_run, hlater, get?_served, taken?, h, hbase]
  simp [lastNamed, aliasOf]

/-- Whatever is called in whatever order: names and commands agree, an alias stays what its base was,
and nothing happens after the first `freeze`. -/
theorem registry_after_calls (calls : List Request) :
    let r := empty.run calls
    (∀ n c, r.get? n = some c → c.info.name = n) ∧
    (r.names.Pairwise (· < ·) ∧ r.names.length = r.size ∧ ∀ n, n ∈ r.names ↔ (r.get? n).isSome) ∧
    (r.names.map r.get? = r.commands.map (fun e => some e.2) ∧ r.infos.map (·.name) = r.names) ∧
    (∀ n, r.get? n = lastNamed n (empty.taken calls)) ∧
    (r.frozen = false → ∀ name existing description,
      (r.get? existing = none → r.addAlias name existing description = .ok r) ∧
      ∀ base, r.get? existing = some base → ∃ r', r.addAlias name existing description = .ok r' ∧
        (aliasOf name description base).handler = base.handler ∧
        (aliasOf name description base).info.usage = base.info.usage ∧
        ∀ later : List Request, (∀ c ∈ r'.taken later, c.info.name ≠ name) →
          (r'.run later).get? name = some (aliasOf name description base)) ∧
    (.freeze ∈ calls →
      (∀ c, r.add c = .error .frozen) ∧
      (∀ name existing description, r.addAlias name existing description = .error .frozen) ∧
      ∀ later, r.run later = r) := by
  intro r
  have hbuilt : r.Built := Built.empty.run calls
  have hsorted : r.names.Pairwise (· < ·) := hbuilt.pairwise_names
  have hnamed : ∀ n c, r.get? n = some c → c.info.name = n := hbuilt.named
  refine ⟨hnamed, ⟨hsorted, List.length_map .., fun n => Table.isSome_get?_iff.symm⟩,
    ⟨Table.map_get?_keys hsorted, ?_⟩, fun n => ?_, fun hopen name existing description => ⟨fun hnone => ?_,
      fun base hbase => ?_⟩, fun hfreeze => ?_⟩
  · rw [infos, List.map_map]
    exact List.map_congr_left fun e he => hnamed e.1 e.2 (Table.get?_of_mem hsorted he)
  · exact (get?_run empty calls n).trans (Option.or_none ..)
  · rw [addAlias_of_open hopen, hnone]
  · obtain ⟨r', hr'⟩ : ∃ r', r.addAlias name existing description = .ok r' := by
      rw [addAlias_of_open hopen, hbase]
      exact ⟨_, rfl⟩
    have hserved : r.served (.addAlias name existing description) = r' := by
      rw [served, serve, hr']
      rfl
    refine ⟨r', hr', rfl, rfl, fun later hkept => ?_⟩
    subst hserved
    exact get?_alias hopen hbase hkept
  · have hfrozen : r.frozen = true := frozen_run hfreeze
    exact ⟨add_of_frozen hfrozen, addAlias_of_frozen hfrozen, run_of_frozen hfrozen⟩

def replaced : List Request :=
  let go (usage : String) : Command := ⟨⟨"go", "Go", some usage⟩, fun _ => .done none⟩
  [.add (go "go old"), .addAlias "g" "go" none, .addAlias "gg" "g" none, .addAlias "x" "unknown" none,
    .add (go "go new"), .freeze, .add (go "go late")]

theorem registry_after_replaced :
    (empty.run replaced).names = ["g", "gg", "go"] ∧
    (empty.run replaced).infos.map (·.usage) = [some "go old", some "go old", some "go new"] ∧
    (empty.run replaced).infos.map (·.name) = (empty.run replaced).names ∧
    ∀ later, (empty.run replaced).run later = empty.run replaced :=
  ⟨by decide +kernel, by decide +kernel, (registry_after_calls replaced).2.2.1.2,
    ((registry_after_calls replaced).2.2.2.2.2 (by simp [replaced])).2.2⟩

end Registry

end Terminal
