import Terminal.Proofs.Commands.Footprint
import Terminal.Proofs.Table

namespace Terminal

namespace Registry

inductive Built : Registry → Prop
  | empty : Built .empty
  | add {r r' : Registry} (c : Command) : Built r → r.add c = .ok r' → Built r'
  | addAlias {r r' : Registry} (name existing : String) (description : Option String) :
      Built r → r.addAlias name existing description = .ok r' → Built r'
  | freeze {r : Registry} : Built r → Built r.freeze

variable {r r' : Registry}

theorem pairwise_add (h : r.names.Pairwise (· < ·)) {c : Command} (hadd : r.add c = .ok r') :
    r'.names.Pairwise (· < ·) := by
  rw [Registry.add] at hadd
  split at hadd
  · cases hadd
  · cases hadd
    exact Table.pairwise_put h c.info.name c

namespace Built

theorem pairwise_names (h : r.Built) : r.names.Pairwise (· < ·) := by
  induction h with
  | empty => exact .nil
  | add c _ hadd ih => exact pairwise_add ih hadd
  | addAlias name existing description _ hadd ih =>
      rw [Registry.addAlias] at hadd
      split at hadd
      · cases hadd
      · split at hadd
        · cases hadd
          exact ih
        · exact pairwise_add ih hadd
  | freeze _ ih => exact ih

theorem addAll (h : r.Built) {cs : List Command} (hadd : r.addAll cs = .ok r') : r'.Built :=
  foldlM_keeps (Q := Built) (fun c _ _ _ hr hc => hr.add c hc) h hadd

theorem addAliases (h : r.Built) {names : List (String × String × Option String)} (hadd : r.addAliases names = .ok r') :
    r'.Built :=
  foldlM_keeps (Q := Built) (fun e _ _ _ hr he => hr.addAlias e.1 e.2.1 e.2.2 he) h hadd

end Built

theorem built_builtin : builtin.Built := by
  have hstandard : standard.Built := by
    dsimp only [standard]
    split
    · rename_i r hr
      rw [Except.bind.eq_def] at hr
      split at hr
      · cases hr
      · rename_i r₁ hr₁
        exact (Built.empty.addAll hr₁).addAliases hr
    · exact .empty
  exact hstandard.freeze

end Registry

end Terminal
