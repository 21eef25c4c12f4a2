import TankDuel.Proofs.Machine.Execution
import TankDuel.Proofs.Machine.Lifecycle

/-!
# The budget only inserts waits

A machine whose budget of operations is used up is made to wait for the next turn. This file says
that nothing else comes of the budget (`Cpu.budget_transparent`): if two machines with one program
are driven under the same sensors, whatever their budgets are, what they show apart from forced
waits is the same, step by step, and so is what they leave in the registers.

The two runs fall out of step at the first forced wait, so they are not compared with each other.
Both are compared with a third one, the **unhurried** run (`Cpu.unhurried`), in which every step is
the first one of its turn and no wait is ever forced:

* `Cpu.renewed` forgets all that a machine knows of turns and budgets. A step that is no forced wait
  depends on no more than that and commutes with it (`Cpu.step_renewed`); a forced wait changes
  nothing of it.
* So what a driven machine shows is the beginning of the unhurried run
  (`Cpu.exists_notes_eq_unhurried`), which does not know of the budget.

A forced wait is followed by at least one step that is none, so at least half of the steps count.
-/

namespace TankDuel

/-- A wait that the machine is forced to for want of a budget. -/
def StepResult.isForced (result : StepResult) : Bool := result = .ready (.wait .opLimit)

namespace Cpu

variable {c c' d : Cpu} {s : Sensors} {result : StepResult}

/-! ### Driven machines -/

/-- Drive a machine over some steps: before each of them it is shown the sensors, and after a step
that ends the turn the next turn is opened. Each step is noted with the machine right after it. -/
def drive (s : Sensors) : (steps : Nat) → Cpu → List (StepResult × Cpu)
  | 0, _ => []
  | steps + 1, c =>
    let (result, c') := (c.sense s).step
    (result, c') :: drive s steps (if result.endsTurn then c'.clearPending else c')

/-- What is noted of a step: what it produced, and what the program has come to. -/
structure Note where
  result : StepResult
  registers : RegisterFile
  halted : Option HaltReason
  executed : Nat
deriving DecidableEq

/-- What is noted of a step that leaves a machine behind. -/
def note (result : StepResult) (c : Cpu) : Note := ⟨result, c.registers, c.halted, c.executed⟩

/-- The notes on a run, forced waits left out. -/
def notes (run : List (StepResult × Cpu)) : List Note :=
  (run.filter fun step => !step.1.isForced).map fun step => note step.1 step.2

/-- A forced wait is not noted. -/
private theorem notes_cons_of_forced (run : List (StepResult × Cpu)) (h : result.isForced) :
    notes ((result, c) :: run) = notes run := by
  simp [notes, h]

/-- Any other step is noted. -/
private theorem notes_cons (run : List (StepResult × Cpu)) (h : result.isForced = false) :
    notes ((result, c) :: run) = note result c :: notes run := by
  simp [notes, h]

/-! ### Without turns -/

/-- A machine at the start of a turn, with a budget of a single operation. -/
def renewed (c : Cpu) : Cpu := { c with pending := none, opLimit := 1, opsThisTurn := 0 }

/-- What is noted does not depend on the budget. -/
private theorem note_congr (same : c.renewed = d.renewed) (result : StepResult) :
    note result c = note result d :=
  (congrArg (note result) same :)

/-- **A step does not depend on the budget** unless it is a forced wait, and a forced wait changes
nothing but what has to do with turns. -/
theorem step_renewed (idle : c.pending = none) :
    (c.opLimit ≤ c.opsThisTurn ∧ c.step.1.isForced ∧ c.step.2.renewed = c.renewed) ∨
      (c.step.1.isForced = false ∧ c.renewed.step.1 = c.step.1 ∧
        c.renewed.step.2.renewed = c.step.2.renewed) := by
  -- The renewed machine steps in the same way, and a step goes in one way only.
  have follows {d : Cpu} (unforced : c.step.1.isForced = false)
      (stepped : Stepped c.renewed c.step.1 d) (same : d.renewed = c.step.2.renewed) :
      c.step.1.isForced = false ∧ c.renewed.step.1 = c.step.1 ∧
        c.renewed.step.2.renewed = c.step.2.renewed := by
    rw [stepped.step_eq]
    exact ⟨unforced, rfl, same⟩
  have stepped := c.stepped
  generalize c.step.1 = result at stepped follows
  generalize c.step.2 = c' at stepped follows
  have runs {i : Instruction} (runs : c.Runs i) : c.renewed.Runs i :=
    ⟨rfl, runs.alive, runs.running, Nat.one_pos, runs.fetched⟩
  cases stepped with
  | shown pending => exact absurd (idle.symm.trans pending) nofun
  | spent _ _ _ spent => exact .inl ⟨spent, rfl, rfl⟩
  | dead _ low => exact .inr (follows rfl (.dead rfl low) rfl)
  | halted _ alive halted => exact .inr (follows rfl (.halted rfl alive halted) rfl)
  | ended _ alive running _ missing =>
    exact .inr (follows rfl (.ended rfl alive running Nat.one_pos missing) rfl)
  | faulted go executed => exact .inr (follows rfl (.faulted (runs go) executed) rfl)
  | worked go executed works => exact .inr (follows rfl (.worked (runs go) executed works) rfl)
  | @acted _ _ action go executed ends =>
    -- No program orders a forced wait.
    have unforced : StepResult.isForced (.ready action) = false := by
      cases Instruction.ordered_of_execute executed ends <;> rfl
    exact .inr (follows unforced (.acted (runs go) executed ends) rfl)

/-- The notes on a run in which every step is the first one of its turn. -/
def unhurried (s : Sensors) : (steps : Nat) → Cpu → List Note
  | 0, _ => []
  | steps + 1, c =>
    let (result, c') := (c.sense s).renewed.step
    note result c' :: unhurried s steps c'

/-- The unhurried run does not know of turns and budgets, nor of what sensor registers held
before. -/
private theorem unhurried_congr (same : (c.sense s).renewed = (d.sense s).renewed) (steps : Nat) :
    unhurried s steps c = unhurried s steps d := by
  cases steps with
  | zero => rfl
  | succ steps => rw [unhurried, unhurried, same]

/-- What the sensors show does not depend on the budget. -/
private theorem sense_renewed_congr (same : c.renewed = d.renewed) :
    (c.sense s).renewed = (d.sense s).renewed :=
  congrArg (fun c : Cpu => c.sense s) same

/-- An unhurried run notes all its steps. -/
private theorem length_unhurried (steps : Nat) (c : Cpu) :
    (unhurried s steps c).length = steps := by
  induction steps generalizing c with
  | zero => rfl
  | succ steps ih => exact congrArg (· + 1) (ih _)

/-- An unhurried run begins as a shorter one. -/
private theorem unhurried_beginning {steps more : Nat} (le : steps ≤ more) (c : Cpu) :
    unhurried s steps c <+: unhurried s more c := by
  induction steps generalizing more c with
  | zero => exact List.nil_prefix
  | succ steps ih =>
    obtain ⟨more, rfl⟩ : ∃ n, more = n + 1 := ⟨more - 1, by omega⟩
    exact (List.prefix_cons_inj _).mpr (ih (Nat.le_of_succ_le_succ le) _)

/-! ### The comparison -/

/-- No step changes the limit. -/
theorem Stepped.opLimit_eq (h : Stepped c result c') : c'.opLimit = c.opLimit := by
  cases h <;> rfl

/-- The machine with which a driven run goes on after a step. -/
def nextDriven (c : Cpu) : Cpu :=
  if c.step.1.endsTurn then c.step.2.clearPending else c.step.2

/-- A driven machine has an empty slot before each step. -/
private theorem pending_nextDriven (c : Cpu) : c.nextDriven.pending = none := by
  have pending := c.stepped.pending_eq_action?
  unfold nextDriven
  split
  next => rfl
  next goesOn =>
    rw [pending]
    cases produced : c.step.1 with
    | working => rfl
    | ready action =>
      rw [produced] at goesOn
      exact absurd rfl goesOn

/-- A driven machine keeps its limit. -/
private theorem opLimit_nextDriven (c : Cpu) : c.nextDriven.opLimit = c.opLimit := by
  have same := c.stepped.opLimit_eq
  unfold nextDriven
  split
  next => exact same
  next => exact same

/-- A driven machine goes on from where the step has left it. -/
private theorem renewed_nextDriven (c : Cpu) : c.nextDriven.renewed = c.step.2.renewed := by
  unfold nextDriven
  split <;> rfl

/-- A forced wait ends the turn. -/
private theorem opsThisTurn_nextDriven (forced : c.step.1.isForced) :
    c.nextDriven.opsThisTurn = 0 := by
  have wait : c.step.1 = .ready (.wait .opLimit) := of_decide_eq_true forced
  rw [nextDriven, wait]
  rfl

/-- **What a driven machine shows is the beginning of the unhurried run.** At least half of its
steps count, or all but one where the first of them may be a forced wait. -/
theorem exists_notes_eq_unhurried (idle : c.pending = none) (budget : 0 < c.opLimit)
    (steps : Nat) :
    ∃ counted, notes (drive s steps c) = unhurried s counted c ∧ steps ≤ 2 * counted + 1 ∧
      (c.opsThisTurn < c.opLimit → steps ≤ 2 * counted) := by
  induction steps generalizing c with
  | zero => exact ⟨0, rfl, Nat.zero_le _, fun _ => Nat.zero_le _⟩
  | succ steps ih =>
    have run : drive s (steps + 1) c =
        (c.sense s).step :: drive s steps (c.sense s).nextDriven := rfl
    have sameLimit : (c.sense s).nextDriven.opLimit = c.opLimit := opLimit_nextDriven _
    obtain ⟨counted, same, bound, bound'⟩ := ih (pending_nextDriven _) (sameLimit ▸ budget)
    rcases step_renewed (c := c.sense s) idle with
      ⟨spent, forced, kept⟩ | ⟨unforced, result, kept⟩
    · -- The wait is left out, and the next turn starts where it has left the machine.
      have back : ((c.sense s).nextDriven.sense s).renewed = (c.sense s).renewed := by
        have renewed := (renewed_nextDriven (c.sense s)).trans kept
        rw [sense_renewed_congr renewed, (shows_sense c s).sense_eq]
      refine ⟨counted, ?_, ?_, fun left => absurd spent (Nat.not_le.mpr left)⟩
      · calc notes (drive s (steps + 1) c)
            = notes (drive s steps (c.sense s).nextDriven) := by
              rw [run]
              exact notes_cons_of_forced _ forced
          _ = unhurried s counted (c.sense s).nextDriven := same
          _ = unhurried s counted c := unhurried_congr back _
      · have fresh := opsThisTurn_nextDriven forced
        have enough := bound' (by omega)
        omega
    · -- The step is that of the unhurried run, which goes on from the same machine.
      have onward : ((c.sense s).nextDriven.sense s).renewed =
          ((c.sense s).renewed.step.2.sense s).renewed :=
        sense_renewed_congr ((renewed_nextDriven (c.sense s)).trans kept.symm)
      refine ⟨counted + 1, ?_, by omega, fun _ => by omega⟩
      calc notes (drive s (steps + 1) c)
          = note (c.sense s).step.1 (c.sense s).step.2 ::
              notes (drive s steps (c.sense s).nextDriven) := by
            rw [run]
            exact notes_cons _ unforced
        _ = note (c.sense s).renewed.step.1 (c.sense s).renewed.step.2 ::
              unhurried s counted (c.sense s).renewed.step.2 := by
            rw [same, unhurried_congr onward, result, note_congr kept.symm]
        _ = unhurried s (counted + 1) c := rfl

/-- **The budget is transparent.** Two machines with one program, of any budgets, are driven over
any numbers of steps under the same sensors. Forced waits apart, one of them shows the beginning of
what the other one shows, and at each step that counts both have come to the same: the same result,
the same registers, the same number of executed instructions, and the same reason for having halted,
if any. At least every other step counts, so neither of them falls behind for good. -/
theorem budget_transparent (p : Program) (limit limit' : Nat) (s : Sensors)
    (steps steps' : Nat) :
    let run := notes (drive s steps (start p limit))
    let run' := notes (drive s steps' (start p limit'))
    (run <+: run' ∨ run' <+: run) ∧ steps ≤ 2 * run.length := by
  intro run run'
  have positive (limit : Nat) : 0 < max limit 1 := by omega
  obtain ⟨counted, same, -, bound⟩ :=
    exists_notes_eq_unhurried (c := start p limit) (s := s) rfl (positive limit) steps
  obtain ⟨counted', same', -, -⟩ :=
    exists_notes_eq_unhurried (c := start p limit') (s := s) rfl (positive limit') steps'
  -- At the start the two machines differ in their budgets only.
  have start_eq : ((start p limit').sense s).renewed = ((start p limit).sense s).renewed := rfl
  rw [unhurried_congr start_eq] at same'
  show (run <+: run' ∨ run' <+: run) ∧ _
  rw [show run = _ from same, show run' = _ from same', length_unhurried]
  refine ⟨?_, bound ?_⟩
  · rcases Nat.le_total counted counted' with le | le
    · exact .inl (unhurried_beginning le _)
    · exact .inr (unhurried_beginning le _)
  · exact positive limit

/-- With a budget of a single operation, two operations and a shot take five steps. -/
example :
    let p : Program := ⟨[⟨.nop, [], 1⟩, ⟨.nop, [], 2⟩, ⟨.fire, [], 3⟩], .empty⟩
    (drive ⟨0, 0, 0, 1, true⟩ 5 (start p 1)).map Prod.fst =
      [.working, .ready (.wait .opLimit), .working, .ready (.wait .opLimit), .ready .fire] := by
  decide +kernel

end Cpu

end TankDuel
