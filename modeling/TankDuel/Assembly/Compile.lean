import TankDuel.Assembly.Statement
import TankDuel.Machine.Program

/-!
# From tokens to a program

Reading goes through the statements once. A label gets the number of instructions before it, an
opcode becomes a draft. When all labels are known, the drafts are resolved in order. So a label may
be used before it is defined, and an undefined label is reported only when nothing else is wrong.
-/

namespace TankDuel.Assembly

/-- Read statements into drafts and labels; `placed` instructions and `labels` come before. -/
def assemble (placed : Nat) (labels : Labels) :
    List Statement → Except CompileError (List Draft × Labels)
  | [] => .ok ([], labels)
  | s :: rest =>
    let line := s.head.line
    match s.head.kind with
    | .label name =>
      if labels.contains name then .error ⟨line, .duplicateLabel name⟩
      else assemble placed (labels.insert name placed) rest
    | .opcode opcode =>
      match argumentsOf opcode s.operands with
      | .error cause => .error ⟨line, cause⟩
      | .ok arguments => do
        let (drafts, allLabels) ← assemble (placed + 1) labels rest
        return (⟨opcode, arguments, line⟩ :: drafts, allLabels)
    | .word word => .error ⟨line, .unknownOpcode word⟩
    | .number value => .error ⟨line, .unexpectedToken .statement (Token.Kind.number value).text⟩
    | .unknown text => .error ⟨line, .unrecognizedToken text⟩

/-- Resolve an argument. -/
def Argument.resolve (labels : Labels) : Argument → Except CompileError.Cause Operand
  | operand o => .ok o
  | label name =>
    match labels.find? name with
    | some target => .ok (.address target)
    | none => .error (.undefinedLabel name)

/-- Resolve the labels of a draft. -/
def Draft.resolve (labels : Labels) (d : Draft) : Except CompileError Instruction :=
  match d.arguments.mapM (Argument.resolve labels) with
  | .ok operands => .ok ⟨d.opcode, operands, d.line⟩
  | .error cause => .error ⟨d.line, cause⟩

/-- Read a program from tokens. -/
def parse (tokens : List Token) : Except CompileError Program := do
  let (drafts, labels) ← assemble 0 .empty (statements tokens)
  let instructions ← drafts.mapM (Draft.resolve labels)
  return ⟨instructions, labels⟩

/-- Read a program from its source text. -/
def compile (source : String) : Except CompileError Program := parse (tokenize source)

end TankDuel.Assembly
