import TankDuel.Machine.Operand

/-!
# What can be wrong with a program text

A `CompileError` names a cause and the line it is reported for. The wording is in
`CompileError.Cause.message` and `CompileError.message`.
-/

namespace TankDuel.Assembly

/-- What a reader of programs was waiting for. -/
inductive Expected where
  /-- The start of a statement. -/
  | statement
  /-- An operand of an instruction. -/
  | operand (slot : Slot)
deriving DecidableEq

/-- The wording of what was waited for. -/
def Expected.description : Expected → String
  | statement => "opcode or label"
  | operand slot => slot.description

/-- Why a text is not a program. -/
inductive CompileError.Cause where
  /-- The word at the head of a statement is no opcode. -/
  | unknownOpcode (word : String)
  /-- A lexeme is of no known kind. -/
  | unrecognizedToken (text : String)
  /-- A token stands where another kind is required. -/
  | unexpectedToken (expected : Expected) (found : String)
  /-- An instruction ends before its last operand. -/
  | missingOperand (opcode : Opcode) (slot : Slot)
  /-- More operands follow than the opcode takes. -/
  | tooManyOperands (opcode : Opcode)
  /-- A label is referred to and never defined. -/
  | undefinedLabel (name : String)
  /-- A label is defined a second time. -/
  | duplicateLabel (name : String)
  /-- The destination is a register that programs cannot write. -/
  | readOnlyRegister (register : Register)
deriving DecidableEq

/-- A cause and the source line it is reported for. -/
structure CompileError where
  line : Nat
  cause : CompileError.Cause
deriving DecidableEq

/-- The wording of a cause. -/
def CompileError.Cause.message : CompileError.Cause → String
  | unknownOpcode word => s!"unknown opcode '{word}'"
  | unrecognizedToken text => s!"unrecognized token '{text}'"
  | unexpectedToken expected found => s!"expected {expected.description}, found '{found}'"
  | missingOperand opcode slot =>
    s!"{opcode.mnemonic} is missing an operand: expected {slot.description}"
  | tooManyOperands opcode => s!"{opcode.mnemonic} takes at most {opcode.arity} operand(s)"
  | undefinedLabel name => s!"undefined label '{name}'"
  | duplicateLabel name => s!"label '{name}' is defined more than once"
  | readOnlyRegister register => s!"register {register.name} is read-only"

/-- The wording of an error, with its line. -/
def CompileError.message (e : CompileError) : String := s!"line {e.line}: {e.cause.message}"

end TankDuel.Assembly
