import TankDuel.Machine.Action
import TankDuel.Machine.RegisterFile

/-!
# Operations

An `Operation` is an instruction whose operands are known to be of the right kinds.
`Instruction.operation?` finds the operation that an instruction stands for; it finds none exactly
where the operands do not match the signature of the opcode.

Arithmetic is that of 32-bit signed words: results wrap around, a quotient is cut toward zero and a
remainder takes the sign of the dividend.
-/

namespace TankDuel

/-- A value that an operation reads. -/
inductive Source where
  | register (r : Register)
  | number (value : Int32)
deriving DecidableEq

/-- The value of a source. -/
def Source.value (regs : RegisterFile) : Source → Int32
  | register r => regs.get r
  | number value => value

/-- The arithmetic operations on two words. -/
inductive Arithmetic where
  | add
  | sub
  | mul
  | div
  | mod
deriving DecidableEq

/-- The result of an arithmetic operation; there is none when the divisor is zero. -/
def Arithmetic.apply? : Arithmetic → Int32 → Int32 → Option Int32
  | add, a, b => some (a + b)
  | sub, a, b => some (a - b)
  | mul, a, b => some (a * b)
  | div, a, b => if b = 0 then none else some (a / b)
  | mod, a, b => if b = 0 then none else some (a % b)

/-- When a jump is taken. -/
inductive Condition where
  | always
  | equal
  | different
  | greater
  | less
  | greaterOrEqual
  | lessOrEqual
deriving DecidableEq

/-- Whether a condition holds of the result of the last comparison. -/
def Condition.holds : Condition → Int32 → Bool
  | always, _ => true
  | equal, flag => flag == 0
  | different, flag => flag != 0
  | greater, flag => 0 < flag
  | less, flag => flag < 0
  | greaterOrEqual, flag => 0 ≤ flag
  | lessOrEqual, flag => flag ≤ 0

/-- The result of a comparison: -1, 0 or 1 as the first word is less, equal or greater. -/
def comparison (a b : Int32) : Int32 := if a < b then -1 else if a = b then 0 else 1

/-- An instruction with operands of the right kinds. -/
inductive Operation where
  | assign (destination : Register) (source : Source)
  | compute (arithmetic : Arithmetic) (destination : Register) (source : Source)
  | increment (destination : Register)
  | decrement (destination : Register)
  | compare (a b : Source)
  | jump (condition : Condition) (target : Nat)
  | nop
  /-- Do something that ends the turn and go on behind it in the next turn. -/
  | act (action : Action)
  | halt
deriving DecidableEq

/-! ### Recognising operations -/

/-- The register of an operand that may be written. -/
def Operand.destination? : Operand → Option Register
  | register r => if r.isWritable then some r else none
  | _ => none

/-- The value of an operand that may be read. -/
def Operand.source? : Operand → Option Source
  | register r => some (.register r)
  | number value => some (.number value)
  | _ => none

namespace Operation

/-- No operands. -/
def ofNone (op : Operation) : List Operand → Option Operation
  | [] => some op
  | _ => none

/-- One register to write. -/
def ofDestination (op : Register → Operation) : List Operand → Option Operation
  | [a] => a.destination?.map op
  | _ => none

/-- A register to write and a value to read. -/
def ofDestinationSource (op : Register → Source → Operation) : List Operand → Option Operation
  | [a, b] => do return op (← a.destination?) (← b.source?)
  | _ => none

/-- Two values to read. -/
def ofSources (op : Source → Source → Operation) : List Operand → Option Operation
  | [a, b] => do return op (← a.source?) (← b.source?)
  | _ => none

/-- Two registers to write. -/
def ofDestinations (op : Register → Register → Operation) : List Operand → Option Operation
  | [a, b] => do return op (← a.destination?) (← b.destination?)
  | _ => none

/-- An address. -/
def ofTarget (condition : Condition) : List Operand → Option Operation
  | [.address target] => some (jump condition target)
  | _ => none

/-- A heading. -/
def ofHeading : List Operand → Option Operation
  | [.heading h] => some (act (.move h))
  | _ => none

/-- A rotation. -/
def ofRotation : List Operand → Option Operation
  | [.rotation r] => some (act (.rotate r))
  | _ => none

end Operation

/-- The operation that an instruction stands for, if its operands are of the right kinds. -/
def Instruction.operation? (i : Instruction) : Option Operation :=
  match i.opcode with
  | .mov => Operation.ofDestinationSource .assign i.operands
  | .add => Operation.ofDestinationSource (.compute .add) i.operands
  | .sub => Operation.ofDestinationSource (.compute .sub) i.operands
  | .mul => Operation.ofDestinationSource (.compute .mul) i.operands
  | .div => Operation.ofDestinationSource (.compute .div) i.operands
  | .mod => Operation.ofDestinationSource (.compute .mod) i.operands
  | .inc => Operation.ofDestination .increment i.operands
  | .dec => Operation.ofDestination .decrement i.operands
  | .cmp => Operation.ofSources .compare i.operands
  | .jmp => Operation.ofTarget .always i.operands
  | .je => Operation.ofTarget .equal i.operands
  | .jne => Operation.ofTarget .different i.operands
  | .jg => Operation.ofTarget .greater i.operands
  | .jl => Operation.ofTarget .less i.operands
  | .jge => Operation.ofTarget .greaterOrEqual i.operands
  | .jle => Operation.ofTarget .lessOrEqual i.operands
  | .nop => Operation.ofNone .nop i.operands
  | .halt => Operation.ofNone .halt i.operands
  | .move => Operation.ofHeading i.operands
  | .rotate => Operation.ofRotation i.operands
  | .fire => Operation.ofNone (.act .fire) i.operands
  | .scan => Operation.ofDestinations (fun d k => .act (.scan d k)) i.operands
  | .ping => Operation.ofDestinations (fun x y => .act (.ping x y)) i.operands
  | .wait => Operation.ofNone (.act (.wait .requested)) i.operands

end TankDuel
