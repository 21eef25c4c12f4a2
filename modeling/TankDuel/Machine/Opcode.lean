import TankDuel.Text.Caseless

/-!
# Opcodes and their signatures

There are twenty-four opcodes. The **signature** of an opcode lists what its operands have to be,
one slot for each; it is the single table that both reading a program and running it go by.
-/

namespace TankDuel

/-- The opcodes, in table order: register work, control flow, and the tank's actions. -/
inductive Opcode where
  | mov
  | add
  | sub
  | mul
  | div
  | mod
  | inc
  | dec
  | cmp
  | jmp
  | je
  | jne
  | jg
  | jl
  | jge
  | jle
  | nop
  | halt
  | move
  | rotate
  | fire
  | scan
  | ping
  | wait
deriving DecidableEq

/-- What an operand has to be. -/
inductive Slot where
  /-- A register that programs may write. -/
  | destination
  /-- A register or a number. -/
  | source
  /-- A label, which stands for an address. -/
  | target
  /-- `LEFT` or `RIGHT`. -/
  | rotation
  /-- `FORWARD` or `BACKWARD`; `FORWARD` is meant where nothing is written. -/
  | heading
deriving DecidableEq

/-- How a slot is described to the author of a program. -/
def Slot.description : Slot → String
  | destination => "a writable register"
  | source => "a register or integer"
  | target => "a label"
  | rotation => "LEFT or RIGHT"
  | heading => "FORWARD or BACKWARD"

namespace Opcode

/-- Every opcode, in table order. -/
def all : List Opcode :=
  [mov, add, sub, mul, div, mod, inc, dec, cmp, jmp, je, jne, jg, jl, jge, jle, nop, halt,
    move, rotate, fire, scan, ping, wait]

/-- The spelling of an opcode in a program. -/
def mnemonic : Opcode → String
  | mov => "MOV"
  | add => "ADD"
  | sub => "SUB"
  | mul => "MUL"
  | div => "DIV"
  | mod => "MOD"
  | inc => "INC"
  | dec => "DEC"
  | cmp => "CMP"
  | jmp => "JMP"
  | je => "JE"
  | jne => "JNE"
  | jg => "JG"
  | jl => "JL"
  | jge => "JGE"
  | jle => "JLE"
  | nop => "NOP"
  | halt => "HALT"
  | move => "MOVE"
  | rotate => "ROTATE"
  | fire => "FIRE"
  | scan => "SCAN"
  | ping => "PING"
  | wait => "WAIT"

/-- The opcode a word names, letter case ignored. -/
def ofMnemonic? (word : String) : Option Opcode := Text.findNamed? mnemonic all word

/-- The operands of an opcode. -/
def signature : Opcode → List Slot
  | mov | add | sub | mul | div | mod => [.destination, .source]
  | inc | dec => [.destination]
  | cmp => [.source, .source]
  | jmp | je | jne | jg | jl | jge | jle => [.target]
  | nop | halt | fire | wait => []
  | move => [.heading]
  | rotate => [.rotation]
  | scan | ping => [.destination, .destination]

/-- The number of operands of an opcode. -/
def arity (op : Opcode) : Nat := op.signature.length

/-- Whether an opcode ends the tank's turn. -/
def endsTurn : Opcode → Bool
  | halt | move | rotate | fire | scan | ping | wait => true
  | _ => false

end Opcode

end TankDuel
