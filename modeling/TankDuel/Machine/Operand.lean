import TankDuel.Machine.Opcode
import TankDuel.Machine.Register

/-!
# Operands and instructions

An `Instruction` is an opcode with any list of operands. Nothing forces the operands to match the
signature of the opcode: `Slot.admits` says what matches, and a machine that meets an instruction
whose operands do not match stops with a fault.
-/

namespace TankDuel

/-- Which way to drive, relative to where the tank faces. -/
inductive Heading where
  | forward
  | backward
deriving DecidableEq

namespace Heading

/-- The spelling of a heading in a program. -/
def keyword : Heading → String
  | forward => "FORWARD"
  | backward => "BACKWARD"

/-- The heading a word names, letter case ignored. -/
def ofKeyword? (word : String) : Option Heading :=
  Text.findNamed? keyword [forward, backward] word

end Heading

/-- Which way to turn, by a quarter of a circle. -/
inductive Rotation where
  | left
  | right
deriving DecidableEq

namespace Rotation

/-- The spelling of a rotation in a program. -/
def keyword : Rotation → String
  | left => "LEFT"
  | right => "RIGHT"

/-- The rotation a word names, letter case ignored. -/
def ofKeyword? (word : String) : Option Rotation := Text.findNamed? keyword [left, right] word

end Rotation

/-- An operand of an instruction. -/
inductive Operand where
  /-- A register. -/
  | register (r : Register)
  /-- A number. -/
  | number (value : Int32)
  /-- An address in the program. -/
  | address (target : Nat)
  | heading (h : Heading)
  | rotation (r : Rotation)
deriving DecidableEq

/-- The text of an operand in a listing. -/
def Operand.text : Operand → String
  | register r => r.name
  | number value => toString value.toInt
  | address target => s!"@{target}"
  | heading h => h.keyword
  | rotation r => r.keyword

/-- Whether an operand is what a slot asks for. -/
def Slot.admits : Slot → Operand → Bool
  | destination, .register r => r.isWritable
  | source, .register _ => true
  | source, .number _ => true
  | target, .address _ => true
  | rotation, .rotation _ => true
  | heading, .heading _ => true
  | _, _ => false

/-- An instruction and the source line it stands on; the line is 0 where there is no source. -/
structure Instruction where
  opcode : Opcode
  operands : List Operand
  line : Nat
deriving DecidableEq

/-- The text of an instruction in a listing. -/
def Instruction.text (i : Instruction) : String :=
  if i.operands.isEmpty then i.opcode.mnemonic
  else i.opcode.mnemonic ++ " " ++ String.intercalate ", " (i.operands.map Operand.text)

end TankDuel
