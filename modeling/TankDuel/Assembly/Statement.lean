import TankDuel.Assembly.Error
import TankDuel.Assembly.Token

/-!
# Statements and their arguments

Tokens are grouped into statements. An opcode takes as its operands the longest run of tokens
behind it that carry its line number, whatever they are; every other token is a statement of its
own. The operands are then read slot by slot against the signature of the opcode.

An argument that has been read is an operand, or a label whose address is not known yet.
-/

namespace TankDuel.Assembly

/-- A token and the operands that belong to it; only an opcode has any. -/
structure Statement where
  head : Token
  operands : List Token
deriving DecidableEq

/-- Group tokens into statements. -/
def statements : List Token → List Statement
  | [] => []
  | t :: rest =>
    match t.kind with
    | .opcode _ =>
      ⟨t, rest.takeWhile fun u => u.line = t.line⟩
        :: statements (rest.dropWhile fun u => u.line = t.line)
    | _ => ⟨t, []⟩ :: statements rest
termination_by tokens => tokens.length
decreasing_by
  · exact Nat.lt_succ_of_le (List.dropWhile_sublist _).length_le
  · exact Nat.lt_succ_self _

/-- An operand that may still be a label. -/
inductive Argument where
  | operand (o : Operand)
  | label (name : String)
deriving DecidableEq

/-- An instruction whose labels are not resolved yet. -/
structure Draft where
  opcode : Opcode
  arguments : List Argument
  line : Nat
deriving DecidableEq

/-- What a word means in a slot, if it may stand there. -/
def Argument.ofWord? (slot : Slot) (word : String) : Except CompileError.Cause (Option Argument) :=
  match slot with
  | .destination =>
    match Register.ofName? word with
    | some r =>
      if r.isWritable then .ok (some (.operand (.register r))) else .error (.readOnlyRegister r)
    | none => .ok none
  | .source => .ok ((Register.ofName? word).map fun r => .operand (.register r))
  | .target => .ok (if (Register.ofName? word).isSome then none else some (.label word))
  | .rotation => .ok ((Rotation.ofKeyword? word).map fun r => .operand (.rotation r))
  | .heading => .ok ((Heading.ofKeyword? word).map fun h => .operand (.heading h))

/-- Read one token as the argument of a slot. -/
def Argument.read (slot : Slot) (kind : Token.Kind) : Except CompileError.Cause Argument :=
  let unexpected := .unexpectedToken (.operand slot) kind.text
  match kind with
  | .unknown text => .error (.unrecognizedToken text)
  | .word word =>
    match Argument.ofWord? slot word with
    | .ok (some argument) => .ok argument
    | .ok none => .error unexpected
    | .error cause => .error cause
  | .number value =>
    if slot = .source then .ok (.operand (.number value)) else .error unexpected
  | _ => .error unexpected

/-- The argument that an empty slot stands for. -/
def Argument.implied (opcode : Opcode) : Slot → Except CompileError.Cause Argument
  | .heading => .ok (.operand (.heading .forward))
  | slot => .error (.missingOperand opcode slot)

/-- Read tokens slot by slot. -/
def Argument.readAll (opcode : Opcode) :
    List Slot → List Token → Except CompileError.Cause (List Argument)
  | [], _ => .ok []
  | slot :: slots, [] => do
    let argument ← Argument.implied opcode slot
    let others ← readAll opcode slots []
    return argument :: others
  | slot :: slots, t :: rest => do
    let argument ← Argument.read slot t.kind
    let others ← readAll opcode slots rest
    return argument :: others

/-- The text of an unknown token. -/
def Token.unknownText? (t : Token) : Option String :=
  match t.kind with
  | .unknown text => some text
  | _ => none

/-- The arguments of an opcode. If there are too many operands, an unknown token among them is
reported first. -/
def argumentsOf (opcode : Opcode) (operands : List Token) :
    Except CompileError.Cause (List Argument) :=
  if operands.length ≤ opcode.arity then Argument.readAll opcode opcode.signature operands
  else
    match operands.findSome? Token.unknownText? with
    | some text => .error (.unrecognizedToken text)
    | none => .error (.tooManyOperands opcode)

end TankDuel.Assembly
