/-
This file holds a small language in which the bodies of methods, hooks and native callees
can be written down. An expression is evaluated from left to right with the arguments
and the receiver of a call; a fault ends the evaluation unless it is handled. The
meaning of an expression is a procedure, so it can do what procedures can do.
-/
import Intercept.Dispatch.Procedure

namespace Intercept.Script

/-- The operations on two integers. They wrap around. -/
inductive Arithmetic where
  | add
  | sub
  | mul
deriving DecidableEq

/-- The result of an operation. -/
def Arithmetic.apply : Arithmetic → Int64 → Int64 → Int64
  | .add, left, right => left + right
  | .sub, left, right => left - right
  | .mul, left, right => left * right

/-- An expression. -/
inductive Expression where
  | constant (value : Value)
  /-- The argument at a position. -/
  | argument (index : Nat)
  /-- All arguments as a list. -/
  | arguments
  | receiver
  /-- The texts of values, one after another. -/
  | concat (parts : List Expression)
  | list (items : List Expression)
  /-- The value of the last expression. -/
  | sequence (parts : List Expression)
  | typeOf (body : Expression)
  | arithmetic (operation : Arithmetic) (left right : Expression)
  | ifAtMost (left right yes no : Expression)
  | ifEqual (left right yes no : Expression)
  /-- Raises a fault with the text of a value as its message. -/
  | raise (className : String) (message : Expression)
  /-- Evaluates a handler if the body faults. The handler gets the class and the message of
  the fault as arguments. -/
  | handle (body handler : Expression)
  | call (container member : String) (receiver : Expression) (arguments : List Expression)
  /-- Calls a method of another runtime on no receiver. -/
  | callIn (runtime : RuntimeId) (container member : String) (arguments : List Expression)
  /-- Evaluates on a thread of its own. -/
  | spawn (body : Expression)
  /-- The frames of the thread. -/
  | frames
  /-- Hooks a target; the value is the number of hooks. -/
  | hook (target : String) (backtrace : Bool) (arguments result : Option Expression)
  /-- Declares a method; the value is the text of its key or of the error. -/
  | define (container member : String) (parameters : List String) (body : Expression)
  /-- Calls a native address; the value is the result. -/
  | native (address : UInt64) (arguments : List Boundary.Argument) (callee : Expression)

/-- The options of a hook, with expressions for its transforms. -/
structure HookExpressions where
  backtrace : Bool := false
  arguments : Option Expression := none
  result : Option Expression := none

/-! ### Faults of evaluation -/

/-- The fault of asking for an argument that is not there. -/
def noArgument (index : Nat) : Fault :=
  ⟨"ArgError", "no argument " ++ Text.decimal index⟩

/-- The fault of a value that should be an integer. -/
def notAnInteger (value : Value) : Fault :=
  ⟨"TypeError", "int expected, got " ++ value.typeName⟩

/-- Goes on with an integer, or with the fault of a value that is none. -/
def withInteger (value : Value) (fail : Fault → Procedure) (next : Int64 → Procedure) :
    Procedure :=
  match value with
  | .int number => next number
  | other => fail (notAnInteger other)

/-- Goes on with a value, or with a fault. -/
def branch (fail : Fault → Procedure) (next : Value → Procedure) : Outcome → Procedure
  | .returned value => next value
  | .raised raised => fail raised

/-- A native argument as its callee sees it. -/
def nativeValue (argument : Boundary.Argument) : Value :=
  match argument with
  | .null => .int 0
  | .word number => .int number
  | .bytes _ => .str (argument.text?.getD "")

/-! ### Evaluation -/

mutual

/-- The procedure that evaluates an expression for a receiver and arguments and goes on with
its value or its fault. -/
def Expression.evaluate (receiver : Value) (arguments : List Value) :
    Expression → (Fault → Procedure) → (Value → Procedure) → Procedure
  | .constant value, _, next => next value
  | .argument index, fail, next =>
    match arguments[index]? with
    | some value => next value
    | none => fail (noArgument index)
  | .arguments, _, next => next (.list arguments)
  | .receiver, _, next => next receiver
  | .concat parts, fail, next =>
    evaluateAll receiver arguments parts fail fun values => next (.str (Value.join values ""))
  | .list items, fail, next =>
    evaluateAll receiver arguments items fail fun values => next (.list values)
  | .sequence parts, fail, next =>
    evaluateAll receiver arguments parts fail fun values => next (values.getLast?.getD .void)
  | .typeOf body, fail, next =>
    body.evaluate receiver arguments fail fun value => next (.str value.typeName)
  | .arithmetic operation left right, fail, next =>
    left.evaluate receiver arguments fail fun value => withInteger value fail fun first =>
      right.evaluate receiver arguments fail fun value => withInteger value fail fun second =>
        next (.int (operation.apply first second))
  | .ifAtMost left right yes no, fail, next =>
    left.evaluate receiver arguments fail fun value => withInteger value fail fun first =>
      right.evaluate receiver arguments fail fun value => withInteger value fail fun second =>
        if first ≤ second then yes.evaluate receiver arguments fail next
        else no.evaluate receiver arguments fail next
  | .ifEqual left right yes no, fail, next =>
    left.evaluate receiver arguments fail fun first =>
      right.evaluate receiver arguments fail fun second =>
        if first.equals second then yes.evaluate receiver arguments fail next
        else no.evaluate receiver arguments fail next
  | .raise className message, fail, _ =>
    message.evaluate receiver arguments fail fun value => fail ⟨className, value.render⟩
  | .handle body handler, fail, next =>
    body.evaluate receiver arguments
      (fun raised =>
        handler.evaluate receiver [.str raised.className, .str raised.message] fail next)
      next
  | .call container member target parts, fail, next =>
    target.evaluate receiver arguments fail fun object =>
      evaluateAll receiver arguments parts fail fun values =>
        .call none container member object values (branch fail next)
  | .callIn runtime container member parts, fail, next =>
    evaluateAll receiver arguments parts fail fun values =>
      .call (some runtime) container member .null values (branch fail next)
  | .spawn body, fail, next =>
    .spawn
      (body.evaluate receiver arguments (fun raised => .finish (.raised raised)) Procedure.pure)
      (branch fail next)
  | .frames, _, next => .frames fun keys => next (.list (keys.map .str))
  | .hook target backtrace transformArguments transformResult, _, next =>
    .hook none 0 target
      { backtrace
        transformArguments := evaluateTransform transformArguments
        transformResult :=
          (evaluateTransform transformResult).map fun transform value => transform [value] }
      fun installed => next (.int (Int64.ofNat installed.length))
  | .define container member parameters body, _, next =>
    .define container member parameters
      (fun object values =>
        body.evaluate object values (fun raised => .finish (.raised raised)) Procedure.pure)
      fun answer =>
        match answer with
        | .ok reference => next (.str reference.key)
        | .error failure => next (.str failure.message)
  | .native address parts callee, _, next =>
    .native address parts
      (callee.evaluate .null (parts.map nativeValue) (fun raised => .finish (.raised raised))
        Procedure.pure)
      fun result => next (.int result)

/-- The procedure that evaluates expressions in order and goes on with their values. -/
def evaluateAll (receiver : Value) (arguments : List Value) :
    List Expression → (Fault → Procedure) → (List Value → Procedure) → Procedure
  | [], _, next => next []
  | part :: rest, fail, next =>
    part.evaluate receiver arguments fail fun value =>
      evaluateAll receiver arguments rest fail fun values => next (value :: values)

/-- The procedures of an expression for a transform, one for each argument list. -/
def evaluateTransform : Option Expression → Option (List Value → Procedure)
  | none => none
  | some body => some fun values =>
    body.evaluate .null values (fun raised => .finish (.raised raised)) Procedure.pure

end

/-- The procedure that evaluates an expression and ends. -/
def Expression.procedure (expression : Expression) (receiver : Value) (arguments : List Value) :
    Procedure :=
  expression.evaluate receiver arguments (fun raised => .finish (.raised raised)) Procedure.pure

/-- The body of a method that an expression describes. -/
def Expression.body (expression : Expression) : Body :=
  fun receiver arguments => expression.procedure receiver arguments

/-- The hook that expressions describe. -/
def HookExpressions.hook (options : HookExpressions) : Hook :=
  { backtrace := options.backtrace
    transformArguments := evaluateTransform options.arguments
    transformResult :=
      (evaluateTransform options.result).map fun transform value => transform [value] }

end Intercept.Script
