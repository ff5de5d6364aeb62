/-
This file holds plans: lists of methods to hook, classes to sweep and native symbols to
probe. Each entry says which options its hook or probe gets. A plan is checked entry by
entry for what would make the entry fail wherever it is applied.
-/
import Intercept.Plan.Edit
import Intercept.Dispatch.Procedure
import Intercept.Boundary.Probe
import Intercept.Target

namespace Intercept

namespace Plan

/-- A method to hook by its dotted name. -/
structure MethodRule where
  target : String
  backtrace : Bool := false
  argumentEdits : List ArgumentEdit := []
  resultEdit : Option ResultEdit := none

/-- A class of which every declared member is hooked. -/
structure SweepRule where
  name : String
  backtrace : Bool := false

/-- A native symbol to probe. -/
structure SymbolRule where
  modulePath : String
  symbol : String
  argumentIndex : Nat := 0
  condition : Option String := none
  backtrace : Bool := false

/-- The hook of a method. Without edits it only traces. -/
def MethodRule.hook (entry : MethodRule) : Hook :=
  let traced : Hook := { backtrace := entry.backtrace }
  let edited :=
    if entry.argumentEdits.isEmpty then traced
    else traced.withArguments (applyEdits entry.argumentEdits)
  match entry.resultEdit with
  | some edit => edited.withResult edit.apply
  | none => edited

/-- The hook of the members of a class. -/
def SweepRule.hook (entry : SweepRule) : Hook :=
  { backtrace := entry.backtrace }

/-- The probe of a symbol, if its pattern can be read. -/
def SymbolRule.probe (entry : SymbolRule) : Except HookFailure Boundary.Probe :=
  let probe : Boundary.Probe :=
    { argumentIndex := entry.argumentIndex, backtrace := entry.backtrace }
  match entry.condition with
  | some pattern => probe.withPattern pattern
  | none => .ok probe

end Plan

/-- What to instrument. -/
structure Plan where
  methods : List Plan.MethodRule := []
  classes : List Plan.SweepRule := []
  natives : List Plan.SymbolRule := []

namespace Plan

/-- Whether a plan has no entries. -/
def isEmpty (plan : Plan) : Bool :=
  plan.methods.isEmpty && plan.classes.isEmpty && plan.natives.isEmpty

/-- What is wrong with a dotted name. -/
def MethodRule.problem? (entry : MethodRule) : Option HookFailure :=
  match Target.parse entry.target with
  | .ok _ => none
  | .error failure => some failure

/-- What is wrong with a class name. -/
def SweepRule.problem? (entry : SweepRule) : Option HookFailure :=
  if entry.name = "" then some (.malformedTarget entry.name) else none

/-- What is wrong with a pattern. -/
def SymbolRule.problem? (entry : SymbolRule) : Option HookFailure :=
  match entry.probe with
  | .ok _ => none
  | .error failure => some failure

/-- Every problem of a plan: of methods, then of classes, then of native symbols. -/
def problems (plan : Plan) : List HookFailure :=
  plan.methods.filterMap MethodRule.problem? ++ plan.classes.filterMap SweepRule.problem? ++
    plan.natives.filterMap SymbolRule.problem?

end Plan

end Intercept
