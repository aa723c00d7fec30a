import EdgeStreams.Host.Error
import EdgeStreams.Host.Operation
import EdgeStreams.Table

/-!
# Injected faults

A host for tests can be told to fail. A fault is set either for every call of an operation or for
its next call; the former takes precedence and leaves the latter waiting.

## Main definitions

- `FaultPlan`: the faults that are set
- `FaultPlan.take`: the fault that a call meets
-/

namespace EdgeStreams

/-- The faults that are set. -/
structure FaultPlan where
  /-- Operations that always fail. -/
  always : Table HostOperation HostError := {}
  /-- Faults that strike once, oldest first. -/
  next : List (HostOperation × HostError) := []
deriving Repr

namespace FaultPlan

/-- Makes the next call of an operation fail, after the faults already waiting for it. -/
def failNext (plan : FaultPlan) (operation : HostOperation) (error : HostError) : FaultPlan :=
  { plan with next := plan.next ++ [(operation, error)] }

/-- Makes every call of an operation fail. -/
def failAlways (plan : FaultPlan) (operation : HostOperation) (error : HostError) : FaultPlan :=
  { plan with always := plan.always.insert operation error }

/-- The fault that a call of an operation meets, and the faults that are left. -/
def take (plan : FaultPlan) (operation : HostOperation) : Option HostError × FaultPlan :=
  match plan.always.find? operation with
  | some error => (some error, plan)
  | none =>
    match plan.next.find? fun fault => fault.1 == operation with
    | some (_, error) =>
      (some error, { plan with next := plan.next.eraseP fun fault => fault.1 == operation })
    | none => (none, plan)

end FaultPlan

end EdgeStreams
