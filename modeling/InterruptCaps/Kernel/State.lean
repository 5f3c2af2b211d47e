import InterruptCaps.Kernel.Rejection
import InterruptCaps.Kernel.Thread
import InterruptCaps.Irq.Registry
import InterruptCaps.Gic.Controller
import InterruptCaps.Space.Store

/-! The kernel's interrupt state: the configuration, the controller, the registry of lines that
    have a handler, the place where capabilities are kept, and the thread that is served. A line
    is registered while its handler capability exists: issuing registers it, and deleting the
    capability sets it free. -/

namespace InterruptCaps

/-- A kernel instance over a controller with states in `C` and a store of capabilities in `S`. -/
structure Kernel (C S : Type) where
  config : Config
  controller : C
  registry : Registry
  space : S
  caller : Thread

/-- How an invocation ends, and the kernel after it. -/
abbrev Outcome (C S : Type) : Type := Except Failure Int × Kernel C S

namespace Kernel

variable {C S : Type}

/-- A kernel that has issued nothing, if the controller has an interface for each node. -/
def start [Controller C] (config : Config) (controller : C) (space : S) :
    Except ConfigError (Kernel C S) :=
  match config.checkPlatform (Controller.platform controller) with
  | .error e => .error e
  | .ok _ => .ok ⟨config, controller, .empty, space, .runningOn 0⟩

/-- What the controller is like. -/
def platform [Controller C] (k : Kernel C S) : Platform := Controller.platform k.controller

/-- Turns an invocation down; nothing changes. -/
def reject (k : Kernel C S) (r : Rejection) : Outcome C S := (.error (.rejected r), k)

/-- The invocation is done; the caller goes on. -/
def succeed (k : Kernel C S) : Outcome C S :=
  (.ok 0, { k with caller := k.caller.markRunnable })

/-- The last handler of `id` is gone; its line can have a new one. -/
def handlerDeleted (id : IrqId) (k : Kernel C S) : Kernel C S :=
  { k with registry := (k.registry.deactivate id).2 }

/-- Deletes the capability at `ref`; a handler sets its line free. -/
def finalise (ref : SlotRef) (k : Kernel C Space) : Except SlotError (Cap × Kernel C Space) :=
  match k.space.delete ref with
  | .error e => .error e
  | .ok (cap, space) =>
    let k := { k with space }
    .ok (cap, cap.handled?.elim k k.handlerDeleted)

end Kernel

end InterruptCaps
