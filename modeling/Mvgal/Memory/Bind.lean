import Mvgal.Lib.Roster
import Mvgal.Memory.Release

/-! Bindings of a buffer to GPUs (`allocator.c`, `dmabuf.c`, `memory.c`).

A structure has an array of bindings and a count. All functions here search the
first `gpu_binding_count` places for a GPU, and write a new binding to the place
after them. The fields that a new binding does not set keep what was there. -/
namespace Mvgal.Memory
open Buffer
open Blocks (Ptr)

variable (x : Buffer) (gpu : Nat)

def Buffer.binding (i : Nat) : Binding := if h : i < maxGpus then x.gpuBindings[i] else .zero

/-- The search for a GPU among the first `gpu_binding_count` bindings. -/
def Buffer.findBinding : Option Nat :=
  Roster.search Binding.gpuIndex x.binding x.gpuBindingCount gpu

/-- Assign fields of the binding at place `i`. -/
def Buffer.setBinding (i : Nat) (f : Binding → Binding) : Buffer :=
  {x with
    gpuBindings := Vector.ofFn fun j : Fin maxGpus =>
      if j.val = i then f (x.gpuBindings.get j) else x.gpuBindings.get j}

def Buffer.appendBinding (f : Binding → Binding) : Buffer :=
  {x.setBinding x.gpuBindingCount f with gpuBindingCount := x.gpuBindingCount + 1}

def Buffer.addToMask : Buffer := {x with gpuMask := x.gpuMask ||| (1 <<< UInt32.ofNat gpu)}

def Buffer.removeFromMask : Buffer := {x with gpuMask := x.gpuMask &&& ~~~(1 <<< UInt32.ofNat gpu)}

/-- `mvgal_buffer_bind_to_gpu`, in a module that knows `gpuCount` GPUs. -/
def Buffer.bindToGpu (gpuCount : Nat) (writable : Bool) : Error × Buffer :=
  if maxGpus ≤ gpu then (.invalidArgument, x)
  else if gpuCount ≤ gpu then (.gpuNotFound, x)
  else
    match x.findBinding gpu with
    | some i => (.success, x.setBinding i fun e => {e with writable := writable, readable := true})
    | none =>
      let x := x.addToMask gpu
      if x.gpuBindingCount < maxGpus then
        (.success, x.appendBinding fun e =>
          {e with gpuIndex := gpu, mapping := x.hostPtr, writable := writable, readable := true})
      else (.memory, x)

/-- `mvgal_dmabuf_bind_to_gpu`, with the address it returns. It sets no CPU mapping. -/
def Buffer.dmabufBindToGpu (mgr : GpuManager) : Except Error (Option Ptr) × Buffer :=
  if x.dmabufFd = none then (.error .notSupported, x)
  else
    match x.findBinding gpu with
    | some i => (.ok (x.binding i).gpuAddress, x)
    | none =>
      if mgr.count ≤ gpu ∨ mgr.enabled gpu = false then (.error .gpuNotFound, x)
      else if x.gpuBindingCount < maxGpus then
        (.ok x.hostPtr, x.appendBinding fun e =>
          {e with gpuIndex := gpu, gpuAddress := x.hostPtr, writable := true, readable := true})
      else (.ok x.hostPtr, x)

/-- `mvgal_memory_set_access`. It tests for READ | READ_WRITE and for WRITE | READ_WRITE,
which are the same bits. The result of a new binding is ignored. -/
def Buffer.setAccess (gpuCount : Nat) (access : UInt32) : Error × Buffer :=
  if maxGpus ≤ gpu then (.invalidArgument, x)
  else
    let x := if access ≠ 0 then x.addToMask gpu else x.removeFromMask gpu
    let readable := hasAny access (accessRead ||| accessReadWrite)
    let writable := hasAny access (accessWrite ||| accessReadWrite)
    match x.findBinding gpu with
    | some i => (.success, x.setBinding i fun e => {e with readable := readable, writable := writable})
    | none => (.success, if access ≠ 0 then (x.bindToGpu gpu gpuCount writable).2 else x)

/-- `mvgal_memory_replicate` and `mvgal_buffer_replicate`. -/
def Buffer.replicate (gpuCount : Nat) (gpus : List Nat) : Error × Buffer :=
  if gpus = [] then (.invalidArgument, x)
  else
    (.success, gpus.foldl (fun x g => if maxGpus ≤ g then x else (x.bindToGpu g gpuCount false).2) x)

variable {x gpu}

theorem binding_congr {y : Buffer} (h : y.gpuBindings = x.gpuBindings) : y.binding = x.binding := by
  funext i
  unfold binding
  rw [h]

theorem setBinding_count (i : Nat) (f : Binding → Binding) :
    (x.setBinding i f).gpuBindingCount = x.gpuBindingCount := by
  simp only [setBinding]

theorem setBinding_hostPtr (i : Nat) (f : Binding → Binding) : (x.setBinding i f).hostPtr = x.hostPtr := by
  simp only [setBinding]

theorem appendBinding_count (f : Binding → Binding) :
    (x.appendBinding f).gpuBindingCount = x.gpuBindingCount + 1 := by
  simp only [appendBinding]

theorem appendBinding_hostPtr (f : Binding → Binding) : (x.appendBinding f).hostPtr = x.hostPtr := by
  simp only [appendBinding, setBinding_hostPtr]

theorem binding_setBinding {i : Nat} (hi : i < maxGpus) (f : Binding → Binding) :
    (x.setBinding i f).binding = Function.update x.binding i (f (x.binding i)) := by
  funext j
  unfold binding setBinding
  by_cases hj : j = i
  · subst hj
    simp only [hi, dite_true, Vector.getElem_ofFn, if_true, Function.update_self]
    rfl
  · rw [Function.update_of_ne hj]
    by_cases hlt : j < maxGpus
    · simp only [hlt, hj, dite_true, Vector.getElem_ofFn, if_false]
      rfl
    · simp [hlt]

theorem binding_appendBinding (h : x.gpuBindingCount < maxGpus) (f : Binding → Binding) :
    (x.appendBinding f).binding =
      Function.update x.binding x.gpuBindingCount (f (x.binding x.gpuBindingCount)) := by
  have hsame : (x.appendBinding f).binding = (x.setBinding x.gpuBindingCount f).binding :=
    binding_congr (by simp only [appendBinding])
  rw [hsame, binding_setBinding h]

end Mvgal.Memory
