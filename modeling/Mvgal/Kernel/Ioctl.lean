import Mathlib.Tactic.SplitIfs
import Mvgal.Lib.Run

/-! The lock of the character device (`mvgal_ioctl` of `mvgal_main.c`).

`released_iff` says that every call leaves the lock free, except one that fails to copy
its arguments in the full build; the next call then waits for ever. -/
namespace Mvgal.Kernel.Ioctl

/-- The commands of the switch; `foreign` has another magic number, `other` no case. -/
inductive Cmd where
  | foreign | queryVersion | getGpuCount | getGpuInfo | enable | disable | getStats | getCaps | rescan
  | exportDmabuf | importDmabuf | allocCrossVendor | freeCrossVendor | other
deriving DecidableEq

/-- A call, with the answers of the two copies, of the test of the index and of the handler. -/
structure Call where
  cmd : Cmd
  copiedIn : Bool
  copiedOut : Bool
  inRange : Bool
  handler : Int

/-- What `mvgal_ioctl` returns, and how often it has released the lock; the lock is taken
once, unless the magic number is wrong. -/
def ioctl (fullStack : Bool) (c : Call) : Int × Nat :=
  let copied : Int × Nat := (if c.copiedOut then 0 else -14, 1)
  match c.cmd with
  | .foreign => (-25, 0)
  | .queryVersion | .getGpuCount | .getStats | .getCaps => copied
  | .getGpuInfo => if !c.copiedIn then (-14, 1) else if !c.inRange then (-22, 1) else copied
  | .enable | .disable | .rescan => (0, 1)
  | .exportDmabuf | .importDmabuf | .allocCrossVendor =>
    if !fullStack then (-95, 1)
    else if !c.copiedIn || c.handler == 0 && !c.copiedOut then (-14, 0) else (c.handler, 1)
  | .freeCrossVendor =>
    if !fullStack then (-95, 1) else if !c.copiedIn then (-14, 0) else (c.handler, 1)
  | .other => (-25, 1)

/-- One call, with whether the lock is held. It does not come through a lock that is. -/
def call (fullStack held : Bool) (c : Call) : Option Bool :=
  if c.cmd = .foreign then some held
  else if held then none else some ((ioctl fullStack c).2 != 1)

/-- A copy fails between the lock and its release. -/
def Stays (fullStack : Bool) (c : Call) : Prop :=
  fullStack = true ∧ (c.cmd ∈ [.exportDmabuf, .importDmabuf, .allocCrossVendor] ∧
        (c.copiedIn = false ∨ c.handler = 0 ∧ c.copiedOut = false) ∨
      c.cmd = .freeCrossVendor ∧ c.copiedIn = false)

theorem released_once_iff (fullStack : Bool) {c : Call} (h : c.cmd ≠ .foreign) :
    (ioctl fullStack c).2 = 1 ↔ ¬ Stays fullStack c := by
  obtain ⟨cmd, copiedIn, copiedOut, inRange, handler⟩ := c
  cases cmd with
  | foreign => exact absurd rfl h
  | getGpuInfo | exportDmabuf | importDmabuf | allocCrossVendor | freeCrossVendor =>
    simp only [ioctl, Stays]
    split_ifs <;> simp_all
  | _ => simp [ioctl, Stays]

/-- **The lock is free between the calls**, whatever they are, exactly when none of them
fails to copy in the full build. -/
theorem released_iff (fullStack : Bool) (calls : List Call) :
    Run.Along (call fullStack) (· = false) false calls ↔
      Run.Admitted (call fullStack) (fun _ c => ¬ Stays fullStack c) false calls := by
  refine Run.along_iff_of_exact (P := (· = false)) (fun held c held' hfree hcall => ?_) rfl calls
  subst hfree
  unfold call at hcall
  by_cases hforeign : c.cmd = .foreign
  · rw [if_pos hforeign] at hcall
    cases hcall
    simp [Stays, hforeign]
  · rw [if_neg hforeign] at hcall
    cases hcall
    simp [← released_once_iff fullStack hforeign]

/-- An export whose arguments cannot be read. -/
theorem export_keeps_lock :
    ¬ Run.Along (call true) (· = false) false [⟨.exportDmabuf, false, true, true, 0⟩] ∧
    call true true ⟨.queryVersion, true, true, true, 0⟩ = none := by
  refine ⟨fun h => ?_, rfl⟩
  cases h.final rfl

end Mvgal.Kernel.Ioctl
