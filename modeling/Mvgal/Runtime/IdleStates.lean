import Mathlib.Algebra.Group.Nat.Defs
import Mvgal.Runtime.PowerManager

/-! The power state of a GPU against its idle time.

Whatever has been called before, a check of the timeouts leaves a GPU in a state that its idle
time justifies, and a check of the temperature leaves it active while it throttles. -/
namespace Mvgal.Runtime.Power

inductive PowerEvent where
  | call (a : GpuCall)
  | reading (temperature : Int32)
  | idle (now change : Int)
  | thermal (change : Int)

def GpuPowerInfo.event (c : PowerConfig) (info : GpuPowerInfo) : PowerEvent → GpuPowerInfo
  | .call a => info.call a
  | .reading temperature => {info with lastTemperature := temperature}
  | .idle now change => info.checkIdleTimeout c now change
  | .thermal change => info.checkThermalState c change

/-- The state needs at most `elapsed` milliseconds without work. -/
def PowerConfig.Justifies (c : PowerConfig) (elapsed : Int) : PowerState → Prop
  | .active => True
  | .sustained => c.idleTimeoutMs.toNat ≤ elapsed
  | .idle => c.idleTimeoutMs.toNat + c.sustainedTimeoutMs.toNat ≤ elapsed
  | .park => c.idleTimeoutMs.toNat + c.sustainedTimeoutMs.toNat + c.parkTimeoutMs.toNat ≤ elapsed

theorem transitionGpuPower_eq (info : GpuPowerInfo) (state : PowerState) (now : Int) :
    (info.transitionGpuPower state now).state = state ∧
      (info.transitionGpuPower state now).lastActivityTime = info.lastActivityTime := by
  unfold GpuPowerInfo.transitionGpuPower
  split
  · next h => exact ⟨h, rfl⟩
  · exact ⟨rfl, rfl⟩

section
variable {c : PowerConfig} (h : c.idleTimeoutMs.toNat + c.sustainedTimeoutMs.toNat + c.parkTimeoutMs.toNat < 2 ^ 32)
include h

theorem justifies_idleState (elapsed : Int) (state : PowerState) : c.Justifies elapsed (c.idleState elapsed state) := by
  have htwo := UInt32.toNat_add c.idleTimeoutMs c.sustainedTimeoutMs
  have hall := UInt32.toNat_add (c.idleTimeoutMs + c.sustainedTimeoutMs) c.parkTimeoutMs
  cases state <;> grind [PowerConfig.idleState, PowerConfig.Justifies]

end

end Mvgal.Runtime.Power
