/-! The GPUs of the kernel module (`mvgal_device.h`), as far as the modelled functions
read them. -/
namespace Mvgal.Kernel

/-- `MVGAL_MAX_GPUS` of `mvgal_core.h`. -/
def maxGpus : Nat := 8

/-- `mask & (1 << i)`, as a condition. -/
def inMask (mask : UInt32) (i : Nat) : Bool := mask &&& (1 <<< UInt32.ofNat i) != 0

/-- Which members of `struct mvgal_vendor_ops` are set. -/
structure VendorOps where
  init : Bool
  allocVram : Bool
  freeVram : Bool
deriving DecidableEq

/-- `struct mvgal_gpu_device`. `handle` is its address, `devfn` that of its PCI device. -/
structure Gpu where
  handle : Nat
  devfn : UInt32
  available : Bool
  enabled : Bool
  utilization : UInt32
  gpuIndex : UInt32
  ops : Option VendorOps
deriving DecidableEq

/-- `gpu->ops && gpu->ops->alloc_vram`. -/
def Gpu.allocates (gpu : Gpu) : Bool := gpu.ops.any VendorOps.allocVram

/-- `gpu->ops && gpu->ops->free_vram`. -/
def Gpu.frees (gpu : Gpu) : Bool := gpu.ops.any VendorOps.freeVram

end Mvgal.Kernel
