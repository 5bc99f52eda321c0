import Mvgal.Scheduler.Accounting
import Mvgal.Scheduler.Cancel
import Mvgal.Scheduler.Alternation
import Mvgal.Scheduler.Pause
import Mvgal.Scheduler.References
import Mvgal.Memory.Bounds
import Mvgal.Memory.Totals
import Mvgal.Memory.Refcounts
import Mvgal.Sync.Semaphore
import Mvgal.Kernel.Vram
import Mvgal.Kernel.Device
import Mvgal.Kernel.Dvfs
import Mvgal.Kernel.Select
import Mvgal.Kernel.Ioctl
import Mvgal.Kernel.Sysfs
import Mvgal.Kernel.Timelines
import Mvgal.Runtime.FenceWaiters
import Mvgal.Runtime.MemoryTracker
import Mvgal.Safe.Allocations
import Mvgal.Safe.Fences
import Mvgal.Runtime.Capabilities
import Mvgal.Runtime.IpcServer
import Mvgal.Runtime.RemoteGpus
import Mvgal.Runtime.EventLoop
import Mvgal.Runtime.WaitWorkload
import Mvgal.Runtime.MemoryManager
import Mvgal.Compat.NtSemaphore
import Mvgal.Compat.NtWaitAll
import Mvgal.Compat.NtMutex
import Mvgal.Compat.NtPolls
import Mvgal.Execution.InFlight
import Mvgal.Execution.Balance
import Mvgal.Execution.Strategy
import Mvgal.Rewrite.AfrFrames
import Mvgal.Rewrite.ComputeSplit
import Mvgal.Daemon.Save
import Mvgal.Daemon.HandleClient
import Mvgal.Steam.FramePacer
import Mvgal.Steam.Spacing
import Mvgal.Power.Resume
import Mvgal.Power.Throttle
import Mvgal.Power.Parking
import Mvgal.Power.LazyInit
import Mvgal.Api.Log
import Mvgal.Api.InitConfig
import Mvgal.Daemon.Rescan
import Mvgal.Kernel.UvaTree
import Mvgal.Memory.Rights
import Mvgal.Memory.CopyRegions
import Mvgal.Memory.Shutdown
import Mvgal.Memory.Detach
import Mvgal.Icd.Devices
import Mvgal.Icd.CommandPools
import Mvgal.Runtime.DeviceRegistry
import Mvgal.Runtime.IdleStates
import Mvgal.Vulkan.Rotation
