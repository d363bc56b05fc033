import Ps2Recomp.Event.SnapshotRun
import Ps2Recomp.Counter.Chop
import Ps2Recomp.Counter.Predict
import Ps2Recomp.SaveState.RoundTrip
import Ps2Recomp.Gif.Chunking
import Ps2Recomp.Gs.CoherencyRun
import Ps2Recomp.Gs.TransferPages
import Ps2Recomp.Gs.RouterRun
import Ps2Recomp.Vif.Chunking
import Ps2Recomp.Gs.GifShortcuts
import Ps2Recomp.Queue.SpscInterleaving
import Ps2Recomp.Dmac.LifecycleRun
import Ps2Recomp.Tlb.CacheSound
import Ps2Recomp.Vu.CommandRun
import Ps2Recomp.Vu.EpochRun
import Ps2Recomp.Gs.CommandRun
import Ps2Recomp.Vu.CommandAtomic
import Ps2Recomp.Gs.SubmissionRun
import Ps2Recomp.SaveState.Continuation
import Ps2Recomp.Cop0.Count
import Ps2Recomp.Cop0.Performance
import Ps2Recomp.Counter.CountRange
import Ps2Recomp.Gs.DrawResourceCache
import Ps2Recomp.Scheduler.Selection
import Ps2Recomp.Gs.PrimitiveAssembly
import Ps2Recomp.Syscalls.WaitResult
import Ps2Recomp.Dmac.GifDrain
import Ps2Recomp.Dmac.IpuFifoRun
import Ps2Recomp.Dmac.ScratchpadCopy
import Ps2Recomp.Dmac.Vif0Accounting
import Ps2Recomp.Event.Nesting
import Ps2Recomp.Gs.ReadbackExact
import Ps2Recomp.Vif.Contiguous
import Ps2Recomp.Vu.ProgramHandles
import Ps2Recomp.Audio.Adpcm
import Ps2Recomp.Executor.BoundaryRun
import Ps2Recomp.Memory.CodeFilter
import Ps2Recomp.Vu.IrBlock
import Ps2Recomp.Vu.Speculation
import Ps2Recomp.Vu.XgkickRun
import Ps2Recomp.Vu.PairConflict
import Ps2Recomp.Gs.InlineAtomicity
import Ps2Recomp.Mmi.PackedArithmetic
import Ps2Recomp.Mmi.PackedMultiply
import Ps2Recomp.Recomp.ExtractFunctions
import Ps2Recomp.Recomp.LeafFlow
import Ps2Recomp.Recomp.UnalignedAccess
import Ps2Recomp.Recomp.Vu0SyncPlan
import Ps2Recomp.SaveState.MemoryLoad
import Ps2Recomp.Gs.Swizzle
import Ps2Recomp.SaveState.ChunkLoad
import Ps2Recomp.Syscalls.GuestRun
