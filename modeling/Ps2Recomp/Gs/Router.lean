import Ps2Recomp.Gs.Footprint
import Ps2Recomp.Lib.HandOver

/-!
# GS backend router: the model

`GsBackendRouter` of `ps2_gs_backend.cpp` chooses for every draw whether the software rasterizer or
the accelerated backend executes it. Draws of the Hybrid mode may be held back until enough of them
have come to be worth the change of backend.

The backends are seen through the calls that the router makes, kept in `calls`, the newest first.
A backend is an ordered queue: `submit` appends to it, `flush` executes it, and so does a
`prepareCpuVramAccess` of the accelerated backend that conflicts with what it holds. What the
accelerated backend answers is a parameter and may depend on all the calls before. The counters of
the router are left out.
-/

namespace Ps2Recomp

open HandOver (queue handed executed)

/-! ## Commands -/

/-- What the router reads of a `GsDrawCommand`. `boundsExact` is `bounds().exact`. -/
structure GsDrawCommand where
  primitive : GSPrimReg
  context : GSContext
  bounds : GsDrawBounds
  boundsExact : Bool
  texturePages : GsVramPageMask
  mipPages : GsVramPageMask
  clutPages : GsVramPageMask
  unknownTextureLayout : Bool

def GsDrawCommand.resources (command : GsDrawCommand) : GsDrawResources :=
  describeResources command.primitive command.context command.bounds command.texturePages
    command.mipPages command.clutPages command.unknownTextureLayout

def drawPixelCount (command : GsDrawCommand) : Nat :=
  if command.bounds.empty then 0
  else (command.bounds.x1 - command.bounds.x0).toNat * (command.bounds.y1 - command.bounds.y0).toNat

/-- A command that touches nothing whatever its state. -/
def GsDrawCommand.exactlyEmpty (command : GsDrawCommand) : Bool :=
  command.boundsExact && command.bounds.empty

inductive GsRendererMode
  | Software | Hybrid | Verify | GpuStrict
  deriving DecidableEq

inductive GsFlushReason
  | Explicit | Transfer | CpuReadback | FeedbackSnapshot | ClutHazard | Finish | PresentationLatch
  | DebuggerObservation | BackendSwitch | Reset | SaveLoad | Shutdown | QueueBackpressure
  | ResourceHazard | PipelineChange | Count
  deriving DecidableEq

inductive GsFallbackReason
  | Supported | BackendUnavailable | EmptyBounds | InexactBounds | UnsupportedPrimitive
  | UnsupportedPrimitiveState | UnsupportedFramebufferFormat | Textured | UnsupportedTextureState
  | UnsupportedTextureFormat | UnsupportedTextureFunction | UnsupportedTextureCoordinates
  | UnsupportedTextureFilter | UnsupportedTextureWrap | GouraudShading | Fog | AlphaBlend
  | AlphaTest | DestinationAlphaTest | FramebufferMask | FramebufferAlphaCorrection | Dither | ScanMask
  | UnsupportedDepthFormat | UnsupportedDepthFunction | DepthRead | DepthWrite | DestinationRead
  | ResourceAlias | UnknownMemoryLayout | CostModel | Count
  deriving DecidableEq

structure GsBackendDecision where
  supported : Bool := false
  reason : GsFallbackReason := .UnsupportedPrimitive

structure GsSubmissionResult where
  submitted : Bool := false
  usedSoftware : Bool := false
  usedAccelerated : Bool := false
  decision : GsBackendDecision := {}

structure GsHybridBatchPolicy where
  minimumPixels : Nat := 0
  maximumCommands : Nat := 0
  deriving DecidableEq

def GsHybridBatchPolicy.deferred (policy : GsHybridBatchPolicy) : Bool :=
  policy.minimumPixels ≠ 0 && policy.maximumCommands ≠ 0

def flushRequiresCanonicalCpuVram : GsFlushReason → Bool
  | .Explicit | .Finish | .PresentationLatch | .DebuggerObservation | .Reset | .SaveLoad
  | .Shutdown => true
  | .BackendSwitch | .QueueBackpressure | .ResourceHazard | .PipelineChange | .Transfer
  | .CpuReadback | .FeedbackSnapshot | .ClutHazard | .Count => false

/-! ## Backends -/

inductive RasterBackend
  | Software | Accelerated
  deriving DecidableEq, Inhabited

inductive BackendCall
  | recordNoop
  | submit (backend : RasterBackend) (commands : List GsDrawCommand)
  | flush (backend : RasterBackend) (reason : GsFlushReason)
  | prepareCpuVramAccess (readPages writePages : GsVramPageMask) (reason : GsFlushReason)
  | noteCpuVramWrite (pages : GsVramPageMask)

/-- The answers of an accelerated backend, each given the calls before. `conflicts` is whether a
`prepareCpuVramAccess` of these pages executes the queued work. -/
structure IGsRasterBackend where
  classify : List BackendCall → GsDrawCommand → GsBackendDecision
  hybridBatchPolicy : List BackendCall → GsDrawCommand → GsHybridBatchPolicy
  hybridBatchCompatible : List BackendCall → GsDrawCommand → GsDrawCommand → Bool
  conflicts : List BackendCall → GsVramPageMask → GsVramPageMask → Bool

/-- What the calls do to the queues of the backends. -/
def effects (accelerated : Option IGsRasterBackend) :
    List BackendCall → List (HandOver.Step RasterBackend GsDrawCommand)
  | [] => []
  | .submit backend commands :: older => .submit backend commands :: effects accelerated older
  | .flush backend _ :: older => .execute backend :: effects accelerated older
  | .prepareCpuVramAccess readPages writePages _ :: older =>
      if accelerated.any (·.conflicts older readPages writePages) then
        .execute .Accelerated :: effects accelerated older
      else effects accelerated older
  | .recordNoop :: older => effects accelerated older
  | .noteCpuVramWrite _ :: older => effects accelerated older

/-! ## The router -/

/-- `GsBackendRouter`. `activeBackend` is `none` for `ActiveBackend::None`. -/
structure GsBackendRouter where
  acceleratedBackend : Option IGsRasterBackend
  mode : GsRendererMode := .Software
  activeBackend : Option RasterBackend := none
  pendingHybridCommands : List GsDrawCommand := []
  pendingHybridPixels : Nat := 0
  pendingHybridPolicy : GsHybridBatchPolicy := {}
  admittedHybridTail : Option GsDrawCommand := none
  admittedHybridPolicy : GsHybridBatchPolicy := {}
  calls : List BackendCall := []

namespace GsBackendRouter

def call (r : GsBackendRouter) (made : BackendCall) : GsBackendRouter :=
  { r with calls := made :: r.calls }

def effects (r : GsBackendRouter) : List (HandOver.Step RasterBackend GsDrawCommand) :=
  Ps2Recomp.effects r.acceleratedBackend r.calls

/-- `pendingCommandCount` of the accelerated backend. -/
def pendingCommandCount (r : GsBackendRouter) : Nat := (queue .Accelerated r.effects).length

def drainActive (r : GsBackendRouter) (reason : GsFlushReason) : GsBackendRouter :=
  match r.activeBackend with
  | some .Software => r.call (.flush .Software reason)
  | some .Accelerated =>
      if r.acceleratedBackend.isSome then r.call (.flush .Accelerated reason) else r
  | none => r

def transitionTo (r : GsBackendRouter) (backend : RasterBackend) : GsBackendRouter :=
  if r.activeBackend = none ∨ r.activeBackend = some backend then
    { r with activeBackend := some backend }
  else { r.drainActive .BackendSwitch with activeBackend := some backend }

def synchronizeCpuVram (r : GsBackendRouter) (readPages writePages : GsVramPageMask)
    (reason : GsFlushReason) : GsBackendRouter :=
  if r.acceleratedBackend.isSome && (readPages.any || writePages.any) then
    r.call (.prepareCpuVramAccess readPages writePages reason)
  else r

/-- `synchronizeCpuVram(pages, reason)`: the one-mask form of `prepareCpuVramAccess` is the access
that reads and writes these pages. -/
def synchronizePages (r : GsBackendRouter) (pages : GsVramPageMask) (reason : GsFlushReason) :
    GsBackendRouter :=
  if r.acceleratedBackend.isSome && pages.any then
    r.call (.prepareCpuVramAccess pages pages reason)
  else r

/-- `if (m_acceleratedBackend) m_acceleratedBackend->noteCpuVramWrite(pages)`. -/
def noteCpuVramWrite (r : GsBackendRouter) (pages : GsVramPageMask) : GsBackendRouter :=
  if r.acceleratedBackend.isSome then r.call (.noteCpuVramWrite pages) else r

def resetTail (r : GsBackendRouter) : GsBackendRouter :=
  { r with admittedHybridTail := none, admittedHybridPolicy := {} }

/-- The hand-over to the software rasterizer, of a fallback command and of a deferred run. -/
def submitSoftware (r : GsBackendRouter) (commands : List GsDrawCommand)
    (readPages writePages : GsVramPageMask) : GsBackendRouter :=
  let r := r.transitionTo .Software
  let r := r.synchronizeCpuVram readPages writePages .BackendSwitch
  let r := r.call (.submit .Software commands)
  let r := r.noteCpuVramWrite writePages
  { r with activeBackend := some .Software }

def submitAccelerated (r : GsBackendRouter) (commands : List GsDrawCommand) : GsBackendRouter :=
  let r := r.transitionTo .Accelerated
  let r := r.call (.submit .Accelerated commands)
  { r with activeBackend := some .Accelerated }

/-- The union of one kind of page masks over a run of commands. -/
def unionPages (pages : GsDrawCommand → GsVramPageMask) (commands : List GsDrawCommand) :
    GsVramPageMask :=
  commands.foldl (fun mask command => mask.unionWith (pages command)) {}

def clearPending (r : GsBackendRouter) : GsBackendRouter :=
  { r with pendingHybridCommands := [], pendingHybridPixels := 0, pendingHybridPolicy := {} }

def resolvePendingHybrid (r : GsBackendRouter) (accelerate : Bool) :
    Except String GsBackendRouter :=
  if r.pendingHybridCommands = [] then .ok r
  else if accelerate then
    if r.acceleratedBackend.isNone then
      .error "deferred Hybrid run lost its accelerated backend"
    else
      .ok { r.submitAccelerated r.pendingHybridCommands with
        admittedHybridTail := r.pendingHybridCommands.getLast?
        admittedHybridPolicy := r.pendingHybridPolicy }.clearPending
  else
    .ok (r.submitSoftware r.pendingHybridCommands
      (unionPages (·.resources.readPages) r.pendingHybridCommands)
      (unionPages (·.resources.writePages) r.pendingHybridCommands)).resetTail.clearPending

/-! ## Submission -/

def classify (r : GsBackendRouter) (command : GsDrawCommand) : GsBackendDecision :=
  match r.acceleratedBackend with
  | some accelerated => accelerated.classify r.calls command
  | none => { supported := false, reason := .BackendUnavailable }

def hybridPolicy (r : GsBackendRouter) (command : GsDrawCommand) : GsHybridBatchPolicy :=
  if r.mode = .Hybrid && (r.classify command).supported then
    match r.acceleratedBackend with
    | some accelerated => accelerated.hybridBatchPolicy r.calls command
    | none => {}
  else {}

/-- The command continues a run that ended with `last`. -/
def compatible (r : GsBackendRouter) (policy runPolicy : GsHybridBatchPolicy)
    (last command : GsDrawCommand) : Bool :=
  policy.deferred && policy.minimumPixels = runPolicy.minimumPixels &&
    policy.maximumCommands = runPolicy.maximumCommands &&
    r.acceleratedBackend.any (·.hybridBatchCompatible r.calls last command)

/-- The saturating sum of `uint64_t` pixel counts. -/
def addPixels (pending pixels : Nat) : Nat :=
  if pixels ≤ 2 ^ 64 - 1 - pending then pending + pixels else 2 ^ 64 - 1

def deferCommand (r : GsBackendRouter) (command : GsDrawCommand) (policy : GsHybridBatchPolicy) :
    GsBackendRouter :=
  let r :=
    if r.pendingHybridCommands = [] then
      { r with pendingHybridPolicy := policy, pendingHybridPixels := 0 }
    else r
  { r with
    pendingHybridCommands := r.pendingHybridCommands ++ [command]
    pendingHybridPixels := addPixels r.pendingHybridPixels (drawPixelCount command) }

/-- The branch of `submit` for a command with a deferring policy. -/
def submitDeferred (r : GsBackendRouter) (command : GsDrawCommand) (policy : GsHybridBatchPolicy)
    (decision : GsBackendDecision) : Except String (GsSubmissionResult × GsBackendRouter) := do
  let r := r.deferCommand command policy
  if r.pendingHybridPixels ≥ r.pendingHybridPolicy.minimumPixels then
    let r ← r.resolvePendingHybrid true
    return ({ submitted := true, usedAccelerated := true, decision }, r)
  else if r.pendingHybridCommands.length ≥ r.pendingHybridPolicy.maximumCommands then
    let r ← r.resolvePendingHybrid false
    return ({ submitted := true, usedSoftware := true,
              decision := { supported := false, reason := .CostModel } }, r)
  else return ({ submitted := true, decision }, r)

/-- The branch of `submit` for a command that is routed at once. -/
def submitRouted (r : GsBackendRouter) (command : GsDrawCommand) (decision : GsBackendDecision) :
    GsSubmissionResult × GsBackendRouter :=
  if decision.supported then
    ({ submitted := true, usedAccelerated := true, decision }, r.submitAccelerated [command])
  else if r.mode = .GpuStrict then ({ submitted := false, decision }, r)
  else
    ({ submitted := true, usedSoftware := true, decision },
      r.submitSoftware [command] command.resources.readPages command.resources.writePages)

/-- The deferred run is resolved unless the command joins it. -/
def leaveRun (r : GsBackendRouter) (command : GsDrawCommand) (policy : GsHybridBatchPolicy) :
    Except String GsBackendRouter :=
  match r.pendingHybridCommands.getLast? with
  | some last =>
      if r.compatible policy r.pendingHybridPolicy last command then .ok r
      else r.resolvePendingHybrid false
  | none => .ok r

/-- `submit` after the admitted run. -/
def submitUnadmitted (r : GsBackendRouter) (command : GsDrawCommand)
    (policy : GsHybridBatchPolicy) (decision : GsBackendDecision) :
    Except String (GsSubmissionResult × GsBackendRouter) := do
  let r ← r.leaveRun command policy
  if policy.deferred then r.submitDeferred command policy decision
  else return r.submitRouted command decision

/-- The branch of `submit` in the Software mode. -/
def submitSoftwareMode (r : GsBackendRouter) (command : GsDrawCommand) : GsBackendRouter :=
  let r := r.transitionTo .Software
  let r :=
    if r.acceleratedBackend.isSome then
      let resources := command.resources
      let r := r.synchronizeCpuVram resources.readPages resources.writePages .BackendSwitch
      let r := r.call (.submit .Software [command])
      r.call (.noteCpuVramWrite resources.writePages)
    else r.call (.submit .Software [command])
  { r with activeBackend := some .Software }

def submit (r : GsBackendRouter) (command : GsDrawCommand) :
    Except String (GsSubmissionResult × GsBackendRouter) :=
  if command.exactlyEmpty then
    .ok ({ submitted := true, decision := { supported := true, reason := .EmptyBounds } },
      r.call .recordNoop)
  else if r.mode = .Software then
    .ok ({ submitted := true, usedSoftware := true,
           decision := { supported := true, reason := .Supported } },
      r.submitSoftwareMode command)
  else
    let decision := r.classify command
    let policy := r.hybridPolicy command
    match r.admittedHybridTail with
    | some tail =>
        if r.compatible policy r.admittedHybridPolicy tail command then
          .ok ({ submitted := true, usedAccelerated := true, decision },
            { r.submitAccelerated [command] with admittedHybridTail := some command })
        else r.resetTail.submitUnadmitted command policy decision
    | none => r.submitUnadmitted command policy decision

def submitNoop (r : GsBackendRouter) : GsSubmissionResult × GsBackendRouter :=
  ({ submitted := true, decision := { supported := true, reason := .EmptyBounds } },
    r.call .recordNoop)

/-! ## Flushes and accesses of the CPU -/

/-- `flush` after the deferred run is resolved. -/
def flushResolved (r : GsBackendRouter) (reason : GsFlushReason) : GsBackendRouter :=
  if reason = .Shutdown then
    let r := if r.activeBackend = some .Software then r.call (.flush .Software reason) else r
    let r := if r.acceleratedBackend.isSome then r.call (.flush .Accelerated reason) else r
    { r with activeBackend := none }
  else
    let requiresCpuVram := flushRequiresCanonicalCpuVram reason
    let r :=
      if requiresCpuVram && r.activeBackend = some .Software then r.call (.flush .Software reason)
      else r
    let r :=
      if requiresCpuVram then
        let r := r.synchronizePages .setAll reason
        if r.activeBackend = some .Accelerated && r.acceleratedBackend.isSome then
          r.call (.flush .Accelerated reason)
        else r
      else r.drainActive reason
    { r with activeBackend := none }

def flush (r : GsBackendRouter) (reason : GsFlushReason) : Except String GsBackendRouter := do
  let r ← r.resolvePendingHybrid false
  return r.resetTail.flushResolved reason

/-- `flushForCpuReadback` after the deferred run is resolved. -/
def readbackResolved (r : GsBackendRouter) (readPages : GsVramPageMask) (reason : GsFlushReason) :
    GsBackendRouter :=
  let r := r.drainActive reason
  let r := r.synchronizePages readPages reason
  { r with activeBackend := none }

def flushForCpuReadback (r : GsBackendRouter) (readPages : GsVramPageMask)
    (reason : GsFlushReason) : Except String GsBackendRouter := do
  let r ← r.resolvePendingHybrid false
  return r.resetTail.readbackResolved readPages reason

/-- `beginCpuVramAccess` after the deferred run is resolved. -/
def beginResolved (r : GsBackendRouter) (readPages writePages : GsVramPageMask)
    (reason : GsFlushReason) : GsBackendRouter :=
  let r := if r.activeBackend = some .Software then r.drainActive reason else r
  let r := r.synchronizeCpuVram readPages writePages reason
  { r with
    activeBackend :=
      if r.acceleratedBackend.isSome && r.pendingCommandCount ≠ 0 then some .Accelerated
      else none }

def beginCpuVramAccess (r : GsBackendRouter) (readPages writePages : GsVramPageMask)
    (reason : GsFlushReason) : Except String GsBackendRouter := do
  let r ← r.resolvePendingHybrid false
  return r.resetTail.beginResolved readPages writePages reason

def endCpuVramAccess (r : GsBackendRouter) (writePages : GsVramPageMask) : GsBackendRouter :=
  r.noteCpuVramWrite writePages

def setMode (r : GsBackendRouter) (mode : GsRendererMode) :
    Except String (Bool × GsBackendRouter) :=
  if r.mode = mode then .ok (true, r)
  else if mode ≠ .Software && r.acceleratedBackend.isNone then .ok (false, r)
  else do
    let r ← r.flush .BackendSwitch
    let r := r.synchronizePages .setAll .BackendSwitch
    return (true, { r with mode := mode })

/-! ## Sequences of operations -/

end GsBackendRouter

inductive RouterOp
  | submit (command : GsDrawCommand)
  | submitNoop
  | flush (reason : GsFlushReason)
  | flushForCpuReadback (readPages : GsVramPageMask) (reason : GsFlushReason)
  | beginCpuVramAccess (readPages writePages : GsVramPageMask) (reason : GsFlushReason)
  | endCpuVramAccess (writePages : GsVramPageMask)
  | setMode (mode : GsRendererMode)

namespace GsBackendRouter

/-- One operation, with the nonempty command that it reports accepted. -/
def step (r : GsBackendRouter) : RouterOp → Except String (List GsDrawCommand × GsBackendRouter)
  | .submit command => do
      let (result, r) ← r.submit command
      return (if result.submitted && !command.exactlyEmpty then [command] else [], r)
  | .submitNoop => .ok ([], r.submitNoop.2)
  | .flush reason => return ([], ← r.flush reason)
  | .flushForCpuReadback readPages reason => return ([], ← r.flushForCpuReadback readPages reason)
  | .beginCpuVramAccess readPages writePages reason =>
      return ([], ← r.beginCpuVramAccess readPages writePages reason)
  | .endCpuVramAccess writePages => .ok ([], r.endCpuVramAccess writePages)
  | .setMode mode => do
      let (_, r) ← r.setMode mode
      return ([], r)

/-- A sequence of operations, with the commands accepted along it. -/
def run (r : GsBackendRouter) : List RouterOp → Except String (List GsDrawCommand × GsBackendRouter)
  | [] => .ok ([], r)
  | op :: ops => do
      let (accepted, r) ← r.step op
      let (more, r) ← r.run ops
      return (accepted ++ more, r)

/-- The command joins the deferred run, or there is none. -/
def joinsRun (r : GsBackendRouter) (command : GsDrawCommand) : Bool :=
  match r.pendingHybridCommands.getLast? with
  | some last => r.compatible (r.hybridPolicy command) r.pendingHybridPolicy last command
  | none => true

/-- The operations that may take effect only after the deferred run: incompatible commands,
flushes, changes of the mode and accesses of the CPU. -/
def endsRun (r : GsBackendRouter) : RouterOp → Bool
  | .submit command => !command.exactlyEmpty && !r.joinsRun command
  | .flush _ | .flushForCpuReadback _ _ | .beginCpuVramAccess _ _ _ => true
  | .setMode mode => r.mode ≠ mode && (mode = .Software || r.acceleratedBackend.isSome)
  | .submitNoop | .endCpuVramAccess _ => false

end GsBackendRouter

end Ps2Recomp
