import Ps2Recomp.SaveState.RuntimeCoreLoad

/-!
# Save states along runs

A run takes a runtime and its scheduler through arbitrary calls: any scheduler call, the registry's
operations, any change of a registered thread's other members, and saving, loading and starting
again. A system call publishes a sequence of such steps, so a run reaches every state of the runtime
at an executor boundary, and more.

Along every run that hands out fewer than `2 ^ 64` queue sequences the scheduler stays well-formed
and the registry keeps its ids, generations and priorities (`kept_of_run`). A state of such a run
loads back exactly if it is `Loadable` (`runtime_core_loads_back_iff`).
-/

namespace Ps2Recomp

open Machine EeThreadScheduler

/-! ## The registry's operations -/

namespace EeThreadRuntimeState

variable (state : EeThreadRuntimeState)

/-- `allocateThreadGenerationLocked`: the counter skips zero when it wraps. -/
def allocateThreadGeneration : Nat × EeThreadRuntimeState :=
  let generation := if state.nextGeneration = 0 then 1 else state.nextGeneration
  (generation.toNat, { state with nextGeneration := generation + 1 })

/-- The id that the loop of `CreateThread` tries: `nextThreadId`, or 2 if it is out of range. -/
def candidateId (nextThreadId : Int) : Int :=
  if nextThreadId < 2 ∨ 0xFF < nextThreadId then 2 else nextThreadId

/-- The loop of `CreateThread` over the ids from 2 to 255: the id found, and `nextThreadId`. -/
def findThreadId (threads : Finmap (fun _ : Int => ThreadInfo)) : Nat → Int → Option Int × Int
  | 0, nextThreadId => (none, nextThreadId)
  | attempts + 1, nextThreadId =>
    let candidate := candidateId nextThreadId
    let next := if 0xFF ≤ candidate then 2 else candidate + 1
    if (threads.lookup candidate).isNone then (some candidate, next)
    else findThreadId threads attempts next

/-- The members of the `ThreadParam` that `CreateThread` reads. -/
structure ThreadParameters where
  entry : UInt32 := 0
  stack : UInt32 := 0
  stackSize : UInt32 := 0
  gp : UInt32 := 0
  priority : UInt32 := 0
  deriving DecidableEq

/-- The `ThreadInfo` that `CreateThread` makes. -/
def createdInfo (parameters : ThreadParameters) (generation : Nat) : ThreadInfo :=
  let priority := if 128 ≤ parameters.priority.toNat then 127 else parameters.priority.toNat
  { entry := parameters.entry
    stack := parameters.stack
    stackSize := parameters.stackSize
    gp := parameters.gp
    priority := priority
    generation := generation
    guestState := ({} : EeThreadGuestState).setCurrentPriority priority }

/-- `CreateThread` on the registry. -/
def createThread (parameters : ThreadParameters) : EeThreadRuntimeState :=
  let (generation, state) := state.allocateThreadGeneration
  match findThreadId state.threads 0xFE state.nextThreadId with
  | (none, next) => { state with nextThreadId := next }
  | (some id, next) =>
    { state with
      nextThreadId := next
      threads := state.threads.insert id (createdInfo parameters generation) }

/-- `ensureCurrentThreadInfo`, for a current thread with an id that `CreateThread` hands out, or 1.
The entry point and the stack are those of the thread's context. -/
def ensureThreadInfo (threadId : Int) (context : R5900Context) : EeThreadRuntimeState :=
  if threadId < 1 ∨ 0xFF < threadId ∨ (state.threads.lookup threadId).isSome then state
  else
    let (generation, state) := state.allocateThreadGeneration
    { state with
      threads := state.threads.insert threadId
        { generation := generation
          guestState := ({} : EeThreadGuestState).initializeRunning 0
          entry := context.pc
          stack := context.getRegU32 29
          gp := context.getRegU32 28 } }

end EeThreadRuntimeState

/-! ## Steps -/

inductive RuntimeStep (Sections : Type) where
  | scheduler (op : SchedulerOp)
  | createThread (parameters : EeThreadRuntimeState.ThreadParameters)
  | ensureThreadInfo (threadId : Int) (context : R5900Context)
  | eraseThread (threadId : Int)
  | clearThreads
  /-- Any change of a thread's members other than its generation and its base priority. -/
  | updateThread (threadId : Int) (update : ThreadInfo → ThreadInfo)
  | setCurrentThread (threadId : Int)
  | setCpuContext (context : R5900Context)
  | setSections (sections : Sections)
  /-- Save, load into a fresh runtime and start it, if the payload is accepted. -/
  | reload

/-- The runtime and its scheduler, with the account of the queue sequences handed out. -/
structure RuntimeLedger (Sections : Type) where
  ledger : Ledger := {}
  runtime : PS2Runtime Sections

namespace RuntimeLedger

variable {Sections : Type} (checkSections : Sections → Except String Unit)
  (r : RuntimeLedger Sections)

/-- Replace the registry. -/
def setThreads (threads : Finmap (fun _ : Int => ThreadInfo)) : RuntimeLedger Sections :=
  { r with
    runtime := { r.runtime with threadState := { r.runtime.threadState with threads := threads } } }

/-- The member of a thread that a step changed, in the registry. -/
def updatedInfo (update : ThreadInfo → ThreadInfo) (info : ThreadInfo) : ThreadInfo :=
  { update info with generation := info.generation, priority := info.priority }

def step : RuntimeStep Sections → RuntimeLedger Sections
  | .scheduler op => { r with ledger := r.ledger.step op }
  | .createThread parameters =>
    { r with
      runtime :=
        { r.runtime with threadState := r.runtime.threadState.createThread parameters } }
  | .ensureThreadInfo threadId context =>
    { r with
      runtime :=
        { r.runtime with
          threadState := r.runtime.threadState.ensureThreadInfo threadId context } }
  | .eraseThread threadId => r.setThreads (r.runtime.threadState.threads.erase threadId)
  | .clearThreads => r.setThreads ∅
  | .updateThread threadId update =>
    match r.runtime.info? threadId with
    | none => r
    | some info =>
      r.setThreads (r.runtime.threadState.threads.insert threadId (updatedInfo update info))
  | .setCurrentThread threadId =>
    { r with
      runtime :=
        { r.runtime with
          threadState := { r.runtime.threadState with currentThreadId := threadId } } }
  | .setCpuContext context => { r with runtime := { r.runtime with cpuContext := context } }
  | .setSections sections => { r with runtime := { r.runtime with sections := sections } }
  | .reload =>
    match r.runtime.saveAndLoad checkSections r.ledger.scheduler with
    | .error _ => r
    | .ok result =>
      { ledger :=
          { scheduler := result.scheduler
            drawn := r.ledger.drawn
            allocated := result.scheduler.nextQueueSequence.val - 1 }
        runtime := result.runtime }

/-- A runtime before its first thread. -/
def boot (cpuContext : R5900Context) (sections : Sections) : RuntimeLedger Sections :=
  { runtime := { cpuContext := cpuContext, sections := sections } }

/-- A step leaves fewer than `2 ^ 64` queue sequences handed out. -/
def Below (a : RuntimeStep Sections) : Prop :=
  (step checkSections r a).ledger.allocated < uint64Count

instance (a : RuntimeStep Sections) : Decidable (Below checkSections r a) := Nat.decLt _ _

end RuntimeLedger

/-! ## What every run keeps -/

namespace PS2Runtime.Registered

variable {Sections : Type} {runtime : PS2Runtime Sections}

/-- The registry is all that counts. -/
theorem congr {other : PS2Runtime Sections} (reg : runtime.Registered)
    (h : ∀ i, other.info? i = runtime.info? i) : other.Registered where
  ids hi := reg.ids (h _ ▸ hi)
  generations hi := reg.generations (h _ ▸ hi)
  priorities hi := reg.priorities (h _ ▸ hi)

/-- A new or changed entry. -/
theorem insert {other : PS2Runtime Sections} (reg : runtime.Registered) {id : Int}
    {info : ThreadInfo} (h : other.threadState.threads = runtime.threadState.threads.insert id info)
    (hid : 1 ≤ id ∧ id ≤ 0xFF) (hgen : info.generation ≠ 0) (hprio : info.priority < 128) :
    other.Registered := by
  have hlookup : ∀ i, other.info? i = if i = id then some info else runtime.info? i := by
    intro i
    unfold info?
    rw [h]
    split
    · rename_i he
      rw [he, Finmap.lookup_insert]
    · rename_i he
      rw [Finmap.lookup_insert_of_ne _ he]
  refine ⟨fun {i j} hi => ?_, fun {i j} hi => ?_, fun {i j} hi => ?_⟩ <;>
    rw [hlookup] at hi <;> split at hi
  · rename_i he
    exact he ▸ hid
  · exact reg.ids hi
  · cases hi
    exact hgen
  · exact reg.generations hi
  · cases hi
    exact hprio
  · exact reg.priorities hi

end PS2Runtime.Registered

namespace EeThreadRuntimeState

theorem allocateThreadGeneration_ne_zero (state : EeThreadRuntimeState) :
    state.allocateThreadGeneration.1 ≠ 0 := by
  unfold allocateThreadGeneration
  simp only
  split
  · decide
  · rename_i hne
    intro h0
    exact hne (UInt32.toNat_inj.mp h0)

theorem findThreadId_range {threads : Finmap (fun _ : Int => ThreadInfo)} {attempts : Nat}
    {nextThreadId id : Int} (h : (findThreadId threads attempts nextThreadId).1 = some id) :
    1 ≤ id ∧ id ≤ 0xFF := by
  induction attempts generalizing nextThreadId with
  | zero => cases h
  | succ attempts ih =>
    unfold findThreadId at h
    simp only at h
    split at h
    · obtain rfl := Option.some.inj h
      unfold candidateId
      split <;> omega
    · exact ih h

end EeThreadRuntimeState

namespace RuntimeLedger

open PS2Runtime

variable {Sections : Type} {checkSections : Sections → Except String Unit}
  {r : RuntimeLedger Sections}

/-- What every run keeps. -/
structure Kept (r : RuntimeLedger Sections) : Prop where
  account : r.ledger.Account
  registered : r.runtime.Registered

theorem kept_boot (cpuContext : R5900Context) (sections : Sections) :
    Kept (boot cpuContext sections) where
  account := Ledger.account_empty
  registered := ⟨fun hi => absurd hi (by simp [boot, info?]),
    fun hi => absurd hi (by simp [boot, info?]), fun hi => absurd hi (by simp [boot, info?])⟩

theorem Kept.createThread (k : Kept r) (parameters : EeThreadRuntimeState.ThreadParameters) :
    (step checkSections r (.createThread parameters)).runtime.Registered := by
  unfold step EeThreadRuntimeState.createThread
  simp only
  cases hfind : EeThreadRuntimeState.findThreadId
      r.runtime.threadState.allocateThreadGeneration.2.threads 0xFE
      r.runtime.threadState.allocateThreadGeneration.2.nextThreadId with
  | mk found next =>
    cases found with
    | none => exact k.registered.congr fun _ => rfl
    | some id =>
      refine k.registered.insert rfl (EeThreadRuntimeState.findThreadId_range (by rw [hfind]))
        (EeThreadRuntimeState.allocateThreadGeneration_ne_zero _) ?_
      unfold EeThreadRuntimeState.createdInfo
      simp only
      split <;> omega

theorem Kept.ensureThreadInfo (k : Kept r) (threadId : Int) (context : R5900Context) :
    (step checkSections r (.ensureThreadInfo threadId context)).runtime.Registered := by
  unfold step EeThreadRuntimeState.ensureThreadInfo
  simp only
  split
  · exact k.registered.congr fun _ => rfl
  · rename_i hcan
    rw [not_or, not_or, not_lt, not_lt] at hcan
    exact k.registered.insert rfl ⟨hcan.1, hcan.2.1⟩
      (EeThreadRuntimeState.allocateThreadGeneration_ne_zero _) (Nat.zero_lt_succ 127)

theorem Kept.updateThread (k : Kept r) (threadId : Int) (update : ThreadInfo → ThreadInfo) :
    Kept (step checkSections r (.updateThread threadId update)) := by
  simp only [step]
  cases hinfo : r.runtime.info? threadId with
  | none => exact k
  | some info =>
    have hgen : info.generation ≠ 0 := k.registered.generations hinfo
    have hprio : info.priority < 128 := k.registered.priorities hinfo
    exact ⟨k.account, k.registered.insert rfl (k.registered.ids hinfo) hgen hprio⟩

/-- A loaded runtime has the registry of the saved one. -/
theorem Kept.reload (k : Kept r) : Kept (step checkSections r .reload) := by
  unfold step
  simp only
  split
  · exact k
  · rename_i result hresult
    have w := k.account.wf
    have hrestored := restored_of_saveAndLoad w k.registered hresult
    obtain ⟨hn, hnext⟩ := restoreCandidate_next hrestored.seeded
    have hn' : result.scheduler.nextQueueSequence.val ≠ 0 := by
      rw [hnext]
      exact fun e => hn (Fin.ext e)
    refine ⟨⟨wf_restoreCandidate hrestored.seeded, ?_, ?_⟩, ?_⟩
    · have := result.scheduler.nextQueueSequence.isLt
      simp only
      omega
    · simp only
      rw [Nat.sub_add_cancel (Nat.one_le_iff_ne_zero.mpr hn'),
        Nat.mod_eq_of_lt result.scheduler.nextQueueSequence.isLt]
    -- an entry of the loaded registry is that of a saved thread
    · have hentry : ∀ {i info}, result.runtime.info? i = some info →
          ∃ saved, r.runtime.info? i = some saved ∧ info.generation = saved.generation ∧
            info.priority = saved.priority := by
        intro i info hi
        cases hsaved : r.runtime.info? i with
        | none =>
          rw [hrestored.loaded.unknown hsaved] at hi
          cases hi
        | some saved =>
          obtain ⟨guest, -, hinfo⟩ := hrestored.loaded.info hsaved
          obtain rfl := Option.some.inj (hi.symm.trans hinfo)
          exact ⟨saved, rfl, recoveredThread_generation i saved, recoveredThread_priority i saved⟩
      refine ⟨fun {i info} hi => ?_, fun {i info} hi => ?_, fun {i info} hi => ?_⟩
      · obtain ⟨saved, hsaved, -, -⟩ := hentry hi
        exact k.registered.ids hsaved
      · obtain ⟨saved, hsaved, hgen, -⟩ := hentry hi
        exact hgen ▸ k.registered.generations hsaved
      · obtain ⟨saved, hsaved, -, hprio⟩ := hentry hi
        exact hprio ▸ k.registered.priorities hsaved

/-- **Every step keeps the scheduler well-formed and the registry's ranges.** -/
theorem kept_step (r : RuntimeLedger Sections) (a : RuntimeStep Sections) (k : Kept r)
    (hlt : Below checkSections r a) : Kept (step checkSections r a) := by
  cases a with
  | scheduler op => exact ⟨Ledger.account_step r.ledger op k.account hlt, k.registered⟩
  | createThread parameters => exact ⟨k.account, k.createThread parameters⟩
  | ensureThreadInfo threadId context => exact ⟨k.account, k.ensureThreadInfo threadId context⟩
  | eraseThread threadId =>
    have herase : ∀ {i info},
        (step checkSections r (.eraseThread threadId)).runtime.info? i = some info →
          r.runtime.info? i = some info := by
      intro i info hi
      by_cases he : i = threadId
      · subst he
        exact absurd (hi.symm.trans (Finmap.lookup_erase _ _)) nofun
      · exact (Finmap.lookup_erase_ne he).symm.trans hi
    exact ⟨k.account, fun hi => k.registered.ids (herase hi),
      fun hi => k.registered.generations (herase hi),
      fun hi => k.registered.priorities (herase hi)⟩
  | clearThreads =>
    have hnone : ∀ {i info},
        (step checkSections r .clearThreads).runtime.info? i ≠ some info := by
      intro i info hi
      exact absurd (hi.symm.trans (Finmap.lookup_empty _)) nofun
    exact ⟨k.account, fun hi => absurd hi hnone, fun hi => absurd hi hnone,
      fun hi => absurd hi hnone⟩
  | updateThread threadId update => exact k.updateThread threadId update
  | setCurrentThread threadId => exact ⟨k.account, k.registered.congr fun _ => rfl⟩
  | setCpuContext context => exact ⟨k.account, k.registered.congr fun _ => rfl⟩
  | setSections sections => exact ⟨k.account, k.registered.congr fun _ => rfl⟩
  | reload => exact k.reload

/-- **What every run keeps.** -/
theorem kept_of_run {cpuContext : R5900Context} {sections : Sections}
    {steps : List (RuntimeStep Sections)}
    (hfew : Along (step checkSections) (Below checkSections) (boot cpuContext sections) steps) :
    Kept (run (step checkSections) (boot cpuContext sections) steps) :=
  invariant kept_step (kept_boot cpuContext sections) hfew

/-- **A state of a run loads back exactly if it is `Loadable`.** -/
theorem runtime_core_loads_back_iff (checkSections : Sections → Except String Unit)
    (cpuContext : R5900Context) (sections : Sections) (steps : List (RuntimeStep Sections))
    (hfew : Along (step checkSections) (Below checkSections) (boot cpuContext sections) steps) :
    let r := run (step checkSections) (boot cpuContext sections) steps
    LoadsBack checkSections r.runtime r.ledger.scheduler ↔
      Loadable checkSections r.runtime r.ledger.scheduler := by
  have k := kept_of_run hfew
  exact loadsBack_iff k.account.wf k.registered

/-! ## A thread suspended in an HLE wait -/

def anySections (_ : Unit) : Except String Unit := .ok ()

/-- The main thread and a worker, which waits on an HLE semaphore. -/
def hleRun : List (RuntimeStep Unit) :=
  [.ensureThreadInfo 1 {}, .scheduler (.addRunningThread 1 1 0),
    .createThread { entry := 0x100000, priority := 5 }, .scheduler (.addDormantThread 2 2 5),
    .scheduler (.startThread ⟨2, 2⟩),
    .updateThread 2 fun info => { info with guestState := info.guestState.start.2 },
    .scheduler (.changeThreadPriority ⟨1, 1⟩ 64),
    .updateThread 1 fun info => { info with guestState := info.guestState.setCurrentPriority 64 },
    .scheduler (.reschedule .HigherPriorityOnly),
    .updateThread 1 fun info => { info with guestState := info.guestState.publishReady },
    .updateThread 2 fun info => { info with guestState := info.guestState.publishRunning },
    .scheduler (.blockCurrentThread ⟨.HleSemaphore, 7⟩),
    .updateThread 2 fun info =>
      { info with guestState := (info.guestState.block .HleSemaphore kWaitSemaphore 7).2 },
    .updateThread 1 fun info => { info with guestState := info.guestState.publishRunning }]

/-- The main thread then suspends the worker. -/
def hleSuspendedRun : List (RuntimeStep Unit) :=
  hleRun ++ [.scheduler (.suspendThread ⟨2, 2⟩),
    .updateThread 2 fun info => { info with guestState := info.guestState.suspend.2 }]

/-- While the worker only waits, the state loads back exactly if it is `Loadable`. -/
theorem hleRun_loads_back_iff :
    let r := run (step anySections) (boot {} ()) hleRun
    LoadsBack anySections r.runtime r.ledger.scheduler ↔
      Loadable anySections r.runtime r.ledger.scheduler :=
  runtime_core_loads_back_iff anySections {} () hleRun (by decide +kernel)

/-- **A state with a thread suspended in an HLE wait does not load back.** -/
theorem suspended_hle_wait_not_loaded :
    ¬ ∀ steps : List (RuntimeStep Unit),
      Along (step anySections) (Below anySections) (boot {} ()) steps →
        LoadsBack anySections (run (step anySections) (boot {} ()) steps).runtime
          (run (step anySections) (boot {} ()) steps).ledger.scheduler := by
  intro h
  have hfew : Along (step anySections) (Below anySections) (boot {} ()) hleSuspendedRun := by
    decide +kernel
  have k := kept_of_run hfew
  have hload := (loadsBack_iff k.account.wf k.registered).mp (h hleSuspendedRun hfew)
  have hworker : ((run (step anySections) (boot {} ()) hleSuspendedRun).ledger.scheduler.thread?
      2).map (fun th => (th.hleWait, th.state)) = some (true, .WaitSuspended) := by
    decide +kernel
  obtain ⟨th, ht, he⟩ := Option.map_eq_some_iff.mp hworker
  obtain ⟨hhle, hst⟩ := Prod.mk.injEq .. ▸ he
  rcases hload.waiters 2 th ht hhle with e | e | e
  · rw [hst] at e
    cases e
  · rw [hst] at e
    cases e
  · rw [hst] at e
    cases e.1

end RuntimeLedger

end Ps2Recomp
