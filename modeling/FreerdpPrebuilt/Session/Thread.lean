import FreerdpPrebuilt.Session.Command
import FreerdpPrebuilt.Lib.Machine

/-!
# The session thread and the threads that stop it

`Session::start` runs `run` on a thread of its own, inside a `catch_unwind`.
This file transcribes that thread step by step: the context and the bridge box
that `run` owns, the stages of `run_connected` down to the event loop, and the
three ways out of it, a result, an error, and a panic.  Beside it run the
callers' threads, which queue commands, and the one that drops the `Session`:
`abort_connect`, then `Command::Shutdown`, then the join.

A stage is answered by the world: FreeRDP, the operating system, or the panic of
some code called there.  `Stage.next` says what the thread does with the answer.
-/

namespace FreerdpPrebuilt
namespace Session

open Labelled

/-- Why a session did not start, or did not continue. -/
structure Error where
  code : ℕ
  message : String
  deriving DecidableEq, Repr

/-- An error raised by this crate rather than by FreeRDP: `Error::local`. -/
def Error.localError (message : String) : Error := ⟨0, message⟩

/-- The `Result<(), Error>` a session ends with. -/
inductive Ended
  | ok
  | err (error : Error)
  deriving DecidableEq, Repr

/-! ## What the threads share -/

/-- The live context, or null once there is not one, and whether anybody has
asked it to stop. -/
structure ContextPtr where
  ctx : Ptr
  aborted : Bool
  deriving DecidableEq

/-- `Shared`: the command queue, its manual-reset event, and the context. -/
structure Shared where
  queue : List Command
  wake : Bool
  context : ContextPtr
  deriving DecidableEq

def Shared.new : Shared := ⟨[], false, ⟨Ptr.null, false⟩⟩

/-- Publish the context, so a caller's thread can abort a connect. -/
def Shared.publishContext (sh : Shared) (ctx : Ptr) : Shared :=
  { sh with context := { sh.context with ctx := ctx } }

/-- Whether somebody has asked this session to stop. -/
def Shared.abortRequested (sh : Shared) : Bool := sh.context.aborted

/-- Withdraw the context. -/
def Shared.withdrawContext (sh : Shared) : Shared :=
  { sh with context := { sh.context with ctx := Ptr.null } }

/-- Record the request to stop, under the lock, and say which context is to be
signalled, if there is one. -/
def Shared.abortConnect (sh : Shared) : Shared × Option Ptr :=
  ({ sh with context := { sh.context with aborted := true } },
    if sh.context.ctx ≠ Ptr.null then some sh.context.ctx else none)

/-- The first half of `push`: append under the lock. -/
def Shared.append (sh : Shared) (command : Command) : Shared :=
  { sh with queue := sh.queue ++ [command] }

/-- `SetEvent`, the second half of `push`. -/
def Shared.setEvent (sh : Shared) : Shared := { sh with wake := true }

/-- Queue a command and wake the session thread. -/
def Shared.push (sh : Shared) (command : Command) : Shared := (sh.append command).setEvent

/-- `ResetEvent`, the first half of `drain`. -/
def Shared.resetEvent (sh : Shared) : Shared := { sh with wake := false }

/-- The second half of `drain`: take the whole queue under the lock. -/
def Shared.take (sh : Shared) : List Command × Shared := (sh.queue, { sh with queue := [] })

/-- Take everything queued, with no push in between. -/
def Shared.drain (sh : Shared) : List Command × Shared := sh.resetEvent.take

/-! ## The stages of `run_connected` -/

/-- Where the session thread stands inside `run_connected`. -/
inductive Stage
  /-- Installing the callbacks on the instance. -/
  | installCallbacks
  | applySettings
  | subscribeChannels
  | installProvider
  /-- Reading `abort_requested`, immediately before the connect. -/
  | abortRequested
  /-- About to call `freerdp_connect`. -/
  | connect
  /-- Inside `freerdp_connect`. -/
  | connecting
  /-- The top of the event loop: the handles, then the wait. -/
  | wait
  /-- `drain`, before `ResetEvent`. -/
  | drain
  /-- `drain`, between `ResetEvent` and the take. -/
  | take
  /-- Executing a drained batch. -/
  | execute (batch : List Command)
  /-- Looking for a reconnect-resize that is due. -/
  | due
  /-- Inside `reconnect_resize`. -/
  | reconnecting
  /-- `freerdp_check_event_handles`, then `freerdp_shall_disconnect_context`. -/
  | checkHandles
  deriving DecidableEq

/-- What the world answers to a stage. -/
inductive Answer
  /-- The calls of the stage succeeded. -/
  | ok
  /-- A call of the stage failed, with this error to return. -/
  | fail (error : Error)
  /-- The connection ended in good order. -/
  | ended
  /-- A reconnect-resize is due. -/
  | due
  /-- Code called in the stage panicked. -/
  | panicked
  deriving DecidableEq

/-- Where a stage leads: to another stage, out of `run_connected` with a
result, or out of it by a panic. -/
inductive Next
  | goto (stage : Stage)
  | ret (result : Ended)
  | unwind
  deriving DecidableEq

/-- What the session thread does at a stage with the world's answer; `none`
where the stage has no such answer. -/
def Stage.next (sh : Shared) : Stage → Answer → Option (Shared × Next)
  | _, .panicked => some (sh, .unwind)
  | .installCallbacks, .ok => some (sh, .goto .applySettings)
  | .applySettings, .ok => some (sh, .goto .subscribeChannels)
  | .applySettings, .fail e => some (sh, .ret (.err e))
  | .subscribeChannels, .ok => some (sh, .goto .installProvider)
  | .subscribeChannels, .fail e => some (sh, .ret (.err e))
  | .installProvider, .ok => some (sh, .goto .abortRequested)
  | .installProvider, .fail e => some (sh, .ret (.err e))
  | .abortRequested, .ok =>
    if sh.abortRequested then
      some (sh, .ret (.err (.localError "the session was ended before it connected")))
    else some (sh, .goto .connect)
  | .connect, .ok => some (sh, .goto .connecting)
  | .connecting, .ok => some (sh, .goto .wait)
  | .connecting, .fail e => some (sh, .ret (.err e))
  | .wait, .ok => some (sh, .goto .drain)
  | .wait, .fail e => some (sh, .ret (.err e))
  | .wait, .ended => some (sh, .ret .ok)
  | .drain, .ok => some (sh.resetEvent, .goto .take)
  | .take, .ok => some (sh.take.2, .goto (.execute sh.take.1))
  | .execute [], .ok => some (sh, .goto .due)
  | .execute (.shutdown :: _), .ok => some (sh, .ret .ok)
  | .execute (_ :: batch), .ok => some (sh, .goto (.execute batch))
  | .due, .ok => some (sh, .goto .checkHandles)
  | .due, .due => some (sh, .goto .reconnecting)
  | .reconnecting, .ok => some (sh, .goto .wait)
  | .reconnecting, .fail _ => some (sh, .ret (.err (.localError "a resize-by-reconnect failed")))
  | .checkHandles, .ok => some (sh, .goto .wait)
  | .checkHandles, .fail e => some (sh, .ret (.err e))
  | .checkHandles, .ended => some (sh, .ret .ok)
  | _, _ => none

/-! ## The whole session -/

/-- A piece of memory owned by `run`. -/
inductive Block
  | unallocated
  | live
  | freed
  deriving DecidableEq, Repr

/-- Where the session thread stands in `run`, and in the closure around it. -/
inductive Pc
  /-- Before `freerdp_client_context_new`. -/
  | entry
  /-- The `ContextGuard` owns the context. -/
  | guarded
  /-- The context is published; the bridge box comes next. -/
  | published
  /-- Inside `run_connected`. -/
  | connected (stage : Stage)
  /-- `run_connected` returned. -/
  | returned (result : Ended)
  /-- The context is withdrawn; the guard drops next. -/
  | withdrawn (result : Ended)
  /-- In `ContextGuard::drop`, between the disconnect and the free. -/
  | disconnected (result : Ended)
  /-- The guard has dropped; the bridge box comes next. -/
  | dropped (result : Ended)
  /-- A panic is unwinding `run`, which drops the guard. -/
  | unwinding
  /-- In `ContextGuard::drop` while unwinding, between the disconnect and the
  free. -/
  | unwindingDisconnected
  /-- `Ended` is sent and the thread is over. -/
  | finished (result : Ended)
  deriving DecidableEq

/-- Where the thread dropping the `Session` stands in `Drop::drop`. -/
inductive DropPc
  /-- The `Session` is alive. -/
  | holding
  /-- `abort_connect` has returned. -/
  | aborted
  /-- `Command::Shutdown` is queued; the join comes next. -/
  | joining
  /-- The join has returned. -/
  | joined
  deriving DecidableEq

/-- A session: its threads, what they share, and the memory `run` owns. -/
structure State where
  shared : Shared
  /-- The session thread. -/
  pc : Pc
  /-- The thread that drops the `Session`. -/
  dropPc : DropPc
  /-- The `ctx` of `run`. -/
  ctx : Ptr
  /-- The memory of the context. -/
  context : Block
  /-- The memory of the bridge box. -/
  bridge : Block
  deriving DecidableEq

/-- A session as `Session::start` leaves it. -/
def State.start : State := ⟨.new, .entry, .holding, Ptr.null, .unallocated, .unallocated⟩

/-- What is seen of a session's memory, and of the cross-thread abort. -/
inductive Obs
  /-- `freerdp_abort_connect_context` is called on this context. -/
  | abortSignal (ctx : Ptr)
  /-- `freerdp_client_context_free`. -/
  | contextFreed
  /-- The bridge box is dropped. -/
  | bridgeReclaimed
  /-- `Event::Ended`. -/
  | ended (result : Ended)
  deriving DecidableEq

/-- What can happen next. -/
inductive Act
  /-- `freerdp_client_context_new` answers. -/
  | newContext (ctx : Ptr)
  /-- The session thread takes its next step. -/
  | thread (answer : Answer)
  /-- A caller queues a command. -/
  | push (command : Command)
  /-- The dropping thread takes its next step. -/
  | drop
  deriving DecidableEq

/-- Inside `run_connected`: what the next stage makes of the session. -/
def State.leave (s : State) (sh : Shared) : Next → State
  | .goto stage => { s with shared := sh, pc := .connected stage }
  | .ret result => { s with shared := sh, pc := .returned result }
  | .unwind => { s with shared := sh, pc := .unwinding }

/-- What the session thread calls on the context at a stage: the event loop
aborts it when it reads `Shutdown`. -/
def Stage.signals (ctx : Ptr) : Stage → Answer → List Obs
  | .execute (.shutdown :: _), .ok => [.abortSignal ctx]
  | _, _ => []

/-- One step of the session thread after the context exists. -/
def State.advance (s : State) (answer : Answer) : Option (State × List Obs) :=
  match s.pc with
  | .guarded => some ({ s with shared := s.shared.publishContext s.ctx, pc := .published }, [])
  | .published => some ({ s with bridge := .live, pc := .connected .installCallbacks }, [])
  | .connected stage =>
    (stage.next s.shared answer).map fun r => (s.leave r.1 r.2, stage.signals s.ctx answer)
  | .returned result =>
    some ({ s with shared := s.shared.withdrawContext, pc := .withdrawn result }, [])
  | .withdrawn result => some ({ s with pc := .disconnected result }, [])
  | .disconnected result =>
    some ({ s with context := .freed, pc := .dropped result }, [.contextFreed])
  | .dropped result =>
    some ({ s with bridge := .freed, pc := .finished result }, [.bridgeReclaimed, .ended result])
  | .unwinding => some ({ s with pc := .unwindingDisconnected }, [])
  | .unwindingDisconnected =>
    -- the guard is the only local that drops: nothing withdraws the context,
    -- and the bridge is a raw pointer
    let result := Ended.err (.localError "the FreeRDP session thread panicked")
    some ({ s with context := .freed, pc := .finished result }, [.contextFreed, .ended result])
  | .entry | .finished _ => none

/-- One step of `Drop for Session`. -/
def State.dropStep (s : State) : Option (State × List Obs) :=
  match s.dropPc with
  | .holding =>
    let (shared, signal) := s.shared.abortConnect
    some ({ s with shared, dropPc := .aborted }, signal.toList.map .abortSignal)
  | .aborted => some ({ s with shared := s.shared.push .shutdown, dropPc := .joining }, [])
  | .joining =>
    match s.pc with
    | .finished _ => some ({ s with dropPc := .joined }, [])
    | _ => none
  | .joined => none

/-- **The session as a machine**: one session thread, any number of callers
queueing commands, and one thread dropping the handle, interleaved at will. -/
def machine : Machine State Act Obs where
  init := .start
  step s
    | .newContext ctx =>
      if s.pc = .entry then
        if ctx = Ptr.null then
          let result := Ended.err (.localError "freerdp_client_context_new failed")
          some ({ s with pc := .finished result }, [.ended result])
        else some ({ s with pc := .guarded, ctx := ctx, context := .live }, [])
      else none
    | .thread answer => s.advance answer
    | .push command =>
      if command = .shutdown then none
      else some ({ s with shared := s.shared.push command }, [])
    | .drop => s.dropStep

end Session
end FreerdpPrebuilt
