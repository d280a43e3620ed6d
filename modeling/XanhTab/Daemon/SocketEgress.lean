import XanhTab.Daemon.Service
import XanhTab.Netd.Handler
import XanhTab.Program.Interpret

/-!
# The daemon and the network helper

`SocketEgress` of `netd.rs` and the accept loop of `xanhtab-netd.rs`, as two
processes that exchange messages.  Each request has a connection of its own.
The daemon connects, writes the request and reads the response, all within one
deadline, after which it gives the request up and goes on; a request that has
been delivered stays with the helper.  The helper handles every connection in a
task of its own; of the tasks that wait for the mutex of the state any may take
it, and the one that holds it may be cut short by its deadline.

The other backends of the daemon reply whatever they are told to.
-/

namespace XanhTab

open Program

/-! ## The helper -/

/-- A task of the helper that holds the mutex. -/
structure NetdTask where
  connection : Nat
  command : EgressCommand
  program : NetRoutine (EgressCommand × EgressResponse)

/-- The helper with its connections.  Delivered requests wait in the order in
which they were sent; responses are kept from the latest to the first. -/
structure Link where
  state : NetworkState := {}
  kernel : Kernel
  waiting : List (Nat × EgressCommand) := []
  handling : Option NetdTask := none
  answered : List (Nat × EgressCommand × EgressResponse) := []
  connections : Nat := 0

/-- What the tasks of the helper do. -/
inductive LinkEvent
  | take (connection : Nat)
  | refuse (connection : Nat)
  | step (outcome : Option NetOutcome)
  | expire (outcome : Option NetOutcome)
  | respond

namespace Link

/-- The request reaches the helper. -/
def deliver (connection : Nat) (command : EgressCommand) (link : Link) : Link :=
  { link with waiting := link.waiting ++ [(connection, command)] }

/-- The request is not waiting any more. -/
def without (connection : Nat) (link : Link) : List (Nat × EgressCommand) :=
  link.waiting.filter fun request => request.1 ≠ connection

/-- The task that holds the mutex responds and releases it. -/
def release (handled : NetdTask) (response : EgressResponse) (link : Link) : Link :=
  { link with
    handling := none
    answered := (handled.connection, handled.command, response) :: link.answered }

/-- The response of a command that its deadline cuts short. -/
def timedOut : EgressResponse :=
  { ok := false, activeMode := .direct, detail := "netd command timed out" }

/-- One step of the tasks of the helper.  A connection is refused when its peer
is not authorized or its request cannot be read. -/
def evolve (config : NetworkConfig) : LinkEvent → Link → Option Link
  | .take connection, link =>
      match link.handling with
      | some _ => none
      | none => (link.waiting.lookup connection).map fun command =>
          { link with
            waiting := link.without connection
            handling := some ⟨connection, command, Netd.handle config command⟩ }
  | .refuse connection, link => some { link with waiting := link.without connection }
  | .step outcome, link => link.handling.bind fun handled =>
      (handled.program.advance Kernel.answer outcome link.state link.kernel).map fun after =>
        { link with
          state := after.2.1
          kernel := after.2.2
          handling := some { handled with program := after.1 } }
  | .expire outcome, link => link.handling.bind fun handled =>
      (handled.program.abandon Kernel.answer outcome link.kernel).map fun kernel =>
        { link.release handled timedOut with kernel := kernel }
  | .respond, link => link.handling.bind fun handled =>
      match handled.program with
      | .done result => some (link.release handled result.2)
      | _ => none

end Link

/-! ## The client -/

/-- What the daemon asks of the operating system and of its other backends. -/
inductive LinkCall
  | backend (request : Call)
  | connect
  | writeAll (connection : Nat) (command : EgressCommand)
  | readLine (connection : Nat)

abbrev LinkCall.Reply : LinkCall → Type
  | .backend request => request.Reply
  | .connect => Except AppError Nat
  | .writeAll _ _ => Except AppError Unit
  | .readLine _ => Except AppError EgressResponse

abbrev LinkRoutine (α : Type) := Program Daemon LinkCall LinkCall.Reply α

namespace SocketEgress

def connect : LinkRoutine (Except AppError Nat) :=
  ask true LinkCall.connect

def writeAll (connection : Nat) (command : EgressCommand) : LinkRoutine (Except AppError Unit) :=
  ask true (LinkCall.writeAll connection command)

def readLine (connection : Nat) : LinkRoutine (Except AppError EgressResponse) :=
  ask true (LinkCall.readLine connection)

/-- `request`, which is `request_unbounded` within a deadline. -/
def request (command : EgressCommand) : LinkRoutine (Except AppError EgressResponse) :=
  connect.andThen fun connection =>
    (writeAll connection command).andThen fun _ =>
      (readLine connection).andThen fun response =>
        if response.ok then return .ok response
        else return .error (.serviceUnavailable response.detail)

/-- The daemon looks at nothing in a response. -/
def succeed (command : EgressCommand) : LinkRoutine (Except AppError Unit) := do
  return (← request command).map fun _ => ()

def apply (mode : EgressMode) : LinkRoutine (Except AppError Unit) :=
  succeed (.apply mode)

def reset : LinkRoutine (Except AppError Unit) :=
  succeed .reset

/-- The egress backend in the place of its requests. -/
def carry (awaits : Bool) : (request : Call) → LinkRoutine request.Reply
  | .egressApply mode => apply mode
  | .egressReset => reset
  | .browserStart id url profile egress =>
      ask awaits (LinkCall.backend (.browserStart id url profile egress))
  | .browserStop => ask awaits (LinkCall.backend .browserStop)
  | .browserNavigate command => ask awaits (LinkCall.backend (.browserNavigate command))
  | .clearRuntimeDir => ask awaits (LinkCall.backend .clearRuntimeDir)
  | .writePairingFile body => ask awaits (LinkCall.backend (.writePairingFile body))

end SocketEgress

/-- The outcome of a call.  A request that is given up, or whose writing fails,
may have arrived. -/
inductive LinkOutcome
  | browser (result : Except AppError Unit)
  | files (result : Except String Unit)
  | proceeds
  | broken (detail : String) (arrived : Bool)
  | garbled (detail : String)
  | late (arrived : Bool)

namespace Link

def netdTimedOut : AppError :=
  .serviceUnavailable "network helper timed out"

/-- The request, if it has arrived. -/
def deliverIf (arrived : Bool) (connection : Nat) (command : EgressCommand) (link : Link) : Link :=
  if arrived then link.deliver connection command else link

/-- A response can be read once it is there. -/
def answer : Answer LinkCall LinkCall.Reply Link LinkOutcome
  | .backend (.browserStart ..), .browser result, link
  | .backend .browserStop, .browser result, link
  | .backend (.browserNavigate _), .browser result, link => some (result, link)
  | .backend .clearRuntimeDir, .files result, link
  | .backend (.writePairingFile _), .files result, link => some (result, link)
  | .connect, .proceeds, link =>
      some (.ok link.connections, { link with connections := link.connections + 1 })
  | .connect, .broken detail _, link =>
      some (.error (.serviceUnavailable ("netd connect: " ++ detail)), link)
  | .writeAll connection command, .proceeds, link =>
      some (.ok (), link.deliver connection command)
  | .writeAll connection command, .broken detail arrived, link =>
      some (.error (.serviceUnavailable ("netd write: " ++ detail)),
        link.deliverIf arrived connection command)
  | .readLine connection, .proceeds, link =>
      (link.answered.lookup connection).map fun found => (.ok found.2, link)
  | .readLine _, .broken detail _, link =>
      some (.error (.serviceUnavailable ("netd read: " ++ detail)), link)
  | .readLine _, .garbled detail, link =>
      some (.error (.serviceUnavailable ("netd response: " ++ detail)), link)
  | .connect, .late _, link | .readLine _, .late _, link => some (.error netdTimedOut, link)
  | .writeAll connection command, .late arrived, link =>
      some (.error netdTimedOut, link.deliverIf arrived connection command)
  | _, _, _ => none

end Link

namespace AppState

variable (app : AppState)

/-- The service with a helper whose tasks take the given steps. -/
def linkedBy (evolve : LinkEvent → Link → Option Link) :
    Pool Daemon LinkCall LinkCall.Reply Response Link LinkOutcome Lifecycle Request
      (Environment LinkEvent) where
  answer := Link.answer
  operation op := (app.lifecycle op).interpret SocketEgress.carry
  task request := (app.request request).interpret SocketEgress.carry
  noise := environment fun event _ link => evolve event link

/-- The service with the helper. -/
abbrev linked (config : NetworkConfig) :
    Pool Daemon LinkCall LinkCall.Reply Response Link LinkOutcome Lifecycle Request
      (Environment LinkEvent) :=
  app.linkedBy (Link.evolve config)

end AppState

end XanhTab
