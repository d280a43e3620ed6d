import XanhTab.Daemon.App

/-!
# WebSockets

The two socket handlers of `api.rs`.  Authorisation, subscription, the first
snapshot, the upstream connection and each delivery are steps of their own.  A
receiver of the broadcast channel is the position of the next event it will
read; one that has fallen behind by more than the capacity skips to the oldest
event that is still held.

A handler whose peer disappears or whose send fails just ends, which is what
dropping its task does.
-/

namespace XanhTab

open Program

structure WebSocketAuthFrame where
  kind : String
  ticket : String

/-- What arrives on a socket before the deadline for authentication. -/
inductive FirstMessage
  | missing
  | other
  | text (length : Nat) (frame : Option WebSocketAuthFrame)

/-- What one turn of the event loop finds ready. -/
inductive Turn
  | incoming
  | closed
  | event

/-- What a receiver finds at its position. -/
inductive Received
  | pending
  | lagged (position : Nat)
  | event (event : ServerEvent)

namespace Daemon

/-- `Receiver::recv`. -/
def receive (capacity position : Nat) (daemon : Daemon) : Received :=
  if daemon.events.length - position > capacity then
    .lagged (daemon.events.length - capacity)
  else
    match daemon.events[position]? with
    | none => .pending
    | some event => .event event

/-- Send a message to an accepted socket, or open its relay. -/
def deliver (client sessionId : Uuid) (content : Option ServerEvent) (daemon : Daemon) : Daemon :=
  { daemon with
    deliveries := daemon.deliveries ++ [⟨client, sessionId, content, daemon.session⟩] }

end Daemon

namespace AppState

variable (app : AppState)

/-- The ticket of a well-formed first message. -/
def presentedTicket : FirstMessage → Except AppError String
  | .text length (some frame) =>
      if length > 256 ∨ frame.kind ≠ "authenticate" ∨ frame.ticket.utf8ByteSize < 40 ∨
          frame.ticket.utf8ByteSize > 128 then .error .unauthorized
      else .ok frame.ticket
  | _ => .error .unauthorized

/-- `authorize_websocket`, which ends with the client of the ticket. -/
def authorizeWebsocket (id : Uuid) (message : FirstMessage) (purpose : TicketPurpose) :
    Routine (Except AppError Uuid) :=
  match presentedTicket message with
  | .error error => return .error error
  | .ok ticket =>
      Program.andThen
        (sync fun daemon => daemon.withAuth (AuthManager.consumeTicket daemon.now ticket purpose))
        fun context =>
          (requireSessionId id).andThen fun _ =>
            (SessionManager.ensureController context.clientId).andThen fun _ =>
              return .ok context.clientId

/-- The loop of `event_socket`, for as many turns as are listed. -/
def eventLoop (client id : Uuid) : Nat → List Turn → Routine Unit
  | _, [] => return ()
  | position, .incoming :: turns => eventLoop client id position turns
  | _, .closed :: _ => return ()
  | position, .event :: turns => do
      match ← sync fun daemon => (daemon.receive app.eventCapacity position, daemon) with
      | .pending => eventLoop client id position turns
      | .lagged oldest => eventLoop client id oldest turns
      | .event event =>
          sync fun daemon => ((), daemon.deliver client id (some event))
          if event.session.phase = .burning ∨ event.session.phase = .idle then return ()
          else eventLoop client id (position + 1) turns

/-- `session_events` and `event_socket`. -/
def eventSocket (id : Uuid) (message : FirstMessage) (turns : List Turn) :
    Routine (Except AppError Unit) :=
  (requireSessionId id).andThen fun _ =>
    (authorizeWebsocket id message .events).andThen fun client => do
      let position ← sync fun daemon => (daemon.events.length, daemon)
      let event ← read fun daemon =>
        { event := "session.snapshot", publishedAt := daemon.utc
          session := daemon.session.snapshot, controller := daemon.session.controller }
      sync fun daemon => ((), daemon.deliver client id (some event))
      app.eventLoop client id position turns
      return .ok ()

/-- `session_signal` and `signal_socket` up to the point where the relay is open
or the upstream server has refused. -/
def signalSocket (id : Uuid) (message : FirstMessage) (connects : Except String Unit) :
    Routine (Except AppError Unit) :=
  (requireSessionId id).andThen fun _ =>
    (authorizeWebsocket id message .signaling).andThen fun client =>
      match connects with
      | .error error => return .error (.signalingFailure error)
      | .ok () => lock fun daemon => (.ok (), daemon.deliver client id none)

end AppState

end XanhTab
