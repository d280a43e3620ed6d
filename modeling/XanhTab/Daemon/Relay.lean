import Mathlib.Data.List.Infix
import XanhTab.Transition.Core

/-!
# The signaling relay

`relay_signaling` of `api.rs`, which carries frames between the client and the
upstream server once `signal_socket` has opened both sockets.  One task serves
both directions: while a frame is being sent, nothing is read from either side.
What ends the relay is a side that ends or fails, a send that fails, or a closing
frame that has been passed on.
-/

namespace XanhTab

/-! ## Frames -/

/-- A frame of the client's socket; a closing frame has a code and a reason. -/
inductive Message
  | text (value : String)
  | binary (value : List UInt8)
  | ping (value : List UInt8)
  | pong (value : List UInt8)
  | close (frame : Option (Nat × String))
  deriving DecidableEq

/-- A frame of the upstream socket. -/
inductive UpstreamMessage
  | text (value : String)
  | binary (value : List UInt8)
  | ping (value : List UInt8)
  | pong (value : List UInt8)
  | close (frame : Option (Nat × String))
  | frame (payload : List UInt8)
  deriving DecidableEq

def toUpstreamMessage : Message → Option UpstreamMessage
  | .text value => some (.text value)
  | .binary value => some (.binary value)
  | .ping value => some (.ping value)
  | .pong value => some (.pong value)
  | .close _ => some (.close none)

def toClientMessage : UpstreamMessage → Option Message
  | .text value => some (.text value)
  | .binary value => some (.binary value)
  | .ping value => some (.ping value)
  | .pong value => some (.pong value)
  | .close _ => some (.close none)
  | .frame _ => none

def Message.closes : Message → Bool
  | close _ => true
  | _ => false

def UpstreamMessage.closes : UpstreamMessage → Bool
  | close _ => true
  | _ => false

/-! ## One direction -/

/-- What one direction of a relay has read and what it has delivered. -/
structure Passage (α β : Type) where
  read : List α := []
  delivered : List β := []
  deriving DecidableEq

namespace Passage

variable {α β : Type} {convert : α → Option β} {closes : β → Bool} {passage : Passage α β}

def reads (message : α) (passage : Passage α β) : Passage α β :=
  { passage with read := passage.read ++ [message] }

def delivers (message : β) (passage : Passage α β) : Passage α β :=
  { passage with delivered := passage.delivered ++ [message] }

/-- Everything that was read has been delivered but for the rest, and none of it
was a closing frame. -/
def Carries (convert : α → Option β) (closes : β → Bool) (rest : List β)
    (passage : Passage α β) : Prop :=
  passage.read.filterMap convert = passage.delivered ++ rest ∧
    ∀ message ∈ passage.delivered, closes message = false

/-- Everything that was read has been delivered, and only the last of it may have
been a closing frame. -/
def Closed (convert : α → Option β) (closes : β → Bool) (passage : Passage α β) : Prop :=
  passage.read.filterMap convert = passage.delivered ∧
    ∃ earlier last, passage.delivered = earlier ++ [last] ∧
      ∀ message ∈ earlier, closes message = false

theorem Carries.reads (carries : Carries convert closes [] passage) (message : α) :
    Carries convert closes (convert message).toList (passage.reads message) := by
  refine ⟨?_, carries.2⟩
  show (passage.read ++ [message]).filterMap convert = passage.delivered ++ _
  rw [List.filterMap_append, carries.1, List.append_nil]
  cases converted : convert message with
  | none => rw [List.filterMap_cons_none converted]; rfl
  | some target => rw [List.filterMap_cons_some converted]; rfl

theorem Carries.delivers {message : β} (carries : Carries convert closes [message] passage)
    (continues : closes message = false) :
    Carries convert closes [] (passage.delivers message) := by
  refine ⟨carries.1.trans (List.append_nil _).symm, fun delivered member => ?_⟩
  rcases List.mem_append.mp member with earlier | last
  · exact carries.2 delivered earlier
  · rwa [List.mem_singleton.mp last]

theorem Carries.closed {message : β} (carries : Carries convert closes [message] passage) :
    Closed convert closes (passage.delivers message) :=
  ⟨carries.1, passage.delivered, message, rfl, carries.2⟩

theorem Carries.length_eq {rest : List β} (carries : Carries convert closes rest passage) :
    (passage.read.filterMap convert).length = passage.delivered.length + rest.length := by
  rw [carries.1, List.length_append]

theorem Carries.settled (carries : Carries convert closes [] passage) :
    passage.read.filterMap convert = passage.delivered :=
  carries.1.trans (List.append_nil _)

/-- What arrives is what was read, in its order, without gaps or repetitions, and
nothing arrives after a closing frame. -/
structure InOrder (convert : α → Option β) (closes : β → Bool) (passage : Passage α β) : Prop where
  ordered : passage.delivered <+: passage.read.filterMap convert
  last : ∀ earlier message later, passage.delivered = earlier ++ message :: later →
    closes message = true → later = []

theorem Carries.inOrder {rest : List β} (carries : Carries convert closes rest passage) :
    InOrder convert closes passage where
  ordered := ⟨rest, carries.1.symm⟩
  last earlier message later split closing := by
    have member : message ∈ passage.delivered := by
      rw [split]
      exact List.mem_append_right _ List.mem_cons_self
    rw [carries.2 message member] at closing
    cases closing

theorem Closed.inOrder (closed : Closed convert closes passage) :
    InOrder convert closes passage where
  ordered := ⟨[], by rw [List.append_nil, closed.1]⟩
  last earlier message later split closing := by
    rcases closed with ⟨_, before, last, delivered, open_⟩
    rw [delivered] at split
    rcases List.eq_nil_or_concat later with rfl | ⟨later, final, rfl⟩
    · rfl
    · rw [List.concat_eq_append, ← List.cons_append, ← List.append_assoc] at split
      have same := (List.append_inj' split rfl).1
      have member : message ∈ before := by
        rw [same]
        exact List.mem_append_right _ List.mem_cons_self
      rw [open_ message member] at closing
      cases closing

end Passage

/-! ## The relay -/

/-- Where the loop stands: it waits for either side, or for a frame to be sent.
Once it has ended, both sockets are closed. -/
inductive RelayPlace
  | selecting
  | toUpstream (message : UpstreamMessage)
  | toClient (message : Message)
  | ended
  deriving DecidableEq

structure Relay where
  place : RelayPlace := .selecting
  client : Passage Message UpstreamMessage := {}
  upstream : Passage UpstreamMessage Message := {}
  deriving DecidableEq

/-- What the loop waits for.  A side that has ended or failed has no message. -/
inductive RelayEvent
  | client (incoming : Option Message)
  | upstream (incoming : Option UpstreamMessage)
  | sent (delivered : Bool)

/-- The arms of the loop, cut at their sends.  A frame without a counterpart is
left out. -/
def Relay.step : Transition.Step Relay RelayEvent
  | ⟨.selecting, client, upstream⟩, .client none => some ⟨.ended, client, upstream⟩
  | ⟨.selecting, client, upstream⟩, .client (some message) =>
      some ⟨((toUpstreamMessage message).map RelayPlace.toUpstream).getD .selecting,
        client.reads message, upstream⟩
  | ⟨.selecting, client, upstream⟩, .upstream none => some ⟨.ended, client, upstream⟩
  | ⟨.selecting, client, upstream⟩, .upstream (some message) =>
      some ⟨((toClientMessage message).map RelayPlace.toClient).getD .selecting,
        client, upstream.reads message⟩
  | ⟨.toUpstream message, client, upstream⟩, .sent delivered =>
      if delivered then
        some ⟨if message.closes then .ended else .selecting, client.delivers message, upstream⟩
      else some ⟨.ended, client, upstream⟩
  | ⟨.toClient message, client, upstream⟩, .sent delivered =>
      if delivered then
        some ⟨if message.closes then .ended else .selecting, client, upstream.delivers message⟩
      else some ⟨.ended, client, upstream⟩
  | _, _ => none

namespace Relay

abbrev ToUpstream (rest : List UpstreamMessage) (relay : Relay) : Prop :=
  relay.client.Carries toUpstreamMessage UpstreamMessage.closes rest

abbrev ToClient (rest : List Message) (relay : Relay) : Prop :=
  relay.upstream.Carries toClientMessage Message.closes rest

/-- How an ended relay has left a passage: with everything delivered, with the
frame of a failed send lost, or with a closing frame passed on. -/
def Finished {α β : Type} (convert : α → Option β) (closes : β → Bool)
    (passage : Passage α β) : Prop :=
  (∃ rest : Option β, passage.Carries convert closes rest.toList) ∨ passage.Closed convert closes

/-- What holds of both directions at each place of the loop. -/
def Kept (relay : Relay) : Prop :=
  match relay.place with
  | .selecting => relay.ToUpstream [] ∧ relay.ToClient []
  | .toUpstream message => relay.ToUpstream [message] ∧ relay.ToClient []
  | .toClient message => relay.ToUpstream [] ∧ relay.ToClient [message]
  | .ended =>
      (Finished toUpstreamMessage UpstreamMessage.closes relay.client ∧ relay.ToClient []) ∨
        (relay.ToUpstream [] ∧ Finished toClientMessage Message.closes relay.upstream)

theorem Kept.step {relay after : Relay} {event : RelayEvent} (kept : relay.Kept)
    (stepped : relay.step event = some after) : after.Kept := by
  rcases relay with ⟨place, client, upstream⟩
  cases place with
  | selecting =>
      cases event with
      | client incoming =>
          cases incoming with
          | none =>
              rw [← Option.some.inj stepped]
              exact Or.inl ⟨Or.inl ⟨none, kept.1⟩, kept.2⟩
          | some message =>
              rw [← Option.some.inj stepped]
              have carries := kept.1.reads message
              cases converted : toUpstreamMessage message with
              | none => exact ⟨by rwa [converted] at carries, kept.2⟩
              | some target => exact ⟨by rwa [converted] at carries, kept.2⟩
      | upstream incoming =>
          cases incoming with
          | none =>
              rw [← Option.some.inj stepped]
              exact Or.inl ⟨Or.inl ⟨none, kept.1⟩, kept.2⟩
          | some message =>
              rw [← Option.some.inj stepped]
              have carries := kept.2.reads message
              cases converted : toClientMessage message with
              | none => exact ⟨kept.1, by rwa [converted] at carries⟩
              | some target => exact ⟨kept.1, by rwa [converted] at carries⟩
      | sent delivered => cases stepped
  | toUpstream message =>
      cases event with
      | sent delivered =>
          cases delivered with
          | true =>
              rw [← Option.some.inj stepped]
              cases closing : message.closes with
              | true => exact Or.inl ⟨Or.inr kept.1.closed, kept.2⟩
              | false => exact ⟨kept.1.delivers closing, kept.2⟩
          | false =>
              rw [← Option.some.inj stepped]
              exact Or.inl ⟨Or.inl ⟨some message, kept.1⟩, kept.2⟩
      | client _ | upstream _ => cases stepped
  | toClient message =>
      cases event with
      | sent delivered =>
          cases delivered with
          | true =>
              rw [← Option.some.inj stepped]
              cases closing : message.closes with
              | true => exact Or.inr ⟨kept.1, Or.inr kept.2.closed⟩
              | false => exact ⟨kept.1, kept.2.delivers closing⟩
          | false =>
              rw [← Option.some.inj stepped]
              exact Or.inr ⟨kept.1, Or.inl ⟨some message, kept.2⟩⟩
      | client _ | upstream _ => cases stepped
  | ended => cases event <;> cases stepped

theorem Finished.inOrder {α β : Type} {convert : α → Option β} {closes : β → Bool}
    {passage : Passage α β} (finished : Finished convert closes passage) :
    passage.InOrder convert closes := by
  rcases finished with ⟨_, carries⟩ | closed
  · exact carries.inOrder
  · exact closed.inOrder

theorem Finished.length_le {α β : Type} {convert : α → Option β} {closes : β → Bool}
    {passage : Passage α β} (finished : Finished convert closes passage) :
    (passage.read.filterMap convert).length ≤ passage.delivered.length + 1 := by
  rcases finished with ⟨rest, carries⟩ | closed
  · rw [carries.length_eq]
    exact Nat.add_le_add_left Option.length_toList_le _
  · rw [closed.1]
    exact Nat.le_succ _

end Relay

/-- Both directions are carried in order; at most one frame that was read has not
arrived, none while the loop waits, and a closing frame ends the relay. -/
structure RelayedInOrder (relay : Relay) : Prop where
  client : relay.client.InOrder toUpstreamMessage UpstreamMessage.closes
  upstream : relay.upstream.InOrder toClientMessage Message.closes
  settled : relay.place = .selecting →
    relay.client.read.filterMap toUpstreamMessage = relay.client.delivered ∧
      relay.upstream.read.filterMap toClientMessage = relay.upstream.delivered
  outstanding : (relay.client.read.filterMap toUpstreamMessage).length +
      (relay.upstream.read.filterMap toClientMessage).length ≤
    relay.client.delivered.length + relay.upstream.delivered.length + 1
  closing : (∃ message ∈ relay.client.delivered, message.closes = true) ∨
    (∃ message ∈ relay.upstream.delivered, message.closes = true) → relay.place = .ended

namespace Relay

/-- Where nothing but open frames has been delivered, no frame closes. -/
theorem not_closing {relay : Relay} {up : List UpstreamMessage} {down : List Message}
    (client : relay.ToUpstream up) (upstream : relay.ToClient down)
    (closing : (∃ message ∈ relay.client.delivered, message.closes = true) ∨
      ∃ message ∈ relay.upstream.delivered, message.closes = true) : False := by
  rcases closing with ⟨message, member, closes⟩ | ⟨message, member, closes⟩
  · rw [client.2 message member] at closes
    cases closes
  · rw [upstream.2 message member] at closes
    cases closes

theorem Kept.relayedInOrder {relay : Relay} (kept : relay.Kept) : RelayedInOrder relay := by
  rcases relay with ⟨place, client, upstream⟩
  cases place with
  | selecting =>
      refine ⟨kept.1.inOrder, kept.2.inOrder, fun _ => ⟨kept.1.settled, kept.2.settled⟩, ?_,
        fun closing => (not_closing kept.1 kept.2 closing).elim⟩
      rw [kept.1.length_eq, kept.2.length_eq]
      exact Nat.le_succ _
  | toUpstream message =>
      refine ⟨kept.1.inOrder, kept.2.inOrder, fun selecting => (nomatch selecting), ?_,
        fun closing => (not_closing kept.1 kept.2 closing).elim⟩
      rw [kept.1.length_eq, kept.2.length_eq, List.length_singleton, List.length_nil]
      omega
  | toClient message =>
      refine ⟨kept.1.inOrder, kept.2.inOrder, fun selecting => (nomatch selecting), ?_,
        fun closing => (not_closing kept.1 kept.2 closing).elim⟩
      rw [kept.1.length_eq, kept.2.length_eq, List.length_singleton, List.length_nil]
      omega
  | ended =>
      rcases kept with ⟨client, upstream⟩ | ⟨client, upstream⟩
      · refine ⟨client.inOrder, upstream.inOrder, fun selecting => (nomatch selecting), ?_,
          fun _ => rfl⟩
        have bound := client.length_le
        rw [upstream.length_eq, List.length_nil]
        omega
      · refine ⟨client.inOrder, upstream.inOrder, fun selecting => (nomatch selecting), ?_,
          fun _ => rfl⟩
        have bound := upstream.length_le
        rw [client.length_eq, List.length_nil]
        omega

end Relay

/-- Whatever both sides send and whichever sends fail, the relay keeps the order. -/
theorem relayed_in_order_of_reaches {relay : Relay}
    (reaches : Transition.Reachable Relay.step {} relay) : RelayedInOrder relay := by
  apply Relay.Kept.relayedInOrder
  induction reaches with
  | refl => exact ⟨⟨rfl, fun _ member => (nomatch member)⟩, ⟨rfl, fun _ member => (nomatch member)⟩⟩
  | tail _ _ stepped ih => exact ih.step stepped

namespace Sample

/-- Both sides speak, the upstream server closes, and no frame of its own kind is
passed on. -/
def conversation : List RelayEvent :=
  [.client (some (.text "offer")), .sent true, .upstream (some (.frame [0])),
    .upstream (some (.text "answer")), .sent true, .upstream (some (.close (some (1000, "bye")))),
    .sent true]

end Sample

/-- The client has been told that the conversation is over. -/
theorem relayed_in_order_of_conversation :
    ∃ relay, Transition.run Relay.step {} Sample.conversation = some relay ∧
      relay.upstream.delivered = [.text "answer", .close none] ∧ RelayedInOrder relay := by
  have executed : (Transition.run Relay.step {} Sample.conversation).map
      (fun relay => relay.upstream.delivered) = some [.text "answer", .close none] := by
    decide
  rcases Option.map_eq_some_iff.mp executed with ⟨relay, ran, delivered⟩
  exact ⟨relay, ran, delivered, relayed_in_order_of_reaches (Transition.reachable_of_run ran)⟩

end XanhTab
