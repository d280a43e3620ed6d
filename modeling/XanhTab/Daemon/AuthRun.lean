import XanhTab.Daemon.Frame

/-!
# Runs of the authentication manager

The operations of `AuthManager` in any order, with time passing between them.
A run keeps a log of all operations with their times and results, oldest first.
-/

namespace XanhTab

open Transition

inductive AuthRequest
  | rotatePairing
  | exchangePairing (presented : String)
  | authenticate (sessionToken csrfToken : Option String) (requireCsrf : Bool)
  | validateContext (context : AuthContext)
  | issueTicket (context : AuthContext) (purpose : TicketPurpose)
  | consumeTicket (token : String) (purpose : TicketPurpose)
  | revokeAll
  | invalidateUnpublishedPairing
  | pairingRecoveryRequired

/-- An operation that has been performed, with what it returned. -/
inductive AuthCall
  | rotated (material : Option PairingMaterial)
  | exchanged (presented : String) (result : Except AppError ExchangeResult)
  | authenticated (sessionToken csrfToken : Option String) (requireCsrf : Bool)
      (result : Except AppError AuthContext)
  | validated (context : AuthContext) (result : Except AppError Unit)
  | issued (context : AuthContext) (purpose : TicketPurpose) (result : Except AppError String)
  | consumed (token : String) (purpose : TicketPurpose) (result : Except AppError AuthContext)
  | revoked
  | invalidated
  | recovery (required : Bool)

namespace AuthCall

def succeeded : AuthCall → Bool
  | rotated material => material.isSome
  | exchanged _ result => result.isOk
  | authenticated _ _ _ result | consumed _ _ result => result.isOk
  | validated _ result => result.isOk
  | issued _ _ result => result.isOk
  | revoked | invalidated => true
  | recovery required => required

def Rotates : AuthCall → Prop
  | rotated (some _) => True
  | _ => False

/-- All identities are discarded.  A rotation whose draw fails discards none. -/
def Revokes : AuthCall → Prop
  | rotated (some _) | revoked | invalidated => True
  | _ => False

def Exchanges : AuthCall → Prop
  | exchanged _ (.ok _) => True
  | _ => False

/-- The token is presented as a ticket, whatever comes of it. -/
def Presents (token : String) : AuthCall → Prop
  | consumed presented _ _ => presented = token
  | _ => False

instance : DecidablePred Rotates := fun call => by
  unfold Rotates
  split <;> infer_instance

instance : DecidablePred Exchanges := fun call => by
  unfold Exchanges
  split <;> infer_instance

end AuthCall

structure AuthEntry where
  time : Instant
  call : AuthCall

structure AuthRun where
  state : AuthState := {}
  rng : Rng
  now : Instant := 0
  log : List AuthEntry := []

/-- The run after a call. -/
abbrev AuthRun.after (run : AuthRun) (call : AuthCall) (state : AuthState) (rng : Rng) : AuthRun :=
  { run with state := state, rng := rng, log := run.log ++ [⟨run.now, call⟩] }

inductive AuthLabel
  | perform (request : AuthRequest)
  | elapse (duration : Duration)

namespace AuthManager

variable (manager : AuthManager)

def perform (now : Instant) (request : AuthRequest) (state : AuthState) (rng : Rng) :
    AuthCall × AuthState × Rng :=
  match request with
  | .rotatePairing =>
      let after := rotatePairing state rng
      (.rotated after.1, after.2)
  | .exchangePairing presented =>
      let after := manager.exchangePairing now presented state rng
      (.exchanged presented after.1, after.2)
  | .authenticate sessionToken csrfToken requireCsrf =>
      let after := authenticate now sessionToken csrfToken requireCsrf state
      (.authenticated sessionToken csrfToken requireCsrf after.1, after.2, rng)
  | .validateContext context =>
      let after := validateContext now context state
      (.validated context after.1, after.2, rng)
  | .issueTicket context purpose =>
      let after := manager.issueTicket now context purpose state rng
      (.issued context purpose after.1, after.2)
  | .consumeTicket token purpose =>
      let after := consumeTicket now token purpose state
      (.consumed token purpose after.1, after.2, rng)
  | .revokeAll => (.revoked, revokeAll state, rng)
  | .invalidateUnpublishedPairing => (.invalidated, invalidateUnpublishedPairing state, rng)
  | .pairingRecoveryRequired =>
      let after := pairingRecoveryRequired now state
      (.recovery after.1, after.2, rng)

def step : Step AuthRun AuthLabel
  | run, .perform request =>
      let after := manager.perform run.now request run.state run.rng
      some (run.after after.1 after.2.1 after.2.2)
  | run, .elapse duration => some { run with now := run.now + duration }

end AuthManager

/-! ## What the operations do -/

/-- What is expired may have been dropped. -/
def AuthState.Swept (now : Instant) (state state' : AuthState) : Prop :=
  state' = state ∨ state' = state.pruneExpired now

/-- All outcomes of the operations. -/
inductive Performed (manager : AuthManager) (now : Instant) (state : AuthState) (rng : Rng) :
    AuthCall → AuthState → Rng → Prop
  | unrotated {rng' : Rng} : rng.Advances rng' → Performed manager now state rng (.rotated none)
      state rng'
  | rotated {material : PairingMaterial} {rng' : Rng} : rng.Advances rng' →
      Performed manager now state rng (.rotated (some material))
        { pairingHash := some (hash material.secret)
          manualPairingHash := some (hash material.manualCode)
          generation := (state.generation + 1) % 2 ^ 64 } rng'
  | refused {presented : String} {error : AppError} {failures : Nat} {locked : Option Instant} :
      Performed manager now state rng (.exchanged presented (.error error))
        { state with failedPairings := failures, lockedUntil := locked } rng
  | lost {presented : String} {error : AppError} {rng' : Rng} : rng.Advances rng' →
      AuthManager.pairingAvailable state = true →
      Performed manager now state rng (.exchanged presented (.error error))
        { state with
          pairingHash := none, manualPairingHash := none, failedPairings := 0
          lockedUntil := none } rng'
  | exchanged {presented : String} {result : ExchangeResult} {rng' : Rng} : rng.Advances rng' →
      AuthManager.pairingAvailable state = true →
      Performed manager now state rng (.exchanged presented (.ok result))
        { state with
          pairingHash := none, manualPairingHash := none, failedPairings := 0
          lockedUntil := none
          sessions := insertKey (hash result.sessionToken)
            { clientId := result.clientId
              csrfHash := hash result.csrfToken
              expiresAt := now + manager.authTtl
              generation := state.generation } state.sessions } rng'
  | unauthenticated {sessionToken csrfToken : Option String} {requireCsrf : Bool}
      {error : AppError} {state' : AuthState} : state.Swept now state' →
      Performed manager now state rng
        (.authenticated sessionToken csrfToken requireCsrf (.error error)) state' rng
  | authenticated {token : String} {csrfToken : Option String} {requireCsrf : Bool}
      {session : AuthSession} : (hash token, session) ∈ (state.pruneExpired now).sessions →
      (requireCsrf = true → ∃ presented, csrfToken = some presented ∧
        session.csrfHash = hash presented) →
      Performed manager now state rng
        (.authenticated (some token) csrfToken requireCsrf
          (.ok ⟨session.clientId, session.generation⟩)) (state.pruneExpired now) rng
  | validated {context : AuthContext} {result : Except AppError Unit} :
      Performed manager now state rng (.validated context result) (state.pruneExpired now) rng
  | unissued {context : AuthContext} {purpose : TicketPurpose} {error : AppError}
      {state' : AuthState} {rng' : Rng} : rng.Advances rng' → state.Swept now state' →
      Performed manager now state rng (.issued context purpose (.error error)) state' rng'
  | issued {context : AuthContext} {purpose : TicketPurpose} {token : String} {rng' : Rng} :
      rng.Advances rng' → rng'.Issued rng.draws rng'.draws (hash token) →
      (state.pruneExpired now).hasLiveSession context.clientId state.generation now = true →
      Performed manager now state rng (.issued context purpose (.ok token))
        { state.pruneExpired now with
          tickets := insertKey (hash token)
            { clientId := context.clientId
              expiresAt := now + manager.ticketTtl
              generation := state.generation
              purpose } (state.pruneExpired now).tickets } rng'
  | unconsumed {token : String} {purpose : TicketPurpose} {error : AppError} :
      Performed manager now state rng (.consumed token purpose (.error error))
        { state with tickets := removeKey (hash token) state.tickets } rng
  | consumed {token : String} {purpose : TicketPurpose} {ticket : Ticket} :
      (hash token, ticket) ∈ state.tickets → now < ticket.expiresAt →
      ticket.generation = state.generation → ticket.purpose = purpose →
      Performed manager now state rng
        (.consumed token purpose (.ok ⟨ticket.clientId, ticket.generation⟩))
        { state with tickets := removeKey (hash token) state.tickets } rng
  | revoked : Performed manager now state rng .revoked
      { state with sessions := [], tickets := [] } rng
  | invalidated : Performed manager now state rng .invalidated
      { state with
        pairingHash := none, manualPairingHash := none, sessions := [], tickets := [] } rng
  | recovery {required : Bool} : Performed manager now state rng (.recovery required)
      (state.pruneExpired now) rng

namespace Performed

variable {manager : AuthManager} {now : Instant} {state : AuthState} {rng : Rng}

theorem of_rotatePairing : Performed manager now state rng
    (.rotated (AuthManager.rotatePairing state rng).1)
    (AuthManager.rotatePairing state rng).2.1 (AuthManager.rotatePairing state rng).2.2 := by
  unfold AuthManager.rotatePairing
  rcases draw : rng.randomBytes with ⟨_ | raw, rng'⟩
  · exact .unrotated (.randomBytes draw)
  · exact .rotated (.randomBytes draw)

theorem of_exchangePairing (presented : String) : Performed manager now state rng
    (.exchanged presented (manager.exchangePairing now presented state rng).1)
    (manager.exchangePairing now presented state rng).2.1
    (manager.exchangePairing now presented state rng).2.2 := by
  unfold AuthManager.exchangePairing
  split
  · exact .refused
  · split
    · rename_i matched
      have available : AuthManager.pairingAvailable state = true := by
        rcases matched with secret | manual
        · simp [AuthManager.pairingAvailable, secret]
        · simp [AuthManager.pairingAvailable, manual]
      rcases firstDraw : rng.randomToken with ⟨_ | sessionToken, rng₁⟩
      · exact .lost (.randomToken firstDraw) available
      have first := Rng.Advances.randomToken firstDraw
      dsimp only
      rcases secondDraw : rng₁.randomToken with ⟨_ | csrfToken, rng₂⟩
      · exact .lost (first.trans (.randomToken secondDraw)) available
      · have second := first.trans (Rng.Advances.randomToken secondDraw)
        exact .exchanged (second.trans (.newUuid rng₂)) available
    · dsimp only
      split
      · exact .refused
      · exact .refused

theorem of_authenticate (sessionToken csrfToken : Option String) (requireCsrf : Bool) :
    Performed manager now state rng
      (.authenticated sessionToken csrfToken requireCsrf
        (AuthManager.authenticate now sessionToken csrfToken requireCsrf state).1)
      (AuthManager.authenticate now sessionToken csrfToken requireCsrf state).2 rng := by
  unfold AuthManager.authenticate
  cases sessionToken with
  | none => exact .unauthenticated (Or.inl rfl)
  | some token =>
      dsimp only
      cases found : (state.pruneExpired now).sessions.lookup (hash token) with
      | none => exact .unauthenticated (Or.inr rfl)
      | some session =>
          have stored : (hash token, session) ∈ (state.pruneExpired now).sessions :=
            mem_of_lookup found
          dsimp only
          cases requireCsrf with
          | false => exact .authenticated stored nofun
          | true =>
              cases csrfToken with
              | none => exact .unauthenticated (Or.inr rfl)
              | some presented =>
                  by_cases matched : session.csrfHash = hash presented
                  · simp only [if_true, if_pos matched]
                    exact .authenticated stored fun _ => ⟨presented, rfl, matched⟩
                  · simp only [if_true, if_neg matched]
                    exact .unauthenticated (Or.inr rfl)

theorem of_validateContext (context : AuthContext) : Performed manager now state rng
    (.validated context (AuthManager.validateContext now context state).1)
    (AuthManager.validateContext now context state).2 rng := by
  unfold AuthManager.validateContext
  dsimp only
  split
  · exact .validated
  · exact .validated

theorem of_issueTicket (context : AuthContext) (purpose : TicketPurpose) :
    Performed manager now state rng
      (.issued context purpose (manager.issueTicket now context purpose state rng).1)
      (manager.issueTicket now context purpose state rng).2.1
      (manager.issueTicket now context purpose state rng).2.2 := by
  unfold AuthManager.issueTicket
  rcases draw : rng.randomToken with ⟨_ | token, rng'⟩
  · exact .unissued (.randomToken draw) (Or.inl rfl)
  · dsimp only
    split
    · rename_i valid
      exact .issued (.randomToken draw) (Rng.issued_of_randomToken draw) valid.2
    · exact .unissued (.randomToken draw) (Or.inr rfl)

theorem of_consumeTicket (token : String) (purpose : TicketPurpose) :
    Performed manager now state rng
      (.consumed token purpose (AuthManager.consumeTicket now token purpose state).1)
      (AuthManager.consumeTicket now token purpose state).2 rng := by
  unfold AuthManager.consumeTicket
  cases found : state.tickets.lookup (hash token) with
  | none =>
      have same : { state with tickets := removeKey (hash token) state.tickets } = state := by
        rw [removeKey_of_lookup found]
      have unconsumed : Performed manager now state rng
          (.consumed token purpose (.error .unauthorized))
          { state with tickets := removeKey (hash token) state.tickets } rng := .unconsumed
      rw [same] at unconsumed
      exact unconsumed
  | some ticket =>
      dsimp only
      split
      · exact .unconsumed
      · rename_i accepted
        simp only [not_or, Nat.not_le, not_not] at accepted
        exact .consumed (mem_of_lookup found) accepted.1 accepted.2.1 accepted.2.2

theorem of_perform (request : AuthRequest) : Performed manager now state rng
    (manager.perform now request state rng).1 (manager.perform now request state rng).2.1
    (manager.perform now request state rng).2.2 := by
  cases request with
  | rotatePairing => exact of_rotatePairing
  | exchangePairing presented => exact of_exchangePairing presented
  | authenticate sessionToken csrfToken requireCsrf =>
      exact of_authenticate sessionToken csrfToken requireCsrf
  | validateContext context => exact of_validateContext context
  | issueTicket context purpose => exact of_issueTicket context purpose
  | consumeTicket token purpose => exact of_consumeTicket token purpose
  | revokeAll => exact .revoked
  | invalidateUnpublishedPairing => exact .invalidated
  | pairingRecoveryRequired => exact .recovery

variable {call : AuthCall} {state' : AuthState} {rng' : Rng}

/-- The random source only moves on. -/
theorem advances (performed : Performed manager now state rng call state' rng') :
    rng.Advances rng' := by
  cases performed <;> first | assumption | exact .refl rng

end Performed

end XanhTab
