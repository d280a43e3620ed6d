import XanhTab.Daemon.Encoding
import XanhTab.Daemon.Model
import Mathlib.Logic.Embedding.Basic

/-!
# Pairing, authentication and tickets

`AuthManager` of `auth.rs`.  Every operation is one critical section on the
authentication state, so each is a function of that state, of the clock where
it reads the clock and of the random source where it draws from it.

The operating system's random source is an arbitrary tape, on which a draw may
fail, and an arbitrary sequence of identifiers, in which none comes twice.  Hashes
are symbolic: two digests are equal exactly when their inputs are, which is what
collision freedom of BLAKE3 stands for.
-/

namespace XanhTab

/-! ## Randomness and hashing -/

structure Rng where
  tape : Nat → Option Bytes32
  ids : Nat ↪ Uuid := .refl Nat
  draws : Nat := 0
  uuids : Nat := 0

namespace Rng

/-- `random_bytes::<32>`. -/
def randomBytes (rng : Rng) : Option Bytes32 × Rng :=
  (rng.tape rng.draws, { rng with draws := rng.draws + 1 })

/-- `random_token`. -/
def randomToken (rng : Rng) : Option String × Rng :=
  ((rng.randomBytes).1.map Encoding.urlSafeNoPad, (rng.randomBytes).2)

/-- `Uuid::new_v4`. -/
def newUuid (rng : Rng) : Uuid × Rng :=
  (rng.ids rng.uuids, { rng with uuids := rng.uuids + 1 })

/-- The identifier has been drawn. -/
def Taken (rng : Rng) (id : Uuid) : Prop :=
  ∃ number < rng.uuids, rng.ids number = id

theorem taken_newUuid (rng : Rng) : rng.newUuid.2.Taken rng.newUuid.1 :=
  ⟨rng.uuids, Nat.lt_succ_self _, rfl⟩

theorem not_taken_newUuid (rng : Rng) : ¬ rng.Taken rng.newUuid.1 := by
  rintro ⟨number, below, same⟩
  exact Nat.ne_of_lt below (rng.ids.injective same)

end Rng

structure Digest where
  preimage : String
  deriving DecidableEq, Repr

def hash (value : String) : Digest :=
  ⟨value⟩

/-! ## State -/

def maxPairFailures : Nat := 5

def pairLockout : Duration := Duration.ofSeconds 30

structure AuthSession where
  clientId : Uuid
  csrfHash : Digest
  expiresAt : Instant
  generation : Nat
  deriving DecidableEq, Repr

inductive TicketPurpose
  | events | signaling
  deriving DecidableEq, Repr

structure Ticket where
  clientId : Uuid
  expiresAt : Instant
  generation : Nat
  purpose : TicketPurpose
  deriving DecidableEq, Repr

/-- The maps are association lists with distinct keys. -/
structure AuthState where
  pairingHash : Option Digest := none
  manualPairingHash : Option Digest := none
  sessions : List (Digest × AuthSession) := []
  tickets : List (Digest × Ticket) := []
  failedPairings : Nat := 0
  lockedUntil : Option Instant := none
  generation : Nat := 0
  deriving DecidableEq, Repr

structure AuthContext where
  clientId : Uuid
  generation : Nat
  deriving DecidableEq, Repr

structure PairingMaterial where
  secret : String
  manualCode : String
  deriving DecidableEq, Repr

structure ExchangeResult where
  sessionToken : String
  csrfToken : String
  clientId : Uuid
  expiresInSeconds : Nat
  deriving DecidableEq, Repr

structure AuthManager where
  authTtl : Duration
  ticketTtl : Duration

/-- `HashMap::insert`. -/
def insertKey {α : Type} (key : Digest) (value : α) (entries : List (Digest × α)) :
    List (Digest × α) :=
  (key, value) :: entries.filter fun entry => entry.1 ≠ key

/-- `HashMap::remove`. -/
def removeKey {α : Type} (key : Digest) (entries : List (Digest × α)) : List (Digest × α) :=
  entries.filter fun entry => entry.1 ≠ key

namespace AuthState

/-- `prune_expired`. -/
def pruneExpired (state : AuthState) (now : Instant) : AuthState :=
  { state with
    sessions := state.sessions.filter fun entry =>
      entry.2.expiresAt > now && entry.2.generation == state.generation
    tickets := state.tickets.filter fun entry =>
      entry.2.expiresAt > now && entry.2.generation == state.generation }

/-- Some stored session of this generation belongs to the client and is live. -/
def hasLiveSession (state : AuthState) (client : Uuid) (generation : Nat) (now : Instant) : Bool :=
  state.sessions.any fun entry =>
    entry.2.clientId == client && entry.2.generation == generation && entry.2.expiresAt > now

end AuthState

namespace AuthManager

/-- `rotate_pairing`.  The generation counter has 64 bits and wraps. -/
def rotatePairing (state : AuthState) (rng : Rng) : Option PairingMaterial × AuthState × Rng :=
  match rng.randomBytes with
  | (none, rng) => (none, state, rng)
  | (some raw, rng) =>
      let secret := Encoding.urlSafeNoPad raw
      let manualCode := Encoding.groupManualCode raw
      (some { secret, manualCode },
        { pairingHash := some (hash secret)
          manualPairingHash := some (hash manualCode)
          sessions := []
          tickets := []
          failedPairings := 0
          lockedUntil := none
          generation := (state.generation + 1) % 2 ^ 64 },
        rng)

/-- `exchange_pairing`.  The pairing is consumed before the tokens are drawn, so
a failing draw loses it. -/
def exchangePairing (manager : AuthManager) (now : Instant) (presented : String)
    (state : AuthState) (rng : Rng) : Except AppError ExchangeResult × AuthState × Rng :=
  if state.lockedUntil.any (· > now) then
    (.error .invalidPairing, state, rng)
  else if state.pairingHash = some (hash presented) ∨
      state.manualPairingHash = some (hash presented) then
    let consumed : AuthState :=
      { state with
        lockedUntil := none
        pairingHash := none
        manualPairingHash := none
        failedPairings := 0 }
    match rng.randomToken with
    | (none, rng) => (.error .internal, consumed, rng)
    | (some sessionToken, rng) =>
        match rng.randomToken with
        | (none, rng) => (.error .internal, consumed, rng)
        | (some csrfToken, rng) =>
            let session : AuthSession :=
              { clientId := rng.newUuid.1
                csrfHash := hash csrfToken
                expiresAt := now + manager.authTtl
                generation := consumed.generation }
            (.ok
              { sessionToken, csrfToken
                clientId := rng.newUuid.1
                expiresInSeconds := manager.authTtl / Duration.ofSeconds 1 },
              { consumed with
                sessions := insertKey (hash sessionToken) session consumed.sessions },
              rng.newUuid.2)
  else
    let failures := min (state.failedPairings + 1) (2 ^ 32 - 1)
    if failures ≥ maxPairFailures then
      (.error .invalidPairing,
        { state with failedPairings := 0, lockedUntil := some (now + pairLockout) }, rng)
    else
      (.error .invalidPairing, { state with failedPairings := failures, lockedUntil := none }, rng)

/-- `authenticate`. -/
def authenticate (now : Instant) (sessionToken csrfToken : Option String) (requireCsrf : Bool)
    (state : AuthState) : Except AppError AuthContext × AuthState :=
  match sessionToken with
  | none => (.error .unauthorized, state)
  | some token =>
      let state := state.pruneExpired now
      match state.sessions.lookup (hash token) with
      | none => (.error .unauthorized, state)
      | some session =>
          let context : AuthContext := ⟨session.clientId, session.generation⟩
          if requireCsrf then
            match csrfToken with
            | none => (.error .invalidCsrf, state)
            | some presented =>
                if session.csrfHash = hash presented then (.ok context, state)
                else (.error .invalidCsrf, state)
          else (.ok context, state)

/-- `validate_context`. -/
def validateContext (now : Instant) (context : AuthContext) (state : AuthState) :
    Except AppError Unit × AuthState :=
  let state := state.pruneExpired now
  if context.generation = state.generation ∧
      state.hasLiveSession context.clientId context.generation now then
    (.ok (), state)
  else (.error .unauthorized, state)

/-- `issue_ticket`.  The token is drawn before the state is locked; nothing else
sees it in between. -/
def issueTicket (manager : AuthManager) (now : Instant) (context : AuthContext)
    (purpose : TicketPurpose) (state : AuthState) (rng : Rng) :
    Except AppError String × AuthState × Rng :=
  match rng.randomToken with
  | (none, rng) => (.error .internal, state, rng)
  | (some token, rng) =>
      let state := state.pruneExpired now
      if context.generation = state.generation ∧
          state.hasLiveSession context.clientId state.generation now then
        let ticket : Ticket :=
          { clientId := context.clientId
            expiresAt := now + manager.ticketTtl
            generation := state.generation
            purpose }
        (.ok token, { state with tickets := insertKey (hash token) ticket state.tickets }, rng)
      else (.error .unauthorized, state, rng)

/-- `consume_ticket`. -/
def consumeTicket (now : Instant) (token : String) (expectedPurpose : TicketPurpose)
    (state : AuthState) : Except AppError AuthContext × AuthState :=
  match state.tickets.lookup (hash token) with
  | none => (.error .unauthorized, state)
  | some ticket =>
      let state := { state with tickets := removeKey (hash token) state.tickets }
      if ticket.expiresAt ≤ now ∨ ticket.generation ≠ state.generation ∨
          ticket.purpose ≠ expectedPurpose then
        (.error .unauthorized, state)
      else (.ok ⟨ticket.clientId, ticket.generation⟩, state)

/-- `revoke_all`. -/
def revokeAll (state : AuthState) : AuthState :=
  { state with sessions := [], tickets := [] }

/-- `invalidate_unpublished_pairing`. -/
def invalidateUnpublishedPairing (state : AuthState) : AuthState :=
  { state with pairingHash := none, manualPairingHash := none, sessions := [], tickets := [] }

/-- `pairing_recovery_required`. -/
def pairingRecoveryRequired (now : Instant) (state : AuthState) : Bool × AuthState :=
  let state := state.pruneExpired now
  (state.generation > 0 && state.pairingHash.isNone && state.manualPairingHash.isNone &&
    state.sessions.isEmpty, state)

/-- `pairing_available`. -/
def pairingAvailable (state : AuthState) : Bool :=
  state.pairingHash.isSome || state.manualPairingHash.isSome

/-- The contents of the pairing file. -/
def pairingFileBody (material : PairingMaterial) (publicBaseUrl : String) : String :=
  let base := (publicBaseUrl.toList.reverse.dropWhile (· == '/')).reverse
  "PAIRING_URL=" ++ String.ofList base ++ "#pair=" ++ material.secret ++
    "\nMANUAL_CODE=" ++ material.manualCode ++ "\n"

end AuthManager

end XanhTab
