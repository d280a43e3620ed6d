import XanhTab.Invariant.Credentials
import XanhTab.Invariant.Pairing

/-!
# Tickets and the session that issued them

`consume_ticket` looks at the expiry and the generation of the ticket, but not
at the session of its client.  A ticket that is issued in the last moments of a
session is accepted after the session has expired.
-/

namespace XanhTab

open Transition AuthManager

/-! ## The law -/

/-- A live session of the current generation belongs to the client. -/
def AuthState.Live (state : AuthState) (client : Uuid) (now : Instant) : Prop :=
  ∃ entry ∈ state.sessions, entry.2.clientId = client ∧
    entry.2.generation = state.generation ∧ now < entry.2.expiresAt

/-- Every outstanding ticket expires no later than a session of its client. -/
def AuthState.Outlasts (state : AuthState) : Prop :=
  ∀ ticket ∈ state.tickets, ∃ entry ∈ state.sessions,
    entry.2.clientId = ticket.2.clientId ∧ ticket.2.expiresAt ≤ entry.2.expiresAt

/-- An expired authorisation is dead for tickets, too. -/
structure TicketsCovered (run : AuthRun) : Prop where
  outlasts : run.state.Outlasts
  consumed : ∀ token purpose context,
    (consumeTicket run.now token purpose run.state).1 = .ok context →
    run.state.Live context.clientId run.now ∧
      (validateContext run.now context run.state).1 = .ok ()

/-- A ticket that is going to be issued expires before the session does. -/
def IssuedInTime (manager : AuthManager) (run : AuthRun) : AuthLabel → Prop
  | .perform (.issueTicket context _) => run.rng.randomToken.1.isSome = true →
      context.generation = run.state.generation →
      ∀ entry ∈ run.state.sessions, entry.2.clientId = context.clientId →
        run.now < entry.2.expiresAt → run.now + manager.ticketTtl ≤ entry.2.expiresAt
  | _ => True

/-! ## The operations -/

namespace AuthState

variable {state : AuthState} {client : Uuid} {now : Instant}

theorem hasLiveSession_iff :
    state.hasLiveSession client state.generation now = true ↔ state.Live client now := by
  simp [hasLiveSession, Live, and_assoc]

/-- A live session survives the pruning, and the context is accepted. -/
theorem Live.validated (live : state.Live client now) :
    (validateContext now ⟨client, state.generation⟩ state).1 = .ok () := by
  rcases live with ⟨entry, member, owned, current, unexpired⟩
  have kept : (state.pruneExpired now).hasLiveSession client state.generation now = true := by
    refine List.any_eq_true.mpr ⟨entry, List.mem_filter.mpr ⟨member, ?_⟩, ?_⟩
    · simp [unexpired, current]
    · simp [owned, unexpired, current]
  unfold validateContext
  dsimp only
  rw [if_pos ⟨rfl, kept⟩]

/-- Sessions and tickets are pruned by the same clock, and the session goes last. -/
theorem Outlasts.pruned (outlasts : state.Outlasts) (paired : PairingInvariant state)
    (now : Instant) : (state.pruneExpired now).Outlasts := by
  intro ticket member
  rcases List.mem_filter.mp member with ⟨member, unexpired⟩
  simp only [Bool.and_eq_true, decide_eq_true_eq] at unexpired
  rcases outlasts ticket member with ⟨entry, stored, owned, later⟩
  have live : now < entry.2.expiresAt := Nat.lt_of_lt_of_le unexpired.1 later
  refine ⟨entry, List.mem_filter.mpr ⟨stored, ?_⟩, owned, later⟩
  simp [live, paired.sessions entry stored]

theorem Outlasts.swept {state' : AuthState} (outlasts : state.Outlasts)
    (paired : PairingInvariant state) (sweeps : state.Swept now state') : state'.Outlasts := by
  rcases sweeps with rfl | rfl
  · exact outlasts
  · exact outlasts.pruned paired now

/-- Nobody has a ticket while a pairing can be redeemed. -/
theorem Outlasts.tickets_eq_nil (outlasts : state.Outlasts) (paired : PairingInvariant state)
    (available : pairingAvailable state = true) : state.tickets = [] := by
  have free := paired.exclusive available
  refine List.eq_nil_iff_forall_not_mem.mpr fun ticket member => ?_
  rcases outlasts ticket member with ⟨entry, stored, _⟩
  rw [free] at stored
  cases stored

theorem Outlasts.performed {manager : AuthManager} {rng rng' : Rng} {call : AuthCall}
    {state' : AuthState} (outlasts : state.Outlasts) (paired : PairingInvariant state)
    (inTime : ∀ context purpose token, call = .issued context purpose (.ok token) →
      ∀ entry ∈ state.sessions, entry.2.clientId = context.clientId →
        now < entry.2.expiresAt → now + manager.ticketTtl ≤ entry.2.expiresAt)
    (performed : Performed manager now state rng call state' rng') : state'.Outlasts := by
  cases performed with
  | rotated | revoked | invalidated => exact nofun
  | unrotated | refused | lost => exact outlasts
  | exchanged _ available =>
      intro ticket member
      have none := outlasts.tickets_eq_nil paired available
      rw [none] at member
      cases member
  | unauthenticated sweeps | unissued _ sweeps => exact outlasts.swept paired sweeps
  | authenticated | validated | recovery => exact outlasts.pruned paired now
  | @issued context purpose token _ _ _ live =>
      have kept := outlasts.pruned paired now
      intro ticket member
      rcases List.mem_cons.mp member with rfl | old
      · rcases hasLiveSession_iff.mp live with ⟨entry, stored, owned, _, unexpired⟩
        have before := List.mem_of_mem_filter stored
        exact ⟨entry, stored, owned,
          inTime context purpose token rfl entry before owned unexpired⟩
      · exact kept ticket (List.mem_of_mem_filter old)
  | unconsumed | consumed =>
      exact fun ticket member => outlasts ticket (List.mem_of_mem_filter member)

/-- With outlasting sessions, an accepted ticket belongs to a live session. -/
theorem Outlasts.live_of_consumed (outlasts : state.Outlasts) (paired : PairingInvariant state)
    {token : String} {purpose : TicketPurpose} {context : AuthContext}
    (consumed : (consumeTicket now token purpose state).1 = .ok context) :
    state.Live context.clientId now ∧ context.generation = state.generation := by
  unfold consumeTicket at consumed
  cases found : state.tickets.lookup (hash token) with
  | none =>
      rw [found] at consumed
      cases consumed
  | some ticket =>
      rw [found] at consumed
      dsimp only at consumed
      split at consumed
      · cases consumed
      · rename_i accepted
        simp only [not_or, Nat.not_le, not_not] at accepted
        cases consumed
        rcases outlasts (hash token, ticket) (mem_of_lookup found) with
          ⟨entry, stored, owned, later⟩
        have unexpired : now < entry.2.expiresAt := Nat.lt_of_lt_of_le accepted.1 later
        exact ⟨⟨entry, stored, owned, paired.sessions entry stored, unexpired⟩, accepted.2.1⟩

end AuthState

/-! ## The result -/

theorem TicketsCovered.of_outlasts {run : AuthRun} (outlasts : run.state.Outlasts)
    (paired : PairingInvariant run.state) : TicketsCovered run where
  outlasts := outlasts
  consumed token purpose context consumed := by
    rcases outlasts.live_of_consumed paired consumed with ⟨live, current⟩
    have validated := live.validated
    rw [← current] at validated
    exact ⟨live, validated⟩

/-- What an issuance that returns a ticket was called with. -/
theorem issued_of_perform {manager : AuthManager} {run : AuthRun} {request : AuthRequest}
    {context : AuthContext} {purpose : TicketPurpose} {token : String}
    (issued : (manager.perform run.now request run.state run.rng).1 =
      .issued context purpose (.ok token)) :
    request = .issueTicket context purpose ∧ run.rng.randomToken.1.isSome = true ∧
      context.generation = run.state.generation := by
  cases request with
  | issueTicket context' purpose' =>
      injection issued with sameContext samePurpose result
      subst sameContext samePurpose
      unfold issueTicket at result
      rcases draw : run.rng.randomToken with ⟨_ | drawn, rng'⟩
      · rw [draw] at result
        cases result
      · rw [draw] at result
        dsimp only at result
        split at result
        · rename_i valid
          exact ⟨rfl, rfl, valid.1⟩
        · cases result
  | _ => cases issued

theorem PairingInvariant.initial : PairingInvariant {} where
  paired := rfl
  single := Nat.zero_le _
  exclusive _ := rfl
  sessions := nofun
  tickets := nofun

/-- A ticket that is issued too late outlives the only session there is. -/
theorem outlived_of_late {manager : AuthManager} {run target : AuthRun} {label : AuthLabel}
    (paired : PairingInvariant run.state) (step : manager.step run label = some target)
    (late : ¬ IssuedInTime manager run label) : ¬ target.state.Outlasts := by
  cases label with
  | elapse => exact absurd trivial late
  | perform request =>
      cases request with
      | issueTicket context purpose =>
          cases step
          simp only [IssuedInTime, Classical.not_imp, not_forall] at late
          rcases late with ⟨drawn, current, entry, stored, owned, unexpired, early⟩
          rcases draw : run.rng.randomToken with ⟨_ | token, rng'⟩
          · simp [draw] at drawn
          · have live : (run.state.pruneExpired run.now).hasLiveSession context.clientId
                run.state.generation run.now = true := by
              refine List.any_eq_true.mpr ⟨entry, List.mem_filter.mpr ⟨stored, ?_⟩, ?_⟩
              · simp [unexpired, paired.sessions entry stored]
              · simp [owned, unexpired, paired.sessions entry stored]
            intro outlasts
            simp only [perform, issueTicket, draw] at outlasts
            rw [if_pos ⟨current, live⟩] at outlasts
            rcases outlasts _ List.mem_cons_self with ⟨other, kept, _, later⟩
            have alone : other = entry := by
              have single := paired.single
              have before := List.mem_of_mem_filter kept
              rcases List.mem_iff_getElem.mp before with ⟨i, hi, rfl⟩
              rcases List.mem_iff_getElem.mp stored with ⟨j, hj, rfl⟩
              congr 1
              omega
            subst alone
            exact early later
      | _ => exact absurd trivial late

/-- In every run whose tickets are issued in time, the tickets are covered by the
sessions; the first ticket that is not issued in time is not. -/
theorem tickets_covered_of_inTime {manager : AuthManager} {rng : Rng} {now : Instant}
    {run : AuthRun}
    (reaches : ReachableUnder manager.step (IssuedInTime manager) { rng, now } run) :
    TicketsCovered run ∧ ∀ label target, manager.step run label = some target →
      (TicketsCovered target ↔ IssuedInTime manager run label) := by
  have kept : ∀ {run : AuthRun},
      ReachableUnder manager.step (IssuedInTime manager) { rng, now } run →
      PairingInvariant run.state ∧ run.state.Outlasts := by
    intro run reaches
    induction reaches with
    | refl => exact ⟨.initial, nofun⟩
    | @tail middle target label _ inTime step ih =>
        rcases ih with ⟨paired, outlasts⟩
        cases label with
        | elapse duration =>
            cases step
            exact ⟨paired, outlasts⟩
        | perform request =>
            cases step
            have performed : Performed manager middle.now middle.state middle.rng _ _ _ :=
              .of_perform request
            refine ⟨paired.performed performed, outlasts.performed paired ?_ performed⟩
            intro context purpose token issued
            rcases issued_of_perform issued with ⟨rfl, drawn, current⟩
            exact inTime drawn current
  rcases kept reaches with ⟨paired, outlasts⟩
  refine ⟨.of_outlasts outlasts paired, fun label target step => ?_⟩
  constructor
  · intro covered
    by_contra late
    exact outlived_of_late paired step late covered.outlasts
  · intro inTime
    rcases kept (reaches.tail inTime step) with ⟨paired, outlasts⟩
    exact .of_outlasts outlasts paired

namespace Sample

/-- The first client is paired and gets a ticket one second before its
authorisation expires. -/
def lateTicket : List AuthLabel :=
  [.perform .rotatePairing, .perform (.exchangePairing (Encoding.urlSafeNoPad (bytes 0))),
    .elapse (Duration.ofSeconds 599), .perform (.issueTicket firstContext .signaling),
    .elapse (Duration.ofSeconds 2)]

/-- The same with the ticket issued at once. -/
def earlyTicket : List AuthLabel :=
  [.perform .rotatePairing, .perform (.exchangePairing (Encoding.urlSafeNoPad (bytes 0))),
    .perform (.issueTicket firstContext .signaling), .elapse (Duration.ofSeconds 2)]

/-- A check for the condition on the sessions alone. -/
def issuesInTime (manager : AuthManager) (run : AuthRun) : AuthLabel → Bool
  | .perform (.issueTicket _ _) => run.state.sessions.all fun entry =>
      run.now + manager.ticketTtl ≤ entry.2.expiresAt
  | _ => true

theorem issuedInTime_of_check (manager : AuthManager) (run : AuthRun) (label : AuthLabel)
    (checked : issuesInTime manager run label = true) : IssuedInTime manager run label := by
  cases label with
  | elapse => trivial
  | perform request =>
      cases request with
      | issueTicket context purpose =>
          intro _ _ entry stored _ _
          exact of_decide_eq_true (List.all_eq_true.mp checked entry stored)
      | _ => trivial

end Sample

/-- The ticket opens a door that is closed to the session of its client. -/
theorem not_covered_of_lateTicket :
    ∃ run : AuthRun, Reachable Sample.app.auth.step { rng := Sample.rng } run ∧
      (consumeTicket run.now (Encoding.urlSafeNoPad (Sample.bytes 3)) .signaling run.state).1 =
        .ok Sample.firstContext ∧
      ¬ run.state.Live Sample.firstContext.clientId run.now ∧
      (validateContext run.now Sample.firstContext run.state).1 ≠ .ok () ∧
      ¬ TicketsCovered run := by
  have executed : ((Transition.run Sample.app.auth.step { rng := Sample.rng }
      Sample.lateTicket).map fun run : AuthRun =>
        ((consumeTicket run.now (Encoding.urlSafeNoPad (Sample.bytes 3)) .signaling
          run.state).1.toOption,
        run.state.hasLiveSession Sample.firstContext.clientId run.state.generation run.now,
        (validateContext run.now Sample.firstContext run.state).1.isOk)) =
      some (some Sample.firstContext, false, false) := by
    decide +kernel
  rcases Option.map_eq_some_iff.mp executed with ⟨run, executed, values⟩
  simp only [Prod.mk.injEq] at values
  rcases values with ⟨consumed, dead, refused⟩
  have accepted : (consumeTicket run.now (Encoding.urlSafeNoPad (Sample.bytes 3)) .signaling
      run.state).1 = .ok Sample.firstContext := by
    cases result : (consumeTicket run.now (Encoding.urlSafeNoPad (Sample.bytes 3)) .signaling
        run.state).1 with
    | error => simp [result, Except.toOption] at consumed
    | ok context => simpa [result, Except.toOption] using consumed
  have expired : ¬ run.state.Live Sample.firstContext.clientId run.now := by
    rw [← AuthState.hasLiveSession_iff, dead]
    decide
  have invalid : (validateContext run.now Sample.firstContext run.state).1 ≠ .ok () := by
    intro validated
    rw [validated] at refused
    cases refused
  refine ⟨run, reachable_of_run executed, accepted, expired, invalid, fun covered => ?_⟩
  exact expired (covered.consumed _ _ _ accepted).1

theorem tickets_covered_of_earlyTicket :
    ∃ run : AuthRun, run.state.tickets.length = 1 ∧ TicketsCovered run := by
  have executed : ((Transition.run
      (guarded Sample.app.auth.step (Sample.issuesInTime Sample.app.auth))
      { rng := Sample.rng } Sample.earlyTicket).map fun run : AuthRun =>
        run.state.tickets.length) = some 1 := by
    decide +kernel
  rcases Option.map_eq_some_iff.mp executed with ⟨run, executed, outstanding⟩
  exact ⟨run, outstanding, (tickets_covered_of_inTime
    (reachableUnder_of_run (Sample.issuedInTime_of_check _) executed)).1⟩

end XanhTab
