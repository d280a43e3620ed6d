import XanhTab.Daemon.AuthRun

/-!
# The lifetime of credentials

Everything that the authentication manager accepts in a run is accounted for by
the log: a session token by the exchange that returned it, a ticket by its
issue.  Whatever is stored is backed by such an entry, with nothing in between
that should have discarded it.
-/

namespace XanhTab

open Transition

/-! ## Entries of the log -/

/-- The entry precedes the position, and no call between them breaks it. -/
def Since (log : List AuthEntry) (breaks : AuthCall → Prop) (entry : AuthEntry)
    (position : Nat) : Prop :=
  ∃ index, index < position ∧ log[index]? = some entry ∧
    ∀ later other, index < later → later < position → log[later]? = some other →
      ¬ breaks other.call

namespace Since

variable {log : List AuthEntry} {breaks : AuthCall → Prop} {entry : AuthEntry} {position : Nat}

theorem append (since : Since log breaks entry position) (within : position ≤ log.length)
    (more : List AuthEntry) : Since (log ++ more) breaks entry position := by
  rcases since with ⟨index, before, present, unbroken⟩
  have same : ∀ index, index < position → (log ++ more)[index]? = log[index]? :=
    fun index before => List.getElem?_append_left (Nat.lt_of_lt_of_le before within)
  refine ⟨index, before, (same index before).trans present, ?_⟩
  intro later other above below found
  exact unbroken later other above below ((same later below).symm.trans found)

/-- One more call that does not break the entry. -/
theorem snoc (since : Since log breaks entry log.length) {latest : AuthEntry}
    (harmless : ¬ breaks latest.call) :
    Since (log ++ [latest]) breaks entry (log ++ [latest]).length := by
  rcases since.append (Nat.le_refl _) [latest] with ⟨index, before, present, unbroken⟩
  rw [List.length_append, List.length_singleton]
  refine ⟨index, Nat.lt_succ_of_lt before, present, ?_⟩
  intro later other above below found
  by_cases old : later < log.length
  · exact unbroken later other above old found
  · obtain rfl : later = log.length := by omega
    rw [List.getElem?_concat_length] at found
    cases found
    exact harmless

theorem last (log : List AuthEntry) (breaks : AuthCall → Prop) (latest : AuthEntry) :
    Since (log ++ [latest]) breaks latest (log ++ [latest]).length := by
  rw [List.length_append, List.length_singleton]
  refine ⟨log.length, Nat.lt_succ_self _, List.getElem?_concat_length, ?_⟩
  intro later _ above below
  omega

end Since

/-- An entry of a log is old or the last one. -/
theorem getElem?_snoc {log : List AuthEntry} {latest entry : AuthEntry} {index : Nat}
    (found : (log ++ [latest])[index]? = some entry) :
    (index < log.length ∧ log[index]? = some entry) ∨ (index = log.length ∧ entry = latest) := by
  by_cases old : index < log.length
  · exact Or.inl ⟨old, (List.getElem?_append_left old).symm.trans found⟩
  · rw [List.getElem?_append_right (Nat.le_of_not_lt old)] at found
    rcases List.getElem?_eq_some_iff.mp found with ⟨within, equal⟩
    have zero : index - log.length = 0 := Nat.lt_one_iff.mp within
    refine Or.inr ⟨by omega, ?_⟩
    simpa [zero] using equal.symm

/-! ## Where stored sessions and tickets come from -/

namespace Performed

variable {manager : AuthManager} {now : Instant} {state state' : AuthState} {rng rng' : Rng}
  {call : AuthCall}

theorem mem_of_swept {swept : AuthState} (sweeps : state.Swept now swept) :
    (∀ entry ∈ swept.sessions, entry ∈ state.sessions) ∧
      ∀ entry ∈ swept.tickets, entry ∈ state.tickets := by
  rcases sweeps with rfl | rfl
  · exact ⟨fun _ member => member, fun _ member => member⟩
  · exact ⟨fun _ member => List.mem_of_mem_filter member,
      fun _ member => List.mem_of_mem_filter member⟩

/-- A stored session was stored before, or was just exchanged. -/
theorem session_origin (performed : Performed manager now state rng call state' rng')
    {entry : Digest × AuthSession} (member : entry ∈ state'.sessions) :
    (entry ∈ state.sessions ∧ ¬ call.Revokes) ∨
      ∃ presented result, call = .exchanged presented (.ok result) ∧
        entry.1 = hash result.sessionToken ∧ entry.2.csrfHash = hash result.csrfToken ∧
        entry.2.expiresAt = now + manager.authTtl := by
  cases performed with
  | rotated | revoked | invalidated => cases member
  | exchanged =>
      rcases List.mem_cons.mp member with rfl | old
      · exact Or.inr ⟨_, _, rfl, rfl, rfl, rfl⟩
      · exact Or.inl ⟨List.mem_of_mem_filter old, id⟩
  | unauthenticated sweeps | unissued _ sweeps =>
      exact Or.inl ⟨(mem_of_swept sweeps).1 entry member, id⟩
  | authenticated | validated | issued | recovery =>
      exact Or.inl ⟨List.mem_of_mem_filter member, id⟩
  | unrotated | refused | lost | unconsumed | consumed => exact Or.inl ⟨member, id⟩

/-- A stored ticket was stored before and is not the one presented, or was just
issued. -/
theorem ticket_origin (performed : Performed manager now state rng call state' rng')
    {entry : Digest × Ticket} (member : entry ∈ state'.tickets) :
    (entry ∈ state.tickets ∧ ¬ call.Revokes ∧ ∀ token, call.Presents token →
        entry.1 ≠ hash token) ∨
      ∃ context token, call = .issued context entry.2.purpose (.ok token) ∧
        entry.1 = hash token ∧ entry.2.expiresAt = now + manager.ticketTtl := by
  cases performed with
  | rotated | revoked | invalidated => cases member
  | issued =>
      rcases List.mem_cons.mp member with rfl | old
      · exact Or.inr ⟨_, _, rfl, rfl, rfl⟩
      · exact Or.inl ⟨List.mem_of_mem_filter (List.mem_of_mem_filter old), id, nofun⟩
  | unconsumed | consumed =>
      rcases List.mem_filter.mp member with ⟨old, different⟩
      refine Or.inl ⟨old, id, ?_⟩
      rintro token rfl
      exact of_decide_eq_true different
  | unauthenticated sweeps | unissued _ sweeps =>
      exact Or.inl ⟨(mem_of_swept sweeps).2 entry member, id, nofun⟩
  | authenticated | validated | recovery =>
      exact Or.inl ⟨List.mem_of_mem_filter member, id, nofun⟩
  | unrotated | refused | lost | exchanged => exact Or.inl ⟨member, id, nofun⟩

end Performed

/-! ## The invariant -/

/-- A call that ends the life of a ticket. -/
def AuthCall.Spends (token : String) (call : AuthCall) : Prop :=
  call.Revokes ∨ call.Presents token

/-- A session is stored for an exchange that nothing has revoked since. -/
def SessionBacked (manager : AuthManager) (run : AuthRun) (entry : Digest × AuthSession) : Prop :=
  ∃ start presented result,
    Since run.log AuthCall.Revokes ⟨start, .exchanged presented (.ok result)⟩ run.log.length ∧
      start ≤ run.now ∧ entry.1 = hash result.sessionToken ∧
      entry.2.csrfHash = hash result.csrfToken ∧ entry.2.expiresAt = start + manager.authTtl

/-- A ticket is stored for an issue after which it has not been presented. -/
def TicketBacked (manager : AuthManager) (run : AuthRun) (entry : Digest × Ticket) : Prop :=
  ∃ start issuer token,
    Since run.log (AuthCall.Spends token) ⟨start, .issued issuer entry.2.purpose (.ok token)⟩
      run.log.length ∧
      start ≤ run.now ∧ entry.1 = hash token ∧ entry.2.expiresAt = start + manager.ticketTtl

structure Backed (manager : AuthManager) (run : AuthRun) : Prop where
  sessions : ∀ entry ∈ run.state.sessions, SessionBacked manager run entry
  tickets : ∀ entry ∈ run.state.tickets, TicketBacked manager run entry

/-- The call stands at the position of the log. -/
def Logged (log : List AuthEntry) (index : Nat) (time : Instant) (call : AuthCall) : Prop :=
  log[index]? = some ⟨time, call⟩

/-- What the log says of the credentials that were accepted. -/
structure Accepted (manager : AuthManager) (log : List AuthEntry) : Prop where
  authenticated : ∀ index time sessionToken csrfToken requireCsrf context,
    Logged log index time (.authenticated sessionToken csrfToken requireCsrf (.ok context)) →
      ∃ start presented result,
        Since log AuthCall.Revokes ⟨start, .exchanged presented (.ok result)⟩ index ∧
        start ≤ time ∧ time < start + manager.authTtl ∧
        sessionToken = some result.sessionToken ∧
        (requireCsrf = true → csrfToken = some result.csrfToken)
  consumed : ∀ index time token purpose context,
    Logged log index time (.consumed token purpose (.ok context)) →
      ∃ start issuer,
        Since log (AuthCall.Spends token) ⟨start, .issued issuer purpose (.ok token)⟩ index ∧
        start ≤ time ∧ time < start + manager.ticketTtl

/-- Every issued ticket was drawn, and none twice. -/
structure FreshlyIssued (run : AuthRun) : Prop where
  drawn : ∀ index time context purpose token,
    Logged run.log index time (.issued context purpose (.ok token)) →
      run.rng.Issued 0 run.rng.draws (hash token)
  once : ∀ first second time time' context context' purpose purpose' token,
    Logged run.log first time (.issued context purpose (.ok token)) →
    Logged run.log second time' (.issued context' purpose' (.ok token)) → first = second

/-! ## One operation -/

section Step

variable {manager : AuthManager} {run : AuthRun} {call : AuthCall} {state' : AuthState}
  {rng' : Rng}

theorem Backed.performed (backed : Backed manager run)
    (performed : Performed manager run.now run.state run.rng call state' rng') :
    Backed manager (run.after call state' rng') := by
  constructor
  · intro entry member
    rcases performed.session_origin member with ⟨old, harmless⟩ | ⟨presented, result, rfl, rest⟩
    · rcases backed.sessions entry old with ⟨start, presented, result, since, rest⟩
      exact ⟨start, presented, result, since.snoc harmless, rest⟩
    · exact ⟨run.now, presented, result, .last _ _ _, Nat.le_refl _, rest⟩
  · intro entry member
    rcases performed.ticket_origin member with
      ⟨old, harmless, unpresented⟩ | ⟨issuer, token, rfl, rest⟩
    · rcases backed.tickets entry old with ⟨start, issuer, token, since, before, key, expiry⟩
      refine ⟨start, issuer, token, since.snoc ?_, before, key, expiry⟩
      rintro (revokes | presents)
      · exact harmless revokes
      · exact unpresented token presents key
    · exact ⟨run.now, issuer, token, .last _ _ _, Nat.le_refl _, rest⟩

theorem Backed.elapse (backed : Backed manager run) (duration : Duration) :
    Backed manager { run with now := run.now + duration } := by
  constructor
  · intro entry member
    rcases backed.sessions entry member with ⟨start, presented, result, since, before, rest⟩
    exact ⟨start, presented, result, since, Nat.le_add_right_of_le before, rest⟩
  · intro entry member
    rcases backed.tickets entry member with ⟨start, issuer, token, since, before, rest⟩
    exact ⟨start, issuer, token, since, Nat.le_add_right_of_le before, rest⟩

theorem Accepted.performed (accepted : Accepted manager run.log) (backed : Backed manager run)
    (performed : Performed manager run.now run.state run.rng call state' rng') :
    Accepted manager (run.log ++ [⟨run.now, call⟩]) := by
  constructor
  · intro index time sessionToken csrfToken requireCsrf context logged
    rcases getElem?_snoc logged with ⟨within, old⟩ | ⟨rfl, equal⟩
    · rcases accepted.authenticated index time sessionToken csrfToken requireCsrf context old with
        ⟨start, presented, result, since, rest⟩
      exact ⟨start, presented, result, since.append (Nat.le_of_lt within) _, rest⟩
    · cases equal
      cases performed with
      | @authenticated token _ _ session stored checked =>
          rcases List.mem_filter.mp stored with ⟨member, live⟩
          rcases backed.sessions _ member with
            ⟨start, presented, result, since, before, key, csrf, expiry⟩
          refine ⟨start, presented, result, since.append (Nat.le_refl _) _, before, ?_, ?_, ?_⟩
          · rw [← expiry]
            simp only [Bool.and_eq_true, decide_eq_true_eq] at live
            exact live.1
          · exact congrArg some (hash_injective key)
          · intro required
            rcases checked required with ⟨shown, rfl, matched⟩
            exact congrArg some (hash_injective (matched.symm.trans csrf))
  · intro index time token purpose context logged
    rcases getElem?_snoc logged with ⟨within, old⟩ | ⟨rfl, equal⟩
    · rcases accepted.consumed index time token purpose context old with
        ⟨start, issuer, since, rest⟩
      exact ⟨start, issuer, since.append (Nat.le_of_lt within) _, rest⟩
    · cases equal
      cases performed with
      | @consumed _ _ ticket member live _ named =>
          rcases backed.tickets _ member with ⟨start, issuer, issued, since, before, key, expiry⟩
          obtain rfl := hash_injective key
          subst named
          exact ⟨start, issuer, since.append (Nat.le_refl _) _, before, expiry ▸ live⟩

/-- What was drawn at one time was not drawn at another. -/
theorem not_issued_again {rng : Rng} {digest : Digest} {lower upper lower' upper' : Nat}
    (distinct : rng.Distinct) (issued : rng.Issued lower upper digest)
    (again : rng.Issued lower' upper' digest) (later : upper ≤ lower') : False := by
  rcases issued with ⟨position, bytes, _, below, read, rfl⟩
  rcases again with ⟨position', bytes', above, _, read', equal⟩
  have same : bytes = bytes' := Encoding.urlSafeNoPad_injective (hash_injective equal)
  subst bytes'
  have positions := distinct position position' bytes read read'
  omega

theorem FreshlyIssued.performed (fresh : FreshlyIssued run) (distinct : run.rng.Distinct)
    (performed : Performed manager run.now run.state run.rng call state' rng') :
    FreshlyIssued (run.after call state' rng') := by
  have advances := performed.advances
  have known : ∀ {token : String}, run.rng.Issued 0 run.rng.draws (hash token) →
      rng'.Issued 0 run.rng.draws (hash token) := fun issued =>
    issued.mono advances.tape (Nat.le_refl _) (Nat.le_refl _)
  have drawn : ∀ context purpose token, call = .issued context purpose (.ok token) →
      rng'.Issued run.rng.draws rng'.draws (hash token) := by
    rintro context purpose token rfl
    cases performed with
    | issued _ issued _ => exact issued
  have distinct' : rng'.Distinct := distinct.of_advances advances
  constructor
  · intro index time context purpose token logged
    rcases getElem?_snoc logged with ⟨_, old⟩ | ⟨_, equal⟩
    · exact (known (fresh.drawn index time context purpose token old)).mono rfl (Nat.le_refl _)
        advances.draws
    · cases equal
      exact (drawn context purpose token rfl).mono rfl (Nat.zero_le _) (Nat.le_refl _)
  · intro first second time time' context context' purpose purpose' token logged logged'
    rcases getElem?_snoc logged with ⟨_, old⟩ | ⟨rfl, equal⟩
    · rcases getElem?_snoc logged' with ⟨_, old'⟩ | ⟨rfl, equal'⟩
      · exact fresh.once first second time time' context context' purpose purpose' token old old'
      · cases equal'
        exact (not_issued_again distinct'
          (known (fresh.drawn first time context purpose token old))
          (drawn context' purpose' token rfl) (Nat.le_refl _)).elim
    · rcases getElem?_snoc logged' with ⟨_, old'⟩ | ⟨rfl, _⟩
      · cases equal
        exact (not_issued_again distinct'
          (known (fresh.drawn second time' context' purpose' token old'))
          (drawn context purpose token rfl) (Nat.le_refl _)).elim
      · rfl

end Step

/-! ## The result -/

/-- What the log of a run says of session tokens and tickets. -/
structure CredentialsAccounted (manager : AuthManager) (log : List AuthEntry) : Prop
    extends Accepted manager log where
  once : ∀ first second time time' token purpose purpose' context context',
    Logged log first time (.consumed token purpose (.ok context)) →
    Logged log second time' (.consumed token purpose' (.ok context')) → first = second
  misused : ∀ start wrong later time time' time'' issuer purpose token purpose' purpose'' result
      context,
    Logged log start time (.issued issuer purpose (.ok token)) → start < wrong →
    Logged log wrong time' (.consumed token purpose' result) → purpose' ≠ purpose →
    wrong < later → ¬ Logged log later time'' (.consumed token purpose'' (.ok context))

/-- A ticket is not accepted after it was presented. -/
theorem Accepted.not_presented {manager : AuthManager} {run : AuthRun}
    (accepted : Accepted manager run.log) (fresh : FreshlyIssued run)
    {start shown later : Nat} {time time' time'' : Instant} {issuer context : AuthContext}
    {purpose purpose' purpose'' : TicketPurpose} {token : String}
    {result : Except AppError AuthContext}
    (issued : Logged run.log start time (.issued issuer purpose (.ok token)))
    (afterIssue : start < shown)
    (presented : Logged run.log shown time' (.consumed token purpose' result))
    (afterShown : shown < later)
    (consumed : Logged run.log later time'' (.consumed token purpose'' (.ok context))) : False := by
  rcases accepted.consumed later time'' token purpose'' context consumed with
    ⟨_, _, ⟨index, _, logged, unspent⟩, _⟩
  obtain rfl := fresh.once start index _ _ _ _ _ _ token issued logged
  exact unspent shown _ afterIssue afterShown presented (Or.inr rfl)

/-- In every run, what is accepted is accounted for by the log. -/
theorem credentials_accounted_of_reaches {manager : AuthManager} {rng : Rng} {now : Instant}
    {run : AuthRun} (distinct : rng.Distinct)
    (reaches : Reachable manager.step { rng, now } run) :
    CredentialsAccounted manager run.log := by
  have invariant : Backed manager run ∧ Accepted manager run.log ∧ FreshlyIssued run ∧
      run.rng.Distinct := by
    induction reaches with
    | refl => exact ⟨⟨nofun, nofun⟩, ⟨nofun, nofun⟩, ⟨nofun, nofun⟩, distinct⟩
    | @tail middle target label _ _ step ih =>
        rcases ih with ⟨backed, accepted, fresh, distinct⟩
        cases label with
        | elapse duration =>
            cases step
            exact ⟨backed.elapse duration, accepted, ⟨fresh.drawn, fresh.once⟩, distinct⟩
        | perform request =>
            cases step
            have performed : Performed manager middle.now middle.state middle.rng _ _ _ :=
              .of_perform request
            refine ⟨backed.performed performed, accepted.performed backed performed,
              fresh.performed distinct performed, distinct.of_advances performed.advances⟩
  rcases invariant with ⟨_, accepted, fresh, _⟩
  refine ⟨accepted, ?_, ?_⟩
  · intro first second time time' token purpose purpose' context context' consumed consumed'
    have earlier : ∀ {first second time time' purpose purpose' context context'},
        Logged run.log first time (.consumed token purpose (.ok context)) →
        Logged run.log second time' (.consumed token purpose' (.ok context')) →
        ¬ first < second := by
      intro first second time time' purpose purpose' context context' consumed consumed' before
      rcases accepted.consumed first time token purpose context consumed with
        ⟨_, _, ⟨index, previous, issued, _⟩, _⟩
      exact accepted.not_presented fresh issued previous consumed before consumed'
    exact Nat.le_antisymm (Nat.le_of_not_lt (earlier consumed' consumed))
      (Nat.le_of_not_lt (earlier consumed consumed'))
  · intro start wrong later _ _ _ _ _ _ _ _ _ _ issued after presented _ before consumed
    exact accepted.not_presented fresh issued after presented before consumed

namespace Sample

def firstContext : AuthContext :=
  ⟨0, 1⟩

/-- The first client is paired, authenticates, and uses a ticket twice. -/
def usedTwice : List AuthLabel :=
  [.perform .rotatePairing, .perform (.exchangePairing (Encoding.urlSafeNoPad (bytes 0))),
    .elapse (Duration.ofSeconds 20),
    .perform (.authenticate (some (Encoding.urlSafeNoPad (bytes 1)))
      (some (Encoding.urlSafeNoPad (bytes 2))) true),
    .perform (.issueTicket firstContext .events), .elapse (Duration.ofSeconds 20),
    .perform (.consumeTicket (Encoding.urlSafeNoPad (bytes 3)) .events),
    .perform (.consumeTicket (Encoding.urlSafeNoPad (bytes 3)) .events)]

end Sample

/-- The ticket is accepted once. -/
theorem credentials_accounted_of_usedTwice :
    ∃ run : AuthRun, run.log.map (fun entry => entry.call.succeeded) =
        [true, true, true, true, true, false] ∧
      CredentialsAccounted Sample.app.auth run.log := by
  have executed : ((Transition.run Sample.app.auth.step { rng := Sample.rng }
      Sample.usedTwice).map fun run : AuthRun =>
        run.log.map fun entry => entry.call.succeeded) =
      some [true, true, true, true, true, false] := by
    decide +kernel
  rcases Option.map_eq_some_iff.mp executed with ⟨run, executed, results⟩
  exact ⟨run, results,
    credentials_accounted_of_reaches Sample.rng_distinct (reachable_of_run executed)⟩

end XanhTab
