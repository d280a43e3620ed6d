import XanhTab.Daemon.Lifecycle

/-!
# Revocation

What was issued before some moment is told apart from what is issued later by
its position on the tape of the random source.  Once no identity from before
the moment is stored, none is ever stored again: requests store only what they
draw, and lifecycle operations store nothing.

That an old token is then refused needs the draws of the source to be distinct,
which is what its 32 bytes are for.
-/

namespace XanhTab

open Program Contract Transition

/-! ## Old identities -/

/-- The token was drawn before the moment. -/
def Rng.Drew (moment : Rng) (token : String) : Prop :=
  ∃ position bytes, position < moment.draws ∧ moment.tape position = some bytes ∧
    token = Encoding.urlSafeNoPad bytes

/-- Nothing that was issued before the moment is stored. -/
structure Renewed (moment : Rng) (daemon : Daemon) : Prop where
  advances : Rng.Advances moment daemon.rng
  sessions : ∀ entry ∈ daemon.auth.sessions,
    daemon.rng.Issued moment.draws daemon.rng.draws entry.1 ∧
    daemon.rng.Issued moment.draws daemon.rng.draws entry.2.csrfHash ∧
    ¬ moment.Taken entry.2.clientId
  tickets : ∀ entry ∈ daemon.auth.tickets,
    daemon.rng.Issued moment.draws daemon.rng.draws entry.1

namespace Renewed

variable {moment : Rng} {daemon daemon' : Daemon}

theorem of_empty (advances : Rng.Advances moment daemon.rng)
    (sessions : daemon.auth.sessions = []) (tickets : daemon.auth.tickets = []) :
    Renewed moment daemon where
  advances := advances
  sessions entry member := by rw [sessions] at member; exact nomatch member
  tickets entry member := by rw [tickets] at member; exact nomatch member

theorem lifecycle (renewed : Renewed moment daemon) (step : LifecycleStep daemon daemon') :
    Renewed moment daemon' where
  advances := renewed.advances.trans step.advances
  sessions entry member := by
    rcases renewed.sessions entry (step.sessions member) with ⟨token, csrf, client⟩
    exact ⟨token.mono step.advances.tape (Nat.le_refl _) step.advances.draws,
      csrf.mono step.advances.tape (Nat.le_refl _) step.advances.draws, client⟩
  tickets entry member :=
    (renewed.tickets entry (step.tickets member)).mono step.advances.tape (Nat.le_refl _)
      step.advances.draws

theorem auth {now : Instant} (renewed : Renewed moment daemon)
    (step : AuthStep now daemon.rng daemon'.rng daemon.auth daemon'.auth) :
    Renewed moment daemon' := by
  have advances := step.advances
  have older : ∀ digest, daemon.rng.Issued moment.draws daemon.rng.draws digest →
      daemon'.rng.Issued moment.draws daemon'.rng.draws digest :=
    fun digest issued => issued.mono advances.tape (Nat.le_refl _) advances.draws
  have newer : ∀ digest, daemon'.rng.Issued daemon.rng.draws daemon'.rng.draws digest →
      daemon'.rng.Issued moment.draws daemon'.rng.draws digest :=
    fun digest issued => issued.mono rfl renewed.advances.draws (Nat.le_refl _)
  have stored : ∀ entry ∈ daemon.auth.sessions,
      daemon'.rng.Issued moment.draws daemon'.rng.draws entry.1 ∧
      daemon'.rng.Issued moment.draws daemon'.rng.draws entry.2.csrfHash ∧
      ¬ moment.Taken entry.2.clientId := by
    intro entry member
    rcases renewed.sessions entry member with ⟨token, csrf, client⟩
    exact ⟨older _ token, older _ csrf, client⟩
  constructor
  · exact renewed.advances.trans advances
  · intro entry member
    cases step.identity with
    | drop _ _ kept _ => exact stored entry (kept.mem member)
    | consume _ _ _ same => exact stored entry (same ▸ member)
    | exchange fresh rest _ _ _ sessions kept issued =>
        rw [sessions] at member
        rcases List.mem_cons.mp member with new | old
        · subst entry
          exact ⟨newer _ issued.token, newer _ issued.csrf,
            fun old => issued.client.1 (old.of_advances renewed.advances)⟩
        · exact stored entry (kept.mem old)
  · intro entry member
    rcases step.tickets entry member with old | fresh
    · exact older _ (renewed.tickets entry old)
    · exact newer _ fresh.token

/-- Nothing old is ever stored again. -/
theorem persistent (moment : Rng) : Persistent (Renewed moment) where
  lifecycle _ _ renewed step := renewed.lifecycle step
  request _ _ renewed step := renewed.auth step.auth
  clock _ _ _ renewed := ⟨renewed.advances, renewed.sessions, renewed.tickets⟩

end Renewed

/-! ## Refusal -/

/-- A token from before the moment is not what was issued since. -/
theorem Rng.Drew.ne_of_issued {moment rng : Rng} {token : String} {digest : Digest}
    (drew : moment.Drew token) (distinct : moment.Distinct) (advances : Rng.Advances moment rng)
    {upper : Nat} (issued : rng.Issued moment.draws upper digest) : digest ≠ hash token := by
  rintro rfl
  rcases drew with ⟨position, bytes, before, read, equal⟩
  rcases issued with ⟨position', bytes', after, _, read', equal'⟩
  have same : bytes = bytes' := by
    apply Encoding.urlSafeNoPad_injective
    rw [← equal]
    exact congrArg Digest.preimage equal'
  rw [advances.tape, ← same] at read'
  have positions := distinct position position' bytes read read'
  omega

/-- What the authentication state refuses of everything that was issued before
the moment: session tokens and CSRF tokens, tickets, and contexts. -/
structure Refused (manager : AuthManager) (moment : Rng) (state : AuthState) : Prop where
  sessionToken : ∀ now token csrfToken requireCsrf, moment.Drew token →
    (AuthManager.authenticate now (some token) csrfToken requireCsrf state).1 =
      .error .unauthorized
  csrfToken : ∀ now sessionToken token context, moment.Drew token →
    (AuthManager.authenticate now sessionToken (some token) true state).1 ≠ .ok context
  ticket : ∀ now token purpose, moment.Drew token →
    (AuthManager.consumeTicket now token purpose state).1 = .error .unauthorized
  context : ∀ now context, moment.Taken context.clientId →
    (AuthManager.validateContext now context state).1 = .error .unauthorized
  issue : ∀ now context purpose rng token, moment.Taken context.clientId →
    (manager.issueTicket now context purpose state rng).1 ≠ .ok token

theorem Renewed.refused {moment : Rng} {daemon : Daemon} (renewed : Renewed moment daemon)
    (distinct : moment.Distinct) (manager : AuthManager) :
    Refused manager moment daemon.auth := by
  have strangers : ∀ (client : Uuid) generation now later, moment.Taken client →
      (daemon.auth.pruneExpired now).hasLiveSession client generation later = false := by
    intro client generation now later old
    refine Bool.eq_false_iff.mpr fun live => ?_
    rcases AuthStep.client_of_hasLiveSession live with ⟨session, member, owner⟩
    have newer := (renewed.sessions session member).2.2
    rw [owner] at newer
    exact newer old
  constructor
  · intro now token csrfToken requireCsrf drew
    have absent : (daemon.auth.pruneExpired now).sessions.lookup (hash token) = none :=
      lookup_eq_none fun entry member => drew.ne_of_issued distinct renewed.advances
        (renewed.sessions entry (List.mem_of_mem_filter member)).1
    simp [AuthManager.authenticate, absent]
  · intro now sessionToken token context drew accepted
    cases sessionToken with
    | none => simp [AuthManager.authenticate] at accepted
    | some sessionToken =>
        cases found : (daemon.auth.pruneExpired now).sessions.lookup (hash sessionToken) with
        | none => simp [AuthManager.authenticate, found] at accepted
        | some session =>
            have member := List.mem_of_mem_filter (mem_of_lookup found)
            have differs := drew.ne_of_issued distinct renewed.advances
              (renewed.sessions _ member).2.1
            simp [AuthManager.authenticate, found, differs] at accepted
  · intro now token purpose drew
    have absent : daemon.auth.tickets.lookup (hash token) = none :=
      lookup_eq_none fun entry member => drew.ne_of_issued distinct renewed.advances
        (renewed.tickets entry member)
    simp [AuthManager.consumeTicket, absent]
  · intro now context old
    simp [AuthManager.validateContext, strangers _ _ _ _ old]
  · intro now context purpose rng token old issued
    unfold AuthManager.issueTicket at issued
    rcases draw : rng.randomToken with ⟨_ | drawn, rng'⟩
    · rw [draw] at issued
      cases issued
    · rw [draw] at issued
      simp [strangers _ _ _ _ old] at issued

end XanhTab
