import XanhTab.Daemon.Session

/-!
# The first sections of the session operations

Every operation of the session manager decides in its first section whether it
goes on.  One inductive predicate per section lists all its outcomes, and the
proofs about the operations use these lists instead of the sections themselves.
-/

namespace XanhTab

theorem ensureActiveLease_eq_ok_iff {data : SessionData} {client : Uuid} :
    ensureActiveLease data client = .ok () ↔
      data.controller = some client ∧ data.snapshot.phase = .active := by
  unfold ensureActiveLease ensureLease
  by_cases holder : data.controller = some client
  · by_cases active : data.snapshot.phase = .active
    · simp [holder, active]
    · simp [holder, active]
  · simp [holder]

theorem acquireLease_eq_ok {data data' : SessionData} {client : Uuid}
    (acquired : acquireLease data client = .ok data') :
    (data.controller = none ∨ data.controller = some client) ∧
      data' = { data with controller := some client } := by
  unfold acquireLease at acquired
  cases holder : data.controller with
  | none => simpa [holder, eq_comm] using acquired
  | some other =>
      by_cases same : other = client
      · simpa [holder, same, eq_comm] using acquired
      · simp [holder, same] at acquired

theorem acquireLease_eq_error {data : SessionData} {client : Uuid} {error : AppError}
    (refused : acquireLease data client = .error error) :
    error = .leaseConflict ∧ ∃ other, data.controller = some other ∧ other ≠ client := by
  unfold acquireLease at refused
  cases holder : data.controller with
  | none => simp [holder] at refused
  | some other =>
      by_cases same : other = client
      · simp [holder, same] at refused
      · simp [holder, same] at refused
        exact ⟨refused.symm, other, rfl, same⟩

/-- The URL is refused by the navigation policy as it is set. -/
def SessionManager.Refuses (manager : SessionManager) (data : SessionData) (url : Url) : Prop :=
  data.snapshot.blocklistEnabled = true ∧ manager.blocks url = true

theorem SessionManager.ensureNavigationAllowed_cases (manager : SessionManager) (url : Url)
    (daemon : Daemon) :
    (manager.Refuses daemon.session url ∧
      manager.ensureNavigationAllowed url daemon.session.snapshot.blocklistEnabled daemon =
        (.error .navigationBlocked,
          { daemon with blocklistHits := (daemon.blocklistHits + 1) % 2 ^ 64 })) ∨
    (¬ manager.Refuses daemon.session url ∧
      manager.ensureNavigationAllowed url daemon.session.snapshot.blocklistEnabled daemon =
        (.ok (), daemon)) := by
  by_cases refused : manager.Refuses daemon.session url
  · refine Or.inl ⟨refused, ?_⟩
    simp [SessionManager.ensureNavigationAllowed, refused.1, refused.2]
  · refine Or.inr ⟨refused, ?_⟩
    unfold SessionManager.ensureNavigationAllowed
    rw [if_neg]
    simpa [SessionManager.Refuses] using refused

/-- The outcomes of the first section of a start. -/
inductive BeginStart (manager : SessionManager) (client : Uuid) (url : Url) (daemon : Daemon) :
    Except AppError (Uuid × StreamProfile × EgressMode) × Daemon → Prop
  | busy : daemon.session.snapshot.phase ≠ .idle → daemon.session.snapshot.phase ≠ .failed →
      BeginStart manager client url daemon (.error .invalidTransition, daemon)
  | blocked : manager.Refuses daemon.session url →
      BeginStart manager client url daemon (.error .navigationBlocked,
        { daemon with blocklistHits := (daemon.blocklistHits + 1) % 2 ^ 64 })
  | conflict (other : Uuid) : daemon.session.controller = some other → other ≠ client →
      BeginStart manager client url daemon (.error .leaseConflict, daemon)
  | begun : daemon.session.snapshot.phase = .idle ∨ daemon.session.snapshot.phase = .failed →
      daemon.session.controller = none ∨ daemon.session.controller = some client →
      ¬ manager.Refuses daemon.session url →
      BeginStart manager client url daemon
        (.ok (daemon.rng.newUuid.1, daemon.session.snapshot.streamProfile,
            daemon.session.snapshot.egress),
          { daemon with
            rng := daemon.rng.newUuid.2
            admissions := daemon.admissions ++ [⟨url, daemon.session.snapshot.blocklistEnabled⟩]
            session := { daemon.session with controller := some client }.begun daemon.rng.newUuid.1
              url daemon.utc daemon.now })

theorem beginStart_cases (manager : SessionManager) (client : Uuid) (url : Url)
    (daemon : Daemon) :
    BeginStart manager client url daemon (manager.beginStart client url daemon) := by
  unfold SessionManager.beginStart
  split
  · rename_i busy
    exact .busy busy.1 busy.2
  · rename_i free
    have phase : daemon.session.snapshot.phase = .idle ∨
        daemon.session.snapshot.phase = .failed := by
      by_cases idle : daemon.session.snapshot.phase = .idle
      · exact Or.inl idle
      · exact Or.inr (by_contra fun failed => free ⟨idle, failed⟩)
    rcases manager.ensureNavigationAllowed_cases url daemon with
      ⟨refused, equal⟩ | ⟨allowed, equal⟩
    · rw [equal]
      exact .blocked refused
    · rw [equal]
      dsimp only
      cases acquired : acquireLease daemon.session client with
      | error error =>
          rcases acquireLease_eq_error acquired with ⟨rfl, other, holder, different⟩
          exact .conflict other holder different
      | ok data =>
          rcases acquireLease_eq_ok acquired with ⟨holder, rfl⟩
          exact .begun phase holder allowed

/-- The outcomes of the first section of a burn. -/
inductive BeginBurn (daemon : Daemon) : Option SessionSnapshot × Daemon → Prop
  | idle : daemon.session.snapshot.phase = .idle →
      BeginBurn daemon (some daemon.session.snapshot, daemon)
  | burning : daemon.session.snapshot.phase ≠ .idle →
      BeginBurn daemon (none, { daemon with session := daemon.session.burning })

theorem beginBurn_cases (daemon : Daemon) :
    BeginBurn daemon (SessionManager.beginBurn daemon) := by
  unfold SessionManager.beginBurn
  split
  · rename_i idle
    exact .idle idle
  · rename_i busy
    exact .burning busy

/-- The outcomes of the first section of a navigation. -/
inductive BeginNavigation (manager : SessionManager) (client : Uuid)
    (command : NavigationCommand) (daemon : Daemon) : Except AppError Unit × Daemon → Prop
  | refused (error : AppError) : ensureActiveLease daemon.session client = .error error →
      BeginNavigation manager client command daemon (.error error, daemon)
  | blocked (url : Url) : ensureActiveLease daemon.session client = .ok () →
      command = .navigate url → manager.Refuses daemon.session url →
      BeginNavigation manager client command daemon (.error .navigationBlocked,
        { daemon with
          session := { daemon.session with lastActivity := daemon.now }
          blocklistHits := (daemon.blocklistHits + 1) % 2 ^ 64 })
  | begun : ensureActiveLease daemon.session client = .ok () →
      (∀ url, command = .navigate url → ¬ manager.Refuses daemon.session url) →
      BeginNavigation manager client command daemon (.ok (),
        { daemon with
          session := { daemon.session with lastActivity := daemon.now }
          admissions := daemon.admissions ++
            SessionManager.admitted daemon.session.snapshot.blocklistEnabled command })

theorem beginNavigation_cases (manager : SessionManager) (client : Uuid)
    (command : NavigationCommand) (daemon : Daemon) :
    BeginNavigation manager client command daemon
      (manager.beginNavigation client command daemon) := by
  unfold SessionManager.beginNavigation
  cases lease : ensureActiveLease daemon.session client with
  | error error => exact .refused error lease
  | ok _ =>
      cases command with
      | navigate url =>
          rcases manager.ensureNavigationAllowed_cases url
              { daemon with session := { daemon.session with lastActivity := daemon.now } } with
            ⟨refused, equal⟩ | ⟨allowed, equal⟩
          · dsimp only at equal ⊢
            rw [equal]
            exact .blocked url lease rfl refused
          · dsimp only at equal ⊢
            rw [equal]
            refine .begun lease fun target command => ?_
            cases command
            exact allowed
      | back | forward | reload | stop =>
          exact .begun lease fun _ command => nomatch command

/-- The outcomes of the first section of a switch. -/
inductive BeginSwitch (client : Uuid) (daemon : Daemon) :
    Except AppError (Url × StreamProfile × EgressMode) × Daemon → Prop
  | refused (error : AppError) : ensureActiveLease daemon.session client = .error error →
      BeginSwitch client daemon (.error error, daemon)
  | absent : ensureActiveLease daemon.session client = .ok () →
      daemon.session.snapshot.url = none →
      BeginSwitch client daemon
        (.error .sessionNotActive, { daemon with session := daemon.session.burning })
  | begun (url : Url) : ensureActiveLease daemon.session client = .ok () →
      daemon.session.snapshot.url = some url →
      BeginSwitch client daemon
        (.ok (url, daemon.session.snapshot.streamProfile, daemon.session.snapshot.egress),
          { daemon with session := daemon.session.burning })

theorem beginSwitch_cases (client : Uuid) (daemon : Daemon) :
    BeginSwitch client daemon (SessionManager.beginSwitch client daemon) := by
  unfold SessionManager.beginSwitch
  cases lease : ensureActiveLease daemon.session client with
  | error error => exact .refused error lease
  | ok _ =>
      rcases Option.eq_none_or_eq_some daemon.session.snapshot.url with target | ⟨url, target⟩
      · have kept : daemon.session.burning.snapshot.url = none := target
        simp only [kept]
        exact .absent lease target
      · have kept : daemon.session.burning.snapshot.url = some url := target
        simp only [kept]
        exact .begun url lease target

end XanhTab
