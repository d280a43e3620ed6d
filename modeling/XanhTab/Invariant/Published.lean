import XanhTab.Daemon.Boot
import XanhTab.Daemon.Confined
import XanhTab.Daemon.Outline

/-!
# The published pairing

Whenever a client could pair and no operation runs, the pairing file holds what
the client has to present.  A rotation stores a pairing before it is written, in
a section that cannot be dropped; where the file cannot be written the pairing
is withdrawn.
-/

namespace XanhTab

open Program Contract Transition

variable {W O N : Type}

/-! ## The pairing file -/

namespace Ledger

/-- What a call writes to the pairing file, and whether it succeeds. -/
def writing : Call × Bool → Option (String × Bool)
  | (.writePairingFile body, success) => some (body, success)
  | _ => none

/-- The last attempt to write the pairing file. -/
def lastWriting (ledger : Ledger W) : Option (String × Bool) :=
  (ledger.calls.filterMap writing).getLast?

theorem lastWriting_of_calls {ledger ledger' : Ledger W} (calls : ledger'.calls = ledger.calls) :
    ledger'.lastWriting = ledger.lastWriting := by
  unfold lastWriting
  rw [calls]

/-- A call of the session manager leaves the file as it is. -/
theorem lastWriting_of_ofSession {request : Call} {success : Bool} {ledger ledger' : Ledger W}
    (ofSession : request.OfSession) (noted : ledger'.calls = ledger.calls ++ [(request, success)]) :
    ledger'.lastWriting = ledger.lastWriting := by
  have unwritten : writing (request, success) = none := by
    cases request with
    | writePairingFile body => exact ofSession.elim
    | _ => rfl
  simp [lastWriting, noted, unwritten]

theorem lastWriting_of_write {body : String} {success : Bool} {ledger ledger' : Ledger W}
    (noted : ledger'.calls = ledger.calls ++ [(.writePairingFile body, success)]) :
    ledger'.lastWriting = some (body, success) := by
  simp [lastWriting, noted, writing]

end Ledger

/-- The material of these bytes is what a client has to present. -/
structure AuthState.Offers (auth : AuthState) (bytes : Bytes32) : Prop where
  secret : auth.pairingHash = some (hash (Encoding.urlSafeNoPad bytes))
  manual : auth.manualPairingHash = some (hash (Encoding.groupManualCode bytes))

/-- A client that can pair at all can pair with what was last written to the
pairing file, in which it finds both codes. -/
def Filed (app : AppState) (daemon : Daemon) (ledger : Ledger W) : Prop :=
  AuthManager.pairingAvailable daemon.auth = true →
    ∃ bytes, daemon.auth.Offers bytes ∧
      ledger.lastWriting = some (app.pairingText bytes, true) ∧
      app.Publishes bytes (app.pairingText bytes)

/-- The pairing stays as it is or is consumed. -/
def PairingStep (before after : Daemon) : Prop :=
  SamePairing before after ∨ AuthManager.pairingAvailable after.auth = false

namespace PairingStep

variable {before after : Daemon}

theorem of_authStep (step : AuthStep before.now before.rng after.rng before.auth after.auth) :
    PairingStep before after := by
  cases step.identity with
  | drop secret manual => exact Or.inl ⟨secret, manual⟩
  | consume _ secret manual | exchange _ _ _ secret manual =>
      exact Or.inr (by simp [AuthManager.pairingAvailable, secret, manual])

/-- What is known of an available pairing is known afterwards. -/
theorem offers (step : PairingStep before after)
    (available : AuthManager.pairingAvailable after.auth = true) :
    AuthManager.pairingAvailable before.auth = true ∧
      ∀ bytes, before.auth.Offers bytes → after.auth.Offers bytes := by
  rcases step with ⟨secret, manual⟩ | unavailable
  · refine ⟨?_, fun _ offers => ⟨secret.trans offers.secret, manual.trans offers.manual⟩⟩
    rwa [AuthManager.pairingAvailable, ← secret, ← manual]
  · rw [unavailable] at available
    cases available

end PairingStep

theorem Filed.step {app : AppState} {before after : Daemon} {ledger ledger' : Ledger W}
    (filed : Filed app before ledger) (step : PairingStep before after)
    (written : ledger'.lastWriting = ledger.lastWriting) : Filed app after ledger' := by
  intro available
  rcases step.offers available with ⟨earlier, offered⟩
  rcases filed earlier with ⟨bytes, offers, last⟩
  exact ⟨bytes, offered bytes offers, written.trans last.1, last.2⟩

/-! ## The contract -/

/-- The pairing file is looked at while no operation runs. -/
def publishedContract (app : AppState) (W O : Type) :
    Contract Daemon Call Response (Ledger W) O where
  atRest := Filed app
  rely before ledger after ledger' := PairingStep before after ∧ ledger'.calls = ledger.calls

namespace publishedContract

variable {app : AppState} {answer : Answer Call Call.Reply W O}

def filed : (publishedContract app W O).Assertion where
  holds := Filed app
  stable _ _ _ _ _ relied _ filed := filed.step relied.1 (Ledger.lastWriting_of_calls relied.2)

/-- The material is stored, unless a client has taken it already. -/
def offered (material : PairingMaterial) : (publishedContract app W O).Assertion where
  holds daemon _ := ∃ bytes, material =
      ⟨Encoding.urlSafeNoPad bytes, Encoding.groupManualCode bytes⟩ ∧
    (AuthManager.pairingAvailable daemon.auth = true → daemon.auth.Offers bytes)
  stable := by
    rintro _ _ _ _ _ relied _ ⟨bytes, drawn, offers⟩
    refine ⟨bytes, drawn, fun available => ?_⟩
    rcases relied.1.offers available with ⟨earlier, offered⟩
    exact offered bytes (offers earlier)

/-- The program can be dropped anywhere with the pairing filed. -/
abbrev Keeps {α : Type} (app : AppState) (answer : Answer Call Call.Reply W O)
    (program : Routine α) : Prop :=
  (publishedContract app W O).Spec (Ledger.answer answer) filed program fun _ => filed

theorem preserved : (publishedContract app W O).Preserved (Ledger.answer answer) SamePairing
    Call.OfSession filed where
  rest _ _ _ filed := filed
  access _ _ _ _ filed same _ := ⟨trivial, trivial, filed.step (Or.inl same) rfl⟩
  reply _ _ _ _ _ _ ofSession _ filed noted _ :=
    ⟨trivial, trivial, filed.step (Or.inl ⟨rfl, rfl⟩)
      (Ledger.lastWriting_of_ofSession ofSession (Ledger.calls_of_answer noted))⟩

theorem keeps {α : Type} {program : Routine α} (unpaired : Unpaired program) :
    Keeps app answer program :=
  preserved.spec unpaired

theorem wrap {α β : Type} {program : Routine α} {response : α → β}
    (spec : Keeps app answer program) :
    Keeps app answer (do return response (← program)) :=
  Spec.bind spec fun _ => Spec.done fun _ _ _ filed => filed

/-! ## The rotation -/

theorem rotate : (publishedContract app W O).Spec (Ledger.answer answer) filed
    (sync fun daemon => daemon.withAuthAndRng AuthManager.rotatePairing :
      Routine (Option PairingMaterial))
    fun pairing => pairing.elim filed offered := by
  refine Triple.transact filed.stable (fun pairing => (pairing.elim filed offered).stable)
    (fun awaiting => by cases awaiting) fun daemon ledger _ filed _ _ => ⟨trivial, trivial, ?_⟩
  unfold Daemon.withAuthAndRng AuthManager.rotatePairing
  rcases draw : daemon.rng.randomBytes with ⟨_ | raw, rng⟩
  · exact filed.step (Or.inl ⟨rfl, rfl⟩) rfl
  · exact ⟨raw, rfl, fun _ => ⟨rfl, rfl⟩⟩

theorem write (material : PairingMaterial) :
    (publishedContract app W O).Spec (Ledger.answer answer) (offered material)
      (Routine.writePairingFile (AuthManager.pairingFileBody material app.publicBaseUrl))
      (.either (fun _ => filed) fun _ => .trivial) := by
  refine Triple.ask (offered material).stable (fun reply => ((Assertion.either
      (fun _ => filed) fun _ => .trivial : Except String Unit → _) reply).stable)
    (fun awaiting => by cases awaiting) (fun awaiting => by cases awaiting) ?_
  rintro daemon ledger _ ⟨bytes, rfl, offers⟩ outcome reply ledger' noted _ _
  refine ⟨trivial, trivial, ?_⟩
  cases reply with
  | error error => trivial
  | ok _ =>
      exact fun available => ⟨bytes, offers available,
        Ledger.lastWriting_of_write (Ledger.calls_of_answer noted),
        app.publishes_pairingText bytes⟩

/-- A pairing that cannot be published is withdrawn. -/
theorem withdraw : (publishedContract app W O).Spec (Ledger.answer answer) .trivial
    (sync fun daemon => daemon.withAuth fun auth =>
      ((), AuthManager.invalidateUnpublishedPairing auth) : Routine Unit)
    fun _ => filed := by
  refine Triple.transact (stable_const True) (fun _ => filed.stable)
    (fun awaiting => by cases awaiting) fun daemon ledger _ _ _ _ =>
      ⟨trivial, trivial, fun available => ?_⟩
  cases available

theorem rotatePairingMaterial : Keeps app answer app.rotatePairingMaterial := by
  apply Spec.bind rotate
  intro pairing
  cases pairing with
  | none => exact Spec.done fun _ _ _ filed => filed
  | some material =>
      apply Spec.bind (write material)
      intro reply
      cases reply with
      | ok _ => exact Spec.done fun _ _ _ filed => filed
      | error _ =>
          apply Spec.bind withdraw
          exact fun _ => Spec.done fun _ _ _ filed => filed

theorem revokeAndRotate : Keeps app answer app.revokeAndRotate := by
  have revoke : Keeps app answer
      (sync fun daemon => daemon.withAuth fun auth => ((), AuthManager.revokeAll auth)) :=
    keeps (Within.transact fun _ => ⟨rfl, rfl⟩)
  exact Spec.bind revoke fun _ => rotatePairingMaterial

/-! ## The operations -/

/-- The rotation after a burn, with what is made of its result. -/
theorem revokeThen {α : Type} {finish : Except AppError Unit → Routine α}
    (finishes : ∀ rotated, ∃ result, finish rotated = .done result) :
    Keeps app answer (app.revokeAndRotate >>= finish) := by
  apply Spec.bind revokeAndRotate
  intro rotated
  rcases finishes rotated with ⟨result, finished⟩
  rw [finished]
  exact Spec.done fun _ _ _ filed => filed

theorem burnAndRotate (controller : Option Uuid) :
    Keeps app answer (app.burnAndRotate controller) := by
  cases controller with
  | none =>
      apply Spec.bind (keeps (.of_confined (Confined.forceBurn _)))
      intro burnResult
      apply revokeThen
      intro pairingResult
      cases burnResult <;> cases pairingResult <;> exact ⟨_, rfl⟩
  | some client =>
      apply Spec.bind (keeps (.of_confined (Confined.burn _ client)))
      intro burnResult
      apply revokeThen
      intro pairingResult
      cases burnResult <;> cases pairingResult <;> exact ⟨_, rfl⟩

theorem autoBurnIfDue : Keeps app answer app.autoBurnIfDue := by
  have look : ∀ {α : Type} (value : Daemon → α), Keeps app answer (read value) :=
    fun value => keeps (.of_confined (Confined.read value))
  apply Spec.bind (look _)
  intro snapshot
  dsimp only
  split
  · exact Spec.done fun _ _ _ filed => filed
  · apply Spec.bind (look _)
    intro idleFor
    split
    · exact Spec.done fun _ _ _ filed => filed
    · apply Spec.bind (burnAndRotate none)
      intro result
      cases result <;> exact Spec.done fun _ _ _ filed => filed

theorem recoverExpiredAuth : Keeps app answer app.recoverExpiredAuth := by
  have required : Keeps app answer
      (sync fun daemon => daemon.withAuth (AuthManager.pairingRecoveryRequired daemon.now)) :=
    keeps (Within.transact fun _ => ⟨rfl, rfl⟩)
  apply Spec.bind required
  intro required
  cases required with
  | false => exact Spec.done fun _ _ _ filed => filed
  | true =>
      apply Spec.bind (keeps (.of_confined (Confined.read _)))
      intro snapshot
      dsimp only
      split
      · apply revokeThen
        intro pairingResult
        cases pairingResult <;> exact ⟨_, rfl⟩
      · apply Spec.bind (keeps (.of_confined (Confined.forceBurn _)))
        intro burnResult
        apply revokeThen
        intro pairingResult
        cases burnResult <;> cases pairingResult <;> exact ⟨_, rfl⟩

theorem operation (op : Lifecycle) : Keeps app answer (app.lifecycle op) := by
  cases op with
  | startSession context url =>
      exact wrap (keeps (Within.andThen (Unpaired.validateContext context) fun _ =>
        Unpaired.of_confined (Confined.start _ _ _)))
  | navigate context id command =>
      exact wrap (keeps (Unpaired.addressed (.of_confined (Confined.navigate _ _ _))))
  | switchEgress context id mode =>
      exact wrap (keeps (Unpaired.addressed (.of_confined (Confined.switchEgress _ _))))
  | burnControllerSession context id =>
      refine wrap (Spec.andThen (keeps (Unpaired.validateContext context))
        (fun _ _ _ _ filed => filed) fun _ => ?_)
      exact Spec.andThen (keeps (Unpaired.requireSessionId id)) (fun _ _ _ _ filed => filed)
        fun _ => burnAndRotate _
  | autoBurnIfDue => exact wrap autoBurnIfDue
  | recoverExpiredAuth => exact wrap recoverExpiredAuth

theorem established {world : N → Daemon → W → Option W} :
    (publishedContract app W O).Established (app.ledgerService answer world) where
  operation op := operation op
  task request daemon ledger _ := by
    apply Steady.of_local (request_local app request)
    intro before ledger after _ step _ _
    exact ⟨⟨.of_authStep step.auth, rfl⟩, trivial⟩
  noise event daemon ledger daemon' ledger' _ changed _ := by
    cases event with
    | elapse duration | setClock utc =>
        cases changed
        exact ⟨⟨Or.inl ⟨rfl, rfl⟩, rfl⟩, trivial⟩
    | world event =>
        rcases Option.map_eq_some_iff.mp changed with ⟨after, moved, equal⟩
        cases equal
        exact ⟨⟨Or.inl ⟨rfl, rfl⟩, Ledger.calls_of_noise moved⟩, trivial⟩
  resting _ _ _ _ good relied good' filed := filed.step relied.1
    (Ledger.lastWriting_of_calls relied.2)
  finished _ _ _ _ filed := filed

end publishedContract

/-! ## The result -/

section Runs

variable {F : Type} {crate : UrlCrate} {fst : FstCrate F} {config : Configuration.Config}
  {opened : Except String (Option F)} {rng : Rng} {now : Instant} {utc : DateTime}
  {writes : String → Except String Unit} {loads : String → String → Bool} {serving : Serving}
  {answer : Answer Call Call.Reply W O} {world : N → Daemon → W → Option W} {state : W}
  {reached : Config Daemon Call Call.Reply Response (Ledger W)}

theorem Deployed.filed {blocklist : Blocklist F} {bytes : Bytes32}
    (deployed : Deployed crate fst config blocklist bytes loads serving) :
    Filed serving.app serving.daemon (serving.ledger state) := by
  refine fun _ => ⟨bytes, ⟨deployed.pairing.1, deployed.pairing.2⟩, ?_,
    serving.app.publishes_pairingText bytes⟩
  unfold AppState.pairingText
  rw [← deployed.published]
  rfl

theorem Deployed.filed_of_reaches {blocklist : Blocklist F} {bytes : Bytes32}
    (deployed : Deployed crate fst config blocklist bytes loads serving)
    (reaches : (serving.app.ledgerService answer world).Reaches
      (.idle serving.daemon (serving.ledger state)) reached)
    (free : reached.holder = none) : Filed serving.app reached.memory reached.world :=
  (publishedContract.established.sound (.idle ⟨trivial, trivial⟩ deployed.filed)
    (fun _ _ => trivial) (Pool.reachesUnder_free _ reaches)).rest free

/-- In every run of the daemon that `main` serves, whenever no operation runs or
the one that runs awaits, a client that can pair at all can pair with what was
last written to the pairing file, in which it finds both codes. -/
theorem filed_of_boot (serves : config.boot crate fst opened rng now utc writes loads = .ok serving)
    (reaches : (serving.app.ledgerService answer world).Reaches
      (.idle serving.daemon (serving.ledger state)) reached)
    (awaits : reached.holder = none ∨
      ((serving.app.ledgerService answer world).step reached (.drop none)).isSome) :
    Filed serving.app reached.memory reached.world := by
  rcases deployed_of_boot serves with ⟨file, bytes, _, deployed⟩
  rcases awaits with free | drops
  · exact deployed.filed_of_reaches reaches free
  · rcases Option.isSome_iff_exists.mp drops with ⟨dropped, step⟩
    have kept := Pool.drop_none step
    have filed := deployed.filed_of_reaches (reaches.tail trivial step) kept.1
    rwa [kept.2.1, kept.2.2] at filed

end Runs

namespace Sample

/-- The first client's session is burned. -/
def burnsOnce : List (ServiceLabel Bool Empty) :=
  openSession true 8 ++ [.finish, .start (.burnControllerSession ⟨0, 1⟩ 1)] ++
    List.replicate 14 (.step (some true)) ++ [.finish]

end Sample

/-- The pairing that follows the first burn is published. -/
theorem filed_of_burnsOnce :
    ∃ reached : Config Daemon Call Call.Reply Response (Ledger Unit),
      reached.memory.auth.generation = 2 ∧ ∃ bytes, reached.memory.auth.Offers bytes ∧
        reached.world.lastWriting = some (Sample.localServing.app.pairingText bytes, true) ∧
        Sample.localServing.app.Publishes bytes (Sample.localServing.app.pairingText bytes) := by
  have executed : ((run (Sample.localServing.app.ledgerService Sample.told AppState.still).step
      (.idle Sample.localServing.daemon (Sample.localServing.ledger ())) Sample.burnsOnce).map
        fun reached => (reached.holder.isNone, reached.memory.auth.generation,
          AuthManager.pairingAvailable reached.memory.auth)) = some (true, 2, true) := by
    decide +kernel
  rcases Option.map_eq_some_iff.mp executed with ⟨reached, visited, values⟩
  simp only [Prod.mk.injEq, Option.isNone_iff_eq_none] at values
  rcases values with ⟨free, generation, available⟩
  exact ⟨reached, generation, filed_of_boot Sample.localBoot_serves (reachable_of_run visited)
    (Or.inl free) available⟩

end XanhTab
