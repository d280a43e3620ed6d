import Mathlib.Data.Bool.AllAny
import XanhTab.Daemon.Auth
import XanhTab.Text.Basic
import XanhTab.Web.Text

/-!
# Pairing codes as they are typed

`normalizePairingSecret` of `web/app.js`, the length gate of `exchange_pairing` in
`api.rs`, and the codes of `rotate_pairing`.
-/

namespace XanhTab

namespace Web

/-- `[A-Z2-7]` -/
def isGroupChar (c : Char) : Bool :=
  ('A' ≤ c && c ≤ 'Z') || ('2' ≤ c && c ≤ '7')

/-- Four of them and nothing else. -/
def isGroup (group : List Char) : Bool :=
  group.length = 4 && group.all isGroupChar

def normalizePairingSecret (mapping : CaseMapping) (raw : List Char) : List Char :=
  let trimmed := trim raw
  if trimmed.any isSpace then
    let groups := splitSpaces (toUpperCase mapping trimmed)
    if groups.all isGroup then ['-'].intercalate groups else trimmed
  else trimmed

/-- A code as it is typed: with white space for each hyphen, in any letter case. -/
inductive Typed : List Char → List Char → Prop
  | nil : Typed [] []
  | letter {c typed : Char} {code text : List Char} (here : c ≠ '-')
      (same : typed = c ∨ typed = c.toLower) (rest : Typed code text) :
      Typed (c :: code) (typed :: text)
  | hyphen {run code text : List Char} (some : run ≠ []) (spaces : Blank run)
      (rest : Typed code text) : Typed ('-' :: code) (run ++ text)

/-! ## Typed codes -/

/-- What the client finds out about a character of a code. -/
theorem spec_of_base32 : ∀ c ∈ Encoding.base32Alphabet,
    c ≠ '-' ∧ isSpace c = false ∧ isSpace c.toLower = false ∧ c.toNat < 128 ∧
      c.toLower.toNat < 128 ∧ c.toUpper = c ∧ c.toLower.toUpper = c ∧ isGroupChar c = true := by
  refine List.all_iff_forall_prop.mp ?_
  decide +kernel

theorem upper_of_typed (mapping : CaseMapping) {c typed : Char}
    (letter : c ∈ Encoding.base32Alphabet) (same : typed = c ∨ typed = c.toLower) :
    mapping.upper typed = [c] := by
  rcases spec_of_base32 c letter with ⟨_, _, _, ascii, asciiLower, upper, lower, _⟩
  rcases same with rfl | rfl
  · rw [mapping.ascii _ ascii, upper]
  · rw [mapping.ascii _ asciiLower, lower]

theorem plain_of_typed {c typed : Char} (letter : c ∈ Encoding.base32Alphabet)
    (same : typed = c ∨ typed = c.toLower) : isSpace typed = false := by
  rcases spec_of_base32 c letter with ⟨_, plain, plainLower, _⟩
  rcases same with rfl | rfl
  · exact plain
  · exact plainLower

/-- A code without an empty group at its beginning begins with a letter. -/
theorem exists_letter {code : List Char} (letters : ∀ c ∈ code, c = '-' ∨ c ∈ Encoding.base32Alphabet)
    (full : ∀ group ∈ code.splitOn '-', group ≠ []) :
    ∃ c rest, code = c :: rest ∧ c ∈ Encoding.base32Alphabet := by
  cases code with
  | nil =>
      rw [List.splitOn_nil] at full
      exact absurd rfl (full [] (List.mem_singleton_self _))
  | cons c rest =>
      refine ⟨c, rest, rfl, (letters c List.mem_cons_self).resolve_left ?_⟩
      rintro rfl
      rw [List.splitOn_cons_eq_if_modifyHead, if_pos (beq_self_eq_true _)] at full
      exact full [] List.mem_cons_self rfl

theorem exists_last_letter {code : List Char}
    (letters : ∀ c ∈ code, c = '-' ∨ c ∈ Encoding.base32Alphabet)
    (full : ∀ group ∈ code.splitOn '-', group ≠ []) :
    ∃ c, code.getLast? = some c ∧ c ∈ Encoding.base32Alphabet := by
  rcases List.eq_nil_or_concat code with rfl | ⟨front, c, rfl⟩
  · rw [List.splitOn_nil] at full
    exact absurd rfl (full [] (List.mem_singleton_self _))
  · rw [List.concat_eq_append] at *
    have member := List.mem_append_right front (List.mem_singleton_self c)
    refine ⟨c, List.getLast?_concat, (letters c member).resolve_left ?_⟩
    rintro rfl
    rw [List.splitOn_append_cons_self, List.splitOn_nil] at full
    exact full [] (List.mem_append_right _ (List.mem_singleton_self _)) rfl

theorem splitOn_cons_of_letter {c : Char} (letter : c ∈ Encoding.base32Alphabet) (code : List Char) :
    (c :: code).splitOn '-' = (code.splitOn '-').modifyHead (c :: ·) := by
  rw [List.splitOn_cons_eq_if_modifyHead, if_neg (by simp [(spec_of_base32 c letter).1])]

theorem toUpperCase_cons (mapping : CaseMapping) {c typed : Char}
    (letter : c ∈ Encoding.base32Alphabet) (same : typed = c ∨ typed = c.toLower) (text : List Char) :
    toUpperCase mapping (typed :: text) = c :: toUpperCase mapping text := by
  unfold toUpperCase
  rw [List.flatMap_cons, upper_of_typed mapping letter same]
  rfl

/-- The groups of a typed code are those between the hyphens. -/
theorem splitSpaces_typed (mapping : CaseMapping) {code text : List Char} (typed : Typed code text)
    (letters : ∀ c ∈ code, c = '-' ∨ c ∈ Encoding.base32Alphabet)
    (full : ∀ group ∈ (code.splitOn '-').tail, group ≠ []) :
    splitSpaces (toUpperCase mapping text) = code.splitOn '-' := by
  induction typed with
  | nil => rfl
  | @letter c typed code text here same rest ih =>
      rcases List.forall_mem_cons.mp letters with ⟨letter, letters⟩
      have known := letter.resolve_left here
      rw [splitOn_cons_of_letter known] at full ⊢
      rw [List.tail_modifyHead] at full
      rw [toUpperCase_cons mapping known same, ← ih letters full]
      exact splitRuns_cons_of_plain (spec_of_base32 c known).2.1 _
  | @hyphen run code text some spaces rest ih =>
      rcases List.forall_mem_cons.mp letters with ⟨_, letters⟩
      rw [List.splitOn_cons_eq_if_modifyHead, if_pos (beq_self_eq_true _)] at full ⊢
      rw [List.tail_cons] at full
      have split := ih letters fun group member => full group (List.mem_of_mem_tail member)
      rcases exists_letter letters full with ⟨c, code, rfl, known⟩
      -- The letter after the hyphen ends the run.
      cases rest with
      | letter here same rest =>
          rw [toUpperCase_cons mapping known same] at split
          rw [toUpperCase_append, toUpperCase_of_blank mapping spaces,
            toUpperCase_cons mapping known same,
            splitSpaces_of_run some spaces (spec_of_base32 c known).2.1, split]
      | hyphen => exact absurd known (by decide)

/-! ## The ends of a typed code -/

namespace Typed

variable {code text : List Char}

theorem begins {c : Char} (typed : Typed (c :: code) text) (letter : c ∈ Encoding.base32Alphabet) :
    ∃ first, text.head? = some first ∧ isSpace first = false := by
  cases typed with
  | @letter _ first _ rest here same typed => exact ⟨first, rfl, plain_of_typed letter same⟩
  | hyphen => exact absurd letter (by decide)

theorem ends (typed : Typed code text) {c : Char} (last : code.getLast? = some c)
    (letter : c ∈ Encoding.base32Alphabet) :
    ∃ final, text.getLast? = some final ∧ isSpace final = false := by
  induction typed with
  | nil => cases last
  | @letter other typed code text here same rest ih =>
      rcases eq_or_ne code [] with rfl | more
      · rcases Option.some.inj last with rfl
        cases rest
        exact ⟨typed, rfl, plain_of_typed letter same⟩
      · rw [List.getLast?_cons_of_ne_nil more] at last
        rcases ih last with ⟨final, there, plain⟩
        have nonempty : text ≠ [] := by
          rintro rfl
          cases there
        exact ⟨final, by rw [List.getLast?_cons_of_ne_nil nonempty, there], plain⟩
  | @hyphen run code text some spaces rest ih =>
      rcases eq_or_ne code [] with rfl | more
      · rcases Option.some.inj last with rfl
        exact absurd letter (by decide)
      · rw [List.getLast?_cons_of_ne_nil more] at last
        rcases ih last with ⟨final, there, plain⟩
        exact ⟨final, by rw [List.getLast?_append, there]; rfl, plain⟩

/-- A code with a hyphen is typed with white space. -/
theorem spaced (typed : Typed code text) (hyphen : '-' ∈ code) : text.any isSpace = true := by
  induction typed with
  | nil => cases hyphen
  | @letter c typed code text here same rest ih =>
      have later := (List.mem_cons.mp hyphen).resolve_left (Ne.symm here)
      rw [List.any_cons, ih later, Bool.or_true]
  | @hyphen run code text some spaces rest ih =>
      rcases List.exists_cons_of_ne_nil some with ⟨first, others, rfl⟩
      rw [List.cons_append, List.any_cons, spaces first List.mem_cons_self, Bool.true_or]

end Typed

/-! ## What the client makes of a code -/

section Normalize

variable {mapping : CaseMapping} {before after text : List Char}

/-- A text without white space is only trimmed. -/
theorem normalize_of_unspaced (spacesBefore : Blank before) (spacesAfter : Blank after)
    (some : text ≠ []) (plain : ∀ c ∈ text, isSpace c = false) :
    normalizePairingSecret mapping (before ++ text ++ after) = text := by
  have trimmed : trim (before ++ text ++ after) = text :=
    trim_around spacesBefore spacesAfter (List.head?_eq_some_head some)
      (plain _ (List.head_mem some)) (List.getLast?_eq_some_getLast some)
      (plain _ (List.getLast_mem some))
  have unspaced : ¬ text.any isSpace = true := by
    rw [List.any_eq_true]
    rintro ⟨c, member, space⟩
    rw [plain c member] at space
    cases space
  unfold normalizePairingSecret
  rw [trimmed]
  exact if_neg unspaced

theorem isGroup_of_mem {bytes : Bytes32} {group : List Char}
    (listed : group ∈ Encoding.manualGroups bytes) : isGroup group = true := by
  have four := (Encoding.manualGroups_spec bytes).2.1 group listed
  have chars : group.all isGroupChar = true := by
    rw [List.all_eq_true]
    intro c member
    rcases spec_of_base32 c (Encoding.base32_of_mem_group listed member) with
      ⟨_, _, _, _, _, _, _, inside⟩
    exact inside
  unfold isGroup
  rw [chars, four]
  rfl

theorem hyphen_mem_groupManualCode (bytes : Bytes32) :
    '-' ∈ (Encoding.groupManualCode bytes).toList := by
  by_contra absent
  have groups := Encoding.splitOn_groupManualCode bytes
  have number := (Encoding.manualGroups_spec bytes).1
  rw [← groups, List.splitOn_eq_singleton absent] at number
  cases number

/-- A manual code is found again however it is typed. -/
theorem normalize_of_typed (spacesBefore : Blank before) (spacesAfter : Blank after)
    {bytes : Bytes32} (typed : Typed (Encoding.groupManualCode bytes).toList text) :
    normalizePairingSecret mapping (before ++ text ++ after) =
      (Encoding.groupManualCode bytes).toList := by
  have letters : ∀ c ∈ (Encoding.groupManualCode bytes).toList,
      c = '-' ∨ c ∈ Encoding.base32Alphabet := fun _ member => Encoding.mem_groupManualCode member
  have groups := Encoding.splitOn_groupManualCode bytes
  have full : ∀ group ∈ (Encoding.groupManualCode bytes).toList.splitOn '-', group ≠ [] := by
    rw [groups]
    rintro group listed rfl
    have four := (Encoding.manualGroups_spec bytes).2.1 _ listed
    cases four
  have trimmed : trim (before ++ text ++ after) = text := by
    rcases exists_last_letter letters full with ⟨last, ends, lastLetter⟩
    rcases exists_letter letters full with ⟨first, rest, equal, letter⟩
    rcases typed.ends ends lastLetter with ⟨final, final?, finalPlain⟩
    rw [equal] at typed
    rcases typed.begins letter with ⟨initial, initial?, initialPlain⟩
    exact trim_around spacesBefore spacesAfter initial? initialPlain final? finalPlain
  have split : splitSpaces (toUpperCase mapping text) = Encoding.manualGroups bytes := by
    rw [splitSpaces_typed mapping typed letters fun group member =>
      full group (List.mem_of_mem_tail member), groups]
  have all : (Encoding.manualGroups bytes).all isGroup = true := by
    rw [List.all_eq_true]
    exact fun group listed => isGroup_of_mem listed
  unfold normalizePairingSecret
  rw [trimmed]
  simp only
  rw [if_pos (typed.spaced (hyphen_mem_groupManualCode bytes)), split, if_pos all,
    Encoding.groupManualCode_toList]

end Normalize

end Web

/-! ## Redemption -/

/-- `exchange_pairing` of `api.rs`, once the body is read and the origin accepted. -/
def AuthManager.exchangePairingRequest (manager : AuthManager) (now : Instant) (secret : String)
    (state : AuthState) (rng : Rng) : Except AppError ExchangeResult × AuthState × Rng :=
  if Text.utf8Length secret.toList < 40 ∨ Text.utf8Length secret.toList > 128 then
    (.error .invalidPairing, state, rng)
  else manager.exchangePairing now secret state rng

/-- The pairing of these bytes has not been redeemed, and no lockout is in force. -/
structure AuthState.Fresh (state : AuthState) (raw : Bytes32) (now : Instant) : Prop where
  secret : state.pairingHash = some (hash (Encoding.urlSafeNoPad raw))
  manualCode : state.manualPairingHash = some (hash (Encoding.groupManualCode raw))
  unlocked : state.lockedUntil.any (· > now) = false

/-- A request with the code is answered with a new session, unless the random source fails. -/
def AuthManager.Redeems (manager : AuthManager) (raw : Bytes32) (code : String) : Prop :=
  ∀ (now : Instant) (state : AuthState) (rng : Rng), state.Fresh raw now →
    (∀ draw, rng.tape draw ≠ none) →
    ∃ result, (manager.exchangePairingRequest now code state rng).1 = .ok result

namespace Web

variable {raw : Bytes32}

theorem ascii_of_alphabets : (∀ c ∈ Encoding.base64Alphabet, isSpace c = false ∧ c.toNat < 128) ∧
    ∀ c ∈ '-' :: Encoding.base32Alphabet, isSpace c = false ∧ c.toNat < 128 := by
  constructor
  all_goals
    refine List.all_iff_forall_prop.mp ?_
    decide +kernel

theorem spec_of_secret : ∀ c ∈ (Encoding.urlSafeNoPad raw).toList,
    isSpace c = false ∧ c.toNat < 128 :=
  fun c member => ascii_of_alphabets.1 c (Encoding.mem_base64Alphabet member)

theorem spec_of_manualCode : ∀ c ∈ (Encoding.groupManualCode raw).toList,
    isSpace c = false ∧ c.toNat < 128 :=
  fun c member => ascii_of_alphabets.2 c (List.mem_cons.mpr (Encoding.mem_groupManualCode member))

theorem length_secret : Text.utf8Length (Encoding.urlSafeNoPad raw).toList = 43 := by
  rw [Text.utf8Length_of_ascii fun c member => (spec_of_secret c member).2]
  unfold Encoding.urlSafeNoPad
  rw [String.toList_ofList, List.length_map, Encoding.length_regroup]

theorem length_manualCode : Text.utf8Length (Encoding.groupManualCode raw).toList = 64 := by
  rw [Text.utf8Length_of_ascii fun c member => (spec_of_manualCode c member).2,
    Encoding.groupManualCode_toList]
  exact Encoding.length_intercalate_of_four (Encoding.manualGroups_spec raw).1
    (Encoding.manualGroups_spec raw).2.1

/-- The exchange behind the gate. -/
theorem exchange_of_fresh (manager : AuthManager) {now : Instant} {state : AuthState} {rng : Rng}
    {code : String} (unlocked : state.lockedUntil.any (· > now) = false)
    (stored : state.pairingHash = some (hash code) ∨ state.manualPairingHash = some (hash code))
    (supplied : ∀ draw, rng.tape draw ≠ none) :
    ∃ result, (manager.exchangePairing now code state rng).1 = .ok result := by
  rcases Option.ne_none_iff_exists'.mp (supplied rng.draws) with ⟨first, firstDrawn⟩
  rcases Option.ne_none_iff_exists'.mp (supplied (rng.draws + 1)) with ⟨second, secondDrawn⟩
  unfold AuthManager.exchangePairing
  rw [if_neg (by simp [unlocked]), if_pos stored]
  simp [Rng.randomToken, Rng.randomBytes, firstDrawn, secondDrawn]

end Web

/-- What the client makes of the codes of these bytes. -/
structure Web.Typable (mapping : Web.CaseMapping) (raw : Bytes32) : Prop where
  typed : ∀ before text after, Web.Blank before → Web.Blank after →
    Web.Typed (Encoding.groupManualCode raw).toList text →
      Web.normalizePairingSecret mapping (before ++ text ++ after) =
        (Encoding.groupManualCode raw).toList
  secret : ∀ before after, Web.Blank before → Web.Blank after →
    Web.normalizePairingSecret mapping (before ++ (Encoding.urlSafeNoPad raw).toList ++ after) =
      (Encoding.urlSafeNoPad raw).toList
  manualCode : ∀ before after, Web.Blank before → Web.Blank after →
    Web.normalizePairingSecret mapping (before ++ (Encoding.groupManualCode raw).toList ++ after) =
      (Encoding.groupManualCode raw).toList

theorem Web.typable (mapping : Web.CaseMapping) (raw : Bytes32) : Web.Typable mapping raw where
  typed := fun _ _ _ spacesBefore spacesAfter typed =>
    Web.normalize_of_typed spacesBefore spacesAfter typed
  secret := by
    intro before after spacesBefore spacesAfter
    have some : (Encoding.urlSafeNoPad raw).toList ≠ [] := by
      intro none
      have length : Text.utf8Length (Encoding.urlSafeNoPad raw).toList = 43 := Web.length_secret
      rw [none] at length
      cases length
    exact Web.normalize_of_unspaced spacesBefore spacesAfter some fun c member =>
      (Web.spec_of_secret c member).1
  manualCode := by
    intro before after spacesBefore spacesAfter
    exact Web.normalize_of_unspaced spacesBefore spacesAfter
      (List.ne_nil_of_mem (Web.hyphen_mem_groupManualCode raw)) fun c member =>
        (Web.spec_of_manualCode c member).1

theorem AuthManager.redeems_secret (manager : AuthManager) (raw : Bytes32) :
    manager.Redeems raw (Encoding.urlSafeNoPad raw) := by
  intro now state rng fresh supplied
  unfold exchangePairingRequest
  rw [Web.length_secret, if_neg (by decide)]
  exact Web.exchange_of_fresh manager fresh.unlocked (.inl fresh.secret) supplied

theorem AuthManager.redeems_manualCode (manager : AuthManager) (raw : Bytes32) :
    manager.Redeems raw (Encoding.groupManualCode raw) := by
  intro now state rng fresh supplied
  unfold exchangePairingRequest
  rw [Web.length_manualCode, if_neg (by decide)]
  exact Web.exchange_of_fresh manager fresh.unlocked (.inr fresh.manualCode) supplied

/-- A rotation stores the hashes of two codes from which its random bytes can be read,
and whatever a user types of either is redeemed while the pairing is fresh. -/
theorem pairing_codes_redeemable (manager : AuthManager) (mapping : Web.CaseMapping)
    (state : AuthState) (rng : Rng) (raw : Bytes32) (drawn : rng.tape rng.draws = some raw) :
    (AuthManager.rotatePairing state rng).1 =
        some ⟨Encoding.urlSafeNoPad raw, Encoding.groupManualCode raw⟩ ∧
      (∀ now, (AuthManager.rotatePairing state rng).2.1.Fresh raw now) ∧
      Web.Typable mapping raw ∧
      manager.Redeems raw (Encoding.urlSafeNoPad raw) ∧
      manager.Redeems raw (Encoding.groupManualCode raw) ∧
      Encoding.decodeUrlSafe (Encoding.urlSafeNoPad raw) = raw.toList ∧
      Encoding.decodeManualCode (Encoding.groupManualCode raw) = raw.toList ∧
      ∀ other, (Encoding.urlSafeNoPad other = Encoding.urlSafeNoPad raw → other = raw) ∧
        (Encoding.groupManualCode other = Encoding.groupManualCode raw → other = raw) := by
  have rotation : AuthManager.rotatePairing state rng =
      (some ⟨Encoding.urlSafeNoPad raw, Encoding.groupManualCode raw⟩,
        { pairingHash := some (hash (Encoding.urlSafeNoPad raw))
          manualPairingHash := some (hash (Encoding.groupManualCode raw))
          generation := (state.generation + 1) % 2 ^ 64 },
        { rng with draws := rng.draws + 1 }) := by
    unfold AuthManager.rotatePairing Rng.randomBytes
    rw [drawn]
  refine ⟨?_, fun now => ?_, Web.typable mapping raw, manager.redeems_secret raw,
    manager.redeems_manualCode raw, Encoding.decodeUrlSafe_urlSafeNoPad raw,
    Encoding.decodeManualCode_groupManualCode raw, fun other => ⟨?_, ?_⟩⟩
  · rw [rotation]
  · rw [rotation]
    exact ⟨rfl, rfl, rfl⟩
  · exact fun same => Encoding.urlSafeNoPad_injective same
  · intro same
    have decoded := congrArg Encoding.decodeManualCode same
    rw [Encoding.decodeManualCode_groupManualCode, Encoding.decodeManualCode_groupManualCode]
      at decoded
    exact Vector.toList_inj.mp decoded

namespace Web.Sample

/-- The upper case of ASCII. -/
def asciiMapping : CaseMapping where
  upper := fun c => [c.toUpper]
  ascii := fun _ _ => rfl
  space := by
    intro c space
    have outside : c.toNat < 97 ∨ 122 < c.toNat := by
      simp [isSpace] at space
      omega
    have other : ¬ ('a'.val ≤ c.val ∧ c.val ≤ 'z'.val) := by
      rintro ⟨low, high⟩
      have below : 97 ≤ c.toNat := low
      have above : c.toNat ≤ 122 := high
      omega
    unfold Char.toUpper
    rw [dif_neg other]

end Web.Sample

example : Web.normalizePairingSecret Web.Sample.asciiMapping "\tab2c  D3EF\u00a0ghi4 ".toList =
    "AB2C-D3EF-GHI4".toList := by
  decide

theorem pairing_codes_redeemable_of_zeros :
    (AuthManager.rotatePairing {} { tape := fun _ => some (Vector.replicate 32 0) }).1 =
        some ⟨Encoding.urlSafeNoPad (Vector.replicate 32 0),
          Encoding.groupManualCode (Vector.replicate 32 0)⟩ ∧
      Web.Typable Web.Sample.asciiMapping (Vector.replicate 32 0) := by
  have redeemable := pairing_codes_redeemable ⟨Duration.ofSeconds 600, Duration.ofSeconds 30⟩
    Web.Sample.asciiMapping {} { tape := fun _ => some (Vector.replicate 32 0) }
    (Vector.replicate 32 0) rfl
  exact ⟨redeemable.1, redeemable.2.2.1⟩

end XanhTab
