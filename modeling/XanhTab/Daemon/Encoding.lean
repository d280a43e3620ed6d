import Mathlib.Algebra.Group.Nat.Defs
import Mathlib.Data.List.GetD
import Mathlib.Data.List.Induction
import Mathlib.Data.List.Nodup
import Mathlib.Data.List.TakeDrop

/-!
# Text encodings of random bytes

Unpadded base64url and base32 of RFC 4648: the bits of the input are read from
the most significant one on and regrouped into digits, and the last digit is
filled up with zero bits.
-/

namespace XanhTab

/-- The 32 bytes that every secret is made of. -/
abbrev Bytes32 := Vector UInt8 32

namespace Encoding

/-- The bits of a byte, most significant first. -/
def byteBits (byte : UInt8) : List Bool :=
  (List.range 8).map fun index => byte.toBitVec.getMsbD index

/-- The first `count` groups of `size` bits. -/
def regroup (size : Nat) : Nat → List Bool → List (List Bool)
  | 0, _ => []
  | count + 1, bits => bits.takeD size false :: regroup size count (bits.drop size)

/-- The number that a group of bits denotes. -/
def value (bits : List Bool) : Nat :=
  bits.foldl (fun number bit => 2 * number + bit.toNat) 0

def digit (alphabet : List Char) (bits : List Bool) : Char :=
  alphabet.getD (value bits) '='

def base64Alphabet : List Char :=
  "ABCDEFGHIJKLMNOPQRSTUVWXYZabcdefghijklmnopqrstuvwxyz0123456789-_".toList

def base32Alphabet : List Char :=
  "ABCDEFGHIJKLMNOPQRSTUVWXYZ234567".toList

def bits (bytes : Bytes32) : List Bool :=
  bytes.toList.flatMap byteBits

/-- `URL_SAFE_NO_PAD.encode` on 32 bytes. -/
def urlSafeNoPad (bytes : Bytes32) : String :=
  String.ofList ((regroup 6 43 (bits bytes)).map (digit base64Alphabet))

/-- `BASE32_NOPAD.encode` on 32 bytes. -/
def base32NoPad (bytes : Bytes32) : List Char :=
  (regroup 5 52 (bits bytes)).map (digit base32Alphabet)

/-- Split a list into chunks of four. -/
def chunksOfFour : List Char → List (List Char)
  | first :: second :: third :: fourth :: rest =>
      [first, second, third, fourth] :: chunksOfFour rest
  | [] => []
  | rest => [rest]

/-- `group_manual_code`. -/
def groupManualCode (bytes : Bytes32) : String :=
  String.intercalate "-" ((chunksOfFour (base32NoPad bytes)).map String.ofList)

/-! ## Decoding -/

/-- The last bits of a number, most significant first. -/
def ofValue : Nat → Nat → List Bool
  | 0, _ => []
  | size + 1, number => ofValue size (number / 2) ++ [number % 2 == 1]

/-- The bits that a digit stands for. -/
def digitBits (alphabet : List Char) (size : Nat) (c : Char) : List Bool :=
  ofValue size (alphabet.idxOf c)

/-- The bytes that 256 bits make up. -/
def readBytes (bits : List Bool) : List UInt8 :=
  (regroup 8 32 bits).map fun group => UInt8.ofNat (value group)

def decode (alphabet : List Char) (size : Nat) (text : List Char) : List UInt8 :=
  readBytes (text.flatMap (digitBits alphabet size))

/-- The 32 bytes of a secret. -/
def decodeUrlSafe (secret : String) : List UInt8 :=
  decode base64Alphabet 6 secret.toList

/-- The 32 bytes of a manual code. -/
def decodeManualCode (code : String) : List UInt8 :=
  decode base32Alphabet 5 (code.toList.filter (· ≠ '-'))

/-! ## Groups of bits -/

theorem length_byteBits (byte : UInt8) : (byteBits byte).length = 8 := by
  simp [byteBits]

theorem length_bits (bytes : Bytes32) : (bits bytes).length = 256 := by
  have constant : ∀ byte ∈ bytes.toList, (byteBits byte).length = 8 :=
    fun byte _ => length_byteBits byte
  rw [bits, List.length_flatMap, List.map_congr_left constant, List.map_const']
  simp

theorem length_regroup (size count : Nat) (bits : List Bool) :
    (regroup size count bits).length = count := by
  induction count generalizing bits with
  | zero => rfl
  | succ count ih => rw [regroup, List.length_cons, ih]

theorem length_of_mem_regroup {size count : Nat} {bits group : List Bool}
    (member : group ∈ regroup size count bits) : group.length = size := by
  induction count generalizing bits with
  | zero => cases member
  | succ count ih =>
      rcases List.mem_cons.mp member with rfl | later
      · exact List.takeD_length _ _ _
      · exact ih later

theorem takeD_add (first second : Nat) (bits : List Bool) :
    bits.takeD (first + second) false =
      bits.takeD first false ++ (bits.drop first).takeD second false := by
  induction first generalizing bits with
  | zero => simp
  | succ first ih =>
      rw [Nat.succ_add, List.takeD_succ, List.takeD_succ, ih]
      cases bits <;> simp

theorem flatten_regroup (size count : Nat) (bits : List Bool) :
    (regroup size count bits).flatten = bits.takeD (size * count) false := by
  induction count generalizing bits with
  | zero => simp [regroup]
  | succ count ih =>
      rw [regroup, List.flatten_cons, ih, Nat.mul_succ, Nat.add_comm, takeD_add]

/-- All bits are in the groups, and only filling follows them. -/
theorem flatten_regroup_of_le {size count : Nat} {bits : List Bool}
    (enough : bits.length ≤ size * count) :
    ∃ filling, (regroup size count bits).flatten = bits ++ filling := by
  obtain ⟨extra, total⟩ := Nat.exists_eq_add_of_le enough
  refine ⟨(bits.drop bits.length).takeD extra false, ?_⟩
  rw [flatten_regroup, total, takeD_add, List.takeD_eq_take false (Nat.le_refl _), List.take_length]

/-! ## Values -/

theorem value_concat (bits : List Bool) (bit : Bool) :
    value (bits ++ [bit]) = 2 * value bits + bit.toNat := by
  unfold value
  rw [List.foldl_append, List.foldl_cons, List.foldl_nil]

theorem value_lt (bits : List Bool) : value bits < 2 ^ bits.length := by
  induction bits using List.reverseRecOn with
  | nil => exact Nat.zero_lt_one
  | append_singleton bits bit ih =>
      rw [value_concat, List.length_append, List.length_singleton, Nat.pow_succ']
      cases bit <;> simp <;> omega

theorem ofValue_value (bits : List Bool) : ofValue bits.length (value bits) = bits := by
  induction bits using List.reverseRecOn with
  | nil => rfl
  | append_singleton bits bit ih =>
      rw [value_concat, List.length_append, List.length_singleton, ofValue]
      have half : (2 * value bits + bit.toNat) / 2 = value bits := by
        cases bit with
        | false => simp
        | true =>
            rw [Bool.toNat_true]
            omega
      have parity : ((2 * value bits + bit.toNat) % 2 == 1) = bit := by
        cases bit with
        | false => simp
        | true => simp
      rw [half, parity, ih]

/-! ## Digits -/

section Digits

variable {alphabet : List Char} {group : List Bool}

theorem digit_eq_getElem (bound : value group < alphabet.length) :
    digit alphabet group = alphabet[value group] := by
  unfold digit
  exact List.getD_eq_getElem _ _ bound

theorem digit_mem (complete : alphabet.length = 2 ^ group.length) :
    digit alphabet group ∈ alphabet := by
  rw [digit_eq_getElem (complete ▸ value_lt group)]
  exact List.getElem_mem _

theorem digitBits_digit (distinct : alphabet.Nodup) (complete : alphabet.length = 2 ^ group.length) :
    digitBits alphabet group.length (digit alphabet group) = group := by
  unfold digitBits
  rw [digit_eq_getElem (complete ▸ value_lt group), distinct.idxOf_getElem, ofValue_value]

theorem flatMap_digitBits (distinct : alphabet.Nodup) {size : Nat}
    (complete : alphabet.length = 2 ^ size) {groups : List (List Bool)}
    (each : ∀ group ∈ groups, group.length = size) :
    (groups.map (digit alphabet)).flatMap (digitBits alphabet size) = groups.flatten := by
  induction groups with
  | nil => rfl
  | cons group rest ih =>
      rcases List.forall_mem_cons.mp each with ⟨rfl, each⟩
      rw [List.map_cons, List.flatMap_cons, List.flatten_cons, digitBits_digit distinct complete,
        ih each]

end Digits

/-! ## The bytes are recovered -/

theorem value_byteBits (byte : UInt8) : value (byteBits byte) = byte.toNat := by
  have each : ∀ number < 256, value (byteBits (UInt8.ofNat number)) = number := by decide +kernel
  have same := each byte.toNat byte.toNat_lt
  rwa [UInt8.ofNat_toNat] at same

theorem regroup_flatMap_byteBits (bytes : List UInt8) (filling : List Bool) :
    regroup 8 bytes.length (bytes.flatMap byteBits ++ filling) = bytes.map byteBits := by
  induction bytes with
  | nil => rfl
  | cons byte rest ih =>
      have length := length_byteBits byte
      rw [List.length_cons, regroup, List.flatMap_cons, List.append_assoc, List.map_cons]
      have first : (byteBits byte ++ (rest.flatMap byteBits ++ filling)).takeD 8 false =
          byteBits byte := by
        rw [← length, List.takeD_eq_take false (by simp), List.take_left]
      have later : (byteBits byte ++ (rest.flatMap byteBits ++ filling)).drop 8 =
          rest.flatMap byteBits ++ filling := by
        rw [← length, List.drop_left]
      rw [first, later, ih]

theorem readBytes_bits (bytes : Bytes32) (filling : List Bool) :
    readBytes (bits bytes ++ filling) = bytes.toList := by
  have groups := regroup_flatMap_byteBits bytes.toList filling
  rw [Vector.length_toList] at groups
  unfold readBytes bits
  rw [groups, List.map_map]
  have recovered : ∀ byte ∈ bytes.toList, UInt8.ofNat (value (byteBits byte)) = byte := by
    intro byte _
    rw [value_byteBits, UInt8.ofNat_toNat]
  exact (List.map_congr_left recovered).trans (List.map_id _)

/-- Enough digits carry all bytes. -/
theorem decode_digits {alphabet : List Char} (distinct : alphabet.Nodup) {size count : Nat}
    (complete : alphabet.length = 2 ^ size) (enough : 256 ≤ size * count) (bytes : Bytes32) :
    decode alphabet size ((regroup size count (bits bytes)).map (digit alphabet)) =
      bytes.toList := by
  have held : (bits bytes).length ≤ size * count := by
    rw [length_bits]
    exact enough
  rcases flatten_regroup_of_le held with ⟨filling, flat⟩
  unfold decode
  rw [flatMap_digitBits distinct complete fun _ member => length_of_mem_regroup member, flat,
    readBytes_bits]

/-! ## Manual codes -/

/-- What stands between the hyphens of a manual code. -/
def manualGroups (bytes : Bytes32) : List (List Char) :=
  chunksOfFour (base32NoPad bytes)

theorem chunksOfFour_of_length {count : Nat} {text : List Char} (length : text.length = 4 * count) :
    (chunksOfFour text).length = count ∧ (∀ chunk ∈ chunksOfFour text, chunk.length = 4) ∧
      (chunksOfFour text).flatten = text := by
  induction count generalizing text with
  | zero =>
      rw [List.eq_nil_of_length_eq_zero length]
      exact ⟨rfl, List.forall_mem_nil _, rfl⟩
  | succ count ih =>
      rcases text with _ | ⟨first, _ | ⟨second, _ | ⟨third, _ | ⟨fourth, rest⟩⟩⟩⟩
      · simp at length
      · simp at length
        omega
      · simp at length
        omega
      · simp at length
        omega
      · have shorter : rest.length = 4 * count := by
          simp only [List.length_cons] at length
          omega
        rcases ih shorter with ⟨number, each, flat⟩
        unfold chunksOfFour
        refine ⟨?_, List.forall_mem_cons.mpr ⟨rfl, each⟩, ?_⟩
        · rw [List.length_cons, number]
        · rw [List.flatten_cons, flat]
          rfl

theorem manualGroups_spec (bytes : Bytes32) :
    (manualGroups bytes).length = 13 ∧ (∀ group ∈ manualGroups bytes, group.length = 4) ∧
      (manualGroups bytes).flatten = base32NoPad bytes := by
  refine chunksOfFour_of_length ?_
  unfold base32NoPad
  rw [List.length_map, length_regroup]

theorem mem_base32Alphabet {bytes : Bytes32} {c : Char} (member : c ∈ base32NoPad bytes) :
    c ∈ base32Alphabet := by
  rcases List.mem_map.mp member with ⟨group, listed, rfl⟩
  refine digit_mem ?_
  rw [length_of_mem_regroup listed]
  decide

theorem mem_base64Alphabet {bytes : Bytes32} {c : Char} (member : c ∈ (urlSafeNoPad bytes).toList) :
    c ∈ base64Alphabet := by
  unfold urlSafeNoPad at member
  rw [String.toList_ofList] at member
  rcases List.mem_map.mp member with ⟨group, listed, rfl⟩
  refine digit_mem ?_
  rw [length_of_mem_regroup listed]
  decide

theorem base32_of_mem_group {bytes : Bytes32} {group : List Char} (listed : group ∈ manualGroups bytes)
    {c : Char} (member : c ∈ group) : c ∈ base32Alphabet := by
  have inside : c ∈ base32NoPad bytes := by
    rw [← (manualGroups_spec bytes).2.2]
    exact List.mem_flatten_of_mem listed member
  exact mem_base32Alphabet inside

theorem groupManualCode_toList (bytes : Bytes32) :
    (groupManualCode bytes).toList = ['-'].intercalate (manualGroups bytes) := by
  unfold groupManualCode manualGroups
  rw [String.toList_intercalate, List.map_map]
  have same : String.toList ∘ String.ofList = id := funext fun _ => String.toList_ofList
  rw [same, List.map_id]
  rfl

theorem length_intercalate_of_four {groups : List (List Char)} {count : Nat}
    (number : groups.length = count + 1) (each : ∀ group ∈ groups, group.length = 4) :
    (['-'].intercalate groups).length = 5 * count + 4 := by
  induction groups generalizing count with
  | nil => cases number
  | cons group rest ih =>
      rcases List.forall_mem_cons.mp each with ⟨four, each⟩
      cases count with
      | zero =>
          rw [List.eq_nil_of_length_eq_zero (Nat.succ.inj number)]
          simpa using four
      | succ count =>
          have more : rest ≠ [] := by
            rintro rfl
            cases number
          rw [List.intercalate_cons_of_ne_nil more, List.length_append, List.length_append, four,
            ih (Nat.succ.inj number) each, List.length_singleton]
          omega

theorem mem_intercalate {groups : List (List Char)} {c : Char}
    (member : c ∈ ['-'].intercalate groups) : c = '-' ∨ ∃ group ∈ groups, c ∈ group := by
  induction groups with
  | nil => cases member
  | cons group rest ih =>
      rcases eq_or_ne rest [] with rfl | more
      · rw [List.intercalate_singleton] at member
        exact .inr ⟨group, List.mem_cons_self, member⟩
      · rw [List.intercalate_cons_of_ne_nil more, List.mem_append, List.mem_append] at member
        rcases member with (here | hyphen) | later
        · exact .inr ⟨group, List.mem_cons_self, here⟩
        · exact .inl (List.mem_singleton.mp hyphen)
        · refine (ih later).imp_right ?_
          rintro ⟨other, listed, inside⟩
          exact ⟨other, List.mem_cons_of_mem _ listed, inside⟩

theorem filter_intercalate {groups : List (List Char)} (plain : ∀ group ∈ groups, '-' ∉ group) :
    (['-'].intercalate groups).filter (· ≠ '-') = groups.flatten := by
  induction groups with
  | nil => rfl
  | cons group rest ih =>
      rcases List.forall_mem_cons.mp plain with ⟨absent, plain⟩
      have kept : group.filter (· ≠ '-') = group := by
        refine List.filter_eq_self.mpr fun c member => ?_
        rw [decide_eq_true_eq]
        rintro rfl
        exact absent member
      rcases eq_or_ne rest [] with rfl | more
      · simpa using kept
      · rw [List.intercalate_cons_of_ne_nil more, List.filter_append, List.filter_append, kept,
          ih plain, List.flatten_cons]
        simp

theorem hyphen_not_mem_group {bytes : Bytes32} {group : List Char}
    (listed : group ∈ manualGroups bytes) : '-' ∉ group := by
  intro member
  have letter := base32_of_mem_group listed member
  revert letter
  decide

theorem splitOn_groupManualCode (bytes : Bytes32) :
    (groupManualCode bytes).toList.splitOn '-' = manualGroups bytes := by
  have some : manualGroups bytes ≠ [] := by
    intro none
    have number := (manualGroups_spec bytes).1
    rw [none] at number
    cases number
  rw [groupManualCode_toList]
  exact List.splitOn_intercalate '-' (fun _ listed => hyphen_not_mem_group listed) some

theorem mem_groupManualCode {bytes : Bytes32} {c : Char}
    (member : c ∈ (groupManualCode bytes).toList) : c = '-' ∨ c ∈ base32Alphabet := by
  rw [groupManualCode_toList] at member
  refine (mem_intercalate member).imp_right ?_
  rintro ⟨group, listed, inside⟩
  exact base32_of_mem_group listed inside

/-! ## The bytes of a secret and of a manual code -/

theorem decodeUrlSafe_urlSafeNoPad (bytes : Bytes32) :
    decodeUrlSafe (urlSafeNoPad bytes) = bytes.toList := by
  unfold decodeUrlSafe urlSafeNoPad
  rw [String.toList_ofList]
  exact decode_digits (by decide) (by decide) (by decide) bytes

theorem decodeManualCode_groupManualCode (bytes : Bytes32) :
    decodeManualCode (groupManualCode bytes) = bytes.toList := by
  unfold decodeManualCode
  rw [groupManualCode_toList, filter_intercalate fun _ listed => hyphen_not_mem_group listed,
    (manualGroups_spec bytes).2.2]
  exact decode_digits (by decide) (by decide) (by decide) bytes

/-- Distinct random bytes make distinct tokens. -/
theorem urlSafeNoPad_injective : Function.Injective urlSafeNoPad := by
  intro first second equal
  have same := congrArg decodeUrlSafe equal
  rw [decodeUrlSafe_urlSafeNoPad, decodeUrlSafe_urlSafeNoPad] at same
  exact Vector.toList_inj.mp same

end Encoding

end XanhTab
