import DsigRegistry.Signature.Basic

/-!
# Truncated authentication codes

A code is compared with the leading octets of the expected one by collecting the differences of
all pairs of octets, so what is accepted are the prefixes of the expected code, and no prefix that
is too short: `agrees_iff` and `accepts_exactly_truncations`.
-/

namespace DsigRegistry.Hmac

variable {expected signature : Octets}

/-! ### The comparison -/

/-- The differences collected so far, and those to come, vanish together. -/
theorem foldl_differences_eq_zero_iff (pairs : List (UInt8 × UInt8)) (acc : UInt8) :
    pairs.foldl (fun acc (x, y) => acc ||| (x ^^^ y)) acc = 0 ↔
      acc = 0 ∧ ∀ pair ∈ pairs, pair.1 = pair.2 := by
  induction pairs generalizing acc with
  | nil => simp
  | cons pair pairs ih =>
    rw [List.foldl_cons, ih, UInt8.or_eq_zero_iff, UInt8.xor_eq_zero_iff, List.forall_mem_cons,
      and_assoc]

/-- Pairing stops at the shorter side, so the pairs tell the truth only if no octet of the
signature is left over. -/
theorem forall_mem_zip_iff (hlength : signature.length ≤ expected.length) :
    (∀ pair ∈ expected.zip signature, pair.1 = pair.2) ↔ signature <+: expected := by
  induction signature generalizing expected with
  | nil => simp
  | cons y signature ih =>
    cases expected with
    | nil => simp at hlength
    | cons x expected =>
      have hrest : signature.length ≤ expected.length := by simpa using hlength
      rw [List.zip_cons_cons, List.forall_mem_cons, ih hrest, List.cons_prefix_cons, eq_comm]

/-- What agrees with the expected code are its prefixes. -/
theorem agrees_iff : agrees expected signature = true ↔ signature <+: expected := by
  unfold agrees
  rw [Bool.and_eq_true, decide_eq_true_iff, beq_iff_eq, foldl_differences_eq_zero_iff]
  constructor
  · rintro ⟨hlength, -, hpairs⟩
    exact (forall_mem_zip_iff hlength).1 hpairs
  · intro h
    exact ⟨h.length_le, rfl, (forall_mem_zip_iff h.length_le).2 h⟩

/-! ### Signing and verifying -/

/-- The algorithm neither signs nor verifies with the key. -/
def Refuses (a : SignatureAlgorithm) (key : Key) : Prop :=
  ∀ data, (∃ message, a.sign key data = .error (.key message)) ∧
    ∀ signature, ∃ message, a.verify key data signature = .error (.key message)

variable (hash : Hash)

/-- No hash function is so short that a full code would be refused. -/
theorem minimumLength_le_outputLength : minimumLength hash ≤ hash.outputLength := by
  cases hash <;> decide

theorem refuses_of_no_secret {key : Key} (h : key.secret? = none) :
    Refuses (algorithm hash) key := by
  intro data
  refine ⟨⟨"HMAC key required", ?_⟩, fun signature => ⟨"HMAC key required", ?_⟩⟩
  · change sign hash key data = _
    simp only [sign, secretOf, h]
    rfl
  · change verify hash key data signature = _
    simp only [verify, secretOf, h]
    rfl

variable (secret data : Octets)

theorem verify_of_short (h : signature.length < minimumLength hash) :
    verify hash (.secret secret) data signature =
      .error (.crypto ("HMAC output length " ++ toString (signature.length * 8)
        ++ " bits is below the minimum of " ++ toString (minimumLength hash * 8) ++ " bits")) := by
  change (if signature.length < minimumLength hash then _ else _) = _
  rw [if_pos h]
  rfl

theorem verify_of_long (h : minimumLength hash ≤ signature.length) :
    verify hash (.secret secret) data signature =
      .ok (agrees (mac hash secret data) signature) := by
  change (if signature.length < minimumLength hash then _ else _) = _
  rw [if_neg (Nat.not_lt.2 h)]
  rfl

/-- Under a secret key, the code of the data is as long as a digest. Checking a signature fails if
it has fewer octets than half a digest or than ten, and otherwise tells whether it is a prefix of
the code; one that is longer than the code is none. No other key signs or verifies. -/
theorem accepts_exactly_truncations :
    (∃ code, (algorithm hash).sign (.secret secret) data = .ok code ∧
      code.length = hash.outputLength ∧
      ∀ signature,
        let checked := (algorithm hash).verify (.secret secret) data signature
        let least := max (hash.outputLength / 2) 10
        ((∃ message, checked = .error (.crypto message)) ↔ signature.length < least) ∧
        (checked = .ok true ↔ least ≤ signature.length ∧ signature <+: code) ∧
        (checked = .ok false ↔ least ≤ signature.length ∧ ¬ signature <+: code) ∧
        (code.length < signature.length → checked = .ok false)) ∧
    ∀ type der, Refuses (algorithm hash) (.publicKey type der) ∧
      Refuses (algorithm hash) (.privateKey type der) := by
  refine ⟨⟨mac hash secret data, rfl, length_mac hash secret data, ?_⟩,
    fun _ _ => ⟨refuses_of_no_secret hash rfl, refuses_of_no_secret hash rfl⟩⟩
  intro signature checked least
  by_cases hlength : least ≤ signature.length
  · have hchecked : checked = .ok (agrees (mac hash secret data) signature) :=
      verify_of_long hash secret data hlength
    have hprefix : agrees (mac hash secret data) signature = true ↔
        signature <+: mac hash secret data := agrees_iff
    have hlonger : (mac hash secret data).length < signature.length →
        ¬ signature <+: mac hash secret data :=
      fun hlonger hprefix => Nat.not_le.2 hlonger hprefix.length_le
    rw [hchecked]
    refine ⟨?_, ?_, ?_, ?_⟩
    · simp [Nat.not_lt.2 hlength]
    · simp [hlength, hprefix]
    · simp [hlength, ← hprefix]
    · simpa [← hprefix] using hlonger
  · have hchecked := verify_of_short hash secret data (Nat.not_le.1 hlength)
    have hleast : least ≤ (mac hash secret data).length := by
      rw [length_mac]
      exact minimumLength_le_outputLength hash
    have hshorter : ¬ (mac hash secret data).length < signature.length :=
      fun hlonger => hlength (Nat.le_trans hleast (Nat.le_of_lt hlonger))
    simp only [checked, algorithm, hchecked]
    simp [hlength, Nat.not_le.1 hlength, hshorter]

end DsigRegistry.Hmac
