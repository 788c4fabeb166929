import DsigRegistry.Base64

/-!
# Base64 has one spelling for everything

Decoding accepts exactly what encoding writes: the symbols of the alphabet in groups of four, with
padding that completes the last group and no bits set that belong to no octet. Main fact:
`decode_eq_ok_iff`.
-/

namespace DsigRegistry.Base64

/-! ### Symbols -/

theorem value?_symbol {v : Nat} (h : v < 64) : value? (symbol v) = some v := by
  have hvalues : ∀ v < 64, value? (symbol v) = some v := by decide
  exact hvalues v h

theorem symbol_ne_pad {v : Nat} (h : v < 64) : symbol v ≠ pad := by
  have hsymbols : ∀ v < 64, symbol v ≠ pad := by decide
  exact hsymbols v h

/-- A value is that of one symbol only. -/
theorem eq_symbol_of_value? {b : UInt8} {v : Nat} (h : value? b = some v) :
    v < 64 ∧ b = symbol v := by
  have hoctets : ∀ n < 256, ∀ v ∈ value? (UInt8.ofNat n), v < 64 ∧ UInt8.ofNat n = symbol v := by
    decide +kernel
  have hb := hoctets b.toNat b.toNat_lt
  rw [UInt8.ofNat_toNat] at hb
  exact hb v h

variable {vs : List Nat} {offset : Nat}

theorem values_map_symbol (h : ∀ v ∈ vs, v < 64) (offset : Nat) :
    values offset (vs.map symbol) = .ok vs := by
  induction vs generalizing offset with
  | nil => rfl
  | cons v vs ih =>
    rw [List.map_cons, values, value?_symbol (h v List.mem_cons_self)]
    simp only [ih (fun w hw => h w (List.mem_cons_of_mem v hw)), Except.map]

theorem eq_map_symbol_of_values {bs : Octets} (h : values offset bs = .ok vs) :
    (∀ v ∈ vs, v < 64) ∧ bs = vs.map symbol := by
  induction bs generalizing offset vs with
  | nil =>
    cases h
    exact ⟨by simp, rfl⟩
  | cons b bs ih =>
    rw [values] at h
    cases hv : value? b with
    | none => simp only [hv] at h; cases h
    | some v =>
      simp only [hv] at h
      cases hrest : values (offset + 1) bs with
      | error fault => rw [hrest] at h; cases h
      | ok ws =>
        rw [hrest] at h
        cases h
        obtain ⟨hlt, rfl⟩ := eq_symbol_of_value? hv
        obtain ⟨hws, rfl⟩ := ih hrest
        exact ⟨by simpa using ⟨hlt, hws⟩, rfl⟩

/-! ### The last group -/

/-- Values that a last group may have: enough for an octet, and no bits that belong to none. -/
structure Closing (vs : List Nat) : Prop where
  lt : ∀ v ∈ vs, v < 64
  two_le : 2 ≤ vs.length
  le_four : vs.length ≤ 4
  leftover_eq : leftover vs = 0

/-- The symbols of a last group, with its padding. -/
def closing (vs : List Nat) : Octets :=
  vs.map symbol ++ List.replicate (4 - vs.length) pad

theorem length_closing (h : Closing vs) : (closing vs).length = 4 := by
  rw [closing, List.length_append, List.length_map, List.length_replicate]
  have := h.le_four
  omega

theorem decodeLast_closing (h : Closing vs) (offset : Nat) :
    decodeLast offset (closing vs) = .ok (octets vs) := by
  have hsymbols : ∀ b ∈ vs.map symbol, (b != pad) = true := by
    intro b hb
    obtain ⟨v, hv, rfl⟩ := List.mem_map.1 hb
    exact bne_iff_ne.2 (symbol_ne_pad (h.lt v hv))
  have htake : (closing vs).takeWhile (· != pad) = vs.map symbol := by
    rw [closing, List.takeWhile_append_of_pos hsymbols]
    simp
  have hdrop : (closing vs).dropWhile (· != pad) = List.replicate (4 - vs.length) pad := by
    rw [closing, List.dropWhile_append_of_pos hsymbols]
    simp
  have htwo := h.two_le
  have hfour := h.le_four
  have hlong : ¬ vs.length < 2 := by omega
  have hwhole : (vs.length + (4 - vs.length)) % 4 = 0 := by omega
  simp only [decodeLast, htake, hdrop, values_map_symbol h.lt, List.length_map,
    List.length_replicate, List.any_replicate, hlong, hwhole]
  simp [bind, Except.bind, pure, Except.pure, h.leftover_eq]

theorem ite_error_eq_ok_iff {p : Prop} [Decidable p] {fault : Fault}
    {result : Except Fault Octets} {d : Octets} :
    (if p then .error fault else result) = .ok d ↔ ¬ p ∧ result = .ok d := by
  split <;> simp [*]

theorem eq_closing_of_decodeLast {group d : Octets} (hgroup : group.length ≤ 4)
    (h : decodeLast offset group = .ok d) :
    ∃ vs, Closing vs ∧ group = closing vs ∧ d = octets vs := by
  have hsplit : group.takeWhile (· != pad) ++ group.dropWhile (· != pad) = group :=
    List.takeWhile_append_dropWhile
  rw [decodeLast] at h
  generalize group.takeWhile (· != pad) = symbols at h hsplit
  generalize group.dropWhile (· != pad) = rest at h hsplit
  subst hsplit
  cases hvalues : values offset symbols with
  | error fault =>
    rw [hvalues] at h
    cases h
  | ok vs =>
    obtain ⟨hlt, rfl⟩ := eq_map_symbol_of_values hvalues
    simp only [hvalues, bind, Except.bind, pure, Except.pure, throw, throwThe,
      MonadExceptOf.throw] at h
    rw [List.length_append, List.length_map] at hgroup
    rw [ite_error_eq_ok_iff, ite_error_eq_ok_iff, ite_error_eq_ok_iff, ite_error_eq_ok_iff,
      List.length_map] at h
    obtain ⟨hpads, hlong, hwhole, hleft, hd⟩ := h
    have hrest : rest = List.replicate (4 - vs.length) pad := by
      rw [List.eq_replicate_iff]
      refine ⟨by omega, fun b hb => ?_⟩
      apply Decidable.byContradiction
      intro hne
      have hany : rest.any (· != pad) = true := List.any_eq_true.2 ⟨b, hb, bne_iff_ne.2 hne⟩
      have hsome : rest.isEmpty = false := List.isEmpty_eq_false_iff_exists_mem.2 ⟨b, hb⟩
      exact hpads (by simp [hany, hsome])
    exact ⟨vs, ⟨hlt, by omega, by omega, by omega⟩, by rw [closing, hrest],
      (Except.ok.inj hd).symm⟩

/-! ### Groups and octets -/

/-- Three octets are written as the four symbols that they were read from. -/
theorem encode_octets_append {a b c d : Nat} (h : ∀ v ∈ [a, b, c, d], v < 64) (rest : Octets) :
    encode (octets [a, b, c, d] ++ rest) = [a, b, c, d].map symbol ++ encode rest := by
  simp only [List.mem_cons, List.not_mem_nil, or_false, forall_eq_or_imp, forall_eq] at h
  have hx : (UInt8.ofNat (a * 4 + b / 16)).toNat = a * 4 + b / 16 := Nat.mod_eq_of_lt (by omega)
  have hy : (UInt8.ofNat (b % 16 * 16 + c / 4)).toNat = b % 16 * 16 + c / 4 :=
    Nat.mod_eq_of_lt (by omega)
  have hz : (UInt8.ofNat (c % 4 * 64 + d)).toNat = c % 4 * 64 + d := Nat.mod_eq_of_lt (by omega)
  have hfirst : (a * 4 + b / 16) / 4 = a := by omega
  have hsecond : (a * 4 + b / 16) % 4 * 16 + (b % 16 * 16 + c / 4) / 16 = b := by omega
  have hthird : (b % 16 * 16 + c / 4) % 16 * 4 + (c % 4 * 64 + d) / 64 = c := by omega
  have hfourth : (c % 4 * 64 + d) % 64 = d := by omega
  simp only [octets, List.cons_append, List.nil_append, encode, hx, hy, hz, hfirst, hsecond,
    hthird, hfourth, List.map_cons, List.map_nil]

/-- Octets of a last group are written as the group that they were read from. -/
theorem encode_octets {vs : List Nat} (h : Closing vs) : encode (octets vs) = closing vs := by
  obtain ⟨hlt, htwo, hfour, hleft⟩ := h
  match vs with
  | [] | [_] => simp at htwo
  | [a, b] =>
    simp only [List.mem_cons, List.not_mem_nil, or_false, forall_eq_or_imp, forall_eq] at hlt
    simp only [leftover] at hleft
    have hx : (UInt8.ofNat (a * 4 + b / 16)).toNat = a * 4 + b / 16 :=
      Nat.mod_eq_of_lt (by omega)
    have hfirst : (a * 4 + b / 16) / 4 = a := by omega
    have hsecond : (a * 4 + b / 16) % 4 * 16 = b := by omega
    simp only [octets, encode, hx, hfirst, hsecond]
    rfl
  | [a, b, c] =>
    simp only [List.mem_cons, List.not_mem_nil, or_false, forall_eq_or_imp, forall_eq] at hlt
    simp only [leftover] at hleft
    have hx : (UInt8.ofNat (a * 4 + b / 16)).toNat = a * 4 + b / 16 :=
      Nat.mod_eq_of_lt (by omega)
    have hy : (UInt8.ofNat (b % 16 * 16 + c / 4)).toNat = b % 16 * 16 + c / 4 :=
      Nat.mod_eq_of_lt (by omega)
    have hfirst : (a * 4 + b / 16) / 4 = a := by omega
    have hsecond : (a * 4 + b / 16) % 4 * 16 + (b % 16 * 16 + c / 4) / 16 = b := by omega
    have hthird : (b % 16 * 16 + c / 4) % 16 * 4 = c := by omega
    simp only [octets, encode, hx, hy, hfirst, hsecond, hthird]
    rfl
  | [a, b, c, d] => simpa [encode, closing] using encode_octets_append hlt []
  | _ :: _ :: _ :: _ :: _ :: _ =>
    simp only [List.length_cons] at hfour
    omega

/-- The values that three octets are written as. -/
def sextets (x y z : UInt8) : List Nat :=
  [x.toNat / 4, x.toNat % 4 * 16 + y.toNat / 16, y.toNat % 16 * 4 + z.toNat / 64, z.toNat % 64]

theorem sextets_lt (x y z : UInt8) : ∀ v ∈ sextets x y z, v < 64 := by
  have hx := x.toNat_lt
  have hy := y.toNat_lt
  have hz := z.toNat_lt
  simp [sextets]
  omega

theorem octets_sextets (x y z : UInt8) : octets (sextets x y z) = [x, y, z] := by
  have hx := x.toNat_lt
  have hy := y.toNat_lt
  have hz := z.toNat_lt
  have hfirst : x.toNat / 4 * 4 + (x.toNat % 4 * 16 + y.toNat / 16) / 16 = x.toNat := by omega
  have hsecond : (x.toNat % 4 * 16 + y.toNat / 16) % 16 * 16 +
      (y.toNat % 16 * 4 + z.toNat / 64) / 4 = y.toNat := by omega
  have hthird : (y.toNat % 16 * 4 + z.toNat / 64) % 4 * 64 + z.toNat % 64 = z.toNat := by omega
  simp only [sextets, octets, hfirst, hsecond, hthird, UInt8.ofNat_toNat]

/-- Up to three octets are read from the group that is written for them. -/
theorem exists_closing {d : Octets} (hne : d ≠ []) (hshort : d.length ≤ 3) :
    ∃ vs, Closing vs ∧ encode d = closing vs ∧ octets vs = d := by
  match d with
  | [] => contradiction
  | [x] =>
    have hx := x.toNat_lt
    refine ⟨[x.toNat / 4, x.toNat % 4 * 16], ⟨?_, by simp, by simp, ?_⟩, rfl, ?_⟩
    · simp
      omega
    · simp [leftover]
    · have hvalue : x.toNat / 4 * 4 + x.toNat % 4 * 16 / 16 = x.toNat := by omega
      simp only [octets, hvalue, UInt8.ofNat_toNat]
  | [x, y] =>
    have hx := x.toNat_lt
    have hy := y.toNat_lt
    refine ⟨[x.toNat / 4, x.toNat % 4 * 16 + y.toNat / 16, y.toNat % 16 * 4],
      ⟨?_, by simp, by simp, ?_⟩, rfl, ?_⟩
    · simp
      omega
    · simp [leftover]
    · have hfirst : x.toNat / 4 * 4 + (x.toNat % 4 * 16 + y.toNat / 16) / 16 = x.toNat := by omega
      have hsecond : (x.toNat % 4 * 16 + y.toNat / 16) % 16 * 16 + y.toNat % 16 * 4 / 4 =
          y.toNat := by omega
      simp only [octets, hfirst, hsecond, UInt8.ofNat_toNat]
  | [x, y, z] =>
    exact ⟨sextets x y z, ⟨sextets_lt x y z, by simp [sextets], by simp [sextets],
      by simp [sextets, leftover]⟩, rfl, octets_sextets x y z⟩
  | _ :: _ :: _ :: _ :: _ =>
    simp only [List.length_cons] at hshort
    omega

/-! ### All groups -/

theorem four_dvd_length_encode (d : Octets) : 4 ∣ (encode d).length := by
  fun_induction encode d with
  | case1 => simp
  | case2 => simp
  | case3 => simp
  | case4 a b c rest ih => simpa [Nat.add_assoc] using Nat.dvd_add ih (Nat.dvd_refl 4)

theorem decodeFrom_of_group {group : Octets} (h : group.length = 4) (offset : Nat) :
    decodeFrom offset group = decodeLast offset group := by
  match group with
  | [a, b, c, d] => rfl

theorem decodeFrom_of_cons {a b c d : UInt8} {rest : Octets} (h : rest ≠ []) (offset : Nat) :
    decodeFrom offset (a :: b :: c :: d :: rest) = do
      let vs ← values offset [a, b, c, d]
      let tail ← decodeFrom (offset + 4) rest
      return octets vs ++ tail := by
  match rest with
  | e :: rest => rfl

theorem decodeFrom_encode_short {d : Octets} (hne : d ≠ []) (hshort : d.length ≤ 3)
    (offset : Nat) : decodeFrom offset (encode d) = .ok d := by
  obtain ⟨vs, hvs, hencode, hoctets⟩ := exists_closing hne hshort
  rw [hencode, decodeFrom_of_group (length_closing hvs), decodeLast_closing hvs, hoctets]

theorem decodeFrom_encode (d : Octets) (offset : Nat) : decodeFrom offset (encode d) = .ok d := by
  induction d using encode.induct generalizing offset with
  | case1 => rfl
  | case2 x => exact decodeFrom_encode_short (by simp) (by simp) offset
  | case3 x y => exact decodeFrom_encode_short (by simp) (by simp) offset
  | case4 x y z rest ih =>
    by_cases hrest : encode rest = []
    · have hnil : rest = [] := by
        have hread := ih 0
        rw [hrest] at hread
        exact (Except.ok.inj hread).symm
      subst hnil
      exact decodeFrom_encode_short (by simp) (by simp) offset
    · have hvalues : values offset ((sextets x y z).map symbol) = .ok (sextets x y z) :=
        values_map_symbol (sextets_lt x y z) offset
      have hencode : encode (x :: y :: z :: rest) =
          (sextets x y z).map symbol ++ encode rest := rfl
      simp only [hencode, sextets, List.map_cons, List.map_nil, List.cons_append, List.nil_append]
      rw [decodeFrom_of_cons hrest]
      simp only [sextets, List.map_cons, List.map_nil] at hvalues
      simp only [hvalues, ih (offset + 4), bind, Except.bind, pure, Except.pure]
      exact congrArg (fun read => Except.ok (read ++ rest)) (octets_sextets x y z)

theorem eq_encode_of_decodeFrom {bs d : Octets} (h : decodeFrom offset bs = .ok d) :
    bs = encode d := by
  fun_induction decodeFrom offset bs generalizing d with
  | case1 =>
    cases h
    rfl
  | case2 offset a b c d' e rest ih =>
    cases hvalues : values offset [a, b, c, d'] with
    | error fault =>
      rw [hvalues] at h
      cases h
    | ok vs =>
      cases htail : decodeFrom (offset + 4) (e :: rest) with
      | error fault =>
        simp only [hvalues, htail, bind, Except.bind] at h
        cases h
      | ok tail =>
        simp only [hvalues, htail, bind, Except.bind, pure, Except.pure] at h
        cases h
        obtain ⟨hlt, hsymbols⟩ := eq_map_symbol_of_values hvalues
        match vs with
        | [w, x, y, z] =>
          rw [encode_octets_append hlt, ← ih htail, ← hsymbols]
          rfl
        | [] | [_] | [_, _] | [_, _, _] | _ :: _ :: _ :: _ :: _ :: _ => simp at hsymbols
  | case3 offset group hne hshort =>
    have hfour : group.length ≤ 4 := by
      match group with
      | [] | [_] | [_, _] | [_, _, _] | [_, _, _, _] => simp
      | a :: b :: c :: d :: e :: rest => exact absurd rfl (hshort a b c d e rest)
    obtain ⟨vs, hvs, rfl, rfl⟩ := eq_closing_of_decodeLast hfour h
    exact (encode_octets hvs).symm

/-- Decoding accepts exactly what encoding writes. -/
theorem decode_eq_ok_iff {bs d : Octets} : decode bs = .ok d ↔ bs = encode d := by
  constructor
  · intro h
    unfold decode at h
    split at h
    next => cases h
    next => exact eq_encode_of_decodeFrom h
  · rintro rfl
    have hwhole : ¬ (encode d).length % 4 = 1 := by
      have := four_dvd_length_encode d
      omega
    have hstray : strayOctet? (encode d) = none := by
      unfold strayOctet?
      split
      next => simp [hwhole]
      next => rfl
    rw [decode, hstray]
    exact decodeFrom_encode d 0

theorem decode_encode (d : Octets) : decode (encode d) = .ok d :=
  decode_eq_ok_iff.2 rfl

end DsigRegistry.Base64
