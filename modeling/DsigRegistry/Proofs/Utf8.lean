import DsigRegistry.Text.Utf8

/-!
# UTF-8 reads what it writes

Strict decoding and encoding are inverse to each other: octets are read as a text exactly if they
are what is written for it. Main fact: `decode_eq_ok_iff`.
-/

namespace DsigRegistry.Text.Utf8

/-! ### One character -/

/-- The code point is none of the surrogates and within the range of Unicode. -/
abbrev IsScalar (n : Nat) : Prop := n < 0xD800 ∨ (0xDFFF < n ∧ n < 0x110000)

theorem toNat_ofNat {n : Nat} (h : IsScalar n) : (Char.ofNat n).toNat = n := by
  rw [Char.ofNat, dif_pos h]
  rfl

theorem isScalar_toNat (c : Char) : IsScalar c.toNat := c.valid

variable {n : Nat}

theorem utf8EncodeChar_one (h : n < 0x80) :
    String.utf8EncodeChar (Char.ofNat n) = [UInt8.ofNat n] := by
  have hn : (Char.ofNat n).val.toNat = n := toNat_ofNat (.inl (by omega))
  have h₁ : n ≤ 0x7F := by omega
  simp only [String.utf8EncodeChar, hn, h₁, if_true]

theorem utf8EncodeChar_two (hlow : 0x80 ≤ n) (hhigh : n < 0x800) :
    String.utf8EncodeChar (Char.ofNat n) =
      [UInt8.ofNat (n / 64 + 0xC0), UInt8.ofNat (n % 64 + 0x80)] := by
  have hn : (Char.ofNat n).val.toNat = n := toNat_ofNat (.inl (by omega))
  have h₁ : ¬ n ≤ 0x7F := by omega
  have h₂ : n ≤ 0x7FF := by omega
  have hlead : n / 64 % 32 = n / 64 := Nat.mod_eq_of_lt (by omega)
  simp only [String.utf8EncodeChar, hn, h₁, h₂, hlead, if_true, if_false]

theorem utf8EncodeChar_three (hlow : 0x800 ≤ n) (hhigh : n < 0x10000) (h : IsScalar n) :
    String.utf8EncodeChar (Char.ofNat n) =
      [UInt8.ofNat (n / 4096 + 0xE0), UInt8.ofNat (n / 64 % 64 + 0x80),
        UInt8.ofNat (n % 64 + 0x80)] := by
  have hn : (Char.ofNat n).val.toNat = n := toNat_ofNat h
  have h₁ : ¬ n ≤ 0x7F := by omega
  have h₂ : ¬ n ≤ 0x7FF := by omega
  have h₃ : n ≤ 0xFFFF := by omega
  have hlead : n / 4096 % 16 = n / 4096 := Nat.mod_eq_of_lt (by omega)
  simp only [String.utf8EncodeChar, hn, h₁, h₂, h₃, hlead, if_true, if_false]

theorem utf8EncodeChar_four (hlow : 0x10000 ≤ n) (hhigh : n < 0x110000) :
    String.utf8EncodeChar (Char.ofNat n) =
      [UInt8.ofNat (n / 262144 + 0xF0), UInt8.ofNat (n / 4096 % 64 + 0x80),
        UInt8.ofNat (n / 64 % 64 + 0x80), UInt8.ofNat (n % 64 + 0x80)] := by
  have hn : (Char.ofNat n).val.toNat = n := toNat_ofNat (.inr (by omega))
  have h₁ : ¬ n ≤ 0x7F := by omega
  have h₂ : ¬ n ≤ 0x7FF := by omega
  have h₃ : ¬ n ≤ 0xFFFF := by omega
  have hlead : n / 262144 % 8 = n / 262144 := Nat.mod_eq_of_lt (by omega)
  simp only [String.utf8EncodeChar, hn, h₁, h₂, h₃, hlead, if_false]

/-- An octet of ASCII is written for one character only. -/
theorem eq_ofNat_of_mem_utf8EncodeChar {c : Char} {b : UInt8} (h : b ∈ String.utf8EncodeChar c)
    (hb : b.toNat < 0x80) : c = Char.ofNat b.toNat := by
  have hoctet : ∀ m, b = UInt8.ofNat m → 0x80 ≤ m → m < 0x100 → False := by
    rintro m rfl hlow hhigh
    rw [UInt8.toNat_ofNat_of_lt' hhigh] at hb
    omega
  have hscalar := isScalar_toNat c
  rw [← c.ofNat_toNat] at h ⊢
  generalize c.toNat = n at h hscalar
  by_cases h₁ : n < 0x80
  · rw [utf8EncodeChar_one h₁, List.mem_singleton] at h
    rw [h, UInt8.toNat_ofNat_of_lt' (Nat.lt_trans h₁ (by decide))]
  · refine False.elim ?_
    by_cases h₂ : n < 0x800
    · rw [utf8EncodeChar_two (by omega) h₂] at h
      simp only [List.mem_cons, List.not_mem_nil, or_false] at h
      rcases h with h | h <;> exact hoctet _ h (by omega) (by omega)
    · by_cases h₃ : n < 0x10000
      · rw [utf8EncodeChar_three (by omega) h₃ hscalar] at h
        simp only [List.mem_cons, List.not_mem_nil, or_false] at h
        rcases h with h | h | h <;> exact hoctet _ h (by omega) (by omega)
      · rw [utf8EncodeChar_four (by omega) (by omega)] at h
        simp only [List.mem_cons, List.not_mem_nil, or_false] at h
        rcases h with h | h | h | h <;> exact hoctet _ h (by omega) (by omega)

/-! ### Its first piece -/

theorem isTail_iff {b : UInt8} : isTail b = true ↔ 0x80 ≤ b.toNat ∧ b.toNat ≤ 0xBF := by
  simp [isTail, UInt8.le_iff_toNat_le]

/-- The second octet is a tail octet, within narrower bounds behind four of the leads. -/
theorem isSecond_iff {a b : UInt8} :
    isSecond a b = true ↔ 0x80 ≤ b.toNat ∧ b.toNat ≤ 0xBF ∧ (a.toNat = 0xE0 → 0xA0 ≤ b.toNat) ∧
      (a.toNat = 0xED → b.toNat ≤ 0x9F) ∧ (a.toNat = 0xF0 → 0x90 ≤ b.toNat) ∧
      (a.toNat = 0xF4 → b.toNat ≤ 0x8F) := by
  have hlead (x : UInt8) : a == x ↔ a.toNat = x.toNat := by rw [beq_iff_eq, UInt8.toNat_inj]
  simp only [isSecond, hlead, apply_ite (· = true), isTail_iff, Bool.and_eq_true,
    decide_eq_true_eq, UInt8.le_iff_toNat_le, UInt8.reduceToNat]
  repeat' split
  all_goals omega

section Read

variable (rest : Octets)

theorem firstPiece_one (h : n < 0x80) :
    firstPiece (UInt8.ofNat n) rest = (.scalar (Char.ofNat n), 0) := by
  have hn : n % 256 = n := Nat.mod_eq_of_lt (by omega)
  simp [firstPiece, UInt8.lt_iff_toNat_lt, hn, h]

theorem firstPiece_two (hlow : 0x80 ≤ n) (hhigh : n < 0x800) :
    firstPiece (UInt8.ofNat (n / 64 + 0xC0)) (UInt8.ofNat (n % 64 + 0x80) :: rest) =
      (.scalar (Char.ofNat n), 1) := by
  have ha : (UInt8.ofNat (n / 64 + 0xC0)).toNat = n / 64 + 0xC0 :=
    Nat.mod_eq_of_lt (by omega)
  have hb : (UInt8.ofNat (n % 64 + 0x80)).toNat = n % 64 + 0x80 := Nat.mod_eq_of_lt (by omega)
  generalize UInt8.ofNat (n / 64 + 0xC0) = a at ha
  generalize UInt8.ofNat (n % 64 + 0x80) = b at hb
  have hone : ¬ a < 0x80 := by simp [UInt8.lt_iff_toNat_lt]; omega
  have htwo : 0xC2 ≤ a ∧ a ≤ 0xDF := by simp [UInt8.le_iff_toNat_le]; omega
  have htail : isTail b = true := isTail_iff.2 (by omega)
  have hvalue : a.toNat % 32 * 64 + payload b = n := by
    rw [payload, ha, hb]
    omega
  simp [firstPiece, hone, htwo, htail, hvalue]

theorem firstPiece_three (hlow : 0x800 ≤ n) (hhigh : n < 0x10000) (h : IsScalar n) :
    firstPiece (UInt8.ofNat (n / 4096 + 0xE0))
        (UInt8.ofNat (n / 64 % 64 + 0x80) :: UInt8.ofNat (n % 64 + 0x80) :: rest) =
      (.scalar (Char.ofNat n), 2) := by
  have ha : (UInt8.ofNat (n / 4096 + 0xE0)).toNat = n / 4096 + 0xE0 :=
    Nat.mod_eq_of_lt (by omega)
  have hb : (UInt8.ofNat (n / 64 % 64 + 0x80)).toNat = n / 64 % 64 + 0x80 :=
    Nat.mod_eq_of_lt (by omega)
  have hc : (UInt8.ofNat (n % 64 + 0x80)).toNat = n % 64 + 0x80 := Nat.mod_eq_of_lt (by omega)
  generalize UInt8.ofNat (n / 4096 + 0xE0) = a at ha
  generalize UInt8.ofNat (n / 64 % 64 + 0x80) = b at hb
  generalize UInt8.ofNat (n % 64 + 0x80) = c at hc
  have hone : ¬ a < 0x80 := by simp [UInt8.lt_iff_toNat_lt]; omega
  have htwo : ¬ (0xC2 ≤ a ∧ a ≤ 0xDF) := by simp [UInt8.le_iff_toNat_le]; omega
  have hthree : 0xE0 ≤ a ∧ a ≤ 0xEF := by simp [UInt8.le_iff_toNat_le]; omega
  have hsecond : isSecond a b = true := isSecond_iff.2 (by omega)
  have htail : isTail c = true := isTail_iff.2 (by omega)
  have hvalue : a.toNat % 16 * 4096 + payload b * 64 + payload c = n := by
    rw [payload, payload, ha, hb, hc]
    omega
  simp [firstPiece, hone, htwo, hthree, hsecond, htail, hvalue]

theorem firstPiece_four (hlow : 0x10000 ≤ n) (hhigh : n < 0x110000) :
    firstPiece (UInt8.ofNat (n / 262144 + 0xF0))
        (UInt8.ofNat (n / 4096 % 64 + 0x80) :: UInt8.ofNat (n / 64 % 64 + 0x80) ::
          UInt8.ofNat (n % 64 + 0x80) :: rest) =
      (.scalar (Char.ofNat n), 3) := by
  have ha : (UInt8.ofNat (n / 262144 + 0xF0)).toNat = n / 262144 + 0xF0 :=
    Nat.mod_eq_of_lt (by omega)
  have hb : (UInt8.ofNat (n / 4096 % 64 + 0x80)).toNat = n / 4096 % 64 + 0x80 :=
    Nat.mod_eq_of_lt (by omega)
  have hc : (UInt8.ofNat (n / 64 % 64 + 0x80)).toNat = n / 64 % 64 + 0x80 :=
    Nat.mod_eq_of_lt (by omega)
  have hd : (UInt8.ofNat (n % 64 + 0x80)).toNat = n % 64 + 0x80 := Nat.mod_eq_of_lt (by omega)
  generalize UInt8.ofNat (n / 262144 + 0xF0) = a at ha
  generalize UInt8.ofNat (n / 4096 % 64 + 0x80) = b at hb
  generalize UInt8.ofNat (n / 64 % 64 + 0x80) = c at hc
  generalize UInt8.ofNat (n % 64 + 0x80) = d at hd
  have hone : ¬ a < 0x80 := by simp [UInt8.lt_iff_toNat_lt]; omega
  have htwo : ¬ (0xC2 ≤ a ∧ a ≤ 0xDF) := by simp [UInt8.le_iff_toNat_le]; omega
  have hthree : ¬ (0xE0 ≤ a ∧ a ≤ 0xEF) := by simp [UInt8.le_iff_toNat_le]; omega
  have hfour : 0xF0 ≤ a ∧ a ≤ 0xF4 := by simp [UInt8.le_iff_toNat_le]; omega
  have hsecond : isSecond a b = true := isSecond_iff.2 (by omega)
  have hthird : isTail c = true := isTail_iff.2 (by omega)
  have hlast : isTail d = true := isTail_iff.2 (by omega)
  have hvalue : a.toNat % 8 * 262144 + payload b * 4096 + payload c * 64 + payload d = n := by
    rw [payload, payload, payload, ha, hb, hc, hd]
    omega
  simp [firstPiece, hone, htwo, hthree, hfour, hsecond, hthird, hlast, hvalue]

/-- The first piece of octets that begin with a character is that character. -/
theorem firstPiece_encode (c : Char) :
    ∃ a tail, String.utf8EncodeChar c = a :: tail ∧
      firstPiece a (tail ++ rest) = (.scalar c, tail.length) := by
  have hscalar := isScalar_toNat c
  rw [← c.ofNat_toNat]
  generalize c.toNat = n at hscalar
  by_cases h₁ : n < 0x80
  · exact ⟨_, _, utf8EncodeChar_one h₁, firstPiece_one _ h₁⟩
  · by_cases h₂ : n < 0x800
    · exact ⟨_, _, utf8EncodeChar_two (by omega) h₂, firstPiece_two _ (by omega) h₂⟩
    · by_cases h₃ : n < 0x10000
      · exact ⟨_, _, utf8EncodeChar_three (by omega) h₃ hscalar,
          firstPiece_three _ (by omega) h₃ hscalar⟩
      · have hlow : 0x10000 ≤ n := by omega
        have hhigh : n < 0x110000 := by omega
        exact ⟨_, _, utf8EncodeChar_four hlow hhigh, firstPiece_four _ hlow hhigh⟩

end Read

theorem ofNat_eq {b : UInt8} {m : Nat} (h : m = b.toNat) : UInt8.ofNat m = b := by
  rw [h, UInt8.ofNat_toNat]

section Payload

variable {a b c d : UInt8}

theorem encode_payload_two (ha : 0xC2 ≤ a ∧ a ≤ 0xDF) (hb : isTail b = true) :
    String.utf8EncodeChar (Char.ofNat (a.toNat % 32 * 64 + payload b)) = [a, b] := by
  simp only [UInt8.le_iff_toNat_le, UInt8.reduceToNat, isTail_iff] at ha hb
  have hlow : b.toNat % 64 = b.toNat - 0x80 := by omega
  have hhigh : a.toNat % 32 = a.toNat - 0xC0 := by omega
  rw [payload, hlow, hhigh, utf8EncodeChar_two (by omega) (by omega)]
  rw [ofNat_eq (b := a) (by omega), ofNat_eq (b := b) (by omega)]

theorem encode_payload_three (ha : 0xE0 ≤ a ∧ a ≤ 0xEF) (hb : isSecond a b = true)
    (hc : isTail c = true) :
    String.utf8EncodeChar (Char.ofNat (a.toNat % 16 * 4096 + payload b * 64 + payload c)) =
      [a, b, c] := by
  simp only [UInt8.le_iff_toNat_le, UInt8.reduceToNat, isTail_iff, isSecond_iff] at ha hb hc
  have hlow : c.toNat % 64 = c.toNat - 0x80 := by omega
  have hmid : b.toNat % 64 = b.toNat - 0x80 := by omega
  have hhigh : a.toNat % 16 = a.toNat - 0xE0 := by omega
  rw [payload, payload, hlow, hmid, hhigh,
    utf8EncodeChar_three (by omega) (by omega) (by unfold IsScalar; omega)]
  rw [ofNat_eq (b := a) (by omega), ofNat_eq (b := b) (by omega), ofNat_eq (b := c) (by omega)]

theorem encode_payload_four (ha : 0xF0 ≤ a ∧ a ≤ 0xF4) (hb : isSecond a b = true)
    (hc : isTail c = true) (hd : isTail d = true) :
    String.utf8EncodeChar
        (Char.ofNat (a.toNat % 8 * 262144 + payload b * 4096 + payload c * 64 + payload d)) =
      [a, b, c, d] := by
  simp only [UInt8.le_iff_toNat_le, UInt8.reduceToNat, isTail_iff, isSecond_iff] at ha hb hc hd
  have hlow : d.toNat % 64 = d.toNat - 0x80 := by omega
  have hmid : c.toNat % 64 = c.toNat - 0x80 := by omega
  have hnext : b.toNat % 64 = b.toNat - 0x80 := by omega
  have hhigh : a.toNat % 8 = a.toNat - 0xF0 := by omega
  rw [payload, payload, payload, hlow, hmid, hnext, hhigh,
    utf8EncodeChar_four (by omega) (by omega)]
  rw [ofNat_eq (b := a) (by omega), ofNat_eq (b := b) (by omega), ofNat_eq (b := c) (by omega),
    ofNat_eq (b := d) (by omega)]

end Payload

/-- A piece that is a character is made of the octets that encode it. -/
theorem encode_of_firstPiece {a : UInt8} {rest : Octets} {c : Char} {k : Nat}
    (h : firstPiece a rest = (.scalar c, k)) :
    ∃ tail after, rest = tail ++ after ∧ tail.length = k ∧
      String.utf8EncodeChar c = a :: tail := by
  revert h
  -- one case for each length of a character; in all the others the piece is none
  fun_cases firstPiece a rest <;> intro h <;> cases h
  case case1 ha =>
    refine ⟨[], rest, rfl, rfl, ?_⟩
    rw [utf8EncodeChar_one (UInt8.lt_iff_toNat_lt.1 ha), UInt8.ofNat_toNat]
  case case3 ha b after hb =>
    exact ⟨[b], after, rfl, rfl, encode_payload_two (by simpa using ha) hb⟩
  case case8 ha b hb c after hc =>
    exact ⟨[b, c], after, rfl, rfl,
      encode_payload_three (by simpa using ha) (by simpa using hb) hc⟩
  case case15 ha b hb c hc d after hd =>
    exact ⟨[b, c, d], after, rfl, rfl,
      encode_payload_four (by simpa using ha) (by simpa using hb) (by simpa using hc) hd⟩

/-! ### Texts -/

theorem piecesAfter_append (skipped rest : Octets) :
    piecesAfter skipped.length (skipped ++ rest) = pieces rest := by
  induction skipped with
  | nil => rfl
  | cons a skipped ih => exact ih

theorem pieces_encodeChars (cs : List Char) : pieces (encodeChars cs) = cs.map .scalar := by
  induction cs with
  | nil => rfl
  | cons c cs ih =>
    obtain ⟨a, tail, hencode, hfirst⟩ := firstPiece_encode (encodeChars cs) c
    have hcons : encodeChars (c :: cs) = a :: (tail ++ encodeChars cs) := by
      rw [encodeChars, List.flatMap_cons, hencode, List.cons_append]
      rfl
    rw [hcons, pieces, piecesAfter, hfirst, piecesAfter_append, ih, List.map_cons]

theorem eq_encodeChars_of_pieces {cs : List Char} {bs : Octets}
    (h : pieces bs = cs.map .scalar) : bs = encodeChars cs := by
  induction cs generalizing bs with
  | nil =>
    cases bs with
    | nil => rfl
    | cons a rest => simp [pieces, piecesAfter] at h
  | cons c cs ih =>
    cases bs with
    | nil => simp [pieces, piecesAfter] at h
    | cons a rest =>
      rw [pieces, piecesAfter, List.map_cons, List.cons.injEq] at h
      obtain ⟨hfirst, hafter⟩ := h
      obtain ⟨tail, after, rfl, hlength, hencode⟩ :=
        encode_of_firstPiece (k := (firstPiece a rest).2) (Prod.ext hfirst rfl)
      rw [← hlength, piecesAfter_append] at hafter
      rw [encodeChars, List.flatMap_cons, hencode, ih hafter]
      rfl

theorem collect_map_scalar (index : Nat) (cs : List Char) :
    collect index (cs.map .scalar) = .ok cs := by
  induction cs generalizing index with
  | nil => rfl
  | cons c cs ih => rw [List.map_cons, collect, ih, Except.map]

theorem eq_map_scalar_of_collect {index : Nat} {ps : List Piece} {cs : List Char}
    (h : collect index ps = .ok cs) : ps = cs.map .scalar := by
  induction ps generalizing index cs with
  | nil =>
    cases h
    rfl
  | cons p ps ih =>
    cases p with
    | scalar c =>
      rw [collect] at h
      cases hrest : collect (index + c.utf8Size) ps with
      | ok ds =>
        rw [hrest] at h
        cases h
        rw [ih hrest, List.map_cons]
      | error fault =>
        rw [hrest] at h
        cases h
    | illFormed length => cases h
    | truncated => cases h

theorem decodeChars_eq_ok_iff {bs : Octets} {cs : List Char} :
    decodeChars bs = .ok cs ↔ bs = encodeChars cs := by
  constructor
  · intro h
    exact eq_encodeChars_of_pieces (eq_map_scalar_of_collect h)
  · rintro rfl
    rw [decodeChars, pieces_encodeChars, collect_map_scalar]

theorem encodeChars_inj {cs ds : List Char} : encodeChars cs = encodeChars ds ↔ cs = ds := by
  refine ⟨fun h => ?_, congrArg encodeChars⟩
  have hread := decodeChars_eq_ok_iff.2 h
  rw [decodeChars_eq_ok_iff.2 rfl] at hread
  exact Except.ok.inj hread

/-- Octets are read as a text exactly if they are what is written for it. -/
theorem decode_eq_ok_iff {bs : Octets} {s : String} : decode bs = .ok s ↔ bs = encode s := by
  rw [encode, ← decodeChars_eq_ok_iff, decode]
  cases decodeChars bs with
  | ok cs => simp [Except.map, String.ext_iff]
  | error fault => simp [Except.map]

theorem decode_encode (s : String) : decode (encode s) = .ok s :=
  decode_eq_ok_iff.2 rfl

/-- Octets that are read as no text are written for none. -/
theorem exists_fault_iff {bs : Octets} :
    (∃ fault, decode bs = .error fault) ↔ ¬ ∃ s, bs = encode s := by
  simp only [← decode_eq_ok_iff]
  cases decode bs <;> simp

end DsigRegistry.Text.Utf8
