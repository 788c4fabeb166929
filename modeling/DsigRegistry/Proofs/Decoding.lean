import DsigRegistry.Proofs.Base64
import DsigRegistry.Proofs.Traced
import DsigRegistry.Proofs.Utf8
import DsigRegistry.Transform.Base64

/-!
# Decoding as the inverse of encoding

What the Base64 transform makes of octets: they have to be UTF-8, and apart from white space the
text has to be the one encoding of what comes out. Main fact: `base64Decode_inverts_encoding`.
-/

namespace DsigRegistry

/-- The characters of a text that are no white space. -/
def Text.withoutBlanks (s : String) : List Char :=
  s.toList.filter fun c => !isBlank c

namespace Base64

/-- The encoding of octets as characters. -/
def characters (d : Octets) : List Char :=
  (encode d).map fun b => Char.ofNat b.toNat

theorem mem_encode {d : Octets} {b : UInt8} (h : b ∈ encode d) :
    b = pad ∨ ∃ v < 64, b = symbol v := by
  induction d using encode.induct with
  | case1 => simp [encode] at h
  | case2 x =>
    have hx := x.toNat_lt
    simp only [encode, List.mem_cons, List.not_mem_nil, or_false] at h
    obtain rfl | rfl | rfl | rfl := h
    · exact .inr ⟨_, by omega, rfl⟩
    · exact .inr ⟨_, by omega, rfl⟩
    · exact .inl rfl
    · exact .inl rfl
  | case3 x y =>
    have hx := x.toNat_lt
    have hy := y.toNat_lt
    simp only [encode, List.mem_cons, List.not_mem_nil, or_false] at h
    obtain rfl | rfl | rfl | rfl := h
    · exact .inr ⟨_, by omega, rfl⟩
    · exact .inr ⟨_, by omega, rfl⟩
    · exact .inr ⟨_, by omega, rfl⟩
    · exact .inl rfl
  | case4 x y z rest ih =>
    have hencode : encode (x :: y :: z :: rest) =
        (sextets x y z).map symbol ++ encode rest := rfl
    rw [hencode, List.mem_append] at h
    obtain h | h := h
    · obtain ⟨v, hv, rfl⟩ := List.mem_map.1 h
      exact .inr ⟨v, sextets_lt x y z v hv, rfl⟩
    · exact ih h

/-- The encoding is ASCII without white space. -/
theorem visible_of_mem_encode {d : Octets} {b : UInt8} (h : b ∈ encode d) :
    b.toNat < 0x80 ∧ Text.isBlank (Char.ofNat b.toNat) = false := by
  have hsymbols : ∀ v < 64, (symbol v).toNat < 0x80 ∧
      Text.isBlank (Char.ofNat (symbol v).toNat) = false := by decide
  obtain rfl | ⟨v, hv, rfl⟩ := mem_encode h
  · decide
  · exact hsymbols v hv

theorem encodeChars_characters (d : Octets) :
    Text.Utf8.encodeChars (characters d) = encode d := by
  have hone : (encode d).map (fun b => String.utf8EncodeChar (Char.ofNat b.toNat)) =
      (encode d).map fun b => [b] :=
    List.map_congr_left fun b hb => by
      rw [Text.Utf8.utf8EncodeChar_one (visible_of_mem_encode hb).1, UInt8.ofNat_toNat]
  rw [Text.Utf8.encodeChars, characters, List.flatMap_map, List.flatMap_def, hone,
    ← List.flatMap_def, List.flatMap_singleton']

theorem withoutBlanks_characters (d : Octets) :
    Text.withoutBlanks (String.ofList (characters d)) = characters d := by
  rw [Text.withoutBlanks, String.toList_ofList, List.filter_eq_self]
  intro c hc
  obtain ⟨b, hb, rfl⟩ := List.mem_map.1 hc
  rw [(visible_of_mem_encode hb).2]
  rfl

end Base64

namespace Transform

open Text (withoutBlanks)

variable {text : String} {data d : Octets}

/-! ### Texts -/

/-- A text is decoded exactly if it is an encoding but for white space. -/
theorem decodeText_eq_ok_iff :
    decodeText text = .ok d ↔ withoutBlanks text = Base64.characters d := by
  have hdecode : decodeText text = .ok d ↔
      Base64.decode (Text.Utf8.encodeChars (withoutBlanks text)) = .ok d := by
    unfold decodeText withoutBlanks
    cases Base64.decode _ <;> simp
  rw [hdecode, Base64.decode_eq_ok_iff, ← Base64.encodeChars_characters]
  constructor
  · intro h
    have hread := Text.Utf8.decodeChars_eq_ok_iff.2 h.symm
    rw [Text.Utf8.decodeChars_eq_ok_iff.2 rfl] at hread
    exact (Except.ok.inj hread).symm
  · intro h
    rw [h]

theorem decodeText_cases (text : String) :
    (∃ d, decodeText text = .ok d) ∨ ∃ message, decodeText text = .error (.base64 message) := by
  unfold decodeText
  cases Base64.decode _ with
  | ok d => exact .inl ⟨d, rfl⟩
  | error fault => exact .inr ⟨_, rfl⟩

theorem exists_decodeText_error_iff :
    (∃ message, decodeText text = .error (.base64 message)) ↔
      ∀ d, withoutBlanks text ≠ Base64.characters d := by
  constructor
  · rintro ⟨message, h⟩ d hd
    rw [decodeText_eq_ok_iff.2 hd] at h
    cases h
  · intro h
    obtain ⟨d, hd⟩ | herror := decodeText_cases text
    · exact absurd (decodeText_eq_ok_iff.1 hd) (h d)
    · exact herror

/-! ### Octets -/

/-- The octets that data is decoded to. -/
def decoded (input : TransformData) : Except Error Octets :=
  encodedText input >>= decodeText

theorem base64Decode_apply (input : TransformData) (params : Params)
    (canonicalizers : Registry Canonicalizer) (j : Journal) :
    base64Decode.execute input params canonicalizers j =
      ((decoded input).map TransformData.octets, j) := by
  simp only [base64Decode, Transform.pure, Traced.pure_apply, decoded]
  cases encodedText input with
  | error e => rfl
  | ok text =>
    change ((decodeText text).bind fun d => .ok (TransformData.octets d), j) =
      ((decodeText text).map TransformData.octets, j)
    cases decodeText text <;> rfl

theorem map_octets_eq_ok_iff {result : Except Error Octets} :
    result.map TransformData.octets = .ok (.octets d) ↔ result = .ok d := by
  cases result <;> simp [Except.map]

theorem map_octets_eq_error_iff {result : Except Error Octets} {e : Error} :
    result.map TransformData.octets = .error e ↔ result = .error e := by
  cases result <;> simp [Except.map]

/-- What octets are the UTF-8 of is decoded. -/
theorem decoded_encode (text : String) :
    decoded (.octets (Text.Utf8.encode text)) = decodeText text := by
  rw [decoded, encodedText, Text.Utf8.decode_encode]
  rfl

theorem decoded_of_not_utf8 (h : ¬ ∃ text, data = Text.Utf8.encode text) :
    ∃ message, decoded (.octets data) = .error (.transform message) := by
  obtain ⟨fault, hfault⟩ := Text.Utf8.exists_fault_iff.2 h
  exact ⟨_, by rw [decoded, encodedText, hfault]; rfl⟩

theorem decoded_eq_ok_iff : decoded (.octets data) = .ok d ↔
    ∃ text, data = Text.Utf8.encode text ∧ withoutBlanks text = Base64.characters d := by
  constructor
  · intro h
    by_cases hdata : ∃ text, data = Text.Utf8.encode text
    · obtain ⟨text, rfl⟩ := hdata
      rw [decoded_encode, decodeText_eq_ok_iff] at h
      exact ⟨text, rfl, h⟩
    · obtain ⟨message, herror⟩ := decoded_of_not_utf8 hdata
      rw [herror] at h
      cases h
  · rintro ⟨text, rfl, h⟩
    rw [decoded_encode, decodeText_eq_ok_iff, h]

theorem exists_transform_error_iff :
    (∃ message, decoded (.octets data) = .error (.transform message)) ↔
      ¬ ∃ text, data = Text.Utf8.encode text := by
  constructor
  · rintro ⟨message, h⟩ ⟨text, rfl⟩
    rw [decoded_encode] at h
    obtain ⟨d, hd⟩ | ⟨message', herror⟩ := decodeText_cases text
    · rw [hd] at h
      cases h
    · rw [herror] at h
      cases h
  · exact decoded_of_not_utf8

theorem exists_base64_error_iff :
    (∃ message, decoded (.octets data) = .error (.base64 message)) ↔
      ∃ text, data = Text.Utf8.encode text ∧
        ∀ d, withoutBlanks text ≠ Base64.characters d := by
  constructor
  · rintro ⟨message, h⟩
    by_cases hdata : ∃ text, data = Text.Utf8.encode text
    · obtain ⟨text, rfl⟩ := hdata
      rw [decoded_encode] at h
      exact ⟨text, rfl, exists_decodeText_error_iff.1 ⟨message, h⟩⟩
    · obtain ⟨message', herror⟩ := decoded_of_not_utf8 hdata
      rw [herror] at h
      cases h
  · rintro ⟨text, rfl, h⟩
    rw [decoded_encode]
    exact exists_decodeText_error_iff.2 h

/-- Octets are decoded exactly if they are UTF-8 for a text that, without its white space, is the
encoding of what comes out. So every encoding is decoded, wherever white space stands in it; two
texts are decoded to the same octets only if they differ in nothing but white space; and the only
other answers are that the octets are not UTF-8 and that their text is no encoding. -/
theorem base64Decode_inverts_encoding (params : Params) (canonicalizers : Registry Canonicalizer)
    (j : Journal) :
    let answer (data : Octets) := (base64Decode.execute (.octets data) params canonicalizers j).1
    (∀ data d, answer data = .ok (.octets d) ↔
      ∃ text, data = Text.Utf8.encode text ∧ withoutBlanks text = Base64.characters d) ∧
    (∀ d, answer (Base64.encode d) = .ok (.octets d)) ∧
    (∀ text text' d, answer (Text.Utf8.encode text) = .ok (.octets d) →
      (answer (Text.Utf8.encode text') = .ok (.octets d) ↔
        withoutBlanks text' = withoutBlanks text)) ∧
    (∀ data, (∃ message, answer data = .error (.transform message)) ↔
      ¬ ∃ text, data = Text.Utf8.encode text) ∧
    (∀ data, (∃ message, answer data = .error (.base64 message)) ↔
      ∃ text, data = Text.Utf8.encode text ∧
        ∀ d, withoutBlanks text ≠ Base64.characters d) := by
  intro answer
  have hanswer (data : Octets) :
      answer data = (decoded (.octets data)).map TransformData.octets :=
    congrArg Prod.fst (base64Decode_apply (.octets data) params canonicalizers j)
  simp only [hanswer, map_octets_eq_ok_iff, map_octets_eq_error_iff]
  refine ⟨fun data d => decoded_eq_ok_iff, fun d => ?_, fun text text' d h => ?_,
    fun data => exists_transform_error_iff, fun data => exists_base64_error_iff⟩
  · have hencode : Base64.encode d = Text.Utf8.encode (String.ofList (Base64.characters d)) := by
      rw [Text.Utf8.encode, String.toList_ofList, Base64.encodeChars_characters]
    exact decoded_eq_ok_iff.2 ⟨_, hencode, Base64.withoutBlanks_characters d⟩
  · rw [decoded_encode, decodeText_eq_ok_iff] at h ⊢
    rw [h]

end Transform

end DsigRegistry
