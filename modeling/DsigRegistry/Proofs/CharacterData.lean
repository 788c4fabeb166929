import DsigRegistry.Proofs.Decoding
import DsigRegistry.Proofs.ReadingDocument

/-!
# Decoding documents

What the Base64 transform makes of a document: what it makes of the character data in it. Main
fact: `base64Decode_reads_characterData`.
-/

namespace DsigRegistry.Transform

open Text (withoutBlanks)

variable {text text' : String}

/-- White space in a text makes no difference. -/
theorem decodeText_congr (h : withoutBlanks text = withoutBlanks text') :
    decodeText text = decodeText text' := by
  unfold withoutBlanks at h
  rw [decodeText, decodeText, h]

theorem decoded_of_parse? {root : Xml.Element Xml.Name} (h : Xml.parse? text = some root) :
    decoded (.xml text) = decodeText root.characterData := by
  rw [decoded, encodedText, h]
  rfl

/-- A written document is decoded as its character data is. -/
theorem decoded_text (d : Xml.Written.Document) :
    decoded (.xml d.text) = decodeText d.characterData := by
  obtain ⟨root, hroot, hdata⟩ := Xml.Written.exists_parse? d
  rw [decoded_of_parse? hroot, hdata]

/-- A written document is decoded as the octets of its character data are, so two documents with
the same character data up to white space are decoded alike, and octets come out of exactly the
documents that their encoding is spread over. Every other text that is read as a document is
decoded by the same rule, and a text that is no document is refused. -/
theorem base64Decode_reads_characterData (params : Params)
    (canonicalizers : Registry Canonicalizer) (j : Journal) :
    let answer (data : TransformData) : Except Error TransformData × Journal :=
      base64Decode.execute data params canonicalizers j
    (∀ d : Xml.Written.Document,
      answer (.xml d.text) = answer (.octets (Text.Utf8.encode d.characterData))) ∧
    (∀ d d' : Xml.Written.Document,
      withoutBlanks d.characterData = withoutBlanks d'.characterData →
        answer (.xml d.text) = answer (.xml d'.text)) ∧
    (∀ (d : Xml.Written.Document) (octets : Octets),
      answer (.xml d.text) = (.ok (.octets octets), j) ↔
        withoutBlanks d.characterData = Base64.characters octets) ∧
    (∀ text root, Xml.parse? text = some root →
      answer (.xml text) = answer (.octets (Text.Utf8.encode root.characterData))) ∧
    (∀ text, Xml.parse? text = none →
      answer (.xml text) =
        (.error (.transform "base64 input is not well-formed XML"), j)) := by
  intro answer
  have hanswer (data : TransformData) :
      answer data = ((decoded data).map TransformData.octets, j) :=
    base64Decode_apply data params canonicalizers j
  simp only [hanswer, Prod.mk.injEq, and_true, map_octets_eq_ok_iff, map_octets_eq_error_iff]
  refine ⟨fun d => ?_, fun d d' h => ?_, fun d octets => ?_, fun text root h => ?_,
    fun text h => ?_⟩
  · rw [decoded_text, decoded_encode]
  · rw [decoded_text, decoded_text, decodeText_congr h]
  · rw [decoded_text, decodeText_eq_ok_iff]
  · rw [decoded_of_parse? h, decoded_encode]
  · rw [decoded, encodedText, h]
    rfl

open Xml.Written in
/-- Three octets spread over an element, a reference in an element within it, and a section behind
a comment. -/
def spreadDocument : Document where
  mark := false
  declaration := none
  prolog := ⟨[], ⟨[], by decide⟩⟩
  root :=
    .full
      { name := ⟨"", "r"⟩
        name_wf := ⟨.inl rfl, ⟨by decide, by decide⟩⟩
        attributes := [{
          gap := ⟨[' '], by decide⟩
          gap_ne := by decide
          name := ⟨"xmlns", "x"⟩
          name_wf := ⟨.inr ⟨by decide, by decide⟩, ⟨by decide, by decide⟩⟩
          beforeEquals := ⟨[], by decide⟩
          afterEquals := ⟨[], by decide⟩
          quote := '"'
          quote_eq := .inl rfl
          items := [.plain 'u' (by decide)]
          unquoted := by decide }]
        gap := ⟨[], by decide⟩ }
      (.next ⟨[.plain 'T' (by decide), .plain 'W' (by decide)], by decide⟩
        (.element (.full
          { name := ⟨"x", "e"⟩
            name_wf := ⟨.inr ⟨by decide, by decide⟩, ⟨by decide, by decide⟩⟩
            attributes := []
            gap := ⟨[], by decide⟩ }
          (.last ⟨[.reference ['#', '7', '0'] 'F'
            (.decimal (by decide) (by decide) (by decide) (by decide))], by decide⟩)
          ⟨[], by decide⟩))
        (.next ⟨[.plain '\n' (by decide)], by decide⟩
          (.aside (.comment ⟨['A'], by decide, by decide, by decide⟩))
          (.next ⟨[], by decide⟩ (.cdata ⟨['u'], by decide, by decide⟩)
            (.last ⟨[], by decide⟩))))
      ⟨[], by decide⟩
  epilog := ⟨[], ⟨[], by decide⟩⟩
  named :=
    have hroot := ⟨by decide, by decide, by decide, by decide, by decide⟩
    have helement := ⟨by decide, by decide, by decide, by decide, by decide⟩
    ⟨hroot, ⟨helement, trivial⟩, trivial, trivial, trivial⟩

theorem base64Decode_spreadDocument :
    spreadDocument.text =
      "<r xmlns:x=\"u\">TW<x:e>&#70;</x:e>\n<!--A--><![CDATA[u]]></r>" ∧
    base64Decode.execute (.xml spreadDocument.text) .empty (.empty .canonicalizer) [] =
      (.ok (.octets [77, 97, 110]), []) := by
  obtain ⟨-, -, hspread, -⟩ :=
    base64Decode_reads_characterData .empty (.empty .canonicalizer) []
  exact ⟨rfl, (hspread spreadDocument [77, 97, 110]).2 rfl⟩

end DsigRegistry.Transform
