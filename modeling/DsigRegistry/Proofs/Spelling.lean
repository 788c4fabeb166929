import Mathlib.Data.List.Forall2
import Mathlib.Data.List.TakeWhile
import DsigRegistry.Proofs.Segments
import DsigRegistry.Proofs.Utf8

/-!
# Spellings of names

A name can be spelled as a segment in many ways, as any of its octets may be escaped, with digits
of either case. The name is read back from each of them, and a dot still counts as one where it is
escaped, so that a URL that spells names leads where they do once they are settled. Main facts:
`Spells.view_eq`, `Spells.isDotDot_iff`, `alike_follow` and `parse_fileText`.
-/

namespace DsigRegistry.Url

open Text.Utf8

variable {c : Char} {cs : List Char} {b : UInt8} {bs : Octets}

/-! ### Characters of segments -/

/-- What holds of the first 128 characters holds of every character of ASCII. -/
theorem forall_ascii {P : Char → Prop} (h : ∀ n < 128, P (Char.ofNat n)) (c : Char)
    (hc : c.toNat < 128) : P c :=
  Char.ofNat_toNat c ▸ h c.toNat hc

/-- The character occurs in segments as it is. -/
structure InSegment (c : Char) : Prop where
  visible : 0x20 < c.toNat ∧ c.toNat < 0x7F
  plain : c ∉ '/' :: '\\' :: Percent.pathSet

instance (c : Char) : Decidable (InSegment c) :=
  decidable_of_iff ((0x20 < c.toNat ∧ c.toNat < 0x7F) ∧ c ∉ '/' :: '\\' :: Percent.pathSet)
    ⟨fun h => ⟨h.1, h.2⟩, fun h => ⟨h.1, h.2⟩⟩

theorem InSegment.ascii (h : InSegment c) : c.toNat < 128 :=
  Nat.lt_succ_of_lt h.visible.2

theorem InSegment.isPadding (h : InSegment c) : isPadding c = false :=
  decide_eq_false (Nat.not_le.2 h.visible.1)

theorem InSegment.isSeparator (h : InSegment c) : isSeparator true c = false := by
  have hplain := h.plain
  simp only [List.mem_cons, not_or] at hplain
  simp [Url.isSeparator, hplain.1, hplain.2.1]

theorem InSegment.endsPath (h : InSegment c) : endsPath c = false := by
  have hplain := h.plain
  simp only [Percent.pathSet, List.mem_cons, List.cons_append, not_or] at hplain
  simp [Url.endsPath, hplain.2.2.1, hplain.2.2.2.1]

theorem InSegment.encodeText (h : ∀ c ∈ cs, InSegment c) :
    Percent.encodeText Percent.pathSet cs = cs := by
  have hone : ∀ c, c.toNat < 128 → InSegment c → Percent.encodeText Percent.pathSet [c] = [c] :=
    forall_ascii (by decide +kernel)
  induction cs with
  | nil => rfl
  | cons c cs ih =>
    obtain ⟨hc, hcs⟩ := List.forall_mem_cons.1 h
    have happend : Percent.encodeText Percent.pathSet (c :: cs) =
        Percent.encodeText Percent.pathSet [c] ++ Percent.encodeText Percent.pathSet cs := by
      simp [Percent.encodeText, Percent.encode, encodeChars]
    rw [happend, hone c hc.ascii hc, ih hcs]
    rfl

/-- An octet that need not be escaped is a character of ASCII that occurs in segments. -/
theorem inSegment_of_not_isEscaped (h : Percent.isEscaped Percent.fileNameSet b = false) :
    InSegment (Char.ofNat b.toNat) ∧ Char.ofNat b.toNat ≠ '%' ∧
      String.utf8EncodeChar (Char.ofNat b.toNat) = [b] := by
  have hascii : b.toNat < 128 := by
    simp only [Percent.isEscaped, Bool.or_eq_false_iff, decide_eq_false_iff_not,
      UInt8.le_iff_toNat_le] at h
    exact Nat.lt_trans (Nat.not_le.1 h.1.2) (by decide)
  have hall : ∀ n < 128, Percent.isEscaped Percent.fileNameSet (UInt8.ofNat n) = false →
      InSegment (Char.ofNat n) ∧ Char.ofNat n ≠ '%' := by
    decide +kernel
  have hb : UInt8.ofNat b.toNat = b := UInt8.ofNat_toNat
  obtain ⟨hsegment, hpercent⟩ := hall b.toNat hascii (by rwa [hb])
  exact ⟨hsegment, hpercent, by rw [utf8EncodeChar_one hascii, hb]⟩

theorem ascii_of_hexValue? {v : Nat} (h : Percent.hexValue? c = some v) : c.toNat < 128 := by
  unfold Percent.hexValue? at h
  simp only [Char.le_def, UInt32.le_iff_toNat_le] at h
  change c.val.toNat < 128
  split at h
  next hc => exact Nat.lt_of_le_of_lt hc.2 (by decide)
  next =>
    split at h
    next hc => exact Nat.lt_of_le_of_lt hc.2 (by decide)
    next =>
      split at h
      next hc => exact Nat.lt_of_le_of_lt hc.2 (by decide)
      next => cases h

theorem inSegment_of_hexValue? {v : Nat} (h : Percent.hexValue? c = some v) : InSegment c := by
  have hall : ∀ c : Char, c.toNat < 128 → (Percent.hexValue? c).isSome = true → InSegment c :=
    forall_ascii (by decide +kernel)
  exact hall c (ascii_of_hexValue? h) (by simp [h])

theorem exists_hexValue?_of_octet? {high low : Char} (h : Percent.octet? high low = some b) :
    ∃ m n, Percent.hexValue? high = some m ∧ Percent.hexValue? low = some n ∧
      UInt8.ofNat (m * 16 + n) = b := by
  obtain ⟨m, hm, h⟩ := Option.bind_eq_some_iff.1 h
  obtain ⟨n, hn, h⟩ := Option.bind_eq_some_iff.1 h
  exact ⟨m, n, hm, hn, Option.some.inj h⟩

/-! ### Spellings -/

/-- The text spells the octets in a segment: an octet may be escaped, and has to be where it could
be taken for something else. -/
inductive Spells : List Char → Octets → Prop
  | nil : Spells [] []
  | plain {cs : List Char} {bs : Octets} {b : UInt8}
      (hplain : Percent.isEscaped Percent.fileNameSet b = false) (h : Spells cs bs) :
      Spells (Char.ofNat b.toNat :: cs) (b :: bs)
  | escaped {cs : List Char} {bs : Octets} {high low : Char} {b : UInt8}
      (hdigits : Percent.octet? high low = some b) (h : Spells cs bs) :
      Spells ('%' :: high :: low :: cs) (b :: bs)

/-- The octets are read back. -/
theorem Spells.decode (h : Spells cs bs) : Percent.decode cs = bs := by
  induction h with
  | nil => rfl
  | plain hplain _ ih =>
    obtain ⟨-, hpercent, hencode⟩ := inSegment_of_not_isEscaped hplain
    rw [Percent.decode, hencode, ih]
    · rfl
    · exact fun _ _ _ heq => absurd heq hpercent
  | escaped hdigits _ ih => rw [Percent.decode, hdigits, ih]

theorem Spells.inSegment (h : Spells cs bs) : ∀ c ∈ cs, InSegment c := by
  induction h with
  | nil => simp
  | plain hplain _ ih =>
    exact List.forall_mem_cons.2 ⟨(inSegment_of_not_isEscaped hplain).1, ih⟩
  | escaped hdigits _ ih =>
    obtain ⟨m, n, hm, hn, -⟩ := exists_hexValue?_of_octet? hdigits
    simp only [List.forall_mem_cons]
    exact ⟨by decide, inSegment_of_hexValue? hm, inSegment_of_hexValue? hn, ih⟩

theorem octet?_escape (b : UInt8) :
    Percent.octet? (Percent.hexDigit (b.toNat / 16)) (Percent.hexDigit (b.toNat % 16)) =
      some b := by
  have hall : ∀ n < 256, Percent.octet? (Percent.hexDigit (n / 16)) (Percent.hexDigit (n % 16)) =
      some (UInt8.ofNat n) := by
    decide +kernel
  rw [hall b.toNat b.toNat_lt, UInt8.ofNat_toNat]

/-- Octets are spelled by escaping those that have to be. -/
theorem spells_encode (bs : Octets) : Spells (Percent.encode Percent.fileNameSet bs) bs := by
  induction bs with
  | nil => exact .nil
  | cons b bs ih =>
    rw [Percent.encode, List.flatMap_cons]
    cases hescaped : Percent.isEscaped Percent.fileNameSet b with
    | true => exact .escaped (octet?_escape b) ih
    | false => exact .plain hescaped ih

/-! ### Dots -/

/-- The text is a dot, or the escape for one. -/
def DotText (cs : List Char) : Prop :=
  cs.map Char.toLower = ['.'] ∨ cs.map Char.toLower = ['%', '2', 'e']

theorem isDot_iff_dotText : isDot cs = true ↔ DotText cs := by
  simp [isDot, DotText]

theorem isDotDot_iff_dotText :
    isDotDot cs = true ↔ ∃ first second, cs = first ++ second ∧ DotText first ∧ DotText second := by
  constructor
  · intro h
    simp only [isDotDot, Bool.or_eq_true, decide_eq_true_eq] at h
    have hsplit : ∀ xs ys, cs.map Char.toLower = xs ++ ys →
        ∃ first second, cs = first ++ second ∧ first.map Char.toLower = xs ∧
          second.map Char.toLower = ys := fun xs ys hmap => List.map_eq_append_iff.1 hmap
    rcases h with ((h | h) | h) | h
    · obtain ⟨first, second, rfl, hx, hy⟩ := hsplit ['.'] ['.'] h
      exact ⟨first, second, rfl, .inl hx, .inl hy⟩
    · obtain ⟨first, second, rfl, hx, hy⟩ := hsplit ['.'] ['%', '2', 'e'] h
      exact ⟨first, second, rfl, .inl hx, .inr hy⟩
    · obtain ⟨first, second, rfl, hx, hy⟩ := hsplit ['%', '2', 'e'] ['.'] h
      exact ⟨first, second, rfl, .inr hx, .inl hy⟩
    · obtain ⟨first, second, rfl, hx, hy⟩ := hsplit ['%', '2', 'e'] ['%', '2', 'e'] h
      exact ⟨first, second, rfl, .inr hx, .inr hy⟩
  · rintro ⟨first, second, rfl, hx | hx, hy | hy⟩ <;> simp [isDotDot, hx, hy]

theorem ascii_of_toLower {d : Char} (h : c.toLower = d) (hd : d.toNat < 128) : c.toNat < 128 := by
  subst h
  unfold Char.toLower at hd
  split at hd
  next hupper =>
    have hle := UInt32.le_iff_toNat_le.1 hupper.2
    exact Nat.lt_of_le_of_lt hle (by decide)
  next => exact hd

theorem DotText.decode_append (h : DotText cs) (rest : List Char) :
    Percent.decode (cs ++ rest) = 0x2E :: Percent.decode rest := by
  have hdot : ∀ c : Char, c.toNat < 128 → c.toLower = '.' → c = '.' :=
    forall_ascii (by decide +kernel)
  have hdigits : ∀ c : Char, c.toNat < 128 → (c.toLower = '%' → c = '%') ∧
      (c.toLower = '2' → c = '2') ∧ (c.toLower = 'e' → c = 'e' ∨ c = 'E') :=
    forall_ascii (by decide +kernel)
  rcases h with h | h
  · obtain ⟨c, tail, rfl, hc, htail⟩ := List.map_eq_cons_iff.1 h
    obtain rfl := List.map_eq_nil_iff.1 htail
    rw [hdot c (ascii_of_toLower hc (by decide)) hc]
    rfl
  · obtain ⟨c, tail, rfl, hc, htail⟩ := List.map_eq_cons_iff.1 h
    obtain ⟨d, tail, rfl, hd, htail⟩ := List.map_eq_cons_iff.1 htail
    obtain ⟨e, tail, rfl, he, htail⟩ := List.map_eq_cons_iff.1 htail
    obtain rfl := List.map_eq_nil_iff.1 htail
    rw [(hdigits c (ascii_of_toLower hc (by decide))).1 hc,
      (hdigits d (ascii_of_toLower hd (by decide))).2.1 hd]
    rcases (hdigits e (ascii_of_toLower he (by decide))).2.2 he with rfl | rfl <;> rfl

/-- The digits of the escape for a dot. -/
theorem toLower_of_octet?_dot {high low : Char} (h : Percent.octet? high low = some 0x2E) :
    high.toLower = '2' ∧ low.toLower = 'e' := by
  have hdigit : ∀ c : Char, c.toNat < 128 → ∀ v ∈ Percent.hexValue? c,
      v < 16 ∧ (v = 2 → c.toLower = '2') ∧ (v = 14 → c.toLower = 'e') :=
    forall_ascii (by decide +kernel)
  obtain ⟨m, n, hm, hn, hdot⟩ := exists_hexValue?_of_octet? h
  obtain ⟨hmlt, hhigh, -⟩ := hdigit high (ascii_of_hexValue? hm) m hm
  obtain ⟨hnlt, -, hlow⟩ := hdigit low (ascii_of_hexValue? hn) n hn
  have hvalue : (m * 16 + n) % 256 = 46 := by
    rw [← UInt8.toNat_ofNat', hdot]
    rfl
  exact ⟨hhigh (by omega), hlow (by omega)⟩

/-- What spells a dot first starts with one, or with the escape for one. -/
theorem Spells.exists_dotText (h : Spells cs (0x2E :: bs)) :
    ∃ first rest, cs = first ++ rest ∧ DotText first ∧ Spells rest bs := by
  cases h with
  | @plain rest _ _ _ h => exact ⟨['.'], rest, rfl, .inl rfl, h⟩
  | @escaped rest _ high low _ hdigits h =>
    obtain ⟨hhigh, hlow⟩ := toLower_of_octet?_dot hdigits
    refine ⟨['%', high, low], rest, rfl, .inr ?_, h⟩
    rw [List.map_cons, List.map_cons, List.map_cons, hhigh, hlow]
    rfl

theorem Spells.eq_nil (h : Spells cs []) : cs = [] := by
  cases h
  rfl

/-- A segment is a dot segment if what it spells is a dot. -/
theorem Spells.isDot_iff (h : Spells cs bs) : isDot cs = true ↔ bs = Path.dot := by
  rw [isDot_iff_dotText]
  constructor
  · intro hdot
    have hdecode := hdot.decode_append []
    rwa [List.append_nil, h.decode] at hdecode
  · rintro rfl
    obtain ⟨first, rest, rfl, hdot, hrest⟩ := h.exists_dotText
    rwa [hrest.eq_nil, List.append_nil]

theorem Spells.isDotDot_iff (h : Spells cs bs) : isDotDot cs = true ↔ bs = Path.dotDot := by
  rw [isDotDot_iff_dotText]
  constructor
  · rintro ⟨first, second, rfl, hfirst, hsecond⟩
    have hdecode := hsecond.decode_append []
    rw [List.append_nil] at hdecode
    rw [← h.decode, hfirst.decode_append, hdecode]
    rfl
  · rintro rfl
    obtain ⟨first, rest, rfl, hfirst, hrest⟩ := h.exists_dotText
    obtain ⟨second, rest, rfl, hsecond, hrest⟩ := hrest.exists_dotText
    refine ⟨first, second, ?_, hfirst, hsecond⟩
    rw [hrest.eq_nil, List.append_nil]

/-! ### Drives -/

/-- The octets could be taken for the name of a drive: a letter and a colon or bar. -/
def IsDriveName (bs : Octets) : Prop :=
  ∃ letter mark : Char, bs = encodeChars [letter, mark] ∧ letter.isAlpha = true ∧
    (mark = ':' ∨ mark = '|')

/-- A segment is taken for a drive only if that is what it spells. -/
theorem Spells.startsWithDrive_eq_false (h : Spells cs bs) (hdrive : ¬ IsDriveName bs) :
    startsWithDrive cs = false := by
  rw [← Bool.not_eq_true]
  intro hcs
  unfold startsWithDrive at hcs
  obtain ⟨htake, hdrop⟩ := Bool.and_eq_true_iff.1 hcs
  -- No character that would end the drive in front of it occurs in segments.
  have hend : cs.drop 2 = [] := by
    cases hrest : cs.drop 2 with
    | nil => rfl
    | cons c rest =>
      have hc : InSegment c := h.inSegment c (List.mem_of_mem_drop (hrest ▸ List.mem_cons_self))
      rw [hrest] at hdrop
      change endsAuthority true c = true at hdrop
      rw [endsAuthority, hc.isSeparator, hc.endsPath] at hdrop
      cases hdrop
  rw [← List.append_nil (cs.take 2), ← hend, List.take_append_drop] at htake
  unfold isDrive at htake
  split at htake
  next letter mark =>
    simp only [Bool.and_eq_true, Bool.or_eq_true, decide_eq_true_eq] at htake
    refine hdrive ⟨letter, mark, ?_, htake.1, htake.2⟩
    rw [← h.decode]
    simp [Percent.decode, encodeChars]
  next => cases htake

/-- Nothing but the octets that a segment spells can be told of it. -/
theorem Spells.view_eq (h : Spells cs bs) (hdrive : ¬ IsDriveName bs) :
    view cs = (bs, [], bs.isEmpty) := by
  have hempty : cs.isEmpty = bs.isEmpty := by
    cases h <;> rfl
  rw [view, h.decode, h.startsWithDrive_eq_false hdrive, hempty]
  rfl

/-! ### Names as segments -/

section Names

open DsigRegistry.Path

variable {names : List Octets} {segments acc : List (List Char)}

/-- The segments that spell the names, with those octets escaped that have to be. -/
def encoded (names : List Octets) : List (List Char) :=
  names.map (Percent.encode Percent.fileNameSet)

theorem encoded_append (names names' : List Octets) :
    encoded (names ++ names') = encoded names ++ encoded names' :=
  List.map_append

theorem Alike.concat_empty (h : Alike segments (encoded names)) :
    Alike (segments ++ [[]]) (encoded (names ++ [[]])) := by
  have hempty : Alike [[]] (encoded [[]]) := rfl
  rw [encoded_append]
  exact h.append hempty

theorem map_decode_encoded (names : List Octets) : (encoded names).map Percent.decode = names := by
  rw [encoded, List.map_map, List.map_id'']
  exact fun name => (spells_encode name).decode

theorem encode_ne_nil {name : Octets} (h : name ≠ []) :
    Percent.encode Percent.fileNameSet name ≠ [] := by
  intro hnil
  have hdecode := (spells_encode name).decode
  rw [hnil] at hdecode
  exact h hdecode.symm

theorem inSegment_of_spells (h : List.Forall₂ Spells segments names) :
    ∀ segment ∈ segments, ∀ c ∈ segment, InSegment c := by
  induction h with
  | nil => simp
  | cons hsegment _ ih => exact List.forall_mem_cons.2 ⟨hsegment.inSegment, ih⟩

/-- Two spellings of names are alike. -/
theorem alike_encoded (h : List.Forall₂ Spells segments names)
    (hdrive : ∀ name ∈ names, ¬ IsDriveName name) : Alike segments (encoded names) := by
  induction h with
  | nil => rfl
  | @cons segment name segments names hsegment _ ih =>
    obtain ⟨hname, hnames⟩ := List.forall_mem_cons.1 hdrive
    have hview : view segment = view (Percent.encode Percent.fileNameSet name) := by
      rw [hsegment.view_eq hname, (spells_encode name).view_eq hname]
    have hrest : segments.map view = (encoded names).map view := ih hnames
    change view segment :: segments.map view = _ :: (encoded names).map view
    rw [hview, hrest]

theorem startsWithDrive_encoded (hdrive : ∀ name ∈ names, ¬ IsDriveName name) :
    ∀ segment ∈ encoded names, startsWithDrive segment = false := by
  intro _ hmem
  obtain ⟨name, hname, rfl⟩ := List.mem_map.1 hmem
  exact (spells_encode name).startsWithDrive_eq_false (hdrive name hname)

theorem ascend_encoded (hdrive : ∀ name ∈ names, ¬ IsDriveName name) :
    ascend (encoded names) = encoded names.dropLast := by
  have hlast : (encoded names).getLast?.any startsWithDrive = false :=
    (Option.any_eq_false _ _).2 fun segment hsegment => by
      simp [startsWithDrive_encoded hdrive segment (List.mem_of_getLast? hsegment)]
  rw [ascend, hlast, encoded, encoded, List.map_dropLast]
  rfl

/-- A segment is followed as the name that it spells. -/
theorem alike_advance {segment : List Char} {name : Octets} (hacc : Alike acc (encoded names))
    (hdrive : ∀ name ∈ names, ¬ IsDriveName name) (h : Spells segment name) (hname : name ≠ [])
    (hnew : ¬ IsDriveName name) :
    Alike (advance acc segment) (encoded (settleStep names name)) := by
  rcases name_cases name with rfl | hidle | hdown
  · rw [advance, if_pos (h.isDotDot_iff.2 rfl), settleStep_dotDot, ← ascend_encoded hdrive]
    exact hacc.ascend
  · have hdot : name = dot := hidle.resolve_left hname
    have hup : isDotDot segment ≠ true := fun hup => by
      cases (h.isDotDot_iff.1 hup).symm.trans hdot
    rw [advance, if_neg hup, if_pos (h.isDot_iff.2 hdot), settleStep_of_idle hidle]
    exact hacc
  · have hup : isDotDot segment ≠ true := fun hup => hdown.2 (h.isDotDot_iff.1 hup)
    have hdot : isDot segment ≠ true := fun hdot => hdown.1 (.inr (h.isDot_iff.1 hdot))
    have hsegment : isDrive segment = false := by
      rw [← Bool.not_eq_true]
      intro hisDrive
      cases (h.startsWithDrive_eq_false hnew).symm.trans (startsWithDrive_of_isDrive hisDrive)
    rw [advance, if_neg hup, if_neg hdot, descend_of_isDrive_eq_false true acc hsegment,
      settleStep_of_down hdown, InSegment.encodeText h.inSegment, encoded_append]
    exact hacc.append (alike_encoded (.cons h .nil) (by simpa using hnew))

theorem alike_foldl_advance {settled : List Octets} (h : List.Forall₂ Spells segments names)
    (hacc : Alike acc (encoded settled)) (hsettled : ∀ name ∈ settled, ¬ IsDriveName name)
    (hfilled : ∀ name ∈ names, name ≠ []) (hdrive : ∀ name ∈ names, ¬ IsDriveName name) :
    Alike (segments.foldl advance acc) (encoded (names.foldl settleStep settled)) := by
  induction h generalizing acc settled with
  | nil => exact hacc
  | @cons segment name segments names hsegment _ ih =>
    obtain ⟨hname, hnames⟩ := List.forall_mem_cons.1 hfilled
    obtain ⟨hnew, hrest⟩ := List.forall_mem_cons.1 hdrive
    refine ih (alike_advance hacc hsettled hsegment hname hnew) (fun name' hmem => ?_) hnames hrest
    rcases List.mem_append.1 ((settleStep_sublist settled name).subset hmem) with hmem | hmem
    · exact hsettled name' hmem
    · rwa [List.mem_singleton.1 hmem]

/-- The segments of a URL that spells names are those that are shown of them. -/
theorem alike_follow (h : List.Forall₂ Spells segments names) (hne : names ≠ [])
    (hfilled : ∀ name ∈ names.dropLast, name ≠ [])
    (hdrive : ∀ name ∈ names, ¬ IsDriveName name) :
    Alike (follow true [] segments) (encoded (shown names)) := by
  cases names using List.reverseRecOn with
  | nil => exact absurd rfl hne
  | append_singleton names last =>
    rw [List.dropLast_concat] at hfilled
    obtain ⟨segments, segment, rfl, hsegments, hlast⟩ : ∃ segments' segment,
        segments = segments' ++ [segment] ∧ List.Forall₂ Spells segments' names ∧
          Spells segment last := by
      have hdrop := List.forall₂_drop_append _ _ _ h
      obtain ⟨segment, _, hlast, hnil, hsegment⟩ := List.forall₂_cons_right_iff.1 hdrop
      cases hnil
      refine ⟨segments.take names.length, segment, ?_, List.forall₂_take_append _ _ _ h, hlast⟩
      rw [← hsegment, List.take_append_drop]
    have hfold : last ≠ [] → Alike ((segments ++ [segment]).foldl advance [])
        (encoded (settle (names ++ [last]))) := fun hfill =>
      alike_foldl_advance h rfl (by simp)
        (List.forall_mem_append.2 ⟨hfilled, by simpa using hfill⟩) hdrive
    rw [follow_concat, shown, endsOpen_concat]
    rcases name_cases last with rfl | (rfl | rfl) | hdown
    · rw [if_pos (by simp [hlast.isDotDot_iff.2 rfl]), if_pos (by decide)]
      exact (hfold (by decide)).concat_empty
    · -- An empty segment is followed like a name, and the name that it spells leads nowhere.
      rw [hlast.eq_nil, if_neg (by decide), if_pos (by decide), List.foldl_append, settle_concat,
        settleStep_of_idle (.inl rfl)]
      have hbefore : Alike (segments.foldl advance []) (encoded (settle names)) :=
        alike_foldl_advance hsegments rfl (by simp) hfilled
          fun name hname => hdrive name (List.mem_append_left _ hname)
      rw [List.foldl_cons, List.foldl_nil, advance_nil]
      exact hbefore.concat_empty
    · rw [if_pos (by simp [hlast.isDot_iff.2 rfl]), if_pos (by decide)]
      exact (hfold (by decide)).concat_empty
    · have hup : isDotDot segment ≠ true := fun hup => hdown.2 (hlast.isDotDot_iff.1 hup)
      have hdot : isDot segment ≠ true := fun hdot => hdown.1 (.inr (hlast.isDot_iff.1 hdot))
      rw [if_neg (by simp [hup, hdot]), if_neg (by simpa using hdown)]
      exact hfold fun hnil => hdown.1 (.inl hnil)

/-- The path with the names, and a slash behind them if the last could be that of a drive. -/
theorem segmentsPath_encoded (names : List Octets) :
    segmentsPath (encoded names) =
      if endsInDrive (slashed names) then slashed (names ++ [[]]) else slashed names := by
  rw [segmentsPath, map_decode_encoded, slashed_append]
  rfl

theorem fileSegments_encoded_append (hne : names ≠ []) (hfilled : ∀ name ∈ names, name ≠ [])
    (segments : List (List Char)) :
    fileSegments (encoded names ++ segments) = encoded names ++ segments := by
  obtain ⟨name, names, rfl⟩ := List.exists_cons_of_ne_nil hne
  obtain ⟨c, cs, hcons⟩ := List.exists_cons_of_ne_nil (encode_ne_nil (hfilled name (by simp)))
  have hencoded : encoded (name :: names) = (c :: cs) :: encoded names := by
    rw [encoded, List.map_cons, hcons]
    rfl
  rw [hencoded]
  rfl

/-- What is behind names in a URL is behind them in the path, and behind slashes for the segments
that would have been dropped at the start. -/
theorem exists_segmentsPath (hne : segments ≠ []) :
    ∃ m rest, segmentsPath (fileSegments segments) = slash :: rest ∧
      ∀ names ≠ [], (∀ name ∈ names, name ≠ []) →
        segmentsPath (fileSegments (encoded names ++ segments)) =
          slashed (names ++ List.replicate m []) ++ slash :: rest := by
  obtain ⟨m, hm⟩ := exists_slashed_fileSegments hne
  have hmap : (fileSegments segments).map Percent.decode ≠ [] := by
    simpa using fileSegments_ne_nil segments
  obtain ⟨rest, hrest⟩ := slashed_eq_cons hmap
  refine ⟨m, if endsInDrive (slash :: rest) then rest ++ [slash] else rest, ?_,
    fun names hnames hfilled => ?_⟩
  · rw [segmentsPath, hrest]
    split <;> rfl
  · rw [fileSegments_encoded_append hnames hfilled, segmentsPath, List.map_append,
      map_decode_encoded, slashed_append, hm, hrest, ← List.append_assoc, ← slashed_append]
    simp only [endsInDrive_append]
    split
    · rw [List.append_assoc]
      rfl
    · rfl

end Names

/-! ### URLs of files -/

/-- Nothing between the slashes is no host. -/
theorem ofFileAuthority_slash (cs : List Char) :
    ofFileAuthority ('/' :: cs) = .ok (fileUrl none [] cs) := by
  change Except.ok (fileUrl (if _ then none else none) [] cs) = _
  rw [ite_self]

/-- The URL of a file whose segments are given is read. -/
theorem parse_fileText {segments : List (List Char)} (hne : segments ≠ [])
    (h : ∀ segment ∈ segments, ∀ c ∈ segment, InSegment c) :
    parse ("file://" ++ String.ofList (segments.flatMap ('/' :: ·))) =
      .ok (ofSegments (fileSegments (follow true [] segments))) := by
  obtain ⟨first, rest, rfl⟩ := List.exists_cons_of_ne_nil hne
  obtain ⟨hfirst, hrest⟩ := List.forall_mem_cons.1 h
  -- What is behind the slash that the path starts with.
  let body := first ++ rest.flatMap ('/' :: ·)
  have hbody : ∀ c ∈ body, c = '/' ∨ InSegment c := by
    intro c hc
    rcases List.mem_append.1 hc with hc | hc
    · exact .inr (hfirst c hc)
    · obtain ⟨segment, hsegment, hc⟩ := List.mem_flatMap.1 hc
      rcases List.mem_cons.1 hc with rfl | hc
      · exact .inl rfl
      · exact .inr (hrest segment hsegment c hc)
  have htext : ("file://" ++ String.ofList ((first :: rest).flatMap ('/' :: ·))).toList =
      ['f', 'i', 'l', 'e', ':', '/', '/', '/'] ++ body := by
    simp only [String.toList_append, String.toList_ofList]
    rfl
  have hsignificant : significant (['f', 'i', 'l', 'e', ':', '/', '/', '/'] ++ body) =
      ['f', 'i', 'l', 'e', ':', '/', '/', '/'] ++ body := by
    refine significant_eq_self (List.forall_mem_append.2 ⟨by simp [isPadding], fun c hc => ?_⟩)
    rcases hbody c hc with rfl | hc
    · rfl
    · exact hc.isPadding
  have hpath : ∀ c ∈ body, endsPath c = false := by
    intro c hc
    rcases hbody c hc with rfl | hc
    · rfl
    · exact hc.endsPath
  have hpart : pathPart body = body :=
    List.takeWhile_eq_self_iff.2 fun c hc => by simp [hpath c hc]
  have hafter : afterPath body = [] :=
    List.dropWhile_eq_nil_iff.2 fun c hc => by simp [hpath c hc]
  have hsplit : splitWhere (isSeparator true) body = first :: rest :=
    splitWhere_append_flatMap rfl (fun c hc => (hfirst c hc).isSeparator)
      fun segment hsegment c hc => (hrest segment hsegment c hc).isSeparator
  have hurl : fileUrl none [] body =
      ofSegments (fileSegments (follow true [] (first :: rest))) := by
    have hspecial : isSpecial fileScheme = true := rfl
    simp only [fileUrl, withTail, followPath, hspecial, hpart, hafter, hsplit]
    rfl
  rw [parse, htext, hsignificant, ← hurl, ← ofFileAuthority_slash]
  rfl

end DsigRegistry.Url
