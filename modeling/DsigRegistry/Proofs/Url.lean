import DsigRegistry.Url.FilePath

/-!
# Schemes and hosts of URLs

A text that spells a scheme is a URL with that scheme, and a reference that spells none has the
scheme of its base. However the URL of a file was come by, its path is hierarchical and it does
not name the own host, so that it stands for a path exactly if it has no host. Main facts:
`parse_of_scheme`, `scheme_of_ofScheme`, `scheme_of_joinRelative` and `FileForm.toFilePath?_cases`.
-/

namespace DsigRegistry.Url

variable {base u : Url} {scheme cs : List Char} {names : List (List Char)} {host : Option Host}

/-- The URL is one of a file, has a hierarchical path, and does not name the own host. -/
structure FileForm (u : Url) : Prop where
  scheme : u.scheme = fileScheme
  hierarchical : ∃ names, u.route = .segments names
  host : u.host? ≠ some localHost

/-! ### What counts of a text -/

theorem not_isBreak_of_not_isPadding {c : Char} (h : isPadding c = false) : isBreak c = false := by
  rw [Bool.eq_false_iff]
  intro hbreak
  simp only [isBreak, Bool.or_eq_true, decide_eq_true_eq] at hbreak
  rcases hbreak with (rfl | rfl) | rfl <;> cases h

/-- What counts of a text behind others that count. -/
def significantEnd (cs : List Char) : List Char :=
  (cs.reverse.dropWhile isPadding).reverse.filter (!isBreak ·)

theorem dropWhile_isPadding_eq_self (h : ∀ c ∈ cs.head?, isPadding c = false) :
    cs.dropWhile isPadding = cs := by
  cases cs with
  | nil => rfl
  | cons c cs => exact List.dropWhile_cons_of_neg (by simp [h c rfl])

/-- Characters in front that are no padding count, and so does what they keep from being in
front. -/
theorem significant_append (hne : cs ≠ []) (h : ∀ c ∈ cs, isPadding c = false)
    (rest : List Char) : significant (cs ++ rest) = cs ++ significantEnd rest := by
  have hfront : (cs ++ rest).dropWhile isPadding = cs ++ rest := by
    apply dropWhile_isPadding_eq_self
    obtain ⟨c, cs, rfl⟩ := List.exists_cons_of_ne_nil hne
    intro d hd
    cases hd
    exact h c List.mem_cons_self
  have hself : cs.reverse.dropWhile isPadding = cs.reverse := by
    apply dropWhile_isPadding_eq_self
    intro c hc
    exact h c (List.mem_reverse.1 (List.mem_of_mem_head? hc))
  have hback : (cs ++ rest).reverse.dropWhile isPadding =
      rest.reverse.dropWhile isPadding ++ cs.reverse := by
    rw [List.reverse_append, List.dropWhile_append, hself]
    split
    next hempty => rw [List.isEmpty_iff.1 hempty, List.nil_append]
    next => rfl
  have hkept : cs.filter (!isBreak ·) = cs := by
    rw [List.filter_eq_self]
    intro c hc
    simp [not_isBreak_of_not_isPadding (h c hc)]
  rw [significant, hfront, hback, List.reverse_append, List.reverse_reverse, List.filter_append,
    hkept, significantEnd]

/-- A character in front that is no padding counts. -/
theorem significant_cons {c : Char} (h : isPadding c = false) (cs : List Char) :
    significant (c :: cs) = c :: significantEnd cs :=
  significant_append (List.cons_ne_nil c []) (by simpa using h) cs

theorem significant_eq_self (h : ∀ c ∈ cs, isPadding c = false) : significant cs = cs := by
  cases cs with
  | nil => rfl
  | cons c cs =>
    have happend := significant_append (List.cons_ne_nil c cs) h []
    rw [List.append_nil] at happend
    exact happend.trans (List.append_nil _)

/-! ### Schemes in front of texts -/

/-- The character occurs in schemes. -/
def IsSchemeChar (c : Char) : Prop :=
  c.isAlphanum = true ∨ c = '+' ∨ c = '-' ∨ c = '.'

/-- The text is a scheme: a letter, and behind it letters, digits, `+`, `-` and `.`. -/
def IsScheme : List Char → Prop
  | [] => False
  | c :: cs => c.isAlpha = true ∧ ∀ d ∈ cs, IsSchemeChar d

instance (c : Char) : Decidable (IsSchemeChar c) :=
  inferInstanceAs (Decidable (_ ∨ _))

theorem IsSchemeChar.isPadding {c : Char} (h : IsSchemeChar c) : isPadding c = false := by
  have hall : ∀ n ≤ 0x20, ¬IsSchemeChar (Char.ofNat n) := by decide
  rw [Url.isPadding, decide_eq_false_iff_not]
  intro hc
  apply hall c.toNat hc
  rwa [Char.ofNat_toNat]

theorem IsScheme.isSchemeChar (h : IsScheme scheme) : ∀ c ∈ scheme, IsSchemeChar c := by
  cases scheme with
  | nil => simp
  | cons c cs =>
    refine List.forall_mem_cons.2 ⟨.inl ?_, h.2⟩
    rw [Char.isAlphanum, h.1, Bool.true_or]

theorem schemeTail?_append {rest : List Char} (h : ∀ c ∈ cs, IsSchemeChar c) :
    schemeTail? (cs ++ ':' :: rest) = some (cs.map Char.toLower, rest) := by
  induction cs with
  | nil => rfl
  | cons c cs ih =>
    obtain ⟨hc, hcs⟩ := List.forall_mem_cons.1 h
    have hcolon : c ≠ ':' := by
      rintro rfl
      simp [IsSchemeChar] at hc
    have hscheme : (c.isAlphanum || c = '+' || c = '-' || c = '.') = true := by
      simpa [IsSchemeChar, or_assoc] using hc
    rw [List.cons_append, schemeTail?, if_neg hcolon, if_pos hscheme, ih hcs]
    rfl

/-- A text that starts with a scheme and a colon is a URL exactly if what is behind them is one of
that scheme. -/
theorem parse_of_scheme {s : String} {rest : List Char} (hscheme : IsScheme scheme)
    (h : s.toList = scheme ++ ':' :: rest) :
    parse s = ofScheme (scheme.map Char.toLower) (significantEnd rest) := by
  have hpadding : ∀ d ∈ scheme ++ [':'], isPadding d = false := by
    refine List.forall_mem_append.2 ⟨fun d hd => (hscheme.isSchemeChar d hd).isPadding, ?_⟩
    simp [isPadding]
  have hsignificant : significant s.toList = scheme ++ ':' :: significantEnd rest := by
    have happend := significant_append (by simp) hpadding rest
    rw [List.append_assoc, List.append_assoc] at happend
    rw [h]
    exact happend
  cases scheme with
  | nil => exact hscheme.elim
  | cons c cs =>
    have hsplit : splitScheme? (c :: cs ++ ':' :: significantEnd rest) =
        some ((c :: cs).map Char.toLower, significantEnd rest) := by
      rw [List.cons_append, splitScheme?, if_pos hscheme.1, schemeTail?_append hscheme.2]
      rfl
    rw [parse, hsignificant, hsplit]

/-! ### URLs of files -/

theorem fileForm_fileUrl (h : host ≠ some localHost) (names : List (List Char))
    (cs : List Char) : (fileUrl host names cs).FileForm :=
  ⟨rfl, ⟨_, rfl⟩, h⟩

@[simp] theorem isFile_ofSegments (names : List (List Char)) : (ofSegments names).isFile = true :=
  rfl

theorem fileForm_ofSegments (names : List (List Char)) : (ofSegments names).FileForm :=
  ⟨rfl, ⟨_, rfl⟩, nofun⟩

theorem FileForm.withTail (h : base.FileForm) (cs : List Char) : (base.withTail cs).FileForm :=
  ⟨h.scheme, h.hierarchical, h.host⟩

theorem none_ne_localHost : (none : Option Host) ≠ some localHost :=
  (Option.some_ne_none localHost).symm

theorem FileForm.withPath (h : base.FileForm) (names : List (List Char)) (cs : List Char) :
    (base.withPath names cs).FileForm := by
  have hfile : base.isFile = true := decide_eq_true h.scheme
  rw [Url.withPath, if_pos hfile]
  split
  · exact fileForm_fileUrl none_ne_localHost _ cs
  · exact fileForm_fileUrl h.host names cs

theorem FileForm.joinRooted (h : base.FileForm) (names : List (List Char)) (cs : List Char) :
    (base.joinRooted names cs).FileForm := by
  unfold Url.joinRooted
  split
  · exact fileForm_fileUrl none_ne_localHost _ cs
  · exact h.withPath [] cs

theorem ne_localHost_of_fileHost (h : fileHost cs = .ok host) : host ≠ some localHost := by
  unfold fileHost at h
  split at h
  · cases h
    exact none_ne_localHost
  · cases hparse : Host.parse cs with
    | error fault =>
      rw [hparse] at h
      cases h
    | ok host' =>
      rw [hparse] at h
      cases h
      by_cases hlocal : host' = localHost <;> simp [hlocal]

theorem fileForm_of_ofFileAuthority (h : ofFileAuthority cs = .ok u) : u.FileForm := by
  unfold ofFileAuthority at h
  dsimp only at h
  split at h
  · cases h
    exact fileForm_fileUrl none_ne_localHost _ cs
  · cases hhost : fileHost (cs.takeWhile (!endsAuthority true ·)) with
    | error fault =>
      rw [hhost] at h
      cases h
    | ok host =>
      rw [hhost] at h
      cases h
      refine fileForm_fileUrl ?_ _ _
      split
      · exact none_ne_localHost
      · exact ne_localHost_of_fileHost hhost

theorem fileForm_of_ofFile (h : ofFile cs = .ok u) : u.FileForm := by
  unfold ofFile at h
  split at h
  · split at h
    · exact fileForm_of_ofFileAuthority h
    · cases h
      exact fileForm_fileUrl none_ne_localHost _ _
  · cases h
    exact fileForm_fileUrl none_ne_localHost _ _

/-- The URL of a file stands for a path exactly if it has no host. -/
theorem FileForm.toFilePath?_cases (h : u.FileForm) :
    (∃ path, u.toFilePath? = some path) ∧ u.host? = none ∨
      u.toFilePath? = none ∧ ∃ host, u.host? = some host ∧ host ≠ localHost := by
  obtain ⟨names, hnames⟩ := h.hierarchical
  unfold toFilePath?
  rw [hnames]
  cases hhost : u.host? with
  | none => exact .inl ⟨⟨_, rfl⟩, rfl⟩
  | some host => exact .inr ⟨rfl, host, rfl, fun heq => h.host (hhost.trans (congrArg some heq))⟩

/-! ### Schemes -/

theorem scheme_of_ofAuthority (h : ofAuthority scheme cs = .ok u) : u.scheme = scheme := by
  unfold ofAuthority at h
  cases hread : readAuthority scheme cs with
  | error fault =>
    rw [hread] at h
    cases h
  | ok outcome =>
    rw [hread] at h
    cases h
    rfl

theorem scheme_of_ofGeneral (h : ofGeneral scheme cs = .ok u) : u.scheme = scheme := by
  unfold ofGeneral at h
  split at h
  · exact scheme_of_ofAuthority h
  · cases h
    rfl
  · cases h
    rfl

/-- A text with a scheme is a URL with that scheme. -/
theorem scheme_of_ofScheme (h : ofScheme scheme cs = .ok u) : u.scheme = scheme := by
  unfold ofScheme at h
  split at h
  next hfile => rw [(fileForm_of_ofFile h).scheme, hfile]
  next =>
    split at h
    · exact scheme_of_ofAuthority h
    · exact scheme_of_ofGeneral h

theorem fileForm_of_ofScheme (h : ofScheme scheme cs = .ok u) (hfile : u.scheme = fileScheme) :
    u.FileForm := by
  have hscheme : scheme = fileScheme := (scheme_of_ofScheme h).symm.trans hfile
  rw [ofScheme, if_pos hscheme] at h
  exact fileForm_of_ofFile h

/-- A text that is a URL by itself has that URL's scheme. -/
theorem parse_eq_ok {s : String} (h : parse s = .ok u) :
    ∃ rest, splitScheme? (significant s.toList) = some (u.scheme, rest) ∧
      ofScheme u.scheme rest = .ok u := by
  unfold parse at h
  split at h
  next scheme rest hsplit =>
    rw [scheme_of_ofScheme h]
    exact ⟨rest, hsplit, h⟩
  next => cases h

theorem fileForm_of_parse {s : String} (h : parse s = .ok u) (hfile : u.scheme = fileScheme) :
    u.FileForm := by
  obtain ⟨rest, -, hscheme⟩ := parse_eq_ok h
  exact fileForm_of_ofScheme hscheme hfile

/-! ### References -/

theorem scheme_withPath (base : Url) (names : List (List Char)) (cs : List Char) :
    (base.withPath names cs).scheme = base.scheme := by
  unfold withPath
  split
  next hfile =>
    rw [of_decide_eq_true hfile]
    split <;> rfl
  next => rfl

theorem scheme_joinRooted (base : Url) (names : List (List Char)) (cs : List Char) :
    (base.joinRooted names cs).scheme = base.scheme := by
  unfold joinRooted
  split
  next hdrive =>
    simp only [Bool.and_eq_true] at hdrive
    exact (of_decide_eq_true hdrive.1.1).symm
  next => exact scheme_withPath base [] cs

theorem scheme_of_joinAuthority (h : joinAuthority base cs = .ok u) : u.scheme = base.scheme := by
  unfold joinAuthority at h
  split at h
  next hfile => rw [(fileForm_of_ofFileAuthority h).scheme, of_decide_eq_true hfile]
  next =>
    split at h
    · exact scheme_of_ofAuthority h
    · exact scheme_of_ofAuthority h

/-- A reference without a scheme has that of its base. -/
theorem scheme_of_joinRelative (h : joinRelative base cs = .ok u) : u.scheme = base.scheme := by
  unfold joinRelative at h
  split at h
  · cases h
    rfl
  · cases h
  · cases h
    rfl
  · cases h
    rfl
  · split at h
    · split at h
      · exact scheme_of_joinAuthority h
      · cases h
        exact scheme_joinRooted base _ _
    · cases h
      exact scheme_withPath base _ _

theorem FileForm.joinRelative (hbase : base.FileForm) (h : joinRelative base cs = .ok u) :
    u.FileForm := by
  unfold Url.joinRelative at h
  split at h
  · cases h
    exact ⟨hbase.scheme, hbase.hierarchical, hbase.host⟩
  · cases h
  · cases h
    exact ⟨hbase.scheme, hbase.hierarchical, hbase.host⟩
  · cases h
    exact hbase.withTail _
  · split at h
    · split at h
      · have hfile : base.isFile = true := decide_eq_true hbase.scheme
        unfold joinAuthority at h
        rw [if_pos hfile] at h
        exact fileForm_of_ofFileAuthority h
      · cases h
        exact hbase.joinRooted _ _
    · cases h
      exact hbase.withPath _ _

/-- What is no URL by itself is joined as a reference without a scheme. -/
theorem join_eq_ok {s : String} {fault : Fault} (hparse : parse s = .error fault)
    (h : base.join s = .ok u) : Url.joinRelative base (significant s.toList) = .ok u := by
  unfold join at h
  unfold parse at hparse
  cases hsplit : splitScheme? (significant s.toList) with
  | none =>
    rw [hsplit] at h
    exact h
  | some split =>
    rw [hsplit] at h hparse
    cases h.symm.trans hparse

end DsigRegistry.Url
