import DsigRegistry.Proofs.Outline
import DsigRegistry.Proofs.Traced
import DsigRegistry.Proofs.Url
import DsigRegistry.Resource.LocalFile

/-!
# Local files and other references

The resolver for local files decides what it claims from two spellings, and what it reads from
one URL. The two agree. A reference whose URL has another scheme or a host does not reach any
file, whether it is the reference that has it or the base. Main fact: `claims_and_reads`.
-/

namespace DsigRegistry

theorem schemeOf?_of_ok {s : String} {u : Url} (h : Url.parse s = .ok u) :
    schemeOf? s = some (String.ofList u.scheme) := by
  rw [schemeOf?, h]

theorem schemeOf?_of_error {s : String} {fault : Url.Fault} (h : Url.parse s = .error fault) :
    schemeOf? s = none := by
  rw [schemeOf?, h]

/-- The URL has no host, or the own one. -/
def Url.IsLocal (u : Url) : Prop :=
  u.host? = none ∨ u.host? = some Url.localHost

namespace LocalFile

variable {fs fs' : FileSystem} {r : Reference} {u base : Url}

theorem schemeName_eq : schemeName = String.ofList Url.fileScheme := rfl

theorem ofList_eq_schemeName (scheme : List Char) :
    (String.ofList scheme == schemeName) = true ↔ scheme = Url.fileScheme := by
  rw [beq_iff_eq, schemeName_eq, String.ofList_inj]

/-! ### Bases -/

theorem fileForm_of_directoryUrl {path : Octets} (h : directoryUrl path = .ok u) :
    u.FileForm := by
  unfold directoryUrl Url.ofDirectoryPath? at h
  split at h
  · cases h
    exact Url.fileForm_ofSegments _
  · cases h

theorem fileForm_of_pathUrl {path : String} (h : pathUrl fs path = .ok u) : u.FileForm := by
  unfold pathUrl Url.ofFilePath? at h
  dsimp only at h
  split at h
  · cases h
  · split at h
    · exact fileForm_of_directoryUrl h
    · split at h
      · cases h
        exact Url.fileForm_ofSegments _
      · cases h

/-- Completing a URL as a base makes no difference to its scheme. -/
theorem scheme_of_asBase (h : asBase fs u = .ok base) : base.scheme = u.scheme := by
  unfold asBase at h
  split at h
  next hfile =>
    have hu : u.scheme = Url.fileScheme := of_decide_eq_true hfile
    split at h
    · split at h
      · rw [hu, (fileForm_of_directoryUrl h).scheme]
      · cases h
        rfl
    · cases h
      rfl
  next =>
    cases h
    rfl

theorem fileForm_of_asBase (hu : u.FileForm) (h : asBase fs u = .ok base) : base.FileForm := by
  unfold asBase at h
  split at h
  · split at h
    · split at h
      · exact fileForm_of_directoryUrl h
      · cases h
        exact hu
    · cases h
      exact hu
  · cases h
    exact hu

/-- The base is a URL by itself, whose scheme it keeps, or it is no URL and stands for a file. -/
theorem baseUrl_cases {spelled : Option String} (h : baseUrl fs spelled = .ok base) :
    (∃ s v, spelled = some s ∧ Url.parse s = .ok v ∧ asBase fs v = .ok base) ∨
      (∀ s, spelled = some s → schemeOf? s = none) ∧ base.FileForm := by
  unfold baseUrl at h
  cases spelled with
  | none =>
    dsimp only at h
    split at h
    · cases h
    · exact .inr ⟨nofun, fileForm_of_directoryUrl h⟩
  | some s =>
    dsimp only at h
    split at h
    next v hparse => exact .inl ⟨s, v, rfl, hparse, h⟩
    next hparse =>
      refine .inr ⟨?_, fileForm_of_pathUrl h⟩
      intro s' hs'
      cases hs'
      exact schemeOf?_of_error hparse
    next => cases h

theorem fileForm_of_baseUrl {spelled : Option String} (h : baseUrl fs spelled = .ok base)
    (hfile : base.scheme = Url.fileScheme) : base.FileForm := by
  rcases baseUrl_cases h with ⟨s, v, -, hparse, hbase⟩ | ⟨-, hform⟩
  · have hv : v.FileForm := Url.fileForm_of_parse hparse ((scheme_of_asBase hbase).symm.trans hfile)
    exact fileForm_of_asBase hv hbase
  · exact hform

/-! ### The URL of a reference -/

/-- A reference is a URL by itself, or it is joined to its base. -/
theorem url_cases (h : url fs r = .ok u) :
    Url.parse r.uri = .ok u ∨
      r.scheme? = none ∧ ∃ base, baseUrl fs r.base = .ok base ∧
        base.joinRelative (Url.significant r.uri.toList) = .ok u := by
  unfold url at h
  split at h
  next v hparse =>
    cases h
    exact .inl hparse
  next hparse =>
    refine .inr ⟨schemeOf?_of_error hparse, ?_⟩
    split at h
    next => cases h
    next base hbase =>
      split at h
      next v hjoin =>
        cases h
        exact ⟨base, hbase, Url.join_eq_ok hparse hjoin⟩
      next => cases h
  next => cases h

theorem fileForm_of_url (h : url fs r = .ok u) (hfile : u.scheme = Url.fileScheme) :
    u.FileForm := by
  rcases url_cases h with hparse | ⟨-, base, hbase, hjoin⟩
  · exact Url.fileForm_of_parse hparse hfile
  · have hscheme : base.scheme = Url.fileScheme :=
      (Url.scheme_of_joinRelative hjoin).symm.trans hfile
    exact (fileForm_of_baseUrl hbase hscheme).joinRelative hjoin

/-! ### Claims -/

/-- The base has no scheme but that of files. -/
def OnFiles (base : Option String) : Prop :=
  ∀ scheme ∈ base.bind schemeOf?, scheme = schemeName

theorem onFiles_of_ok {s : String} (h : Url.parse s = .ok u) :
    OnFiles (some s) ↔ u.scheme = Url.fileScheme := by
  rw [← ofList_eq_schemeName, beq_iff_eq]
  simp [OnFiles, schemeOf?_of_ok h]

theorem onFiles_iff {spelled : Option String} (h : baseUrl fs spelled = .ok base) :
    OnFiles spelled ↔ base.scheme = Url.fileScheme := by
  rcases baseUrl_cases h with ⟨s, v, rfl, hparse, hbase⟩ | ⟨hnone, hform⟩
  · rw [onFiles_of_ok hparse, scheme_of_asBase hbase]
  · refine iff_of_true ?_ hform.scheme
    intro scheme hscheme
    obtain ⟨s, hs, hscheme⟩ := Option.bind_eq_some_iff.1 hscheme
    cases (hnone s hs).symm.trans hscheme

/-- A reference that is a URL is claimed for its scheme. -/
theorem claims_of_ok (hr : r.isSameDocument = false) (h : Url.parse r.uri = .ok u) :
    claims r = true ↔ u.scheme = Url.fileScheme := by
  unfold claims
  rw [if_neg (by simp [hr]), Reference.scheme?, schemeOf?_of_ok h]
  exact ofList_eq_schemeName u.scheme

/-- A reference without a scheme is claimed for its base, unless it is to the same document. -/
theorem claims_of_no_scheme (h : r.scheme? = none) :
    claims r = true ↔ r.isSameDocument = false ∧ OnFiles r.base := by
  unfold claims
  cases r.isSameDocument with
  | true => simp
  | false =>
    simp only [h, Bool.false_eq_true, if_false, true_and]
    cases hbase : r.base with
    | none => simp [OnFiles]
    | some s => cases hscheme : schemeOf? s <;> simp [OnFiles, hscheme]

/-- What the resolver claims are the references, other than to the same document, to URLs of
files. -/
theorem claims_iff (hr : r.isSameDocument = false) (h : url fs r = .ok u) :
    claims r = true ↔ u.scheme = Url.fileScheme := by
  rcases url_cases h with hparse | ⟨hnone, base, hbase, hjoin⟩
  · exact claims_of_ok hr hparse
  · rw [claims_of_no_scheme hnone, onFiles_iff hbase, Url.scheme_of_joinRelative hjoin]
    exact and_iff_right hr

/-! ### The path of a reference -/

/-- A reference has a path exactly if its URL is one of a file and is local. -/
theorem path_iff (h : url fs r = .ok u) :
    (∃ p, path fs r = .ok p) ↔ u.scheme = Url.fileScheme ∧ u.IsLocal := by
  unfold path
  rw [h]
  by_cases hfile : u.scheme = Url.fileScheme
  · have hisFile : u.isFile = true := decide_eq_true hfile
    simp only [hisFile, if_true]
    rcases (fileForm_of_url h hfile).toFilePath?_cases with
      ⟨⟨p, hp⟩, hhost⟩ | ⟨hnone, host, hhost, hne⟩
    · rw [hp]
      exact iff_of_true ⟨p, rfl⟩ ⟨hfile, .inl hhost⟩
    · rw [hnone]
      refine iff_of_false nofun ?_
      rintro ⟨-, hlocal | hlocal⟩
      · cases hhost.symm.trans hlocal
      · exact hne (Option.some.inj (hhost.symm.trans hlocal))
  · have hisFile : u.isFile = false := decide_eq_false hfile
    simp only [hisFile, Bool.false_eq_true, if_false]
    exact iff_of_false nofun fun hlocal => hfile hlocal.1

/-- Where a reference leads does not depend on what the files hold. -/
theorem path_congr (h : fs.outline = fs'.outline) (r : Reference) : path fs r = path fs' r := by
  have hdirectory := FileSystem.isDirectory_congr h
  have hcurrent := FileSystem.currentDirectory_congr h
  have hbase : baseUrl fs = baseUrl fs' := by
    funext spelled
    unfold baseUrl pathUrl asBase
    rw [hdirectory, hcurrent]
  unfold path url
  rw [hbase]

theorem resolve_of_error {e : Error} (h : path fs r = .error e) (j : Journal) :
    resolve fs r j = (.error e, j) := by
  unfold resolve
  rw [h]
  rfl

/-- Unless a reference is one to the same document, the resolver claims it exactly if its URL, if
it has one, is of the scheme for files, and finds a path for it exactly if the URL moreover has no
host but the own one. Where it finds none, it fails and does nothing else, in the same way
whatever the files hold; so it does wherever the URL has another scheme or a host of its own. -/
theorem claims_and_reads (fs : FileSystem) (r : Reference) (hr : r.isSameDocument = false) :
    (∀ u, url fs r = .ok u →
      (claims r = true ↔ u.scheme = Url.fileScheme) ∧
      ((∃ p, path fs r = .ok p) ↔ u.scheme = Url.fileScheme ∧ u.IsLocal)) ∧
    (∀ e, path fs r = .error e → ∀ fs', fs'.outline = fs.outline →
      ∀ j, resolve fs' r j = (.error e, j)) ∧
    (∀ u, url fs r = .ok u → ¬(u.scheme = Url.fileScheme ∧ u.IsLocal) →
      ∃ e, ∀ fs', fs'.outline = fs.outline → ∀ j, resolve fs' r j = (.error e, j)) := by
  have hfails : ∀ e, path fs r = .error e → ∀ fs', fs'.outline = fs.outline →
      ∀ j, resolve fs' r j = (.error e, j) := by
    intro e he fs' hfs' j
    exact resolve_of_error ((path_congr hfs' r).trans he) j
  refine ⟨fun u hu => ⟨claims_iff hr hu, path_iff hu⟩, hfails, ?_⟩
  intro u hu hremote
  cases hpath : path fs r with
  | ok p => exact absurd ((path_iff hu).1 ⟨p, hpath⟩) hremote
  | error e => exact ⟨e, hfails e hpath⟩

/-- A file system with one file, `/etc/name`. -/
def exampleFiles (contents : Octets) : FileSystem where
  root := .directory [(Text.Utf8.encode "etc",
    .directory [(Text.Utf8.encode "name", .file contents)])]
  workingDirectory := []

/-- A reference whose base has a host. -/
def remoteReference : Reference := ⟨"name", some "file://remote/etc/"⟩

/-- A host that comes from the base keeps a reference that the resolver claims from the file of
the same path. -/
theorem claims_and_reads_remote_base :
    remoteReference.isSameDocument = false ∧ claims remoteReference = true ∧
      ∃ e, ∀ contents j, resolve (exampleFiles contents) remoteReference j = (.error e, j) := by
  have hurl : url (exampleFiles []) remoteReference =
      .ok ⟨Url.fileScheme, some { host := some (.domain ['r', 'e', 'm', 'o', 't', 'e']) },
        .segments [['e', 't', 'c'], ['n', 'a', 'm', 'e']], none, none⟩ := by rfl
  obtain ⟨hagree, -, hremote⟩ := claims_and_reads (exampleFiles []) remoteReference rfl
  refine ⟨rfl, (hagree _ hurl).1.2 rfl, ?_⟩
  obtain ⟨e, he⟩ := hremote _ hurl (by rintro ⟨-, h | h⟩ <;> cases h)
  exact ⟨e, fun contents => he (exampleFiles contents) rfl⟩

end LocalFile

end DsigRegistry
