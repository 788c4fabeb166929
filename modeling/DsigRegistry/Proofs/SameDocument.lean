import DsigRegistry.Proofs.BasePath
import DsigRegistry.Proofs.Chain

/-!
# References to the same document

A reference of which nothing counts, or a fragment, is one to the document that contains it. It is
not followed, unless there is padding in front of it: such a reference is claimed for its base and
answered with what the file of the base holds. Main facts: `claims_fragment_iff` and
`padded_fragment_read_as_base`.
-/

namespace DsigRegistry

/-- What counts of the reference is nothing or a fragment. -/
def Reference.IsFragment (r : Reference) : Prop :=
  ∀ c ∈ (Url.significant r.uri.toList).head?, c = '#'

/-- The resolver is there in the scope, and no other. -/
structure Registry.HasOnly (resolvers : Registry ResourceResolver) (scope : ResolverScope)
    (x : ResourceResolver) : Prop where
  present : ∃ e ∈ resolvers.entries, scope.allows e.1 = true ∧ e.2.Makes x
  sole : ∀ e ∈ resolvers.entries, scope.allows e.1 = true → ∀ n y, e.2.factory.build n = .ok y →
    y = x

namespace Url

variable {base : Url} {cs : List Char}

theorem splitScheme?_fragment (h : ∀ c ∈ cs.head?, c = '#') : splitScheme? cs = none := by
  cases cs with
  | nil => rfl
  | cons c cs =>
    obtain rfl := h c rfl
    rfl

/-- Behind a hierarchical base, a fragment replaces the fragment, and so does nothing at all. -/
theorem joinRelative_fragment (hbase : base.FileForm) (h : ∀ c ∈ cs.head?, c = '#') :
    ∃ fragment, base.joinRelative cs = .ok { base with fragment } := by
  obtain ⟨names, hnames⟩ := hbase.hierarchical
  cases cs with
  | nil =>
    unfold joinRelative
    rw [hnames]
    exact ⟨none, rfl⟩
  | cons c cs =>
    obtain rfl := h c rfl
    exact ⟨fragmentPart? ('#' :: cs), rfl⟩

end Url

namespace LocalFile

open Url

variable {fs : FileSystem} {r : Reference} {base : Url}

/-! ### What is claimed -/

theorem parse_fragment (h : r.IsFragment) : parse r.uri = .error .noBase := by
  rw [parse, splitScheme?_fragment h]

/-- A fragment is only taken for one if it is not padded. -/
theorem isSameDocument_fragment_iff (h : r.IsFragment) :
    r.isSameDocument = false ↔ ∃ c ∈ r.uri.toList.head?, isPadding c = true := by
  unfold Reference.IsFragment at h
  unfold Reference.isSameDocument
  cases htext : r.uri.toList with
  | nil => simp
  | cons c cs =>
    cases hpadding : isPadding c with
    | true =>
      have hc : c ≠ '#' := by
        rintro rfl
        cases hpadding
      simp [hc, hpadding]
    | false =>
      rw [htext, significant_cons hpadding] at h
      obtain rfl := h c rfl
      simp [hpadding]

theorem claims_fragment_iff (h : r.IsFragment) :
    claims r = true ↔ (∃ c ∈ r.uri.toList.head?, isPadding c = true) ∧ OnFiles r.base := by
  rw [claims_of_no_scheme (schemeOf?_of_error (parse_fragment h)), isSameDocument_fragment_iff h]

/-! ### What is read -/

theorem url_fragment (h : r.IsFragment) (hbase : baseUrl fs r.base = .ok base)
    (hform : base.FileForm) : ∃ fragment, url fs r = .ok { base with fragment } := by
  obtain ⟨fragment, hjoin⟩ := joinRelative_fragment hform h
  have hurl : base.join r.uri = .ok { base with fragment } := by
    rw [Url.join, splitScheme?_fragment h]
    exact hjoin
  exact ⟨fragment, by simp only [url, parse_fragment h, hbase, hurl]⟩

/-- A fragment leads where its base leads. -/
theorem path_fragment (h : r.IsFragment) (hbase : baseUrl fs r.base = .ok base)
    (hform : base.FileForm) :
    (∀ p, base.toFilePath? = some p → path fs r = .ok p) ∧
      (base.toFilePath? = none → ∃ e, path fs r = .error e) := by
  obtain ⟨fragment, hurl⟩ := url_fragment h hbase hform
  have hfile : ({ base with fragment } : Url).isFile = true := decide_eq_true hform.scheme
  have hsame : ({ base with fragment } : Url).toFilePath? = base.toFilePath? := rfl
  constructor
  · intro p hp
    simp only [path, hurl, hfile, hsame, hp, if_true]
  · intro hnone
    refine ⟨invalid { base with fragment }.text "not a local file path", ?_⟩
    simp only [path, hurl, hfile, hsame, hnone, if_true]

theorem path_fragment_of_error {e : Error} (h : r.IsFragment)
    (hbase : baseUrl fs r.base = .error e) : path fs r = .error e := by
  simp only [path, url, parse_fragment h, hbase]

/-- A base that is the URL of a file, and not of a directory, is a reference to that file. -/
theorem path_of_base {s : String} {p : Octets} (hparse : parse s = .ok base)
    (hform : base.FileForm) (hp : base.toFilePath? = some p)
    (hdirectory : fs.isDirectory p = false) :
    baseUrl fs (some s) = .ok base ∧ path fs ⟨s, none⟩ = .ok p := by
  have hfile : base.isFile = true := decide_eq_true hform.scheme
  constructor
  · simp only [baseUrl, hparse, asBase, hfile, hp, hdirectory, if_true, Bool.false_eq_true,
      if_false]
  · simp only [path, url, hparse, hfile, hp, if_true]

/-- Where the resolver for local files is the only one, a fragment is unresolvable, unless there
is padding in front of it. Then the answer is what the file of the base holds, or the error that
the base leads to no file. If the base is the URL of a file, and not of a directory, the answer is
the one to a reference to that file. -/
theorem padded_fragment_read_as_base (fs : FileSystem) (r : Reference) (h : r.IsFragment)
    (resolvers : Registry ResourceResolver) (scope : ResolverScope)
    (honly : resolvers.HasOnly scope (resolver fs)) (j : Journal) :
    (claims r = true ↔ (∃ c ∈ r.uri.toList.head?, isPadding c = true) ∧ OnFiles r.base) ∧
    (claims r = false →
      (resolveResource resolvers r scope j).1 = .error (.unresolvable r.uri)) ∧
    (claims r = true →
      (∀ base p, baseUrl fs r.base = .ok base → base.toFilePath? = some p →
        (resolveResource resolvers r scope j).1 = (fs.readOctets p).mapError .io) ∧
      (∀ base, baseUrl fs r.base = .ok base → base.toFilePath? = none →
        ∃ e, (resolveResource resolvers r scope j).1 = .error e) ∧
      (∀ e, baseUrl fs r.base = .error e →
        (resolveResource resolvers r scope j).1 = .error e) ∧
      ∀ s v p, r.base = some s → parse s = .ok v → v.toFilePath? = some p →
        fs.isDirectory p = false →
        (resolveResource resolvers r scope j).1 = (resolve fs ⟨s, none⟩ j).1) := by
  refine ⟨claims_fragment_iff h, ?_, ?_⟩
  · intro hclaims
    apply resolveResource_of_none
    intro e he hallowed n x hx
    rw [honly.sole e he hallowed n x hx]
    exact hclaims
  · intro hclaims
    have hfiles : OnFiles r.base := ((claims_fragment_iff h).1 hclaims).2
    have hform : ∀ base, baseUrl fs r.base = .ok base → base.FileForm := by
      intro base hbase
      exact fileForm_of_baseUrl hbase ((onFiles_iff hbase).1 hfiles)
    obtain ⟨j', hanswer⟩ := resolveResource_of_sole (r := resolvers)
      (fun e he hallowed n y hy _ => honly.sole e he hallowed n y hy) honly.present hclaims j
    change _ = resolve fs r j' at hanswer
    have hread : ∀ base p, baseUrl fs r.base = .ok base → base.toFilePath? = some p →
        (resolveResource resolvers r scope j).1 = (fs.readOctets p).mapError .io := by
      intro base p hbase hp
      rw [hanswer, resolve_of_path ((path_fragment h hbase (hform base hbase)).1 p hp)]
    refine ⟨hread, ?_, ?_, ?_⟩
    · intro base hbase hnone
      obtain ⟨e, hpath⟩ := (path_fragment h hbase (hform base hbase)).2 hnone
      exact ⟨e, by rw [hanswer, resolve_of_error hpath]⟩
    · intro e hbase
      rw [hanswer, resolve_of_error (path_fragment_of_error h hbase)]
    · intro s v p hs hparse hp hdirectory
      have hv : v.FileForm := fileForm_of_parse hparse ((onFiles_of_ok hparse).1 (hs ▸ hfiles))
      obtain ⟨hbase, hpath⟩ := path_of_base hparse hv hp hdirectory
      rw [hread v p (hs ▸ hbase) hp, resolve_of_path hpath]

/-- A registry with the resolver for local files and no other. -/
def localFileOnly (fs : FileSystem) : Registry ResourceResolver :=
  ⟨.resourceResolver, [("local", ⟨"local", none, .const (.host 0) (resolver fs)⟩)]⟩

theorem hasOnly_localFileOnly (fs : FileSystem) :
    (localFileOnly fs).HasOnly .unrestricted (resolver fs) where
  present := ⟨_, List.mem_cons_self, rfl, fun _ => rfl⟩
  sole := by
    intro e he _ n y hy
    rw [List.mem_singleton.1 he] at hy
    exact (Except.ok.inj hy).symm

/-- A tab, of which nothing counts, in a document that is a file. -/
def tabReference : Reference := ⟨"\t", some "file:///etc/name"⟩

/-- The reference is answered with the whole document. -/
theorem padded_fragment_read_as_base_tab :
    tabReference.IsFragment ∧ claims tabReference = true ∧
      ∀ contents j, (resolveResource (localFileOnly (exampleFiles contents)) tabReference
        .unrestricted j).1 = .ok contents := by
  have hfragment : tabReference.IsFragment := nofun
  have hclaims : claims tabReference = true := rfl
  refine ⟨hfragment, hclaims, ?_⟩
  intro contents j
  obtain ⟨-, -, hread⟩ := padded_fragment_read_as_base (exampleFiles contents) tabReference
    hfragment _ .unrestricted (hasOnly_localFileOnly _) j
  exact (hread hclaims).1 _ _ rfl rfl

/-- A fragment behind a space is answered with the whole document as well. -/
theorem claims_padded_fragment :
    let r : Reference := ⟨" #id", some "file:///etc/name"⟩
    Url.significant r.uri.toList = ['#', 'i', 'd'] ∧ claims r = true ∧
      ∀ contents, (resolveResource (localFileOnly (exampleFiles contents)) r .unrestricted []).1 =
        .ok contents := by
  refine ⟨rfl, rfl, fun contents => rfl⟩

end LocalFile

end DsigRegistry
