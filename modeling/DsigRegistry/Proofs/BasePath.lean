import DsigRegistry.Proofs.AbsolutePath
import DsigRegistry.Proofs.LocalFile

/-!
# A path and its URL as the base of references

References to files are followed in the same way whether their base is given as an absolute path
or as the URL that spells it, if the path has no `..`, and if it does not end in a slash or dot
without leading to a directory. With a `..` in the path the answers are the same as long as the
reference does not climb up to it. Otherwise they can differ, and they do if the working directory
is gone, in which a path would have to be looked for. Main facts: `resolve_path_and_url` and
`path_and_url_differ`.
-/

namespace DsigRegistry.LocalFile

open Url DsigRegistry.Path

variable {fs : FileSystem} {base base' : String} {names names' C : List (List Char)} {r : String}

/-! ### References and the segments of their base -/

/-- A reference with a scheme does not depend on its base, if that has a URL. -/
theorem path_of_splitScheme {split : List Char × List Char}
    (h : splitScheme? (significant r.toList) = some split)
    (hbase : baseUrl fs (some base) = .ok (ofSegments names))
    (hbase' : baseUrl fs (some base') = .ok (ofSegments names')) :
    path fs ⟨r, some base⟩ = path fs ⟨r, some base'⟩ := by
  have hjoin : ∀ base : Url, base.join r = parse r := fun base => by rw [parse, Url.join, h]
  simp only [path, url, hbase, hbase', hjoin]

/-- Any other reference is joined to the URL of its base. -/
theorem url_of_splitScheme (h : splitScheme? (significant r.toList) = none)
    (hbase : baseUrl fs (some base) = .ok (ofSegments names)) :
    url fs ⟨r, some base⟩ =
      (joinRelative (ofSegments names) (significant r.toList)).mapError
        fun fault => invalid r fault.message := by
  have hparse : parse r = .error .noBase := by rw [parse, h]
  have hjoin : (ofSegments names).join r =
      joinRelative (ofSegments names) (significant r.toList) := by rw [Url.join, h]
  simp only [url, hparse, hbase, hjoin]
  cases joinRelative (ofSegments names) (significant r.toList) <;> rfl

theorem path_of_url {r : Reference} (query fragment : Option (List Char))
    (h : url fs r = .ok ⟨fileScheme, some {}, .segments names, query, fragment⟩) :
    path fs r = .ok (segmentsPath names) := by
  have hfile : isFile ⟨fileScheme, some {}, .segments names, query, fragment⟩ = true := rfl
  simp only [path, h, hfile, toFilePath?_segments, if_true]

/-- What a reference leads to depends on the segments of its base alone: on none of them but the
drive that they start with, on all of them, or on those that lead to the base. -/
theorem path_cases (fs : FileSystem) (r : String) :
    (∀ base base' names names', baseUrl fs (some base) = .ok (ofSegments names) →
      baseUrl fs (some base') = .ok (ofSegments names') → drive names = drive names' →
      path fs ⟨r, some base⟩ = path fs ⟨r, some base'⟩) ∨
    (∀ base names, baseUrl fs (some base) = .ok (ofSegments names) →
      path fs ⟨r, some base⟩ = .ok (segmentsPath names)) ∨
    (∀ c ∈ (significant r.toList).head?, isSeparator true c = false) ∧
      ∀ base names, baseUrl fs (some base) = .ok (ofSegments names) →
        path fs ⟨r, some base⟩ = .ok (segmentsPath
          (fileSegments (followPath fileScheme (parent true names) (significant r.toList)))) := by
  cases hsplit : splitScheme? (significant r.toList) with
  | some split =>
    exact .inl fun _ _ _ _ hbase hbase' _ => path_of_splitScheme hsplit hbase hbase'
  | none =>
    rcases joinRelative_ofSegments_cases (significant r.toList) with
      ⟨outcome, h⟩ | ⟨query, fragment, h⟩ | ⟨hhead, query, fragment, h⟩
    · refine .inl fun base base' names names' hbase hbase' hdrive => ?_
      simp only [path, url_of_splitScheme hsplit hbase, url_of_splitScheme hsplit hbase', h, hdrive]
    · refine .inr (.inl fun base names hbase => path_of_url query fragment ?_)
      rw [url_of_splitScheme hsplit hbase, h]
      rfl
    · refine .inr (.inr ⟨hhead, fun base names hbase => path_of_url query fragment ?_⟩)
      rw [url_of_splitScheme hsplit hbase, h]
      rfl

/-- Bases that spell the same names are the same base. -/
theorem path_eq_of_alike (hbase : baseUrl fs (some base) = .ok (ofSegments names))
    (hbase' : baseUrl fs (some base') = .ok (ofSegments names')) (h : Alike names names')
    (r : String) : path fs ⟨r, some base⟩ = path fs ⟨r, some base'⟩ := by
  rcases path_cases fs r with hpath | hpath | ⟨-, hpath⟩
  · exact hpath base base' names names' hbase hbase' h.drive
  · rw [hpath base names hbase, hpath base' names' hbase', h.segmentsPath]
  · have hfollow := h.parent.follow
      (splitWhere (isSeparator true) (pathPart (significant r.toList)))
    rw [hpath base names hbase, hpath base' names' hbase']
    exact congrArg _ hfollow.fileSegments.segmentsPath

/-- A reference does not tell bases apart that stand for the same URL, or fail in the same way. -/
theorem resolve_eq_of_baseUrl_eq (h : baseUrl fs (some base) = baseUrl fs (some base'))
    (r : String) : resolve fs ⟨r, some base⟩ = resolve fs ⟨r, some base'⟩ := by
  simp only [resolve, path, url, h]

theorem resolve_eq_of_alike (hbase : baseUrl fs (some base) = .ok (ofSegments names))
    (hbase' : baseUrl fs (some base') = .ok (ofSegments names')) (h : Alike names names')
    (r : String) : resolve fs ⟨r, some base⟩ = resolve fs ⟨r, some base'⟩ := by
  unfold resolve
  rw [path_eq_of_alike hbase hbase' h r]

/-- What is answered is what the file holds. -/
theorem resolve_of_path {r : Reference} {file : Octets} (h : path fs r = .ok file) (j : Journal) :
    (resolve fs r j).1 = (fs.readOctets file).mapError .io := by
  unfold resolve
  rw [h]
  simp only [Traced.bind_apply]
  cases fs.readOctets file <;> rfl

/-! ### Paths without `..` -/

section Plain

variable (fs) (p : AbsolutePath) {segments : List (List Char)}

/-- Neither the dots in the path nor a slash behind it make a difference to whether it is short
enough. -/
def Fits : Prop :=
  p.path.length + 1 < lengthLimit ∨ dot ∉ p.octets ∧ endsInDrive p.path = false

variable {p}

theorem settle_octets_eq (hup : dotDot ∉ p.octets) : settle p.octets = pathNames p.path := by
  rw [settle_eq_filter hup, p.pathNames_path]

theorem isDirectory_urlPath (hup : dotDot ∉ p.octets) (hfits : Fits p) :
    fs.isDirectory p.urlPath = fs.isDirectory p.path := by
  rcases hfits with hshort | ⟨hdot, hdrive⟩
  · have hlength := p.length_urlPath_le
    have hnul : 0 ∈ p.urlPath ↔ 0 ∈ p.path := by
      rw [p.zero_mem_urlPath_iff, p.zero_mem_path_iff, settle_octets_eq hup]
    rw [Bool.eq_iff_iff, FileSystem.isDirectory_iff p.isAbsolute_urlPath,
      FileSystem.isDirectory_iff p.isAbsolute_path, hnul, p.pathNames_urlPath, settle_octets_eq hup]
    have hurl : p.urlPath.length < lengthLimit := by omega
    have hpath : p.path.length < lengthLimit := by omega
    simp only [hurl, hpath]
  · have hshown : shown p.octets = p.octets :=
      shown_eq_self p.octets_ne_nil p.filled_octets hdot hup
    rw [AbsolutePath.urlPath, hshown, segmentsPath_encoded, ← p.path_eq, hdrive]
    rfl

/-- A path that does not lead to a directory ends in a name that leads down. -/
theorem endsOpen_of_not_directory
    (hopen : endsOpen p.octets = true → fs.isDirectory p.path = true)
    (hdirectory : fs.isDirectory p.path = false) : endsOpen p.octets = false := by
  rw [← Bool.not_eq_true]
  exact fun h => absurd (hopen h) (by simp [hdirectory])

theorem resolve_path_eq_url (hworking : fs.hasWorkingDirectory = true)
    (h : List.Forall₂ Spells segments p.octets)
    (hopen : endsOpen p.octets = true → fs.isDirectory p.path = true) (hup : dotDot ∉ p.octets)
    (hfits : Fits p) (r : String) :
    resolve fs ⟨r, some p.text⟩ = resolve fs ⟨r, some (fileText segments)⟩ := by
  obtain ⟨names, halike, hurl⟩ := baseUrl_fileText fs p h
  rw [isDirectory_urlPath fs hup hfits, settle_octets_eq hup] at hurl
  refine resolve_eq_of_alike (baseUrl_text fs p hworking) hurl ?_ r
  unfold plainSegments
  cases hdirectory : fs.isDirectory p.path with
  | true => rfl
  | false =>
    have hshown : shown p.octets = pathNames p.path := by
      rw [shown, endsOpen_of_not_directory fs hopen hdirectory, ← settle_octets_eq hup]
      rfl
    have hne : pathNames p.path ≠ [] := hshown ▸ shown_ne_nil p.octets_ne_nil
    rw [if_neg Bool.false_ne_true, if_neg Bool.false_ne_true, if_neg hne, ← hshown]
    exact halike.symm

end Plain

/-! ### Without a working directory -/

/-- If the working directory is gone, no reference is followed from a path. -/
theorem resolve_of_no_workingDirectory {fs : FileSystem} (p : AbsolutePath)
    (hworking : fs.hasWorkingDirectory = false) (h : parse r = .error .noBase) (j : Journal) :
    resolve fs ⟨r, some p.text⟩ j = (.error (.io .notFound), j) := by
  apply resolve_of_error
  simp only [path, url, h, baseUrl_text_of_no_workingDirectory fs p hworking]

/-! ### A slash behind a directory -/

section Slash

variable (fs) {p : AbsolutePath} {segments : List (List Char)}

/-- If settled names lead to a directory, so do those that are shown. -/
theorem isDirectory_urlPath_of_path (hdirectory : fs.isDirectory p.path = true)
    (hlength : p.urlPath.length < lengthLimit) : fs.isDirectory p.urlPath = true := by
  rw [FileSystem.isDirectory_iff p.isAbsolute_path, p.pathNames_path] at hdirectory
  obtain ⟨hnul, -, hleads⟩ := hdirectory
  obtain ⟨q, hwalk, hq⟩ := (Place.leadsToDirectory_filter fs.top p.octets).1 hleads
  rw [FileSystem.isDirectory_iff p.isAbsolute_urlPath, p.pathNames_urlPath,
    p.zero_mem_urlPath_iff]
  refine ⟨?_, hlength, q, Place.walk_settle hwalk, hq⟩
  rintro ⟨name, hname, hzero⟩
  rw [p.path_eq, mem_slashed_iff (by decide)] at hnul
  exact hnul ⟨name, (settle_sublist _).subset hname, hzero⟩

theorem resolve_slash (h : List.Forall₂ Spells segments p.octets) (hclosed : [] ∉ p.names)
    (hdirectory : fs.isDirectory (p.path ++ [slash]) = true) (r : String) :
    resolve fs ⟨r, some (p.text ++ "/")⟩ = resolve fs ⟨r, some p.text⟩ ∧
      resolve fs ⟨r, some (fileText segments ++ "/")⟩ =
        resolve fs ⟨r, some (fileText segments)⟩ := by
  have hpath := p.path_withSlash hclosed
  rw [← hpath] at hdirectory
  have hlength : p.path.length + 1 < lengthLimit := by
    have habsolute := (p.withSlash hclosed).isAbsolute_path
    obtain ⟨-, hlimit, -⟩ := (FileSystem.isDirectory_iff habsolute).1 hdirectory
    rwa [hpath, List.length_append] at hlimit
  have hwithout : fs.isDirectory p.path = true := by
    rw [FileSystem.isDirectory_iff (p.withSlash hclosed).isAbsolute_path,
      p.pathNames_withSlash hclosed, hpath] at hdirectory
    rw [FileSystem.isDirectory_iff p.isAbsolute_path]
    exact ⟨fun hnul => hdirectory.1 (List.mem_append_left _ hnul), by omega, hdirectory.2.2⟩
  constructor
  · rw [← p.text_withSlash hclosed]
    apply resolve_eq_of_baseUrl_eq
    cases hworking : fs.hasWorkingDirectory with
    | true =>
      rw [baseUrl_text fs _ hworking, baseUrl_text fs p hworking, plainSegments, plainSegments,
        if_pos hdirectory, if_pos hwithout, p.pathNames_withSlash hclosed]
    | false =>
      rw [baseUrl_text_of_no_workingDirectory fs _ hworking,
        baseUrl_text_of_no_workingDirectory fs p hworking]
  · have hslash : List.Forall₂ Spells (segments ++ [[]]) (p.withSlash hclosed).octets := by
      rw [p.octets_withSlash hclosed]
      exact List.rel_append h (.cons .nil .nil)
    obtain ⟨_, -, hurl⟩ := baseUrl_fileText fs _ h
    obtain ⟨_, -, hurl'⟩ := baseUrl_fileText fs _ hslash
    have hends : endsOpen (p.withSlash hclosed).octets = true := by
      rw [p.octets_withSlash hclosed, endsOpen_concat]
      rfl
    have hshort := (p.withSlash hclosed).length_urlPath_le_of_endsOpen hends
    have hshort' := p.length_urlPath_le
    rw [hpath, List.length_append] at hshort
    rw [if_pos (isDirectory_urlPath_of_path fs hwithout (by omega))] at hurl
    rw [if_pos (isDirectory_urlPath_of_path fs hdirectory (Nat.lt_of_le_of_lt hshort hlength)),
      p.settle_withSlash hclosed, fileText_concat] at hurl'
    exact resolve_eq_of_alike hurl' hurl rfl r

end Slash

/-! ### Paths with `..` -/

section Climb

variable (fs) (p : AbsolutePath) {segments : List (List Char)} {above below : List Octets}

/-- The names of the directory in which references are followed. -/
def folder : List Octets :=
  if fs.isDirectory p.path then pathNames p.path else (pathNames p.path).dropLast

variable {p}

theorem mem_pathNames_of_mem_folder : ∀ name ∈ folder fs p, name ∈ pathNames p.path := by
  unfold folder
  split
  · exact fun _ hname => hname
  · exact fun _ hname => List.dropLast_subset _ hname

variable {fs}

/-- Names that lead to a directory. -/
theorem exists_walk_of_isDirectory (hslash : ∀ name ∈ above, slash ∉ name)
    (hidle : ∀ name ∈ above, ¬ Idle name) (h : fs.isDirectory (ofNames above) = true) :
    (∀ name ∈ above, 0 ∉ name) ∧
      ∃ q, fs.top.walk above = .ok q ∧ q.node.isDirectory = true := by
  cases above with
  | nil =>
    rw [FileSystem.isDirectory_iff rfl] at h
    exact ⟨by simp, h.2.2⟩
  | cons name names =>
    have hpath : ofNames (name :: names) = slashed (name :: names) := rfl
    rw [hpath, FileSystem.isDirectory_iff rfl, pathNames_slashed hslash,
      mem_slashed_iff (by decide), List.filter_eq_self.2 (by simpa using hidle)] at h
    exact ⟨fun name hname hzero => h.1 ⟨name, hname, hzero⟩, h.2.2⟩

/-- Behind names that are settled or not, the same file is found. -/
theorem readOctets_settle (hne : C ≠ []) (hslash : ∀ name ∈ above, slash ∉ name)
    (hidle : ∀ name ∈ above, ¬ Idle name) (h : fs.isDirectory (ofNames above) = true)
    (hlength : (segmentsPath (fileSegments (encoded above ++ C))).length < lengthLimit) :
    fs.readOctets (segmentsPath (fileSegments (encoded (settle above) ++ C))) =
      fs.readOctets (segmentsPath (fileSegments (encoded above ++ C))) := by
  obtain ⟨hnul, q, hwalk, hdirectory⟩ := exists_walk_of_isDirectory hslash hidle h
  obtain ⟨m, rest, hrest, hbehind⟩ := exists_segmentsPath hne
  by_cases habove : above = []
  · rw [habove]
    rfl
  have hsettled : (settle above).Sublist above := settle_sublist above
  have hfilled : ∀ name ∈ above, name ≠ [] := fun name hname hnil => hidle name hname (.inl hnil)
  have hpath := hbehind above habove hfilled
  rw [hpath] at hlength
  have hwalk' : fs.top.walk (settle above) = .ok q := Place.walk_settle hwalk
  have hslash' : ∀ name ∈ above ++ List.replicate m [], slash ∉ name :=
    List.forall_mem_append.2 ⟨hslash, by simp⟩
  have hnul' : ∀ name ∈ above ++ List.replicate m [], 0 ∉ name :=
    List.forall_mem_append.2 ⟨hnul, by simp⟩
  -- The slashes behind the names lead nowhere else. If no name is left, they are not written.
  have hbelow : ∀ names, fs.top.walk names = .ok q →
      fs.top.walk (names ++ List.replicate m []) = .ok q := by
    intro names hnames
    rw [Place.walk_append_of_ok hnames, Place.walk_replicate hdirectory]
  rw [hpath]
  by_cases hnil : settle above = []
  · rw [hnil] at hwalk' ⊢
    have hself : encoded [] ++ C = C := rfl
    rw [hself, hrest]
    exact FileSystem.readOctets_of_sublist (List.nil_sublist _) (hbelow above hwalk) hwalk'
      hdirectory hslash' hnul' rest hlength
  · rw [hbehind _ hnil fun name hname => hfilled name (hsettled.subset hname)]
    exact FileSystem.readOctets_of_sublist (hsettled.append (List.Sublist.refl _))
      (hbelow above hwalk) (hbelow _ hwalk') hdirectory hslash' hnul' rest hlength

/-- Below a directory, a reference that does not climb higher leads to the same segments, if there
is no drive above. -/
theorem path_below (fs : FileSystem) (hfilled : ∀ name ∈ below, name ≠ [])
    (hclimb : referenceClimb r ≤ below.length) (last : List Char) :
    (∀ base base' names names', baseUrl fs (some base) = .ok (ofSegments names) →
      baseUrl fs (some base') = .ok (ofSegments names') → drive names = drive names' →
      path fs ⟨r, some base⟩ = path fs ⟨r, some base'⟩) ∨
    ∃ C ≠ [], ∀ base names above, (∀ name ∈ above, name ≠ []) →
      (∀ segment ∈ encoded above ++ (encoded below ++ [last]), startsWithDrive segment = false) →
      baseUrl fs (some base) = .ok (ofSegments names) →
      Alike names (encoded above ++ (encoded below ++ [last])) →
      path fs ⟨r, some base⟩ = .ok (segmentsPath (fileSegments (encoded above ++ C))) := by
  rcases path_cases fs r with hpath | hpath | ⟨hhead, hpath⟩
  · exact .inl hpath
  · refine .inr ⟨encoded below ++ [last], by simp, fun base names above habove _ hbase halike => ?_⟩
    have hself : fileSegments (encoded above ++ (encoded below ++ [last])) =
        encoded above ++ (encoded below ++ [last]) := by
      rw [← List.append_assoc, ← encoded_append]
      refine fileSegments_eq_self (by simp) ?_
      rw [List.dropLast_concat]
      intro _ hmem
      obtain ⟨name, hname, rfl⟩ := List.mem_map.1 hmem
      exact encode_ne_nil ((List.forall_mem_append.2 ⟨habove, hfilled⟩) name hname)
    rw [hpath base names hbase, halike.segmentsPath, hself]
  · let segments := splitWhere (isSeparator true) (pathPart (significant r.toList))
    refine .inr ⟨follow true (encoded below) segments, follow_ne_nil _ (splitWhere_ne_nil _ _),
      fun base names above _ hdriveless hbase halike => ?_⟩
    have hparent : parent true (encoded above ++ (encoded below ++ [last])) =
        encoded above ++ encoded below := by
      rw [← List.append_assoc] at hdriveless ⊢
      exact parent_concat hdriveless
    have hrelative : climb segments ≤ (encoded below).length := by
      have hhead' : (significant r.toList).head?.any (isSeparator true) = false :=
        (Option.any_eq_false _ _).2 fun c hc => by simp [hhead c hc]
      rw [referenceClimb, hhead', if_neg Bool.false_ne_true] at hclimb
      rw [encoded, List.length_map]
      exact hclimb
    have hfollow := halike.parent.follow segments
    rw [hparent, follow_append_of_climb _ hrelative] at hfollow
    rw [hpath base names hbase]
    exact congrArg _ hfollow.fileSegments.segmentsPath

/-- A path that ends in a name that leads down has it as the last that says where it leads. -/
theorem exists_concat_of_endsOpen (hends : endsOpen p.octets = false) :
    ∃ last, Down last ∧ pathNames p.path = (pathNames p.path).dropLast ++ [last] := by
  rw [p.pathNames_path]
  have hne := p.octets_ne_nil
  generalize p.octets = names at hends hne
  cases names using List.reverseRecOn with
  | nil => exact absurd rfl hne
  | append_singleton names last =>
    rw [endsOpen_concat] at hends
    have hdown : Down last := by simpa using hends
    have hfilter : ((names ++ [last]).filter fun name => ¬ Idle name) =
        (names.filter fun name => ¬ Idle name) ++ [last] := by
      rw [List.filter_append]
      simp [hdown.1]
    exact ⟨last, hdown, by rw [hfilter, List.dropLast_concat]⟩

/-- Of the names that say where a path leads, those behind the last `..` are not settled away. -/
theorem settle_octets_append {tail : List Octets} (hnames : pathNames p.path = above ++ tail)
    (hup : dotDot ∉ tail) : settle p.octets = settle above ++ tail := by
  have hkeep : (tail.filter fun name => ¬ Idle name) = tail :=
    List.filter_eq_self.2 fun name hname => decide_eq_true
      (p.not_idle_of_mem_pathNames name (hnames ▸ List.mem_append_right _ hname))
  rw [← settle_filter, ← p.pathNames_path, hnames, settle_append_of_no_dotDot above hup, hkeep]

/-- Names that are settled lead to a directory only if the path does, where those in front that are
settled otherwise do. -/
theorem isDirectory_path_of_urlPath {tail : List Octets} (hnames : pathNames p.path = above ++ tail)
    (hup : dotDot ∉ tail) (habove : fs.isDirectory (ofNames above) = true)
    (hlength : p.path.length < lengthLimit) (hdirectory : fs.isDirectory p.urlPath = true) :
    fs.isDirectory p.path = true := by
  have hmem : ∀ name ∈ above, name ∈ pathNames p.path := fun name hname =>
    hnames ▸ List.mem_append_left _ hname
  obtain ⟨hnul, q, hwalk, -⟩ := exists_walk_of_isDirectory
    (fun name hname => p.slash_notMem name (p.mem_octets_of_mem_pathNames name (hmem name hname)))
    (fun name hname => p.not_idle_of_mem_pathNames name (hmem name hname)) habove
  have hwalk' : fs.top.walk (settle above) = .ok q := Place.walk_settle hwalk
  have hsettle := settle_octets_append hnames hup
  rw [FileSystem.isDirectory_iff p.isAbsolute_urlPath, p.pathNames_urlPath, hsettle,
    p.zero_mem_urlPath_iff, hsettle] at hdirectory
  obtain ⟨hzero, -, q', hwalkTail, hq'⟩ := hdirectory
  rw [Place.walk_append_of_ok hwalk'] at hwalkTail
  rw [FileSystem.isDirectory_iff p.isAbsolute_path, p.zero_mem_path_iff, hnames]
  refine ⟨?_, hlength, q', ?_, hq'⟩
  · rintro ⟨name, hname, hmem⟩
    rcases List.mem_append.1 hname with hname | hname
    · exact hnul name hname hmem
    · exact hzero ⟨name, List.mem_append_right _ hname, hmem⟩
  · rw [Place.walk_append_of_ok hwalk, hwalkTail]

/-- The URLs of the two bases have the same segments, but for names above that are settled. -/
theorem exists_segments (h : List.Forall₂ Spells segments p.octets)
    (hopen : endsOpen p.octets = true → fs.isDirectory p.path = true)
    (hlength : p.path.length + 1 < lengthLimit) (hfolder : folder fs p = above ++ below)
    (habove : fs.isDirectory (ofNames above) = true) (hup : dotDot ∉ below) :
    ∃ last names, startsWithDrive last = false ∧
      plainSegments fs p = encoded above ++ (encoded below ++ [last]) ∧
      Alike names (encoded (settle above) ++ (encoded below ++ [last])) ∧
      baseUrl fs (some (fileText segments)) = .ok (ofSegments names) := by
  obtain ⟨names, halike, hurl⟩ := baseUrl_fileText fs p h
  have hurlLength := p.length_urlPath_le
  unfold folder at hfolder
  unfold plainSegments
  cases hdirectory : fs.isDirectory p.path with
  | true =>
    rw [hdirectory, if_pos rfl] at hfolder
    rw [isDirectory_urlPath_of_path fs hdirectory (by omega), if_pos rfl,
      settle_octets_append hfolder hup] at hurl
    refine ⟨[], _, rfl, ?_, ?_, hurl⟩
    · rw [if_pos rfl, hfolder, encoded_append, List.append_assoc]
    · rw [encoded_append, List.append_assoc]
      rfl
  | false =>
    have hends := endsOpen_of_not_directory fs hopen hdirectory
    obtain ⟨last, hdown, hlast⟩ := exists_concat_of_endsOpen hends
    rw [hdirectory, if_neg Bool.false_ne_true] at hfolder
    rw [hfolder, List.append_assoc] at hlast
    have hupLast : dotDot ∉ below ++ [last] := by simpa using ⟨hup, hdown.2.symm⟩
    have hsettled := settle_octets_append hlast hupLast
    have hurlFalse : fs.isDirectory p.urlPath = false := by
      rw [← Bool.not_eq_true]
      intro htrue
      have hpath := isDirectory_path_of_urlPath hlast hupLast habove (by omega) htrue
      cases hdirectory.symm.trans hpath
    rw [hurlFalse, if_neg Bool.false_ne_true] at hurl
    have hdriveless : startsWithDrive (Percent.encode Percent.fileNameSet last) = false := by
      refine (spells_encode last).startsWithDrive_eq_false (p.not_isDriveName last ?_)
      exact p.mem_octets_of_mem_pathNames last (hlast ▸ by simp)
    refine ⟨Percent.encode Percent.fileNameSet last, names, hdriveless, ?_, ?_, hurl⟩
    · rw [if_neg Bool.false_ne_true, if_neg (by simp [hlast]), hlast, encoded_append,
        encoded_append]
      rfl
    · rw [shown, hends, if_neg Bool.false_ne_true, hsettled, encoded_append, encoded_append]
        at halike
      exact halike

theorem resolve_of_climb (hworking : fs.hasWorkingDirectory = true)
    (h : List.Forall₂ Spells segments p.octets)
    (hopen : endsOpen p.octets = true → fs.isDirectory p.path = true)
    (hlength : p.path.length + 1 < lengthLimit) (hfolder : folder fs p = above ++ below)
    (habove : fs.isDirectory (ofNames above) = true) (hup : dotDot ∉ below)
    (hclimb : referenceClimb r ≤ below.length)
    (hfile : ∀ file, path fs ⟨r, some p.text⟩ = .ok file → file.length < lengthLimit)
    (j : Journal) :
    (resolve fs ⟨r, some p.text⟩ j).1 = (resolve fs ⟨r, some (fileText segments)⟩ j).1 := by
  obtain ⟨last, names, hlast, hplain, halike, hurl⟩ :=
    exists_segments h hopen hlength hfolder habove hup
  have hmem : ∀ name ∈ above ++ below, name ∈ pathNames p.path := fun name hname =>
    mem_pathNames_of_mem_folder fs name (hfolder ▸ hname)
  have hidle : ∀ name ∈ above ++ below, ¬ Idle name :=
    fun name hname => p.not_idle_of_mem_pathNames name (hmem name hname)
  obtain ⟨hmemAbove, -⟩ := List.forall_mem_append.1 hmem
  obtain ⟨hidleAbove, hidleBelow⟩ := List.forall_mem_append.1 hidle
  have hfilledAbove : ∀ name ∈ above, name ≠ [] :=
    fun name hname hnil => hidleAbove name hname (.inl hnil)
  have hfilledBelow : ∀ name ∈ below, name ≠ [] :=
    fun name hname hnil => hidleBelow name hname (.inl hnil)
  have hfilledSettled : ∀ name ∈ settle above, name ≠ [] :=
    fun name hname => hfilledAbove name ((settle_sublist above).subset hname)
  have hslash : ∀ name ∈ above, slash ∉ name := fun name hname =>
    p.slash_notMem name (p.mem_octets_of_mem_pathNames name (hmemAbove name hname))
  have hdriveless : ∀ names, (∀ name ∈ names, name ∈ above) → ∀ segment ∈
      encoded names ++ (encoded below ++ [last]), startsWithDrive segment = false := by
    intro names hnames
    rw [← List.append_assoc, ← encoded_append]
    refine List.forall_mem_append.2 ⟨startsWithDrive_encoded fun name hname => ?_, by simpa⟩
    refine p.not_isDriveName name (p.mem_octets_of_mem_pathNames name (hmem name ?_))
    rcases List.mem_append.1 hname with hname | hname
    · exact List.mem_append_left _ (hnames name hname)
    · exact List.mem_append_right _ hname
  have hdrivelessAbove := hdriveless above fun _ hname => hname
  have hdrivelessSettled := hdriveless (settle above)
    fun _ hname => (settle_sublist above).subset hname
  have hbase := baseUrl_text fs p hworking
  rw [hplain] at hbase
  rcases path_below fs hfilledBelow hclimb last with hpath | ⟨C, hne, hpath⟩
  · have hdrive : drive (encoded above ++ (encoded below ++ [last])) = drive names := by
      rw [halike.drive, drive_eq_nil hdrivelessAbove, drive_eq_nil hdrivelessSettled]
    unfold resolve
    rw [hpath p.text (fileText segments) _ _ hbase hurl hdrive]
  · have hleft := hpath p.text _ above hfilledAbove hdrivelessAbove hbase rfl
    have hright :=
      hpath (fileText segments) names (settle above) hfilledSettled hdrivelessSettled hurl halike
    rw [resolve_of_path hleft, resolve_of_path hright,
      readOctets_settle hne hslash hidleAbove habove (hfile _ hleft)]

end Climb

/-! ### Either spelling -/

/-- As long as there is a working directory, an absolute path that leads to a directory wherever it
ends in a slash or dot, and has no `..`, is the same base as any URL that spells it. With a `..` in
the path, a reference is still answered in the same way if it does not climb higher than the names
behind the last `..`, the names up to there lead to a directory, and no path is too long. Without
a working directory, references that need a base cannot be followed from the path. A slash behind
the path of a directory makes no difference in either spelling. -/
theorem resolve_path_and_url (fs : FileSystem) (p : AbsolutePath) (segments : List (List Char))
    (hspells : List.Forall₂ Spells segments p.octets) (r : String) :
    (fs.hasWorkingDirectory = true → (endsOpen p.octets = true → fs.isDirectory p.path = true) →
      (dotDot ∉ p.octets → Fits p →
        resolve fs ⟨r, some p.text⟩ = resolve fs ⟨r, some (fileText segments)⟩) ∧
      ∀ above below, folder fs p = above ++ below → fs.isDirectory (ofNames above) = true →
        dotDot ∉ below → p.path.length + 1 < lengthLimit → referenceClimb r ≤ below.length →
        (∀ file, path fs ⟨r, some p.text⟩ = .ok file → file.length < lengthLimit) →
        ∀ j, (resolve fs ⟨r, some p.text⟩ j).1 =
          (resolve fs ⟨r, some (fileText segments)⟩ j).1) ∧
    (fs.hasWorkingDirectory = false → parse r = .error .noBase →
      ∀ j, resolve fs ⟨r, some p.text⟩ j = (.error (.io .notFound), j)) ∧
    ([] ∉ p.names → fs.isDirectory (p.path ++ [slash]) = true →
      resolve fs ⟨r, some (p.text ++ "/")⟩ = resolve fs ⟨r, some p.text⟩ ∧
      resolve fs ⟨r, some (fileText segments ++ "/")⟩ =
        resolve fs ⟨r, some (fileText segments)⟩) := by
  refine ⟨fun hworking hopen => ⟨fun hup hfits => ?_, ?_⟩,
    fun hworking hr => resolve_of_no_workingDirectory p hworking hr,
    fun hclosed hdirectory => resolve_slash fs hspells hclosed hdirectory r⟩
  · exact resolve_path_eq_url fs hworking hspells hopen hup hfits r
  · intro above below hfolder habove hup hlength hclimb hfile j
    exact resolve_of_climb hworking hspells hopen hlength hfolder habove hup hclimb hfile j

/-- A file system with the files `/x` and `/a/x`. -/
def twoFiles : FileSystem where
  root := .directory [([0x61], .directory [([0x78], .file [1])]), ([0x78], .file [0])]
  workingDirectory := []

/-- The same files, seen from a working directory `/b` that is gone. -/
def strandedFiles : FileSystem :=
  { twoFiles with workingDirectory := [[0x62]] }

/-- The path `/a`. -/
def directPath : AbsolutePath where
  names := [['a']]
  names_ne_nil := by decide
  filled := by decide
  slashless := by decide
  driveless := by simp

/-- The path `/a/../a`. -/
def roundaboutPath : AbsolutePath where
  names := [['a'], ['.', '.'], ['a']]
  names_ne_nil := by decide
  filled := by decide
  slashless := by decide
  driveless := by simp

theorem spells_a : Spells ['%', '6', '1'] [0x61] := .escaped rfl .nil

theorem spells_dotDot : Spells ['.', '%', '2', 'e'] dotDot :=
  .plain (b := 0x2E) rfl (.escaped rfl .nil)

/-- The directory `/a` is the same base in either spelling, and references that do not climb higher
than its name are answered in the same way if it is found by a roundabout path. From a working
directory that is gone, it is no base as a path. -/
theorem resolve_path_and_url_directory :
    resolve twoFiles ⟨"x", some "/a"⟩ = resolve twoFiles ⟨"x", some "file:///%61"⟩ ∧
    resolve twoFiles ⟨"x", some "/a/"⟩ = resolve twoFiles ⟨"x", some "/a"⟩ ∧
    (∀ j, (resolve twoFiles ⟨"../a/x", some "/a/../a"⟩ j).1 =
      (resolve twoFiles ⟨"../a/x", some "file:///%61/.%2e/%61"⟩ j).1) ∧
    (resolve twoFiles ⟨"../a/x", some "/a/../a"⟩ []).1 = .ok [1] ∧
    ∀ j, resolve strandedFiles ⟨"x", some "/a"⟩ j = (.error (.io .notFound), j) := by
  obtain ⟨hbases, -, hslash⟩ := resolve_path_and_url twoFiles directPath [['%', '6', '1']]
    (.cons spells_a .nil) "x"
  obtain ⟨hbases', -⟩ := resolve_path_and_url twoFiles roundaboutPath
    [['%', '6', '1'], ['.', '%', '2', 'e'], ['%', '6', '1']]
    (.cons spells_a (.cons spells_dotDot (.cons spells_a .nil))) "../a/x"
  obtain ⟨-, hstranded, -⟩ := resolve_path_and_url strandedFiles directPath [['%', '6', '1']]
    (.cons spells_a .nil) "x"
  have hplain := (hbases rfl fun _ => rfl).1 (by decide) (.inl (by decide))
  have hroundabout := (hbases' rfl fun _ => rfl).2 [[0x61], dotDot] [[0x61]] rfl rfl (by decide)
    (by decide) (by decide) (fun file hfile => ?_)
  · exact ⟨hplain, (hslash (by decide) rfl).1, hroundabout, rfl, hstranded rfl rfl⟩
  · have hpath : path twoFiles ⟨"../a/x", some roundaboutPath.text⟩ =
        .ok (Text.Utf8.encode "/a/../a/x") := by rfl
    rw [hpath] at hfile
    cases hfile
    decide

/-- The path `/a` behind some dots. -/
def dottedPath (dots : Nat) : AbsolutePath where
  names := List.replicate dots ['.'] ++ [['a']]
  names_ne_nil := by simp
  filled := by
    rw [List.dropLast_concat]
    simp
  slashless := List.forall_mem_append.2 ⟨by simp, by simp⟩
  driveless := List.forall_mem_append.2 ⟨by simp, by simp⟩

theorem octets_dottedPath (dots : Nat) :
    (dottedPath dots).octets = List.replicate dots dot ++ [[0x61]] := by
  rw [AbsolutePath.octets, dottedPath, List.map_append, List.map_replicate]
  rfl

theorem pathNames_dottedPath (dots : Nat) : pathNames (dottedPath dots).path = [[0x61]] := by
  have hidle : Idle dot := .inr rfl
  rw [AbsolutePath.pathNames_path, octets_dottedPath, List.filter_append, List.filter_replicate]
  simp [hidle]
  decide

theorem length_dottedPath (dots : Nat) : (dottedPath dots).path.length = 2 * dots + 2 := by
  rw [AbsolutePath.path_eq, octets_dottedPath]
  simp [slashed, dot]
  omega

/-- Too many dots keep the path from being found, so that its last name is replaced. -/
theorem resolve_dottedPath {dots : Nat} (h : lengthLimit ≤ 2 * dots + 2) :
    (resolve twoFiles ⟨"x", some (dottedPath dots).text⟩ []).1 = .ok [0] := by
  have hdirectory : twoFiles.isDirectory (dottedPath dots).path = false := by
    rw [← Bool.not_eq_true, FileSystem.isDirectory_iff (dottedPath dots).isAbsolute_path,
      length_dottedPath]
    omega
  have hbase := baseUrl_text twoFiles (dottedPath dots) rfl
  rw [plainSegments, hdirectory, pathNames_dottedPath] at hbase
  have hpath : path twoFiles ⟨"x", some (dottedPath dots).text⟩ = .ok (segmentsPath [['x']]) := by
    refine path_of_url none none ?_
    rw [url_of_splitScheme rfl hbase]
    rfl
  rw [resolve_of_path hpath]
  rfl

/-- In a URL there are no dots left. -/
theorem resolve_dottedUrl (dots : Nat) :
    (resolve twoFiles ⟨"x", some (fileText (dottedPath dots).names)⟩ []).1 = .ok [1] := by
  have hspells : List.Forall₂ Spells (dottedPath dots).names (dottedPath dots).octets := by
    rw [octets_dottedPath]
    refine List.rel_append ?_ (.cons (.plain (b := 0x61) rfl .nil) .nil)
    induction dots with
    | zero => exact .nil
    | succ dots ih => exact .cons (.plain (b := 0x2E) rfl .nil) ih
  have hup : dotDot ∉ (dottedPath dots).octets := by
    rw [octets_dottedPath]
    simp [dot, dotDot]
  have hends : endsOpen (dottedPath dots).octets = false := by
    rw [octets_dottedPath, endsOpen_concat]
    decide
  have hsettle : settle (dottedPath dots).octets = [[0x61]] := by
    rw [settle_octets_eq hup, pathNames_dottedPath]
  have hurlPath : (dottedPath dots).urlPath = Text.Utf8.encode "/a" := by
    rw [AbsolutePath.urlPath, shown, hends, hsettle]
    rfl
  have hdirectory : twoFiles.isDirectory (dottedPath dots).urlPath = true := by
    rw [hurlPath]
    rfl
  obtain ⟨_, -, hbase⟩ := baseUrl_fileText twoFiles (dottedPath dots) hspells
  rw [if_pos hdirectory, hsettle] at hbase
  rw [resolve_eq_of_alike hbase (baseUrl_text twoFiles directPath rfl) rfl]
  rfl

/-- A `..` at the end of a path is taken back like a name, a slash behind a path that does not lead
to a directory is lost, a path that is too long for its dots does not lead to its directory, and no
path leads anywhere from a working directory that is gone. None of this happens in a URL. -/
theorem path_and_url_differ :
    (resolve twoFiles ⟨"../x", some "/a/.."⟩ []).1 = .ok [1] ∧
    (resolve twoFiles ⟨"../x", some "file:///a/.."⟩ []).1 = .ok [0] ∧
    (resolve twoFiles ⟨"x", some "/b/"⟩ []).1 = .ok [0] ∧
    (resolve twoFiles ⟨"x", some "file:///b/"⟩ []).1 = .error (.io .notFound) ∧
    (resolve twoFiles ⟨"x", some (dottedPath 2047).text⟩ []).1 = .ok [0] ∧
    (resolve twoFiles ⟨"x", some (fileText (dottedPath 2047).names)⟩ []).1 = .ok [1] ∧
    (resolve strandedFiles ⟨"x", some "/a"⟩ []).1 = .error (.io .notFound) ∧
    (resolve strandedFiles ⟨"x", some "file:///a"⟩ []).1 = .ok [1] :=
  ⟨rfl, rfl, rfl, rfl, resolve_dottedPath (by decide), resolve_dottedUrl 2047, rfl, rfl⟩

end DsigRegistry.LocalFile
