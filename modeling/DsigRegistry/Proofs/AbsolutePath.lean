import DsigRegistry.Proofs.Spelling
import DsigRegistry.Proofs.Walking
import DsigRegistry.Resource.LocalFile

/-!
# Absolute paths as bases

An absolute path can be given as the base of references as it is, or spelled as a URL. Both are
turned into a URL, of which all that matters are its segments. For the path they are its names
without those that lead nowhere; for the URL they are settled as well, and one that is empty shows
where the path ends in a slash. Main facts: `LocalFile.baseUrl_text` and
`LocalFile.baseUrl_fileText`.
-/

namespace DsigRegistry

open Text.Utf8

/-- An absolute path, by the names that stand behind its slashes. Only the last can be empty, where
the path ends in a slash. None is that of a drive. -/
structure AbsolutePath where
  names : List (List Char)
  names_ne_nil : names ≠ []
  filled : ∀ name ∈ names.dropLast, name ≠ []
  slashless : ∀ name ∈ names, '/' ∉ name
  driveless : ∀ name ∈ names, ∀ letter mark, name = [letter, mark] → letter.isAlpha = true →
    mark ≠ ':' ∧ mark ≠ '|'

namespace AbsolutePath

variable (p : AbsolutePath)

/-- The path as it is written. -/
def text : String := String.ofList (p.names.flatMap ('/' :: ·))

/-- The names as the file system knows them. -/
def octets : List Octets := p.names.map encodeChars

/-- The path as the file system knows it. -/
def path : Octets := encode p.text

theorem path_eq : p.path = Path.slashed p.octets := by
  rw [path, encode, text, String.toList_ofList, Path.slashed, octets, encodeChars,
    List.flatMap_assoc, List.flatMap_map]
  rfl

theorem octets_ne_nil : p.octets ≠ [] := by
  simpa [octets] using p.names_ne_nil

theorem filled_octets : ∀ name ∈ p.octets.dropLast, name ≠ [] := by
  rw [octets, ← List.map_dropLast]
  intro _ hmem
  obtain ⟨name, hname, rfl⟩ := List.mem_map.1 hmem
  intro h
  have hnil : encodeChars name = encodeChars [] := h
  exact p.filled name hname (encodeChars_inj.1 hnil)

theorem slash_notMem : ∀ name ∈ p.octets, Path.slash ∉ name := by
  intro _ hmem hslash
  obtain ⟨name, hname, rfl⟩ := List.mem_map.1 hmem
  obtain ⟨c, hc, hslash⟩ := List.mem_flatMap.1 hslash
  have hchar : c = '/' := eq_ofNat_of_mem_utf8EncodeChar hslash (by decide)
  exact p.slashless name hname (hchar ▸ hc)

theorem not_isDriveName : ∀ name ∈ p.octets, ¬ Url.IsDriveName name := by
  rintro _ hmem ⟨letter, mark, heq, hletter, hmark⟩
  obtain ⟨name, hname, rfl⟩ := List.mem_map.1 hmem
  obtain ⟨hcolon, hbar⟩ := p.driveless name hname letter mark (encodeChars_inj.1 heq) hletter
  exact hmark.elim hcolon hbar

theorem isAbsolute_path : Path.isAbsolute p.path = true := by
  obtain ⟨name, names, hnames⟩ := List.exists_cons_of_ne_nil p.octets_ne_nil
  rw [path_eq, hnames]
  rfl

theorem pathNames_path :
    Url.pathNames p.path = p.octets.filter fun name => ¬ Path.Idle name := by
  rw [path_eq, Path.pathNames_slashed p.slash_notMem]

theorem mem_octets_of_mem_pathNames : ∀ name ∈ Url.pathNames p.path, name ∈ p.octets := by
  rw [pathNames_path]
  exact fun _ hname => List.mem_of_mem_filter hname

theorem not_idle_of_mem_pathNames : ∀ name ∈ Url.pathNames p.path, ¬ Path.Idle name := by
  rw [pathNames_path]
  exact fun _ hname => of_decide_eq_true (List.mem_filter.1 hname).2

theorem zero_mem_path_iff : 0 ∈ p.path ↔ ∃ name ∈ Url.pathNames p.path, 0 ∈ name := by
  rw [path_eq, Path.mem_slashed_iff (by decide), ← path_eq]
  constructor
  · rintro ⟨name, hname, hzero⟩
    refine ⟨name, ?_, hzero⟩
    rw [pathNames_path]
    refine List.mem_filter.2 ⟨hname, decide_eq_true ?_⟩
    rintro (rfl | rfl)
    · cases hzero
    · exact absurd hzero (by decide)
  · rintro ⟨name, hname, hzero⟩
    exact ⟨name, p.mem_octets_of_mem_pathNames name hname, hzero⟩

/-- The path that the URL of a path stands for. -/
def urlPath : Octets := Url.segmentsPath (Url.encoded (Path.shown p.octets))

theorem slash_notMem_shown : ∀ name ∈ Path.shown p.octets, Path.slash ∉ name := by
  have hsettle : ∀ name ∈ Path.settle p.octets, Path.slash ∉ name :=
    fun name hname => p.slash_notMem name ((Path.settle_sublist _).subset hname)
  unfold Path.shown
  split
  · exact List.forall_mem_append.2 ⟨hsettle, by simp⟩
  · exact hsettle

theorem isAbsolute_urlPath : Path.isAbsolute p.urlPath = true := by
  obtain ⟨rest, hrest⟩ := Path.slashed_eq_cons (Path.shown_ne_nil p.octets_ne_nil)
  rw [urlPath, Url.segmentsPath_encoded, Path.slashed_append, hrest]
  split <;> rfl

theorem pathNames_urlPath : Url.pathNames p.urlPath = Path.settle p.octets := by
  rw [urlPath, Url.segmentsPath_encoded]
  split
  · rw [Path.pathNames_slashed (List.forall_mem_append.2 ⟨p.slash_notMem_shown, by simp⟩),
      List.filter_append, Path.filter_shown]
    exact List.append_nil _
  · rw [Path.pathNames_slashed p.slash_notMem_shown, Path.filter_shown]

theorem length_urlPath_le : p.urlPath.length ≤ p.path.length + 1 := by
  have hlength := Path.length_slashed_shown_le p.octets_ne_nil
  rw [urlPath, Url.segmentsPath_encoded, path_eq]
  split
  · rw [Path.slashed_append, List.length_append]
    exact Nat.add_le_add hlength le_rfl
  · exact hlength.trans (Nat.le_succ _)

/-- If the path does not end in a name that leads down, nothing is put behind it. -/
theorem length_urlPath_le_of_endsOpen (h : Path.endsOpen p.octets = true) :
    p.urlPath.length ≤ p.path.length := by
  have hlength := Path.length_slashed_shown_le p.octets_ne_nil
  have hdrive : Url.endsInDrive (Path.slashed (Path.shown p.octets)) = false := by
    rw [Path.shown, if_pos h, Path.slashed_append]
    exact Url.endsInDrive_append _ []
  rw [urlPath, Url.segmentsPath_encoded, hdrive, path_eq]
  exact hlength

theorem zero_mem_urlPath_iff : 0 ∈ p.urlPath ↔ ∃ name ∈ Path.settle p.octets, 0 ∈ name := by
  have hshown : 0 ∈ Path.slashed (Path.shown p.octets) ↔
      ∃ name ∈ Path.settle p.octets, 0 ∈ name := by
    rw [Path.mem_slashed_iff (by decide), Path.shown]
    split <;> simp
  rw [urlPath, Url.segmentsPath_encoded]
  split
  · rw [Path.slashed_append, List.mem_append, hshown]
    simp [Path.slashed, Path.slash]
  · exact hshown

/-- The path with a slash behind it. -/
def withSlash (h : [] ∉ p.names) : AbsolutePath where
  names := p.names ++ [[]]
  names_ne_nil := by simp
  filled := by
    rw [List.dropLast_concat]
    exact fun name hname hnil => h (hnil ▸ hname)
  slashless := List.forall_mem_append.2 ⟨p.slashless, by simp⟩
  driveless := List.forall_mem_append.2 ⟨p.driveless, by simp⟩

variable (h : [] ∉ p.names)

theorem text_withSlash : (p.withSlash h).text = p.text ++ "/" := by
  rw [text, text, withSlash, List.flatMap_append, String.ofList_append]
  rfl

theorem octets_withSlash : (p.withSlash h).octets = p.octets ++ [[]] := by
  rw [octets, octets, withSlash, List.map_append]
  rfl

theorem path_withSlash : (p.withSlash h).path = p.path ++ [Path.slash] := by
  rw [path_eq, path_eq, octets_withSlash, Path.slashed_append]
  rfl

theorem pathNames_withSlash : Url.pathNames (p.withSlash h).path = Url.pathNames p.path := by
  rw [pathNames_path, pathNames_path, octets_withSlash, List.filter_append]
  exact List.append_nil _

theorem settle_withSlash : Path.settle (p.withSlash h).octets = Path.settle p.octets := by
  rw [octets_withSlash, Path.settle_concat, Path.settleStep_of_idle (.inl rfl)]

end AbsolutePath

/-! ### Bases -/

namespace LocalFile

variable (fs : FileSystem) (p : AbsolutePath) {segments : List (List Char)}

open Url in
theorem parse_text : parse p.text = .error .noBase := by
  obtain ⟨name, names, hnames⟩ := List.exists_cons_of_ne_nil p.names_ne_nil
  have htext : p.text.toList = '/' :: (name ++ names.flatMap ('/' :: ·)) := by
    rw [AbsolutePath.text, String.toList_ofList, hnames]
    rfl
  rw [parse, htext, significant_cons rfl]
  rfl

/-- The segments of the base that is given as a path. -/
def plainSegments : List (List Char) :=
  if fs.isDirectory p.path then Url.encoded (Url.pathNames p.path) ++ [[]]
  else if Url.pathNames p.path = [] then [[]] else Url.encoded (Url.pathNames p.path)

theorem baseUrl_text (hworking : fs.hasWorkingDirectory = true) :
    baseUrl fs (some p.text) = .ok (Url.ofSegments (plainSegments fs p)) := by
  have hcurrent : fs.currentDirectory = .ok fs.workingPath := if_pos hworking
  have hjoin : Path.join fs.workingPath p.path = p.path := if_pos p.isAbsolute_path
  simp only [baseUrl, parse_text, pathUrl, hcurrent, plainSegments]
  change (if fs.isDirectory (Path.join fs.workingPath p.path) then
    directoryUrl (Path.join fs.workingPath p.path) else _) = _
  rw [hjoin]
  split
  · rw [directoryUrl, Url.ofDirectoryPath?, if_pos p.isAbsolute_path]
    rfl
  · change requireUrl p.text (Url.ofFilePath? (Path.join fs.workingPath p.path)) = _
    rw [hjoin, Url.ofFilePath?, if_pos p.isAbsolute_path]
    rfl

/-- Without a working directory there is no base, although the path does not depend on it. -/
theorem baseUrl_text_of_no_workingDirectory (hworking : fs.hasWorkingDirectory = false) :
    baseUrl fs (some p.text) = .error (.io .notFound) := by
  have hcurrent : fs.currentDirectory = .error .notFound := if_neg (by simp [hworking])
  simp only [baseUrl, parse_text, pathUrl, hcurrent]

/-- The text of the URL of a file with the segments. -/
def fileText (segments : List (List Char)) : String :=
  "file://" ++ String.ofList (segments.flatMap ('/' :: ·))

theorem fileText_concat (segments : List (List Char)) :
    fileText (segments ++ [[]]) = fileText segments ++ "/" := by
  rw [fileText, fileText, List.flatMap_append, String.ofList_append, String.append_assoc]
  rfl

/-- The segments of the base that is given as a URL are alike those of a base that is shown. -/
theorem baseUrl_fileText (h : List.Forall₂ Url.Spells segments p.octets) :
    ∃ names, Url.Alike names (Url.encoded (Path.shown p.octets)) ∧
      baseUrl fs (some (fileText segments)) = .ok (Url.ofSegments
        (if fs.isDirectory p.urlPath then Url.encoded (Path.settle p.octets) ++ [[]]
        else names)) := by
  have hfilled : ∀ segment ∈ (Url.encoded (Path.shown p.octets)).dropLast, segment ≠ [] := by
    rw [Url.encoded, ← List.map_dropLast]
    intro _ hmem
    obtain ⟨name, hname, rfl⟩ := List.mem_map.1 hmem
    exact Url.encode_ne_nil (Path.filled_shown _ name hname)
  have hne : Url.encoded (Path.shown p.octets) ≠ [] := by
    simpa [Url.encoded] using Path.shown_ne_nil p.octets_ne_nil
  have hfollow := Url.alike_follow h p.octets_ne_nil p.filled_octets p.not_isDriveName
  have halike := hfollow.fileSegments
  rw [Url.fileSegments_eq_self hne hfilled] at halike
  refine ⟨_, halike, ?_⟩
  have hsegments : segments ≠ [] := by
    rintro rfl
    cases hoctets : p.octets with
    | nil => exact p.octets_ne_nil hoctets
    | cons name names =>
      rw [hoctets] at h
      cases h
  have hparse : Url.parse (fileText segments) =
      .ok (Url.ofSegments (Url.fileSegments (Url.follow true [] segments))) :=
    Url.parse_fileText hsegments (Url.inSegment_of_spells h)
  have hpath : (Url.ofSegments (Url.fileSegments (Url.follow true [] segments))).toFilePath? =
      some p.urlPath := by
    rw [Url.ofSegments, Url.toFilePath?_segments, halike.segmentsPath]
    rfl
  simp only [baseUrl, hparse, asBase, Url.isFile_ofSegments, hpath, if_true]
  split
  · rw [directoryUrl, Url.ofDirectoryPath?, if_pos p.isAbsolute_urlPath, Url.pathSegments,
      p.pathNames_urlPath]
    rfl
  · rfl

end LocalFile

end DsigRegistry
