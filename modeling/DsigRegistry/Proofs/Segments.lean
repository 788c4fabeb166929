import Mathlib.Data.List.Basic
import DsigRegistry.Proofs.Url
import DsigRegistry.Proofs.Walking

/-!
# Joining references to files

What a reference to another file refers to depends on the segments of its base alone. Bases whose
segments spell the same names differently make no difference to the path, and what stands at the
start of a base stays there if the reference does not climb as far. Main facts:
`joinRelative_ofSegments_cases`, `Alike.follow` and `follow_append_of_climb`.
-/

namespace DsigRegistry.Url

variable {names names' : List (List Char)} {segment : List Char} {segments : List (List Char)}

/-! ### One segment after the other -/

/-- The segments of a file's path behind those that are there, with one more that is not the
last. -/
def advance (names : List (List Char)) (segment : List Char) : List (List Char) :=
  if isDotDot segment then ascend names
  else if isDot segment then names
  else descend true names segment

theorem descend_of_ne_nil (file : Bool) (h : names ≠ []) (segment : List Char) :
    descend file names segment = names ++ [Percent.encodeText Percent.pathSet segment] := by
  simp [descend, h]

theorem descend_of_isDrive_eq_false (file : Bool) (names : List (List Char))
    (h : isDrive segment = false) :
    descend file names segment = names ++ [Percent.encodeText Percent.pathSet segment] := by
  simp [descend, h]

theorem advance_nil (names : List (List Char)) : advance names [] = names ++ [[]] :=
  descend_of_isDrive_eq_false true names rfl

theorem length_descend (file : Bool) (names : List (List Char)) (segment : List Char) :
    (descend file names segment).length = names.length + 1 := by
  unfold descend
  split
  next h =>
    simp only [Bool.and_eq_true, List.isEmpty_iff] at h
    rw [h.1.2]
    rfl
  next => exact List.length_append

theorem follow_cons (names : List (List Char)) (segment : List Char) (h : segments ≠ []) :
    follow true names (segment :: segments) = follow true (advance names segment) segments := by
  cases segments with
  | nil => exact absurd rfl h
  | cons next rest =>
    rw [follow, advance]
    split
    · rfl
    · split <;> rfl
    · simp

/-- The last segment is empty behind a dot segment. -/
theorem follow_concat (names segments : List (List Char)) (last : List Char) :
    follow true names (segments ++ [last]) =
      if isDotDot last || isDot last then (segments ++ [last]).foldl advance names ++ [[]]
      else (segments ++ [last]).foldl advance names := by
  induction segments generalizing names with
  | nil =>
    by_cases hup : isDotDot last
    · simp [follow, advance, hup]
    · by_cases hidle : isDot last <;> simp [follow, advance, hup, hidle]
  | cons segment segments ih =>
    rw [List.cons_append, follow_cons names segment (by simp), ih, List.foldl_cons]

theorem follow_ne_nil (names : List (List Char)) (h : segments ≠ []) :
    follow true names segments ≠ [] := by
  cases segments using List.reverseRecOn with
  | nil => exact absurd rfl h
  | append_singleton segments last =>
    rw [follow_concat, List.foldl_append]
    split
    · simp
    next hlast =>
      simp only [Bool.or_eq_true, not_or] at hlast
      have hlength := length_descend true (segments.foldl advance names) last
      simp only [List.foldl_cons, List.foldl_nil, advance, hlast.1, hlast.2]
      exact List.ne_nil_of_length_eq_add_one hlength

/-! ### Drives -/

theorem startsWithDrive_of_isDrive (h : isDrive segment = true) :
    startsWithDrive segment = true := by
  unfold isDrive at h
  split at h
  · simpa [startsWithDrive, isDrive] using h
  · cases h

theorem ne_nil_of_startsWithDrive (h : startsWithDrive segment = true) : segment ≠ [] := by
  rintro rfl
  cases h

/-- Only segments that start with a drive can be the drive of a path. -/
theorem drive_cons_of_startsWithDrive_eq_false (h : startsWithDrive segment = false)
    (names : List (List Char)) : drive (segment :: names) = [] := by
  have hdrive : isDrive segment = false := by
    rw [← Bool.not_eq_true]
    intro hdrive
    cases h.symm.trans (startsWithDrive_of_isDrive hdrive)
  simp [drive, hdrive]

theorem drive_eq_nil (h : ∀ segment ∈ names, startsWithDrive segment = false) :
    drive names = [] := by
  cases names with
  | nil => rfl
  | cons segment names =>
    exact drive_cons_of_startsWithDrive_eq_false (h segment List.mem_cons_self) names

theorem parent_concat {last : List Char}
    (h : ∀ segment ∈ names ++ [last], startsWithDrive segment = false) :
    parent true (names ++ [last]) = names := by
  simp [parent, drive_eq_nil h]

/-- The drive is all of the path exactly if there is as much of it. -/
theorem drive_eq_self_iff : drive names = names ↔ (drive names).length = names.length := by
  have hsub : (drive names).Sublist names := List.filter_sublist.trans (List.take_sublist 1 names)
  exact ⟨congrArg List.length, hsub.eq_of_length⟩

/-! ### Segments that spell the same names -/

/-- What can be told of a segment once references have been joined: the name that it spells, the
text if it starts with a drive, and whether it is empty. -/
def view (segment : List Char) : Octets × List Char × Bool :=
  (Percent.decode segment, if startsWithDrive segment then segment else [], segment.isEmpty)

theorem view_of_startsWithDrive (h : startsWithDrive segment = true) :
    (view segment).2.1 = segment :=
  if_pos h

theorem not_isEmpty_view (segment : List Char) :
    (!(view segment).2.1.isEmpty) = startsWithDrive segment := by
  cases h : startsWithDrive segment with
  | true => simpa [view_of_startsWithDrive h] using ne_nil_of_startsWithDrive h
  | false => simp [view, h]

/-- Of segments that cannot be told apart, both start with a drive or neither does. -/
theorem startsWithDrive_eq_of_view_eq {segment' : List Char} (h : view segment = view segment') :
    startsWithDrive segment = startsWithDrive segment' := by
  rw [← not_isEmpty_view, h, not_isEmpty_view]

/-- The segments spell the same names. -/
def Alike (names names' : List (List Char)) : Prop :=
  names.map view = names'.map view

theorem Alike.length_eq (h : Alike names names') : names.length = names'.length := by
  have hlength := congrArg List.length h
  rwa [List.length_map, List.length_map] at hlength

theorem Alike.append {behind behind' : List (List Char)} (h : Alike names names')
    (hbehind : Alike behind behind') : Alike (names ++ behind) (names' ++ behind') := by
  unfold Alike
  rw [List.map_append, List.map_append, h, hbehind]

theorem Alike.dropLast (h : Alike names names') : Alike names.dropLast names'.dropLast := by
  unfold Alike
  rw [List.map_dropLast, List.map_dropLast, h]

theorem Alike.drive (h : Alike names names') : drive names = Url.drive names' := by
  cases names with
  | nil => rw [List.length_eq_zero_iff.1 h.length_eq.symm]
  | cons segment names =>
    cases names' with
    | nil => cases h
    | cons segment' names' =>
      have hview : view segment = view segment' := List.head_eq_of_cons_eq h
      have hstarts := startsWithDrive_eq_of_view_eq hview
      cases hdrive : startsWithDrive segment with
      | true =>
        have htext := congrArg (·.2.1) hview
        rw [hdrive] at hstarts
        rw [view_of_startsWithDrive hdrive, view_of_startsWithDrive hstarts.symm] at htext
        rw [htext]
        rfl
      | false =>
        rw [hdrive] at hstarts
        rw [drive_cons_of_startsWithDrive_eq_false hdrive,
          drive_cons_of_startsWithDrive_eq_false hstarts.symm]

theorem Alike.parent (h : Alike names names') : Alike (parent true names) (parent true names') := by
  have hself : Url.drive names = names ↔ Url.drive names' = names' := by
    rw [drive_eq_self_iff, drive_eq_self_iff, h.drive, h.length_eq]
  simp only [Url.parent, Bool.true_and, decide_eq_true_eq, hself]
  split
  · exact h
  · exact h.dropLast

theorem Alike.ascend (h : Alike names names') : Alike (ascend names) (Url.ascend names') := by
  have hany : ∀ names : List (List Char), names.getLast?.any startsWithDrive =
      ((names.map view).getLast?).any (!·.2.1.isEmpty) := by
    intro names
    rw [List.getLast?_map, Option.any_map]
    simp only [not_isEmpty_view]
  unfold Url.ascend
  rw [hany names, hany names', h]
  split
  · exact h
  · exact h.dropLast

theorem Alike.descend (h : Alike names names') (segment : List Char) :
    Alike (descend true names segment) (Url.descend true names' segment) := by
  have hempty : names.isEmpty = names'.isEmpty := by
    rw [Bool.eq_iff_iff, List.isEmpty_iff_length_eq_zero, List.isEmpty_iff_length_eq_zero,
      h.length_eq]
  unfold Url.descend
  rw [hempty]
  split
  · rfl
  · exact h.append rfl

theorem Alike.advance (h : Alike names names') (segment : List Char) :
    Alike (advance names segment) (Url.advance names' segment) := by
  unfold Url.advance
  split
  · exact h.ascend
  · split
    · exact h
    · exact h.descend segment

theorem Alike.follow (h : Alike names names') (segments : List (List Char)) :
    Alike (follow true names segments) (Url.follow true names' segments) := by
  have hfold : ∀ segments : List (List Char),
      Alike (segments.foldl Url.advance names) (segments.foldl Url.advance names') := by
    intro segments
    induction segments generalizing names names' with
    | nil => exact h
    | cons segment segments ih => exact ih (h.advance segment)
  cases segments using List.reverseRecOn with
  | nil => exact h
  | append_singleton segments last =>
    rw [follow_concat, follow_concat]
    split
    · exact (hfold _).append rfl
    · exact hfold _

theorem Alike.fileSegments (h : Alike names names') :
    Alike (fileSegments names) (Url.fileSegments names') := by
  have hdrop : Alike (names.dropWhile List.isEmpty) (names'.dropWhile List.isEmpty) := by
    have hview := congrArg (List.dropWhile fun v => v.2.2) h
    rwa [List.dropWhile_map, List.dropWhile_map] at hview
  unfold Url.fileSegments
  cases hnames : names.dropWhile List.isEmpty <;>
    cases hnames' : names'.dropWhile List.isEmpty <;> simp_all [Alike]

/-! ### Empty segments at the start -/

theorem fileSegments_eq_self (hne : names ≠ [])
    (hfilled : ∀ name ∈ names.dropLast, name ≠ []) : fileSegments names = names := by
  obtain ⟨first, rest, rfl⟩ := List.exists_cons_of_ne_nil hne
  cases first with
  | cons c first => rfl
  | nil =>
    cases rest with
    | nil => rfl
    | cons next rest => exact absurd rfl (hfilled [] (by simp))

theorem fileSegments_ne_nil (names : List (List Char)) : fileSegments names ≠ [] := by
  unfold fileSegments
  split
  · simp
  next hne => exact hne

/-! ### Paths of segments -/

/-- The path that segments stand for. -/
def segmentsPath (names : List (List Char)) : Octets :=
  let path := Path.slashed (names.map Percent.decode)
  if endsInDrive path then path ++ [Path.slash] else path

theorem toFilePath?_segments (names : List (List Char)) (query fragment : Option (List Char)) :
    toFilePath? ⟨fileScheme, some {}, .segments names, query, fragment⟩ =
      some (segmentsPath names) := by
  rw [segmentsPath, Path.slashed, List.flatMap_map]
  rfl

theorem Alike.segmentsPath (h : Alike names names') :
    segmentsPath names = Url.segmentsPath names' := by
  have hdecode : names.map Percent.decode = names'.map Percent.decode := by
    have hview := congrArg (List.map (·.1)) h
    rwa [List.map_map, List.map_map] at hview
  unfold Url.segmentsPath
  rw [hdecode]

/-- Whether a path ends in the name of a drive can be told behind any of its slashes. -/
theorem endsInDrive_append (front rest : Octets) :
    endsInDrive (front ++ Path.slash :: rest) = endsInDrive (Path.slash :: rest) := by
  unfold endsInDrive
  rw [List.reverse_append, List.reverse_cons]
  rcases hrest : rest.reverse with _ | ⟨mark, _ | ⟨letter, tail⟩⟩
  · cases front.reverse with
    | nil => rfl
    | cons b bs => cases bs <;> rfl
  · cases front.reverse with
    | nil => rfl
    | cons b bs =>
      change ((mark == 0x3A || mark == 0x7C) && (Char.ofNat Path.slash.toNat).isAlpha) = false
      exact Bool.and_false _
  · cases tail <;> rfl

/-- Empty segments in front are slashes in front of the path. -/
theorem exists_slashed_fileSegments (hne : names ≠ []) :
    ∃ m, Path.slashed (names.map Percent.decode) =
      Path.slashed (List.replicate m []) ++
        Path.slashed ((fileSegments names).map Percent.decode) := by
  induction names with
  | nil => exact absurd rfl hne
  | cons first rest ih =>
    cases first with
    | cons c first => exact ⟨0, rfl⟩
    | nil =>
      cases rest with
      | nil => exact ⟨0, rfl⟩
      | cons next rest =>
        obtain ⟨m, hm⟩ := ih (List.cons_ne_nil next rest)
        refine ⟨m + 1, ?_⟩
        have hdrop : fileSegments ([] :: next :: rest) = fileSegments (next :: rest) := rfl
        have hslash : Path.slashed (([] :: next :: rest).map Percent.decode) =
            Path.slash :: Path.slashed ((next :: rest).map Percent.decode) := rfl
        rw [hdrop, hslash, hm, List.replicate_succ, Path.slashed_cons]
        rfl

/-! ### References to files -/

/-- Of a file's URL, what a reference without a scheme refers to depends on no segment but a drive
at the start, or the path is that of the base, or it is read behind the segments that lead to the
base. -/
theorem joinRelative_ofSegments_cases (cs : List Char) :
    (∃ outcome : List (List Char) → Except Fault Url,
      ∀ names, joinRelative (ofSegments names) cs = outcome (drive names)) ∨
    (∃ query fragment, ∀ names, joinRelative (ofSegments names) cs =
      .ok ⟨fileScheme, some {}, .segments names, query, fragment⟩) ∨
    (∀ c ∈ cs.head?, isSeparator true c = false) ∧
      ∃ query fragment, ∀ names, joinRelative (ofSegments names) cs =
        .ok ⟨fileScheme, some {},
          .segments (fileSegments (followPath fileScheme (parent true names) cs)), query,
          fragment⟩ := by
  by_cases hfragment : ∃ rest, cs = '#' :: rest
  · obtain ⟨rest, rfl⟩ := hfragment
    exact .inr (.inl ⟨_, _, fun names => rfl⟩)
  by_cases hquery : ∃ rest, cs = '?' :: rest
  · obtain ⟨rest, rfl⟩ := hquery
    exact .inr (.inl ⟨queryPart? true (afterPath ('?' :: rest)),
      fragmentPart? (afterPath ('?' :: rest)), fun names => rfl⟩)
  cases cs with
  | nil => exact .inr (.inl ⟨_, _, fun names => rfl⟩)
  | cons c rest =>
    have hjoin : ∀ names, joinRelative (ofSegments names) (c :: rest) =
        if isSeparator true c then
          if rest.head?.any (isSeparator true) then
            joinAuthority (ofSegments names) (c :: rest)
          else .ok (joinRooted (ofSegments names) names rest)
        else .ok (withPath (ofSegments names) (parent true names) (c :: rest)) := by
      intro names
      unfold joinRelative
      rw [isFile_ofSegments]
      split <;> simp_all [ofSegments]
    cases hseparator : isSeparator true c with
    | true =>
      refine .inl ?_
      simp only [hjoin, hseparator, if_true]
      by_cases htwo : rest.head?.any (isSeparator true) = true
      · simp only [htwo, if_true]
        exact ⟨fun _ => _, fun names => rfl⟩
      · refine ⟨fun d => .ok (if d ≠ [] && !startsWithDrive rest then fileUrl none d rest
          else withPath (ofSegments []) [] rest), fun names => ?_⟩
        rw [if_neg htwo]
        rfl
    | false =>
      simp only [hjoin, hseparator, Bool.false_eq_true, if_false]
      cases hdrive : startsWithDrive (c :: rest) with
      | true =>
        refine .inl ⟨fun _ => .ok (fileUrl none [] (c :: rest)), fun names => ?_⟩
        rw [withPath, if_pos (isFile_ofSegments names), if_pos hdrive]
      | false =>
        refine .inr (.inr ⟨by simpa using hseparator, queryPart? true (afterPath (c :: rest)),
          fragmentPart? (afterPath (c :: rest)), fun names => ?_⟩)
        rw [withPath, if_pos (isFile_ofSegments names), hdrive]
        rfl

/-! ### References that climb -/

/-- How far segments lead above where they start. Above a drive there has to be another segment,
or it would be the drive of the path. -/
def climb : List (List Char) → Nat
  | [] => 0
  | segment :: rest =>
    if isDotDot segment then climb rest + 1
    else if isDot segment then climb rest
    else if isDrive segment then max (climb rest - 1) 1
    else climb rest - 1

/-- How far a reference leads above its base; one that starts at the root does not. -/
def referenceClimb (s : String) : Nat :=
  let cs := significant s.toList
  if cs.head?.any (isSeparator true) then 0
  else climb (splitWhere (isSeparator true) (pathPart cs))

theorem ascend_append (above : List (List Char)) (h : names ≠ []) :
    ascend (above ++ names) = above ++ ascend names := by
  have hlast : (above ++ names).getLast? = names.getLast? :=
    List.getLast?_append_of_ne_nil above h
  unfold ascend
  rw [hlast, List.dropLast_append_of_ne_nil h]
  split <;> rfl

theorem length_ascend (names : List (List Char)) : names.length - 1 ≤ (ascend names).length := by
  unfold ascend
  split
  · exact Nat.sub_le _ _
  · exact Nat.le_of_eq List.length_dropLast.symm

theorem descend_append (above : List (List Char)) (h : isDrive segment = true → names ≠ []) :
    descend true (above ++ names) segment = above ++ descend true names segment := by
  cases hdrive : isDrive segment with
  | true =>
    rw [descend_of_ne_nil true (h hdrive),
      descend_of_ne_nil true (List.append_ne_nil_of_right_ne_nil above (h hdrive)),
      List.append_assoc]
  | false =>
    rw [descend_of_isDrive_eq_false true _ hdrive, descend_of_isDrive_eq_false true _ hdrive,
      List.append_assoc]

/-- One segment is followed behind others as it is without them, unless it climbs up to them. -/
theorem advance_append_of_climb (above : List (List Char))
    (h : climb (segment :: segments) ≤ names.length) :
    advance (above ++ names) segment = above ++ advance names segment ∧
      climb segments ≤ (advance names segment).length := by
  unfold climb at h
  unfold advance
  split at h
  next hup =>
    have hne : names ≠ [] := List.length_pos_iff.1 (by omega)
    have hlength := length_ascend names
    simp only [hup, if_true]
    exact ⟨ascend_append above hne, by omega⟩
  next hup =>
    split at h
    next hidle =>
      simp only [hup, hidle, if_true]
      exact ⟨rfl, h⟩
    next hidle =>
      have hlength := length_descend true names segment
      simp only [hup, hidle, Bool.false_eq_true, if_false]
      split at h
      next hdrive =>
        have hne : names ≠ [] := List.length_pos_iff.1 (by omega)
        exact ⟨descend_append above fun _ => hne, by omega⟩
      next hdrive => exact ⟨descend_append above fun h => absurd h hdrive, by omega⟩

/-- What segments do not climb up to stays as it is. -/
theorem follow_append_of_climb (above : List (List Char)) (h : climb segments ≤ names.length) :
    follow true (above ++ names) segments = above ++ follow true names segments := by
  have hfold : segments.foldl advance (above ++ names) = above ++ segments.foldl advance names := by
    induction segments generalizing names with
    | nil => rfl
    | cons segment segments ih =>
      obtain ⟨hstep, hrest⟩ := advance_append_of_climb above h
      rw [List.foldl_cons, List.foldl_cons, hstep, ih hrest]
  cases segments using List.reverseRecOn with
  | nil => rfl
  | append_singleton segments last =>
    rw [follow_concat, follow_concat, hfold]
    split
    · exact List.append_assoc above _ _
    · rfl

end DsigRegistry.Url
