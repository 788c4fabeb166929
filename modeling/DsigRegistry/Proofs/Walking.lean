import Mathlib.Data.List.Induction
import DsigRegistry.Url.FilePath

/-!
# Where names lead

Empty names and `.` lead nowhere, so that whether a directory is reached does not depend on them.
As there are no symbolic links, a name and a `..` behind it lead back, and names that lead to a
place still do if they are settled: without those that lead nowhere, and without those that are
taken back. Main facts: `Place.walk_settle`, `FileSystem.isDirectory_iff` and
`FileSystem.readOctets_of_sublist`.
-/

namespace DsigRegistry

/-! ### Names of paths -/

namespace Path

variable {names : List Octets} {name : Octets}

/-- Whether an octet separates names. -/
def isSlash (b : UInt8) : Bool := b == slash

theorem isSlash_eq_false_of_mem (hslash : ∀ name ∈ names, slash ∉ name) :
    ∀ name ∈ names, ∀ b ∈ name, isSlash b = false :=
  fun name hname _ hb => beq_eq_false_iff_ne.2 (ne_of_mem_of_not_mem hb (hslash name hname))

/-- The path with a slash in front of each name. -/
def slashed (names : List Octets) : Octets :=
  names.flatMap (slash :: ·)

theorem slashed_cons (name : Octets) (names : List Octets) :
    slashed (name :: names) = slash :: name ++ slashed names := rfl

theorem slashed_append (names names' : List Octets) :
    slashed (names ++ names') = slashed names ++ slashed names' :=
  List.flatMap_append

theorem slashed_eq_cons (h : names ≠ []) : ∃ rest, slashed names = slash :: rest := by
  obtain ⟨name, names, rfl⟩ := List.exists_cons_of_ne_nil h
  exact ⟨_, rfl⟩

theorem mem_slashed_iff {b : UInt8} (hb : b ≠ slash) :
    b ∈ slashed names ↔ ∃ name ∈ names, b ∈ name := by
  simp [slashed, hb]

theorem length_slashed_le_of_sublist {names' : List Octets} (h : names.Sublist names') :
    (slashed names).length ≤ (slashed names').length := by
  induction h with
  | slnil => exact Nat.le_refl _
  | cons name _ ih =>
    rw [slashed_cons, List.length_append]
    exact Nat.le_trans ih (Nat.le_add_left _ _)
  | cons_cons name _ ih =>
    rw [slashed_cons, slashed_cons, List.length_append, List.length_append]
    exact Nat.add_le_add_left ih _

theorem names_slashed (hslash : ∀ name ∈ names, slash ∉ name) :
    Path.names (slashed names) = [] :: names :=
  splitWhere_flatMap (p := isSlash) rfl (isSlash_eq_false_of_mem hslash)

theorem names_slashed_append (hslash : ∀ name ∈ names, slash ∉ name) (rest : Octets) :
    Path.names (slashed names ++ slash :: rest) = [] :: names ++ Path.names rest := by
  rw [← names_slashed hslash]
  exact splitWhere_append (p := isSlash) rfl _ rest

/-- The name leads nowhere. -/
def Idle (name : Octets) : Prop := name = [] ∨ name = dot

instance (name : Octets) : Decidable (Idle name) :=
  inferInstanceAs (Decidable (name = [] ∨ name = dot))

/-- The name leads down. -/
def Down (name : Octets) : Prop := ¬ Idle name ∧ name ≠ dotDot

/-- The names that say where such a path leads. -/
theorem pathNames_slashed (hslash : ∀ name ∈ names, slash ∉ name) :
    Url.pathNames (slashed names) = names.filter fun name => ¬ Idle name := by
  rw [Url.pathNames, names_slashed hslash]
  simp only [Idle, not_or, Bool.decide_and, ne_eq]
  rfl

/-- Names that are settled, and one more. -/
def settleStep (names : List Octets) (name : Octets) : List Octets :=
  if name = dotDot then names.dropLast
  else if Idle name then names
  else names ++ [name]

/-- The names without those that lead nowhere, and without those that are taken back by `..`. At
the root there is nothing to take back. -/
def settle (names : List Octets) : List Octets :=
  names.foldl settleStep []

@[simp] theorem settle_nil : settle [] = [] := rfl

theorem settle_concat (names : List Octets) (name : Octets) :
    settle (names ++ [name]) = settleStep (settle names) name := by
  rw [settle, settle, List.foldl_append]
  rfl

@[simp] theorem settleStep_dotDot (names : List Octets) :
    settleStep names dotDot = names.dropLast := rfl

theorem settleStep_of_idle (h : Idle name) : settleStep names name = names := by
  obtain rfl | rfl := h <;> rfl

theorem settleStep_of_down (h : Down name) : settleStep names name = names ++ [name] := by
  rw [settleStep, if_neg h.2, if_neg h.1]

/-- A name leads up, nowhere or down. -/
theorem name_cases (name : Octets) : name = dotDot ∨ Idle name ∨ Down name := by
  by_cases hup : name = dotDot
  · exact .inl hup
  · by_cases hidle : Idle name
    · exact .inr (.inl hidle)
    · exact .inr (.inr ⟨hidle, hup⟩)

theorem settleStep_sublist (names : List Octets) (name : Octets) :
    (settleStep names name).Sublist (names ++ [name]) := by
  rcases name_cases name with rfl | hidle | hdown
  · exact (List.dropLast_sublist _).trans (List.sublist_append_left _ _)
  · rw [settleStep_of_idle hidle]
    exact List.sublist_append_left _ _
  · simp [settleStep_of_down hdown]

theorem settle_sublist (names : List Octets) : (settle names).Sublist names := by
  induction names using List.reverseRecOn with
  | nil => exact .slnil
  | append_singleton names name ih =>
    rw [settle_concat]
    exact (settleStep_sublist _ _).trans (ih.append (List.Sublist.refl _))

theorem down_of_mem_settle (names : List Octets) : ∀ name ∈ settle names, Down name := by
  induction names using List.reverseRecOn with
  | nil => simp
  | append_singleton names name ih =>
    rw [settle_concat]
    rcases name_cases name with rfl | hidle | hdown
    · exact fun name' hname => ih name' (List.dropLast_subset _ hname)
    · rwa [settleStep_of_idle hidle]
    · rw [settleStep_of_down hdown]
      exact List.forall_mem_append.2 ⟨ih, by simpa using hdown⟩

/-- Behind settled names, those without a `..` only lose what leads nowhere. -/
theorem settle_append_of_no_dotDot (above : List Octets) {below : List Octets}
    (h : dotDot ∉ below) :
    settle (above ++ below) = settle above ++ below.filter fun name => ¬ Idle name := by
  induction below using List.reverseRecOn with
  | nil => simp
  | append_singleton below name ih =>
    simp only [List.mem_append, List.mem_singleton, not_or] at h
    rw [← List.append_assoc, settle_concat, ih h.1, List.filter_append]
    rcases name_cases name with rfl | hidle | hdown
    · exact absurd rfl h.2
    · simp [settleStep_of_idle hidle, hidle]
    · simp [settleStep_of_down hdown, hdown.1]

theorem settle_eq_filter (hup : dotDot ∉ names) :
    settle names = names.filter fun name => ¬ Idle name := by
  have hsettle := settle_append_of_no_dotDot [] hup
  rwa [List.nil_append, settle_nil, List.nil_append] at hsettle

/-- Names that lead nowhere do not count when names are settled. -/
theorem settle_filter (names : List Octets) :
    settle (names.filter fun name => ¬ Idle name) = settle names := by
  induction names using List.reverseRecOn with
  | nil => rfl
  | append_singleton names name ih =>
    rw [List.filter_append, settle_concat]
    by_cases hidle : Idle name
    · rw [settleStep_of_idle hidle, ← ih]
      simp [hidle]
    · have hkeep : ([name].filter fun name => ¬ Idle name) = [name] := by simp [hidle]
      rw [hkeep, settle_concat, ih]

/-! ### Settled names as they are shown -/

instance (name : Octets) : Decidable (Down name) :=
  inferInstanceAs (Decidable (¬ Idle name ∧ name ≠ dotDot))

/-- The last name does not lead down. -/
def endsOpen (names : List Octets) : Bool :=
  names.getLast?.any fun name => ¬ Down name

/-- The names that a URL shows of a path: settled names, and an empty one if the last name did not
lead down. -/
def shown (names : List Octets) : List Octets :=
  if endsOpen names then settle names ++ [[]] else settle names

theorem endsOpen_concat (names : List Octets) (name : Octets) :
    endsOpen (names ++ [name]) = decide (¬ Down name) := by
  rw [endsOpen, List.getLast?_concat]
  rfl

theorem shown_ne_nil (h : names ≠ []) : shown names ≠ [] := by
  cases names using List.reverseRecOn with
  | nil => exact absurd rfl h
  | append_singleton names last =>
    rw [shown, endsOpen_concat]
    split
    · simp
    next hdown =>
      rw [settle_concat, settleStep_of_down (by simpa using hdown)]
      simp

theorem filled_shown (names : List Octets) : ∀ name ∈ (shown names).dropLast, name ≠ [] := by
  have hfilled : ∀ name ∈ settle names, name ≠ [] :=
    fun name hname hnil => (down_of_mem_settle names name hname).1 (.inl hnil)
  unfold shown
  split
  · rwa [List.dropLast_concat]
  · exact fun name hname => hfilled name (List.dropLast_subset _ hname)

theorem filter_shown (names : List Octets) :
    ((shown names).filter fun name => ¬ Idle name) = settle names := by
  have hdown : ((settle names).filter fun name => ¬ Idle name) = settle names :=
    List.filter_eq_self.2 fun name hname => by simpa using (down_of_mem_settle names name hname).1
  unfold shown
  split
  · rw [List.filter_append, hdown]
    exact List.append_nil _
  · exact hdown

/-- Names with nothing to settle are shown as they are. -/
theorem shown_eq_self (hne : names ≠ []) (hfilled : ∀ name ∈ names.dropLast, name ≠ [])
    (hdot : dot ∉ names) (hup : dotDot ∉ names) : shown names = names := by
  cases names using List.reverseRecOn with
  | nil => exact absurd rfl hne
  | append_singleton names last =>
    rw [List.dropLast_concat] at hfilled
    simp only [List.mem_append, List.mem_singleton, not_or] at hdot hup
    have hnames : settle names = names := by
      rw [settle_eq_filter hup.1, List.filter_eq_self]
      intro name hname
      exact decide_eq_true (not_or.2 ⟨hfilled name hname, ne_of_mem_of_not_mem hname hdot.1⟩)
    rw [shown, endsOpen_concat, settle_concat, hnames]
    rcases name_cases last with rfl | (rfl | rfl) | hdown
    · exact absurd rfl hup.2
    · rfl
    · exact absurd rfl hdot.2
    · rw [if_neg (by simpa using hdown), settleStep_of_down hdown]

/-- What is shown of a path is no longer than the path. -/
theorem length_slashed_shown_le (h : names ≠ []) :
    (slashed (shown names)).length ≤ (slashed names).length := by
  cases names using List.reverseRecOn with
  | nil => exact absurd rfl h
  | append_singleton names last =>
    rw [shown, endsOpen_concat]
    split
    next hopen =>
      have hsettle : (settle (names ++ [last])).Sublist names := by
        rw [settle_concat]
        rcases name_cases last with rfl | hidle | hdown
        · exact (List.dropLast_sublist _).trans (settle_sublist names)
        · rw [settleStep_of_idle hidle]
          exact settle_sublist names
        · simp [hdown] at hopen
      have hlength := length_slashed_le_of_sublist hsettle
      simp only [slashed_append, List.length_append]
      exact Nat.add_le_add hlength (by simp [slashed])
    · exact length_slashed_le_of_sublist (settle_sublist _)

end Path

/-! ### Places in a tree -/

namespace Place

open DsigRegistry.Path

variable {p q : Place} {name : Octets} {names : List Octets}

theorem step_of_not_directory (h : p.node.isDirectory = false) (name : Octets) :
    p.step name = .error .notADirectory := by
  rw [step, if_neg (by simp [h])]

theorem step_of_idle (h : p.node.isDirectory = true) (hidle : Idle name) : p.step name = .ok p := by
  have hidle : name = [] ∨ name = dot := hidle
  rw [step, if_pos h, if_pos hidle]

/-- The root is its own parent. -/
theorem step_dotDot_of_nil (h : p.node.isDirectory = true) (habove : p.above = []) :
    p.step dotDot = .ok p := by
  rw [step, if_pos h, if_neg (by decide), if_pos rfl, habove]

theorem step_dotDot_of_cons {parent : FileTree} {above : List FileTree}
    (h : p.node.isDirectory = true) (habove : p.above = parent :: above) :
    p.step dotDot = .ok ⟨parent, above⟩ := by
  rw [step, if_pos h, if_neg (by decide), if_pos rfl, habove]

theorem isDirectory_of_step (h : p.step name = .ok q) : p.node.isDirectory = true := by
  by_contra hfile
  rw [step_of_not_directory (by simpa using hfile)] at h
  cases h

/-- A name that leads down leads below the place. -/
theorem above_of_step (hdown : Down name) (h : p.step name = .ok q) :
    q.above = p.node :: p.above := by
  have hidle : ¬ (name = [] ∨ name = dot) := hdown.1
  rw [step, if_pos (isDirectory_of_step h), if_neg hidle, if_neg hdown.2] at h
  split at h
  · cases h
  · split at h
    · cases h
    · cases h
      rfl

theorem walk_cons (p : Place) (name : Octets) (names : List Octets) :
    p.walk (name :: names) = p.step name >>= fun q => q.walk names := by
  rw [walk, List.foldlM_cons]
  rfl

theorem walk_append (p : Place) (names names' : List Octets) :
    p.walk (names ++ names') = p.walk names >>= fun q => q.walk names' := by
  rw [walk, List.foldlM_append]
  rfl

theorem walk_append_of_ok (h : p.walk names = .ok q) (names' : List Octets) :
    p.walk (names ++ names') = q.walk names' := by
  rw [walk_append, h]
  rfl

theorem walk_concat_eq_ok_iff :
    p.walk (names ++ [name]) = .ok q ↔ ∃ p', p.walk names = .ok p' ∧ p'.step name = .ok q := by
  rw [walk_append]
  cases p.walk names with
  | error e => simp [bind, Except.bind]
  | ok p' =>
    change (p'.step name >>= pure) = .ok q ↔ _
    rw [bind_pure]
    simp

/-- The names lead to a directory. -/
def LeadsToDirectory (p : Place) (names : List Octets) : Prop :=
  ∃ q, p.walk names = .ok q ∧ q.node.isDirectory = true

theorem LeadsToDirectory.of_cons (h : p.LeadsToDirectory (name :: names)) :
    ∃ q, p.step name = .ok q ∧ q.LeadsToDirectory names := by
  obtain ⟨q, hq, hdirectory⟩ := h
  rw [walk_cons] at hq
  cases hstep : p.step name with
  | error e =>
    rw [hstep] at hq
    cases hq
  | ok p' =>
    rw [hstep] at hq
    exact ⟨p', rfl, q, hq, hdirectory⟩

theorem leadsToDirectory_cons_iff :
    p.LeadsToDirectory (name :: names) ↔ ∃ q, p.step name = .ok q ∧ q.LeadsToDirectory names := by
  refine ⟨LeadsToDirectory.of_cons, ?_⟩
  rintro ⟨p', hstep, q, hq, hdirectory⟩
  refine ⟨q, ?_, hdirectory⟩
  rw [walk_cons, hstep]
  exact hq

theorem LeadsToDirectory.isDirectory (h : p.LeadsToDirectory names) :
    p.node.isDirectory = true := by
  cases names with
  | nil =>
    obtain ⟨q, hq, hdirectory⟩ := h
    cases hq
    exact hdirectory
  | cons name names =>
    obtain ⟨q, hstep, -⟩ := h.of_cons
    exact isDirectory_of_step hstep

theorem leadsToDirectory_cons_of_idle (hidle : Idle name) :
    p.LeadsToDirectory (name :: names) ↔ p.LeadsToDirectory names := by
  rw [leadsToDirectory_cons_iff]
  constructor
  · rintro ⟨q, hstep, h⟩
    rw [step_of_idle (isDirectory_of_step hstep) hidle] at hstep
    cases hstep
    exact h
  · exact fun h => ⟨p, step_of_idle h.isDirectory hidle, h⟩

/-- Names that lead nowhere do not count. -/
theorem leadsToDirectory_filter (p : Place) (names : List Octets) :
    p.LeadsToDirectory (names.filter fun name => ¬ Idle name) ↔ p.LeadsToDirectory names := by
  induction names generalizing p with
  | nil => exact .rfl
  | cons name names ih =>
    by_cases hidle : Idle name
    · rw [leadsToDirectory_cons_of_idle hidle, ← ih p]
      simp [hidle]
    · have hkeep : (name :: names).filter (fun name => ¬ Idle name) =
          name :: names.filter fun name => ¬ Idle name := by simp [hidle]
      rw [hkeep, leadsToDirectory_cons_iff, leadsToDirectory_cons_iff]
      simp only [ih]

theorem walk_replicate (h : p.node.isDirectory = true) (m : Nat) :
    p.walk (List.replicate m []) = .ok p := by
  induction m with
  | zero => rfl
  | succ m ih =>
    rw [List.replicate_succ, walk_cons, step_of_idle h (.inl rfl)]
    exact ih

/-- From the root, names that lead to a place still do if they are settled. -/
theorem walk_settle {tree : FileTree} (h : walk ⟨tree, []⟩ names = .ok q) :
    walk ⟨tree, []⟩ (settle names) = .ok q := by
  induction names using List.reverseRecOn generalizing q with
  | nil => exact h
  | append_singleton names name ih =>
    obtain ⟨p, hp, hstep⟩ := walk_concat_eq_ok_iff.1 h
    have hdirectory := isDirectory_of_step hstep
    rw [settle_concat]
    rcases name_cases name with rfl | hidle | hdown
    · have hsettled := ih hp
      have hnames := down_of_mem_settle names
      rw [settleStep_dotDot]
      cases hlast : settle names using List.reverseRecOn with
      | nil =>
        rw [hlast] at hsettled
        cases hsettled
        rwa [step_dotDot_of_nil hdirectory rfl] at hstep
      | append_singleton settled last =>
        -- The place above is the one that the settled names lead to without the last.
        rw [hlast] at hsettled hnames
        obtain ⟨parent, hparent, hlastStep⟩ := walk_concat_eq_ok_iff.1 hsettled
        rw [step_dotDot_of_cons hdirectory (above_of_step (hnames last (by simp)) hlastStep)]
          at hstep
        cases hstep
        rw [List.dropLast_concat]
        exact hparent
    · rw [step_of_idle hdirectory hidle] at hstep
      cases hstep
      rw [settleStep_of_idle hidle]
      exact ih hp
    · rw [settleStep_of_down hdown]
      exact walk_concat_eq_ok_iff.2 ⟨p, ih hp, hstep⟩

end Place

/-! ### Paths in a file system -/

namespace FileSystem

open DsigRegistry.Path

variable {fs : FileSystem} {path : Octets}

/-- The place at which absolute paths start. -/
def top (fs : FileSystem) : Place := ⟨fs.root, []⟩

/-- What an absolute path leads to. -/
theorem find_of_isAbsolute (habsolute : isAbsolute path = true) (hnul : 0 ∉ path)
    (hlength : path.length < lengthLimit) :
    fs.find path = (fs.top.walk (Path.names path)).map (·.node) := by
  have hne : path ≠ [] := by
    rintro rfl
    cases habsolute
  rw [find, if_neg (by simpa using hnul), if_neg (Nat.not_le.2 hlength), if_neg hne,
    namesFromRoot, if_pos habsolute]
  rfl

/-- Below a directory, a path is followed from there. -/
theorem find_below {dirs : List Octets} {q : Place} (hwalk : fs.top.walk dirs = .ok q)
    (hdirectory : q.node.isDirectory = true) (hslash : ∀ name ∈ dirs, slash ∉ name)
    (hnul : ∀ name ∈ dirs, 0 ∉ name) (rest : Octets)
    (hlength : (slashed dirs ++ slash :: rest).length < lengthLimit) :
    fs.find (slashed dirs ++ slash :: rest) =
      if 0 ∈ rest then .error .nulInName else (q.walk (Path.names rest)).map (·.node) := by
  have hmem : 0 ∈ slashed dirs ++ slash :: rest ↔ 0 ∈ rest := by
    rw [List.mem_append, mem_slashed_iff (by decide)]
    simp only [List.mem_cons]
    constructor
    · rintro (⟨name, hname, hzero⟩ | hzero | hzero)
      · exact absurd hzero (hnul name hname)
      · exact absurd hzero (by decide)
      · exact hzero
    · exact fun hzero => .inr (.inr hzero)
  by_cases hrest : 0 ∈ rest
  · rw [if_pos hrest, find, if_pos (by simpa using hmem.2 hrest)]
  · have habsolute : isAbsolute (slashed dirs ++ slash :: rest) = true := by
      cases dirs <;> rfl
    have htop : fs.top.walk ([] :: dirs) = .ok q := by
      rw [Place.walk_cons, Place.step_of_idle (Place.LeadsToDirectory.isDirectory
        ⟨q, hwalk, hdirectory⟩) (.inl rfl)]
      exact hwalk
    rw [if_neg hrest, find_of_isAbsolute habsolute (mt hmem.1 hrest) hlength,
      names_slashed_append hslash, Place.walk_append_of_ok htop]

/-- Below a directory, it makes no difference if names on the way there are left out. -/
theorem readOctets_of_sublist {dirs dirs' : List Octets} {q : Place} (hdirs : dirs'.Sublist dirs)
    (hwalk : fs.top.walk dirs = .ok q) (hwalk' : fs.top.walk dirs' = .ok q)
    (hdirectory : q.node.isDirectory = true) (hslash : ∀ name ∈ dirs, slash ∉ name)
    (hnul : ∀ name ∈ dirs, 0 ∉ name) (rest : Octets)
    (hlength : (slashed dirs ++ slash :: rest).length < lengthLimit) :
    fs.readOctets (slashed dirs' ++ slash :: rest) =
      fs.readOctets (slashed dirs ++ slash :: rest) := by
  have hlength' : (slashed dirs' ++ slash :: rest).length < lengthLimit := by
    have hle := length_slashed_le_of_sublist hdirs
    simp only [List.length_append] at hlength ⊢
    omega
  have hslash' : ∀ name ∈ dirs', slash ∉ name := fun name hname => hslash name (hdirs.subset hname)
  have hnul' : ∀ name ∈ dirs', 0 ∉ name := fun name hname => hnul name (hdirs.subset hname)
  unfold readOctets
  rw [find_below hwalk hdirectory hslash hnul rest hlength,
    find_below hwalk' hdirectory hslash' hnul' rest hlength']

/-- An absolute path leads to a directory if its names do that do not lead nowhere. -/
theorem isDirectory_iff (habsolute : isAbsolute path = true) :
    fs.isDirectory path = true ↔
      0 ∉ path ∧ path.length < lengthLimit ∧ fs.top.LeadsToDirectory (Url.pathNames path) := by
  have hnames : Url.pathNames path = (Path.names path).filter fun name => ¬ Idle name := by
    simp only [Url.pathNames, Idle, not_or, Bool.decide_and, ne_eq]
  rw [hnames, Place.leadsToDirectory_filter]
  by_cases hnul : 0 ∈ path
  · have herror : fs.find path = .error .nulInName := by rw [find, if_pos (by simpa using hnul)]
    simp [isDirectory, herror, hnul]
  by_cases hlength : path.length < lengthLimit
  · rw [isDirectory, find_of_isAbsolute habsolute hnul hlength]
    unfold Place.LeadsToDirectory
    cases fs.top.walk (Path.names path) with
    | error e => simp [Except.map]
    | ok p => simp [Except.map, hnul, hlength]
  · have herror : fs.find path = .error .nameTooLong := by
      rw [find, if_neg (by simpa using hnul), if_pos (Nat.not_lt.1 hlength)]
    simp [isDirectory, herror, hlength]

end FileSystem

end DsigRegistry
