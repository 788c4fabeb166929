import DsigRegistry.Proofs.Call
import Mathlib.Logic.Function.Basic
import Mathlib.Logic.Relation

/-!
# Bootstraps from several threads

A registry may be bootstrapped by any number of threads at the same time, each with a load of its
own. A thread that finds no report takes a gate and looks again before it loads, and it publishes
its report before it releases the gate. Here these are the steps of a relation, a load being two of
them, so that others may take place while it runs. Main facts: loads do not overlap, at most one
of them succeeds, and none starts once a report is published.
-/

namespace DsigRegistry.Gate

variable {ι σ ρ ε : Type}

/-- Where a thread is in its call. -/
inductive Pc (ρ ε : Type) where
  /-- About to read the report without the gate. -/
  | entering
  /-- There was no report; the thread wants the gate. -/
  | waiting
  /-- The thread has the gate and is about to read the report again. -/
  | checking
  /-- There still was no report; the thread is about to load. -/
  | cleared
  | loading
  /-- The load has made a report, which is about to be published. -/
  | loaded (report : ρ)
  /-- The thread is about to release the gate. -/
  | leaving (outcome : Except ε ρ)
  | returned (outcome : Except ε ρ)

/-- What a thread does that others can notice. -/
inductive Event (ρ ε : Type) where
  /-- The load of the thread starts. -/
  | started
  | finished (outcome : Except ε ρ)
  | published (report : ρ)

/-- The load of a thread has made a report. -/
def Event.isSuccess : Event ρ ε → Bool
  | .finished (.ok _) => true
  | _ => false

/-- What the threads share, where each of them is, and what has happened, the earliest first. -/
structure State (ι σ ρ ε : Type) where
  /-- What the loads work on. -/
  world : σ
  /-- The thread that has the gate. -/
  gate : Option ι
  report : Option ρ
  pc : ι → Pc ρ ε
  history : List (ι × Event ρ ε)

namespace State

/-- Every thread is about to enter. -/
def initial (world : σ) : State ι σ ρ ε where
  world := world
  gate := none
  report := none
  pc _ := .entering
  history := []

variable [DecidableEq ι]

/-- The thread is somewhere else, with events on the way. -/
def move (s : State ι σ ρ ε) (t : ι) (pc : Pc ρ ε) (events : List (Event ρ ε)) :
    State ι σ ρ ε :=
  { s with
    pc := Function.update s.pc t pc
    history := s.history ++ events.map fun e => (t, e) }

end State

/-- The events of one thread. -/
def eventsOf [DecidableEq ι] (history : List (ι × Event ρ ε)) (t : ι) : List (Event ρ ε) :=
  (history.filter fun x => x.1 = t).map (·.2)

variable [DecidableEq ι]

/-- One step of a thread. `load t` is the load of the thread, applied to what it finds. -/
inductive Step (load : ι → σ → σ × Except ε ρ) (s : State ι σ ρ ε) (t : ι) :
    State ι σ ρ ε → Prop where
  | readReport {r : ρ} (hpc : s.pc t = .entering) (hreport : s.report = some r) :
      Step load s t (s.move t (.returned (.ok r)) [])
  | readNothing (hpc : s.pc t = .entering) (hreport : s.report = none) :
      Step load s t (s.move t .waiting [])
  | acquire (hpc : s.pc t = .waiting) (hgate : s.gate = none) :
      Step load s t { s.move t .checking [] with gate := some t }
  | rereadReport {r : ρ} (hpc : s.pc t = .checking) (hreport : s.report = some r) :
      Step load s t (s.move t (.leaving (.ok r)) [])
  | rereadNothing (hpc : s.pc t = .checking) (hreport : s.report = none) :
      Step load s t (s.move t .cleared [])
  | startLoad (hpc : s.pc t = .cleared) :
      Step load s t (s.move t .loading [.started])
  | finishLoad {w : σ} {r : ρ} (hpc : s.pc t = .loading) (hload : load t s.world = (w, .ok r)) :
      Step load s t { s.move t (.loaded r) [.finished (.ok r)] with world := w }
  | failLoad {w : σ} {e : ε} (hpc : s.pc t = .loading) (hload : load t s.world = (w, .error e)) :
      Step load s t { s.move t (.leaving (.error e)) [.finished (.error e)] with world := w }
  /-- A report that is there already stays. -/
  | publish {r r' : ρ} (hpc : s.pc t = .loaded r) (hreport : s.report.getD r = r') :
      Step load s t { s.move t (.leaving (.ok r')) [.published r'] with report := some r' }
  | release {outcome : Except ε ρ} (hpc : s.pc t = .leaving outcome) :
      Step load s t { s.move t (.returned outcome) [] with gate := none }

/-- Any number of steps, of any threads in any order. -/
def Steps (load : ι → σ → σ × Except ε ρ) : State ι σ ρ ε → State ι σ ρ ε → Prop :=
  Relation.ReflTransGen fun s s' => ∃ t, Step load s t s'

/-- The states that the threads can get into. -/
def Reachable (load : ι → σ → σ × Except ε ρ) (world : σ) (s : State ι σ ρ ε) : Prop :=
  Steps load (.initial world) s

/-! ### The invariant -/

namespace Pc

/-- The thread has the gate. -/
def Inside : Pc ρ ε → Prop
  | .checking | .cleared | .loading | .loaded _ | .leaving _ => True
  | .entering | .waiting | .returned _ => False

/-- The thread has the gate and has found no report. -/
def Clear : Pc ρ ε → Prop
  | .cleared | .loading | .loaded _ => True
  | .entering | .waiting | .checking | .leaving _ | .returned _ => False

/-- The thread has the report as its answer. -/
def Answers (r : ρ) : Pc ρ ε → Prop
  | .leaving outcome | .returned outcome => outcome = .ok r
  | .entering | .waiting | .checking | .cleared | .loading | .loaded _ => False

end Pc

/-- The events of a call: none of its own if the report was there. -/
inductive Answered : Except ε ρ → List (Event ρ ε) → Prop where
  | seen (r : ρ) : Answered (.ok r) []
  | published (r : ρ) : Answered (.ok r) [.started, .finished (.ok r), .published r]
  | failed (e : ε) : Answered (.error e) [.started, .finished (.error e)]

/-- The events of a thread, by where it is. -/
def Trace (events : List (Event ρ ε)) : Pc ρ ε → Prop
  | .entering | .waiting | .checking | .cleared => events = []
  | .loading => events = [.started]
  | .loaded r => events = [.started, .finished (.ok r)]
  | .leaving outcome | .returned outcome => Answered outcome events

/-- What holds in every state that the threads can get into. -/
structure Invariant (load : ι → σ → σ × Except ε ρ) (s : State ι σ ρ ε) : Prop where
  gate : ∀ t, (s.pc t).Inside ↔ s.gate = some t
  clear : ∀ t, (s.pc t).Clear → s.report = none
  trace : ∀ t, Trace (eventsOf s.history t) (s.pc t)
  finished : ∀ t outcome, (t, .finished outcome) ∈ s.history → ∃ w, (load t w).2 = outcome
  answered : ∀ t r, (s.pc t).Answers r → s.report = some r
  published : ∀ r, s.report = some r ↔ ∃ t, (t, .published r) ∈ s.history
  /-- Before a report is published or about to be, no load has succeeded. -/
  unsuccessful : s.report = none → (∀ t r, s.pc t ≠ .loaded r) →
    ∀ x ∈ s.history, x.2.isSuccess = false
  successes : (s.history.filter fun x => x.2.isSuccess).length ≤ 1
  startedBefore : ∀ before t, before ++ [(t, .started)] <+: s.history →
    ∀ u r, (u, .published r) ∉ before
  finishedBefore : ∀ before t r, before ++ [(t, .published r)] <+: s.history →
    (t, .finished (.ok r)) ∈ before

theorem Answered.of_error {e : ε} {events : List (Event ρ ε)}
    (h : Answered (.error e) events) : events = [.started, .finished (.error e)] := by
  cases h
  rfl

/-! ### Histories -/

section History

variable {history : List (ι × Event ρ ε)} {t u : ι} {e : Event ρ ε}

theorem mem_eventsOf : e ∈ eventsOf history t ↔ (t, e) ∈ history := by
  simp [eventsOf]

@[simp] theorem eventsOf_append_self :
    eventsOf (history ++ [(t, e)]) t = eventsOf history t ++ [e] := by
  simp [eventsOf]

theorem eventsOf_append_of_ne (h : u ≠ t) :
    eventsOf (history ++ [(t, e)]) u = eventsOf history u := by
  simp [eventsOf, h.symm]

end History

/-! ### Steps -/

variable {load : ι → σ → σ × Except ε ρ} {s s' : State ι σ ρ ε} {t u : ι}

namespace State

variable (s) (t) (pc : Pc ρ ε) (events : List (Event ρ ε))

@[simp] theorem pc_move_self : (s.move t pc events).pc t = pc := by
  simp [move]

@[simp] theorem pc_move_of_ne (h : u ≠ t) : (s.move t pc events).pc u = s.pc u := by
  simp [move, h]

@[simp] theorem world_move : (s.move t pc events).world = s.world := rfl

@[simp] theorem gate_move : (s.move t pc events).gate = s.gate := rfl

@[simp] theorem report_move : (s.move t pc events).report = s.report := rfl

@[simp] theorem history_move :
    (s.move t pc events).history = s.history ++ events.map fun e => (t, e) := rfl

end State

theorem Pc.Clear.inside {pc : Pc ρ ε} (h : pc.Clear) : pc.Inside := by
  cases pc <;> trivial

/-- A step of one thread moves no other. -/
theorem Step.pc_of_ne (h : Step load s t s') (hu : u ≠ t) : s'.pc u = s.pc u := by
  cases h <;> simp [hu]

/-- A step adds at most one event. -/
theorem Step.history_eq (h : Step load s t s') :
    s'.history = s.history ∨ ∃ e, s'.history = s.history ++ [(t, e)] := by
  cases h <;> simp

theorem Step.report_of_some (h : Step load s t s') {r : ρ} (hr : s.report = some r) :
    s'.report = some r := by
  cases h with
  | publish hpc hreport =>
    rw [hr] at hreport
    simpa using hreport.symm
  | _ => exact hr

namespace Invariant

theorem initial (world : σ) : Invariant load (.initial world) where
  gate t := by simp [State.initial, Pc.Inside]
  clear t h := rfl
  trace t := rfl
  finished t outcome h := by simp [State.initial] at h
  answered t r h := h.elim
  published r := by simp [State.initial]
  unsuccessful _ _ := by simp [State.initial]
  successes := by simp [State.initial]
  startedBefore before t h := by simp [State.initial] at h
  finishedBefore before t r h := by simp [State.initial] at h

/-- At most one thread has the gate. -/
theorem inside_unique (hs : Invariant load s) (ht : (s.pc t).Inside) (hu : (s.pc u).Inside) :
    t = u :=
  Option.some.inj (((hs.gate t).1 ht).symm.trans ((hs.gate u).1 hu))

theorem trace_at (hs : Invariant load s) {pc : Pc ρ ε} (hpc : s.pc t = pc) :
    Trace (eventsOf s.history t) pc :=
  hpc ▸ hs.trace t

variable (hs : Invariant load s) (h : Step load s t s')
include hs h

theorem gate_step (u : ι) : (s'.pc u).Inside ↔ s'.gate = some u := by
  have hu := hs.gate u
  by_cases hut : u = t
  · subst hut
    cases h <;> simp_all [Pc.Inside]
  · have ht := hs.gate t
    rw [h.pc_of_ne hut]
    cases h <;> simp_all [Pc.Inside, eq_comm]

/-- While a thread is clear, no other thread publishes. -/
theorem clear_step (u : ι) (hu : (s'.pc u).Clear) : s'.report = none := by
  by_cases hut : u = t
  · subst hut
    have ht := hs.clear u
    cases h <;> simp_all [Pc.Clear]
  · rw [h.pc_of_ne hut] at hu
    have hnone := hs.clear u hu
    cases h with
    | publish hpc hreport =>
      have ht : (s.pc t).Inside := by simp [hpc, Pc.Inside]
      exact absurd (hs.inside_unique hu.inside ht) hut
    | _ => exact hnone

theorem answered_step (u : ι) (r : ρ) (hu : (s'.pc u).Answers r) : s'.report = some r := by
  by_cases hut : u = t
  · subst hut
    have ht := hs.answered u
    cases h <;> simp_all [Pc.Answers]
  · rw [h.pc_of_ne hut] at hu
    exact h.report_of_some (hs.answered u r hu)

theorem trace_step (u : ι) : Trace (eventsOf s'.history u) (s'.pc u) := by
  have hu := hs.trace u
  by_cases hut : u = t
  · subst hut
    cases h with
    | readReport hpc hreport =>
      have hevents : eventsOf s.history u = [] := hs.trace_at hpc
      simpa [Trace, hevents] using Answered.seen _
    | rereadReport hpc hreport =>
      have hevents : eventsOf s.history u = [] := hs.trace_at hpc
      simpa [Trace, hevents] using Answered.seen _
    | startLoad hpc =>
      have hevents : eventsOf s.history u = [] := hs.trace_at hpc
      simp [Trace, hevents]
    | finishLoad hpc hload =>
      have hevents : eventsOf s.history u = [.started] := hs.trace_at hpc
      simp [Trace, hevents]
    | failLoad hpc hload =>
      have hevents : eventsOf s.history u = [.started] := hs.trace_at hpc
      simpa [Trace, hevents] using Answered.failed _
    | publish hpc hreport =>
      have hnone := hs.clear u (by simp [hpc, Pc.Clear])
      rw [hnone, Option.getD_none] at hreport
      subst hreport
      have hevents : eventsOf s.history u = [.started, .finished (.ok _)] := hs.trace_at hpc
      simpa [Trace, hevents] using Answered.published _
    | readNothing hpc hreport => simpa [hpc, Trace] using hu
    | acquire hpc hgate => simpa [hpc, Trace] using hu
    | rereadNothing hpc hreport => simpa [hpc, Trace] using hu
    | release hpc => simpa [hpc, Trace] using hu
  · rw [h.pc_of_ne hut]
    rcases h.history_eq with hh | ⟨e, hh⟩
    · rw [hh]
      exact hu
    · rw [hh, eventsOf_append_of_ne hut]
      exact hu

theorem finished_step (u : ι) (outcome : Except ε ρ)
    (hu : (u, .finished outcome) ∈ s'.history) : ∃ w, (load u w).2 = outcome := by
  have hold := hs.finished u outcome
  cases h with
  | finishLoad hpc hload | failLoad hpc hload =>
    rw [State.history_move, List.map_singleton, List.mem_append, List.mem_singleton] at hu
    rcases hu with hu | hu
    · exact hold hu
    · cases hu
      exact ⟨s.world, congrArg Prod.snd hload⟩
  | _ => exact hold (by simpa using hu)

theorem published_step (r : ρ) :
    s'.report = some r ↔ ∃ u, (u, .published r) ∈ s'.history := by
  cases h with
  | @publish r₀ r' hpc hreport =>
    have hnone := hs.clear t (by simp [hpc, Pc.Clear])
    have hold : ∀ u, (u, Event.published r) ∉ s.history := by
      intro u hu
      exact absurd ((hs.published r).2 ⟨u, hu⟩) (by simp [hnone])
    simp [hold, eq_comm]
  | _ => simp [hs.published]

theorem unsuccessful_step (hreport : s'.report = none) (hloaded : ∀ u r, s'.pc u ≠ .loaded r) :
    ∀ x ∈ s'.history, x.2.isSuccess = false := by
  have hold : (∀ r, s.pc t ≠ .loaded r) → s.report = none →
      ∀ x ∈ s.history, x.2.isSuccess = false := by
    intro ht hnone
    refine hs.unsuccessful hnone fun u r hu => ?_
    by_cases hut : u = t
    · exact ht r (hut ▸ hu)
    · exact hloaded u r ((h.pc_of_ne hut).trans hu)
  cases h with
  | @finishLoad w r hpc hload => exact absurd (State.pc_move_self s t (.loaded r) []) (hloaded t r)
  | publish hpc hreport' => exact absurd hreport (by simp)
  | _ =>
    have hs' := hold (by simp_all) hreport
    simpa [Event.isSuccess, or_imp, forall_and] using hs'

theorem successes_step : (s'.history.filter fun x => x.2.isSuccess).length ≤ 1 := by
  have hold := hs.successes
  cases h with
  | finishLoad hpc hload =>
    -- The thread has the gate, so no other has a report that it is about to publish.
    have hnone := hs.clear t (by simp [hpc, Pc.Clear])
    have hloaded : ∀ u r, s.pc u ≠ .loaded r := by
      intro u r hu
      obtain rfl := hs.inside_unique (t := t) (u := u) (by simp [hpc, Pc.Inside])
        (by simp [hu, Pc.Inside])
      exact absurd (hpc.symm.trans hu) (by simp)
    have hempty : s.history.filter (fun x => x.2.isSuccess) = [] := by
      rw [List.filter_eq_nil_iff]
      intro x hx
      simp [hs.unsuccessful hnone hloaded x hx]
    rw [State.history_move, List.filter_append, hempty]
    simp [Event.isSuccess]
  | _ => simpa [Event.isSuccess] using hold

theorem startedBefore_step (before : List (ι × Event ρ ε)) (u : ι)
    (hu : before ++ [(u, .started)] <+: s'.history) : ∀ v r, (v, .published r) ∉ before := by
  cases h with
  | startLoad hpc =>
    rw [State.history_move, List.map_singleton, List.prefix_concat_iff] at hu
    rcases hu with heq | hu
    · obtain ⟨rfl, -⟩ := List.append_inj' heq rfl
      intro v r hv
      have hnone := hs.clear t (by simp [hpc, Pc.Clear])
      exact absurd ((hs.published r).2 ⟨v, hv⟩) (by simp [hnone])
    · exact hs.startedBefore before u hu
  | _ =>
    refine hs.startedBefore before u ?_
    simpa [List.prefix_concat_iff] using hu

theorem finishedBefore_step (before : List (ι × Event ρ ε)) (u : ι) (r : ρ)
    (hu : before ++ [(u, .published r)] <+: s'.history) : (u, .finished (.ok r)) ∈ before := by
  cases h with
  | publish hpc hreport =>
    have hnone := hs.clear t (by simp [hpc, Pc.Clear])
    rw [hnone, Option.getD_none] at hreport
    subst hreport
    rw [State.history_move, List.map_singleton, List.prefix_concat_iff] at hu
    rcases hu with heq | hu
    · obtain ⟨rfl, hlast⟩ := List.append_inj' heq rfl
      simp only [List.cons.injEq, Prod.mk.injEq, Event.published.injEq, and_true] at hlast
      obtain ⟨rfl, rfl⟩ := hlast
      have hevents : eventsOf s.history u = [.started, .finished (.ok r)] := hs.trace_at hpc
      rw [← mem_eventsOf, hevents]
      simp
    · exact hs.finishedBefore before u r hu
  | startLoad hpc | finishLoad hpc hload | failLoad hpc hload =>
    refine hs.finishedBefore before u r ?_
    simpa [List.prefix_concat_iff] using hu
  | _ =>
    refine hs.finishedBefore before u r ?_
    simpa using hu

theorem step : Invariant load s' where
  gate := hs.gate_step h
  clear := hs.clear_step h
  trace := hs.trace_step h
  finished := hs.finished_step h
  answered := hs.answered_step h
  published := hs.published_step h
  unsuccessful := hs.unsuccessful_step h
  successes := hs.successes_step h
  startedBefore := hs.startedBefore_step h
  finishedBefore := hs.finishedBefore_step h

end Invariant

theorem Reachable.invariant {world : σ} (h : Reachable load world s) : Invariant load s := by
  induction h with
  | refl => exact .initial world
  | tail _ hstep ih =>
    obtain ⟨t, hstep⟩ := hstep
    exact ih.step hstep

/-- A report that is published stays. -/
theorem Steps.report_of_some (h : Steps load s s') {r : ρ} (hr : s.report = some r) :
    s'.report = some r := by
  induction h with
  | refl => exact hr
  | tail _ hstep ih =>
    obtain ⟨t, hstep⟩ := hstep
    exact hstep.report_of_some ih

/-- Threads that bootstrap at the same time, whatever their loads do and whenever they take their
steps, load one at a time and until one load succeeds. Its report is published after that load and
is the answer of every thread that has one; a thread without one has the error of its own load and
has published nothing. -/
theorem loads_serialized (load : ι → σ → σ × Except ε ρ) (world : σ) (s : State ι σ ρ ε)
    (h : Reachable load world s) :
    (s.history.filter fun x => x.2.isSuccess).length ≤ 1 ∧
    (∀ t u, s.pc t = .loading → s.pc u = .loading → t = u) ∧
    (∀ before t, before ++ [(t, .started)] <+: s.history →
      ∀ u r, (u, .published r) ∉ before) ∧
    (∀ r, s.report = some r ↔ ∃ t, (t, .published r) ∈ s.history) ∧
    (∀ before t r, before ++ [(t, .published r)] <+: s.history →
      (t, .finished (.ok r)) ∈ before) ∧
    (∀ t outcome, (t, .finished outcome) ∈ s.history → ∃ w, (load t w).2 = outcome) ∧
    (∀ t r, s.pc t = .returned (.ok r) → ∀ s', Steps load s s' → s'.report = some r) ∧
    ∀ t e, s.pc t = .returned (.error e) →
      eventsOf s.history t = [.started, .finished (.error e)] := by
  have hs := h.invariant
  refine ⟨hs.successes, ?_, hs.startedBefore, hs.published, hs.finishedBefore, hs.finished,
    ?_, ?_⟩
  · intro t u ht hu
    exact hs.inside_unique (by simp [ht, Pc.Inside]) (by simp [hu, Pc.Inside])
  · intro t r ht s' hsteps
    exact hsteps.report_of_some (hs.answered t r (by simp [ht, Pc.Answers]))
  · intro t e ht
    exact Answered.of_error (hs.trace_at ht)

/-- A thread whose load fails leaves the gate to one that was waiting, and that one loads. -/
theorem loads_serialized_handover :
    let load : Bool → Unit → Unit × Except String Nat :=
      fun t w => (w, if t then .ok 7 else .error "unreadable")
    ∃ s, Reachable load () s ∧
      s.pc false = .returned (.error "unreadable") ∧ s.pc true = .returned (.ok 7) ∧
      eventsOf s.history false = [.started, .finished (.error "unreadable")] ∧
      s.report = some 7 := by
  intro load
  have hreachable : Reachable load () _ :=
    ((((((((((((Relation.ReflTransGen.refl
      |>.tail ⟨false, .readNothing rfl rfl⟩)
      |>.tail ⟨true, .readNothing (by simp [State.initial]) rfl⟩)
      |>.tail ⟨false, .acquire (by simp) rfl⟩)
      |>.tail ⟨false, .rereadNothing (by simp) rfl⟩)
      |>.tail ⟨false, .startLoad (by simp)⟩)
      |>.tail ⟨false, .failLoad (by simp) rfl⟩)
      |>.tail ⟨false, .release (by simp; rfl)⟩)
      |>.tail ⟨true, .acquire (by simp) rfl⟩)
      |>.tail ⟨true, .rereadNothing (by simp) rfl⟩)
      |>.tail ⟨true, .startLoad (by simp)⟩)
      |>.tail ⟨true, .finishLoad (by simp) rfl⟩)
      |>.tail ⟨true, .publish (r := 7) (by simp) rfl⟩)
      |>.tail ⟨true, .release (by simp; rfl)⟩
  obtain ⟨-, -, -, -, -, -, hok, herror⟩ := loads_serialized load () _ hreachable
  refine ⟨_, hreachable, ?_, ?_, herror false "unreadable" ?_, hok true 7 ?_ _ .refl⟩
  · simp
  · simp
    rfl
  · simp
  · simp
    rfl

/-! ### One thread alone -/

section Alone

variable {ε : Type} (loads : ι → AlgorithmRegistry → Traced (AlgorithmRegistry × Except ε Report))

/-- Loads of registries, as loads of what the threads share: the registries and the journal. -/
def shared (t : ι) (world : AlgorithmRegistry × Journal) :
    (AlgorithmRegistry × Journal) × Except ε Report :=
  let result := loads t world.1 world.2
  ((result.1.1, result.2), result.1.2)

/-- The registries, with the report that is published. -/
def State.registries (s : State ι (AlgorithmRegistry × Journal) Report ε) : AlgorithmRegistry :=
  { s.world.1 with report := s.report }

/-- A thread that finds the gate free and that no other one disturbs bootstraps as `once` does. -/
theorem once_steps (hkeep : ∀ t a journal, (loads t a journal).1.1.report = a.report)
    {s : State ι (AlgorithmRegistry × Journal) Report ε} (hworld : s.world.1.report = none)
    (hpc : s.pc t = .entering) (hgate : s.gate = none) :
    ∃ s', Steps (shared loads) s s' ∧ s'.gate = none ∧ s'.world.1.report = none ∧
      ∃ outcome, s'.pc t = .returned outcome ∧
        s.registries.once (loads t s.registries) s.world.2 =
          ((s'.registries, outcome), s'.world.2) := by
  cases hreport : s.report with
  | some r =>
    refine ⟨_, .single ⟨t, .readReport hpc hreport⟩, hgate, hworld, .ok r, by simp, ?_⟩
    exact AlgorithmRegistry.once_of_ready hreport _
  | none =>
    have hregistries : s.registries = s.world.1 := by
      rw [State.registries, hreport, ← hworld]
    have hload := hkeep t s.world.1 s.world.2
    rw [hworld] at hload
    rw [hregistries]
    rcases hresult : loads t s.world.1 s.world.2 with ⟨⟨populated, outcome⟩, journal⟩
    rw [hresult] at hload
    have hshared : shared loads t s.world = ((populated, journal), outcome) := by
      simp [shared, hresult]
    have hstart : Steps (shared loads) s _ :=
      ((((Relation.ReflTransGen.refl
        |>.tail ⟨t, .readNothing hpc hreport⟩)
        |>.tail ⟨t, .acquire (by simp) hgate⟩)
        |>.tail ⟨t, .rereadNothing (by simp) hreport⟩)
        |>.tail ⟨t, .startLoad (by simp)⟩)
    cases outcome with
    | ok r =>
      refine ⟨_, ((hstart.tail ⟨t, .finishLoad (by simp) hshared⟩).tail
        ⟨t, .publish (r := r) (by simp) rfl⟩).tail ⟨t, .release (by simp; rfl)⟩, rfl, hload,
        .ok r, by simp [hreport], ?_⟩
      rw [AlgorithmRegistry.once_of_ok hworld hresult]
      simp [State.registries, hreport]
    | error e =>
      refine ⟨_, (hstart.tail ⟨t, .failLoad (by simp) hshared⟩).tail
        ⟨t, .release (by simp; rfl)⟩, rfl, hload, .error e, by simp, ?_⟩
      rw [AlgorithmRegistry.once_of_error hworld hresult]
      simp [State.registries, hreport, ← hload]

/-- Bootstraps from documents have such loads. -/
theorem init_steps (provider : ι → Provider) (options : ι → Options)
    {s : State ι (AlgorithmRegistry × Journal) Report Error} (hworld : s.world.1.report = none)
    (hpc : s.pc t = .entering) (hgate : s.gate = none) :
    ∃ s', Steps (shared fun t a => a.load (provider t) (options t)) s s' ∧ s'.gate = none ∧
      s'.world.1.report = none ∧
      ∃ outcome, s'.pc t = .returned outcome ∧
        s.registries.init (provider t) (options t) s.world.2 =
          ((s'.registries, outcome), s'.world.2) :=
  once_steps _ (fun t a journal => a.report_load (provider t) (options t) journal) hworld hpc hgate

end Alone

end DsigRegistry.Gate
