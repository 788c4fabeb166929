import DsigRegistry.Proofs.Chain
import DsigRegistry.Proofs.LocalFile
import DsigRegistry.Stub

/-!
# References with a scheme of their own

A reference whose scheme is not the one of files never leads to a file. But the scheme is lost
where the authority behind it cannot be read, and such a reference is claimed for its base, so
that it fails although a resolver behind could have answered. Main facts: `ofScheme_eq_error_iff`
and `faulty_url_claimed`.
-/

namespace DsigRegistry

namespace Url

variable {scheme cs : List Char} {fault : Fault}

/-! ### Faults of URLs with a scheme -/

/-- Whatever is wrong, it is not that there is no base. -/
def NeedsNoBase {α : Type} (outcome : Except Fault α) : Prop :=
  outcome ≠ .error .noBase

namespace NeedsNoBase

variable {α β : Type}

theorem ok (a : α) : NeedsNoBase (.ok a) := nofun

theorem error (h : fault ≠ .noBase) : NeedsNoBase (.error fault : Except Fault α) := by
  intro heq
  exact h (Except.error.inj heq)

theorem bind {outcome : Except Fault α} {f : α → Except Fault β} (h : NeedsNoBase outcome)
    (hf : ∀ a, NeedsNoBase (f a)) : NeedsNoBase (outcome >>= f) := by
  cases outcome with
  | error fault =>
    apply error
    rintro rfl
    exact h rfl
  | ok a => exact hf a

theorem map {outcome : Except Fault α} (f : α → β) (h : NeedsNoBase outcome) :
    NeedsNoBase (outcome.map f) :=
  h.bind fun a => ok (f a)

end NeedsNoBase

namespace Host

theorem needsNoBase_of_address? {outcome : Except Fault Host} (h : address? cs = some outcome) :
    NeedsNoBase outcome := by
  obtain ⟨inner, -, rfl⟩ := Option.map_eq_some_iff.1 h
  split <;> nofun

theorem needsNoBase_parse (cs : List Char) : NeedsNoBase (parse cs) := by
  unfold parse
  split
  next haddress => exact needsNoBase_of_address? haddress
  next =>
    repeat' split
    all_goals nofun

theorem needsNoBase_parseOpaque? (cs : List Char) : NeedsNoBase (parseOpaque? cs) := by
  unfold parseOpaque?
  split
  next haddress => exact (needsNoBase_of_address? haddress).map some
  next =>
    repeat' split
    all_goals nofun

end Host

theorem needsNoBase_readPort (scheme cs : List Char) : NeedsNoBase (readPort scheme cs) := by
  unfold readPort
  dsimp only
  split <;> nofun

/-- The host that the text spells. -/
def readHost (scheme cs : List Char) : Except Fault (Option Host) :=
  if isSpecial scheme then
    if cs = [] then .error .emptyHost else (Host.parse cs).map some
  else Host.parseOpaque? cs

/-- The host with the port that may follow it. -/
def readPortBehind (scheme : List Char) (host : Option Host) :
    List Char → Except Fault (Option Host × Option Nat × List Char)
  | ':' :: rest =>
    if host = none then .error .emptyHost
    else (readPort scheme rest).map fun (port, rest) => (host, port, rest)
  | rest => .ok (host, none, rest)

theorem readHostPort_eq (scheme cs : List Char) :
    readHostPort scheme cs =
      readHost scheme (splitHost (isSpecial scheme) false cs).1 >>=
        (readPortBehind scheme · (splitHost (isSpecial scheme) false cs).2) := by
  unfold readHostPort readHost
  dsimp only
  split
  · split
    · rfl
    · rcases Host.parse (splitHost (isSpecial scheme) false cs).1 <;> rfl
  · rfl

theorem needsNoBase_readHostPort (scheme cs : List Char) :
    NeedsNoBase (readHostPort scheme cs) := by
  rw [readHostPort_eq]
  apply NeedsNoBase.bind
  · unfold readHost
    split
    · split
      · nofun
      · exact (Host.needsNoBase_parse _).map some
    · exact Host.needsNoBase_parseOpaque? _
  · intro host
    unfold readPortBehind
    split
    · split
      · nofun
      · exact (needsNoBase_readPort scheme _).map _
    · nofun

theorem needsNoBase_readAuthority (scheme cs : List Char) :
    NeedsNoBase (readAuthority scheme cs) := by
  unfold readAuthority
  dsimp only
  split
  · nofun
  · apply (needsNoBase_readHostPort scheme _).bind
    intro read
    split <;> nofun

/-- The text of the authority and what follows it, if there is an authority behind a scheme other
than that of files. -/
def authorityPart? (scheme cs : List Char) : Option (List Char) :=
  if isSpecial scheme then some (cs.dropWhile (isSeparator true))
  else
    match cs with
    | '/' :: '/' :: rest => some rest
    | _ => none

/-- The authority behind the scheme has the fault. -/
def FaultyAuthority (scheme cs : List Char) (fault : Fault) : Prop :=
  ∃ text, authorityPart? scheme cs = some text ∧ readAuthority scheme text = .error fault

theorem ofAuthority_eq_error_iff :
    ofAuthority scheme cs = .error fault ↔ readAuthority scheme cs = .error fault := by
  unfold ofAuthority
  cases readAuthority scheme cs with
  | error fault' => simp [bind, Except.bind]
  | ok read => exact iff_of_false nofun nofun

/-- All that can be wrong with a text behind a scheme is the authority, unless the scheme is that
of files. -/
theorem ofScheme_eq_error_iff (hother : scheme ≠ fileScheme) :
    ofScheme scheme cs = .error fault ↔ FaultyAuthority scheme cs fault := by
  unfold ofScheme FaultyAuthority authorityPart?
  rw [if_neg hother]
  split
  · simp [ofAuthority_eq_error_iff]
  · unfold ofGeneral
    split
    next rest => simp [ofAuthority_eq_error_iff]
    next rest hslash =>
      split
      next heq => exact absurd (List.cons.inj heq).2 (hslash _)
      next => simp
    next hslash =>
      split
      next => exact absurd rfl (hslash _)
      next => simp

/-- A text with a scheme other than that of files spells a URL unless its authority is faulty. -/
theorem parse_other_scheme {s : String} {rest : List Char} (hscheme : IsScheme scheme)
    (htext : s.toList = scheme ++ ':' :: rest) (hother : scheme.map Char.toLower ≠ fileScheme) :
    (∃ u, parse s = .ok u ∧ u.scheme = scheme.map Char.toLower ∧
      ∀ fault, ¬FaultyAuthority (scheme.map Char.toLower) (significantEnd rest) fault) ∨
    ∃ fault, parse s = .error fault ∧ fault ≠ .noBase ∧
      ∀ fault', FaultyAuthority (scheme.map Char.toLower) (significantEnd rest) fault' ↔
        fault' = fault := by
  rw [parse_of_scheme hscheme htext]
  cases houtcome : ofScheme (scheme.map Char.toLower) (significantEnd rest) with
  | ok u =>
    refine .inl ⟨u, rfl, scheme_of_ofScheme houtcome, ?_⟩
    intro fault hfault
    cases houtcome.symm.trans ((ofScheme_eq_error_iff hother).2 hfault)
  | error fault =>
    obtain ⟨text, hpart, hread⟩ := (ofScheme_eq_error_iff hother).1 houtcome
    refine .inr ⟨fault, rfl, ?_, ?_⟩
    · rintro rfl
      exact needsNoBase_readAuthority _ _ hread
    · intro fault'
      rw [← ofScheme_eq_error_iff hother, houtcome, Except.error.injEq, eq_comm]

end Url

namespace LocalFile

variable {r : Reference} {scheme rest : List Char}

theorem isSameDocument_of_scheme (hscheme : Url.IsScheme scheme)
    (huri : r.uri.toList = scheme ++ ':' :: rest) : r.isSameDocument = false := by
  cases scheme with
  | nil => exact hscheme.elim
  | cons c cs =>
    have hc : c ≠ '#' := by
      rintro rfl
      cases hscheme.1
    rw [Reference.isSameDocument, huri]
    exact decide_eq_false hc

theorem url_of_fault {fs : FileSystem} {fault : Url.Fault} (h : Url.parse r.uri = .error fault)
    (hbase : fault ≠ .noBase) : url fs r = .error (invalid r.uri fault.message) := by
  unfold url
  split
  next hparse => cases hparse.symm.trans h
  next hparse => exact absurd (Except.error.inj (h.symm.trans hparse)) hbase
  next hparse => rw [Except.error.inj (h.symm.trans hparse)]

section

variable (hscheme : Url.IsScheme scheme) (huri : r.uri.toList = scheme ++ ':' :: rest)
  (hother : scheme.map Char.toLower ≠ Url.fileScheme)

include hscheme huri hother

theorem claims_other_scheme :
    claims r = true ↔
      (∃ fault, Url.FaultyAuthority (scheme.map Char.toLower) (Url.significantEnd rest) fault) ∧
        OnFiles r.base := by
  have hdocument : r.isSameDocument = false := isSameDocument_of_scheme hscheme huri
  rcases Url.parse_other_scheme hscheme huri hother with
    ⟨u, hparse, hu, hsound⟩ | ⟨fault, hparse, -, hfault⟩
  · rw [claims_of_ok hdocument hparse, hu]
    refine iff_of_false hother ?_
    rintro ⟨⟨fault, hfaulty⟩, -⟩
    exact hsound fault hfaulty
  · rw [claims_of_no_scheme (schemeOf?_of_error hparse)]
    exact and_congr_left fun _ => iff_of_true hdocument ⟨fault, (hfault fault).2 rfl⟩

theorem path_other_scheme :
    ∃ e, (∀ fault, Url.FaultyAuthority (scheme.map Char.toLower) (Url.significantEnd rest) fault →
        e = invalid r.uri fault.message) ∧
      ∀ fs, path fs r = .error e := by
  rcases Url.parse_other_scheme hscheme huri hother with
    ⟨u, hparse, hu, hsound⟩ | ⟨fault, hparse, hbase, hfault⟩
  · have hfile : u.isFile = false := decide_eq_false (hu ▸ hother)
    refine ⟨invalid u.text "not a file URI", fun fault hfaulty => (hsound fault hfaulty).elim, ?_⟩
    intro fs
    simp only [path, url, hparse, hfile, Bool.false_eq_true, if_false]
  · refine ⟨invalid r.uri fault.message, ?_, ?_⟩
    · intro fault' hfaulty
      rw [(hfault fault').1 hfaulty]
    · intro fs
      rw [path, url_of_fault hparse hbase]

end

/-- A reference with a scheme other than that of files never leads to a file, but it can be
claimed: if the authority behind the scheme is faulty and the base has no other scheme. Such a
reference fails with the fault wherever the resolver is reached in a chain, and any other goes on
to the entries behind. -/
theorem faulty_url_claimed (r : Reference) (scheme rest : List Char)
    (hscheme : Url.IsScheme scheme) (huri : r.uri.toList = scheme ++ ':' :: rest)
    (hother : scheme.map Char.toLower ≠ Url.fileScheme) :
    let Faulty := Url.FaultyAuthority (scheme.map Char.toLower) (Url.significantEnd rest)
    (claims r = true ↔ (∃ fault, Faulty fault) ∧ OnFiles r.base) ∧
    ∃ e, (∀ fault, Faulty fault → e = invalid r.uri fault.message) ∧
      (∀ fs j, resolve fs r j = (.error e, j)) ∧
      ∀ (fs : FileSystem) (resolvers : Registry ResourceResolver)
        (before : List (String × Descriptor ResourceResolver)) (id : String)
        (d : Descriptor ResourceResolver) (after : List (String × Descriptor ResourceResolver)),
        resolvers.entries = before ++ (id, d) :: after → d.Makes (resolver fs) →
        ∀ (scope : ResolverScope) (j : Journal), scope.allows id = true →
          let q : Query ResourceResolver := ⟨scope, (·.claims r), .resourceResolverSkipped⟩
          let reached := before.foldl q.passing j ++ [.constructed d.factory.id, .asked id]
          q.Unclaimed before j →
            resolveResource resolvers r scope j =
              if claims r then
                (.error e, reached ++ [.reported (.resourceResolverClaimed id r.uri), .resolved id])
              else resolveResource { resolvers with entries := after } r scope reached := by
  obtain ⟨e, hfaulty, hpath⟩ := path_other_scheme hscheme huri hother
  refine ⟨claims_other_scheme hscheme huri hother, e, hfaulty,
    fun fs => resolve_of_error (hpath fs), ?_⟩
  intro fs resolvers before id d after hentries hmakes scope j hallowed q reached hunclaimed
  rw [resolveResource_at_entry hentries hallowed hmakes hunclaimed]
  change (if claims r then resolve fs r _ else _) = _
  rw [resolve_of_error (hpath fs)]

/-- A registry with the resolver for local files in front of one that claims every reference. -/
def localBeforeRemote (fs : FileSystem) : Registry ResourceResolver :=
  ⟨.resourceResolver,
    [("local", ⟨"local", none, .const (.host 0) (resolver fs)⟩),
     ("net", ⟨"net", none, .const (.host 1) (Stub.resourceResolver (fun _ => true) (.ok [0x72]))⟩)]⟩

/-- A reference whose port is no number. -/
def faultyReference : Reference := ⟨"http://host:port/", none⟩

theorem faulty_faultyReference :
    Url.FaultyAuthority ['h', 't', 't', 'p'] (Url.significantEnd "//host:port/".toList)
      .invalidPort :=
  ⟨_, rfl, rfl⟩

/-- The reference is claimed, and fails. -/
theorem faulty_url_claimed_port :
    claims faultyReference = true ∧
      ∀ fs j, resolve fs faultyReference j =
        (.error (invalid "http://host:port/" "invalid port number"), j) := by
  obtain ⟨hclaims, e, hfault, hresolve, -⟩ :=
    faulty_url_claimed faultyReference ['h', 't', 't', 'p'] "//host:port/".toList
      ⟨rfl, by simp [Url.IsSchemeChar]⟩ rfl (by decide)
  have hfiles : OnFiles faultyReference.base := by
    intro scheme hscheme
    cases hscheme
  refine ⟨hclaims.2 ⟨⟨.invalidPort, faulty_faultyReference⟩, hfiles⟩, ?_⟩
  rw [hfault .invalidPort faulty_faultyReference] at hresolve
  exact hresolve

/-- A resolver that would have answered does not get to see a reference with a faulty port. -/
theorem claims_faulty_port :
    Url.IsScheme ['h', 't', 't', 'p'] ∧
    faultyReference.uri.toList = ['h', 't', 't', 'p'] ++ ':' :: "//host:port/".toList ∧
    claims faultyReference = true ∧
    ∀ fs, (resolveResource (localBeforeRemote fs) faultyReference .unrestricted []).1 =
        .error (invalid "http://host:port/" "invalid port number") ∧
      (resolveResource (localBeforeRemote fs) faultyReference (.only ["net"]) []).1 =
        .ok [0x72] := by
  refine ⟨⟨rfl, by simp [Url.IsSchemeChar]⟩, rfl, rfl, fun fs => ⟨rfl, rfl⟩⟩

end LocalFile

end DsigRegistry
