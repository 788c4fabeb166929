import DsigRegistry.PrefixTable
import DsigRegistry.RegistrationError
import DsigRegistry.Text.Quoted

/-!
# The journal

Everything a run does that can be noticed from outside, in order: constructors that are called,
transforms and canonicalizers that run, resolvers that are asked, documents that are loaded, and
diagnostic events. Computations that do such things are `Traced`; whatever they do is appended
to the journal, and nothing is ever removed from it.
-/

namespace DsigRegistry

/-- The importance of an event. -/
inductive Level where
  | error
  | warn
  | info
  | debug
  | trace
deriving DecidableEq

/-- How serious the failure of one entry is. -/
inductive Severity where
  | error
  | warning
deriving DecidableEq

/-- Where the registries were populated from. -/
inductive Mode where
  /-- The compiled-in tables. -/
  | defaults
  /-- The configuration document at the path. -/
  | configuration (path : String)
deriving DecidableEq

/-- The mode as diagnostics show it. -/
def Mode.text : Mode → String
  | .defaults => "Defaults"
  | .configuration path => Text.record "Configuration" [("path", Text.quote path)]

/-- A diagnostic event. -/
inductive Event where
  | registered (category : Category) (id implementation : String) (replaced : Bool)
  | prefixBound (uri label : String)
  | prefixIgnored (conflict : PrefixConflict) (uri : String)
  | algorithmRejected (uri : String)
  | transformFailed (step : Nat) (uri : String) (error : Error)
  | resourceResolverSkipped (resolver : String) (error : Error)
  | resourceResolverClaimed (resolver uri : String)
  | keyResolverSkipped (resolver : String) (error : Error)
  | keyResolverClaimed (resolver : String)
  | localFileRead (uri path : String)
  | configurationSectionIgnored (name : String)
  | configurationEntrySkipped (sectionName element missing : String)
  | configurationRead (path : String)
  | configurationUnloadable (path : String) (error : Error) (continuing : Bool)
  | registrationFailed (severity : Severity) (category : Category) (id implementation : String)
      (error : RegistrationError)
  | ready (mode : Mode) (successes errors warnings : Nat)
deriving DecidableEq

/-- The value of a field of an event. -/
inductive FieldValue where
  | text (s : String)
  | count (n : Nat)
  | flag (b : Bool)
deriving DecidableEq

namespace Event

/-- How important the event is. -/
def level : Event → Level
  | .registered .. | .prefixBound .. | .transformFailed .. | .resourceResolverClaimed ..
  | .keyResolverClaimed .. | .localFileRead .. | .configurationRead .. => .debug
  | .prefixIgnored .. | .algorithmRejected .. | .resourceResolverSkipped ..
  | .keyResolverSkipped .. | .configurationEntrySkipped .. => .warn
  | .configurationSectionIgnored .. => .trace
  | .configurationUnloadable .. => .error
  | .registrationFailed .error .. => .error
  | .registrationFailed .warning .. => .warn
  | .ready .. => .info

/-- What the event says. -/
def message : Event → String
  | .registered .. => "registered"
  | .prefixBound .. => "bound namespace prefix"
  | .prefixIgnored .. => "prefix mapping ignored"
  | .algorithmRejected .. => "signature algorithm rejected by policy"
  | .transformFailed .. => "transform failed"
  | .resourceResolverSkipped .. => "skipping resource resolver"
  | .resourceResolverClaimed .. => "resource resolver claimed reference"
  | .keyResolverSkipped .. => "skipping key resolver"
  | .keyResolverClaimed .. => "key resolver claimed key info"
  | .localFileRead .. => "resolving local file"
  | .configurationSectionIgnored .. => "ignoring configuration section"
  | .configurationEntrySkipped .. => "configuration entry lacks a required attribute"
  | .configurationRead .. => "reading configuration resource"
  | .configurationUnloadable _ _ false => "cannot load configuration document"
  | .configurationUnloadable _ _ true =>
    "cannot load configuration document, continuing with empty registries"
  | .registrationFailed .error .. => "registration failed"
  | .registrationFailed .warning .. => "registration skipped"
  | .ready .. => "algorithm registries ready"

/-- The particulars of the event. -/
def fields : Event → List (String × FieldValue)
  | .registered category id implementation replaced =>
    [("category", .text category.label), ("id", .text id),
     ("implementation", .text implementation), ("replaced", .flag replaced)]
  | .prefixBound uri label => [("namespace", .text uri), ("prefix", .text label)]
  | .prefixIgnored conflict uri =>
    [("error", .text conflict.message), ("namespace", .text uri)]
  | .algorithmRejected uri => [("uri", .text uri)]
  | .transformFailed step uri error =>
    [("step", .count step), ("uri", .text uri), ("error", .text error.message)]
  | .resourceResolverSkipped resolver error | .keyResolverSkipped resolver error =>
    [("resolver", .text resolver), ("error", .text error.message)]
  | .resourceResolverClaimed resolver uri => [("resolver", .text resolver), ("uri", .text uri)]
  | .keyResolverClaimed resolver => [("resolver", .text resolver)]
  | .localFileRead uri path => [("uri", .text uri), ("path", .text path)]
  | .configurationSectionIgnored name => [("section", .text name)]
  | .configurationEntrySkipped sectionName element missing =>
    [("section", .text sectionName), ("element", .text element), ("attribute", .text missing)]
  | .configurationRead path => [("path", .text path)]
  | .configurationUnloadable path error _ =>
    [("path", .text path), ("error", .text error.message)]
  | .registrationFailed _ category id implementation error =>
    [("category", .text category.label), ("uri", .text id),
     ("implementation", .text implementation), ("error", .text error.message)]
  | .ready mode successes errors warnings =>
    [("mode", .text mode.text), ("registered", .count successes), ("errors", .count errors),
     ("warnings", .count warnings)]

end Event

/-- Which constructor is meant: one of this library, by its implementation identifier, or the
`n`-th that a host brought along. Constructors with the same identity share their state. -/
inductive FactoryId where
  | builtin (implementation : String)
  | host (n : Nat)
deriving DecidableEq

/-- Something a run does that can be noticed from outside. -/
inductive Action where
  /-- A constructor was called. -/
  | constructed (factory : FactoryId)
  /-- The transform of a chain step ran. -/
  | executed (uri : String)
  /-- The canonicalizer registered under the URI ran. -/
  | canonicalized (uri : String)
  /-- The resolver registered under the identifier was asked for a claim. -/
  | asked (resolver : String)
  /-- The resolver registered under the identifier was made to resolve. -/
  | resolved (resolver : String)
  /-- A provider was asked for the document at the path. -/
  | loaded (path : String)
  /-- A diagnostic event was emitted. -/
  | reported (event : Event)
deriving DecidableEq

/-- The event of an action that reports one. -/
def Action.event? : Action → Option Event
  | .reported event => some event
  | _ => none

/-- What has been done so far, the earliest first. -/
abbrev Journal := List Action

namespace Journal

/-- The diagnostic events in order. -/
def events (j : Journal) : List Event :=
  j.filterMap Action.event?

/-- How often a constructor has been called. -/
def constructions (j : Journal) (factory : FactoryId) : Nat :=
  j.count (.constructed factory)

/-- How often a provider has been asked for a document. -/
def loads (j : Journal) : Nat :=
  j.countP fun
    | .loaded _ => true
    | _ => false

end Journal

/-- A computation that keeps a journal. -/
abbrev Traced := StateM Journal

namespace Traced

/-- Append an action to the journal. -/
def record (action : Action) : Traced Unit :=
  fun j => ((), j ++ [action])

/-- Emit a diagnostic event. -/
def report (event : Event) : Traced Unit :=
  record (.reported event)

end Traced

end DsigRegistry
