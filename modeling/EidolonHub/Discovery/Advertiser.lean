import EidolonHub.Discovery.Interfaces
import EidolonHub.Library.Pool
import EidolonHub.Library.Python

/-!
# EidolonHub.Discovery.Advertiser

**The mDNS advertisement of the Hub.** Calls to start, to stop and to refresh it run side by side. What
a refresh does between two awaits nobody interrupts; from its first look at the interfaces to its end it
has the lock, and each of its awaits may fail or be cancelled. The loop that refreshes every few seconds
is a source of refreshes, of which any may be cancelled.
-/

namespace EidolonHub.Discovery

open EidolonHub.Library

/-! ### Data -/

/-- A `zeroconf.ServiceInfo`. -/
structure ServiceInfo where
  serviceType : String
  name : String
  addresses : List (List UInt8)
  port : Nat
  properties : List (String × String)
  server : String
deriving DecidableEq

/-- `ZeroconfAuthorityCandidateAdvertiser`, as it is configured. -/
structure Advertiser where
  links : Links
  serviceType : String
  serviceName : String
  hostname : String
  port : Nat
  ownerDomainId : String
  ownerDomainDescriptorUri : String
  /-- Fixed addresses; where there are none, the interfaces are read. -/
  addresses : Option (List String)

/-- What an advertisement is made of: an observation of the interfaces, or the fixed addresses. -/
inductive Observed where
  | interfaces (snapshot : List Entry)
  | fixed (addresses : List String)
deriving DecidableEq

/-- The addresses that an observation holds. -/
def Observed.addresses : Observed → List String
  | .interfaces snapshot => addressesOf snapshot
  | .fixed addresses => addresses

/-- A transport of the network, by its number. -/
inductive Transport where
  | closed
  | silent
  | advertising (info : ServiceInfo)
deriving DecidableEq

/-- Whether the advertiser runs, the transports it has open, and what it advertises. -/
structure State where
  running : Bool
  /-- `_aiozc` -/
  networks : Option (List Nat)
  info : Option ServiceInfo
  observation : Option Observed
  /-- the call that has the lock -/
  lock : Option Nat
  transports : Nat → Transport
  /-- the number of the next transport -/
  next : Nat

/-- The calls of an advertiser. -/
inductive Call where
  | start
  | stop
  | refresh
deriving DecidableEq

/-- What a call can raise: an error of the network, or its own cancellation. -/
inductive Raised where
  | error
  | cancelled
deriving DecidableEq

/-- What is left to do once the old transports are closed. -/
inductive Then where
  | stop
  | reopen (snapshot : Observed)
deriving DecidableEq

/-- How far a call has come. From `unregistering` to `dropping` it has the lock, and the transports it
has taken out of the state or not put there yet. -/
inductive Phase where
  | fresh
  | waiting
  /-- the old transports are out of the state; they take their service back -/
  | unregistering (after : Then) (held : List Nat)
  | closing (after : Then) (held : List Nat) (raised : Option Raised)
  | registering (snapshot : Observed) (info : ServiceInfo) (held : List Nat)
  /-- the interfaces have changed meanwhile; the new transports take their service back -/
  | withdrawing (held : List Nat)
  | discarding (held : List Nat)
  /-- something was raised; the new transports are closed -/
  | dropping (held : List Nat) (raised : Raised)
  /-- cancelled while it was waiting for the lock -/
  | abandoned
  | answered (raised : Option Raised)
deriving DecidableEq

/-- How the constructor of a transport ends; `unbound` is a `RuntimeError`. -/
inductive Opening where
  | opened
  | unbound
  | failed
deriving DecidableEq

/-- What a step draws: what the operating system lists (`none` where that raises), how the transports
open, the transports that do what they are told, and what the await raises. -/
structure Draws where
  reading : Option (List Adapter)
  v4 : Opening
  v6 : Opening
  reached : Nat → Bool
  raises : Option Raised

/-- What an await of all of these transports raises. -/
def Draws.raised (draws : Draws) (held : List Nat) : Option Raised :=
  match draws.raises with
  | some raised => some raised
  | none => if held.all draws.reached then none else some .error

/-! ### Steps -/

/-- The lock is free again. -/
def State.release (s : State) : State := { s with lock := none }

/-- These transports are told to be `t`, and some of them are. -/
def State.mark (s : State) (held : List Nat) (reached : Nat → Bool) (t : Transport) : State :=
  { s with transports := fun n => if n ∈ held ∧ reached n = true then t else s.transports n }

/-- An `AsyncZeroconf` more. -/
def State.create (s : State) : State :=
  { s with transports := Function.update s.transports s.next .silent, next := s.next + 1 }

/-- What a call answers: a start does not fail with an error. -/
def Call.answer : Call → Option Raised → Phase
  | .start, some .error => .answered none
  | _, raised => .answered raised

namespace Advertiser

variable (adv : Advertiser)

/-- What is to be advertised, as the interfaces stand. -/
def observed (reading : Option (List Adapter)) : Option Observed :=
  match adv.addresses with
  | none => reading.map fun adapters => .interfaces (interfaceSnapshot adv.links adapters)
  | some addresses => some (.fixed addresses)

/-- `_build_info`; `none` where it raises. -/
def buildInfo (addresses : List String) : Option ServiceInfo :=
  if addresses = [] then none
  else
    match addresses.mapM adv.links.ipAddress with
    | none => none
    | some ips => some {
        serviceType := adv.serviceType
        name := adv.serviceName
        addresses := ips.map (·.packed)
        port := adv.port
        properties := [("txtvers", "1"), ("owner_domain_id", adv.ownerDomainId),
          ("owner_domain_descriptor_uri", adv.ownerDomainDescriptorUri)]
        server := Python.rstripChar '.' adv.hostname ++ ".local." }

/-- The addresses of one family. -/
def ofVersion (version : IpVersion) (addresses : List String) : List String :=
  addresses.filter fun address => (adv.links.ipAddress address).any (·.version = version)

/-- `_open_network`: the transports it made, and whether it raises. -/
def openNetwork (draws : Draws) (addresses : List String) (s : State) : State × List Nat × Bool :=
  if adv.ofVersion .v4 addresses = [] then
    if adv.ofVersion .v6 addresses = [] then (s, [], false)
    else if draws.v6 = .opened then (s.create, [s.next], false)
    else (s, [], true)
  else if draws.v4 ≠ .opened then (s, [], true)
  else if adv.ofVersion .v6 addresses = [] then (s.create, [s.next], false)
  else
    match draws.v6 with
    | .opened => (s.create.create, [s.next, s.next + 1], false)
    -- the addresses of the other family are on no adapter: the binding is narrowed
    | .unbound => (s.create, [s.next], false)
    | .failed => (s.create, [s.next], true)

/-- What follows once the old transports are closed. -/
def follow (call : Call) (draws : Draws) (s : State) : Then → State × Phase
  | .stop => (s.release, call.answer none)
  | .reopen snapshot =>
    if snapshot.addresses = [] then (s.release, call.answer none)
    else
      match adv.buildInfo snapshot.addresses with
      | none => (s.release, call.answer (some .error))
      | some info =>
        match adv.openNetwork draws snapshot.addresses s with
        | (s, held, false) => (s, .registering snapshot info held)
        | (s, [], true) => (s.release, call.answer (some .error))
        | (s, held, true) => (s, .dropping held .error)

/-- `_close_network`, by the call `c` that has got the lock. -/
def closeNetwork (call : Call) (c : Nat) (draws : Draws) (after : Then) (s : State) : State × Phase :=
  let taken := { s with networks := none, info := none, observation := none, lock := some c }
  match s.networks with
  | none => adv.follow call draws taken after
  | some held =>
    match s.info with
    | some _ => (taken, .unregistering after held)
    | none => (taken, .closing after held none)

/-- `refresh_interfaces`, by the call `c` that has got the lock. -/
def refreshInterfaces (call : Call) (c : Nat) (draws : Draws) (s : State) : State × Phase :=
  if s.running = false then (s, call.answer none)
  else
    match adv.observed draws.reading with
    | none => (s, call.answer (some .error))
    | some snapshot =>
      if s.networks.isSome ∧ s.observation = some snapshot then (s, call.answer none)
      else adv.closeNetwork call c draws (.reopen snapshot) s

/-- What a call does when it has got the lock. -/
def enter (call : Call) (c : Nat) (draws : Draws) (s : State) : State × Phase :=
  match call with
  | .stop => adv.closeNetwork call c draws .stop s
  | .start | .refresh => adv.refreshInterfaces call c draws s

/-- The next step of a call. -/
def advance (call : Nat → Call) (c : Nat) (draws : Draws) (s : State) : Phase → State × Phase
  | .fresh =>
    match call c with
    | .start => if s.running then (s, .answered none) else ({ s with running := true }, .waiting)
    | .stop => ({ s with running := false }, .waiting)
    | .refresh => (s, .waiting)
  | .waiting =>
    if draws.raises = some .cancelled then (s, .abandoned)
    else
      match s.lock with
      | some _ => (s, .waiting)
      | none => adv.enter (call c) c draws s
  | .unregistering after held =>
    (s.mark held draws.reached .silent, .closing after held (draws.raised held))
  | .closing after held raised =>
    match (draws.raised held).or raised with
    | none => adv.follow (call c) draws (s.mark held draws.reached .closed) after
    | some raised => ((s.mark held draws.reached .closed).release, (call c).answer (some raised))
  | .registering snapshot info held =>
    match draws.raised held with
    | some raised => (s.mark held draws.reached (.advertising info), .dropping held raised)
    | none =>
      match adv.observed draws.reading with
      | none => (s.mark held draws.reached (.advertising info), .dropping held .error)
      | some current =>
        if current = snapshot then
          ({ s.mark held draws.reached (.advertising info) with
              networks := some held, info := some info, observation := some snapshot, lock := none },
            (call c).answer none)
        else (s.mark held draws.reached (.advertising info), .withdrawing held)
  | .withdrawing held =>
    match draws.raised held with
    | some raised => (s.mark held draws.reached .silent, .dropping held raised)
    | none => (s.mark held draws.reached .silent, .discarding held)
  | .discarding held =>
    match draws.raised held with
    | some raised => (s.mark held draws.reached .closed, .dropping held raised)
    | none => ((s.mark held draws.reached .closed).release, (call c).answer none)
  | .dropping held raised =>
    ((s.mark held draws.reached .closed).release,
      (call c).answer (some ((draws.raised held).getD raised)))
  | .abandoned => (s, .abandoned)
  | .answered raised => (s, .answered raised)

/-- The advertiser and its calls after a turn. -/
abbrev serve (call : Nat → Call) : Pool State Phase → Turn Draws → Pool State Phase :=
  Pool.step (adv.advance call)

/-- Nobody has called yet. -/
def created : Pool State Phase := .start ⟨false, none, none, none, none, fun _ => .closed, 0⟩ .fresh

/-- The advertiser and its calls after a schedule. -/
def served (call : Nat → Call) (turns : List (Turn Draws)) : Pool State Phase :=
  run (adv.serve call) created turns

end Advertiser

end EidolonHub.Discovery
