import BraceLink.Registry

/-!
# Registries in use

The calls that change a registry, one after the other. A call may fail halfway, so its registry and what it
tells are kept apart from its answer: whatever a failed call has done before stays.

* `registering`, `deregistering`, `loading`: the single calls as steps on a session.
* `building`: the handlers of a chain, each built from the registry as it is then.
* `Call`, `run`: calls as values, and the session after several of them.
-/

namespace BraceLink.Registry

/-- A registry in use, with what it has told so far. -/
structure Session where
  registry : Registry := {}
  events : List Event := []

/-- A step of a session. It may fail, and even then it leaves a session behind. -/
abbrev Step := ExceptT Error (StateM Session)

/-- What a step answers in a session, and the session that it leaves. -/
def Step.on {α : Type} (step : Step α) (s : Session) : Except Error α × Session := step.run.run s

def tell (event : Event) : Step PUnit := modify fun s => { s with events := s.events ++ [event] }

def registering (name : Text) (offer : Offer) : Step PUnit := do
  if (← getThe Session).registry.has name then throw (.taken name)
  match offer with
  | .other literal => throw (.noKind literal name)
  | .kind kind =>
    modify fun s => { s with registry := ⟨insertEntry name kind s.registry.entries⟩ }
    tell (.registered name kind.label)

/-- Registers an offer and gives it back, as a decorator does. -/
def decorating (name : Text) (offer : Offer) : Step Offer := do
  registering name offer
  return offer

def deregistering (name : Text) : Step PUnit := do
  let registry := (← getThe Session).registry
  if !registry.has name then throw (registry.unknown name)
  modify fun s => { s with registry := ⟨s.registry.entries.filter fun entry => entry.1 ≠ name⟩ }
  tell (.deregistered name)

/-- Registers what an entry point offers. A taken name and an offer that cannot be loaded or registered are
told and passed over. -/
def loadingEntry (group : Text) (entry : EntryPoint) : Step PUnit := do
  if (← getThe Session).registry.has entry.name then tell (.entryPresent entry.name)
  else
    match entry.offer with
    | none => tell (.entryNotLoaded entry.name group)
    | some offer =>
      try registering entry.name offer
      catch
        | .taken _ | .noKind _ _ => tell (.entryRefused entry.name)
        | error => throw error

def loading (group : Text) : List EntryPoint → Step PUnit
  | [] => return
  | entry :: rest => do
    loadingEntry group entry
    loading group rest

def buildingEntry (settings : Settings) (entry : ChainEntry) : Step Handler := do
  match (← getThe Session).registry.build settings entry with
  | .ok handler => return handler
  | .error error => throw error

def building (settings : Settings) : List ChainEntry → Step (List Handler)
  | [] => return []
  | entry :: rest => do
    let handler ← buildingEntry settings entry
    let handlers ← building settings rest
    return handler :: handlers

inductive Call where
  | register (name : Text) (offer : Offer)
  | decorate (name : Text) (offer : Offer)
  | deregister (name : Text)
  | load (group : Text) (entries : List EntryPoint)

def Call.step : Call → Step PUnit
  | .register name offer => registering name offer
  | .decorate name offer => do
    let _ ← decorating name offer
    return
  | .deregister name => deregistering name
  | .load group entries => loading group entries

/-- The session after several calls; the caller goes on after a call that fails. -/
def run (calls : List Call) (s : Session := {}) : Session :=
  calls.foldl (fun s call => (call.step.on s).2) s

end BraceLink.Registry
