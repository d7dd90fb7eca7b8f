import BraceLink.Proofs.Registry.Entries
import BraceLink.Registry.Session

/-!
# Runs of calls on a registry

A session checks before it writes: each call answers and changes what the plain operation on registries says,
and a call that fails leaves the session alone (`registering_on`, `deregistering_on`, `loading_on`). All that a
call can do to the registry is to remove one name or to extend the entries by what it offers (`Extends`,
`Call.extends_or_removes`). `run_faithful` carries this through runs of any length: the registry is a partial
map from names to kinds, and every way to ask for its names gives the same answer.
-/

namespace BraceLink.Registry

/-! ### Steps -/

namespace Step

variable {α β : Type} (s : Session)

@[simp] theorem on_pure (value : α) : (pure value : Step α).on s = (.ok value, s) := rfl

@[simp] theorem on_get : (MonadState.get : Step Session).on s = (.ok s, s) := rfl

@[simp] theorem on_modify (f : Session → Session) : (modify f : Step PUnit).on s = (.ok ⟨⟩, f s) := rfl

@[simp] theorem on_throw (error : Error) : (throw error : Step α).on s = (.error error, s) := rfl

@[simp] theorem on_bind (first : Step α) (next : α → Step β) :
    (first >>= next).on s =
      match first.on s with
      | (.ok value, after) => (next value).on after
      | (.error error, after) => (.error error, after) := by
  simp only [on, ExceptT.run_bind, StateT.run_bind]
  rcases first.run.run s with ⟨_ | value, after⟩ <;> rfl

@[simp] theorem on_map (f : α → β) (step : Step α) :
    (f <$> step).on s =
      match step.on s with
      | (.ok value, after) => (.ok (f value), after)
      | (.error error, after) => (.error error, after) := by
  rw [← bind_pure_comp, on_bind]
  rfl

@[simp] theorem on_tryCatch (step : Step α) (handle : Error → Step α) :
    (tryCatch step handle).on s =
      match step.on s with
      | (.ok value, after) => (.ok value, after)
      | (.error error, after) => (handle error).on after := by
  show (ExceptT.tryCatch step handle).run.run s = _
  simp only [on, ExceptT.tryCatch]
  rcases h : step.run.run s with ⟨_ | value, after⟩ <;> simp_all [ExceptT.run, ExceptT.mk, StateT.run_bind] <;> rfl

end Step

variable (s : Session)

theorem registering_on (name : Text) (offer : Offer) :
    (registering name offer).on s =
      match s.registry.register name offer with
      | .ok registry => (.ok ⟨⟩, { registry, events := s.events ++ registration name offer })
      | .error error => (.error error, s) := by
  unfold registering register
  cases hhas : s.registry.has name with
  | true => simp [hhas]
  | false => cases offer <;> simp [hhas, tell, registration]

theorem decorating_on (name : Text) (offer : Offer) :
    (Call.decorate name offer).step.on s = (registering name offer).on s := by
  simp only [Call.step, decorating, registering_on, Step.on_bind, Step.on_pure]
  cases s.registry.register name offer <;> rfl

theorem deregistering_on (name : Text) :
    (deregistering name).on s =
      match s.registry.deregister name with
      | .ok registry => (.ok ⟨⟩, { registry, events := s.events ++ [.deregistered name] })
      | .error error => (.error error, s) := by
  unfold deregistering deregister
  cases hhas : s.registry.has name <;> simp [hhas, tell]

theorem loadingEntry_on (group : Text) (entry : EntryPoint) :
    (loadingEntry group entry).on s =
      (.ok ⟨⟩, { registry := (load group s.registry entry).1
                 events := s.events ++ [(load group s.registry entry).2] }) := by
  obtain ⟨name, offer⟩ := entry
  unfold loadingEntry load
  cases hhas : s.registry.has name with
  | true => simp [hhas, tell]
  | false =>
    rcases offer with _ | kind | literal
    · simp [hhas, tell]
    · simp [hhas, registering_on, register, registration]
    · simp [hhas, registering_on, register, tell]

theorem loading_on (group : Text) (entries : List EntryPoint) :
    (loading group entries).on s =
      (.ok ⟨⟩, { registry := (loadAll group s.registry entries).1
                 events := s.events ++ (loadAll group s.registry entries).2 }) := by
  induction entries generalizing s with
  | nil => simp [loading, loadAll]
  | cons entry rest ih => simp [loading, loadAll, loadingEntry_on, ih]

/-! ### Calls -/

/-- The call brings the kind up for registration under the name. -/
def Call.Offers (call : Call) (name : Text) (kind : HandlerKind) : Prop :=
  match call with
  | .register key offer | .decorate key offer => key = name ∧ offer = .kind kind
  | .deregister _ => False
  | .load _ entries => ⟨name, some (.kind kind)⟩ ∈ entries

/-- The call succeeds: a name for registration is free and stands for a kind, a name to be removed is there. -/
def Call.IsAllowed (call : Call) (registry : Registry) : Prop :=
  match call with
  | .register name offer | .decorate name offer => name ∉ registry.names ∧ ∃ kind, offer = .kind kind
  | .deregister name => name ∈ registry.names
  | .load _ _ => True

/-- What the registry says of the name of a call that has succeeded. -/
def Call.HasEffect (call : Call) (registry : Registry) : Prop :=
  match call with
  | .register name offer | .decorate name offer => ∀ kind, offer = .kind kind → registry.get name = .ok kind
  | .deregister name => name ∉ registry.names
  | .load _ _ => True

theorem register_extends {name : Text} {offer : Offer} {registry after : Registry}
    (h : registry.register name offer = .ok after) :
    Extends (fun key kind => name = key ∧ offer = .kind kind) registry after := by
  unfold register at h
  split_ifs at h with hhas
  rw [Bool.not_eq_true] at hhas
  cases offer with
  | kind kind =>
    cases h
    exact .insertEntry hhas ⟨rfl, rfl⟩
  | other literal => cases h

theorem load_extends (group : Text) (registry : Registry) (entry : EntryPoint) :
    Extends (fun name kind => entry = ⟨name, some (.kind kind)⟩) registry (load group registry entry).1 := by
  obtain ⟨name, offer⟩ := entry
  unfold load
  cases hhas : registry.has name with
  | true => exact .refl registry
  | false =>
    rcases offer with _ | kind | literal
    · exact .refl registry
    · exact .insertEntry hhas rfl
    · exact .refl registry

theorem loadAll_extends (group : Text) (registry : Registry) (entries : List EntryPoint) :
    Extends (fun name kind => ⟨name, some (.kind kind)⟩ ∈ entries) registry (loadAll group registry entries).1 := by
  induction entries generalizing registry with
  | nil => exact .refl registry
  | cons entry rest ih =>
    have hfirst : Extends (fun name kind => ⟨name, some (.kind kind)⟩ ∈ entry :: rest) registry
        (load group registry entry).1 :=
      (load_extends group registry entry).mono fun name kind hentry => hentry ▸ List.mem_cons_self
    have hrest := (ih (load group registry entry).1).mono fun name kind hmem =>
      List.mem_cons_of_mem entry hmem
    exact hfirst.trans hrest

theorem Call.extends_or_removes (call : Call) :
    Extends call.Offers s.registry (call.step.on s).2.registry ∨
      ∃ name, call = .deregister name ∧
        (call.step.on s).2.registry = ⟨s.registry.entries.filter fun entry => entry.1 ≠ name⟩ := by
  have hregister : ∀ name offer, Extends (fun key kind => name = key ∧ offer = .kind kind) s.registry
      ((registering name offer).on s).2.registry := by
    intro name offer
    rw [registering_on]
    cases hresult : s.registry.register name offer with
    | ok registry => exact register_extends hresult
    | error error => exact .refl _
  cases call with
  | register name offer => exact Or.inl (hregister name offer)
  | decorate name offer =>
    rw [decorating_on]
    exact Or.inl (hregister name offer)
  | deregister name =>
    rw [Call.step, deregistering_on, Registry.deregister]
    cases s.registry.has name with
    | true => exact Or.inr ⟨name, rfl, rfl⟩
    | false => exact Or.inl (.refl _)
  | load group entries =>
    rw [Call.step, loading_on]
    exact Or.inl (loadAll_extends group s.registry entries)

section

variable {s} {call : Call}

theorem Call.sorted_step (h : s.registry.Sorted) : (call.step.on s).2.registry.Sorted := by
  rcases call.extends_or_removes s with hextends | ⟨name, -, hremoved⟩
  · exact hextends.sorted h
  · rw [hremoved]
    exact h.filter name

theorem Call.get_step {name : Text} {kind : HandlerKind} (hget : s.registry.get name = .ok kind)
    (hcall : call ≠ .deregister name) : (call.step.on s).2.registry.get name = .ok kind := by
  rcases call.extends_or_removes s with hextends | ⟨other, rfl, hremoved⟩
  · exact hextends.keeps name kind hget
  · have hother : name ≠ other := fun hother => hcall (by rw [hother])
    rw [get_eq_ok_iff] at hget ⊢
    rw [hremoved, lookup_filter, if_neg hother, hget]

theorem Call.offered_step {name : Text} {kind : HandlerKind}
    (hget : (call.step.on s).2.registry.get name = .ok kind) :
    s.registry.get name = .ok kind ∨ call.Offers name kind := by
  rcases call.extends_or_removes s with hextends | ⟨other, -, hremoved⟩
  · exact hextends.offered name kind hget
  · rw [hremoved, get_eq_ok_iff, lookup_filter] at hget
    split_ifs at hget
    exact Or.inl (get_eq_ok_iff.mpr hget)

theorem Call.on_of_isAllowed (h : call.IsAllowed s.registry) :
    (call.step.on s).1 = .ok ⟨⟩ ∧ call.HasEffect (call.step.on s).2.registry := by
  have hregister : ∀ name kind, name ∉ s.registry.names →
      ((registering name (.kind kind)).on s).1 = .ok ⟨⟩ ∧
        ((registering name (.kind kind)).on s).2.registry.get name = .ok kind := by
    intro name kind hfree
    have hhas : s.registry.has name = false := has_eq_false_iff.mpr hfree
    rw [registering_on, Registry.register, if_neg (by simp [hhas])]
    refine ⟨rfl, get_eq_ok_iff.mpr ?_⟩
    rw [lookup_insertEntry hfree, if_pos rfl]
  cases call with
  | register name offer =>
    obtain ⟨hfree, kind, rfl⟩ := h
    obtain ⟨hok, hget⟩ := hregister name kind hfree
    exact ⟨hok, fun found hfound => Offer.kind.inj hfound ▸ hget⟩
  | decorate name offer =>
    obtain ⟨hfree, kind, rfl⟩ := h
    obtain ⟨hok, hget⟩ := hregister name kind hfree
    rw [decorating_on]
    exact ⟨hok, fun found hfound => Offer.kind.inj hfound ▸ hget⟩
  | deregister name =>
    have hhas : s.registry.has name = true := has_iff.mpr h
    rw [Call.step, deregistering_on, Registry.deregister, if_pos hhas]
    refine ⟨rfl, ?_⟩
    show name ∉ names _
    rw [names, ← Table.lookup_eq_none_iff, lookup_filter, if_pos rfl]
  | load group entries =>
    rw [Call.step, loading_on]
    exact ⟨rfl, trivial⟩

theorem Call.on_of_not_isAllowed (h : ¬ call.IsAllowed s.registry) :
    ∃ error, call.step.on s = (.error error, s) := by
  have hregister : ∀ name offer, ¬ (name ∉ s.registry.names ∧ ∃ kind, offer = .kind kind) →
      ∃ error, (registering name offer).on s = (.error error, s) := by
    intro name offer hnot
    rw [registering_on]
    unfold Registry.register
    by_cases hhas : s.registry.has name = true
    · rw [if_pos hhas]
      exact ⟨_, rfl⟩
    · rw [if_neg hhas]
      rw [has_iff] at hhas
      cases offer with
      | kind kind => exact absurd ⟨hhas, kind, rfl⟩ hnot
      | other literal => exact ⟨_, rfl⟩
  cases call with
  | register name offer => exact hregister name offer h
  | decorate name offer =>
    rw [decorating_on]
    exact hregister name offer h
  | deregister name =>
    have hhas : ¬ s.registry.has name = true := fun hhas => h (has_iff.mp hhas)
    rw [Call.step, deregistering_on, Registry.deregister, if_neg hhas]
    exact ⟨_, rfl⟩
  | load group entries => exact absurd trivial h

end

/-! ### Runs -/

theorem run_append (calls more : List Call) : run (calls ++ more) s = run more (run calls s) := List.foldl_append

theorem sorted_run (calls : List Call) (h : s.registry.Sorted) : (run calls s).registry.Sorted := by
  induction calls generalizing s with
  | nil => exact h
  | cons call rest ih => exact ih _ (Call.sorted_step h)

theorem get_run {name : Text} {kind : HandlerKind} (calls : List Call)
    (hget : s.registry.get name = .ok kind) (hcalls : Call.deregister name ∉ calls) :
    (run calls s).registry.get name = .ok kind := by
  induction calls generalizing s with
  | nil => exact hget
  | cons call rest ih =>
    rw [List.mem_cons, not_or] at hcalls
    exact ih _ (Call.get_step hget (Ne.symm hcalls.1)) hcalls.2

theorem offered_run {name : Text} {kind : HandlerKind} (calls : List Call)
    (hget : (run calls s).registry.get name = .ok kind) :
    s.registry.get name = .ok kind ∨ ∃ call ∈ calls, call.Offers name kind := by
  induction calls generalizing s with
  | nil => exact Or.inl hget
  | cons call rest ih =>
    rcases ih _ hget with hstep | ⟨other, hmem, hoffers⟩
    · rcases Call.offered_step hstep with hold | hoffers
      · exact Or.inl hold
      · exact Or.inr ⟨call, List.mem_cons_self, hoffers⟩
    · exact Or.inr ⟨other, List.mem_cons_of_mem _ hmem, hoffers⟩

end BraceLink.Registry
