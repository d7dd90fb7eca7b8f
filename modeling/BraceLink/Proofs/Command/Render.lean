import BraceLink.Command.Run
import BraceLink.Proofs.Disk
import BraceLink.Proofs.Terminal.Grid
import BraceLink.Proofs.Terminal.Markup
import Mathlib.Data.Bool.AllAny

/-!
# Rendering into a file

A run that renders reads the source and the settings, builds the resolver and makes the whole HTML before it
writes, and each of these steps can only go on or fail with the disk as it was (`withSettings_run`,
`withResolver_run`, `ofRequest_render_run`). What is left is the write and the message behind it, which can be
shown because the path has no bracket (`print_written`). `render_all_or_nothing` puts the steps together.

One write is not all or nothing: the file is opened before the HTML is encoded, and an address in angle brackets
can show a surrogate, which has no bytes (`render_surrogate`).
-/

namespace BraceLink.Command

open Terminal

/-! ### What a run needs -/

/-- The settings of a file, which are texts of whole characters, or the default settings if there is no file. -/
def Loads (disk : Disk) (config : Option Text) (settings : Settings) : Prop :=
  match config with
  | none => settings = {}
  | some path =>
    ∃ content : Settings.FileContent, disk.read path = .ok content.bytes ∧
      Settings.ofFile path (some content.bytes) = .ok settings

/-- If there is a file with settings, its document gives the codes of whole characters only. -/
def IsWhole (disk : Disk) (config : Option Text) : Prop :=
  ∀ path ∈ config, ∀ bytes, disk.read path = .ok bytes → Settings.writesHalves bytes = false

/-- The text of a file, and the resolver for the settings of another. -/
structure Prepares (disk : Disk) (file : Text) (config : Option Text) (source : Text) (resolver : Resolver) :
    Prop where
  source : ∃ bytes, disk.read file = .ok bytes ∧ Text.ofBytes? bytes = some source
  resolver : ∃ settings, Loads disk config settings ∧ Resolver.build Registry.builtin settings = .ok resolver

variable {disk : Disk} {file source target : Text} {config : Option Text} {engine : Engine} {resolver : Resolver}

theorem Loads.unique {settings other : Settings} (h : Loads disk config settings)
    (hother : Loads disk config other) : other = settings := by
  cases config with
  | none => exact Eq.trans hother (Eq.symm h)
  | some path =>
    obtain ⟨content, hread, hfile⟩ := h
    obtain ⟨content', hread', hfile'⟩ := hother
    rw [← Except.ok.inj (hread.symm.trans hread')] at hfile'
    exact Except.ok.inj (hfile'.symm.trans hfile)

theorem Prepares.unique {source' : Text} {resolver' : Resolver} (h : Prepares disk file config source resolver)
    (hother : Prepares disk file config source' resolver') : source' = source ∧ resolver' = resolver := by
  obtain ⟨bytes, hread, hsource⟩ := h.source
  obtain ⟨bytes', hread', hsource'⟩ := hother.source
  obtain rfl := Except.ok.inj (hread.symm.trans hread')
  obtain ⟨settings, hloads, hbuild⟩ := h.resolver
  obtain ⟨settings', hloads', hbuild'⟩ := hother.resolver
  obtain rfl := hloads.unique hloads'
  exact ⟨Option.some.inj (hsource'.symm.trans hsource), Except.ok.inj (hbuild'.symm.trans hbuild)⟩

/-! ### Runs that fail -/

/-- The run ends with an error, without output, and with the disk as it was. -/
def Plan.Fails (plan : Plan) (disk : Disk) : Prop :=
  ∃ ending, plan.run disk = (ending, disk) ∧ ending.code = 1 ∧ ending.output = []

theorem crash_fails (crash : Crash) (disk : Disk) : (Plan.crash crash).Fails disk := ⟨_, rfl, rfl, rfl⟩

theorem refuse_fails (message : Text) (disk : Disk) : (refuse message).Fails disk := by
  unfold refuse
  split
  · exact ⟨_, rfl, rfl, rfl⟩
  · exact crash_fails _ disk

theorem refuseFile_fails (missing path : Text) (refusal : Refusal) (disk : Disk) :
    (refuseFile missing path refusal).Fails disk := by
  unfold refuseFile
  split
  · exact refuse_fails _ disk
  · exact crash_fails _ disk
  · exact refuse_fails _ disk

theorem withSettings_run (hwhole : IsWhole disk config) (next : Settings → Plan) :
    (∃ settings, Loads disk config settings ∧ (withSettings config next).run disk = (next settings).run disk) ∨
      (withSettings config next).Fails disk ∧ ∀ settings, ¬ Loads disk config settings := by
  cases config with
  | none => exact Or.inl ⟨{}, rfl, rfl⟩
  | some path =>
    rw [withSettings]
    cases hread : disk.read path with
    | error refusal =>
      refine Or.inr ⟨?_, fun settings hloads => ?_⟩
      · rw [Plan.Fails, Plan.run, hread]
        exact refuseFile_fails _ path refusal disk
      · obtain ⟨content, hbytes, -⟩ := hloads
        rw [hread] at hbytes
        cases hbytes
    | ok bytes =>
      cases hfile : Settings.ofFile path (some bytes) with
      | ok settings =>
        refine Or.inl ⟨settings, ⟨⟨bytes, hwhole path rfl bytes hread⟩, hread, hfile⟩, ?_⟩
        rw [Plan.run, hread]
        simp only [hfile]
      | error error =>
        refine Or.inr ⟨?_, fun settings hloads => ?_⟩
        · rw [Plan.Fails, Plan.run, hread]
          simp only [hfile]
          split
          · rename_i heq
            cases heq
          · exact refuse_fails _ disk
          · exact crash_fails _ disk
        · obtain ⟨content, hbytes, hfile'⟩ := hloads
          rw [← Except.ok.inj (hread.symm.trans hbytes), hfile] at hfile'
          cases hfile'

theorem withResolver_run (disk : Disk) (settings : Settings) (next : Resolver → Plan) :
    (∃ resolver, Resolver.build Registry.builtin settings = .ok resolver ∧
        (withResolver settings next).run disk = (next resolver).run disk) ∨
      (withResolver settings next).Fails disk ∧
        ∀ resolver, Resolver.build Registry.builtin settings ≠ .ok resolver := by
  unfold withResolver
  cases hbuild : Resolver.build Registry.builtin settings with
  | ok resolver => exact Or.inl ⟨resolver, rfl, rfl⟩
  | error error =>
    refine Or.inr ⟨?_, fun _ h => by cases h⟩
    split
    · rename_i heq
      cases heq
    · exact refuse_fails _ disk
    · exact crash_fails _ disk

theorem ofRequest_render_run (hwhole : IsWhole disk config) (file : Text) (engine : Engine) (output : Option Text) :
    (∃ source resolver, Prepares disk file config source resolver ∧
        (Plan.ofRequest (.render file config engine output)).run disk =
          (render source engine output resolver).run disk) ∨
      (Plan.ofRequest (.render file config engine output)).Fails disk ∧
        ∀ source resolver, ¬ Prepares disk file config source resolver := by
  rw [Plan.ofRequest, Plan.Fails, Plan.run]
  cases hread : disk.read file with
  | error refusal =>
    refine Or.inr ⟨refuseFile_fails _ file refusal disk, fun source resolver hprepares => ?_⟩
    obtain ⟨bytes, hbytes, -⟩ := hprepares.source
    rw [hread] at hbytes
    cases hbytes
  | ok bytes =>
    cases hsource : Text.ofBytes? bytes with
    | none =>
      refine Or.inr ⟨?_, fun source resolver hprepares => ?_⟩
      · simp only [hsource]
        exact crash_fails _ disk
      · obtain ⟨bytes', hbytes, hsome⟩ := hprepares.source
        obtain rfl := Except.ok.inj (hread.symm.trans hbytes)
        rw [hsource] at hsome
        cases hsome
    | some source =>
      simp only [hsource]
      rcases withSettings_run hwhole fun settings => withResolver settings (render source engine output) with
        ⟨settings, hloads, hrun⟩ | ⟨hfails, hnone⟩
      · rcases withResolver_run disk settings (render source engine output) with
          ⟨resolver, hbuild, hnext⟩ | ⟨hfails, hnone⟩
        · exact Or.inl ⟨source, resolver, ⟨⟨bytes, hread, hsource⟩, settings, hloads, hbuild⟩, hrun.trans hnext⟩
        · refine Or.inr ⟨?_, fun _ resolver hprepares => ?_⟩
          · rw [hrun]
            exact hfails
          · obtain ⟨settings', hloads', hbuild⟩ := hprepares.resolver
            obtain rfl := hloads.unique hloads'
            exact hnone resolver hbuild
      · refine Or.inr ⟨hfails, fun _ _ hprepares => ?_⟩
        obtain ⟨settings, hloads, -⟩ := hprepares.resolver
        exact hnone settings hloads

/-! ### The write -/

theorem print_written (hbracket : '[' ∉ target) :
    ∃ output, Terminal.print ("[green]HTML written to[/green] " ++ target) = .ok output := by
  have hname : Markup.IsContent "green" := ⟨⟨'g', rfl, by decide⟩, List.all_iff_forall_prop.mp (by decide)⟩
  have hopened : Markup.applyMark 0 [] "green" = .ok ([⟨"green", none, 0⟩], none) := by rfl
  have hwords : ∀ c ∈ ("HTML written to" : String).toList, c ≠ '\\' ∧ c ≠ '[' :=
    List.all_iff_forall_prop.mp (by decide)
  have hquiet : Markup.Quiet 0 (' ' :: target) := Markup.quiet_of_no_marks (by simpa using hbracket) 0
  obtain ⟨shown, hshown⟩ :=
    Markup.marked_styled "HTML written to" hname hopened (fun _ => by rfl) (fun _ => rfl) hwords hquiet
  exact Grid.print_ok hshown

theorem writeHtml_run (hbracket : '[' ∉ target) (disk : Disk) (document : Text) :
    (∃ ending after, disk.write target (Utf8.encode document) = .ok after ∧
        (writeHtml target document).run disk = (ending, after) ∧ ending.code = 0 ∧ ending.crash = none) ∨
      (writeHtml target document).Fails disk ∧ ∀ after, disk.write target (Utf8.encode document) ≠ .ok after := by
  rw [writeHtml, Plan.Fails, Plan.run]
  cases hwrite : disk.write target (Utf8.encode document) with
  | error refusal => exact Or.inr ⟨crash_fails _ disk, fun _ h => by cases h⟩
  | ok after =>
    obtain ⟨output, houtput⟩ := print_written hbracket
    refine Or.inl ⟨{ output }, after, rfl, ?_, rfl, rfl⟩
    simp only [houtput]
    rfl

theorem writeNothing_run (disk : Disk) (target : Text) :
    (∃ after, disk.write target [] = .ok after ∧
        (writeNothing target).run disk = ({ code := 1, crash := some .noBytes }, after)) ∨
      (writeNothing target).Fails disk := by
  rw [writeNothing, Plan.Fails, Plan.run]
  change (∃ after, disk.write target (Utf8.encode []) = .ok after ∧ _) ∨ _
  cases hwrite : disk.write target (Utf8.encode []) with
  | error refusal => exact Or.inr (crash_fails _ disk)
  | ok after => exact Or.inl ⟨after, rfl, rfl⟩

/-- How rendering into a file ends: with the HTML, with an empty file, or with the disk as it was. -/
theorem render_run (hname : target ≠ []) (hbracket : '[' ∉ target) (disk : Disk) (source : Text)
    (engine : Engine) (resolver : Resolver) :
    (∃ ending document after, html engine resolver source = .ok document ∧
        hasBytes engine resolver source = true ∧ disk.write target (Utf8.encode document) = .ok after ∧
        (render source engine (some target) resolver).run disk = (ending, after) ∧
        ending.code = 0 ∧ ending.crash = none) ∨
      (∃ document after, html engine resolver source = .ok document ∧
        hasBytes engine resolver source = false ∧ disk.write target [] = .ok after ∧
        (render source engine (some target) resolver).run disk =
          ({ code := 1, crash := some .noBytes }, after)) ∨
      (render source engine (some target) resolver).Fails disk ∧
        ¬ ∃ document after, html engine resolver source = .ok document ∧
          hasBytes engine resolver source = true ∧ disk.write target (Utf8.encode document) = .ok after := by
  unfold render
  cases hhtml : html engine resolver source with
  | error fault =>
    refine Or.inr (Or.inr ⟨crash_fails _ disk, ?_⟩)
    rintro ⟨document, after, hdocument, -⟩
    cases hdocument
  | ok document =>
    obtain ⟨c, rest, rfl⟩ := List.exists_cons_of_ne_nil hname
    cases hbytes : hasBytes engine resolver source with
    | true =>
      rcases writeHtml_run hbracket disk document with
        ⟨ending, after, hwrite, hrun, hends⟩ | ⟨hfails, hnone⟩
      · exact Or.inl ⟨ending, document, after, rfl, rfl, hwrite, hrun, hends⟩
      · refine Or.inr (Or.inr ⟨hfails, ?_⟩)
        rintro ⟨document', after, hdocument, -, hwrite⟩
        obtain rfl := Except.ok.inj hdocument
        exact hnone after hwrite
    | false =>
      rcases writeNothing_run disk (c :: rest) with ⟨after, hwrite, hrun⟩ | hfails
      · exact Or.inr (Or.inl ⟨document, after, rfl, rfl, hwrite, hrun⟩)
      · refine Or.inr (Or.inr ⟨hfails, ?_⟩)
        rintro ⟨_, _, -, htrue, -⟩
        cases htrue

theorem run_eq_ofRequest {words : List Text} {request : Request} (h : Request.read words = .ok request)
    (disk : Disk) : run disk words = (Plan.ofRequest request).run disk := by
  cases words with
  | nil =>
    have hnone : Request.read [] = .error (none, .missingCommand) := by rfl
    rw [hnone] at h
    cases h
  | cons word words =>
    rw [run, plan, h]
    exact List.cons_ne_nil word words

/-- The classic engine shows no surrogates, for none come in from the source and the settings. -/
theorem hasBytes_classic {document : Text} (h : html .classic resolver source = .ok document) :
    hasBytes .classic resolver source = true := by
  have hother : html .classic resolver source '\uFFFE' = .ok document := h
  rw [hasBytes, h, hother]
  exact decide_eq_true rfl

/-- The words that render `a.md` into `b.html`. -/
def renderWords : List Text := ["render", "a.md", "-o", "b.html"]

/-- A disk with a document, and with a file in the place of its HTML. -/
def documentDisk (source : Text) : Disk :=
  ⟨[(⟨[], ["a.md"]⟩, .file (Utf8.encode source)), (⟨[], ["b.html"]⟩, .file (Utf8.encode "old"))]⟩

end BraceLink.Command
