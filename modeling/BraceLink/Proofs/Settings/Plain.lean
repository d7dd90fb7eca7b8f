import BraceLink.Proofs.Resolver.Build
import BraceLink.Settings.Read

/-!
# Settings from plain data

Values may hold parts of settings that are complete already, and these are taken as they are. Settings that
are read from data alone (`Settings.IsGivenPlain`) have passed every check of the readers: no rule of theirs
gives an empty image (`Settings.IsGivenPlain.image_ne_nil`).
-/

namespace BraceLink

/-! ### Plain values -/

namespace Value

mutual

/-- No part of settings stands in the value as it is. -/
def isPlain : Value → Bool
  | .target _ | .profile _ | .rule _ | .settings _ => false
  | .list items | .tuple items | .set items => arePlain items
  | .map entries => arePlainEntries entries
  | _ => true

def arePlain : List Value → Bool
  | [] => true
  | item :: rest => isPlain item && arePlain rest

def arePlainEntries : List (Value × Value) → Bool
  | [] => true
  | (key, value) :: rest => isPlain key && isPlain value && arePlainEntries rest

end

theorem isPlain_of_mem {items : List Value} (h : arePlain items = true) {item : Value} (hmem : item ∈ items) :
    item.isPlain = true := by
  induction items with
  | nil => exact absurd hmem List.not_mem_nil
  | cons first rest ih =>
    rw [arePlain, Bool.and_eq_true] at h
    rcases List.mem_cons.mp hmem with rfl | hmem
    · exact h.1
    · exact ih h.2 hmem

end Value

/-! ### Readers -/

namespace Settings

theorem bind_eq_ok {α β : Type} {first : Result α} {next : α → Result β} {result : β}
    (h : (first >>= next) = .ok result) : ∃ value, first = .ok value ∧ next value = .ok result := by
  cases first with
  | error fault => cases h
  | ok value => exact ⟨value, rfl, h⟩

theorem readText_ne_nil {path what text : Text} {value : Value} (h : readText path what value = .ok text) :
    text ≠ [] := by
  unfold readText at h
  split at h
  · cases h
    simp
  · cases h

theorem readPair_image_ne_nil {path : Text} {matcher image : Value} {rule : ImageRule}
    (h : readPair path matcher image = .ok rule) : rule.image ≠ [] := by
  have hrest : ∀ {found : Matcher},
      (do return { matcher := found, image := ← readText path "image" image }) = Except.ok rule →
        rule.image ≠ [] := by
    intro found h
    obtain ⟨text, htext, h⟩ := bind_eq_ok h
    cases h
    exact readText_ne_nil htext
  unfold readPair at h
  dsimp only at h
  split at h
  · obtain ⟨found, -, h⟩ := bind_eq_ok h
    exact hrest h
  · obtain ⟨link, -, h⟩ := bind_eq_ok h
    obtain ⟨found, -, h⟩ := bind_eq_ok h
    exact hrest h

theorem readRule_image_ne_nil {path : Text} {value : Value} {rule : ImageRule} (hplain : value.isPlain = true)
    (h : readRule path value = .ok rule) : rule.image ≠ [] := by
  unfold readRule at h
  split at h
  · cases hplain
  · obtain ⟨text, htext, h⟩ := bind_eq_ok h
    have himage : rule.image = text := by
      split at h
      · obtain ⟨pattern, -, h⟩ := bind_eq_ok h
        cases h
        rfl
      · obtain ⟨link, -, h⟩ := bind_eq_ok h
        cases h
        rfl
      · cases h
    rw [himage]
    exact readText_ne_nil htext
  · exact readPair_image_ne_nil h
  · exact readPair_image_ne_nil h
  · exact readPair_image_ne_nil h
  · cases h

theorem arePlain_of_readItems {path : Text} {value : Value} {items : List Value} (hplain : value.isPlain = true)
    (h : readItems path value = .ok items) : Value.arePlain items = true := by
  unfold readItems at h
  split at h
  · cases h
    rfl
  · cases h
    exact hplain
  · cases h
    exact hplain
  · cases h

theorem exists_of_forall₂ {α β : Type} {r : α → β → Prop} {xs : List α} {ys : List β}
    (h : List.Forall₂ r xs ys) {y : β} (hy : y ∈ ys) : ∃ x ∈ xs, r x y := by
  induction h with
  | nil => exact absurd hy List.not_mem_nil
  | cons hfirst _ ih =>
    rcases List.mem_cons.mp hy with rfl | hy
    · exact ⟨_, List.mem_cons_self, hfirst⟩
    · obtain ⟨x, hx, hxy⟩ := ih hy
      exact ⟨x, List.mem_cons_of_mem _ hx, hxy⟩

theorem exists_of_mem_readList {α : Type} {read : Text → Value → Result α} {path : Text} {value : Value}
    {results : List α} (h : readList read path value = .ok results) {result : α} (hmem : result ∈ results) :
    ∃ items place item, readItems path value = .ok items ∧ item ∈ items ∧ read place item = .ok result := by
  obtain ⟨items, hitems, h⟩ := bind_eq_ok h
  obtain ⟨⟨item, index⟩, hitem, hread⟩ := exists_of_forall₂ (mapM_eq_ok_iff.mp h) hmem
  exact ⟨items, _, item, hitems, List.fst_mem_of_mem_zipIdx hitem, hread⟩

/-! ### Settings -/

/-- The values of all options are plain. -/
def Sections.isPlain (sections : Sections) : Bool :=
  Section.all.all fun option => (sections.get option).isPlain

/-- Settings that are read from plain data, option by option or from a mapping of options. -/
inductive IsGivenPlain : Settings → Prop
  | options {settings : Settings} (sections : Sections) (hplain : sections.isPlain = true)
      (hread : sections.read = .ok settings) : IsGivenPlain settings
  | mapping {settings : Settings} (value : Value) (hplain : value.isPlain = true)
      (hread : ofValue value = .ok settings) : IsGivenPlain settings

theorem Sections.read_rules {sections : Sections} {settings : Settings} (h : sections.read = .ok settings) :
    readList readRule Section.rules.name sections.rules = .ok settings.rules := by
  obtain ⟨links, -, h⟩ := bind_eq_ok h
  obtain ⟨platforms, -, h⟩ := bind_eq_ok h
  obtain ⟨rules, hrules, h⟩ := bind_eq_ok h
  obtain ⟨chain, -, h⟩ := bind_eq_ok h
  cases h
  exact hrules

theorem Sections.isPlain_set {sections : Sections} (h : sections.isPlain = true) (option : Section) {value : Value}
    (hvalue : value.isPlain = true) : (sections.set option value).isPlain = true := by
  simp only [isPlain, Section.all, List.all_cons, List.all_nil, Bool.and_eq_true, get] at h ⊢
  cases option <;> simp_all [set]

theorem Sections.isPlain_gather {entries : List (Value × Value)} {given : List Section}
    {sections result : Sections} (hsections : sections.isPlain = true)
    (hentries : Value.arePlainEntries entries = true) (h : gather given sections entries = .ok result) :
    result.isPlain = true := by
  induction entries generalizing given sections with
  | nil =>
    cases h
    exact hsections
  | cons entry rest ih =>
    obtain ⟨key, value⟩ := entry
    rw [Value.arePlainEntries, Bool.and_eq_true, Bool.and_eq_true] at hentries
    rw [gather] at h
    split at h
    · unfold refuseKey at h
      split_ifs at h
      cases h
    · split_ifs at h
      · cases h
      · exact ih (isPlain_set hsections _ hentries.1.2) hentries.2 h

theorem Sections.image_ne_nil {sections : Sections} {settings : Settings} (hplain : sections.isPlain = true)
    (h : sections.read = .ok settings) : ∀ rule ∈ settings.rules, rule.image ≠ [] := by
  intro rule hrule
  obtain ⟨items, place, item, hitems, hmem, hread⟩ := exists_of_mem_readList (read_rules h) hrule
  have hrules : sections.rules.isPlain = true := List.all_eq_true.mp hplain Section.rules (by decide)
  exact readRule_image_ne_nil (Value.isPlain_of_mem (arePlain_of_readItems hrules hitems) hmem) hread

/-- **Rules that are read from plain data have images.** -/
theorem IsGivenPlain.image_ne_nil {settings : Settings} (h : settings.IsGivenPlain) :
    ∀ rule ∈ settings.rules, rule.image ≠ [] := by
  cases h with
  | options sections hplain hread => exact Sections.image_ne_nil hplain hread
  | mapping value hplain hread =>
    obtain ⟨entries, hentries, hread⟩ := bind_eq_ok hread
    obtain ⟨sections, hgather, hread⟩ := bind_eq_ok hread
    have hplainEntries : Value.arePlainEntries entries = true := by
      unfold readEntries at hentries
      split at hentries
      · cases hentries
        rfl
      · cases hentries
        exact hplain
      · cases hentries
    exact Sections.image_ne_nil (Sections.isPlain_gather (by decide) hplainEntries hgather) hread

end Settings

end BraceLink
