import BraceLink.Proofs.Commonmark.Magic

/-!
# Links in links

Links are opened and closed like brackets; `openings?` lists them with the links that are open around each.
`Linked` are the pieces in which only a link that is written with brackets has links inside. Around every link
that such pieces open, only links of that kind are open (`Linked.exists_openings`).

A step of the reader adds pieces to those of the state: none (`Skims`), none that are links (`Fills`), or linked
ones (`Grows`). Putting a made link around what fills, or one with brackets around what grows, grows again.
-/

namespace BraceLink.Commonmark

/-- Whether the piece opens or closes a link. -/
def Node.isLink : Node → Bool
  | .linkOpen _ _ | .linkClose _ => true
  | _ => false

/-! ### Open links -/

/-- A link where it is opened: whether the links around it are made, the innermost first, and whether it is. -/
structure Opening where
  outer : List Bool
  made : Bool
  deriving DecidableEq, Repr

/-- The links that the pieces open inside of the links `outer`, if every one of both is closed in its turn. -/
def openings? (outer : List Bool) : List Node → Option (List Opening)
  | [] => if outer.isEmpty then some [] else none
  | .linkOpen _ made :: rest => (openings? (made :: outer) rest).map ({ outer, made } :: ·)
  | .linkClose made :: rest =>
    match outer with
    | [] => none
    | inner :: outer => if inner = made then openings? outer rest else none
  | _ :: rest => openings? outer rest

theorem openings?_cons {node : Node} (h : node.isLink = false) (outer : List Bool) (rest : List Node) :
    openings? outer (node :: rest) = openings? outer rest := by
  cases node with
  | linkOpen attrs made => simp [Node.isLink] at h
  | linkClose made => simp [Node.isLink] at h
  | _ => rfl

theorem openings?_append {inner : List Node} (h : ∀ node ∈ inner, node.isLink = false) (outer : List Bool)
    (rest : List Node) : openings? outer (inner ++ rest) = openings? outer rest := by
  induction inner with
  | nil => rfl
  | cons node inner ih =>
    rw [List.cons_append, openings?_cons (h node (by simp)), ih fun other hother => h other (by simp [hother])]

theorem openings?_close (made : Bool) (outer : List Bool) (rest : List Node) :
    openings? (made :: outer) (.linkClose made :: rest) = openings? outer rest := by
  rw [openings?, if_pos rfl]

/-- Only links that are written with brackets are open around the link, and only if there are brackets. -/
def Opening.InBrackets (brackets : Prop) (opening : Opening) : Prop :=
  (∀ made ∈ opening.outer, made = false) ∧ (opening.outer ≠ [] → brackets)

/-! ### Pieces with links in their turn -/

/-- Pieces in which links stand one behind the other, and one inside of the other only in links that are written
with brackets; there are such links only if there are brackets. -/
inductive Linked (brackets : Prop) : List Node → Prop
  | nil : Linked brackets []
  | other {node : Node} {rest : List Node} (hnode : node.isLink = false) (hrest : Linked brackets rest) :
    Linked brackets (node :: rest)
  | made {attrs : List (Text × Text)} {inner rest : List Node} (hinner : ∀ node ∈ inner, node.isLink = false)
    (hrest : Linked brackets rest) : Linked brackets (.linkOpen attrs true :: (inner ++ .linkClose true :: rest))
  | written {attrs : List (Text × Text)} {inner rest : List Node} (hbrackets : brackets)
    (hinner : Linked brackets inner) (hrest : Linked brackets rest) :
    Linked brackets (.linkOpen attrs false :: (inner ++ .linkClose false :: rest))

namespace Linked

variable {brackets : Prop} {nodes : List Node}

theorem of_forall (h : ∀ node ∈ nodes, node.isLink = false) : Linked brackets nodes := by
  induction nodes with
  | nil => exact .nil
  | cons node nodes ih => exact .other (h node (by simp)) (ih fun other hother => h other (by simp [hother]))

theorem append (h : Linked brackets nodes) {more : List Node} (hmore : Linked brackets more) :
    Linked brackets (nodes ++ more) := by
  induction h with
  | nil => exact hmore
  | other hnode _ ih => exact .other hnode ih
  | made hinner _ ih =>
    rw [List.cons_append, List.append_assoc, List.cons_append]
    exact .made hinner ih
  | written hbrackets hinner _ _ ih =>
    rw [List.cons_append, List.append_assoc, List.cons_append]
    exact .written hbrackets hinner ih

/-- A change of pieces that leaves links alone and makes none. -/
theorem map {f : Node → Node} (hlink : ∀ node, node.isLink = true → f node = node)
    (hother : ∀ node, node.isLink = false → (f node).isLink = false) (h : Linked brackets nodes) :
    Linked brackets (nodes.map f) := by
  induction h with
  | nil => exact .nil
  | other hnode _ ih => exact .other (hother _ hnode) ih
  | made hinner _ ih =>
    rw [List.map_cons, List.map_append, List.map_cons, hlink _ rfl, hlink _ rfl]
    refine .made (fun node hnode => ?_) ih
    obtain ⟨before, hbefore, rfl⟩ := List.mem_map.mp hnode
    exact hother before (hinner before hbefore)
  | written hbrackets _ _ ihinner ihrest =>
    rw [List.map_cons, List.map_append, List.map_cons, hlink _ rfl, hlink _ rfl]
    exact .written hbrackets ihinner ihrest

/-- Inside of links that are written with brackets, such pieces close what they open, and open only links around
which there are no others. -/
theorem openings?_append (h : Linked brackets nodes) {outer : List Bool} (houter : ∀ made ∈ outer, made = false)
    (hbrackets : outer ≠ [] → brackets) :
    ∃ found : List Opening, (∀ opening ∈ found, opening.InBrackets brackets) ∧
      ∀ rest, openings? outer (nodes ++ rest) = (openings? outer rest).map (found ++ ·) := by
  -- inside of a link with brackets one more such link is open
  induction h generalizing outer with
  | nil => exact ⟨[], by simp, fun rest => by simp⟩
  | other hnode _ ih =>
    obtain ⟨found, hfound, hopen⟩ := ih houter hbrackets
    exact ⟨found, hfound, fun rest => by rw [List.cons_append, openings?_cons hnode, hopen]⟩
  | @made attrs inner after hinner _ ih =>
    obtain ⟨found, hfound, hopen⟩ := ih houter hbrackets
    refine ⟨⟨outer, true⟩ :: found, List.forall_mem_cons.mpr ⟨⟨houter, hbrackets⟩, hfound⟩, fun rest => ?_⟩
    rw [List.cons_append, List.append_assoc, List.cons_append, openings?, Commonmark.openings?_append hinner,
      openings?_close, hopen, Option.map_map]
    rfl
  | @written attrs inner after hallowed _ _ ihinner ihrest =>
    have hinner : ∀ made ∈ false :: outer, made = false := List.forall_mem_cons.mpr ⟨rfl, houter⟩
    obtain ⟨inside, hinside, hopenInside⟩ := ihinner hinner fun _ => hallowed
    obtain ⟨found, hfound, hopen⟩ := ihrest houter hbrackets
    refine ⟨⟨outer, false⟩ :: (inside ++ found), ?_, fun rest => ?_⟩
    · rw [List.forall_mem_cons, List.forall_mem_append]
      exact ⟨⟨houter, hbrackets⟩, hinside, hfound⟩
    · rw [List.cons_append, List.append_assoc, List.cons_append, openings?, hopenInside, openings?_close, hopen,
        Option.map_map, Option.map_map]
      congr 1
      funext more
      simp

theorem exists_openings (h : Linked brackets nodes) :
    ∃ found, openings? [] nodes = some found ∧ ∀ opening ∈ found, opening.InBrackets brackets := by
  have hnone : ∀ made ∈ ([] : List Bool), made = false := by simp
  obtain ⟨found, hfound, hopen⟩ := h.openings?_append hnone (by simp)
  exact ⟨found, by simpa [openings?] using hopen [], hfound⟩

end Linked

/-! ### What a step adds -/

namespace State

/-- The step adds no pieces. -/
structure Skims (s after : State) : Prop where
  src : after.src = s.src
  pieces : after.pieces = s.pieces

/-- The step adds pieces that are no links. -/
structure Fills (s after : State) : Prop where
  src : after.src = s.src
  pieces : ∃ added, after.pieces = s.pieces ++ added ∧ ∀ node ∈ added.map Piece.node, node.isLink = false

/-- The step adds pieces with links in their turn. -/
structure Grows (s after : State) : Prop where
  src : after.src = s.src
  pieces : ∃ added, after.pieces = s.pieces ++ added ∧ Linked ('[' ∈ s.src) (added.map Piece.node)

def Reads (silent : Bool) (s after : State) : Prop := if silent then s.Skims after else s.Grows after

variable {s between after : State} {silent : Bool}

theorem Skims.refl (s : State) : s.Skims s := ⟨rfl, rfl⟩

theorem Skims.trans (h : s.Skims between) (hafter : between.Skims after) : s.Skims after :=
  ⟨hafter.src.trans h.src, hafter.pieces.trans h.pieces⟩

theorem Skims.fills (h : s.Skims after) : s.Fills after :=
  ⟨h.src, [], by rw [h.pieces, List.append_nil], by simp⟩

theorem Fills.trans (h : s.Fills between) (hafter : between.Fills after) : s.Fills after := by
  obtain ⟨added, hadded, hplain⟩ := h.pieces
  obtain ⟨more, hmore, hplainMore⟩ := hafter.pieces
  refine ⟨hafter.src.trans h.src, added ++ more, ?_, ?_⟩
  · rw [hmore, hadded, List.append_assoc]
  · rw [List.map_append, List.forall_mem_append]
    exact ⟨hplain, hplainMore⟩

theorem Fills.grows (h : s.Fills after) : s.Grows after := by
  obtain ⟨added, hadded, hplain⟩ := h.pieces
  exact ⟨h.src, added, hadded, .of_forall hplain⟩

theorem Grows.trans (h : s.Grows between) (hafter : between.Grows after) : s.Grows after := by
  obtain ⟨added, hadded, hlinked⟩ := h.pieces
  obtain ⟨more, hmore, hlinkedMore⟩ := hafter.pieces
  rw [h.src] at hlinkedMore
  refine ⟨hafter.src.trans h.src, added ++ more, ?_, ?_⟩
  · rw [hmore, hadded, List.append_assoc]
  · rw [List.map_append]
    exact hlinked.append hlinkedMore

theorem Skims.grows (h : s.Skims after) : s.Grows after := h.fills.grows

theorem Grows.repeat {step : State → State} (h : ∀ s, State.Grows s (step s)) (count : Nat) (s : State) :
    s.Grows (Nat.repeat step count s) := by
  induction count with
  | zero => exact (Skims.refl s).grows
  | succ count ih => exact ih.trans (h _)

theorem Skims.reads (h : s.Skims after) : s.Reads silent after := by
  cases silent with
  | true => exact h
  | false => exact h.grows

theorem Reads.trans (h : s.Reads silent between) (hafter : between.Reads silent after) :
    s.Reads silent after := by
  cases silent with
  | true => exact Skims.trans h hafter
  | false => exact Grows.trans h hafter

theorem Reads.moveTo (h : s.Reads silent after) (offset : Nat) : s.Reads silent (after.moveTo offset) :=
  h.trans (Skims.reads ⟨rfl, rfl⟩)

/-! ### Single pieces -/

theorem fills_flush (s : State) : s.Fills s.flush := by
  unfold flush
  split_ifs
  · exact (Skims.refl s).fills
  · exact ⟨rfl, [⟨.text s.pending, s.level⟩], rfl, by simp [Node.isLink]⟩

theorem fills_push {node : Node} (h : node.isLink = false) (s : State) : s.Fills (s.push node) := by
  have hpush : s.flush.Fills (s.push node) := ⟨rfl, [⟨node, s.flush.level⟩], rfl, by simp [h]⟩
  exact (fills_flush s).trans hpush

theorem reads_pushUnless {node : Node} (h : node.isLink = false) (s : State) :
    s.Reads silent (s.pushUnless silent node) := by
  cases silent with
  | true => exact Skims.refl s
  | false => exact (fills_push h s).grows

theorem reads_addPending (s : State) (text : Text) :
    s.Reads silent (if silent then s else s.addPending text) := by
  split_ifs
  · exact (Skims.refl s).reads
  · exact Skims.reads ⟨rfl, rfl⟩

/-! ### Links -/

theorem grows_enclosed {inner : List Piece} {attrs : List (Text × Text)} {made : Bool}
    (hsrc : between.flush.src = s.src)
    (hpieces : between.flush.pieces = (s.pushOpen (.linkOpen attrs made)).pieces ++ inner)
    (hlinked : Linked ('[' ∈ s.src) (.linkOpen attrs made :: (inner.map Piece.node ++ [.linkClose made]))) :
    s.Grows (between.pushClose (.linkClose made)) := by
  have hflush := (fills_flush s).grows
  refine hflush.trans ⟨hsrc.trans hflush.src.symm, ⟨.linkOpen attrs made, s.level⟩ ::
    (inner ++ [⟨.linkClose made, between.flush.level - 1⟩]), ?_, ?_⟩
  · change between.flush.pieces ++ [_] = _
    rw [hpieces, pushOpen_eq]
    simp
  · rw [hflush.src, List.map_cons, List.map_append]
    exact hlinked

theorem grows_made {attrs : List (Text × Text)} (h : (s.pushOpen (.linkOpen attrs true)).Fills between) :
    s.Grows (between.pushClose (.linkClose true)) := by
  have hfills := h.trans (fills_flush between)
  have hopen : (s.pushOpen (.linkOpen attrs true)).src = s.src := by rw [pushOpen_eq]
  obtain ⟨inner, hinner, hplain⟩ := hfills.pieces
  exact grows_enclosed (hfills.src.trans hopen) hinner (.made hplain .nil)

theorem grows_written (attrs : List (Text × Text)) {opened : State} (hbrackets : '[' ∈ s.src)
    (hopened : (s.pushOpen (.linkOpen attrs false)).Skims opened) (h : opened.Grows between) :
    s.Grows (between.pushClose (.linkClose false)) := by
  have hgrows := (hopened.grows.trans h).trans (fills_flush between).grows
  have hopen : (s.pushOpen (.linkOpen attrs false)).src = s.src := by rw [pushOpen_eq]
  obtain ⟨inner, hinner, hlinked⟩ := hgrows.pieces
  rw [hopen] at hlinked
  exact grows_enclosed (hgrows.src.trans hopen) hinner (.written hbrackets hlinked .nil)

end State

end BraceLink.Commonmark
