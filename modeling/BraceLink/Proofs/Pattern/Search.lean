import BraceLink.ImageRule

/-!
# Where patterns and rules match

A search is not tied to the beginning of a text: it succeeds exactly if the pattern matches at some place of
the text (`Pattern.search_eq_true_iff`). `Matcher.Matches` says what an image rule asks of a link.

The rounds of a repetition are counted down from a bound that no attempt reaches: with any larger bound the
attempt comes to the same (`Pattern.rounds_most_bound`, `Pattern.rounds_least_bound`, `Pattern.rounds_held_bound`).
-/

namespace BraceLink

namespace Pattern

/-- The pattern matches at the place behind `front` in the text `front ++ rest`. -/
def MatchesAt (pattern : Pattern) (front rest : Text) : Prop :=
  pattern.expr.matchesAt { before := front.reverse, rest, offset := front.length } = true

theorem foundFrom_iff {e : Expr} {before rest : Text} {offset : Nat} :
    e.foundFrom before rest offset = true ↔
      ∃ front back, rest = front ++ back ∧
        e.matchesAt { before := front.reverse ++ before, rest := back, offset := offset + front.length } = true := by
  -- The places are tried from left to right, so what is passed moves to `before`.
  induction rest generalizing before offset with
  | nil =>
    rw [Expr.foundFrom]
    constructor
    · intro h
      exact ⟨[], [], rfl, by simpa using h⟩
    · rintro ⟨front, back, hsplit, hrun⟩
      obtain ⟨rfl, rfl⟩ := List.nil_eq_append_iff.mp hsplit
      simpa using hrun
  | cons c rest ih =>
    rw [Expr.foundFrom, Bool.or_eq_true, ih]
    constructor
    · rintro (hhere | ⟨front, back, rfl, hrun⟩)
      · exact ⟨[], c :: rest, rfl, by simpa using hhere⟩
      · refine ⟨c :: front, back, rfl, ?_⟩
        rw [show offset + (c :: front).length = offset + 1 + front.length by simp; omega]
        simpa using hrun
    · rintro ⟨front, back, hsplit, hrun⟩
      cases front with
      | nil =>
        left
        rw [← show c :: rest = back from hsplit] at hrun
        simpa using hrun
      | cons d front =>
        obtain ⟨rfl, rfl⟩ := List.cons.inj hsplit
        right
        refine ⟨front, back, rfl, ?_⟩
        rw [show offset + (c :: front).length = offset + 1 + front.length by simp; omega] at hrun
        simpa using hrun

theorem search_eq_true_iff {pattern : Pattern} {text : Text} :
    pattern.search text = true ↔ ∃ front rest, text = front ++ rest ∧ pattern.MatchesAt front rest := by
  rw [search, Expr.found, foundFrom_iff]
  simp [MatchesAt]

/-! ## The rounds of a repetition -/

/-- One place is reached from another by going on in the same text. -/
structure Place.Reaches (p q : Place) : Prop where
  offset_le : p.offset ≤ q.offset
  end_eq : q.offset + q.rest.length = p.offset + p.rest.length

namespace Place.Reaches

variable {p q r : Place}

theorem refl (p : Place) : p.Reaches p := ⟨Nat.le_refl _, rfl⟩

theorem trans (hpq : p.Reaches q) (hqr : q.Reaches r) : p.Reaches r :=
  ⟨Nat.le_trans hpq.offset_le hqr.offset_le, hqr.end_eq.trans hpq.end_eq⟩

theorem marks (h : p.Reaches q) (marks : Marks) : p.Reaches { q with marks } := ⟨h.offset_le, h.end_eq⟩

theorem of_marks {marks : Marks} (h : { p with marks }.Reaches q) : p.Reaches q := ⟨h.offset_le, h.end_eq⟩

theorem advance (p : Place) : p.Reaches p.advance := by
  cases hrest : p.rest with
  | nil => rw [Place.advance, hrest]; exact refl p
  | cons c rest => exact ⟨by simp [Place.advance, hrest], by simp [Place.advance, hrest]; omega⟩

theorem skip (p : Place) (n : Nat) : p.Reaches (p.skip n) := by
  induction n with
  | zero => exact refl p
  | succ n ih => exact ih.trans (advance _)

theorem of_mem_steps {leaf : Single} {most : Nat} (h : q ∈ p.steps leaf most) : p.Reaches q := by
  induction most generalizing p with
  | zero => rw [List.mem_singleton.mp h]; exact refl p
  | succ most ih =>
    rw [Place.steps] at h
    split at h
    · rw [List.mem_singleton.mp h]; exact refl p
    · split at h
      · rcases List.mem_cons.mp h with rfl | h
        · exact refl q
        · exact (advance p).trans (ih h)
      · rw [List.mem_singleton.mp h]; exact refl p

end Place.Reaches

/-- What an attempt does with its continuation: only the places ahead matter, and if it succeeds, the
continuation has succeeded at one of them. -/
structure IsLocal (run : (Place → Attempt) → Place → Attempt) : Prop where
  congr : ∀ {p next next'}, (∀ q, p.Reaches q → next q = next' q) → run next p = run next' p
  ok : ∀ {p next r}, run next p = .ok r → ∃ q, p.Reaches q ∧ next q = .ok r

variable {inside : Bool} {bounds : Bounds} {round : (Place → Attempt) → Place → Attempt}
  {next next' : Place → Attempt} {p r : Place} {marks : Marks}

theorem IsLocal.reaches (h : IsLocal round) (hr : round .ok p = .ok r) : p.Reaches r := by
  obtain ⟨q, hq, ⟨⟩⟩ := h.ok hr
  exact hq

theorem firstOf_congr {ends : List Place} (h : ∀ q ∈ ends, ∀ marks, next { q with marks } = next' { q with marks }) :
    firstOf inside next marks ends = firstOf inside next' marks ends := by
  induction ends generalizing marks with
  | nil => rfl
  | cons q ends ih =>
    rw [firstOf, firstOf, h q List.mem_cons_self]
    split
    · rfl
    · exact ih fun q hq => h q (List.mem_cons_of_mem _ hq)

theorem firstOf_ok {ends : List Place} (h : firstOf inside next marks ends = .ok r) :
    ∃ q ∈ ends, ∃ marks, next { q with marks } = .ok r := by
  induction ends generalizing marks with
  | nil => cases h
  | cons q ends ih =>
    rw [firstOf] at h
    split at h
    case h_1 hnext => exact ⟨q, List.mem_cons_self, _, h ▸ hnext⟩
    case h_2 =>
      obtain ⟨q', hq', hnext⟩ := ih h
      exact ⟨q', List.mem_cons_of_mem _ hq', hnext⟩

theorem IsLocal.settled {step : Place → Attempt} (h : ∀ {p q}, step p = .ok q → p.Reaches q) :
    IsLocal fun next p => step p >>= next where
  congr {p next next'} hnext := by
    cases hstep : step p with
    | error later => rfl
    | ok q => exact hnext q (h hstep)
  ok {p next r} hr := by
    cases hstep : step p with
    | error later => rw [hstep] at hr; cases hr
    | ok q => rw [hstep] at hr; exact ⟨q, h hstep, hr⟩

theorem leafRounds_isLocal (inside : Bool) (leaf : Single) (greed : Greed) (least : Nat) (most : Option Nat) :
    IsLocal (leafRounds inside leaf greed least most) := by
  have hends : ∀ {p q : Place}, q ∈ (p.steps leaf (most.getD p.rest.length)).drop least → p.Reaches q := fun hq =>
    .of_mem_steps (List.mem_of_mem_drop hq)
  cases greed with
  | most =>
    constructor
    · intro p next next' h
      exact firstOf_congr fun q hq marks => h _ ((hends (List.mem_reverse.mp hq)).marks marks)
    · intro p next r h
      obtain ⟨q, hq, marks, hnext⟩ := firstOf_ok h
      exact ⟨_, (hends (List.mem_reverse.mp hq)).marks marks, hnext⟩
  | least =>
    constructor
    · intro p next next' h
      exact firstOf_congr fun q hq marks => h _ ((hends hq).marks marks)
    · intro p next r h
      obtain ⟨q, hq, marks, hnext⟩ := firstOf_ok h
      exact ⟨_, (hends hq).marks marks, hnext⟩
  | held =>
    refine .settled fun {p q} h => ?_
    split at h
    case h_1 q' hlast =>
      cases h
      exact hends (List.mem_of_getLast? hlast)
    case h_2 => cases h

/-- How many rounds, and one, may still come: those that are due, and one for each place ahead where a round
has not just begun. -/
def roundsLeft (bounds : Bounds) (count : Nat) (last : Option Nat) (p : Place) : Nat :=
  (bounds.least - count) + (p.rest.length + 1 - if last = some p.offset then 1 else 0) + 1

theorem roundsLeft_due (last : Option Nat) {count : Nat} {q : Place} (hcount : count < bounds.least)
    (hq : p.Reaches q) : roundsLeft bounds (count + 1) last q + 1 ≤ roundsLeft bounds count last p := by
  obtain ⟨hle, hend⟩ := hq
  simp only [roundsLeft]
  by_cases hsame : q.offset = p.offset
  · rw [hsame]
    split <;> omega
  · split <;> split <;> omega

theorem roundsLeft_more {count : Nat} {last : Option Nat} {q : Place} (hallow : bounds.allow count last p = true)
    (hq : p.Reaches q) :
    roundsLeft bounds (count + 1) (some p.offset) q + 1 ≤ roundsLeft bounds count last p := by
  obtain ⟨hle, hend⟩ := hq
  have hlast : last ≠ some p.offset := by
    intro hlast
    simp [Bounds.allow, hlast] at hallow
  simp only [roundsLeft, if_neg hlast, Option.some.injEq]
  split <;> omega

theorem roundsMost_congr (hround : IsLocal round) {fuel fuel' count : Nat} {last : Option Nat}
    (hnext : ∀ q, p.Reaches q → next q = next' q) (hfuel : roundsLeft bounds count last p ≤ fuel)
    (hfuel' : roundsLeft bounds count last p ≤ fuel') :
    roundsMost bounds round next fuel count last p = roundsMost bounds round next' fuel' count last p := by
  induction fuel generalizing fuel' count last p with
  | zero => simp [roundsLeft] at hfuel
  | succ fuel ih =>
    obtain ⟨fuel', rfl⟩ : ∃ n, fuel' = n + 1 := ⟨fuel' - 1, by simp only [roundsLeft] at hfuel'; omega⟩
    simp only [roundsMost]
    split
    case isTrue hcount =>
      refine hround.congr fun q hq => ?_
      have hleft := roundsLeft_due last hcount hq
      exact ih (fun r hr => hnext r (hq.trans hr)) (by omega) (by omega)
    case isFalse =>
      split
      case isTrue hallow =>
        rw [hround.congr fun q hq => ?_, hnext p (.refl p)]
        have hleft := roundsLeft_more hallow hq
        exact ih (fun r hr => hnext r (hq.trans hr)) (by omega) (by omega)
      case isFalse => exact hnext p (.refl p)

theorem roundsMost_ok (hround : IsLocal round) {fuel count : Nat} {last : Option Nat}
    (h : roundsMost bounds round next fuel count last p = .ok r) : ∃ q, p.Reaches q ∧ next q = .ok r := by
  induction fuel generalizing count last p with
  | zero => cases h
  | succ fuel ih =>
    have hstep {count last} (h : round (roundsMost bounds round next fuel count last) p = .ok r) :
        ∃ q, p.Reaches q ∧ next q = .ok r := by
      obtain ⟨q, hpq, hq⟩ := hround.ok h
      obtain ⟨q', hqq', hq'⟩ := ih hq
      exact ⟨q', hpq.trans hqq', hq'⟩
    rw [roundsMost] at h
    split at h
    case isTrue => exact hstep h
    case isFalse =>
      split at h
      case isTrue =>
        split at h
        case h_1 hmore => exact hstep (h ▸ hmore)
        case h_2 => exact ⟨p, .refl p, h⟩
      case isFalse => exact ⟨p, .refl p, h⟩

theorem roundsLeast_congr (hround : IsLocal round) {fuel fuel' count : Nat} {last : Option Nat}
    (hnext : ∀ q, p.Reaches q → next q = next' q) (hfuel : roundsLeft bounds count last p ≤ fuel)
    (hfuel' : roundsLeft bounds count last p ≤ fuel') :
    roundsLeast inside bounds round next fuel count last p =
      roundsLeast inside bounds round next' fuel' count last p := by
  induction fuel generalizing fuel' count last p with
  | zero => simp [roundsLeft] at hfuel
  | succ fuel ih =>
    obtain ⟨fuel', rfl⟩ : ∃ n, fuel' = n + 1 := ⟨fuel' - 1, by simp only [roundsLeft] at hfuel'; omega⟩
    simp only [roundsLeast]
    split
    case isTrue hcount =>
      refine hround.congr fun q hq => ?_
      have hleft := roundsLeft_due last hcount hq
      exact ih (fun r hr => hnext r (hq.trans hr)) (by omega) (by omega)
    case isFalse =>
      rw [← hnext p (.refl p)]
      split
      case h_1 => rfl
      case h_2 =>
        split
        case isTrue hallow =>
          refine hround.congr fun q hq => ?_
          have hleft := roundsLeft_more hallow hq.of_marks
          exact ih (fun r hr => hnext r (hq.of_marks.trans hr)) (by omega) (by omega)
        case isFalse => rfl

theorem roundsLeast_ok (hround : IsLocal round) {fuel count : Nat} {last : Option Nat}
    (h : roundsLeast inside bounds round next fuel count last p = .ok r) : ∃ q, p.Reaches q ∧ next q = .ok r := by
  induction fuel generalizing count last p with
  | zero => cases h
  | succ fuel ih =>
    have hstep {count last marks}
        (h : round (roundsLeast inside bounds round next fuel count last) { p with marks } = .ok r) :
        ∃ q, p.Reaches q ∧ next q = .ok r := by
      obtain ⟨q, hpq, hq⟩ := hround.ok h
      obtain ⟨q', hqq', hq'⟩ := ih hq
      exact ⟨q', hpq.of_marks.trans hqq', hq'⟩
    rw [roundsLeast] at h
    split at h
    case isTrue => exact hstep h
    case isFalse =>
      split at h
      case h_1 hnext => exact ⟨p, .refl p, h ▸ hnext⟩
      case h_2 =>
        split at h
        case isTrue => exact hstep h
        case isFalse => cases h

theorem roundsHeld_congr {round : Place → Attempt} (hround : ∀ {p q}, round p = .ok q → p.Reaches q)
    {fuel fuel' count : Nat} {last : Option Nat} (hfuel : roundsLeft bounds count last p ≤ fuel)
    (hfuel' : roundsLeft bounds count last p ≤ fuel') :
    roundsHeld bounds round fuel count last p = roundsHeld bounds round fuel' count last p := by
  induction fuel generalizing fuel' count last p with
  | zero => simp [roundsLeft] at hfuel
  | succ fuel ih =>
    obtain ⟨fuel', rfl⟩ : ∃ n, fuel' = n + 1 := ⟨fuel' - 1, by simp only [roundsLeft] at hfuel'; omega⟩
    simp only [roundsHeld]
    split
    case isTrue hcount =>
      split
      case h_1 q hq =>
        have hleft := roundsLeft_due last hcount (hround hq)
        exact ih (by omega) (by omega)
      case h_2 => rfl
    case isFalse =>
      split
      case isTrue hallow =>
        split
        case h_1 q hq =>
          have hleft := roundsLeft_more hallow (hround hq)
          exact ih (by omega) (by omega)
        case h_2 => rfl
      case isFalse => rfl

theorem roundsHeld_reaches {round : Place → Attempt} (hround : ∀ {p q}, round p = .ok q → p.Reaches q)
    {fuel count : Nat} {last : Option Nat} (h : roundsHeld bounds round fuel count last p = .ok r) :
    p.Reaches r := by
  induction fuel generalizing count last p with
  | zero => cases h
  | succ fuel ih =>
    rw [roundsHeld] at h
    split at h
    case isTrue =>
      split at h
      case h_1 q hq => exact (hround hq).trans (ih h)
      case h_2 => cases h
    case isFalse =>
      split at h
      case isTrue =>
        split at h
        case h_1 q hq => exact (hround hq).trans (ih h)
        case h_2 =>
          cases h
          exact .refl _
      case isFalse =>
        cases h
        exact .refl _

theorem roundsLeft_le (bounds : Bounds) (p : Place) :
    roundsLeft bounds 0 none p ≤ bounds.least + p.rest.length + 2 := by
  simp only [roundsLeft]
  split <;> omega

theorem rounds_isLocal (inside : Bool) (greed : Greed) (bounds : Bounds) (hround : IsLocal round) :
    IsLocal (rounds inside greed bounds round) := by
  cases greed with
  | most =>
    constructor
    · intro p next next' h
      exact roundsMost_congr hround h (roundsLeft_le bounds p) (roundsLeft_le bounds p)
    · intro p next r h
      exact roundsMost_ok hround h
  | least =>
    constructor
    · intro p next next' h
      exact roundsLeast_congr hround h (roundsLeft_le bounds p) (roundsLeft_le bounds p)
    · intro p next r h
      exact roundsLeast_ok hround h
  | held => exact .settled fun h => roundsHeld_reaches hround.reaches h

theorem look_reaches {negated : Bool} {found : Attempt} {q : Place} (h : look inside negated found p = .ok q) :
    p.Reaches q := by
  cases found <;> cases negated <;> cases h <;> exact (Place.Reaches.refl p).marks _

theorem take_reaches {leaf : Single} {q : Place} (h : leaf.take p = .ok q) : p.Reaches q := by
  rw [Single.take] at h
  split at h
  · cases h
  · split at h
    · cases h
      exact .advance p
    · cases h

theorem takeCopy_reaches {group : Nat} {folding : Folding} {q : Place} (h : takeCopy group folding p = .ok q) :
    p.Reaches q := by
  rw [takeCopy] at h
  split at h
  · cases h
  · split at h
    · cases h
      exact .skip p _
    · cases h

theorem IsLocal.comp {first second : (Place → Attempt) → Place → Attempt} (hfirst : IsLocal first)
    (hsecond : IsLocal second) : IsLocal fun next => first (second next) where
  congr h := hfirst.congr fun _ hq => hsecond.congr fun _ hr => h _ (hq.trans hr)
  ok h := by
    obtain ⟨q, hpq, hq⟩ := hfirst.ok h
    obtain ⟨r, hqr, hr⟩ := hsecond.ok hq
    exact ⟨r, hpq.trans hqr, hr⟩

theorem IsLocal.ite {first second : (Place → Attempt) → Place → Attempt} (c : Place → Bool)
    (hfirst : IsLocal first) (hsecond : IsLocal second) :
    IsLocal fun next p => if c p then first next p else second next p where
  congr {p _ _} h := by
    split
    · exact hfirst.congr h
    · exact hsecond.congr h
  ok {p _ _} h := by
    split at h
    · exact hfirst.ok h
    · exact hsecond.ok h

theorem IsLocal.pure : IsLocal fun next p => next p := ⟨fun h => h _ (.refl _), fun h => ⟨_, .refl _, h⟩⟩

theorem IsLocal.alt {first second : (Place → Attempt) → Place → Attempt} (hfirst : IsLocal first)
    (hsecond : IsLocal second) (inside : Bool) :
    IsLocal fun next p =>
      match first next p with
      | .ok q => .ok q
      | .error later =>
        let marks := p.marks.restored inside later
        match second next { p with marks } with
        | .ok q => .ok q
        | .error later => .error (marks.restored inside later) where
  congr {p next next'} h := by
    dsimp only
    rw [hfirst.congr h]
    split
    · rfl
    · simp only [hsecond.congr fun q hq => h q hq.of_marks]
  ok {p next r} h := by
    dsimp only at h
    split at h
    case h_1 hq => exact hfirst.ok (h ▸ hq)
    case h_2 =>
      split at h
      case h_1 hq =>
        obtain ⟨q, hpq, hnext⟩ := hsecond.ok hq
        exact ⟨q, hpq.of_marks, h ▸ hnext⟩
      case h_2 => cases h

theorem IsLocal.marked {run : (Place → Attempt) → Place → Attempt} (h : IsLocal run) (first last : Nat) :
    IsLocal fun next p => run (fun q => next (q.setMark last)) (p.setMark first) where
  congr hnext := h.congr fun q hq => hnext _ (hq.of_marks.marks _)
  ok hr := by
    obtain ⟨q, hpq, hq⟩ := h.ok hr
    exact ⟨_, hpq.of_marks.marks _, hq⟩

theorem run_isLocal (inside : Bool) : ∀ e : Expr, IsLocal (e.run inside)
  | .empty => .pure
  | .single _ => .settled take_reaches
  | .anchor place => by
    have hfail : IsLocal fun next p => Except.error p.marks >>= next := .settled fun h => nomatch h
    exact .ite place.holds .pure hfail
  | .seq a b => by
    have h := (run_isLocal inside a).comp (run_isLocal inside b)
    exact h
  | .alt a b => .alt (run_isLocal inside a) (run_isLocal inside b) inside
  | .capture group body => .marked (run_isLocal inside body) _ _
  | .repeated greed least most body => by
    cases hleaf : body.leaf? with
    | some leaf =>
      have h := leafRounds_isLocal inside leaf greed least most
      simpa only [Expr.run, hleaf] using h
    | none =>
      have h := rounds_isLocal inside greed ⟨least, most⟩ (run_isLocal (inside || greed ≠ .held) body)
      simpa only [Expr.run, hleaf] using h
  | .ahead _ _ => .settled look_reaches
  | .behind _ _ => .settled look_reaches
  | .backref _ _ _ _ => .settled takeCopy_reaches
  | .ifGroup _ yes none => .ite _ (run_isLocal inside yes) .pure
  | .ifGroup _ yes (some no) => .ite _ (run_isLocal inside yes) (run_isLocal inside no)
  | .atomic body => .settled (run_isLocal inside body).reaches
  | .scoped body => run_isLocal inside body

theorem rounds_most_bound (e : Expr) {outer : Bool} {fuel : Nat} (h : bounds.least + p.rest.length + 2 ≤ fuel) :
    roundsMost bounds (e.run inside) next fuel 0 none p = rounds outer .most bounds (e.run inside) next p :=
  have hleft := roundsLeft_le bounds p
  roundsMost_congr (run_isLocal inside e) (fun _ _ => rfl) (Nat.le_trans hleft h) hleft

theorem rounds_least_bound (e : Expr) {outer : Bool} {fuel : Nat} (h : bounds.least + p.rest.length + 2 ≤ fuel) :
    roundsLeast outer bounds (e.run inside) next fuel 0 none p =
      rounds outer .least bounds (e.run inside) next p :=
  have hleft := roundsLeft_le bounds p
  roundsLeast_congr (run_isLocal inside e) (fun _ _ => rfl) (Nat.le_trans hleft h) hleft

theorem rounds_held_bound (e : Expr) {outer : Bool} {fuel : Nat} (h : bounds.least + p.rest.length + 2 ≤ fuel) :
    (roundsHeld bounds (e.run inside .ok) fuel 0 none p >>= next) =
      rounds outer .held bounds (e.run inside) next p := by
  have hleft := roundsLeft_le bounds p
  rw [rounds, roundsHeld_congr (run_isLocal inside e).reaches (Nat.le_trans hleft h) hleft]

end Pattern

/-- What an image rule asks of a link: to be a given text, or to have a place where a pattern matches. -/
inductive Matcher.Matches : Matcher → Text → Prop
  | exact (link : Text) : Matches (.exact link) link
  | pattern {pattern : Pattern} {front rest : Text} (h : pattern.MatchesAt front rest) :
    Matches (.pattern pattern) (front ++ rest)

theorem Matcher.holds_eq_true_iff {matcher : Matcher} {link : Text} :
    matcher.holds link = true ↔ matcher.Matches link := by
  cases matcher with
  | exact text =>
    constructor
    · intro h
      obtain rfl : link = text := of_decide_eq_true h
      exact .exact link
    · rintro ⟨⟩
      exact decide_eq_true rfl
  | pattern pattern =>
    rw [Matcher.holds, Pattern.search_eq_true_iff]
    constructor
    · rintro ⟨front, rest, rfl, h⟩
      exact .pattern h
    · intro h
      cases h with
      | pattern h => exact ⟨_, _, rfl, h⟩

end BraceLink
