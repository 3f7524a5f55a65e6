import PageBuilder.Proofs.Document.Lifetime

/-!
# Moving components

A move finds two components next to each other, one of which has the id, and exchanges them
(`exists_pair_of_move`).  It fails at the edge of the list, and where the id is not in use
(`move_fst_iff`).

As no id is there twice, the way back needs no position: the same id, moved the other way, finds the
same two components (`move_of_pair`).
-/

namespace PageBuilder

/-! ## Directions -/

namespace Direction

/-- The direction of the move back. -/
def opposite : Direction → Direction
  | .up => .down
  | .down => .up

/-- Whether there is no neighbour in this direction of a position in a list. -/
def AtEdge (direction : Direction) (index length : Nat) : Prop :=
  match direction with
  | .up => index = 0
  | .down => index + 1 = length

/-- Which of two components, one above the other, is moved when they are exchanged. -/
def mover (direction : Direction) (above below : Component) : Component :=
  match direction with
  | .up => below
  | .down => above

/-- Once two components are exchanged, the way back moves the same one. -/
theorem mover_opposite (direction : Direction) (a b : Component) :
    direction.opposite.mover b a = direction.mover a b := by
  cases direction <;> rfl

end Direction

namespace Document

variable {d d' : Document} {id : Nat} {direction : Direction}

/-! ## Neighbours -/

theorem swapAt_append {α : Type} (front : List α) (a b : α) (back : List α) :
    swapAt front.length (front ++ a :: b :: back) = front ++ b :: a :: back := by
  induction front with
  | nil => rfl
  | cons x front ih => rw [List.cons_append, List.length_cons, swapAt, ih, List.cons_append]

/-- Two items that stand next to each other, and what stands around them. -/
theorem exists_pair {α : Type} {k : Nat} {xs : List α} (h : k + 1 < xs.length) :
    ∃ front a b back, xs = front ++ a :: b :: back ∧ front.length = k := by
  have hdrop : xs.drop k = xs[k] :: xs[k + 1] :: xs.drop (k + 2) := by
    rw [List.drop_eq_getElem_cons (by omega), List.drop_eq_getElem_cons h]
  refine ⟨xs.take k, xs[k], xs[k + 1], xs.drop (k + 2), ?_, ?_⟩
  · rw [← hdrop, List.take_append_drop]
  · rw [List.length_take_of_le (by omega)]

/-- The document with two neighbours exchanged. -/
theorem move_eq_true_iff :
    d.move id direction = (true, d') ↔
      ∃ k, d.exchange? id direction = some k ∧
        d' = { d with components := swapAt k d.components } := by
  rw [move, ← exchange?]
  cases d.exchange? id direction with
  | none => simp
  | some k => simp [eq_comm]

theorem exchange?_of_position? {i : Nat} (h : position? id d.components = some i) :
    d.exchange? id direction = swapPosition? direction i d.components.length := by
  rw [exchange?, h, Option.bind_some]

theorem isSome_swapPosition?_iff {i length : Nat} (h : i < length) :
    (swapPosition? direction i length).isSome ↔ ¬ direction.AtEdge i length := by
  cases direction with
  | up => simp [swapPosition?, Direction.AtEdge, Nat.pos_iff_ne_zero]
  | down =>
      simp only [swapPosition?, Direction.AtEdge, Option.isSome_ite]
      omega

/-- A move succeeds exactly where the id is in use and its component has a neighbour. -/
theorem move_fst_iff (hunique : d.ids.Nodup) :
    (d.move id direction).1 = true ↔
      ∃ i c, d.components[i]? = some c ∧ c.id = id ∧
        ¬ direction.AtEdge i d.components.length := by
  have hfst : (d.move id direction).1 = true ↔ (d.exchange? id direction).isSome := by
    rw [move, ← exchange?]
    cases d.exchange? id direction <;> simp
  rw [hfst]
  constructor
  · intro h
    obtain ⟨k, hk⟩ := Option.isSome_iff_exists.mp h
    obtain ⟨i, hi, _⟩ := Option.bind_eq_some_iff.mp hk
    obtain ⟨c, hc, hid⟩ := getElem?_of_position? hi
    rw [exchange?_of_position? hi, isSome_swapPosition?_iff (lt_of_position? hi)] at h
    exact ⟨i, c, hc, hid, h⟩
  · rintro ⟨i, c, hc, rfl, hedge⟩
    have hi := position?_of_getElem? hunique hc
    rwa [exchange?_of_position? hi, isSome_swapPosition?_iff (lt_of_position? hi)]

/-- Of the pair that a move finds, it is the mover that has the id. -/
theorem id_mover_of_exchange? {front back : List Component} {a b : Component}
    (hcomponents : d.components = front ++ a :: b :: back)
    (h : d.exchange? id direction = some front.length) : (direction.mover a b).id = id := by
  obtain ⟨i, hi, hk⟩ := Option.bind_eq_some_iff.mp h
  obtain ⟨c, hc, hid⟩ := getElem?_of_position? hi
  rw [hcomponents] at hc
  cases direction with
  | up =>
      rw [swapPosition?, Option.ite_none_right_eq_some, Option.some.injEq] at hk
      obtain rfl : i = front.length + 1 := by omega
      obtain rfl : b = c := by simpa using hc
      exact hid
  | down =>
      rw [swapPosition?, Option.ite_none_right_eq_some, Option.some.injEq] at hk
      obtain rfl : i = front.length := hk.2
      obtain rfl : a = c := by simpa using hc
      exact hid

/-- A move that succeeds exchanges the component with the id and its neighbour. -/
theorem exists_pair_of_move (h : d.move id direction = (true, d')) :
    ∃ front a b back, d.components = front ++ a :: b :: back ∧ (direction.mover a b).id = id ∧
      d' = { d with components := front ++ b :: a :: back } := by
  obtain ⟨k, hk, rfl⟩ := move_eq_true_iff.mp h
  obtain ⟨front, a, b, back, hcomponents, rfl⟩ := exists_pair (lt_of_exchange? hk)
  exact ⟨front, a, b, back, hcomponents, id_mover_of_exchange? hcomponents hk,
    by rw [hcomponents, swapAt_append]⟩

/-- Of two neighbours either can be moved to the place of the other. -/
theorem move_of_pair (hunique : d.ids.Nodup) {front back : List Component} {a b : Component}
    (hcomponents : d.components = front ++ a :: b :: back) (direction : Direction) :
    d.move (direction.mover a b).id direction =
      (true, { d with components := front ++ b :: a :: back }) := by
  have hswap : swapAt front.length d.components = front ++ b :: a :: back := by
    rw [hcomponents, swapAt_append]
  have hlength : front.length + 1 < d.components.length := by simp [hcomponents]
  refine move_eq_true_iff.mpr ⟨front.length, ?_, by rw [hswap]⟩
  cases direction with
  | up =>
      have hpos : position? b.id d.components = some (front.length + 1) :=
        position?_of_getElem? hunique (by simp [hcomponents])
      rw [Direction.mover, exchange?_of_position? hpos]
      rfl
  | down =>
      have hpos : position? a.id d.components = some front.length :=
        position?_of_getElem? hunique (by simp [hcomponents])
      rw [Direction.mover, exchange?_of_position? hpos, swapPosition?, if_pos hlength]

/-- The move back restores the document. -/
theorem move_opposite (hunique : d.ids.Nodup) (h : d.move id direction = (true, d')) :
    d'.move id direction.opposite = (true, d) := by
  have hunique' : d'.ids.Nodup := by
    have hperm := ids_move_perm d id direction
    rw [h] at hperm
    exact hperm.nodup_iff.mpr hunique
  obtain ⟨front, a, b, back, hcomponents, rfl, rfl⟩ := exists_pair_of_move h
  rw [← direction.mover_opposite, move_of_pair hunique' rfl, ← hcomponents]

/-! ## Many moves -/

/-- The document after some moves, each of an id in a direction. -/
def moved (d : Document) (moves : List (Nat × Direction)) : Document :=
  d.after (moves.map fun (id, direction) => .move id direction)

/-- A move orders the components anew, and changes nothing else. -/
theorem exists_perm_move (d : Document) (id : Nat) (direction : Direction) :
    ∃ components, components.Perm d.components ∧
      (d.move id direction).2 = { d with components } := by
  obtain hm | ⟨k, hm⟩ := d.move_cases id direction
  · exact ⟨d.components, .refl _, by rw [hm]⟩
  · exact ⟨_, swapAt_perm k d.components, by rw [hm]⟩

theorem exists_perm_moved (moves : List (Nat × Direction)) : ∀ d : Document,
    ∃ components, components.Perm d.components ∧ d.moved moves = { d with components } := by
  induction moves with
  | nil => exact fun d => ⟨d.components, .refl _, rfl⟩
  | cons m rest ih =>
      intro d
      obtain ⟨first, hfirst, hmove⟩ := exists_perm_move d m.1 m.2
      obtain ⟨components, hperm, hmoved⟩ := ih { d with components := first }
      refine ⟨components, hperm.trans hfirst, ?_⟩
      show (d.move m.1 m.2).2.moved rest = _
      rw [hmove, hmoved]

/-- Where ids are distinct, a move succeeds exactly if the id is that of a component which is not at
the edge it is moved to.  It exchanges that component and its neighbour: all others keep their
order, and every component, the selection, the limit and the next id stay as they are.  The same id
moved the other way restores the document.  Any number of moves orders the components anew and
changes nothing else. -/
theorem moves_exact (hunique : d.ids.Nodup) :
    (∀ id direction, (d.move id direction).1 = true ↔
      ∃ i c, d.components[i]? = some c ∧ c.id = id ∧
        ¬ direction.AtEdge i d.components.length) ∧
    (∀ id direction d', d.move id direction = (true, d') →
      (∃ front a b back, d.components = front ++ a :: b :: back ∧
        (direction.mover a b).id = id ∧
        d' = { d with components := front ++ b :: a :: back }) ∧
      d'.components.filter (·.id ≠ id) = d.components.filter (·.id ≠ id) ∧
      d'.move id direction.opposite = (true, d)) ∧
    ∀ moves : List (Nat × Direction),
      ∃ components, components.Perm d.components ∧ d.moved moves = { d with components } := by
  refine ⟨fun id direction => move_fst_iff hunique, fun id direction d' h => ?_,
    fun moves => exists_perm_moved moves d⟩
  have hback := move_opposite hunique h
  obtain ⟨front, a, b, back, hcomponents, rfl, rfl⟩ := exists_pair_of_move h
  refine ⟨⟨front, a, b, back, hcomponents, rfl, rfl⟩, ?_, hback⟩
  rw [hcomponents]
  cases direction <;> simp [Direction.mover, List.filter_cons]

/-- The middle one of three components, two of which were stored with one id.  It is moved up and
back; the first one cannot be moved up. -/
theorem moves_exact_middle :
    let d := ofComponents [⟨7, "hero", []⟩, ⟨7, "text", []⟩, ⟨2, "cta", []⟩] 5
    d.ids.Nodup ∧ d.ids = [7, 8, 2] ∧ (d.move 8 .up).1 = true ∧ (d.move 8 .up).2.ids = [8, 7, 2] ∧
    (d.move 8 .up).2.move 8 .down = (true, d) ∧ (d.move 7 .up).1 ≠ true ∧
    ∃ components, components.Perm d.components ∧
      d.moved [(8, .up), (2, .up), (9, .down), (8, .down)] = { d with components } := by
  intro d
  have hunique : d.ids.Nodup := (ofComponents_distinct _ _).unique
  obtain ⟨hmoves, hexchange, hperm⟩ := moves_exact hunique
  have hup : (d.move 8 .up).1 = true :=
    (hmoves 8 .up).mpr ⟨1, ⟨8, "text", []⟩, rfl, rfl, Nat.one_ne_zero⟩
  have hback := (hexchange 8 .up _ (Prod.ext hup rfl)).2.2
  refine ⟨hunique, by decide +kernel, hup, by decide +kernel, hback, fun hmoved => ?_, hperm _⟩
  obtain ⟨i, c, hc, hid, hedge⟩ := (hmoves 7 .up).mp hmoved
  have hfirst : position? c.id d.components = some 0 := hid ▸ rfl
  cases (position?_of_getElem? hunique hc).symm.trans hfirst
  exact hedge rfl

end Document

end PageBuilder
