import Mathlib.Data.Prod.Lex
import Mathlib.Data.List.Sort
import TileScript.Engine.Command

/-!
The order in which monitors are listed does not matter. Sorting leaves monitors with one corner as they
came, so it is not the sorted list that is fixed but its corners, and a rule looks at nothing else.
-/

namespace TileScript

theorem Double.rank_injective : Function.Injective Double.rank := by
  intro a b same
  have bounded := a.bits.toNat_lt
  have bounded' := b.bits.toNat_lt
  obtain ⟨a⟩ := a
  obtain ⟨b⟩ := b
  have bits : a.toNat = b.toNat := by
    simp only [Double.rank, Double.isNegative, Double.magnitude, Double.signBit]
      at same bounded bounded'
    grind
  exact congrArg Double.mk (UInt64.toNat_inj.mp bits)

namespace Monitor

/-- The top left corner, bit for bit. -/
def corner (monitor : Monitor) : Double × Double := (monitor.rect.x, monitor.rect.y)

/-- Where a monitor stands in the order. -/
def place (monitor : Monitor) : Int ×ₗ Int := toLex (monitor.rect.x.rank, monitor.rect.y.rank)

theorem notAfter_iff (a b : Monitor) : a.notAfter b = true ↔ a.place ≤ b.place := by
  simp [notAfter, place, Prod.Lex.toLex_le_toLex]

theorem place_eq_iff (a b : Monitor) : a.place = b.place ↔ a.corner = b.corner := by
  simp only [place, corner, toLex_inj, Prod.mk.injEq, Double.rank_injective.eq_iff]

/-- Monitors none of which stands before one listed earlier. -/
abbrev Ordered (monitors : List Monitor) : Prop := monitors.Pairwise fun a b => a.place ≤ b.place

theorem sort_ordered (monitors : List Monitor) : Ordered (sort monitors) := by
  have transitive : ∀ a b c : Monitor, a.notAfter b = true → b.notAfter c = true → a.notAfter c = true := by
    simp only [notAfter_iff]
    intro a b c first second
    exact first.trans second
  have total : ∀ a b : Monitor, (a.notAfter b || b.notAfter a) = true := by
    simp only [Bool.or_eq_true, notAfter_iff]
    intro a b
    exact le_total a.place b.place
  exact (List.pairwise_mergeSort transitive total monitors).imp fun {a b} => (notAfter_iff a b).mp

theorem sort_perm_sort {monitors other : List Monitor} (same : monitors.Perm other) :
    (sort monitors).Perm (sort other) :=
  (List.mergeSort_perm monitors notAfter).trans (same.trans (List.mergeSort_perm other notAfter).symm)

/-- What is ordered in two ways has the same corners in both. -/
theorem corners_of_ordered {as bs : List Monitor} (first : Ordered as) (second : Ordered bs)
    (same : as.Perm bs) : as.map corner = bs.map corner := by
  have places : as.map place = bs.map place :=
    (same.map place).eq_of_pairwise (fun _ _ _ _ => le_antisymm) (List.pairwise_map.mpr first)
      (List.pairwise_map.mpr second)
  apply List.ext_getElem?
  intro index
  have here := congrArg (·[index]?) places
  simp only [List.getElem?_map] at here ⊢
  cases found : as[index]? <;> cases found' : bs[index]? <;>
    simp_all [place_eq_iff]

/-- Monitors at different corners can be ordered in one way only. -/
theorem eq_of_ordered {as bs : List Monitor} (first : Ordered as) (second : Ordered bs)
    (same : as.Perm bs) (apart : (as.map corner).Nodup) : as = bs := by
  refine same.eq_of_pairwise (fun a b inside inside' before after => ?_) first second
  have corners : a.corner = b.corner := (place_eq_iff a b).mp (le_antisymm before after)
  exact List.inj_on_of_nodup_map apart inside (same.mem_iff.mpr inside') corners

end Monitor

namespace MonitorRef

open Monitor

private theorem find_corner {as bs : List Monitor} (first : Ordered as) (second : Ordered bs)
    (same : as.Perm bs) (test : Monitor → Bool) :
    (as.find? test).map corner = (bs.find? test).map corner := by
  have corners := corners_of_ordered (first.filter test) (second.filter test) (same.filter test)
  simpa only [List.head?_map, List.head?_filter] using congrArg List.head? corners

private theorem secondary_corner {as bs : List Monitor} (first : Ordered as) (second : Ordered bs)
    (same : as.Perm bs) :
    (secondary.resolve as).map corner = (secondary.resolve bs).map corner := by
  have corners := corners_of_ordered first second same
  match as, bs with
  | [], [] | [_], [_] | _ :: _ :: _ :: _, _ :: _ :: _ :: _ => rfl
  | [a, b], [c, d] =>
    simp only [List.map_cons, List.map_nil, List.cons.injEq, and_true] at corners
    obtain ⟨left, right⟩ := corners
    -- either both are listed alike, or all four stand at one corner
    obtain rfl | rfl : a = c ∨ a = d := by
      have inside := same.mem_iff.mp (List.mem_cons_self (a := a))
      simpa using inside
    · obtain rfl : b = d := by simpa using same
      rfl
    · simp only [resolve, Option.map_some, Option.some.injEq]
      split <;> split <;> simp_all
  | [], _ :: _ | _ :: _, [] | [_], _ :: _ :: _ | _ :: _ :: _, [_] | [_, _], _ :: _ :: _ :: _
  | _ :: _ :: _ :: _, [_, _] => simp at corners

/-- A reference means nothing in any order of the monitors, or the same corner in all. -/
theorem resolve_corner {as bs : List Monitor} (first : Ordered as) (second : Ordered bs)
    (same : as.Perm bs) (reference : MonitorRef) :
    (reference.resolve as).map corner = (reference.resolve bs).map corner := by
  match reference with
  | .main | .pattern _ => exact find_corner first second same _
  | .secondary => exact secondary_corner first second same
  | .sequence 0 => rfl
  | .sequence (number + 1) =>
    have corners := corners_of_ordered first second same
    simpa only [resolve, List.getElem?_map] using congrArg (·[number]?) corners

end MonitorRef

namespace Dynamic

open Bridge

variable {α : Type}

theorem perMonitorValue_perm {monitors other : List Monitor} (same : monitors.Perm other)
    (rules : List (MonitorRule α)) (fallback : α) (asked : Monitor) :
    perMonitorValue rules fallback asked monitors = perMonitorValue rules fallback asked other := by
  have applies : ∀ rule : MonitorRule α,
      MonitorRule.applies rule (Monitor.sort monitors) asked =
        MonitorRule.applies rule (Monitor.sort other) asked := by
    intro rule
    have corners := MonitorRef.resolve_corner (Monitor.sort_ordered monitors) (Monitor.sort_ordered other)
      (Monitor.sort_perm_sort same) rule.monitor
    have compared : ∀ found : Option Monitor, found.any (·.sameCorner asked) =
        (found.map Monitor.corner).any fun corner =>
          corner.1.equals asked.rect.x && corner.2.equals asked.rect.y := by
      intro found
      cases found <;> rfl
    simp only [MonitorRule.applies, compared, corners]
  simp only [perMonitorValue, applies]

/-- However the monitors are listed: rules give one and the same value, a reference means nothing or a
monitor at one and the same corner, and the same monitor if no two share a corner. -/
theorem listing_of_monitors_is_immaterial [Castable α] {monitors other : List Monitor}
    (same : monitors.Perm other) :
    (∀ (rules : List (MonitorRule α)) (fallback : α) (asked : Monitor), ∃ value,
      (perMonitor rules fallback).evaluate asked monitors = pure value ∧
        (perMonitor rules fallback).evaluate asked other = pure value) ∧
    (∀ reference : MonitorRef,
      (reference.resolve (Monitor.sort monitors)).map Monitor.corner =
        (reference.resolve (Monitor.sort other)).map Monitor.corner) ∧
    ((monitors.map Monitor.corner).Nodup → ∀ reference : MonitorRef,
      reference.resolve (Monitor.sort monitors) = reference.resolve (Monitor.sort other)) := by
  have sorted := Monitor.sort_ordered monitors
  have sorted' := Monitor.sort_ordered other
  have permuted := Monitor.sort_perm_sort same
  refine ⟨fun rules fallback asked => ?_, MonitorRef.resolve_corner sorted sorted' permuted, fun apart reference => ?_⟩
  · exact ⟨_, rfl, congrArg pure (perMonitorValue_perm same rules fallback asked).symm⟩
  · have corners : ((Monitor.sort monitors).map Monitor.corner).Nodup :=
      (((List.mergeSort_perm monitors Monitor.notAfter).map Monitor.corner).nodup_iff).mpr apart
    rw [Monitor.eq_of_ordered sorted sorted' permuted corners]

private def display (name : String) (x : Double) : Monitor :=
  ⟨0, name, ⟨x, .zero, .zero, .zero⟩, "1", true⟩

/-- Two main monitors that mirror each other, and two that only a sign of zero tells apart. -/
theorem listing_of_main_monitors :
    (∃ value, (perMonitor [⟨.main, 4⟩] 8).evaluate (display "Desk" .zero)
          [display "Desk" .zero, display "Wall" .zero] = pure value ∧
        (perMonitor [⟨.main, (4 : Int)⟩] 8).evaluate (display "Desk" .zero)
          [display "Wall" .zero, display "Desk" .zero] = pure value) ∧
      MonitorRef.main.resolve (Monitor.sort [display "Desk" .zero, display "Wall" Double.zero.negate]) =
        MonitorRef.main.resolve (Monitor.sort [display "Wall" Double.zero.negate, display "Desk" .zero]) := by
  constructor
  · exact (listing_of_monitors_is_immaterial (List.Perm.swap _ _ [])).1 _ _ _
  · exact (listing_of_monitors_is_immaterial (α := Int) (List.Perm.swap _ _ [])).2.2 (by decide) _

end Dynamic
end TileScript
