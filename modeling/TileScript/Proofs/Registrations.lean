import TileScript.Bridge.Registry

/-! Registrations keep their values: a slot is given to another one only after it was released. -/

namespace TileScript.Bridge.Registry
open Script

/-- No two registrations share a slot, and no free slot is in use. -/
structure Valid (registry : Registry) : Prop where
  fresh : ∀ entry ∈ registry.registrations, entry.id < registry.next
  inside : ∀ entry ∈ registry.registrations, entry.slot < registry.slots.size
  vacant : ∀ slot ∈ registry.free, slot < registry.slots.size
  apart : (registry.registrations.map (·.slot) ++ registry.free).Nodup

theorem empty_valid : empty.Valid := by
  constructor <;> simp [empty]

variable {registry : Registry} {id : Nat} {value : Raw}

theorem find?_mem {entry : Registration} (found : registry.find? id = some entry) :
    entry ∈ registry.registrations ∧ entry.id = id := by
  refine ⟨List.mem_of_find?_eq_some found, ?_⟩
  simpa using List.find?_some found

theorem value?_eq_none (absent : registry.find? id = none) : registry.value? id = none := by
  rw [value?, absent, Option.bind_none]

theorem value?_eq {entry : Registration} (found : registry.find? id = some entry) :
    registry.value? id = registry.slots[entry.slot]? := by
  rw [value?, found, Option.bind_some]

/-! ### Registering -/

theorem Valid.register (valid : registry.Valid) (value : Raw) : (registry.register value).2.Valid := by
  obtain ⟨slots, free, registrations, next⟩ := registry
  obtain ⟨fresh, inside, vacant, apart⟩ := valid
  dsimp only at fresh inside vacant apart
  cases free with
  | nil =>
    constructor
    · intro entry member
      rcases List.mem_cons.mp member with same | old
      · exact same ▸ Nat.lt_succ_self next
      · exact Nat.lt_succ_of_lt (fresh entry old)
    · intro entry member
      change entry.slot < (slots.push value).size
      rw [Array.size_push]
      rcases List.mem_cons.mp member with same | old
      · exact same ▸ Nat.lt_succ_self slots.size
      · exact Nat.lt_succ_of_lt (inside entry old)
    · intro slot member
      cases member
    · rw [List.append_nil] at apart
      change (slots.size :: registrations.map Registration.slot ++ []).Nodup
      rw [List.append_nil]
      refine List.nodup_cons.mpr ⟨?_, apart⟩
      intro member
      obtain ⟨entry, old, same⟩ := List.mem_map.mp member
      exact Nat.lt_irrefl _ (same ▸ inside entry old)
  | cons slot free =>
    constructor
    · intro entry member
      rcases List.mem_cons.mp member with same | old
      · exact same ▸ Nat.lt_succ_self next
      · exact Nat.lt_succ_of_lt (fresh entry old)
    · intro entry member
      change entry.slot < (slots.setIfInBounds slot value).size
      rw [Array.size_setIfInBounds]
      rcases List.mem_cons.mp member with same | old
      · exact same ▸ vacant slot (List.mem_cons_self ..)
      · exact inside entry old
    · intro other member
      change other < (slots.setIfInBounds slot value).size
      rw [Array.size_setIfInBounds]
      exact vacant other (List.mem_cons_of_mem _ member)
    · exact List.perm_middle.nodup_iff.mp apart

theorem Valid.value?_register_self (valid : registry.Valid) :
    (registry.register value).2.value? registry.next = some value := by
  obtain ⟨slots, free, registrations, next⟩ := registry
  cases free with
  | nil => simp [Registry.register, value?, find?]
  | cons slot free =>
    have inside := valid.vacant slot (List.mem_cons_self ..)
    dsimp only at inside
    simp [Registry.register, value?, find?, inside]

theorem Valid.value?_register_of_ne (valid : registry.Valid) (other : id ≠ registry.next) :
    (registry.register value).2.value? id = registry.value? id := by
  have same : (registry.register value).2.find? id = registry.find? id := by
    obtain ⟨slots, free, registrations, next⟩ := registry
    have different : (next == id) = false := beq_eq_false_iff_ne.mpr (Ne.symm other)
    cases free <;> simp [Registry.register, find?, different]
  cases found : registry.find? id with
  | none => rw [value?_eq_none (same.trans found), value?_eq_none found]
  | some entry =>
    rw [value?_eq (same.trans found), value?_eq found]
    obtain ⟨member, -⟩ := find?_mem found
    obtain ⟨slots, free, registrations, next⟩ := registry
    have inside := valid.inside entry member
    dsimp only at inside member
    cases free with
    | nil => exact Array.getElem?_push_lt inside ▸ (Array.getElem?_eq_getElem inside).symm
    | cons slot free =>
      have apart : slot ≠ entry.slot := by
        intro same
        have nodup := List.nodup_append.mp valid.apart
        exact nodup.2.2 _ (List.mem_map_of_mem member) _ (List.mem_cons_self ..) same.symm
      exact Array.getElem?_setIfInBounds_ne apart

theorem Valid.value?_register (valid : registry.Valid) {kept : Raw} (known : registry.value? id = some kept) :
    (registry.register value).2.value? id = some kept := by
  rw [valid.value?_register_of_ne, known]
  intro same
  cases found : registry.find? id with
  | none => cases (value?_eq_none found).symm.trans known
  | some entry =>
    obtain ⟨member, rfl⟩ := find?_mem found
    exact Nat.lt_irrefl _ (same ▸ valid.fresh entry member)

/-! ### Releasing -/

theorem release_absent (absent : registry.find? id = none) : registry.release id = registry := by
  obtain ⟨slots, free, registrations, next⟩ := registry
  change registrations.find? (·.id == id) = none at absent
  simp only [Registry.release, absent]

/-- A release takes one entry out and gives its slot to the free ones. -/
theorem release_found {entry : Registration} (found : registry.find? id = some entry) :
    ∃ earlier later, registry.registrations = earlier ++ entry :: later ∧ entry.id = id ∧
      registry.release id = ⟨registry.slots.setIfInBounds entry.slot .nil, entry.slot :: registry.free,
        earlier ++ later, registry.next⟩ := by
  obtain ⟨slots, free, registrations, next⟩ := registry
  change registrations.find? (·.id == id) = some entry at found
  obtain ⟨test, earlier, later, rfl, others⟩ := List.find?_eq_some_iff_append.mp found
  have erased : (earlier ++ entry :: later).eraseP (·.id == id) = earlier ++ later := by
    rw [List.eraseP_append_right _ (by simpa using others), List.eraseP_cons, test]
    rfl
  refine ⟨earlier, later, rfl, by simpa using test, ?_⟩
  simp only [Registry.release, found, erased]

private theorem released_apart {earlier later : List Registration} {entry : Registration} {free : List Nat}
    (apart : ((earlier ++ entry :: later).map (·.slot) ++ free).Nodup) :
    ((earlier ++ later).map (·.slot) ++ entry.slot :: free).Nodup := by
  simp only [List.map_append, List.map_cons, List.append_assoc, List.cons_append] at apart ⊢
  have moved := List.perm_middle.nodup_iff.mp apart
  rw [← List.append_assoc] at moved ⊢
  exact List.perm_middle.nodup_iff.mpr moved

theorem Valid.release (valid : registry.Valid) (id : Nat) : (registry.release id).Valid := by
  cases found : registry.find? id with
  | none => exact (release_absent found).symm ▸ valid
  | some entry =>
    obtain ⟨earlier, later, registrations, -, released⟩ := release_found found
    have remains : ∀ other ∈ earlier ++ later, other ∈ registry.registrations := by
      intro other member
      rw [registrations]
      simp only [List.mem_append, List.mem_cons] at member ⊢
      exact member.imp_right .inr
    rw [released]
    constructor
    · exact fun other member => valid.fresh other (remains other member)
    · intro other member
      rw [Array.size_setIfInBounds]
      exact valid.inside other (remains other member)
    · intro slot member
      rw [Array.size_setIfInBounds]
      rcases List.mem_cons.mp member with rfl | old
      · exact valid.inside entry (find?_mem found).1
      · exact valid.vacant slot old
    · exact released_apart (registrations ▸ valid.apart)

theorem Valid.value?_release_of_ne (valid : registry.Valid) {released : Nat} (other : id ≠ released) :
    (registry.release released).value? id = registry.value? id := by
  cases gone : registry.find? released with
  | none => rw [release_absent gone]
  | some entry =>
    obtain ⟨earlier, later, registrations, rfl, left⟩ := release_found gone
    have same : (registry.release entry.id).find? id = registry.find? id := by
      have different : (entry.id == id) = false := beq_eq_false_iff_ne.mpr (Ne.symm other)
      rw [left, find?, find?, registrations]
      simp [List.find?_append, different]
    cases found : registry.find? id with
    | none => rw [value?_eq_none (same.trans found), value?_eq_none found]
    | some kept =>
      rw [value?_eq (same.trans found), value?_eq found, left]
      refine Array.getElem?_setIfInBounds_ne ?_
      have apart := released_apart (registrations ▸ valid.apart)
      have member : kept ∈ earlier ++ later := by
        have found' := same.trans found
        rw [left] at found'
        exact (find?_mem found').1
      exact fun shared => (List.nodup_append.mp apart).2.2 _ (List.mem_map_of_mem member) _ (List.mem_cons_self ..)
        shared.symm

private theorem release_all (valid : registry.Valid) (entries : List Registration) :
    (entries.foldl (fun registry entry => registry.release entry.id) registry).Valid ∧
    ∀ id, (∀ entry ∈ entries, id ≠ entry.id) →
      (entries.foldl (fun registry entry => registry.release entry.id) registry).value? id = registry.value? id := by
  induction entries generalizing registry with
  | nil => exact ⟨valid, fun _ _ => rfl⟩
  | cons entry rest ih =>
    obtain ⟨later, kept⟩ := ih (valid.release entry.id)
    refine ⟨later, fun id others => ?_⟩
    exact (kept id fun other member => others other (List.mem_cons_of_mem _ member)).trans
      (valid.value?_release_of_ne (others entry (List.mem_cons_self ..)))

theorem Valid.retain (valid : registry.Valid) (isHeld : Nat → Bool) : (registry.retain isHeld).Valid :=
  (release_all valid _).1

/-- What is held keeps its value when everything else is released. -/
theorem Valid.value?_retain (valid : registry.Valid) {isHeld : Nat → Bool} (held : isHeld id = true) :
    (registry.retain isHeld).value? id = registry.value? id := by
  refine (release_all valid _).2 id fun entry member same => ?_
  subst same
  simp [held] at member

/-! ### Histories -/

/-- No two registrations have one number. -/
structure Orderly (registry : Registry) : Prop where
  valid : registry.Valid
  distinct : (registry.registrations.map (·.id)).Nodup

theorem empty_orderly : empty.Orderly := ⟨empty_valid, List.nodup_nil⟩

theorem Orderly.register (orderly : registry.Orderly) (value : Raw) : (registry.register value).2.Orderly := by
  refine ⟨orderly.valid.register value, ?_⟩
  have fresh : registry.next ∉ registry.registrations.map (·.id) := by
    intro listed
    obtain ⟨entry, member, same⟩ := List.mem_map.mp listed
    exact Nat.lt_irrefl _ (same ▸ orderly.valid.fresh entry member)
  have distinct := List.nodup_cons.mpr ⟨fresh, orderly.distinct⟩
  obtain ⟨slots, free, registrations, next⟩ := registry
  cases free <;> exact distinct

/-- A number that was released means nothing any more. -/
theorem Orderly.release (orderly : registry.Orderly) (id : Nat) :
    (registry.release id).Orderly ∧ (registry.release id).value? id = none := by
  have valid := orderly.valid.release id
  cases found : registry.find? id with
  | none =>
    rw [release_absent found]
    exact ⟨orderly, value?_eq_none found⟩
  | some entry =>
    obtain ⟨earlier, later, registrations, rfl, released⟩ := release_found found
    have distinct := orderly.distinct
    rw [registrations, List.map_append, List.map_cons, List.perm_middle.nodup_iff, List.nodup_cons,
      ← List.map_append] at distinct
    refine ⟨⟨valid, by rw [released]; exact distinct.2⟩, value?_eq_none ?_⟩
    rw [released, find?, List.find?_eq_none]
    exact fun other member same => distinct.1 (beq_iff_eq.mp same ▸ List.mem_map_of_mem member)

theorem release_next (id : Nat) : (registry.release id).next = registry.next := by
  cases found : registry.find? id with
  | none => rw [release_absent found]
  | some entry =>
    obtain ⟨_, _, _, _, released⟩ := release_found found
    rw [released]

private theorem release_each (orderly : registry.Orderly) (entries : List Registration) :
    (entries.foldl (fun registry entry => registry.release entry.id) registry).Orderly ∧
    (entries.foldl (fun registry entry => registry.release entry.id) registry).next = registry.next ∧
    ∀ id, ((∃ entry ∈ entries, entry.id = id) ∨ registry.value? id = none) →
      (entries.foldl (fun registry entry => registry.release entry.id) registry).value? id = none := by
  induction entries generalizing registry with
  | nil => exact ⟨orderly, rfl, fun id gone => gone.resolve_left (by simp)⟩
  | cons entry rest ih =>
    obtain ⟨left, gone⟩ := orderly.release entry.id
    obtain ⟨last, next, released⟩ := ih left
    refine ⟨last, next.trans (release_next entry.id), fun id listed => released id ?_⟩
    by_cases here : id = entry.id
    · exact .inr (here ▸ gone)
    · rcases listed with ⟨other, member, rfl⟩ | absent
      · rcases List.mem_cons.mp member with same | later
        · exact absurd (congrArg Registration.id same) here
        · exact .inl ⟨other, later, rfl⟩
      · exact .inr ((orderly.valid.value?_release_of_ne here).trans absent)

theorem Orderly.retain (orderly : registry.Orderly) (isHeld : Nat → Bool) : (registry.retain isHeld).Orderly :=
  (release_each orderly _).1

theorem Orderly.retain_next (orderly : registry.Orderly) (isHeld : Nat → Bool) :
    (registry.retain isHeld).next = registry.next := (release_each orderly _).2.1

/-- What is not held means nothing any more. -/
theorem Orderly.value?_retain (orderly : registry.Orderly) (isHeld : Nat → Bool) (id : Nat) :
    (registry.retain isHeld).value? id = if isHeld id then registry.value? id else none := by
  cases held : isHeld id with
  | true => exact orderly.valid.value?_retain held
  | false =>
    refine (release_each orderly _).2.2 id ?_
    cases found : registry.find? id with
    | none => exact .inr (value?_eq_none found)
    | some entry =>
      obtain ⟨member, rfl⟩ := find?_mem found
      exact .inl ⟨entry, List.mem_filter.mpr ⟨member, by simp [held]⟩, rfl⟩

/-- Values were registered, and none was released. -/
structure Extends (before after : Registry) : Prop where
  next : before.next ≤ after.next
  same : ∀ id < before.next, after.value? id = before.value? id

namespace Extends

theorem refl (registry : Registry) : registry.Extends registry := ⟨Nat.le_refl _, fun _ _ => rfl⟩

theorem trans {first second third : Registry} (early : first.Extends second) (late : second.Extends third) :
    first.Extends third :=
  ⟨Nat.le_trans early.next late.next, fun id old =>
    (late.same id (Nat.lt_of_lt_of_le old early.next)).trans (early.same id old)⟩

theorem register (valid : registry.Valid) (value : Raw) : registry.Extends (registry.register value).2 := by
  refine ⟨?_, fun id old => valid.value?_register_of_ne (Nat.ne_of_lt old)⟩
  obtain ⟨slots, free, registrations, next⟩ := registry
  cases free <;> exact Nat.le_succ next

end Extends

/-- Values were registered and released, and none that was released has come back. -/
structure Succeeds (before after : Registry) : Prop where
  next : before.next ≤ after.next
  kept : ∀ id < before.next, after.value? id = before.value? id ∨ after.value? id = none

namespace Succeeds

theorem trans {first second third : Registry} (early : first.Succeeds second) (late : second.Succeeds third) :
    first.Succeeds third := by
  refine ⟨Nat.le_trans early.next late.next, fun id old => ?_⟩
  rcases late.kept id (Nat.lt_of_lt_of_le old early.next) with same | gone
  · rw [same]
    exact early.kept id old
  · exact .inr gone

end Succeeds

theorem Extends.succeeds {before after : Registry} (extended : before.Extends after) : before.Succeeds after :=
  ⟨extended.next, fun id old => .inl (extended.same id old)⟩

theorem Orderly.succeeds_retain (orderly : registry.Orderly) (isHeld : Nat → Bool) :
    registry.Succeeds (registry.retain isHeld) := by
  refine ⟨Nat.le_of_eq (orderly.retain_next isHeld).symm, fun id _ => ?_⟩
  rw [orderly.value?_retain isHeld id]
  split
  · exact .inl rfl
  · exact .inr rfl

/-- A value is registered under a number that was given out. -/
theorem Valid.lt_next (valid : registry.Valid) (known : registry.value? id = some value) : id < registry.next := by
  cases found : registry.find? id with
  | none => cases (value?_eq_none found).symm.trans known
  | some entry =>
    obtain ⟨member, rfl⟩ := find?_mem found
    exact valid.fresh entry member

end TileScript.Bridge.Registry
