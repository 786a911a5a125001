import TileScript.Proofs.Chords
import TileScript.Proofs.NativeEffects

/-! Keymaps: modes by their names, each with bindings in the order in which their chords were first bound. No
mode has a chord twice, however it is spelled. -/

namespace TileScript

/-! ### Bindings -/

namespace Mode

variable {binding : Binding} {bindings : List Binding}

theorem insert_unbound (unbound : ∀ other ∈ bindings, other.chord ≠ binding.chord) : insert binding bindings = bindings ++ [binding] := by
  induction bindings with
  | nil => rfl
  | cons first rest ih =>
    have different : first.chord ≠ binding.chord := unbound first (List.mem_cons_self ..)
    rw [insert, if_neg different, ih fun other member => unbound other (List.mem_cons_of_mem _ member)]
    rfl

/-- A chord that is bound keeps its place. -/
theorem insert_bound (distinct : (bindings.map (·.chord)).Nodup) (bound : ∃ other ∈ bindings, other.chord = binding.chord) :
    insert binding bindings = bindings.map fun other => if other.chord = binding.chord then binding else other := by
  induction bindings with
  | nil =>
    obtain ⟨_, ⟨⟩, _⟩ := bound
  | cons first rest ih =>
    rw [List.map_cons, List.nodup_cons] at distinct
    obtain ⟨fresh, others⟩ := distinct
    rw [insert, List.map_cons]
    by_cases same : first.chord = binding.chord
    · have kept : rest.map (fun other => if other.chord = binding.chord then binding else other) = rest := by
        refine (List.map_congr_left fun other member => if_neg fun again => fresh ?_).trans (List.map_id' rest)
        rw [same, ← again]
        exact List.mem_map_of_mem member
      rw [if_pos same, if_pos same, kept]
    · rw [if_neg same, if_neg same]
      obtain ⟨other, member, known⟩ := bound
      rcases List.mem_cons.mp member with rfl | later
      · exact absurd known same
      · rw [ih others ⟨other, later, known⟩]

theorem chords_insert (distinct : (bindings.map (·.chord)).Nodup) : ((insert binding bindings).map (·.chord)).Nodup := by
  by_cases bound : ∃ other ∈ bindings, other.chord = binding.chord
  · have same : (insert binding bindings).map (·.chord) = bindings.map (·.chord) := by
      rw [insert_bound distinct bound, List.map_map]
      refine List.map_congr_left fun other _ => ?_
      simp only [Function.comp_apply]
      split
      next known => exact known.symm
      next => rfl
    rwa [same]
  · have unbound : ∀ other ∈ bindings, other.chord ≠ binding.chord := fun other member known => bound ⟨other, member, known⟩
    rw [insert_unbound unbound, List.map_append, List.nodup_append]
    refine ⟨distinct, by simp, ?_⟩
    simpa using unbound

/-- A binding in the place of the one with its chord, or at the end. -/
def put (binding : Binding) (bindings : List Binding) : List Binding :=
  if ∃ other ∈ bindings, other.chord = binding.chord then
    bindings.map fun other => if other.chord = binding.chord then binding else other
  else bindings ++ [binding]

theorem insert_eq_put (distinct : (bindings.map (·.chord)).Nodup) : insert binding bindings = put binding bindings := by
  rw [put]
  by_cases bound : ∃ other ∈ bindings, other.chord = binding.chord
  · rw [if_pos bound, insert_bound distinct bound]
  · rw [if_neg bound, insert_unbound fun other member known => bound ⟨other, member, known⟩]

theorem find?_insert {chord : Chord} (different : binding.chord ≠ chord) :
    (insert binding bindings).find? (·.chord == chord) = bindings.find? (·.chord == chord) := by
  induction bindings with
  | nil => simp [insert, different]
  | cons first rest ih =>
    rw [insert]
    split
    next same => simp [different, same]
    next => rw [List.find?_cons, List.find?_cons, ih]

theorem find?_put (distinct : (bindings.map (·.chord)).Nodup) (chord : Chord) :
    (put binding bindings).find? (·.chord == chord) =
      if binding.chord = chord then some binding else bindings.find? (·.chord == chord) := by
  rw [← insert_eq_put distinct]
  split
  next same =>
    subst same
    exact lookup_bind ⟨"", bindings⟩ binding
  next different => exact find?_insert different

/-- At most one binding goes, since there is one at most. -/
theorem eraseP_chord {gone : Binding → Bool} {chord : Chord} (distinct : (bindings.map (·.chord)).Nodup)
    (known : ∀ binding ∈ bindings, gone binding = true ↔ binding.chord = chord) :
    bindings.eraseP gone = bindings.filter (·.chord ≠ chord) := by
  induction bindings with
  | nil => rfl
  | cons first rest ih =>
    rw [List.map_cons, List.nodup_cons] at distinct
    obtain ⟨fresh, others⟩ := distinct
    by_cases same : first.chord = chord
    · have kept : rest.filter (·.chord ≠ chord) = rest := by
        refine List.filter_eq_self.mpr fun other member => ?_
        have apart : other.chord ≠ chord := fun again => fresh (same ▸ again ▸ List.mem_map_of_mem member)
        simpa using apart
      rw [List.eraseP_cons_of_pos ((known first (List.mem_cons_self ..)).mpr same),
        List.filter_cons_of_neg (by simpa using same), kept]
    · have stays : ¬ gone first = true := fun goes => same ((known first (List.mem_cons_self ..)).mp goes)
      rw [List.eraseP_cons_of_neg stays, List.filter_cons_of_pos (by simpa using same),
        ih others fun binding member => known binding (List.mem_cons_of_mem _ member)]

theorem find?_filter_chord (chord removed : Chord) : (bindings.filter (·.chord ≠ removed)).find? (·.chord == chord) =
    if chord = removed then none else bindings.find? (·.chord == chord) := by
  rw [List.find?_filter]
  split
  next same =>
    subst same
    exact List.find?_eq_none.mpr (by simp)
  next different =>
    congr 1
    funext other
    by_cases known : other.chord = chord
    · simp [known, different]
    · simp [known]

/-- The chords that are bound are chords that some text spells, and none is bound twice. -/
structure IsKeyed (mode : Mode) : Prop where
  written : ∀ binding ∈ mode.bindings, binding.chord.IsWritten
  chords : (mode.bindings.map (·.chord)).Nodup

theorem isKeyed_empty (name : String) : (empty name).IsKeyed := ⟨nofun, .nil⟩

variable {mode : Mode}

theorem IsKeyed.descriptions (keyed : mode.IsKeyed) : (mode.bindings.map (·.description)).Nodup := by
  have apart : ∀ binding ∈ mode.bindings, ∀ other ∈ mode.bindings, binding.chord ≠ other.chord →
      binding.description ≠ other.description := by
    intro binding member other listed different same
    exact different ((keyed.written binding member).eq_of_description (keyed.written other listed) same)
  have chords := List.pairwise_map.mp keyed.chords
  exact List.pairwise_map.mpr (chords.imp_of_mem fun first second different => apart _ first _ second different)

theorem IsKeyed.bind (keyed : mode.IsKeyed) {binding : Binding} (written : binding.chord.IsWritten) : (mode.bind binding).IsKeyed := by
  refine ⟨fun other member => ?_, chords_insert keyed.chords⟩
  rcases mem_insert member with old | rfl
  · exact keyed.written other old
  · exact written

theorem IsKeyed.unbind (keyed : mode.IsKeyed) (description : String) : (mode.unbind description).IsKeyed :=
  ⟨fun binding member => keyed.written binding (List.mem_of_mem_eraseP member),
    keyed.chords.sublist (List.eraseP_sublist.map _)⟩

/-- What describes a bound chord spells it. -/
theorem IsKeyed.wanted_iff (keyed : mode.IsKeyed) {binding : Binding} (member : binding ∈ mode.bindings) (key : String) :
    binding.description = Chord.wanted key ↔ Chord.ofString key = .ok binding.chord := by
  have written := keyed.written binding member
  rw [Chord.wanted]
  cases read : Chord.ofString key with
  | error fault =>
    have unspelled : binding.description ≠ key := written.description_ne read
    simpa using unspelled
  | ok chord =>
    constructor
    · intro same
      rw [written.eq_of_description ⟨key, read⟩ same]
    · intro same
      rw [Except.ok.inj same]
      rfl

theorem IsKeyed.unbind_chord (keyed : mode.IsKeyed) {key : String} {chord : Chord} (read : Chord.ofString key = .ok chord) :
    (mode.unbind (Chord.wanted key)).bindings = mode.bindings.filter (·.chord ≠ chord) := by
  refine eraseP_chord keyed.chords fun binding member => ?_
  rw [beq_iff_eq, keyed.wanted_iff member, read, Except.ok.injEq]
  exact eq_comm

/-- A text that spells no chord describes no binding. -/
theorem IsKeyed.described?_unread (keyed : mode.IsKeyed) {key : String} {fault : Chord.Fault} (unread : Chord.ofString key = .error fault) :
    mode.described? (Chord.wanted key) = none := by
  refine List.find?_eq_none.mpr fun binding member described => ?_
  have spelled := (keyed.wanted_iff member key).mp (by simpa using described)
  cases spelled.symm.trans unread

end Mode

/-! ### Modes -/

namespace Modes

variable {modes : Modes}

/-- The names ascend, the first mode is there, and every mode goes by its own name. -/
structure IsKeymap (modes : Modes) : Prop where
  ascending : modes.Pairwise fun first second => first.1 < second.1
  main : ∃ mode, modes.find? Config.mainMode = some mode
  named : ∀ entry ∈ modes, entry.2.name = entry.1
  keyed : ∀ entry ∈ modes, entry.2.IsKeyed

theorem isKeymap_initial : IsKeymap Config.initial.modes where
  ascending := List.pairwise_singleton ..
  main := ⟨_, rfl⟩
  named entry member := by
    obtain rfl := List.mem_singleton.mp member
    rfl
  keyed entry member := by
    obtain rfl := List.mem_singleton.mp member
    exact Mode.isKeyed_empty _

theorem mem_of_find? {name : String} {mode : Mode} (found : modes.find? name = some mode) : (name, mode) ∈ modes := by
  obtain ⟨before, after, rfl, -⟩ := List.lookup_eq_some_iff.mp found
  simp

theorem ascending_insert (ascending : modes.Pairwise fun first second => first.1 < second.1) (name : String) (mode : Mode) :
    (modes.insert name mode).Pairwise fun first second => first.1 < second.1 := by
  induction modes with
  | nil => exact List.pairwise_singleton ..
  | cons entry rest ih =>
    obtain ⟨first, old⟩ := entry
    obtain ⟨before, later⟩ := List.pairwise_cons.mp ascending
    rw [insert]
    split
    next same =>
      subst same
      exact List.pairwise_cons.mpr ⟨before, later⟩
    next different =>
      split
      next smaller =>
        refine List.pairwise_cons.mpr ⟨fun other member => ?_, ascending⟩
        rcases List.mem_cons.mp member with rfl | further
        · exact smaller
        · exact String.lt_trans smaller (before other further)
      next notSmaller =>
        have larger : first < name := by
          by_contra notLarger
          exact different (String.le_antisymm (String.not_lt.mp notSmaller) (String.not_lt.mp notLarger)).symm
        refine List.pairwise_cons.mpr ⟨fun other member => ?_, ih later⟩
        rcases mem_insert member with known | rfl
        · exact before other known
        · exact larger

/-- What is bound in a mode, in order. -/
def content (modes : Modes) (name : String) : Option (List Binding) := (modes.find? name).map (·.bindings)

theorem content_insert (name : String) (mode : Mode) :
    (modes.insert name mode).content = fun other => if other = name then some mode.bindings else modes.content other := by
  funext other
  rw [content]
  split
  next same => rw [same, find?_insert_self, Option.map_some]
  next different =>
    rw [find?_insert_of_ne modes different mode]
    rfl

theorem bindings_get (name : String) : (modes.get name).bindings = (modes.content name).getD [] := by
  rw [get, content]
  cases modes.find? name <;> rfl

namespace IsKeymap

theorem get (keymap : modes.IsKeymap) (name : String) : (modes.get name).IsKeyed ∧ (modes.get name).name = name := by
  rw [Modes.get]
  cases found : modes.find? name with
  | none => exact ⟨Mode.isKeyed_empty name, rfl⟩
  | some mode => exact ⟨keymap.keyed _ (mem_of_find? found), keymap.named _ (mem_of_find? found)⟩

theorem insert (keymap : modes.IsKeymap) {name : String} {mode : Mode} (named : mode.name = name) (keyed : mode.IsKeyed) :
    (modes.insert name mode).IsKeymap where
  ascending := ascending_insert keymap.ascending name mode
  main := by
    by_cases same : Config.mainMode = name
    · exact ⟨mode, same ▸ find?_insert_self modes name mode⟩
    · rw [find?_insert_of_ne modes same mode]
      exact keymap.main
  named entry member := by
    rcases mem_insert member with old | rfl
    · exact keymap.named entry old
    · exact named
  keyed entry member := by
    rcases mem_insert member with old | rfl
    · exact keymap.keyed entry old
    · exact keyed

end IsKeymap
end Modes

/-! ### Changes -/

namespace Manager

variable {manager : Manager}

theorem modes_bind (mode : String) (binding : Binding) : (manager.change (.bind mode binding)).config.modes =
    manager.config.modes.insert mode ((manager.config.modes.get mode).bind binding) :=
  congrArg Config.modes (refresh_config _ mode)

theorem modes_unbind (mode description : String) : (manager.change (.unbind mode description)).config.modes =
    match manager.config.modes.find? mode with
    | none => manager.config.modes
    | some found =>
      if (found.described? description).isNone then manager.config.modes
      else manager.config.modes.insert mode (found.unbind description) := by
  rw [change, unbind]
  cases manager.config.modes.find? mode with
  | none => rfl
  | some found =>
    by_cases absent : (found.described? description).isNone
    · simp only [if_pos absent]
    · simp only [if_neg absent, refresh_config]

theorem content_bind (keymap : manager.config.modes.IsKeymap) (mode : String) (binding : Binding) :
    (manager.change (.bind mode binding)).config.modes.content = fun name =>
      if name = mode then some (Mode.put binding ((manager.config.modes.content mode).getD []))
      else manager.config.modes.content name := by
  have bindings : ((manager.config.modes.get mode).bind binding).bindings =
      Mode.put binding ((manager.config.modes.content mode).getD []) := by
    rw [← Modes.bindings_get]
    exact Mode.insert_eq_put (keymap.get mode).1.chords
  rw [modes_bind, Modes.content_insert, bindings]

/-- However a chord is spelled, its binding goes; a text that spells none removes nothing. -/
theorem content_unbind (keymap : manager.config.modes.IsKeymap) (mode key : String) :
    (manager.change (.unbind mode (Chord.wanted key))).config.modes.content =
      match Chord.ofString key with
      | .ok chord => fun name =>
        if name = mode then (manager.config.modes.content mode).map (·.filter (·.chord ≠ chord))
        else manager.config.modes.content name
      | .error _ => manager.config.modes.content := by
  rw [modes_unbind]
  cases found : manager.config.modes.find? mode with
  | none =>
    have nothing : manager.config.modes.content mode = none := by rw [Modes.content, found, Option.map_none]
    cases Chord.ofString key with
    | error _ => rfl
    | ok chord =>
      funext name
      by_cases same : name = mode <;> simp [same, nothing]
  | some mode' =>
    have keyed := keymap.keyed _ (Modes.mem_of_find? found)
    have there : manager.config.modes.content mode = some mode'.bindings := by rw [Modes.content, found, Option.map_some]
    cases read : Chord.ofString key with
    | error fault => simp only [keyed.described?_unread read, Option.isNone_none, if_true]
    | ok chord =>
      have removed := keyed.unbind_chord read
      by_cases absent : (mode'.described? (Chord.wanted key)).isNone
      · have kept : (mode'.unbind (Chord.wanted key)).bindings = mode'.bindings := by
          refine List.eraseP_of_forall_not fun binding member => ?_
          exact List.find?_eq_none.mp (Option.isNone_iff_eq_none.mp absent) binding member
        simp only [if_pos absent]
        funext name
        by_cases same : name = mode
        · rw [if_pos same, same, there, Option.map_some, ← removed, kept]
        · rw [if_neg same]
      · simp only [if_neg absent]
        rw [Modes.content_insert, removed, there, Option.map_some]

theorem isKeymap_change (keymap : manager.config.modes.IsKeymap) {wanted : Change} (written : wanted.IsWritten) :
    (manager.change wanted).config.modes.IsKeymap := by
  cases wanted with
  | gap _ _ | onFocusChanged _ | onMonitorChanged _ | onWindowDetected _ | activate _ => exact keymap
  | setting setting => cases setting <;> exact keymap
  | bind mode binding =>
    obtain ⟨keyed, named⟩ := keymap.get mode
    rw [modes_bind]
    exact keymap.insert named (keyed.bind written)
  | unbind mode description =>
    rw [modes_unbind]
    split
    · exact keymap
    next found known =>
      split
      · exact keymap
      · have member := Modes.mem_of_find? known
        exact keymap.insert (keymap.named _ member) ((keymap.keyed _ member).unbind description)

end Manager
end TileScript
