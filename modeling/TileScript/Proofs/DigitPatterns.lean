import TileScript.Pattern.Reader
import TileScript.Pattern.Search

/-! Patterns of digits alone. Digits have no meaning of their own in a pattern and no variants in the other case, so
that such a text is always a pattern unless it is too long, and has a match in the texts that it is a part of. -/

namespace TileScript

theorem digit_bounds {c : Char} (digit : c.isDigit) : 48 ≤ c.toNat ∧ c.toNat ≤ 57 := Char.isDigit_iff_toNat.mp digit

namespace CaseFold

/-- No digit folds to another character, and none to a digit. -/
theorem runs_apart : ∀ run ∈ FoldRun.all, 57 < run.first ∧ (57 < run.first + run.shift ∨ run.last + run.shift < 48) := by
  decide +kernel

theorem not_covers_digit {run : FoldRun} (known : run ∈ FoldRun.all) {c : Char} (digit : c.isDigit) :
    run.covers c.toNat = false := by
  have after : c.toNat < run.first := Nat.lt_of_le_of_lt (digit_bounds digit).2 (runs_apart run known).1
  rw [FoldRun.covers, decide_eq_false (Nat.not_le_of_lt after)]
  rfl

theorem fold_digit {c : Char} (digit : c.isDigit) : fold c.toNat = c.toNat := by
  have plain : FoldRun.all.find? (·.covers c.toNat) = none :=
    List.find?_eq_none.mpr fun run known => by rw [not_covers_digit known digit]; decide
  rw [fold, plain]

theorem eq_of_fold_digit {c : Char} (digit : c.isDigit) {code : Nat} (folds : fold code = c.toNat) : code = c.toNat := by
  have bounds := digit_bounds digit
  rw [fold] at folds
  split at folds
  next run found =>
    obtain ⟨-, shifted⟩ := runs_apart run (List.mem_of_find?_eq_some found)
    have covered := List.find?_some found
    simp only [FoldRun.covers, Bool.and_eq_true, decide_eq_true_eq] at covered
    omega
  next => exact folds

/-- A digit is a variant of nothing but itself. -/
theorem eq_of_mem_variants {c : Char} (digit : c.isDigit) {code : Nat} (variant : c.toNat ∈ variants code) :
    code = c.toNat := by
  obtain head | later := List.mem_cons.mp variant
  · exact eq_of_fold_digit digit head.symm
  · obtain ⟨run, known, found⟩ := List.mem_filterMap.mp later
    simp only [Option.ite_none_right_eq_some, Option.some.injEq] at found
    obtain ⟨covered, same⟩ := found
    rw [same, not_covers_digit known digit] at covered
    cases covered

end CaseFold

theorem CharRanges.contains_single (c d : Char) : CharRanges.contains [(d.toNat, d.toNat)] c = true ↔ c = d := by
  simp only [CharRanges.contains, List.any_cons, List.any_nil, Bool.or_false, Bool.and_eq_true, decide_eq_true_eq,
    ← Char.toNat_inj]
  omega

namespace Pattern

theorem ofNat_eq_digit {digit : Char} (known : digit.isDigit) {code : Nat} (same : Char.ofNat code = digit) :
    code = digit.toNat := by
  subst same
  by_cases valid : code.isValidChar
  · rw [Char.ofNat, dif_pos valid]
    rfl
  · have bounds := digit_bounds known
    rw [Char.ofNat, dif_neg valid] at bounds
    exact absurd bounds.1 (by decide)

/-- With case ignored too, a set of one digit holds nothing else. -/
theorem CharSet.contains_digit {digit : Char} (known : digit.isDigit) (c : Char) :
    (CharSet.anyCase [(digit.toNat, digit.toNat)]).contains c = true ↔ c = digit := by
  simp only [CharSet.contains, List.any_eq_true, CharRanges.contains_single]
  constructor
  · rintro ⟨code, variant, same⟩
    obtain rfl := ofNat_eq_digit known same
    exact Char.toNat_inj.mp (CaseFold.eq_of_mem_variants known variant)
  · rintro rfl
    exact ⟨c.toNat, List.mem_cons.mpr (.inl (CaseFold.fold_digit known).symm), Char.ofNat_toNat c⟩

/-! ### Reading -/

/-- What a character asks for that stands for itself. -/
def letter (c : Char) : Node := (Reading.Item.literal c).node .initial

/-- Characters one after the other, each of which stands for itself. -/
def word (letters : List Char) : Node := letters.foldr (fun c later => (letter c).followedBy later) .empty

theorem Nesting.ofParts_flat {parts : List Nesting} (flat : ∀ part ∈ parts, part = []) : Nesting.ofParts parts = [] := by
  rw [List.eq_replicate_of_mem flat, Nesting.ofParts]
  induction parts.length with
  | zero => rfl
  | succ count ih => exact ih

namespace Reading

/-- Nothing but these characters has been read of the only alternative. -/
structure Branches.Spells (branches : Branches) (letters : List Char) : Prop where
  only : branches.done = []
  nodes : branches.pieces.map (·.node) = (letters.map fun c => some (letter c)).reverse
  flat : ∀ piece ∈ branches.pieces, piece.nesting = []

theorem Branches.Spells.push {branches : Branches} {letters : List Char} (spells : branches.Spells letters) (c : Char)
    (place : Nat) : (branches.push ⟨some (letter c), place, []⟩).Spells (letters ++ [c]) where
  only := spells.only
  nodes := by
    rw [List.map_append, List.reverse_append]
    exact congrArg (some (letter c) :: ·) spells.nodes
  flat := List.forall_mem_cons.mpr ⟨rfl, spells.flat⟩

theorem Branches.Spells.finish {branches : Branches} {letters : List Char} (spells : branches.Spells letters)
    (stop : Nat) : ∃ nesting : Nesting, branches.finish stop = (word letters, nesting) ∧ nesting.excess? = none := by
  have nodes : branches.pieces.filterMap (·.node) = (letters.map letter).reverse := by
    have whole := congrArg (List.filterMap id) spells.nodes
    simpa [List.filterMap_map, Function.comp_def, List.filterMap_reverse] using whole
  have flat : Nesting.ofParts (branches.pieces.reverse.map (·.nesting)) = [] := by
    refine Nesting.ofParts_flat (List.forall_mem_map.mpr fun piece member => ?_)
    exact spells.flat piece (List.mem_reverse.mp member)
  have node : (branches.current stop).1 = word letters := by
    rw [Branches.current, nodes, List.foldl_reverse, List.foldr_map]
    rfl
  refine ⟨(branches.current stop).2, ?_, (Nesting.excess?_eq_none_iff _).mpr ?_⟩
  · rw [Branches.finish, spells.only, ← node]
  · rw [Branches.current, flat]
    dsimp only
    split <;> simp [Nesting.limit]

theorem alternatives_digit {c : Char} (digit : c.isDigit) (rest : List Char) (place : Nat) (names : List (String × Span))
    (fuel : Nat) (branches : Branches) :
    (alternatives (fuel + 1) none .initial branches).run ⟨c :: rest, place, names⟩ =
      (alternatives fuel none .initial (branches.push ⟨some (letter c), place, []⟩)).run ⟨rest, place + 1, names⟩ := by
  have listed : ∀ code < 58, 48 ≤ code → Char.ofNat code ∈ "0123456789".toList := by decide
  have known : c ∈ "0123456789".toList := by
    have bounds := digit_bounds digit
    have found := listed c.toNat (Nat.lt_succ_of_le bounds.2) bounds.1
    rwa [Char.ofNat_toNat] at found
  simp only [String.reduceToList, List.mem_cons, List.not_mem_nil, or_false] at known
  -- The reader tells characters apart by comparing them with fixed ones, so that each digit has to be tried.
  rcases known with rfl | rfl | rfl | rfl | rfl | rfl | rfl | rfl | rfl | rfl <;> rfl

theorem alternatives_digits {digits : List Char} (all : ∀ c ∈ digits, c.isDigit) {branches : Branches}
    {letters : List Char} (spells : branches.Spells letters) (place : Nat) (names : List (String × Span)) :
    ∃ nesting : Nesting, nesting.excess? = none ∧
      (alternatives (digits.length + 1) none .initial branches).run ⟨digits, place, names⟩ =
        .ok ((word (letters ++ digits), nesting), ⟨[], place + digits.length, names⟩) := by
  induction digits generalizing branches letters place with
  | nil =>
    obtain ⟨nesting, finished, shallow⟩ := spells.finish place
    refine ⟨nesting, shallow, ?_⟩
    rw [List.append_nil, ← finished]
    rfl
  | cons c rest ih =>
    obtain ⟨digit, others⟩ := List.forall_mem_cons.mp all
    obtain ⟨nesting, shallow, ran⟩ := ih others (spells.push c place) (place + 1)
    refine ⟨nesting, shallow, ?_⟩
    rw [List.length_cons, alternatives_digit digit, ran, List.append_assoc, Nat.add_right_comm]
    rfl

end Reading

/-- A text of digits is the pattern of these digits, unless it is too long. -/
theorem read_digits {text : String} (all : ∀ c ∈ text.toList, c.isDigit) :
    read text = if sizeLimit < (word text.toList).size then .error .tooLarge else .ok ⟨text, (word text.toList).isIn⟩ := by
  have start : (Reading.Branches.empty 0).Spells [] := ⟨rfl, rfl, nofun⟩
  obtain ⟨nesting, shallow, ran⟩ := Reading.alternatives_digits all start 0 []
  rw [List.nil_append] at ran
  simp only [read]
  rw [ran]
  simp only [shallow]
  split <;> rfl

/-! ### Size -/

theorem within_eq_nil {run : FoldRun} {low high : Nat} (apart : high < run.first ∨ run.last < low) :
    run.within low high = [] := by
  rw [FoldRun.within, if_pos]
  omega

/-- A digit is all that there is to it with case ignored. -/
theorem closure_digit {c : Char} (digit : c.isDigit) :
    CaseFold.closure [(c.toNat, c.toNat)] = [(c.toNat, c.toNat)] := by
  have bounds := digit_bounds digit
  have folds : CaseFold.folds (c.toNat, c.toNat) = [] := by
    refine List.flatMap_eq_nil_iff.mpr fun run known => ?_
    rw [within_eq_nil (.inl (Nat.lt_of_le_of_lt bounds.2 (CaseFold.runs_apart run known).1))]
    rfl
  have sources : CaseFold.sources (c.toNat, c.toNat) = [] := by
    refine List.flatMap_eq_nil_iff.mpr fun run known => within_eq_nil ?_
    obtain ⟨first, shifted⟩ := CaseFold.runs_apart run known
    omega
  simp [CaseFold.closure, folds, sources, CharRanges.normal, CharRanges.joined]

theorem automaton_letter {c : Char} (digit : c.isDigit) : (letter c).automaton false = .both Size.stateSize := by
  have single : ∀ code < 58, 48 ≤ code → Size.ofRanges [(code, code)] + .both 0 = .both Size.stateSize := by decide
  have bounds := digit_bounds digit
  change Size.ofRanges (CaseFold.closure [(c.toNat, c.toNat)]) + .both 0 = _
  rw [closure_digit digit, single c.toNat (Nat.lt_succ_of_le bounds.2) bounds.1]

theorem letter_followedBy (c : Char) {later : Node} (more : later ≠ .empty) :
    (letter c).followedBy later = .sequence (letter c) later := by
  cases later with
  | empty => exact absurd rfl more
  | set _ | condition _ | sequence _ _ | choice _ _ | repeated _ _ _ | capture _ => rfl

theorem word_ne_empty (c : Char) (rest : List Char) : word (c :: rest) ≠ .empty := by
  change (letter c).followedBy (word rest) ≠ .empty
  by_cases last : word rest = .empty
  · rw [last]
    nofun
  · rw [letter_followedBy c last]
    nofun

theorem automaton_word {digits : List Char} (all : ∀ c ∈ digits, c.isDigit) (given : digits ≠ []) :
    (word digits).automaton false = .both (Size.stateSize * digits.length) := by
  induction digits with
  | nil => exact absurd rfl given
  | cons c rest ih =>
    obtain ⟨digit, others⟩ := List.forall_mem_cons.mp all
    cases rest with
    | nil => exact automaton_letter digit
    | cons d further =>
      have parts : word (c :: d :: further) = .sequence (letter c) (word (d :: further)) :=
        letter_followedBy c (word_ne_empty d further)
      have states : Size.stateSize + Size.stateSize * (d :: further).length + 0 =
          Size.stateSize * (c :: d :: further).length := by
        simp only [Size.stateSize, List.length_cons]
        omega
      rw [parts, Node.automaton, automaton_letter digit, ih others (List.cons_ne_nil _ _), ← states]
      rfl

/-- Each digit takes one state, besides what every pattern takes. -/
theorem size_word {digits : List Char} (all : ∀ c ∈ digits, c.isDigit) (given : digits ≠ []) :
    (word digits).size = 32 * digits.length + 208 := by
  rw [Node.size, automaton_word all given]
  simp only [Size.both, Size.stateSize, Size.rangeSize, Size.branchSize]
  omega

/-! ### Search -/

theorem reach_followedBy (text : List Char) (first second : Node) (marks : Marks) :
    (first.followedBy second).reach text marks = second.reach text (first.reach text marks) := by
  unfold Node.followedBy
  split <;> rfl

theorem reach_letter {digit : Char} (known : digit.isDigit) {text : List Char} {marks : Marks} {place : Nat} :
    ((letter digit).reach text marks)[place]? = some true ↔
      ∃ before, place = before + 1 ∧ marks[before]? = some true ∧ text[before]? = some digit := by
  change (false :: List.zipWith (fun mark c => mark && (CharSet.anyCase [(digit.toNat, digit.toNat)]).contains c)
    marks text)[place]? = some true ↔ _
  cases place with
  | zero => simp
  | succ before =>
    simp only [List.getElem?_cons_succ, List.getElem?_zipWith_eq_some, Bool.and_eq_true, CharSet.contains_digit known,
      Nat.add_right_cancel_iff, exists_eq_left']
    constructor
    · rintro ⟨_, _, marked, written, rfl, rfl⟩
      exact ⟨marked, written⟩
    · rintro ⟨marked, written⟩
      exact ⟨true, digit, marked, written, rfl, rfl⟩

theorem cons_prefix_drop {c : Char} {rest text : List Char} {place : Nat} :
    c :: rest <+: text.drop place ↔ text[place]? = some c ∧ rest <+: text.drop (place + 1) := by
  by_cases inside : place < text.length
  · rw [List.drop_eq_getElem_cons inside, List.cons_prefix_cons, List.getElem?_eq_getElem inside, Option.some_inj, eq_comm]
  · have outside : text.length ≤ place := Nat.le_of_not_lt inside
    rw [List.drop_eq_nil_of_le outside, List.getElem?_eq_none outside]
    simp

/-- Digits are found where they are written, from one of the places that are marked. -/
theorem reach_word {digits : List Char} (all : ∀ c ∈ digits, c.isDigit) {text : List Char} {marks : Marks} :
    ((word digits).reach text marks).any id = true ↔ ∃ place, marks[place]? = some true ∧ digits <+: text.drop place := by
  induction digits generalizing marks with
  | nil =>
    change marks.any id = true ↔ _
    simp [List.any_eq_true, List.mem_iff_getElem?]
  | cons digit rest ih =>
    obtain ⟨known, others⟩ := List.forall_mem_cons.mp all
    change (((letter digit).followedBy (word rest)).reach text marks).any id = true ↔ _
    simp only [reach_followedBy, ih others, reach_letter known, cons_prefix_drop]
    constructor
    · rintro ⟨_, ⟨before, rfl, marked, written⟩, follows⟩
      exact ⟨before, marked, written, follows⟩
    · rintro ⟨before, marked, written, follows⟩
      exact ⟨_, ⟨before, rfl, marked, written⟩, follows⟩

/-- Digits are found in every text that they are a part of. -/
theorem isIn_word {digits : List Char} (all : ∀ c ∈ digits, c.isDigit) (text : String) :
    (word digits).isIn text = true ↔ digits <:+: text.toList := by
  rw [Node.isIn, reach_word all, List.infix_iff_prefix_suffix]
  constructor
  · rintro ⟨place, -, begins⟩
    exact ⟨_, begins, List.drop_suffix place _⟩
  · rintro ⟨_, begins, suffix⟩
    rw [List.suffix_iff_eq_drop] at suffix
    refine ⟨_, ?_, suffix ▸ begins⟩
    rw [List.getElem?_replicate, if_pos]
    omega

end Pattern
end TileScript
