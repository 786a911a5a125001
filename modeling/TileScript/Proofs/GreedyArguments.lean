import Mathlib.Logic.ExistsUnique
import TileScript.Bridge.Check
import TileScript.Proofs.Execution

/-! What the check of arguments takes. The arguments fall into blocks, one for each parameter; a
variadic parameter has as long a block as it can. A check may run scripts, the metamethods of the
tables it looks into, so that each argument is judged in the scene that the one before has left. -/

namespace TileScript.Bridge
open Script Attempt

namespace Check

/-! ### Blocks -/

section Blocks

variable (runner : Runner) (site : Site)

def Matches (parameter : Parameter) (value : Raw) (before after : Scene) : Prop :=
  exec runner (argument value parameter) site before = some (.ok (), after)

def Refuses (parameter : Parameter) (value : Raw) (complaint : String) (before after : Scene) : Prop :=
  exec runner (argument value parameter) site before = some (.error complaint, after)

/-- Arguments in a row that all match. -/
inductive Run (parameter : Parameter) : List Raw → Scene → Scene → Prop where
  | none (scene : Scene) : Run parameter [] scene scene
  | more {value : Raw} {rest : List Raw} {before between after : Scene} :
      Matches runner site parameter value before between → Run parameter rest between after →
      Run parameter (value :: rest) before after

/-- A run cannot go on: nothing is left, or the next argument does not match. -/
inductive Stops (parameter : Parameter) : List Raw → Scene → Scene → Prop where
  | atEnd (scene : Scene) : Stops parameter [] scene scene
  | ahead {value : Raw} {later : List Raw} {complaint : String} {before after : Scene} :
      Refuses runner site parameter value complaint before after → Stops parameter (value :: later) before after

/-- The blocks of the parameters, one after the other, and the arguments that come after them. -/
inductive Blocks : List Argument → (taken left : List Raw) → Scene → Scene → Prop where
  | none (left : List Raw) (scene : Scene) : Blocks [] [] left scene scene
  | fixed {parameter : Parameter} {rest : List Argument} {value : Raw} {taken left : List Raw}
      {before between after : Scene} :
      Matches runner site parameter value before between → Blocks rest taken left between after →
      Blocks (.fixed parameter :: rest) (value :: taken) left before after
  | variadic {parameter : Parameter} {rest : List Argument} {run taken left : List Raw}
      {before ended between after : Scene} :
      Run runner site parameter run before ended → Stops runner site parameter (taken ++ left) ended between →
      Blocks rest taken left between after → Blocks (.variadic parameter :: rest) (run ++ taken) left before after

end Blocks

/-! ### Refusals -/

/-- What is said about arguments that are not taken. -/
inductive Refusal where
  | missing (parameter : Parameter) (place count : Nat)
  | mismatch (place : Nat) (complaint : String)
  | extra (place : Nat)

def Refusal.text : Refusal → String
  | .missing parameter place count =>
    "expected " ++ parameter.describe ++ " at argument " ++ toString place ++ ", but only " ++ toString count ++
      " arguments were provided"
  | .mismatch place complaint => "at argument " ++ toString place ++ ": " ++ complaint
  | .extra place =>
    "expected no more arguments, but received extra arguments starting at argument " ++ toString place

/-- The first of the remaining parameters has no block among the remaining arguments, of which the
first one stands at a place; or arguments remain and no parameter does. -/
inductive Halts (runner : Runner) (site : Site) (count place : Nat) :
    List Argument → List Raw → Scene → Refusal → Scene → Prop where
  | missing (parameter : Parameter) (rest : List Argument) (scene : Scene) :
      Halts runner site count place (.fixed parameter :: rest) [] scene (.missing parameter place count) scene
  | fixed {parameter : Parameter} {rest : List Argument} {value : Raw} {later : List Raw} {complaint : String}
      {before after : Scene} : Refuses runner site parameter value complaint before after →
      Halts runner site count place (.fixed parameter :: rest) (value :: later) before (.mismatch place complaint) after
  | variadic {parameter : Parameter} {run later : List Raw} {value : Raw} {complaint : String}
      {before ended after : Scene} : Run runner site parameter run before ended →
      Refuses runner site parameter value complaint ended after →
      Halts runner site count place [.variadic parameter] (run ++ value :: later) before
        (.mismatch (place + run.length) complaint) after
  | extra (value : Raw) (later : List Raw) (scene : Scene) :
      Halts runner site count place [] (value :: later) scene (.extra place) scene

/-- The last parameter takes as many arguments as match. -/
def EndsVariadic (signature : List Argument) : Prop :=
  ∃ parameter, signature.getLast? = some (.variadic parameter)

/-- The walk over the arguments, of which the first one stands at `start`, takes the blocks of some
parameters and cannot go on. What the last parameter leaves over is never just too much if that one is
variadic. -/
def Stuck (runner : Runner) (site : Site) (count start : Nat) (signature : List Argument) (values : List Raw)
    (before : Scene) (refusal : Refusal) (after : Scene) : Prop :=
  ∃ done rest consumed left between, signature = done ++ rest ∧ values = consumed ++ left ∧
    Blocks runner site done consumed left before between ∧
    Halts runner site count (start + consumed.length) rest left between refusal after ∧
    (rest = [] → ¬ EndsVariadic done)

variable {runner : Runner} {site : Site} {count start place : Nat} {signature done rest : List Argument}
  {parameter : Parameter} {values consumed left : List Raw} {before between after : Scene}

/-! ### The walk -/

theorem exec_takeMatching_run {run : List Raw} (matched : Run runner site parameter run before between) (isLast : Bool)
    (place : Nat) (left : List Raw) :
    exec runner (takeMatching parameter isLast place (run ++ left)) site before =
      exec runner (takeMatching parameter isLast (place + run.length) left) site between := by
  induction matched generalizing place with
  | none scene => rfl
  | @more value rest before between after first later ih =>
    have onward : place + (value :: rest).length = place + 1 + rest.length := by simp +arith
    rw [onward, ← ih (place + 1), List.cons_append, takeMatching, exec_bind, exec_observe, first]
    rfl

theorem exec_takeMatching_stops (stops : Stops runner site parameter left before after) {isLast : Bool}
    (inner : isLast = true → left = []) (place : Nat) :
    exec runner (takeMatching parameter isLast place left) site before = some (.ok (place, left), after) := by
  cases stops with
  | atEnd => rfl
  | ahead refused =>
    have inner : isLast = false := Bool.eq_false_iff.mpr fun last => nomatch inner last
    rw [takeMatching, exec_bind, exec_observe, refused, inner]
    rfl

theorem EndsVariadic.cons (argument : Argument) (ends : EndsVariadic done) : EndsVariadic (argument :: done) := by
  obtain ⟨parameter, last⟩ := ends
  exact ⟨parameter, by simp [List.getLast?_cons, last]⟩

/-- The check goes on where the blocks of some parameters end. -/
theorem exec_fromPlace_blocks (blocks : Blocks runner site done consumed left before between) (count place : Nat)
    (rest : List Argument) (last : rest = [] → EndsVariadic done → left = []) :
    exec runner (fromPlace count place (consumed ++ left) (done ++ rest)) site before =
      exec runner (fromPlace count (place + consumed.length) left rest) site between := by
  induction blocks generalizing place with
  | none left scene => rfl
  | @fixed parameter others value taken left before between after first _ ih =>
    have onward : place + (value :: taken).length = place + 1 + taken.length := by simp +arith
    rw [onward, ← ih (place + 1) fun none ends => last none (ends.cons _)]
    rw [List.cons_append, List.cons_append, fromPlace, exec_bind, atPlace, exec_mapError, first]
    rfl
  | @variadic parameter others run taken left before ended between after first stops _ ih =>
    have onward : place + (run ++ taken).length = place + run.length + taken.length := by simp +arith
    -- Only the last parameter insists on all that is left, and nothing is left to it.
    have inner : (others ++ rest).isEmpty = true → taken ++ left = [] := by
      intro none
      obtain ⟨rfl, rfl⟩ := List.append_eq_nil_iff.mp (List.isEmpty_iff.mp none)
      cases ‹Blocks runner site [] taken left between after›
      exact last rfl ⟨parameter, rfl⟩
    rw [onward, ← ih (place + run.length) fun none ends => last none (ends.cons _)]
    rw [List.append_assoc, List.cons_append, fromPlace, exec_bind, exec_takeMatching_run first,
      exec_takeMatching_stops stops inner]
    rfl

theorem exec_fromPlace_halts {refusal : Refusal} (halts : Halts runner site count place rest left before refusal after) :
    exec runner (fromPlace count place left rest) site before = some (.error refusal.text, after) := by
  cases halts with
  | missing | extra => rfl
  | fixed refused =>
    rw [fromPlace, exec_bind, atPlace, exec_mapError, refused]
    rfl
  | variadic matched refused =>
    rw [fromPlace, exec_bind, exec_takeMatching_run matched, takeMatching, exec_bind, exec_observe, refused]
    rfl

theorem exec_fromPlace_stuck {refusal : Refusal} (stuck : Stuck runner site count start signature values before refusal after) :
    exec runner (fromPlace count start values signature) site before = some (.error refusal.text, after) := by
  obtain ⟨done, rest, consumed, left, between, rfl, rfl, blocks, halts, last⟩ := stuck
  rw [exec_fromPlace_blocks blocks count start rest fun none ends => absurd ends (last none)]
  exact exec_fromPlace_halts halts

theorem exec_fromPlace_taken (blocks : Blocks runner site signature values [] before after) (count start : Nat) :
    exec runner (fromPlace count start values signature) site before = some (.ok (), after) := by
  have walked := exec_fromPlace_blocks blocks count start [] fun _ _ => rfl
  rw [List.append_nil, List.append_nil] at walked
  exact walked

/-! ### Every check that ends -/

/-- What a variadic parameter makes of the arguments. -/
theorem takeMatching_cases {isLast : Bool} {result : Except String (Nat × List Raw)}
    (ran : exec runner (takeMatching parameter isLast place values) site before = some (result, after)) :
    ∃ run left ended, values = run ++ left ∧ Run runner site parameter run before ended ∧
      (Stops runner site parameter left ended after ∧ (isLast = true → left = []) ∧
          result = .ok (place + run.length, left) ∨
        isLast = true ∧ ∃ value later complaint, left = value :: later ∧
          Refuses runner site parameter value complaint ended after ∧
          result = .error (Refusal.mismatch (place + run.length) complaint).text) := by
  induction values generalizing place before with
  | nil =>
    cases ran
    exact ⟨[], [], after, rfl, .none after, .inl ⟨.atEnd after, fun _ => rfl, rfl⟩⟩
  | cons value later ih =>
    rw [takeMatching, exec_bind, exec_observe, Option.bind_map, Option.bind_eq_some_iff] at ran
    obtain ⟨⟨verdict, between⟩, judged, ran⟩ := ran
    cases verdict with
    | ok _ =>
      obtain ⟨run, left, ended, parts, matched, outcome⟩ := ih ran
      have onward : place + (value :: run).length = place + 1 + run.length := by simp +arith
      refine ⟨value :: run, left, ended, congrArg (value :: ·) parts, .more judged matched, ?_⟩
      rw [onward]
      exact outcome
    | error complaint =>
      refine ⟨[], value :: later, before, rfl, .none before, ?_⟩
      cases isLast with
      | false =>
        cases ran
        exact .inl ⟨.ahead judged, nofun, rfl⟩
      | true =>
        cases ran
        exact .inr ⟨rfl, value, later, complaint, rfl, judged, rfl⟩

/-- What is wrong after a block is wrong with all of the arguments. -/
theorem Stuck.after_block {first : Argument} (block : List Raw) {refusal : Refusal}
    (stuck : Stuck runner site count (start + block.length) rest left between refusal after)
    (grown : ∀ {done taken left' between'}, left = taken ++ left' → Blocks runner site done taken left' between between' →
      Blocks runner site (first :: done) (block ++ taken) left' before between')
    (open_ : ∀ parameter, first = .variadic parameter → rest = [] → left = []) :
    Stuck runner site count start (first :: rest) (block ++ left) before refusal after := by
  obtain ⟨done, others, consumed, later, ended, rfl, rfl, blocks, halts, last⟩ := stuck
  refine ⟨first :: done, others, block ++ consumed, later, ended, rfl, (List.append_assoc ..).symm, grown rfl blocks, ?_, ?_⟩
  · rw [List.length_append, ← Nat.add_assoc]
    exact halts
  · rintro rfl ⟨parameter, final⟩
    cases done with
    | cons second done => exact last rfl ⟨parameter, by simpa [List.getLast?_cons] using final⟩
    | nil =>
      cases blocks
      cases halts with
      | extra value later => exact nomatch open_ parameter (by simpa using final) rfl

/-- What is wrong with the first parameter. -/
theorem Halts.stuck {first : Argument} {refusal : Refusal}
    (halts : Halts runner site count start (first :: rest) values before refusal after) :
    Stuck runner site count start (first :: rest) values before refusal after :=
  ⟨[], _, [], values, before, rfl, rfl, .none values before, halts, nofun⟩

/-- A check that ends has found the blocks, or where there is none. -/
theorem exec_fromPlace_cases {result : Except String Unit}
    (ran : exec runner (fromPlace count start values signature) site before = some (result, after)) :
    (result = .ok () ∧ Blocks runner site signature values [] before after) ∨
      ∃ refusal, result = .error refusal.text ∧ Stuck runner site count start signature values before refusal after := by
  induction signature generalizing start values before with
  | nil =>
    cases values with
    | nil =>
      cases ran
      exact .inl ⟨rfl, .none [] _⟩
    | cons value later =>
      cases ran
      refine .inr ⟨.extra start, rfl, [], [], [], value :: later, _, rfl, rfl, .none _ _, .extra value later _, ?_⟩
      exact fun _ ends => nomatch ends
  | cons first rest ih =>
    cases first with
    | fixed parameter =>
      cases values with
      | nil =>
        cases ran
        exact .inr ⟨.missing parameter start count, rfl, Halts.stuck (.missing parameter rest _)⟩
      | cons value later =>
        rw [fromPlace, exec_bind, atPlace, exec_mapError, Option.bind_map, Option.bind_eq_some_iff] at ran
        obtain ⟨⟨verdict, between⟩, judged, ran⟩ := ran
        cases verdict with
        | error complaint =>
          cases ran
          exact .inr ⟨.mismatch start complaint, rfl, Halts.stuck (.fixed judged)⟩
        | ok _ =>
          rcases ih ran with ⟨rfl, blocks⟩ | ⟨refusal, rfl, stuck⟩
          · exact .inl ⟨rfl, .fixed judged blocks⟩
          · exact .inr ⟨refusal, rfl, stuck.after_block [value] (fun _ blocks => .fixed judged blocks) nofun⟩
    | variadic parameter =>
      rw [fromPlace, exec_bind, Option.bind_eq_some_iff] at ran
      obtain ⟨⟨verdict, between⟩, judged, ran⟩ := ran
      obtain ⟨run, left, ended, rfl, matched, outcome⟩ := takeMatching_cases judged
      rcases outcome with ⟨stops, inner, rfl⟩ | ⟨last, value, later, complaint, rfl, refused, rfl⟩
      · rcases ih ran with ⟨rfl, blocks⟩ | ⟨refusal, rfl, stuck⟩
        · refine .inl ⟨rfl, .variadic matched ?_ blocks⟩
          rwa [List.append_nil]
        · refine .inr ⟨refusal, rfl, stuck.after_block run (fun parts blocks => .variadic matched (parts ▸ stops) blocks) ?_⟩
          exact fun _ _ none => inner (List.isEmpty_iff.mpr none)
      · cases ran
        obtain rfl := List.isEmpty_iff.mp last
        exact .inr ⟨_, rfl, Halts.stuck (.variadic matched refused)⟩

/-! ### One walk only -/

theorem Matches.unique {value : Raw} {after' : Scene} (first : Matches runner site parameter value before after)
    (second : Matches runner site parameter value before after') : after = after' := by
  cases first.symm.trans second
  rfl

theorem Matches.not_refuses {value : Raw} {complaint : String} {after' : Scene}
    (matched : Matches runner site parameter value before after) :
    ¬ Refuses runner site parameter value complaint before after' := fun refused => nomatch matched.symm.trans refused

theorem Refuses.unique {value : Raw} {complaint complaint' : String} {after' : Scene}
    (first : Refuses runner site parameter value complaint before after)
    (second : Refuses runner site parameter value complaint' before after') : complaint = complaint' ∧ after = after' := by
  cases first.symm.trans second
  exact ⟨rfl, rfl⟩

/-- A run goes on for as long as any other run over the same arguments. -/
theorem Run.longest {run run' left left' : List Raw} {ended ended' : Scene} (first : Run runner site parameter run before ended)
    (second : Run runner site parameter run' before ended') (stops : Stops runner site parameter left ended after)
    (same : run ++ left = run' ++ left') : ∃ more, run = run' ++ more ∧ Run runner site parameter more ended' ended := by
  induction second generalizing run with
  | none scene => exact ⟨run, rfl, first⟩
  | @more value rest before between ended' matched later ih =>
    cases first with
    | none =>
      subst same
      cases stops with
      | ahead refused => exact absurd refused matched.not_refuses
    | @more value run _ between' _ matched' later' =>
      obtain ⟨rfl, others⟩ := List.cons.inj same
      obtain rfl := matched.unique matched'
      obtain ⟨more, rfl, onward⟩ := ih later' others
      exact ⟨more, rfl, onward⟩

theorem Stops.not_more {run : List Raw} {ended : Scene} (stops : Stops runner site parameter (run ++ left) before after)
    (more : Run runner site parameter run before ended) : run = [] := by
  cases more with
  | none => rfl
  | more matched _ =>
    cases stops with
    | ahead refused => exact absurd refused matched.not_refuses

theorem Run.unique {run run' left left' : List Raw} {ended ended' after after' : Scene}
    (first : Run runner site parameter run before ended) (second : Run runner site parameter run' before ended')
    (stops : Stops runner site parameter left ended after) (stops' : Stops runner site parameter left' ended' after')
    (same : run ++ left = run' ++ left') : run = run' ∧ left = left' ∧ ended = ended' := by
  obtain ⟨more, rfl, onward⟩ := first.longest second stops same
  rw [List.append_assoc, List.append_cancel_left_eq] at same
  subst same
  obtain rfl := stops'.not_more onward
  cases onward
  exact ⟨List.append_nil _, rfl, rfl⟩

theorem Stops.unique {after' : Scene} (first : Stops runner site parameter left before after)
    (second : Stops runner site parameter left before after') : after = after' := by
  cases first with
  | atEnd =>
    cases second
    rfl
  | ahead refused =>
    cases second with
    | ahead refused' => exact (refused.unique refused').2

theorem Blocks.unique {consumed' left' : List Raw} {after' : Scene}
    (first : Blocks runner site done consumed left before after) (second : Blocks runner site done consumed' left' before after')
    (same : consumed ++ left = consumed' ++ left') : consumed = consumed' ∧ left = left' ∧ after = after' := by
  induction first generalizing consumed' with
  | none left scene =>
    cases second
    exact ⟨rfl, same, rfl⟩
  | fixed matched _ ih =>
    cases second with
    | fixed matched' later =>
      obtain ⟨rfl, others⟩ := List.cons.inj same
      obtain rfl := matched.unique matched'
      obtain ⟨rfl, rfl, rfl⟩ := ih later others
      exact ⟨rfl, rfl, rfl⟩
  | variadic matched stops _ ih =>
    cases second with
    | variadic matched' stops' later =>
      rw [List.append_assoc, List.append_assoc] at same
      obtain ⟨rfl, others, rfl⟩ := matched.unique matched' stops stops' same
      obtain rfl := stops.unique (others ▸ stops')
      obtain ⟨rfl, rfl, rfl⟩ := ih later others
      exact ⟨rfl, rfl, rfl⟩

theorem Blocks.split {more : List Argument} (blocks : Blocks runner site (done ++ more) consumed left before after) :
    ∃ first second between, consumed = first ++ second ∧ Blocks runner site done first (second ++ left) before between ∧
      Blocks runner site more second left between after := by
  induction done generalizing consumed before with
  | nil => exact ⟨[], consumed, before, rfl, .none _ before, blocks⟩
  | cons parameter done ih =>
    cases blocks with
    | fixed matched later =>
      obtain ⟨first, second, between, rfl, early, late⟩ := ih later
      exact ⟨_ :: first, second, between, rfl, .fixed matched early, late⟩
    | @variadic _ _ run _ _ _ _ _ _ matched stops later =>
      obtain ⟨first, second, between, rfl, early, late⟩ := ih later
      rw [List.append_assoc] at stops
      exact ⟨run ++ first, second, between, (List.append_assoc ..).symm, .variadic matched stops early, late⟩

theorem Halts.unique {left' : List Raw} {refusal refusal' : Refusal} {after' : Scene}
    (first : Halts runner site count place rest left before refusal after)
    (second : Halts runner site count place rest left' before refusal' after') (same : left = left') : refusal = refusal' := by
  cases first with
  | missing =>
    subst same
    cases second
    rfl
  | fixed refused =>
    subst same
    cases second with
    | fixed refused' => rw [(refused.unique refused').1]
  | extra =>
    subst same
    cases second
    rfl
  | variadic matched refused =>
    cases second with
    | variadic matched' refused' =>
      obtain ⟨rfl, others, rfl⟩ := matched.unique matched' (.ahead refused) (.ahead refused') same
      obtain ⟨rfl, rfl⟩ := List.cons.inj others
      rw [(refused.unique refused').1]

/-- Where the walk halts at a parameter, that one has no block, unless it is the last one and variadic. -/
theorem Halts.not_blocks {first : Argument} {others more : List Argument} {refusal : Refusal} {ended : Scene}
    (halts : Halts runner site count place (first :: others) (consumed ++ left) before refusal after)
    (blocks : Blocks runner site (first :: more) consumed left before ended) :
    others = [] ∧ EndsVariadic [first] := by
  generalize same : consumed ++ left = remaining at halts
  cases halts with
  | missing =>
    cases blocks
    exact nomatch same
  | fixed refused =>
    cases blocks with
    | fixed matched _ =>
      obtain ⟨rfl, _⟩ := List.cons.inj same
      exact absurd refused matched.not_refuses
  | @variadic parameter => exact ⟨rfl, parameter, rfl⟩

/-- A walk that halts does not go further another time. -/
theorem Halts.unique_further {more : List Argument} {consumed' left' : List Raw} {between' after' : Scene}
    {refusal refusal' : Refusal} (blocks : Blocks runner site done consumed left before between)
    (halts : Halts runner site count (start + consumed.length) (more ++ rest) left between refusal after)
    (blocks' : Blocks runner site (done ++ more) consumed' left' before between')
    (halts' : Halts runner site count (start + consumed'.length) rest left' between' refusal' after')
    (last : rest = [] → ¬ EndsVariadic (done ++ more)) (same : consumed ++ left = consumed' ++ left') :
    refusal = refusal' := by
  obtain ⟨first, second, reached, rfl, early, late⟩ := blocks'.split
  rw [List.append_assoc] at same
  obtain ⟨rfl, rfl, rfl⟩ := blocks.unique early same
  cases more with
  | nil =>
    cases late
    rw [List.append_nil] at halts'
    exact halts.unique halts' rfl
  | cons argument more =>
    obtain ⟨none, parameter, final⟩ := halts.not_blocks late
    obtain ⟨rfl, rfl⟩ := List.append_eq_nil_iff.mp none
    exact absurd ⟨parameter, by simpa using final⟩ (last rfl)

/-- There is one reason to refuse. -/
theorem Stuck.unique {refusal refusal' : Refusal} {after' : Scene}
    (first : Stuck runner site count start signature values before refusal after)
    (second : Stuck runner site count start signature values before refusal' after') : refusal = refusal' := by
  obtain ⟨done, rest, consumed, left, between, rfl, rfl, blocks, halts, last⟩ := first
  obtain ⟨done', rest', consumed', left', between', parts, same, blocks', halts', last'⟩ := second
  rcases List.append_eq_append_iff.mp parts with ⟨more, rfl, rfl⟩ | ⟨more, rfl, rfl⟩
  · exact Halts.unique_further blocks halts blocks' halts' last' same
  · exact (Halts.unique_further blocks' halts' blocks halts last same.symm).symm

end Check

/-- The check of arguments takes those that fall into one block for each parameter. It refuses others
for one reason, with the place after the arguments that the blocks up to there have taken. -/
theorem arguments_greedy (runner : Runner) (site : Site) (signature : List Argument) (values : List Raw) (before : Scene) :
    (∀ after, exec runner (Check.arguments values signature) site before = some (.ok (), after) ↔
      Check.Blocks runner site signature values [] before after) ∧
    (∀ message after, exec runner (Check.arguments values signature) site before = some (.error message, after) ↔
      ∃! refusal : Check.Refusal, message = refusal.text ∧
        Check.Stuck runner site values.length 1 signature values before refusal after) := by
  refine ⟨fun after => ⟨fun ran => ?_, fun blocks => ?_⟩, fun message after => ⟨fun ran => ?_, ?_⟩⟩
  · rcases Check.exec_fromPlace_cases ran with ⟨_, blocks⟩ | ⟨_, impossible, _⟩
    · exact blocks
    · cases impossible
  · exact Check.exec_fromPlace_taken blocks values.length 1
  · rcases Check.exec_fromPlace_cases ran with ⟨impossible, _⟩ | ⟨refusal, same, stuck⟩
    · cases impossible
    · exact ⟨refusal, ⟨Except.error.inj same, stuck⟩, fun other known => known.2.unique stuck⟩
  · rintro ⟨refusal, ⟨rfl, stuck⟩, _⟩
    exact Check.exec_fromPlace_stuck stuck

end TileScript.Bridge
