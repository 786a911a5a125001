import TileScript.Proofs.GreedyArguments
import TileScript.Proofs.PaddedNumbers

/-! How far the check of arguments looks. A refusal that names the place of an argument has seen the
arguments up to there and none after them, so that it stands however the arguments go on. Only a
refusal because there are too few is about the end, and names the place after the last. -/

namespace TileScript.Bridge
open Script Attempt

namespace Check

/-! ### Reading a refusal -/

/-- Numerals before the same sign are the same, and so is what follows. -/
theorem leading_digits {digits digits' rest rest' : List Char} {sign : Char} (all : ∀ c ∈ digits, c.isDigit)
    (all' : ∀ c ∈ digits', c.isDigit) (ends : ¬ sign.isDigit) (same : digits ++ sign :: rest = digits' ++ sign :: rest') :
    digits = digits' ∧ rest = rest' := by
  have numerals := congrArg (List.takeWhile Char.isDigit) same
  rw [List.takeWhile_append_of_pos all, List.takeWhile_append_of_pos all', List.takeWhile_cons_of_neg ends,
    List.takeWhile_cons_of_neg ends, List.append_nil, List.append_nil] at numerals
  subst numerals
  exact ⟨rfl, (List.cons.inj (List.append_cancel_left same)).2⟩

theorem toString_digits (n : Nat) : ∀ c ∈ (toString n).toList, c.isDigit := by
  intro c member
  rw [Nat.toString_eq_repr, Nat.toList_repr] at member
  exact isDigit_padded 0 n c member

theorem toString_inj {m n : Nat} (same : (toString m).toList = (toString n).toList) : m = n := by
  rw [Nat.toString_eq_repr, Nat.toString_eq_repr, Nat.toList_repr, Nat.toList_repr] at same
  rw [← digitsValue_padded 0 m, ← digitsValue_padded 0 n, same]

theorem first_number {m n : Nat} {opening text text' : String}
    (same : opening ++ toString m ++ ":" ++ text = opening ++ toString n ++ ":" ++ text') : m = n := by
  have read := congrArg String.toList same
  simp only [String.toList_append, List.append_assoc, List.append_cancel_left_eq] at read
  exact toString_inj (leading_digits (toString_digits m) (toString_digits n) (by decide) read).1

/-- What stands before a number may hold anything, so that this one is read from the end. -/
theorem last_number {m n : Nat} {opening opening' closing : String}
    (same : opening ++ " " ++ toString m ++ closing = opening' ++ " " ++ toString n ++ closing) :
    opening = opening' ∧ m = n := by
  have read := congrArg (fun text => text.toList.reverse) same
  simp only [String.toList_append, List.reverse_append, List.append_assoc, List.append_cancel_left_eq] at read
  obtain ⟨digits, rest⟩ := leading_digits (fun c member => toString_digits m c (List.mem_reverse.mp member))
    (fun c member => toString_digits n c (List.mem_reverse.mp member)) (by decide) read
  exact ⟨String.toList_inj.mp (List.reverse_inj.mp rest), toString_inj (List.reverse_inj.mp digits)⟩

theorem last_letter {n : Nat} {opening opening' : String} : opening ++ "d" ≠ opening' ++ toString n := by
  intro same
  have read := congrArg (fun text => text.toList.getLast?) same
  simp only [String.toList_append, List.getLast?_append] at read
  cases last : (toString n).toList.getLast? with
  | none =>
    rw [List.getLast?_eq_none_iff, Nat.toString_eq_repr, Nat.toList_repr] at last
    exact absurd last Nat.toDigits_ne_nil
  | some c =>
    rw [last] at read
    cases read
    exact absurd (toString_digits n 'd' (List.mem_of_getLast? last)) (by decide)

theorem first_letter {text text' : String} : "a" ++ text ≠ "e" ++ text' := by
  intro same
  have read := congrArg String.toList same
  rw [String.toList_append, String.toList_append] at read
  cases read

def Refusal.place : Refusal → Nat
  | .missing _ place _ | .mismatch place _ | .extra place => place

/-- There are too few arguments. -/
def Refusal.IsShortage : Refusal → Prop
  | .missing .. => True
  | .mismatch .. | .extra _ => False

variable {parameter parameter' : Parameter} {place place' count count' : Nat} {complaint complaint' : String}

-- The texts are cut where a number stands, or one letter tells them apart.

theorem Refusal.text_missing : (missing parameter place count).text =
    ("expected " ++ parameter.describe ++ " at argument" ++ " " ++ toString place ++ ", but only") ++ " " ++
      toString count ++ " arguments were provided" := by
  have but : ", but only" ++ " " = ", but only " := by decide
  have argument : " at argument" ++ " " = " at argument " := by decide
  calc (missing parameter place count).text
      = "expected " ++ parameter.describe ++ " at argument " ++ toString place ++ ", but only " ++ toString count ++
          " arguments were provided" := rfl
    _ = _ := by
      rw [← but, ← argument]
      simp only [String.append_assoc]

theorem Refusal.text_mismatch :
    (mismatch place complaint).text = "at argument " ++ toString place ++ ":" ++ (" " ++ complaint) := by
  have colon : ":" ++ " " = ": " := by decide
  calc (mismatch place complaint).text
      = "at argument " ++ toString place ++ ": " ++ complaint := rfl
    _ = _ := by
      rw [← colon]
      simp only [String.append_assoc]

theorem Refusal.missing_inj (same : (missing parameter place count).text = (missing parameter' place' count').text) :
    place = place' := by
  rw [text_missing, text_missing] at same
  have before : "expected " ++ parameter.describe ++ " at argument" ++ " " ++ toString place ++ ", but only" =
    "expected " ++ parameter'.describe ++ " at argument" ++ " " ++ toString place' ++ ", but only" := (last_number same).1
  exact (last_number before).2

theorem Refusal.missing_ne_extra : (missing parameter place count).text ≠ (extra place').text := by
  have provided : " arguments were provide" ++ "d" = " arguments were provided" := by decide
  rw [text_missing, ← provided, ← String.append_assoc]
  exact last_letter

theorem Refusal.mismatch_inj {other : Refusal} (same : (mismatch place complaint).text = other.text) :
    ∃ complaint', other = .mismatch place complaint' := by
  have opening : "a" ++ "t argument " = "at argument " := by decide
  cases other with
  | mismatch place' complaint' =>
    rw [text_mismatch, text_mismatch] at same
    exact ⟨complaint', by rw [first_number same]⟩
  | missing =>
    have expected : "e" ++ "xpected " = "expected " := by decide
    simp only [text_mismatch, text_missing, ← opening, ← expected, String.append_assoc] at same
    exact absurd same first_letter
  | extra place' =>
    have expected : "e" ++ "xpected no more arguments, but received extra arguments starting at argument " =
      "expected no more arguments, but received extra arguments starting at argument " := by decide
    have told : (extra place').text =
      "expected no more arguments, but received extra arguments starting at argument " ++ toString place' := rfl
    simp only [text_mismatch, told, ← opening, ← expected, String.append_assoc] at same
    exact absurd same first_letter

/-- A message names one place, and shows whether there are too few arguments. -/
theorem Refusal.reads {first second : Refusal} (same : first.text = second.text) :
    first.place = second.place ∧ (first.IsShortage ↔ second.IsShortage) := by
  cases first with
  | mismatch place complaint =>
    obtain ⟨complaint', rfl⟩ := mismatch_inj same
    exact ⟨rfl, Iff.rfl⟩
  | missing parameter place count =>
    cases second with
    | missing => exact ⟨missing_inj same, Iff.rfl⟩
    | mismatch => exact nomatch mismatch_inj same.symm
    | extra => exact absurd same missing_ne_extra
  | extra place =>
    cases second with
    | extra place' =>
      have read : (_ ++ toString place).toList = (_ ++ toString place').toList := congrArg String.toList same
      rw [String.toList_append, String.toList_append] at read
      exact ⟨toString_inj (List.append_cancel_left read), Iff.rfl⟩
    | missing => exact absurd same.symm missing_ne_extra
    | mismatch => exact nomatch mismatch_inj same.symm

/-! ### The arguments that are looked at -/

variable {runner : Runner} {site : Site} {count start : Nat} {signature done rest : List Argument}
  {parameter : Parameter} {values consumed left left' : List Raw} {before between after : Scene} {refusal : Refusal}

/-- A run is ended by the next argument alone. -/
theorem Stops.relist (stops : Stops runner site parameter left before after) (same : left.head? = left'.head?) :
    Stops runner site parameter left' before after := by
  cases stops with
  | atEnd =>
    obtain rfl := List.head?_eq_none_iff.mp same.symm
    exact .atEnd before
  | ahead refused =>
    obtain ⟨later, rfl⟩ := List.head?_eq_some_iff.mp same.symm
    exact .ahead refused

/-- The blocks are the same when the arguments after them go on in another way behind the first. -/
theorem Blocks.relist (blocks : Blocks runner site done consumed left before after) (same : left.head? = left'.head?) :
    Blocks runner site done consumed left' before after := by
  induction blocks with
  | none => exact .none left' _
  | fixed matched _ ih => exact .fixed matched (ih same)
  | variadic matched stops _ ih =>
    refine .variadic matched (stops.relist ?_) (ih same)
    rw [List.head?_append, List.head?_append, same]

/-- A walk that halts at an argument has passed some and not looked at those behind it, nor counted. -/
theorem Halts.reach (halts : Halts runner site count start rest left before refusal after) (enough : ¬ refusal.IsShortage) :
    ∃ passed value later, left = passed ++ value :: later ∧ refusal.place = start + passed.length ∧
      ∀ count' later', Halts runner site count' start rest (passed ++ value :: later') before refusal after := by
  cases halts with
  | missing => exact absurd trivial enough
  | fixed refused => exact ⟨[], _, _, rfl, rfl, fun _ _ => .fixed refused⟩
  | variadic matched refused => exact ⟨_, _, _, rfl, rfl, fun _ _ => .variadic matched refused⟩
  | extra value later => exact ⟨[], value, later, rfl, rfl, fun _ later' => .extra value later' _⟩

theorem Stuck.shortage (stuck : Stuck runner site count start signature values before refusal after)
    (few : refusal.IsShortage) : refusal.place = start + values.length := by
  obtain ⟨done, rest, consumed, left, between, rfl, rfl, -, halts, -⟩ := stuck
  cases halts with
  | missing => rw [List.append_nil, Refusal.place]
  | fixed | variadic | extra => exact absurd few nofun

/-- A walk that is stuck at an argument is stuck there with all arguments that agree up to it. -/
theorem Stuck.relist (stuck : Stuck runner site count start signature values before refusal after)
    (enough : ¬ refusal.IsShortage) :
    ∃ seen, refusal.place = start + seen ∧ seen < values.length ∧
      ∀ others, others.take (seen + 1) = values.take (seen + 1) →
        ∀ count', Stuck runner site count' start signature others before refusal after := by
  obtain ⟨done, rest, consumed, left, between, rfl, rfl, blocks, halts, last⟩ := stuck
  obtain ⟨passed, value, later, rfl, place, halted⟩ := halts.reach enough
  refine ⟨consumed.length + passed.length, by omega, by simp +arith, fun others agree count' => ?_⟩
  have prefixed : (consumed ++ (passed ++ value :: later)).take (consumed.length + passed.length + 1) =
      consumed ++ (passed ++ [value]) := by
    rw [Nat.add_assoc, List.take_length_add_append, List.take_length_add_append]
    rfl
  obtain ⟨later', rfl⟩ : ∃ later', others = consumed ++ (passed ++ value :: later') := by
    refine ⟨others.drop (consumed.length + passed.length + 1), ?_⟩
    calc others
        = others.take (consumed.length + passed.length + 1) ++ others.drop (consumed.length + passed.length + 1) :=
          (List.take_append_drop ..).symm
      _ = _ := by rw [agree, prefixed, List.append_assoc, List.append_assoc, List.singleton_append]
  refine ⟨done, rest, consumed, passed ++ value :: later', between, rfl, rfl, blocks.relist ?_, halted count' later', last⟩
  cases passed <;> rfl

end Check

/-- What a refusal says depends on the arguments up to the place that it names. A refusal because there are
too few names the place after the last argument; every other one names the place of an argument, and stands
for all arguments that agree up to there. -/
theorem refusals_look_no_further (runner : Runner) (site : Site) (signature : List Argument) (values : List Raw)
    (before after : Scene) (message : String)
    (ran : exec runner (Check.arguments values signature) site before = some (.error message, after)) :
    (∃ refusal : Check.Refusal, refusal.text = message) ∧
      ∀ refusal : Check.Refusal, refusal.text = message →
        (refusal.IsShortage → refusal.place = values.length + 1) ∧
        (¬ refusal.IsShortage → 1 ≤ refusal.place ∧ refusal.place ≤ values.length ∧
          ∀ others : List Raw, others.take refusal.place = values.take refusal.place →
            exec runner (Check.arguments others signature) site before = some (.error message, after)) := by
  rcases Check.exec_fromPlace_cases ran with ⟨impossible, -⟩ | ⟨found, told, stuck⟩
  · cases impossible
  obtain rfl := Except.error.inj told
  refine ⟨⟨found, rfl⟩, fun refusal same => ?_⟩
  obtain ⟨place, few⟩ := Check.Refusal.reads same
  rw [place, few]
  refine ⟨fun short => ?_, fun enough => ?_⟩
  · rw [stuck.shortage short, Nat.add_comm]
  · obtain ⟨seen, reached, inside, relisted⟩ := stuck.relist enough
    rw [reached, Nat.add_comm 1 seen]
    refine ⟨Nat.succ_pos seen, inside, fun others agree => ?_⟩
    exact Check.exec_fromPlace_stuck (relisted others agree others.length)

/-- A variadic parameter goes on to the second argument, and the one after it is told that this does not match:
there might as well be no third argument. -/
theorem refusals_look_no_further_inner :
    let scene : Scene := ⟨⟨0⟩, .initial, .initial .blank, []⟩
    let signature : List Argument := [.variadic (.ofKind .number), .fixed (.ofKind .string)]
    exec (fun _ _ => none) (Check.arguments [.integer 5, .boolean true, .nil] signature) .host scene =
        some (.error "at argument 2: expected string, but got boolean", scene) ∧
      exec (fun _ _ => none) (Check.arguments [.integer 5, .boolean true] signature) .host scene =
        some (.error "at argument 2: expected string, but got boolean", scene) := by
  intro scene signature
  have ran : exec (fun _ _ => none) (Check.arguments [.integer 5, .boolean true, .nil] signature) .host scene =
      some (.error "at argument 2: expected string, but got boolean", scene) := rfl
  have stands := ((refusals_look_no_further _ _ _ _ _ _ _ ran).2
    (.mismatch 2 "expected string, but got boolean") (by decide)).2 id
  exact ⟨ran, stands.2.2 [.integer 5, .boolean true] rfl⟩

end TileScript.Bridge
