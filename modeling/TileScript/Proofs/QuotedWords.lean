import TileScript.Proofs.KeymapCalls

/-! Commands as texts. Any words can be written as one text, each of them in quotes, and to register that text comes
to the same as to call for the command with its words. -/

namespace TileScript

namespace Words

/-- The two ways to quote a word. -/
inductive Quote where
  | double
  | single

namespace Quote

def mark : Quote → Char
  | .double => '"'
  | .single => '\''

/-- How a character is written inside quotes. -/
def escape (quote : Quote) (c : Char) : List Char := if c = '\\' ∨ c = quote.mark then ['\\', c] else [c]

def enclose (quote : Quote) (word : String) : List Char := quote.mark :: (word.toList.flatMap quote.escape ++ [quote.mark])

end Quote

/-- A text writes words, each of them in quotes of its own, with white space between them. -/
inductive Written : List String → List Char → Prop where
  | none : Written [] []
  | last (quote : Quote) (word : String) : Written [word] (quote.enclose word)
  | more (quote : Quote) (word : String) {gap text : List Char} {next : String} {rest : List String} :
    gap ≠ [] → (∀ c ∈ gap, isBlank c = true) → Written (next :: rest) text →
    Written (word :: next :: rest) (quote.enclose word ++ (gap ++ text))

variable {scan : Scan} {rest : List Char}

theorem splitFrom_escape (quote : Quote) (c : Char) (word : List Char) (wasQuoted : Bool) (rest : List Char) :
    splitFrom ⟨word, some quote.mark, wasQuoted⟩ (quote.escape c ++ rest) =
      splitFrom ⟨c :: word, some quote.mark, wasQuoted⟩ rest := by
  have mark : ('\\' == quote.mark) = false := by cases quote <;> rfl
  rw [Quote.escape]
  split
  · change splitFrom _ ('\\' :: c :: rest) = _
    rw [splitFrom.eq_def]
    simp [mark, Scan.push]
  · next plain =>
    obtain ⟨noEscape, noMark⟩ := not_or.mp plain
    change splitFrom _ (c :: rest) = _
    rw [splitFrom.eq_def]
    simp [noMark, noEscape, Scan.push]

theorem splitFrom_escapes (quote : Quote) (cs word : List Char) (wasQuoted : Bool) (rest : List Char) :
    splitFrom ⟨word, some quote.mark, wasQuoted⟩ (cs.flatMap quote.escape ++ rest) =
      splitFrom ⟨cs.reverse ++ word, some quote.mark, wasQuoted⟩ rest := by
  induction cs generalizing word with
  | nil => rfl
  | cons c cs ih => rw [List.flatMap_cons, List.append_assoc, splitFrom_escape, ih, List.reverse_cons, List.append_assoc]; rfl

/-- What is in quotes becomes part of the word, and be it empty, there is a word. -/
theorem splitFrom_enclose (quote : Quote) (word : String) (rest : List Char) :
    splitFrom .start (quote.enclose word ++ rest) = splitFrom ⟨word.toList.reverse, none, true⟩ rest := by
  have opened : ∀ text, splitFrom .start (quote.mark :: text) = splitFrom ⟨[], some quote.mark, true⟩ text := by
    intro text
    cases quote <;> rfl
  have closed : splitFrom ⟨word.toList.reverse, some quote.mark, true⟩ (quote.mark :: rest) =
      splitFrom ⟨word.toList.reverse, none, true⟩ rest := by
    rw [splitFrom.eq_def]
    simp
  rw [Quote.enclose, List.cons_append, opened, List.append_assoc, splitFrom_escapes, List.append_nil]
  exact closed

theorem splitFrom_blank {c : Char} (blank : isBlank c = true) (outside : scan.quote = none) :
    splitFrom scan (c :: rest) = scan.finish ++ splitFrom .start rest := by
  have plain : (c == '"' || c == '\'') = false := by
    rw [Bool.or_eq_false_iff]
    constructor <;>
    · rw [beq_eq_false_iff_ne]
      rintro rfl
      revert blank
      decide
  rw [splitFrom.eq_def]
  simp [outside, plain, blank]

theorem splitFrom_blanks {gap : List Char} (blank : ∀ c ∈ gap, isBlank c = true) (rest : List Char) :
    splitFrom .start (gap ++ rest) = splitFrom .start rest := by
  induction gap with
  | nil => rfl
  | cons c gap ih =>
    obtain ⟨first, others⟩ := List.forall_mem_cons.mp blank
    rw [List.cons_append, splitFrom_blank first rfl, ih others]
    rfl

theorem finish_quoted (word : String) : Scan.finish ⟨word.toList.reverse, none, true⟩ = [word] := by
  simp [Scan.finish]

theorem exists_written (words : List String) : ∃ text, Written words text := by
  induction words with
  | nil => exact ⟨[], .none⟩
  | cons word rest ih =>
    obtain ⟨text, written⟩ := ih
    cases rest with
    | nil => exact ⟨_, .last .double word⟩
    | cons next rest =>
      have blank : ∀ c ∈ [' '], isBlank c = true := List.forall_mem_singleton.mpr rfl
      exact ⟨_, .more .double word (List.cons_ne_nil ' ' []) blank written⟩

/-- A text is split into the words that it writes. -/
theorem Written.split {words : List String} {text : List Char} (written : Written words text) :
    splitFrom .start text = words := by
  induction written with
  | none => rfl
  | last quote word =>
    have whole := splitFrom_enclose quote word []
    rw [List.append_nil] at whole
    rw [whole]
    exact finish_quoted word
  | @more quote word gap text next rest apart blank _ ih =>
    obtain ⟨c, gap, rfl⟩ := List.exists_cons_of_ne_nil apart
    obtain ⟨first, others⟩ := List.forall_mem_cons.mp blank
    rw [splitFrom_enclose, List.cons_append, splitFrom_blank first rfl, finish_quoted, splitFrom_blanks others, ih]
    rfl

end Words

namespace Bridge
open Script Attempt

variable {runner : Runner} {site : Site} {scene : Scene}

/-- The manager has done what a value was taken to mean as a command, and a table tells what came of it. -/
def Scene.Obeys (before : Scene) (read : Except Host.CommandFault Command) (table : TableRef) (after : Scene) : Prop :=
  match read with
  | .ok (.host known) => after.manager = before.manager.execute known .empty ∧
      after.Reports table (before.manager.host.output known)
  | .ok (.script _) => False
  | .error fault => after.manager = before.manager ∧ after.Reports table ⟨[], [fault.message], -1⟩

theorem Scene.Shows.texts {words shown : List String}
    (shows : List.Forall₂ scene.Shows (words.map .ofString) (shown.map .string)) : shown = words := by
  rw [List.forall₂_map_left_iff, List.forall₂_map_right_iff] at shows
  have same : List.Forall₂ (· = ·) words shown := by
    refine shows.imp fun word seen one => ?_
    cases one
    exact (Utf8.decode_toUTF8 word).symm
  rw [List.forall₂_eq_eq_eq] at same
  exact same.symm

/-- Words that are called for as a command, if there are any, are read as one. -/
theorem Native.exec_command (valid : scene.interpreter.registry.Valid) (code : HostCode) {words : List String}
    (any : words ≠ []) :
    ∃ table after, ((Native.ofApi .command).call code (words.map .ofString)).exec runner site scene =
      some (.ok [.table table], after) ∧
      scene.Obeys ((.host <$> scene.manager.host.readCommand words).mapError .refused) table after := by
  obtain ⟨first, rest, rfl⟩ := List.exists_cons_of_ne_nil any
  let arguments : Arguments := (first :: rest).map .ofString
  have received : exec runner ((Native.ofApi .command).receive arguments) site scene = some (.ok (), scene) := by
    have texts : ∀ raw ∈ rest.map Raw.ofString, Check.Matches runner site (.ofKind .string) raw scene scene := by
      simp only [List.forall_mem_map]
      exact fun word _ => Check.matches_text _
    have others : Check.Blocks runner site [.variadic (.ofKind .string)] (rest.map Raw.ofString ++ []) [] scene scene :=
      .variadic (Check.run_of_matches texts) (.atEnd scene) (.none [] scene)
    rw [List.append_nil] at others
    exact Native.exec_received (.fixed (Check.matches_text _) others)
  have texts : ∀ raw ∈ arguments, kindOf raw = .ok .string := by
    simp only [arguments, List.forall_mem_map]
    exact fun word _ => rfl
  obtain ⟨shown, answer, table, after, ran, told, shows, known⟩ := ApiCall.exec_runCommand runner site valid texts
  obtain rfl := Scene.Shows.texts shows
  refine ⟨table, after, ?_, ?_⟩
  · rw [exec_call, received]
    change (exec runner (ApiCall.runCommand arguments) site scene).bind _ = _
    rw [ran]
    exact (Scene.Conveys.single told).exec_pass
  · cases read : scene.manager.host.readCommand (first :: rest) with
    | error refusal =>
      rw [read] at known
      exact known
    | ok command =>
      rw [read] at known
      exact known

/-- Any words can be written as a text. It is split into them again, and what it is taken to mean as a command is
what is done when the words are called for. -/
theorem quoted_words_express (words : List String) :
    (∃ text : String, Words.Written words text.toList) ∧
      ∀ text : String, Words.Written words text.toList → Words.split text = words ∧
        (words ≠ [] → ∀ (runner : Runner) (site : Site) (code : HostCode) (scene : Scene), scene.interpreter.registry.Valid →
          ∃ table after, ((Native.ofApi .command).call code (words.map .ofString)).exec runner site scene =
            some (.ok [.table table], after) ∧
            scene.Obeys (scene.manager.host.commandOf (.string text)) table after) := by
  constructor
  · obtain ⟨text, written⟩ := Words.exists_written words
    exact ⟨String.ofList text, String.toList_ofList ▸ written⟩
  · intro text written
    have split : Words.split text = words := written.split
    refine ⟨split, fun any runner site code scene valid => ?_⟩
    rw [Host.commandOf, split]
    exact Native.exec_command valid code any

/-- A command with an empty word is run by a new host. -/
theorem quoted_words_express_empty : ∃ text : String, Words.Written ["rename", ""] text.toList ∧
    Words.split text = ["rename", ""] ∧ ∃ table after,
      ((Native.ofApi .command).call .none [.ofString "rename", .ofString ""]).exec (fun _ _ => none) .host
        ⟨⟨1⟩, .initial, .initial .blank, []⟩ = some (.ok [.table table], after) ∧
      after.manager.host.executed = [⟨⟨["rename", ""]⟩, .empty⟩] := by
  obtain ⟨⟨text, written⟩, express⟩ := quoted_words_express ["rename", ""]
  obtain ⟨split, called⟩ := express text written
  obtain ⟨table, after, ran, obeys⟩ := called (by simp) (fun _ _ => none) .host .none
    ⟨⟨1⟩, .initial, .initial .blank, []⟩ Registry.empty_valid
  refine ⟨text, written, split, table, after, ran, ?_⟩
  rw [Host.commandOf, split] at obeys
  exact congrArg (fun manager => manager.host.executed) obeys.1

end Bridge
end TileScript
