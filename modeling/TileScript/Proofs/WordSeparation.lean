import TileScript.Proofs.QuotedWords

/-! White space between words. Outside quotes it ends a word and leaves nothing behind: the texts on its two sides
are split on their own, and it makes no word itself. -/

namespace TileScript.Words

/-- The quote that is open after a text. -/
def quoteAfter : Option Char → List Char → Option Char
  | quote, [] => quote
  | none, c :: rest => quoteAfter (if c == '"' || c == '\'' then some c else none) rest
  | some quote, c :: rest =>
    if c == quote then quoteAfter none rest
    else if c == '\\' then
      match rest with
      | [] => some quote
      | _ :: rest => quoteAfter (some quote) rest
    else quoteAfter (some quote) rest

theorem quoteAfter_close {quote c : Char} (same : (c == quote) = true) (rest : List Char) :
    quoteAfter (some quote) (c :: rest) = quoteAfter none rest := by
  rw [quoteAfter.eq_def]
  simp [same]

theorem quoteAfter_inside {quote c : Char} (other : ¬ (c == quote) = true) (plain : ¬ (c == '\\') = true)
    (rest : List Char) : quoteAfter (some quote) (c :: rest) = quoteAfter (some quote) rest := by
  rw [quoteAfter.eq_def]
  simp [other, plain]

/-- Every quote in a text is closed in it. -/
def IsClosed (text : String) : Prop := quoteAfter none text.toList = none

instance (text : String) : Decidable (IsClosed text) := inferInstanceAs (Decidable (quoteAfter none text.toList = none))

/-! ### From one scan to another -/

/-- A text takes a scan to another one and finishes some words, whatever comes after it. -/
def Scan.Leads (scan : Scan) (text : List Char) (words : List String) (last : Scan) : Prop :=
  ∀ rest, splitFrom scan (text ++ rest) = words ++ splitFrom last rest

variable {scan between last : Scan} {text text' : List Char} {words words' : List String} {c quote : Char}

namespace Scan

theorem Leads.refl (scan : Scan) : scan.Leads [] [] scan := fun _ => rfl

theorem Leads.trans (first : scan.Leads text words between) (second : between.Leads text' words' last) :
    scan.Leads (text ++ text') (words ++ words') last := by
  intro rest
  rw [List.append_assoc, first, second, List.append_assoc]

theorem Leads.splitFrom_eq (leads : scan.Leads text words last) : splitFrom scan text = words ++ last.finish := by
  have alone := leads []
  rwa [List.append_nil, splitFrom] at alone

theorem leads_open (outside : scan.quote = none) (mark : (c == '"' || c == '\'') = true) :
    scan.Leads [c] [] ⟨scan.word, some c, true⟩ := by
  intro rest
  rw [List.singleton_append, splitFrom.eq_def]
  simp [outside, mark]

theorem leads_blank (outside : scan.quote = none) (blank : isBlank c = true) : scan.Leads [c] scan.finish .start :=
  fun _ => splitFrom_blank blank outside

theorem leads_plain (outside : scan.quote = none) (plain : ¬ (c == '"' || c == '\'') = true) (visible : ¬ isBlank c = true) :
    scan.Leads [c] [] (scan.push c) := by
  intro rest
  rw [List.singleton_append, splitFrom.eq_def]
  simp [outside, plain, visible]

theorem leads_close (inside : scan.quote = some quote) (same : (c == quote) = true) :
    scan.Leads [c] [] { scan with quote := none } := by
  intro rest
  rw [List.singleton_append, splitFrom.eq_def]
  simp [inside, same]

theorem leads_escape (inside : scan.quote = some quote) (other : ¬ (c == quote) = true) (backslash : (c == '\\') = true)
    (escaped : Char) : scan.Leads [c, escaped] [] (scan.push escaped) := by
  intro rest
  rw [List.cons_append, List.singleton_append, splitFrom.eq_def]
  simp [inside, other, backslash]

theorem leads_inside (inside : scan.quote = some quote) (other : ¬ (c == quote) = true) (plain : ¬ (c == '\\') = true) :
    scan.Leads [c] [] (scan.push c) := by
  intro rest
  rw [List.singleton_append, splitFrom.eq_def]
  simp [inside, other, plain]

/-- A text that leaves no quote open comes to a scan outside quotes. -/
theorem exists_leads (closed : quoteAfter scan.quote text = none) :
    ∃ words last, last.quote = none ∧ scan.Leads text words last := by
  fun_induction splitFrom scan text with
  | case1 scan => exact ⟨[], scan, closed, .refl scan⟩
  | case2 scan c text outside mark ih =>
    rw [outside, quoteAfter, if_pos mark] at closed
    obtain ⟨words, last, closing, onward⟩ := ih closed
    exact ⟨words, last, closing, (leads_open outside mark).trans onward⟩
  | case3 scan c text outside plain blank ih =>
    rw [outside, quoteAfter, if_neg plain] at closed
    obtain ⟨words, last, closing, onward⟩ := ih closed
    exact ⟨scan.finish ++ words, last, closing, (leads_blank outside blank).trans onward⟩
  | case4 scan c text outside plain visible ih =>
    rw [outside, quoteAfter, if_neg plain] at closed
    obtain ⟨words, last, closing, onward⟩ := ih (outside ▸ closed)
    exact ⟨words, last, closing, (leads_plain outside plain visible).trans onward⟩
  | case5 scan c text quote inside same ih =>
    rw [inside, quoteAfter_close same] at closed
    obtain ⟨words, last, closing, onward⟩ := ih closed
    exact ⟨words, last, closing, (leads_close inside same).trans onward⟩
  | case6 scan c quote inside other backslash =>
    rw [inside, quoteAfter, if_neg other, if_pos backslash] at closed
    cases closed
  | case7 scan c quote inside other backslash escaped text ih =>
    rw [inside, quoteAfter, if_neg other, if_pos backslash] at closed
    obtain ⟨words, last, closing, onward⟩ := ih (inside ▸ closed)
    exact ⟨words, last, closing, (leads_escape inside other backslash escaped).trans onward⟩
  | case8 scan c text quote inside other plain ih =>
    rw [inside, quoteAfter_inside other plain] at closed
    obtain ⟨words, last, closing, onward⟩ := ih (inside ▸ closed)
    exact ⟨words, last, closing, (leads_inside inside other plain).trans onward⟩

theorem not_empty_mem_finish (unquoted : scan.wasQuoted = false) : "" ∉ scan.finish := by
  cases word : scan.word with
  | nil => simp [finish, word, unquoted]
  | cons c rest => simp [finish, word]

/-- No word is empty where none is quoted. -/
theorem not_empty_mem (outside : scan.quote = none) (unquoted : scan.wasQuoted = false)
    (plain : ∀ c ∈ text, c ≠ '"' ∧ c ≠ '\'') : "" ∉ splitFrom scan text := by
  induction text generalizing scan with
  | nil => exact not_empty_mem_finish unquoted
  | cons c text ih =>
    obtain ⟨here, others⟩ := List.forall_mem_cons.mp plain
    have noMark : ¬ (c == '"' || c == '\'') = true := by simpa using here
    by_cases blank : isBlank c = true
    · rw [splitFrom_blank blank outside, List.mem_append]
      exact not_or.mpr ⟨not_empty_mem_finish unquoted, ih rfl rfl others⟩
    · have onward : splitFrom scan (c :: text) = splitFrom (scan.push c) text := leads_plain outside noMark blank text
      rw [onward]
      exact ih outside unquoted others

end Scan

/-! ### Texts with white space between them -/

variable {a b gap : String} {w : Char}

theorem split_blank (closed : IsClosed a) (blank : isBlank w = true) (b : String) :
    split (a ++ String.singleton w ++ b) = split a ++ split b := by
  obtain ⟨words, last, outside, leads⟩ := @Scan.exists_leads .start a.toList closed
  have separated := (leads.trans (Scan.leads_blank outside blank)) b.toList
  have alone : split a = words ++ last.finish := leads.splitFrom_eq
  rw [alone, split, String.toList_append, String.toList_append, String.toList_singleton]
  exact separated

theorem split_leading (blank : ∀ c ∈ gap.toList, isBlank c = true) (text : String) : split (gap ++ text) = split text := by
  rw [split, String.toList_append]
  exact splitFrom_blanks blank text.toList

/-- White space comes to the same however long it is. -/
theorem split_gap (closed : IsClosed a) (apart : gap ≠ "") (blank : ∀ c ∈ gap.toList, isBlank c = true) (b : String) :
    split (a ++ gap ++ b) = split a ++ split b := by
  obtain ⟨w, more, parts⟩ := List.exists_cons_of_ne_nil fun none => apart (String.toList_eq_nil_iff.mp none)
  rw [parts, List.forall_mem_cons] at blank
  have gap_ : gap = String.singleton w ++ String.ofList more := String.toList_inj.mp (by simp [parts])
  rw [gap_, ← String.append_assoc, String.append_assoc, split_blank closed blank.1, split_leading]
  rw [String.toList_ofList]
  exact blank.2

theorem split_trailing (closed : IsClosed a) (blank : ∀ c ∈ gap.toList, isBlank c = true) : split (a ++ gap) = split a := by
  by_cases apart : gap = ""
  · rw [apart, String.append_empty]
  · have split_ := split_gap closed apart blank ""
    rwa [String.append_empty, show split "" = [] from rfl, List.append_nil] at split_

/-- White space outside quotes separates words and does nothing else. What stands on its two sides is split as if each
stood alone; more of it, in front of a text, behind it or between two, makes no difference; and an empty word comes
of quotes only. -/
theorem split_compositional :
    (∀ (a b : String) (w : Char), IsClosed a → isBlank w = true →
      split (a ++ String.singleton w ++ b) = split a ++ split b) ∧
    (∀ gap : String, (∀ c ∈ gap.toList, isBlank c = true) →
      (∀ text, split (gap ++ text) = split text) ∧
      (∀ text, IsClosed text → split (text ++ gap) = split text) ∧
      (gap ≠ "" → ∀ (a b : String) (w : Char), IsClosed a → isBlank w = true →
        split (a ++ gap ++ b) = split (a ++ String.singleton w ++ b))) ∧
    ∀ text : String, '"' ∉ text.toList → '\'' ∉ text.toList → "" ∉ split text := by
  refine ⟨fun a b w closed blank => split_blank closed blank b, fun gap blank => ⟨split_leading blank, ?_, ?_⟩, ?_⟩
  · exact fun text closed => split_trailing closed blank
  · intro apart a b w closed one
    rw [split_gap closed apart blank, split_blank closed one]
  · intro text double single
    refine Scan.not_empty_mem rfl rfl fun c member => ⟨?_, ?_⟩
    · rintro rfl
      exact double member
    · rintro rfl
      exact single member

/-- A text may end in an empty word, and any white space end it. -/
theorem split_compositional_empty :
    split ("rename ''" ++ String.singleton '\u3000' ++ "'My App' now") = ["rename", "", "My App", "now"] := by
  have closed : IsClosed "rename ''" := by decide +kernel
  have blank : isBlank '\u3000' = true := by decide +kernel
  have sides : split "rename ''" ++ split "'My App' now" = ["rename", "", "My App", "now"] := by decide +kernel
  exact (split_compositional.1 _ _ _ closed blank).trans sides

end TileScript.Words
