import FreerdpPrebuilt.Lib.Text

/-!
# Lines of a key and a value

A simple record of facts: one line for each, a key without a blank, a blank, and the
value to the end of the line.  A value may be a list of words with a blank between
any two.

* `lines_text` — the lines of such a text are the lines it was written with.
* `findSome?_stripPrefix` — looking for a key finds the value of the first entry with
  just that key, and never one whose key only begins so.
* `splitWhitespace_unwords`, `trim_unwords` — words are read back as they were
  written.
-/

namespace KeyedLines

open Text

/-- A key with its value. -/
abbrev Entry := List Char × List Char

/-- The line of an entry. -/
def line (e : Entry) : List Char := e.1 ++ ' ' :: e.2

/-- A text with a line for each entry. -/
def text (entries : List Entry) : List Char := entries.flatMap fun e => line e ++ ['\n']

/-- Text that stands on one line. -/
def OneLine (l : List Char) : Prop := '\n' ∉ l ∧ l.getLast? ≠ some '\r'

instance (l : List Char) : Decidable (OneLine l) := inferInstanceAs (Decidable (_ ∧ _))

theorem linesFrom_append {l : List Char} (h : '\n' ∉ l) (current rest : List Char) :
    linesFrom current (l ++ '\n' :: rest) =
      dropCarriageReturn (current ++ l) :: linesFrom [] rest := by
  induction l generalizing current with
  | nil => rw [List.nil_append, linesFrom, if_pos rfl, List.append_nil]
  | cons c l ih =>
    obtain ⟨hc, hl⟩ := not_or.1 (mt List.mem_cons.2 h)
    rw [List.cons_append, linesFrom, if_neg (Ne.symm hc), ih hl, List.append_assoc]
    rfl

/-- **The lines are those that were written.** -/
theorem lines_text {entries : List Entry} (h : ∀ e ∈ entries, OneLine (line e)) :
    lines (text entries) = entries.map line := by
  induction entries with
  | nil => rfl
  | cons e entries ih =>
    obtain ⟨hfeed, hreturn⟩ := h e List.mem_cons_self
    have hrest := ih fun e' he' => h e' (List.mem_cons_of_mem _ he')
    rw [lines, text, List.flatMap_cons, List.append_assoc, List.singleton_append,
      linesFrom_append hfeed, List.nil_append, dropCarriageReturn, if_neg hreturn, List.map_cons,
      ← hrest]
    rfl

/-- **A key is a whole word.** -/
theorem stripPrefix_line {key : List Char} {e : Entry} (hkey : ' ' ∉ key) (he : ' ' ∉ e.1) :
    stripPrefix (key ++ [' ']) (line e) = if e.1 = key then some e.2 else none := by
  obtain ⟨k, v⟩ := e
  induction key generalizing k with
  | nil =>
    cases k with
    | nil => exact stripPrefix_append [' '] v
    | cons c k =>
      rw [if_neg (List.cons_ne_nil c k), Option.eq_none_iff_forall_ne_some]
      intro rest hrest
      have heq := stripPrefix_eq_some.1 hrest
      exact he ((List.cons.inj heq).1 ▸ List.mem_cons_self)
  | cons a key ih =>
    obtain ⟨ha, hkey⟩ := not_or.1 (mt List.mem_cons.2 hkey)
    cases k with
    | nil =>
      rw [if_neg (Ne.symm (List.cons_ne_nil a key)), Option.eq_none_iff_forall_ne_some]
      intro rest hrest
      exact ha (List.cons.inj (stripPrefix_eq_some.1 hrest)).1
    | cons c k =>
      have hk : ' ' ∉ k := fun hmem => he (List.mem_cons_of_mem _ hmem)
      have hrec := ih hkey k hk
      by_cases hac : a = c
      · subst hac
        have hcons : stripPrefix (a :: key ++ [' ']) (line (a :: k, v)) =
            stripPrefix (key ++ [' ']) (line (k, v)) := by
          ext rest
          rw [stripPrefix_eq_some, stripPrefix_eq_some]
          simp [line]
        rw [hcons, hrec]
        simp
      · rw [if_neg fun heq => hac (List.cons.inj heq).1.symm, Option.eq_none_iff_forall_ne_some]
        intro rest hrest
        exact hac (List.cons.inj (stripPrefix_eq_some.1 hrest)).1.symm

/-- The value of the first entry with a key. -/
def lookup (key : List Char) (entries : List Entry) : Option (List Char) :=
  (entries.find? fun e => decide (e.1 = key)).map Prod.snd

/-- **Looking for a key** in the lines is looking it up in the entries. -/
theorem findSome?_stripPrefix {key : List Char} {entries : List Entry} (hkey : ' ' ∉ key)
    (h : ∀ e ∈ entries, ' ' ∉ e.1) :
    (entries.map line).findSome? (stripPrefix (key ++ [' '])) = lookup key entries := by
  induction entries with
  | nil => rfl
  | cons e entries ih =>
    have hrest := ih fun e' he' => h e' (List.mem_cons_of_mem _ he')
    rw [List.map_cons, List.findSome?_cons, stripPrefix_line hkey (h e List.mem_cons_self), lookup]
    by_cases heq : e.1 = key
    · rw [if_pos heq, List.find?_cons_of_pos (by simpa using heq)]
      rfl
    · rw [if_neg heq, List.find?_cons_of_neg (by simpa using heq)]
      exact hrest

/-! ## Words -/

/-- A word: not empty, and without white space. -/
abbrev Word := { w : List Char // w ≠ [] ∧ ∀ c ∈ w, isWhitespace c = false }

/-- Words with a blank between any two. -/
def unwords : List (List Char) → List Char
  | [] => []
  | [w] => w
  | w :: ws => w ++ ' ' :: unwords ws

/-- **Words are read back.** -/
theorem splitWhitespace_unwords {ws : List (List Char)}
    (h : ∀ w ∈ ws, w ≠ [] ∧ ∀ c ∈ w, isWhitespace c = false) :
    splitWhitespace (unwords ws) = ws := by
  induction ws with
  | nil => decide
  | cons w ws ih =>
    obtain ⟨hne, hplain⟩ := h w List.mem_cons_self
    have hrest := ih fun w' hw' => h w' (List.mem_cons_of_mem _ hw')
    cases ws with
    | nil => rw [splitWhitespace, unwords, List.splitOnP_eq_singleton hplain]; simp [hne]
    | cons w' ws =>
      rw [splitWhitespace, unwords, List.splitOnP_append_cons_of_forall_mem hplain _ (by decide),
        List.filter_cons_of_pos (by simpa using hne)]
      · exact congrArg (w :: ·) hrest
      · simp

theorem trim_eq_self {l : List Char} (hhead : ∀ c, l.head? = some c → isWhitespace c = false)
    (hlast : ∀ c, l.getLast? = some c → isWhitespace c = false) : trim l = l := by
  cases l with
  | nil => rfl
  | cons c l =>
    have hdrop : (c :: l).dropWhile isWhitespace = c :: l := by
      rw [List.dropWhile_cons_of_neg]
      simp [hhead c rfl]
    rw [trim, hdrop, List.rdropWhile_eq_self_iff]
    intro hne
    have hlast' := hlast _ (List.getLast?_eq_some_getLast hne)
    simp [hlast']

theorem unwords_ne_nil {w : List Char} {ws : List (List Char)} (h : w ≠ []) :
    unwords (w :: ws) ≠ [] := by
  cases ws with
  | nil => exact h
  | cons w' ws => simp [unwords]

/-- Nothing of a list of words is trimmed away. -/
theorem trim_unwords {ws : List (List Char)}
    (h : ∀ w ∈ ws, w ≠ [] ∧ ∀ c ∈ w, isWhitespace c = false) : trim (unwords ws) = unwords ws := by
  refine trim_eq_self (fun c hc => ?_) fun c hc => ?_
  · cases ws with
    | nil => cases hc
    | cons w ws =>
      obtain ⟨hne, hplain⟩ := h w List.mem_cons_self
      obtain ⟨a, w, rfl⟩ := List.exists_cons_of_ne_nil hne
      have ha : (unwords ((a :: w) :: ws)).head? = some a := by cases ws <;> rfl
      rw [ha] at hc
      cases hc
      exact hplain c List.mem_cons_self
  · induction ws with
    | nil => cases hc
    | cons w ws ih =>
      cases ws with
      | nil =>
        obtain ⟨-, hplain⟩ := h w List.mem_cons_self
        exact hplain c (List.mem_of_getLast? hc)
      | cons w' ws =>
        have hw' := h w' (List.mem_cons_of_mem _ List.mem_cons_self)
        have hrest : ∀ v ∈ w' :: ws, v ≠ [] ∧ ∀ c ∈ v, isWhitespace c = false :=
          fun v hv => h v (List.mem_cons_of_mem _ hv)
        refine ih hrest ?_
        rw [unwords, List.getLast?_append_of_ne_nil _ (List.cons_ne_nil _ _),
          List.getLast?_cons_of_ne_nil (unwords_ne_nil hw'.1)] at hc
        · exact hc
        · simp

end KeyedLines
