/-
The text of the metrics can be read back.

A line of the text is a comment, which begins with a hash, or a sample: a name,
labels with their values in quotes, and a number.  `readSamples` takes such a text
apart and undoes the escapes in the values.

* `readSamples_text` — what is read from the text of a matrix are its counters,
  in their order, whatever characters their labels are made of.
-/
import ExecutionLink.Metrics.Registry
import ExecutionLink.Proofs.Text.Natural
import Mathlib.Algebra.GroupWithZero.Nat

namespace ExecutionLink.Exposition

/-! ### Reading -/

/-- A sample as it stands in the text. -/
structure Reading where
  name : String
  labels : List (String × String)
  value : UInt64
  deriving DecidableEq

/-- The value of a label. -/
def Reading.label? (r : Reading) (name : String) : Option String := r.labels.lookup name

/-- The character that an escape stands for. -/
def unescape? : Char → Option Char
  | '\\' => some '\\'
  | 'n' => some '\n'
  | '"' => some '"'
  | _ => none

/-- A value up to the quote that closes it, and what follows. -/
def readQuoted : List Char → Option (List Char × List Char)
  | [] => none
  | '"' :: cs => some ([], cs)
  | ['\\'] => none
  | '\\' :: c :: cs =>
    (unescape? c).bind fun d => (readQuoted cs).map fun (value, rest) => (d :: value, rest)
  | c :: cs => (readQuoted cs).map fun (value, rest) => (c :: value, rest)

theorem length_readQuoted {cs value rest : List Char} (h : readQuoted cs = some (value, rest)) :
    rest.length < cs.length := by
  induction cs using readQuoted.induct generalizing value with
  | case1 => cases h
  | case2 cs =>
    cases h
    exact Nat.lt_succ_self _
  | case3 => cases h
  | case4 c cs ih =>
    rw [readQuoted, Option.bind_eq_some_iff] at h
    obtain ⟨d, -, hmap⟩ := h
    obtain ⟨⟨value', rest'⟩, hread, heq⟩ := Option.map_eq_some_iff.mp hmap
    cases heq
    exact Nat.lt_succ_of_lt (Nat.lt_succ_of_lt (ih hread))
  | case5 c cs hquote hlast hescape ih =>
    rw [readQuoted.eq_5 c cs hquote hlast hescape] at h
    obtain ⟨⟨value', rest'⟩, hread, heq⟩ := Option.map_eq_some_iff.mp h
    cases heq
    exact Nat.lt_succ_of_lt (ih hread)

/-- A label with its value in quotes, and what follows. -/
def readLabel (cs : List Char) : Option ((String × String) × List Char) :=
  match cs.dropWhile (· ≠ '=') with
  | '=' :: '"' :: quoted => (readQuoted quoted).map fun (value, rest) =>
    ((String.ofList (cs.takeWhile (· ≠ '=')), String.ofList value), rest)
  | _ => none

theorem length_readLabel {cs rest : List Char} {label : String × String}
    (h : readLabel cs = some (label, rest)) : rest.length < cs.length := by
  have hdrop := (List.dropWhile_suffix (l := cs) (· ≠ '=')).length_le
  unfold readLabel at h
  split at h
  next quoted hcs =>
    obtain ⟨⟨value, rest'⟩, hread, heq⟩ := Option.map_eq_some_iff.mp h
    cases heq
    have hquoted := length_readQuoted hread
    rw [hcs, List.length_cons, List.length_cons] at hdrop
    omega
  next => cases h

/-- Labels up to the brace that closes them, and what follows. -/
def readLabels (cs : List Char) : Option (List (String × String) × List Char) :=
  match _hlabel : readLabel cs with
  | some (label, ',' :: rest) => (readLabels rest).map fun (labels, rest) => (label :: labels, rest)
  | some (label, '\x7d' :: rest) => some ([label], rest)
  | _ => none
termination_by cs.length
decreasing_by exact Nat.lt_of_succ_lt (length_readLabel _hlabel)

/-- The sample on a line. -/
def readSample (line : List Char) : Option Reading :=
  match line.dropWhile (· ≠ '\x7b') with
  | '\x7b' :: rest =>
    match readLabels rest with
    | some (labels, ' ' :: digits) =>
      (Text.Natural.read (String.ofList digits)).toOption.map fun value =>
        ⟨String.ofList (line.takeWhile (· ≠ '\x7b')), labels, value⟩
    | _ => none
  | _ => none

/-- Whether there is a sample on a line; the others are empty or comments. -/
def isSample : List Char → Bool
  | [] => false
  | c :: _ => c ≠ '#'

/-- The samples in a text. -/
def readSamples (text : String) : Option (List Reading) :=
  ((text.toList.splitOn '\n').filter isSample).mapM readSample

/-- The samples of a name with a method and an outcome, added up over everything else
that tells them apart. -/
def total (readings : List Reading) (name method outcome : String) : Nat :=
  ((readings.filter fun r => r.name = name ∧ r.label? "method" = some method ∧
    r.label? "outcome" = some outcome).map (·.value.toNat)).sum

/-! ### Quoted values -/

theorem newline_notMem_escape (quoted : Bool) (cs : List Char) :
    '\n' ∉ cs.flatMap (escape quoted) := by
  intro hmem
  obtain ⟨c, -, hc⟩ := List.mem_flatMap.mp hmem
  unfold escape at hc
  split at hc
  · simp at hc
  · split at hc
    · simp at hc
    next hnewline =>
      split at hc
      · simp at hc
      · exact hnewline (List.mem_singleton.mp hc).symm

theorem readQuoted_escape_append (c : Char) (cs : List Char) :
    readQuoted (escape true c ++ cs) =
      (readQuoted cs).map fun (value, rest) => (c :: value, rest) := by
  unfold escape
  by_cases hbackslash : c = '\\'
  · subst hbackslash
    rfl
  by_cases hnewline : c = '\n'
  · subst hnewline
    rfl
  by_cases hquote : c = '"'
  · subst hquote
    rfl
  · rw [if_neg hbackslash, if_neg hnewline, if_neg (by simpa using hquote)]
    exact readQuoted.eq_5 c cs hquote (fun h => absurd h hbackslash)
      (fun _ _ h => absurd h hbackslash)

/-- What stands in quotes is read back, and reading stops at the closing quote. -/
theorem readQuoted_escape (cs rest : List Char) :
    readQuoted (cs.flatMap (escape true) ++ '"' :: rest) = some (cs, rest) := by
  induction cs with
  | nil => rfl
  | cons c cs ih =>
    rw [List.flatMap_cons, List.append_assoc, readQuoted_escape_append, ih]
    rfl

/-! ### Labels -/

theorem toList_labelText (name value : String) :
    (labelText name value).toList =
      name.toList ++ '=' :: '"' :: (value.toList.flatMap (escape true) ++ ['"']) := by
  simp [labelText]

/-- Up to the first character that is no part of it, a text is cut in two. -/
theorem takeWhile_ne_append {c : Char} {cs : List Char} (h : c ∉ cs) (rest : List Char) :
    (cs ++ c :: rest).takeWhile (· ≠ c) = cs ∧ (cs ++ c :: rest).dropWhile (· ≠ c) = c :: rest := by
  have hne : ∀ a ∈ cs, decide (a ≠ c) = true := fun a ha => decide_eq_true fun heq => h (heq ▸ ha)
  rw [List.takeWhile_append_of_pos hne, List.dropWhile_append_of_pos hne]
  simp

theorem readLabel_labelText {name : String} (hname : '=' ∉ name.toList) (value : String)
    (rest : List Char) :
    readLabel ((labelText name value).toList ++ rest) = some ((name, value), rest) := by
  obtain ⟨htake, hdrop⟩ := takeWhile_ne_append hname
    ('"' :: (value.toList.flatMap (escape true) ++ '"' :: rest))
  have htext : (labelText name value).toList ++ rest =
      name.toList ++ '=' :: '"' :: (value.toList.flatMap (escape true) ++ '"' :: rest) := by
    simp [toList_labelText]
  rw [readLabel, htext, htake, hdrop]
  show (readQuoted (value.toList.flatMap (escape true) ++ '"' :: rest)).map _ = _
  rw [readQuoted_escape]
  simp only [Option.map_some, String.ofList_toList]

theorem readLabels_labelTexts {ls : List (String × String)} (hne : ls ≠ [])
    (hnames : ∀ l ∈ ls, '=' ∉ l.1.toList) (rest : List Char) :
    readLabels ([','].intercalate (ls.map fun l => (labelText l.1 l.2).toList) ++ '\x7d' :: rest) =
      some (ls, rest) := by
  induction ls with
  | nil => exact absurd rfl hne
  | cons l ls ih =>
    obtain ⟨hname, hrest⟩ := List.forall_mem_cons.mp hnames
    cases ls with
    | nil =>
      rw [List.map_cons, List.map_nil, List.intercalate_singleton, readLabels,
        readLabel_labelText hname]
      rfl
    | cons l' ls =>
      have hread := ih (List.cons_ne_nil l' ls) hrest
      rw [List.map_cons, List.map_cons, List.intercalate_cons_cons, List.append_assoc,
        List.append_assoc, readLabels, readLabel_labelText hname]
      show (readLabels ([','].intercalate _ ++ '\x7d' :: rest)).map _ = _
      rw [← List.map_cons (f := fun l : String × String => (labelText l.1 l.2).toList), hread]
      rfl

/-! ### Lines -/

theorem notMem_of_isMetricName {name : String} (h : isMetricName name) {c : Char}
    (hc : (isMetricNameStart c || c.isDigit) = false) : c ∉ name.toList := by
  intro hmem
  unfold isMetricName at h
  split at h
  next => cases h
  next first cs hname =>
    obtain ⟨hfirst, hcs⟩ := Bool.and_eq_true_iff.mp h
    rw [hname] at hmem
    rcases List.mem_cons.mp hmem with rfl | hmem
    · rw [hfirst] at hc
      cases hc
    · rw [List.all_eq_true.mp hcs c hmem] at hc
      cases hc

/-- The labels of a counter by their names. -/
def labelsByName (l : Labels) : List (String × String) :=
  [("interval", l.interval), ("method", l.method), ("outcome", l.outcome)]

/-- What is to be read from the line of a counter. -/
def readingOf (name : String) (counter : Labels × UInt64) : Reading :=
  ⟨name, labelsByName counter.1, counter.2⟩

theorem toList_sampleLine (name : String) (l : Labels) (v : UInt64) :
    (sampleLine name l v).toList = name.toList ++ '\x7b' ::
      ([','].intercalate ((labelsByName l).map fun l => (labelText l.1 l.2).toList) ++
        '\x7d' :: ' ' :: (Text.Natural.render v).toList) := by
  unfold sampleLine labelsByName
  simp

theorem readSample_sampleLine {name : String} (hname : isMetricName name) (l : Labels)
    (v : UInt64) : readSample (sampleLine name l v).toList = some (readingOf name (l, v)) := by
  have hbrace : '\x7b' ∉ name.toList := notMem_of_isMetricName hname (by decide)
  have hne : labelsByName l ≠ [] := List.cons_ne_nil _ _
  have hlabels : ∀ p ∈ labelsByName l, '=' ∉ p.1.toList := by
    simp [labelsByName]
  obtain ⟨htake, hdrop⟩ := takeWhile_ne_append hbrace
    ([','].intercalate ((labelsByName l).map fun l => (labelText l.1 l.2).toList) ++
      '\x7d' :: ' ' :: (Text.Natural.render v).toList)
  rw [readSample, toList_sampleLine, htake, hdrop]
  show (match readLabels _ with | some (labels, ' ' :: digits) => _ | _ => none) = _
  rw [readLabels_labelTexts hne hlabels]
  show (Text.Natural.read (String.ofList (Text.Natural.render v).toList)).toOption.map _ = _
  rw [String.ofList_toList, String.ofList_toList, Text.Natural.read_render]
  rfl

theorem newline_notMem_labelText {name : String} (hname : '\n' ∉ name.toList) (value : String) :
    '\n' ∉ (labelText name value).toList := by
  have hvalue := newline_notMem_escape true value.toList
  rw [toList_labelText]
  simp [hname, hvalue]

theorem newline_notMem_sampleLine {name : String} (hname : isMetricName name) (l : Labels)
    (v : UInt64) : '\n' ∉ (sampleLine name l v).toList := by
  have hname : '\n' ∉ name.toList := notMem_of_isMetricName hname (by decide)
  have hlabel (name value : String) (h : '\n' ∉ name.toList) := newline_notMem_labelText h value
  have hinterval := hlabel "interval" l.interval (by decide)
  have hmethod := hlabel "method" l.method (by decide)
  have houtcome := hlabel "outcome" l.outcome (by decide)
  have hvalue : '\n' ∉ (Text.Natural.render v).toList := Text.Natural.notMem_render (by decide) v
  rw [toList_sampleLine]
  simp [labelsByName, hname, hinterval, hmethod, houtcome, hvalue]

/-! ### Texts -/

theorem splitOn_lines {lines : List (List Char)} (h : ∀ line ∈ lines, '\n' ∉ line) :
    (lines.flatMap (· ++ ['\n'])).splitOn '\n' = lines ++ [[]] := by
  induction lines with
  | nil => rfl
  | cons line lines ih =>
    obtain ⟨hline, hlines⟩ := List.forall_mem_cons.mp h
    have hne : ∀ c ∈ line, (c == '\n') = false := fun c hc =>
      beq_eq_false_iff_ne.mpr fun heq => hline (heq ▸ hc)
    rw [List.flatMap_cons, List.append_assoc, List.singleton_append, List.splitOn,
      List.splitOnP_append_cons_of_forall_mem hne '\n' (beq_self_eq_true _), ← List.splitOn,
      ih hlines]
    rfl

theorem readSamples_join {lines : List String} (h : ∀ line ∈ lines, '\n' ∉ line.toList) :
    readSamples (String.join (lines.map (· ++ "\n"))) =
      ((lines.map String.toList).filter isSample).mapM readSample := by
  have htext : (String.join (lines.map (· ++ "\n"))).toList =
      (lines.map String.toList).flatMap (· ++ ['\n']) := by
    simp [String.toList_join, List.flatMap_map]
  rw [readSamples, htext, splitOn_lines (List.forall_mem_map.mpr h), List.filter_append]
  show (_ ++ []).mapM readSample = _
  rw [List.append_nil]

theorem isSample_sampleLine {name : String} (hname : isMetricName name) (l : Labels)
    (v : UInt64) : isSample (sampleLine name l v).toList := by
  rw [toList_sampleLine]
  have hhash : '#' ∉ name.toList := notMem_of_isMetricName hname (by decide)
  cases hchars : name.toList with
  | nil => rfl
  | cons c cs =>
    rw [hchars] at hhash
    exact decide_eq_true fun heq => hhash (heq ▸ List.mem_cons_self)

theorem newline_notMem_lines {m : CounterMatrix} (hname : isMetricName m.name) :
    ∀ line ∈ lines m, '\n' ∉ line.toList := by
  have hname' : '\n' ∉ m.name.toList := notMem_of_isMetricName hname (by decide)
  have hhelp : '\n' ∉ (helpText m.help).toList := by
    rw [helpText, String.toList_ofList]
    exact newline_notMem_escape false m.help.toList
  unfold lines
  split
  · exact List.forall_mem_nil _
  · rw [List.forall_mem_cons, List.forall_mem_cons, List.forall_mem_map]
    refine ⟨?_, ?_, fun counter _ => newline_notMem_sampleLine hname counter.1 counter.2⟩
    · simp [toString, hname', hhelp]
    · simp [toString, hname']

theorem filter_isSample_lines {m : CounterMatrix} (hname : isMetricName m.name) :
    ((lines m).map String.toList).filter isSample =
      m.family.counters.entries.map fun e => (sampleLine m.name e.1 e.2).toList := by
  unfold lines
  split
  next hnil => rw [hnil]; rfl
  next =>
    rw [List.map_cons, List.map_cons, List.filter_cons_of_neg, List.filter_cons_of_neg,
      List.map_map, List.filter_eq_self.mpr]
    · rfl
    · exact List.forall_mem_map.mpr fun e _ => isSample_sampleLine hname e.1 e.2
    · simp [isSample, toString]
    · simp [isSample, toString]

/-- What is read from the text of a matrix are its counters. -/
theorem readSamples_text {m : CounterMatrix} (hname : isMetricName m.name) :
    readSamples (text m) = some (m.family.counters.entries.map (readingOf m.name)) := by
  rw [text, readSamples_join (newline_notMem_lines hname), filter_isSample_lines hname,
    List.mapM_map]
  have hread : (readSample ∘ fun e : Labels × UInt64 => (sampleLine m.name e.1 e.2).toList) =
      fun e => pure (readingOf m.name e) := by
    funext e
    exact readSample_sampleLine hname e.1 e.2
  rw [hread, List.mapM_pure]
  rfl

end ExecutionLink.Exposition
