import QuantGateway.Foundation.CharConv
import QuantGateway.Foundation.Keyed

/-!
Owns connection strings of `keyword=value` settings as libpq reads them, and when
a list of settings written down without quotes is read back.

The reader is an automaton over the letters. What it has read never weighs more
than the letters it consumed; a text that is all weight is one without quotes,
escapes and idle blanks.

Does not own the list of known keywords.
-/

namespace QuantGateway.Foundation.Conninfo

/-- A keyword and its value. -/
abbrev Setting := Text × Text

/-- Where the reader stands between two letters. -/
inductive Scan where
  | between
  | inKeyword (read : Text)
  | afterKeyword (keyword : Text)
  | beforeValue (keyword : Text)
  | inValue (keyword read : Text)
  | escaped (keyword read : Text)
  | inQuotes (keyword read : Text)
  | escapedInQuotes (keyword read : Text)
  /-- A keyword is followed by something other than an equals sign. -/
  | failed

structure Reader where
  settings : List Setting
  scan : Scan

namespace Reader

def start : Reader := ⟨[], .between⟩

/-- One letter of `conninfo_parse`. -/
def step (reader : Reader) (letter : Char) : Reader :=
  match reader.scan with
  | .between =>
      if isBlank letter then reader
      else if letter = '=' then { reader with scan := .beforeValue [] }
      else { reader with scan := .inKeyword [letter] }
  | .inKeyword read =>
      if letter = '=' then { reader with scan := .beforeValue read }
      else if isBlank letter then { reader with scan := .afterKeyword read }
      else { reader with scan := .inKeyword (read ++ [letter]) }
  | .afterKeyword keyword =>
      if isBlank letter then reader
      else if letter = '=' then { reader with scan := .beforeValue keyword }
      else { reader with scan := .failed }
  | .beforeValue keyword =>
      if isBlank letter then reader
      else if letter = '\'' then { reader with scan := .inQuotes keyword [] }
      else if letter = '\\' then { reader with scan := .escaped keyword [] }
      else { reader with scan := .inValue keyword [letter] }
  | .inValue keyword read =>
      if isBlank letter then ⟨reader.settings ++ [(keyword, read)], .between⟩
      else if letter = '\\' then { reader with scan := .escaped keyword read }
      else { reader with scan := .inValue keyword (read ++ [letter]) }
  | .escaped keyword read => { reader with scan := .inValue keyword (read ++ [letter]) }
  | .inQuotes keyword read =>
      if letter = '\\' then { reader with scan := .escapedInQuotes keyword read }
      else if letter = '\'' then ⟨reader.settings ++ [(keyword, read)], .between⟩
      else { reader with scan := .inQuotes keyword (read ++ [letter]) }
  | .escapedInQuotes keyword read => { reader with scan := .inQuotes keyword (read ++ [letter]) }
  | .failed => reader

/-- What the reader makes of the end of the text. -/
def finish (reader : Reader) : Option (List Setting) :=
  match reader.scan with
  | .between => some reader.settings
  | .beforeValue keyword => some (reader.settings ++ [(keyword, [])])
  | .inValue keyword read => some (reader.settings ++ [(keyword, read)])
  | .escaped keyword read => some (reader.settings ++ [(keyword, read)])
  | .inKeyword _ => none
  | .afterKeyword _ => none
  | .inQuotes _ _ => none
  | .escapedInQuotes _ _ => none
  | .failed => none

end Reader

/-- The settings of a connection string in the order they are made. -/
def read (text : Text) : Option (List Setting) :=
  (text.foldl Reader.step .start).finish

/-- The value of a keyword: the last setting of it counts. -/
def settingOf (settings : List Setting) (keyword : Text) : Option Text :=
  (settings.reverse.find? fun setting => setting.1 = keyword).map Prod.snd

/-- The text is read without error and makes exactly the given settings. -/
def Decodes (text : Text) (expected : List Setting) : Prop :=
  ∃ settings, read text = some settings ∧
    ∀ keyword, settingOf settings keyword = settingOf expected keyword

/-- A setting without quotes. -/
def render (setting : Setting) : Text :=
  setting.1 ++ '=' :: setting.2

/-- Settings without quotes, one space between two. -/
def renderAll (settings : List Setting) : Text :=
  [' '].intercalate (settings.map render)

/-- A value that stands for itself without quotes, if it is not empty. -/
structure Bare (value : Text) : Prop where
  noBlank : ∀ letter ∈ value, isBlank letter = false
  noEscape : '\\' ∉ value
  noQuote : value.head? ≠ some '\''

/-! ## Words -/

/-- A text cut at its blanks, from the left. -/
structure Words where
  complete : List Text
  current : Text

namespace Words

def start : Words := ⟨[], []⟩

def step (words : Words) (letter : Char) : Words :=
  if isBlank letter then ⟨words.complete ++ [words.current], []⟩
  else { words with current := words.current ++ [letter] }

def all (words : Words) : List Text :=
  words.complete ++ [words.current]

theorem foldl_of_no_blank {text : Text} (noBlank : ∀ letter ∈ text, isBlank letter = false)
    (words : Words) :
    text.foldl step words = { words with current := words.current ++ text } := by
  induction text generalizing words with
  | nil => simp
  | cons letter rest inductionHypothesis =>
      rw [List.forall_mem_cons] at noBlank
      rw [List.foldl_cons, inductionHypothesis noBlank.2]
      simp [step, noBlank.1]

end Words

/-! ## Weights -/

/-- The letters of a setting without quotes and of a blank behind it. -/
def weight (setting : Setting) : Nat :=
  setting.1.length + setting.2.length + 2

def totalWeight (settings : List Setting) : Nat :=
  (settings.map weight).sum

theorem totalWeight_append_singleton (settings : List Setting) (setting : Setting) :
    totalWeight (settings ++ [setting]) = totalWeight settings + weight setting := by
  simp [totalWeight]

/-- The weight of the setting being read. -/
def Scan.credit : Scan → Nat
  | .between => 0
  | .inKeyword read => read.length
  | .afterKeyword keyword => keyword.length
  | .beforeValue keyword => keyword.length + 1
  | .inValue keyword read => keyword.length + 1 + read.length
  | .escaped keyword read => keyword.length + 1 + read.length
  | .inQuotes keyword read => keyword.length + 1 + read.length
  | .escapedInQuotes keyword read => keyword.length + 1 + read.length
  | .failed => 0

def Reader.credit (reader : Reader) : Nat :=
  totalWeight reader.settings + reader.scan.credit

/-- The scan is one of a text without quotes, escapes and idle blanks, and `word`
is what it has read since the last blank. -/
inductive Scan.Plain : Scan → Text → Prop where
  | between : Plain .between []
  | inKeyword {read : Text} : '=' ∉ read → Plain (.inKeyword read) read
  | beforeValue {keyword : Text} : '=' ∉ keyword → Plain (.beforeValue keyword) (keyword ++ ['='])
  | inValue {keyword read : Text} : '=' ∉ keyword → Bare read → read ≠ [] →
      Plain (.inValue keyword read) (render (keyword, read))

/-- The reader has read the words as settings without quotes. -/
structure Reader.Plain (reader : Reader) (words : Words) : Prop where
  complete : words.complete = reader.settings.map render
  bare : ∀ setting ∈ reader.settings, '=' ∉ setting.1 ∧ Bare setting.2 ∧ setting.2 ≠ []
  current : reader.scan.Plain words.current

/-- A letter adds one to the credit at most. -/
theorem Reader.credit_step (reader : Reader) (letter : Char) :
    (reader.step letter).credit ≤ reader.credit + 1 := by
  obtain ⟨settings, scan⟩ := reader
  unfold step
  -- Every branch keeps the letter, drops it, or ends a setting, whose blank it is.
  cases scan <;> dsimp only <;> (repeat' split) <;>
    simp only [credit, Scan.credit, totalWeight_append_singleton, weight, List.length_append,
      List.length_cons, List.length_nil] <;> omega

theorem Bare.append_singleton {value : Text} {letter : Char} (bare : Bare value)
    (nonempty : value ≠ []) (noBlank : isBlank letter = false) (noEscape : letter ≠ '\\') :
    Bare (value ++ [letter]) := by
  refine ⟨?_, ?_, ?_⟩
  · simpa [or_imp, forall_and, noBlank] using bare.noBlank
  · simpa [Ne.symm noEscape] using bare.noEscape
  · rw [List.head?_append_of_ne_nil _ nonempty]
    exact bare.noQuote

/-- A letter that adds one to the credit belongs to a text without quotes. -/
theorem Reader.Plain.step {reader : Reader} {words : Words} (plain : reader.Plain words)
    {letter : Char} (gain : (reader.step letter).credit = reader.credit + 1) :
    (reader.step letter).Plain (words.step letter) := by
  obtain ⟨settings, scan⟩ := reader
  obtain ⟨complete, current⟩ := words
  obtain ⟨rendered, bare, scanned⟩ := plain
  dsimp only at rendered bare scanned
  cases scanned with
  | between =>
      by_cases blank : isBlank letter = true
      · -- A blank between two settings is idle.
        simp [Reader.step, credit, Scan.credit, blank] at gain
      · by_cases equals : letter = '='
        · subst equals
          exact ⟨rendered, bare, .beforeValue (by simp)⟩
        · simp only [Reader.step, Words.step, if_neg blank, if_neg equals]
          exact ⟨rendered, bare, .inKeyword (by simpa using Ne.symm equals)⟩
  | inKeyword clean =>
      by_cases equals : letter = '='
      · subst equals
        exact ⟨rendered, bare, .beforeValue clean⟩
      · by_cases blank : isBlank letter = true
        · simp [Reader.step, credit, Scan.credit, blank, equals] at gain
        · simp only [Reader.step, Words.step, if_neg blank, if_neg equals]
          exact ⟨rendered, bare, .inKeyword (by simpa [clean] using Ne.symm equals)⟩
  | beforeValue clean =>
      by_cases blank : isBlank letter = true
      · simp [Reader.step, credit, Scan.credit, blank] at gain
      · by_cases quote : letter = '\''
        · subst quote
          simp [Reader.step, credit, Scan.credit, isBlank] at gain
        · by_cases escape : letter = '\\'
          · subst escape
            simp [Reader.step, credit, Scan.credit, isBlank] at gain
          · simp only [Reader.step, Words.step, if_neg blank, if_neg quote, if_neg escape]
            have single : Bare [letter] :=
              ⟨by simpa using blank, by simpa using Ne.symm escape, by simpa using quote⟩
            refine ⟨rendered, bare, ?_⟩
            simpa [render] using Scan.Plain.inValue clean single (List.cons_ne_nil _ _)
  | inValue clean valueBare nonempty =>
      by_cases blank : isBlank letter = true
      · simp only [Reader.step, Words.step, if_pos blank]
        refine ⟨by simp [rendered], ?_, .between⟩
        intro setting member
        rcases List.mem_append.mp member with before | last
        · exact bare setting before
        · obtain rfl := List.mem_singleton.mp last
          exact ⟨clean, valueBare, nonempty⟩
      · by_cases escape : letter = '\\'
        · subst escape
          simp [Reader.step, credit, Scan.credit, isBlank] at gain
        · simp only [Reader.step, Words.step, if_neg blank, if_neg escape]
          have longer := valueBare.append_singleton nonempty (by simpa using blank) escape
          refine ⟨rendered, bare, ?_⟩
          simpa [render] using Scan.Plain.inValue clean longer (by simp)

/-- Over a whole text the credit stays below the letters read, and a text that is
all credit has been read without quotes. -/
theorem Reader.run_credit {reader : Reader} {words : Words} {count : Nat}
    (bound : reader.credit ≤ count) (plain : reader.credit = count → reader.Plain words)
    (text : Text) :
    (text.foldl Reader.step reader).credit ≤ count + text.length ∧
      ((text.foldl Reader.step reader).credit = count + text.length →
        (text.foldl Reader.step reader).Plain (text.foldl Words.step words)) := by
  induction text generalizing reader words count with
  | nil => exact ⟨bound, plain⟩
  | cons letter rest inductionHypothesis =>
      have gained := reader.credit_step letter
      have nextPlain : (reader.step letter).credit = count + 1 →
          (reader.step letter).Plain (words.step letter) := by
        intro exact
        exact (plain (by omega)).step (by omega)
      have whole := inductionHypothesis (by omega) nextPlain
      rw [List.foldl_cons, List.foldl_cons, List.length_cons]
      rwa [Nat.add_assoc, Nat.add_comm 1] at whole

/-- The settings weigh no more than a text and one blank; if they weigh as much, they
are its words, read without quotes. -/
structure Weighed (settings : List Setting) (words : List Text) (length : Nat) : Prop where
  bound : totalWeight settings ≤ length + 1
  plain : totalWeight settings = length + 1 →
    words = settings.map render ∧
      (∀ setting ∈ settings, '=' ∉ setting.1 ∧ Bare setting.2) ∧
      ∀ setting ∈ settings.dropLast, setting.2 ≠ []

/-- The last setting ends with the text, so it lacks the blank it is weighed with. -/
theorem weighed_last {made : List Setting} {scan : Scan} {words : Words} {length : Nat}
    {keyword value : Text} (bound : Reader.credit ⟨made, scan⟩ ≤ length)
    (plain : Reader.credit ⟨made, scan⟩ = length → Reader.Plain ⟨made, scan⟩ words)
    (credit : scan.credit = keyword.length + 1 + value.length)
    (last : scan.Plain words.current →
      '=' ∉ keyword ∧ Bare value ∧ words.current = render (keyword, value)) :
    Weighed (made ++ [(keyword, value)]) words.all length := by
  have total : totalWeight (made ++ [(keyword, value)]) = Reader.credit ⟨made, scan⟩ + 1 := by
    rw [totalWeight_append_singleton]
    simp only [weight, Reader.credit, credit]
    omega
  refine ⟨by omega, fun exact => ?_⟩
  obtain ⟨rendered, bare, scanned⟩ := plain (by omega)
  obtain ⟨clean, valueBare, isLast⟩ := last scanned
  dsimp only at rendered bare
  refine ⟨by simp [Words.all, rendered, isLast], ?_, ?_⟩
  · intro setting member
    rw [List.mem_append, List.mem_singleton] at member
    rcases member with before | rfl
    · exact ⟨(bare setting before).1, (bare setting before).2.1⟩
    · exact ⟨clean, valueBare⟩
  · rw [List.dropLast_concat]
    exact fun setting member => (bare setting member).2.2

theorem read_weight {text : Text} {settings : List Setting} (ran : read text = some settings) :
    Weighed settings (text.foldl Words.step .start).all text.length := by
  have startPlain : Reader.start.Plain Words.start := ⟨rfl, by simp [Reader.start], .between⟩
  obtain ⟨bound, plain⟩ := Reader.run_credit (Nat.zero_le 0) (fun _ => startPlain) text
  rw [Nat.zero_add] at bound plain
  unfold read at ran
  generalize text.foldl Reader.step .start = reader at ran bound plain
  generalize text.foldl Words.step .start = words at plain
  obtain ⟨made, scan⟩ := reader
  cases scan with
  | between =>
      obtain rfl : made = settings := Option.some.inj ran
      have light : totalWeight made ≤ text.length := bound
      exact ⟨by omega, fun exact => by omega⟩
  | beforeValue keyword =>
      obtain rfl := Option.some.inj ran
      refine weighed_last bound plain rfl ?_
      intro scanned
      generalize words.current = word at scanned ⊢
      cases scanned with
      | beforeValue clean => exact ⟨clean, ⟨by simp, by simp, by simp⟩, rfl⟩
  | inValue keyword read =>
      obtain rfl := Option.some.inj ran
      refine weighed_last bound plain rfl ?_
      intro scanned
      generalize words.current = word at scanned ⊢
      cases scanned with
      | inValue clean valueBare nonempty => exact ⟨clean, valueBare, rfl⟩
  | escaped keyword read =>
      obtain rfl := Option.some.inj ran
      refine weighed_last bound plain rfl ?_
      rintro ⟨⟩
  | inKeyword read => cases ran
  | afterKeyword keyword => cases ran
  | inQuotes keyword read => cases ran
  | escapedInQuotes keyword read => cases ran
  | failed => cases ran

/-! ## Settings without quotes are read back -/

/-- The keywords are distinct, and each is a word without an equals sign. -/
structure WellNamed (settings : List Setting) : Prop where
  distinct : (settings.map Prod.fst).Nodup
  nonempty : ∀ setting ∈ settings, setting.1 ≠ []
  noEquals : ∀ setting ∈ settings, '=' ∉ setting.1
  noBlank : ∀ setting ∈ settings, ∀ letter ∈ setting.1, isBlank letter = false

/-- The values need no quotes. An empty one does, unless the text ends with it. -/
structure Writable (settings : List Setting) : Prop where
  bare : ∀ setting ∈ settings, Bare setting.2
  nonempty : ∀ setting ∈ settings.dropLast, setting.2 ≠ []

theorem WellNamed.tail {setting : Setting} {rest : List Setting}
    (named : WellNamed (setting :: rest)) : WellNamed rest where
  distinct := (List.nodup_cons.mp named.distinct).2
  nonempty := fun other member => named.nonempty other (.tail _ member)
  noEquals := fun other member => named.noEquals other (.tail _ member)
  noBlank := fun other member => named.noBlank other (.tail _ member)

theorem Reader.run_keyword {text : Text} (noEquals : '=' ∉ text)
    (noBlank : ∀ letter ∈ text, isBlank letter = false) (settings : List Setting) (read : Text) :
    text.foldl step ⟨settings, .inKeyword read⟩ = ⟨settings, .inKeyword (read ++ text)⟩ := by
  induction text generalizing read with
  | nil => simp
  | cons letter rest inductionHypothesis =>
      rw [List.mem_cons, not_or] at noEquals
      rw [List.forall_mem_cons] at noBlank
      have stepped : step ⟨settings, .inKeyword read⟩ letter =
          ⟨settings, .inKeyword (read ++ [letter])⟩ := by
        simp [step, Ne.symm noEquals.1, noBlank.1]
      rw [List.foldl_cons, stepped, inductionHypothesis noEquals.2 noBlank.2, List.append_assoc,
        List.singleton_append]

theorem Reader.run_value {text : Text} (noBlank : ∀ letter ∈ text, isBlank letter = false)
    (noEscape : '\\' ∉ text) (settings : List Setting) (keyword read : Text) :
    text.foldl step ⟨settings, .inValue keyword read⟩ =
      ⟨settings, .inValue keyword (read ++ text)⟩ := by
  induction text generalizing read with
  | nil => simp
  | cons letter rest inductionHypothesis =>
      rw [List.mem_cons, not_or] at noEscape
      rw [List.forall_mem_cons] at noBlank
      have stepped : step ⟨settings, .inValue keyword read⟩ letter =
          ⟨settings, .inValue keyword (read ++ [letter])⟩ := by
        simp [step, Ne.symm noEscape.1, noBlank.1]
      rw [List.foldl_cons, stepped, inductionHypothesis noBlank.2 noEscape.2, List.append_assoc,
        List.singleton_append]

/-- A bare setting leaves the reader in its value, or before it if it is empty. -/
theorem Reader.run_render {setting : Setting} (nonempty : setting.1 ≠ [])
    (noEquals : '=' ∉ setting.1) (noBlank : ∀ letter ∈ setting.1, isBlank letter = false)
    (bare : Bare setting.2) (settings : List Setting) :
    (render setting).foldl step ⟨settings, .between⟩ =
      ⟨settings, if setting.2 = [] then .beforeValue setting.1
        else .inValue setting.1 setting.2⟩ := by
  obtain ⟨keyword, value⟩ := setting
  have keywordRun : keyword.foldl step ⟨settings, .between⟩ = ⟨settings, .inKeyword keyword⟩ := by
    cases keyword with
    | nil => exact absurd rfl nonempty
    | cons letter rest =>
        dsimp only at noEquals noBlank
        rw [List.mem_cons, not_or] at noEquals
        rw [List.forall_mem_cons] at noBlank
        have stepped : step ⟨settings, .between⟩ letter = ⟨settings, .inKeyword [letter]⟩ := by
          simp [step, Ne.symm noEquals.1, noBlank.1]
        rw [List.foldl_cons, stepped, run_keyword noEquals.2 noBlank.2]
        rfl
  rw [render, List.foldl_append, keywordRun, List.foldl_cons]
  have equalsStep : step ⟨settings, .inKeyword keyword⟩ '=' = ⟨settings, .beforeValue keyword⟩ :=
    rfl
  rw [equalsStep]
  cases value with
  | nil => rfl
  | cons letter rest =>
      obtain ⟨noBlankValue, noEscape, noQuote⟩ := bare
      dsimp only at noBlankValue noEscape noQuote
      rw [List.forall_mem_cons] at noBlankValue
      rw [List.mem_cons, not_or] at noEscape
      have stepped : step ⟨settings, .beforeValue keyword⟩ letter =
          ⟨settings, .inValue keyword [letter]⟩ := by
        have unquoted : letter ≠ '\'' := by simpa using noQuote
        simp [step, noBlankValue.1, Ne.symm noEscape.1, unquoted]
      rw [List.foldl_cons, stepped, run_value noBlankValue.2 noEscape.2]
      rfl

theorem renderAll_cons_cons (first second : Setting) (rest : List Setting) :
    renderAll (first :: second :: rest) =
      render first ++ ' ' :: renderAll (second :: rest) := by
  simp [renderAll, List.intercalate_cons_cons]

theorem finish_renderAll {settings : List Setting} (nonempty : settings ≠ [])
    (named : WellNamed settings) (writable : Writable settings) (made : List Setting) :
    ((renderAll settings).foldl Reader.step ⟨made, .between⟩).finish = some (made ++ settings) := by
  induction settings generalizing made with
  | nil => exact absurd rfl nonempty
  | cons first rest inductionHypothesis =>
      have firstRun := Reader.run_render (named.nonempty first List.mem_cons_self)
        (named.noEquals first List.mem_cons_self) (named.noBlank first List.mem_cons_self)
        (writable.bare first List.mem_cons_self) made
      cases rest with
      | nil =>
          rw [renderAll, List.map_singleton, List.intercalate_singleton, firstRun]
          obtain ⟨keyword, value⟩ := first
          by_cases empty : value = []
          · subst empty
            rfl
          · simp [if_neg empty, Reader.finish]
      | cons second others =>
          have value : first.2 ≠ [] := writable.nonempty first (by simp)
          have rest : Writable (second :: others) := by
            refine ⟨fun other member => writable.bare other (.tail _ member), ?_⟩
            intro other member
            exact writable.nonempty other (by simp [List.dropLast_cons_cons, member])
          have closed : Reader.step ⟨made, .inValue first.1 first.2⟩ ' ' =
              ⟨made ++ [first], .between⟩ := rfl
          rw [renderAll_cons_cons, List.foldl_append, firstRun, if_neg value, List.foldl_cons,
            closed, inductionHypothesis (List.cons_ne_nil _ _) named.tail rest]
          simp

/-- Settings without blanks are the words of their text. -/
theorem words_renderAll {settings : List Setting} (nonempty : settings ≠ [])
    (noBlank : ∀ setting ∈ settings, ∀ letter ∈ render setting, isBlank letter = false)
    (complete : List Text) :
    ((renderAll settings).foldl Words.step ⟨complete, []⟩).all =
      complete ++ settings.map render := by
  induction settings generalizing complete with
  | nil => exact absurd rfl nonempty
  | cons first rest inductionHypothesis =>
      rw [List.forall_mem_cons] at noBlank
      have firstRun := Words.foldl_of_no_blank noBlank.1 ⟨complete, []⟩
      cases rest with
      | nil =>
          rw [renderAll, List.map_singleton, List.intercalate_singleton, firstRun]
          rfl
      | cons second others =>
          have closed : Words.step ⟨complete, [] ++ render first⟩ ' ' =
              ⟨complete ++ [render first], []⟩ := rfl
          rw [renderAll_cons_cons, List.foldl_append, firstRun, List.foldl_cons, closed,
            inductionHypothesis (List.cons_ne_nil _ _) noBlank.2]
          simp

theorem length_renderAll {settings : List Setting} (nonempty : settings ≠ []) :
    (renderAll settings).length + 1 = totalWeight settings := by
  induction settings with
  | nil => exact absurd rfl nonempty
  | cons first rest inductionHypothesis =>
      cases rest with
      | nil => simp [renderAll, render, totalWeight, weight, Nat.add_assoc]
      | cons second others =>
          have shorter := inductionHypothesis (List.cons_ne_nil _ _)
          have total : totalWeight (first :: second :: others) =
              weight first + totalWeight (second :: others) := rfl
          rw [renderAll_cons_cons, total, ← shorter]
          simp only [render, weight, List.length_append, List.length_cons]
          omega

/-- Every setting has weight, so a part as heavy as the whole is the whole. -/
theorem eq_of_sublist_of_totalWeight {part whole : List Setting} (sublist : part.Sublist whole) :
    totalWeight part ≤ totalWeight whole ∧
      (totalWeight whole ≤ totalWeight part → part = whole) := by
  induction sublist with
  | slnil => exact ⟨le_rfl, fun _ => rfl⟩
  | cons setting sublist inductionHypothesis =>
      have total (rest : List Setting) :
          totalWeight (setting :: rest) = weight setting + totalWeight rest := rfl
      have positive : 0 < weight setting := Nat.succ_pos _
      obtain ⟨lighter, -⟩ := inductionHypothesis
      rw [total]
      exact ⟨by omega, fun heavy => by omega⟩
  | cons_cons setting sublist inductionHypothesis =>
      obtain ⟨lighter, same⟩ := inductionHypothesis
      have total (rest : List Setting) :
          totalWeight (setting :: rest) = weight setting + totalWeight rest := rfl
      rw [total, total]
      exact ⟨by omega, fun heavy => by rw [same (by omega)]⟩

theorem map_render_injective {first second : List Setting}
    (firstClean : ∀ setting ∈ first, '=' ∉ setting.1)
    (secondClean : ∀ setting ∈ second, '=' ∉ setting.1)
    (same : first.map render = second.map render) : first = second := by
  induction first generalizing second with
  | nil => simpa using same
  | cons setting rest inductionHypothesis =>
      cases second with
      | nil => cases same
      | cons setting' rest' =>
          rw [List.forall_mem_cons] at firstClean secondClean
          rw [List.map_cons, List.map_cons, List.cons.injEq] at same
          obtain ⟨sameKeyword, sameValue⟩ :=
            append_cons_inj firstClean.1 secondClean.1 same.1
          rw [Prod.ext sameKeyword sameValue,
            inductionHypothesis firstClean.2 secondClean.2 same.2]

theorem settingOf_of_mem {settings : List Setting} (distinct : (settings.map Prod.fst).Nodup)
    {setting : Setting} (member : setting ∈ settings) :
    settingOf settings setting.1 = some setting.2 := by
  have reversed : (settings.reverse.map Prod.fst).Nodup := by
    rw [List.map_reverse, List.nodup_reverse]
    exact distinct
  unfold settingOf
  rw [find?_key_of_mem reversed (List.mem_reverse.mpr member)]
  rfl

theorem mem_of_settingOf {settings : List Setting} {keyword value : Text}
    (found : settingOf settings keyword = some value) : (keyword, value) ∈ settings := by
  obtain ⟨setting, search, rfl⟩ := Option.map_eq_some_iff.mp found
  obtain ⟨member, rfl⟩ := mem_of_find?_key search
  exact List.mem_reverse.mp member

/-- Settings written without quotes are read back just when none of them needs
quotes. -/
theorem decodes_renderAll_iff {expected : List Setting} (nonempty : expected ≠ [])
    (named : WellNamed expected) : Decodes (renderAll expected) expected ↔ Writable expected := by
  constructor
  · rintro ⟨settings, ran, same⟩
    have contained : expected ⊆ settings := by
      intro setting member
      apply mem_of_settingOf
      rw [same, settingOf_of_mem named.distinct member]
    obtain ⟨part, permutation, sublist⟩ := List.subperm_of_subset named.distinct.of_map contained
    have partWeight : totalWeight part = totalWeight expected :=
      (permutation.map weight).sum_eq
    obtain ⟨bound, plain⟩ := read_weight ran
    rw [length_renderAll nonempty, ← partWeight] at bound plain
    obtain ⟨lighter, whole⟩ := eq_of_sublist_of_totalWeight sublist
    obtain ⟨words, clean, valued⟩ := plain (le_antisymm bound lighter)
    have bare : ∀ setting ∈ expected, Bare setting.2 :=
      fun setting member => (clean setting (contained member)).2
    have noBlank : ∀ setting ∈ expected, ∀ letter ∈ render setting, isBlank letter = false := by
      intro setting member letter inText
      rcases List.mem_append.mp inText with inKeyword | inRest
      · exact named.noBlank setting member letter inKeyword
      · rcases List.mem_cons.mp inRest with rfl | inValue
        · rfl
        · exact (bare setting member).noBlank letter inValue
    have expectedWords := words_renderAll nonempty noBlank []
    rw [List.nil_append] at expectedWords
    have settingsEq : settings = expected :=
      map_render_injective (fun setting member => (clean setting member).1) named.noEquals
        (words.symm.trans expectedWords)
    exact ⟨bare, settingsEq ▸ valued⟩
  · intro writable
    exact ⟨expected, finish_renderAll nonempty named writable [], fun _ => rfl⟩

end QuantGateway.Foundation.Conninfo
