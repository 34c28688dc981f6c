import TxRelay.Metrics.Exposition
import TxRelay.Proofs.Decimal.Whole

/-!
# Reading the Exposition

A monitoring server reads the text line by line. A line with a type opens a family; the
samples below it belong to that family. A sample is read from left to right: its name,
its labels with their values in quotes, a space, and the number as text. In quotes a
backslash says that the next character stands for itself or, if it is an `n`, for the
end of a line.

Read this way the text gives back the families it was made of, whatever the values of
the labels are.

## Main definitions

* `Exposition.Draft`: How far a line has been read.
* `Exposition.Line`: What a line says.
* `Exposition.page`: The families of a text with their samples.
* `Exposition.linesAbout`: The lines of a text whose samples carry a label.
* `Family.Legible`: A family whose lines can be told apart.

## Theorems

* `Exposition.sample?_written`: A sample is read back.
* `Metrics.legible_families`: All families of the metrics are legible.
* `Metrics.page_exposition`: The text gives back the families it was made of.
* `Metrics.linesAbout_exposition`: The lines that carry a label.
-/

namespace TxRelay

namespace Exposition

/-- A sample as it is read. -/
structure Reading where
  /-- The name of the series. -/
  name : String
  /-- The labels with their values. -/
  labels : List (String × String)
  /-- The number, as text. -/
  value : String
  deriving DecidableEq

/-- How far a line has been read. -/
inductive Draft where
  /-- In the name. -/
  | name (name : List Char)
  /-- In a label. -/
  | key (name : List Char) (labels : List (String × String)) (key : List Char)
  /-- Behind the equals sign. -/
  | opening (name : List Char) (labels : List (String × String)) (key : List Char)
  /-- In the value of a label. -/
  | text (name : List Char) (labels : List (String × String)) (key text : List Char)
  /-- Behind a backslash. -/
  | escaped (name : List Char) (labels : List (String × String)) (key text : List Char)
  /-- Behind the closing quote. -/
  | closed (name : List Char) (labels : List (String × String))
  /-- Behind the labels. -/
  | gap (name : List Char) (labels : List (String × String))
  /-- In the number. -/
  | value (name : List Char) (labels : List (String × String)) (value : List Char)
  /-- At what is no sample. -/
  | lost

/-- Reads a character. -/
def Draft.next : Draft → Char → Draft
  | name n, c =>
    if c = '\x7b' then key n [] [] else if c = ' ' then value n [] [] else name (n ++ [c])
  | key n labels k, c => if c = '=' then opening n labels k else key n labels (k ++ [c])
  | opening n labels k, c => if c = '"' then text n labels k [] else lost
  | text n labels k t, c =>
    if c = '"' then closed n (labels ++ [(String.ofList k, String.ofList t)])
    else if c = '\\' then escaped n labels k t
    else text n labels k (t ++ [c])
  | escaped n labels k t, c => text n labels k (t ++ [if c = 'n' then '\n' else c])
  | closed n labels, c =>
    if c = ',' then key n labels [] else if c = '\x7d' then gap n labels else lost
  | gap n labels, c => if c = ' ' then value n labels [] else lost
  | value n labels v, c => value n labels (v ++ [c])
  | lost, _ => lost

/-- The sample in a line, if it is one. -/
def sample? (line : List Char) : Option Reading :=
  match line.foldl Draft.next (.name []) with
  | .value n labels v => some ⟨String.ofList n, labels, String.ofList v⟩
  | _ => none

/-- What a line says. -/
inductive Line where
  /-- The samples of a family follow. -/
  | family (name : String)
  /-- A sample. -/
  | sample (reading : Reading)
  /-- Nothing about a value. -/
  | remark

/-- What a line with a type begins with. -/
def typeMark : List Char := "# TYPE ".toList

/-- What a line says. -/
def Line.read (line : List Char) : Line :=
  if line.head? = some '#' then
    if typeMark.isPrefixOf line then
      .family (String.ofList ((line.drop typeMark.length).takeWhile (· != ' ')))
    else .remark
  else (sample? line).elim .remark .sample

/-- The samples at the front of some lines. -/
def samples : List Line → List Reading
  | .sample reading :: rest => reading :: samples rest
  | _ => []

/-- The families in some lines with the samples below each. -/
def families : List Line → List (String × List Reading)
  | [] => []
  | .family name :: rest => (name, samples rest) :: families rest
  | _ :: rest => families rest

/-- The lines of a text. -/
def linesOf (text : String) : List (List Char) :=
  text.toList.splitOn '\n'

/-- The families of a text with their samples. -/
def page (text : String) : List (String × List Reading) :=
  families ((linesOf text).map Line.read)

/-- Whether a label has a value among some labels. -/
def labelled (label value : String) (labels : List (String × String)) : Bool :=
  labels.lookup label == some value

/-- Whether a line is a sample that carries a label with a value. -/
def carries (label value : String) (line : List Char) : Bool :=
  match Line.read line with
  | .sample reading => labelled label value reading.labels
  | _ => false

/-- The lines of a text whose samples carry a label with a value. -/
def linesAbout (label value text : String) : List (List Char) :=
  (linesOf text).filter (carries label value)

/-- A character that names are made of. -/
def nameChar (c : Char) : Bool :=
  c.isAlphanum || c == '_'

/-- A text that names something. -/
def IsName (s : String) : Prop :=
  s ≠ "" ∧ s.toList.all nameChar

/-- A text that stays in its line. -/
def OneLine (s : String) : Prop :=
  '\n' ∉ s.toList

instance (s : String) : Decidable (IsName s) :=
  inferInstanceAs (Decidable (_ ∧ _))

instance (s : String) : Decidable (OneLine s) :=
  inferInstanceAs (Decidable (¬ _))

-- The characters of a name that is written out, which are quickly told.
theorem isName_ofList {l : List Char} (names : l ≠ [] ∧ l.all nameChar) :
    IsName (String.ofList l) := by
  refine ⟨fun empty => names.1 ?_, by rw [String.toList_ofList]; exact names.2⟩
  rw [← String.toList_ofList (l := l), empty]
  rfl

theorem oneLine_ofList {l : List Char} (none : '\n' ∉ l) : OneLine (String.ofList l) := by
  rwa [OneLine, String.toList_ofList]

section Samples

variable {n k : List Char} {labels : List (String × String)}

-- None of the characters that end a name belongs to it.
theorem ne_of_nameChar {c d : Char} (is : nameChar c) (not : nameChar d = false) : c ≠ d := by
  rintro rfl
  rw [is] at not
  cases not

-- What is gathered character by character is gathered whole.
theorem next_gather (draft : List Char → Draft) {cs : List Char}
    (step : ∀ t, ∀ c ∈ cs, (draft t).next c = draft (t ++ [c])) (t : List Char) :
    cs.foldl Draft.next (draft t) = draft (t ++ cs) := by
  induction cs generalizing t with
  | nil => rw [List.append_nil]; rfl
  | cons c cs ih =>
    rw [List.foldl_cons, step t c List.mem_cons_self,
      ih (fun t c mem => step t c (List.mem_cons_of_mem _ mem)), List.append_assoc]
    rfl

theorem next_name {cs : List Char} (names : ∀ c ∈ cs, nameChar c) :
    cs.foldl Draft.next (.name n) = .name (n ++ cs) := by
  refine next_gather Draft.name (fun t c mem => ?_) n
  rw [Draft.next, if_neg (ne_of_nameChar (names c mem) (by decide)),
    if_neg (ne_of_nameChar (names c mem) (by decide))]

theorem next_key {cs : List Char} (names : ∀ c ∈ cs, nameChar c) :
    cs.foldl Draft.next (.key n labels k) = .key n labels (k ++ cs) := by
  refine next_gather (Draft.key n labels) (fun t c mem => ?_) k
  rw [Draft.next, if_neg (ne_of_nameChar (names c mem) (by decide))]

theorem next_value {v cs : List Char} :
    cs.foldl Draft.next (.value n labels v) = .value n labels (v ++ cs) :=
  next_gather (Draft.value n labels) (fun _ _ _ => rfl) v

/-- A text in quotes is read back. -/
theorem next_escape {t cs : List Char} :
    (cs.flatMap escapeChar).foldl Draft.next (.text n labels k t) = .text n labels k (t ++ cs) := by
  induction cs generalizing t with
  | nil => rw [List.append_nil]; rfl
  | cons c cs ih =>
    have step : (escapeChar c).foldl Draft.next (.text n labels k t) =
        .text n labels k (t ++ [c]) := by
      unfold escapeChar
      by_cases backslash : c = '\\'
      · rw [backslash]; rfl
      by_cases feed : c = '\n'
      · rw [feed]; rfl
      by_cases quote : c = '"'
      · rw [quote]; rfl
      rw [if_neg backslash, if_neg feed, if_neg quote, List.foldl_cons, Draft.next, if_neg quote,
        if_neg backslash]
      rfl
    rw [List.flatMap_cons, List.foldl_append, step, ih, List.append_assoc]
    rfl

/-- A label with its value is read back. -/
theorem next_label (n : List Char) (labels : List (String × String)) (l : String × String)
    (isName : IsName l.1) :
    (l.1 ++ "=\"" ++ escape l.2 ++ "\"").toList.foldl Draft.next (.key n labels []) =
      .closed n (labels ++ [l]) := by
  have key : l.1.toList.foldl Draft.next (.key n labels []) = .key n labels l.1.toList :=
    next_key (List.all_eq_true.mp isName.2)
  have text : (escape l.2).toList.foldl Draft.next (.text n labels l.1.toList []) =
      .text n labels l.1.toList l.2.toList := by
    rw [escape, String.toList_ofList]
    exact next_escape
  have marks : "=\"".toList = ['=', '"'] ∧ "\"".toList = ['"'] := ⟨rfl, rfl⟩
  have opened : ['=', '"'].foldl Draft.next (.key n labels l.1.toList) =
      .text n labels l.1.toList [] := rfl
  simp only [String.toList_append, List.foldl_append, marks.1, marks.2, key, opened, text]
  rw [List.foldl_cons, List.foldl_nil, Draft.next, if_pos rfl, String.ofList_toList,
    String.ofList_toList]

/-- Labels between commas are read back. -/
theorem next_labels (n : List Char) (labels : List (String × String)) (l : String × String)
    (rest : List (String × String)) (areNames : ∀ m ∈ l :: rest, IsName m.1) :
    (String.intercalate ","
        ((l :: rest).map fun m => m.1 ++ "=\"" ++ escape m.2 ++ "\"")).toList.foldl
      Draft.next (.key n labels []) = .closed n (labels ++ l :: rest) := by
  induction rest generalizing labels l with
  | nil =>
    rw [List.map_singleton, String.toList_intercalate, List.map_singleton,
      List.intercalate_singleton]
    exact next_label n labels l (areNames l List.mem_cons_self)
  | cons m rest ih =>
    have here := next_label n labels l (areNames l List.mem_cons_self)
    have later := ih (labels ++ [l]) m fun k mem => areNames k (List.mem_cons_of_mem _ mem)
    rw [String.toList_intercalate] at later ⊢
    rw [List.map_cons, List.map_cons, List.map_cons, List.map_cons, List.intercalate_cons_cons,
      List.foldl_append, List.foldl_append, here]
    rw [List.append_assoc] at later
    exact later

/-- A sample is read back. -/
theorem sample?_written {name value : String} (isName : IsName name)
    (areNames : ∀ l ∈ labels, IsName l.1) :
    sample? (name ++ labelText labels ++ " " ++ value).toList = some ⟨name, labels, value⟩ := by
  have front : name.toList.foldl Draft.next (.name []) = .name name.toList :=
    next_name (List.all_eq_true.mp isName.2)
  have text : (labelText labels ++ " ").toList.foldl Draft.next (.name name.toList) =
      .value name.toList labels [] := by
    cases labels with
    | nil => rfl
    | cons l rest =>
      have braces := next_labels name.toList [] l rest areNames
      simp only [labelText, String.toList_append, List.foldl_append]
      exact congrArg (fun d => ("\x7d".toList ++ " ".toList).foldl Draft.next d) braces
  have read : (name ++ labelText labels ++ " " ++ value).toList.foldl Draft.next (.name []) =
      .value name.toList labels value.toList := by
    simp only [String.toList_append, List.foldl_append] at text ⊢
    rw [front, text, next_value]
    rfl
  rw [sample?, read]
  simp only [String.ofList_toList]

example :
    sample? "jobs\x7bkind=\"a\\\"b\"\x7d 2".toList = some ⟨"jobs", [("kind", "a\"b")], "2"⟩ := by
  decide

end Samples

section OneLine

variable {a b : String}

theorem oneLine_append : OneLine (a ++ b) ↔ OneLine a ∧ OneLine b := by
  rw [OneLine, String.toList_append, List.mem_append, not_or]
  rfl

theorem IsName.oneLine (isName : IsName a) : OneLine a :=
  fun mem => ne_of_nameChar (List.all_eq_true.mp isName.2 _ mem) (by decide) rfl

-- A line feed in the value of a label is written as two other characters.
theorem oneLine_escape (s : String) : OneLine (escape s) := by
  rw [OneLine, escape, String.toList_ofList]
  intro mem
  obtain ⟨c, -, mem⟩ := List.mem_flatMap.mp mem
  unfold escapeChar at mem
  split at mem
  · exact absurd mem (by decide)
  · split at mem
    · exact absurd mem (by decide)
    · rename_i feed
      split at mem
      · exact absurd mem (by decide)
      · exact feed (List.mem_singleton.mp mem).symm

theorem oneLine_intercalate {l : List String} (each : ∀ s ∈ l, OneLine s) :
    OneLine (String.intercalate "," l) := by
  induction l with
  | nil => decide
  | cons s rest ih =>
    have here := each s List.mem_cons_self
    cases rest with
    | nil => exact here
    | cons t rest =>
      have later := ih fun s mem => each s (List.mem_cons_of_mem _ mem)
      rw [OneLine, String.toList_intercalate, List.map_cons] at later ⊢
      rw [List.map_cons, List.intercalate_cons_cons, List.mem_append, List.mem_append, not_or,
        not_or]
      exact ⟨⟨here, by decide⟩, later⟩

theorem oneLine_labelText {labels : List (String × String)} (areNames : ∀ l ∈ labels, IsName l.1) :
    OneLine (labelText labels) := by
  cases labels with
  | nil => decide
  | cons l rest =>
    rw [labelText, oneLine_append, oneLine_append]
    · refine ⟨⟨by decide, oneLine_intercalate fun s mem => ?_⟩, by decide⟩
      obtain ⟨m, isLabel, rfl⟩ := List.mem_map.mp mem
      simp only [oneLine_append]
      exact ⟨⟨⟨(areNames m isLabel).oneLine, by decide⟩, oneLine_escape m.2⟩, by decide⟩
    · exact List.cons_ne_nil l rest

-- A double is written in one line.
theorem oneLine_render (x : Binary64) : OneLine x.render := by
  intro mem
  rcases Binary64.mem_render mem with digit | point
  · exact absurd digit (by decide)
  · exact absurd point (by decide)

theorem oneLine_natText (n : Nat) : OneLine (natText n) :=
  oneLine_render (.ofNat n)

theorem oneLine_intText (n : Int) : OneLine (intText n) := by
  unfold intText
  split
  · exact oneLine_append.mpr ⟨by decide, oneLine_natText n.natAbs⟩
  · exact oneLine_natText n.natAbs

/-- Lines that are one line each can be told apart. -/
theorem linesOf_join {l : List String} (each : ∀ s ∈ l, OneLine s) :
    linesOf (String.join (l.map (· ++ "\n"))) = l.map String.toList ++ [[]] := by
  rw [linesOf, String.toList_join]
  induction l with
  | nil => rfl
  | cons s rest ih =>
    rw [List.map_cons, List.flatMap_cons, String.toList_append, List.append_assoc]
    refine (List.splitOnP_append_cons_of_forall_mem (p := (· == '\n')) (fun c mem => ?_) '\n'
      rfl _).trans ?_
    · refine beq_eq_false_iff_ne.mpr fun feed => each s List.mem_cons_self (feed ▸ mem)
    · exact congrArg (s.toList :: ·) (ih fun s mem => each s (List.mem_cons_of_mem _ mem))

end OneLine

end Exposition

open Exposition

/-- A sample whose line can be read in a family of this name. -/
structure Sample.Legible (family : String) (s : Sample) : Prop where
  /-- The series has a name. -/
  series : IsName (family ++ s.suffix)
  /-- The labels have names. -/
  labels : ∀ l ∈ s.labels, IsName l.1
  /-- The number is written in one line. -/
  value : OneLine s.value

namespace Family

/-- A family whose lines can be told apart. -/
structure Legible (f : Family) : Prop where
  /-- The family has a name. -/
  name : IsName f.name
  /-- What it says stands in one line. -/
  help : OneLine f.help
  /-- So does its kind. -/
  kind : OneLine f.kind
  /-- The samples can be read. -/
  samples : ∀ s ∈ f.samples, s.Legible f.name

/-- A sample of a family as it is read. -/
def reading (f : Family) (s : Sample) : Reading :=
  ⟨f.name ++ s.suffix, s.labels, s.value⟩

/-- The line of a sample. -/
def line (f : Family) (s : Sample) : String :=
  f.name ++ s.suffix ++ labelText s.labels ++ " " ++ s.value

variable {f : Family} {s : Sample}

theorem lines_eq (f : Family) :
    lines f = ("# HELP " ++ f.name ++ " " ++ f.help) :: ("# TYPE " ++ f.name ++ " " ++ f.kind) ::
      f.samples.map f.line :=
  rfl

/-- Each line of a legible family is one line. -/
theorem Legible.oneLine_lines (legible : f.Legible) : ∀ line ∈ lines f, OneLine line := by
  have name := legible.name.oneLine
  rw [lines_eq]
  refine List.forall_mem_cons.mpr ⟨?_, List.forall_mem_cons.mpr ⟨?_, fun line mem => ?_⟩⟩
  · simp only [oneLine_append]
    exact ⟨⟨⟨by decide, name⟩, by decide⟩, legible.help⟩
  · simp only [oneLine_append]
    exact ⟨⟨⟨by decide, name⟩, by decide⟩, legible.kind⟩
  · obtain ⟨s, isSample, rfl⟩ := List.mem_map.mp mem
    have sample := legible.samples s isSample
    rw [Family.line, oneLine_append, oneLine_append, oneLine_append]
    exact ⟨⟨⟨sample.series.oneLine, oneLine_labelText sample.labels⟩, by decide⟩, sample.value⟩

theorem read_help (f : Family) :
    Line.read ("# HELP " ++ f.name ++ " " ++ f.help).toList = .remark := by
  rw [String.append_assoc, String.append_assoc, String.toList_append]
  rfl

theorem Legible.read_kind (legible : f.Legible) :
    Line.read ("# TYPE " ++ f.name ++ " " ++ f.kind).toList = .family f.name := by
  have mark : typeMark.isPrefixOf (typeMark ++ (f.name.toList ++ ' ' :: f.kind.toList)) :=
    List.isPrefixOf_iff_prefix.mpr (List.prefix_append _ _)
  have text : ("# TYPE " ++ f.name ++ " " ++ f.kind).toList =
      typeMark ++ (f.name.toList ++ ' ' :: f.kind.toList) := by
    simp only [String.append_assoc, String.toList_append]
    rfl
  have name : (f.name.toList ++ ' ' :: f.kind.toList).takeWhile (· != ' ') = f.name.toList := by
    rw [List.takeWhile_append_of_pos fun c mem => bne_iff_ne.mpr
      (ne_of_nameChar (List.all_eq_true.mp legible.name.2 c mem) (by decide))]
    exact List.append_nil _
  have hash : (typeMark ++ (f.name.toList ++ ' ' :: f.kind.toList)).head? = some '#' := rfl
  rw [text, Line.read, if_pos hash, if_pos mark, List.drop_left, name, String.ofList_toList]

theorem Legible.read_line (legible : f.Legible) (mem : s ∈ f.samples) :
    Line.read (f.line s).toList = .sample (f.reading s) := by
  have sample := legible.samples s mem
  -- The first character belongs to the name.
  have first : (f.line s).toList.head? ≠ some '#' := by
    obtain ⟨c, rest, text⟩ := List.exists_cons_of_ne_nil
      (mt String.toList_eq_nil_iff.mp sample.series.1)
    have named := List.all_eq_true.mp sample.series.2 c (text ▸ List.mem_cons_self)
    rw [Family.line, String.toList_append, String.toList_append, String.toList_append, text]
    exact fun same => ne_of_nameChar named (by decide) (Option.some.inj same)
  rw [Line.read, if_neg first, Family.line, sample?_written sample.series sample.labels]
  rfl

/-- Of the lines of a legible family only samples carry labels. -/
theorem Legible.filter_carries (legible : f.Legible) (label value : String) :
    ((lines f).map String.toList).filter (carries label value) =
      (f.samples.filter (labelled label value ·.labels)).map fun s => (f.line s).toList := by
  have help : carries label value ("# HELP " ++ f.name ++ " " ++ f.help).toList = false := by
    rw [carries, f.read_help]
  have kind : carries label value ("# TYPE " ++ f.name ++ " " ++ f.kind).toList = false := by
    rw [carries, legible.read_kind]
  have sample (s : Sample) (mem : s ∈ f.samples) :
      carries label value (f.line s).toList = labelled label value s.labels := by
    rw [carries, legible.read_line mem]
    rfl
  rw [f.lines_eq, List.map_cons, List.map_cons, List.filter_cons_of_neg (by rw [help]; decide),
    List.filter_cons_of_neg (by rw [kind]; decide), List.map_map, List.filter_map]
  exact congrArg _ (List.filter_congr sample)

end Family

namespace Exposition

-- The samples of a family are all that stands between its type and the next remark.
theorem samples_append (readings : List Reading) (rest : List Line) :
    samples (readings.map .sample ++ .remark :: rest) = readings := by
  induction readings with
  | nil => rfl
  | cons reading readings ih => exact congrArg (reading :: ·) ih

theorem families_append (readings : List Reading) (rest : List Line) :
    families (readings.map .sample ++ rest) = families rest := by
  induction readings with
  | nil => rfl
  | cons reading readings ih => exact ih

/-- Legible families are read back from their lines. -/
theorem families_lines {l : List Family} (legible : ∀ f ∈ l, f.Legible) :
    families ((l.flatMap lines).map (fun s => Line.read s.toList) ++ [.remark]) =
      l.map fun f => (f.name, f.samples.map f.reading) := by
  induction l with
  | nil => rfl
  | cons f rest ih =>
    have here := legible f List.mem_cons_self
    have read : f.samples.map ((fun s => Line.read s.toList) ∘ f.line) =
        (f.samples.map f.reading).map .sample := by
      rw [List.map_map]
      exact List.map_congr_left fun s mem => here.read_line mem
    -- What follows the samples is the help of the next family or the end.
    have follows : ∃ more, (rest.flatMap lines).map (fun s => Line.read s.toList) ++ [.remark] =
        .remark :: more := by
      cases rest with
      | nil => exact ⟨_, rfl⟩
      | cons g rest => exact ⟨_, congrArg (· :: _) g.read_help⟩
    obtain ⟨more, next⟩ := follows
    have later := ih fun f mem => legible f (List.mem_cons_of_mem _ mem)
    rw [next] at later
    rw [List.flatMap_cons, List.map_append, List.append_assoc, next, f.lines_eq, List.map_cons,
      List.map_cons, List.map_map, f.read_help, here.read_kind, read, List.cons_append,
      List.cons_append, families, families, samples_append, families_append, later]
    · rfl
    · exact fun _ other => Line.noConfusion other

theorem oneLine_lines {l : List Family} (legible : ∀ f ∈ l, f.Legible) :
    ∀ line ∈ l.flatMap lines, OneLine line := by
  intro line mem
  obtain ⟨f, mem, isLine⟩ := List.mem_flatMap.mp mem
  exact (legible f mem).oneLine_lines line isLine

/-- A text made of legible families gives them back. -/
theorem page_join {l : List Family} (legible : ∀ f ∈ l, f.Legible) :
    page (String.join ((l.flatMap lines).map (· ++ "\n"))) =
      l.map fun f => (f.name, f.samples.map f.reading) := by
  rw [page, linesOf_join (oneLine_lines legible), List.map_append, List.map_map]
  exact families_lines legible

/-- The lines of legible families that carry a label. -/
theorem linesAbout_join (label value : String) {l : List Family} (legible : ∀ f ∈ l, f.Legible) :
    linesAbout label value (String.join ((l.flatMap lines).map (· ++ "\n"))) =
      l.flatMap fun f => (f.samples.filter (labelled label value ·.labels)).map
        fun s => (f.line s).toList := by
  rw [linesAbout, linesOf_join (oneLine_lines legible), List.filter_append]
  refine (List.append_nil _).trans ?_
  induction l with
  | nil => rfl
  | cons f rest ih =>
    rw [List.flatMap_cons, List.map_append, List.filter_append, List.flatMap_cons,
      (legible f List.mem_cons_self).filter_carries,
      ih fun f mem => legible f (List.mem_cons_of_mem _ mem)]

end Exposition

namespace Metrics

section Kinds

variable {name help kind label : String}

-- Numbers under labels are legible if the family is.
theorem legible_perLabel {values : Labelled Nat} (isName : IsName name) (isHelp : OneLine help)
    (isKind : OneLine kind) (isLabel : IsName label) :
    (perLabel name help kind label values).Legible := by
  refine ⟨isName, isHelp, isKind, fun s mem => ?_⟩
  obtain ⟨v, -, rfl⟩ := List.mem_map.mp mem
  refine ⟨?_, fun l mem => ?_, oneLine_natText v.2⟩
  · exact (String.append_empty (s := name)).symm ▸ isName
  · exact List.mem_singleton.mp mem ▸ isLabel

theorem legible_plain {value : String} (isName : IsName name) (isHelp : OneLine help)
    (isKind : OneLine kind) (isValue : OneLine value) : (plain name help kind value).Legible := by
  refine ⟨isName, isHelp, isKind, fun s mem => ?_⟩
  rw [plain] at mem
  cases List.mem_singleton.mp mem
  refine ⟨?_, fun l mem => absurd mem List.not_mem_nil, isValue⟩
  exact (String.append_empty (s := name)).symm ▸ isName

-- The samples of histograms are legible.
theorem legible_histograms {values : Labelled Histogram} (isName : IsName name)
    (isHelp : OneLine help) (isKind : OneLine kind) (isLabel : IsName label)
    (series : IsName (name ++ "_bucket") ∧ IsName (name ++ "_sum") ∧ IsName (name ++ "_count")) :
    (Family.mk name help kind
      (values.flatMap fun v => histogramSamples label v.1 v.2)).Legible := by
  refine ⟨isName, isHelp, isKind, fun s mem => ?_⟩
  obtain ⟨v, -, mem⟩ := List.mem_flatMap.mp mem
  have single : ∀ l ∈ [(label, v.1)], IsName l.1 :=
    fun l mem => List.mem_singleton.mp mem ▸ isLabel
  have bound : IsName "le" := by decide
  have two (b : String) : ∀ l ∈ [(label, v.1), ("le", b)], IsName l.1 :=
    List.forall_mem_cons.mpr ⟨isLabel, fun l mem => List.mem_singleton.mp mem ▸ bound⟩
  rcases List.mem_append.mp mem with bucket | other
  · obtain ⟨b, -, rfl⟩ := List.mem_map.mp bucket
    exact ⟨series.1, two b.1.2, oneLine_natText b.2⟩
  · simp only [List.mem_cons, List.not_mem_nil, or_false] at other
    rcases other with rfl | rfl | rfl
    · exact ⟨series.1, two "+Inf", oneLine_natText v.2.count⟩
    · exact ⟨series.2.1, single, oneLine_render v.2.sum⟩
    · exact ⟨series.2.2, single, oneLine_natText v.2.count⟩

end Kinds

/-- All families of the metrics are legible. -/
theorem legible_families (m : Metrics) : ∀ f ∈ m.families, f.Legible := by
  suffices all : ∀ f ∈ m.allFamilies, f.Legible from
    fun f mem => all f (List.mem_filter.mp mem).1
  have chain : IsName "chain_id" := isName_ofList (by decide)
  have gauge : OneLine "gauge" := oneLine_ofList (by decide)
  have counter : OneLine "counter" := oneLine_ofList (by decide)
  have histogram : OneLine "histogram" := oneLine_ofList (by decide)
  simp only [allFamilies, List.forall_mem_cons, List.not_mem_nil, false_implies, implies_true,
    and_true]
  refine ⟨?_, ?_, ?_, ?_, ?_, ?_, ?_, ?_, ?_, ?_, ?_⟩
  · exact legible_perLabel (isName_ofList (by decide)) (oneLine_ofList (by decide)) gauge chain
  · exact legible_histograms (isName_ofList (by decide)) (oneLine_ofList (by decide)) histogram
      chain ⟨by decide, by decide, by decide⟩
  · exact legible_perLabel (isName_ofList (by decide)) (oneLine_ofList (by decide)) counter chain
  · exact legible_plain (isName_ofList (by decide)) (oneLine_ofList (by decide)) counter
      (oneLine_natText m.healthChecks)
  · exact legible_plain (isName_ofList (by decide)) (oneLine_ofList (by decide)) counter
      (oneLine_natText m.queryFailures)
  · exact legible_perLabel (isName_ofList (by decide)) (oneLine_ofList (by decide)) counter
      (isName_ofList (by decide))
  · exact legible_plain (isName_ofList (by decide)) (oneLine_ofList (by decide)) gauge
      (oneLine_intText m.queueDepth)
  · exact legible_perLabel (isName_ofList (by decide)) (oneLine_ofList (by decide)) counter
      (isName_ofList (by decide))
  · exact legible_plain (isName_ofList (by decide)) (oneLine_ofList (by decide)) counter
      (oneLine_natText m.sendFailures)
  · exact legible_perLabel (isName_ofList (by decide)) (oneLine_ofList (by decide)) counter chain
  · exact legible_perLabel (isName_ofList (by decide)) (oneLine_ofList (by decide)) counter chain

/-- The text gives back the families it was made of. -/
theorem page_exposition (m : Metrics) :
    page m.exposition = m.families.map fun f => (f.name, f.samples.map f.reading) :=
  page_join m.legible_families

/-- The lines that carry a label. -/
theorem linesAbout_exposition (label value : String) (m : Metrics) :
    linesAbout label value m.exposition =
      m.families.flatMap fun f => (f.samples.filter (labelled label value ·.labels)).map
        fun s => (f.line s).toList :=
  linesAbout_join label value m.legible_families

end Metrics

end TxRelay
